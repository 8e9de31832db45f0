import OgEvm.TokenPairRuns

/- Genesis of x/erc20. An export is imported again where the pairs, the two lists of
precompiles and the allowances fit together as `Validate` asks. -/
namespace OgEvm.Erc20

open ExceptFacts PartialMaps Relation

structure GenesisState where
  params : State.Params
  tokenPairs : List TokenPair
  allowances : List Allowance
  nativePrecompiles : List String
  dynamicPrecompiles : List String

/-- `utils.ValidateAddress`. -/
def validateAddress (address : String) : Except GoError Unit :=
  if isHexAddress address then .ok ()
  else .error (wrapError errInvalidAddress ("address '" ++ address ++ "' is not a valid ethereum hex address"))

def TokenPair.validate (pair : TokenPair) : Except GoError Unit := do
  validateDenom pair.denom
  validateAddress pair.erc20Address

def Allowance.validate (allowance : Allowance) : Except GoError Unit :=
  if !isHexAddress allowance.erc20Address then
    .error (wrapError errInvalidAddress ("invalid erc20 hex address " ++ allowance.erc20Address))
  else if !isHexAddress allowance.owner then
    .error (wrapError errInvalidAddress ("invalid owner hex address " ++ allowance.owner))
  else if !isHexAddress allowance.spender then
    .error (wrapError errInvalidAddress ("invalid sender hex address " ++ allowance.spender))
  else if allowance.value ≤ 0 then .error (wrapError errInvalidAllowance "invalid allowance value")
  else .ok ()

def hasActiveTokenPair (pairs : List TokenPair) (address : String) : Bool :=
  pairs.any fun pair => pair.erc20Address = address && pair.enabled

def validatePrecompiles (tokenPairs : List TokenPair) : List String → Except GoError Unit
  | [] => .ok ()
  | precompile :: rest =>
    if !hasActiveTokenPair tokenPairs precompile then
      .error (.other, "precompile address '" ++ precompile ++ "' not found in token pairs")
    else validatePrecompiles tokenPairs rest

namespace GenesisState

/-- The loop over the pairs, with the addresses and denominations seen so far. -/
def checkPairs : List TokenPair → (seenErc20 seenDenom : List String) → Except GoError Unit
  | [], _, _ => .ok ()
  | pair :: rest, seenErc20, seenDenom =>
    if pair.erc20Address ∈ seenErc20 then
      .error (.other, "token ERC20 contract duplicated on genesis '" ++ pair.erc20Address ++ "'")
    else if pair.denom ∈ seenDenom then
      .error (.other, "coin denomination duplicated on genesis: '" ++ pair.denom ++ "'")
    else do
      pair.validate
      checkPairs rest (pair.erc20Address :: seenErc20) (pair.denom :: seenDenom)

/-- The loop over the allowances, with the addresses of the pairs and the keys seen so far. -/
def checkAllowances (seenErc20 : List String) : List Allowance → (seenAllowance : List String) →
    Except GoError Unit
  | [], _ => .ok ()
  | allowance :: rest, seenAllowance =>
    let key := allowance.erc20Address ++ allowance.owner ++ allowance.spender
    if key ∈ seenAllowance then .error (.other, "duplicated allowance on genesis: " ++ key)
    else if allowance.erc20Address ∉ seenErc20 then
      .error (.other, "allowance has no corresponding token pair on genesis: " ++ allowance.erc20Address)
    else do
      (allowance.validate).mapError fun err => (err.1, "invalid allowance on genesis: " ++ err.2)
      checkAllowances seenErc20 rest (key :: seenAllowance)

def validate (gs : GenesisState) : Except GoError Unit := do
  checkPairs gs.tokenPairs [] []
  (validatePrecompiles gs.tokenPairs gs.dynamicPrecompiles).mapError fun err =>
    (err.1, "invalid dynamic precompiles on genesis: " ++ err.2)
  (validatePrecompiles gs.tokenPairs gs.nativePrecompiles).mapError fun err =>
    (err.1, "invalid native precompiles on genesis: " ++ err.2)
  checkAllowances (gs.tokenPairs.map TokenPair.erc20Address) gs.allowances []

end GenesisState

inductive InitPanic where
  /-- The erc20 module account has not been set. -/
  | moduleAccount
  | nativePrecompile (err : GoError)
  | dynamicPrecompile (err : GoError)
  | allowance (err : GoError)

variable {σ : Type}

namespace State

variable (env : KeeperEnv σ) (s : State σ)

/-- The pairs are set until one of them is refused. -/
def initTokenPairs (env : KeeperEnv σ) (s : State σ) : List TokenPair → State σ × Bool
  | [] => (s, true)
  | pair :: rest =>
    match s.kv.setToken env pair with
    | .error _ => (s, false)
    | .ok kv => initTokenPairs env { s with kv := kv } rest

def initAllowance (allowance : Allowance) : Except InitPanic (State σ) :=
  ((s.kv.unsafeSetAllowance env (hexToAddress allowance.erc20Address) (hexToAddress allowance.owner)
    (hexToAddress allowance.spender) (some allowance.value)).mapError .allowance).map fun kv => { s with kv := kv }

def initNative (precompile : String) : Except InitPanic (State σ) :=
  (s.enableNativePrecompile env (hexToAddress precompile)).mapError .nativePrecompile

def initDynamic (precompile : String) : Except InitPanic (State σ) :=
  (s.enableDynamicPrecompile env (hexToAddress precompile)).mapError .dynamicPrecompile

/-- `InitGenesis` returns without a word where a pair is refused. -/
def initGenesis (data : GenesisState) : Except InitPanic (State σ) :=
  let s := s.setParams data.params
  match env.vm.bank.moduleAddress moduleName with
  | none => .error .moduleAccount
  | some _ =>
    match s.initTokenPairs env data.tokenPairs with
    | (s, false) => .ok s
    | (s, true) => do
      let s ← data.nativePrecompiles.foldlM (initNative env) s
      let s ← data.dynamicPrecompiles.foldlM (initDynamic env) s
      data.allowances.foldlM (initAllowance env) s

end State

/-- The keys that the iterators over the prefix stores visit. -/
structure KVStore.Iterators (kv : KVStore) where
  pairs : List Bytes
  allowances : List Bytes
  natives : List String
  dynamics : List String
  mem_pairs : ∀ id, id ∈ pairs ↔ (kv.tokenPairs id).isSome
  mem_allowances : ∀ key, key ∈ allowances ↔ (kv.allowances key).isSome
  mem_natives : ∀ text, text ∈ natives ↔ kv.nativePrecompiles text = true
  mem_dynamics : ∀ text, text ∈ dynamics ↔ kv.dynamicPrecompiles text = true
  pairs_nodup : pairs.Nodup
  allowances_nodup : allowances.Nodup

def KVStore.exportGenesis (kv : KVStore) (iterators : kv.Iterators) : GenesisState where
  params := ⟨kv.enableErc20, kv.permissionlessRegistration⟩
  tokenPairs := iterators.pairs.filterMap kv.tokenPairs
  allowances := iterators.allowances.filterMap kv.allowances
  nativePrecompiles := iterators.natives
  dynamicPrecompiles := iterators.dynamics

section

variable {env : KeeperEnv σ} {kv kv' : KVStore} {pair : TokenPair} {s t : State σ}

/-! Precompiles and the pairs behind them. -/

/-- An address answers as a precompile, of either kind. -/
def KVStore.listed (kv : KVStore) (text : String) : Bool :=
  kv.nativePrecompiles text || kv.dynamicPrecompiles text

/-- A stored pair that is enabled has this address. -/
def KVStore.Backs (kv : KVStore) (text : String) : Prop :=
  ∃ id pair, kv.tokenPairs id = some pair ∧ pair.erc20Address = text ∧ pair.enabled = true

def KVStore.Live (kv : KVStore) : Prop := ∀ text, kv.listed text = true → kv.Backs text

/-- The pair's contract is not a precompile. -/
def Unlisted (env : KeeperEnv σ) (kv : KVStore) (pair : TokenPair) : Prop :=
  kv.isNativePrecompileAvailable env pair.getERC20Contract = false ∧
    kv.isDynamicPrecompileAvailable env pair.getERC20Contract = false

theorem Unlisted.not_listed (unlisted : Unlisted env kv pair) (spelled : pair.Spelled env) :
    kv.listed pair.erc20Address = false := by
  rw [spelled]
  exact Bool.or_eq_false_iff.mpr unlisted

/-- A new entry of one of the lists is the address of the enabled pair it is made for. -/
theorem Live.listing {id : Bytes} (live : kv.Live) (pairs : kv'.tokenPairs = kv.tokenPairs)
    (stored : kv.tokenPairs id = some pair) (spelled : pair.Spelled env) (enabled : pair.enabled = true)
    (listing : ∀ text, kv'.listed text = true → text = addressHex env.vm pair.getERC20Contract ∨
      kv.listed text = true) : kv'.Live := by
  intro text listed
  unfold KVStore.Backs
  rw [pairs]
  rcases listing text listed with rfl | before
  · exact ⟨id, pair, stored, spelled, enabled⟩
  · exact live text before

/-- Pairs that no listed address stands for may change. -/
theorem Live.pairsChanged (live : kv.Live) (lists : ∀ text, kv'.listed text = kv.listed text)
    (kept : ∀ id pair, kv.tokenPairs id = some pair → kv.listed pair.erc20Address = true →
      kv'.tokenPairs id = some pair) : kv'.Live := by
  intro text listed
  rw [lists] at listed
  obtain ⟨id, pair, stored, rfl, enabled⟩ := live text listed
  exact ⟨id, pair, kept id pair stored listed, rfl, enabled⟩

/-- An unlisted pair may change. -/
theorem Live.pairUpdated {id : Bytes} (live : kv.Live) (kept : Kept env kv) (stored : kv.tokenPairs id = some pair)
    (unlisted : Unlisted env kv pair) (lists : ∀ text, kv'.listed text = kv.listed text)
    (elsewhere : ∀ read, read ≠ pair.getID env → kv'.tokenPairs read = kv.tokenPairs read) : kv'.Live := by
  have hidden := unlisted.not_listed (kept.spelled id pair stored)
  refine Live.pairsChanged live lists fun read held storedHeld listed => ?_
  refine (elsewhere read fun same => ?_).trans storedHeld
  have place : read = id := same.trans (kept.indexed.keyed id pair stored).symm
  rw [place, stored] at storedHeld
  cases storedHeld
  rw [hidden] at listed
  cases listed

theorem Live.change (live : kv.Live) (injective : Function.Injective env.sum) (kept : Kept env kv)
    (change : Change env (Unlisted env) kv kv') : kv'.Live := by
  cases change with
  | params => exact live
  | register pair spelled valid freshDenom freshContract =>
    have fresh := kept.fresh injective spelled freshContract
    refine Live.pairsChanged live (fun _ => rfl) fun id held stored _ => ?_
    rw [KVStore.withPair_tokenPairs]
    exact update_kept fresh stored
  | native id pair stored enabled =>
    refine Live.listing live rfl stored (kept.spelled id pair stored) enabled fun text listed => ?_
    by_cases here : text = addressHex env.vm pair.getERC20Contract
    · exact Or.inl here
    · simp only [KVStore.listed, KVStore.setNativePrecompile, Function.update_of_ne here] at listed
      exact Or.inr listed
  | dynamic id pair stored enabled =>
    refine Live.listing live rfl stored (kept.spelled id pair stored) enabled fun text listed => ?_
    by_cases here : text = addressHex env.vm pair.getERC20Contract
    · exact Or.inl here
    · simp only [KVStore.listed, KVStore.setDynamicPrecompile, Function.update_of_ne here] at listed
      exact Or.inr listed
  | toggle id pair stored allowed =>
    exact Live.pairUpdated live kept stored allowed (fun _ => rfl) fun _ other => Function.update_of_ne other _ _
  | delete id pair stored allowed =>
    exact Live.pairUpdated live kept stored allowed (fun _ => rfl) fun _ other => Function.update_of_ne other _ _
  | revoke => exact live
  | allow => exact live

theorem Live.changes (live : kv.Live) (injective : Function.Injective env.sum) (kept : Kept env kv)
    (changes : Changes env (Unlisted env) kv kv') : kv'.Live := by
  induction changes with
  | refl => exact live
  | tail earlier change ih => exact Live.change ih injective (kept.changes injective earlier) change

/-! The first genesis. -/

theorem GenesisState.checkPairs_facts {pairs : List TokenPair} {seenErc20 seenDenom : List String}
    (checked : checkPairs pairs seenErc20 seenDenom = .ok ()) :
    (∀ pair ∈ pairs, validateDenom pair.denom = .ok () ∧ isHexAddress pair.erc20Address = true ∧
      pair.denom ∉ seenDenom) ∧ (pairs.map TokenPair.denom).Nodup := by
  induction pairs generalizing seenErc20 seenDenom with
  | nil => simp
  | cons pair rest ih =>
    unfold checkPairs at checked
    obtain ⟨-, checked⟩ := ite_error_ok checked
    obtain ⟨new, checked⟩ := ite_error_ok checked
    obtain ⟨_, validated, others⟩ := bind_ok checked
    obtain ⟨_, valid, addressed⟩ := bind_ok validated
    have hex : isHexAddress pair.erc20Address = true := by
      by_contra plain
      unfold validateAddress at addressed
      rw [if_neg plain] at addressed
      cases addressed
    obtain ⟨later, apart⟩ := ih others
    refine ⟨List.forall_mem_cons.mpr ⟨⟨valid, hex, new⟩, ?_⟩, ?_⟩
    · intro other member
      obtain ⟨otherValid, otherHex, unseen⟩ := later other member
      exact ⟨otherValid, otherHex, fun seen => unseen (List.mem_cons_of_mem _ seen)⟩
    · refine List.nodup_cons.mpr ⟨fun member => ?_, apart⟩
      obtain ⟨other, inside, same⟩ := List.mem_map.mp member
      obtain ⟨-, -, unseen⟩ := later other inside
      exact unseen (same ▸ List.mem_cons_self)

theorem validatePrecompiles_ok {pairs : List TokenPair} {precompiles : List String}
    (checked : validatePrecompiles pairs precompiles = .ok ()) :
    ∀ text ∈ precompiles, ∃ pair ∈ pairs, pair.erc20Address = text ∧ pair.enabled = true := by
  induction precompiles with
  | nil => simp
  | cons text rest ih =>
    unfold validatePrecompiles at checked
    split at checked
    · cases checked
    · rename_i active
      refine List.forall_mem_cons.mpr ⟨?_, ih checked⟩
      simpa [hasActiveTokenPair] using active

/-- The pairs of a genesis are registered one by one; those that were stored stay. -/
theorem State.initTokenPairs_changes {quiet : KVStore → TokenPair → Prop} {pairs : List TokenPair}
    {complete : Bool} (injective : Function.Injective env.sum) (kept : Kept env s.kv)
    (spelled : ∀ pair ∈ pairs, pair.Spelled env) (valid : ∀ pair ∈ pairs, validateDenom pair.denom = .ok ())
    (run : s.initTokenPairs env pairs = (t, complete)) : Changes env quiet s.kv t.kv ∧
      (∀ id pair, s.kv.tokenPairs id = some pair → t.kv.tokenPairs id = some pair) ∧
      (complete = true → ∀ pair ∈ pairs, t.kv.tokenPairs (pair.getID env) = some pair) := by
  induction pairs generalizing s with
  | nil =>
    cases run
    exact ⟨ReflTransGen.refl, fun _ _ stored => stored, fun _ => by simp⟩
  | cons pair rest ih =>
    obtain ⟨headSpelled, restSpelled⟩ := List.forall_mem_cons.mp spelled
    obtain ⟨headValid, restValid⟩ := List.forall_mem_cons.mp valid
    unfold State.initTokenPairs at run
    split at run
    · cases run
      exact ⟨ReflTransGen.refl, fun _ _ stored => stored, nofun⟩
    · rename_i kv set
      obtain ⟨freshDenom, freshContract, rfl⟩ := KVStore.setToken_ok set
      have registered : Change env quiet s.kv (s.kv.withPair env pair) :=
        .register _ _ headSpelled headValid freshDenom freshContract
      have fresh := kept.fresh injective headSpelled freshContract
      obtain ⟨later, stays, all⟩ := ih (kept.change injective registered) restSpelled restValid run
      refine ⟨ReflTransGen.head registered later, fun id held stored => ?_, fun done => ?_⟩
      · apply stays
        rw [KVStore.withPair_tokenPairs]
        exact update_kept fresh stored
      · refine List.forall_mem_cons.mpr ⟨stays _ _ ?_, all done⟩
        rw [KVStore.withPair_tokenPairs, Function.update_self]

/-- An accepted genesis is imported by changes of the store, if it spells its addresses as
the keeper does. -/
theorem State.initGenesis_changes {quiet : KVStore → TokenPair → Prop} {data : GenesisState}
    (injective : Function.Injective env.sum) (nothing : s.kv = .empty) (accepted : data.validate = .ok ())
    (spelled : ∀ pair ∈ data.tokenPairs, pair.Spelled env) (imported : s.initGenesis env data = .ok t) :
    Changes env quiet .empty t.kv := by
  obtain ⟨_, pairsChecked, accepted⟩ := bind_ok accepted
  obtain ⟨_, dynamicChecked, accepted⟩ := bind_ok accepted
  obtain ⟨_, nativeChecked, -⟩ := bind_ok accepted
  have valid := fun pair member => ((GenesisState.checkPairs_facts pairsChecked).1 pair member).1
  have dynamics := validatePrecompiles_ok (mapError_ok dynamicChecked)
  have natives := validatePrecompiles_ok (mapError_ok nativeChecked)
  have opened : Change env quiet .empty (s.setParams data.params).kv := by
    unfold State.setParams
    rw [nothing]
    exact .params .empty data.params.enableErc20 data.params.permissionlessRegistration
  have openedKept := (Kept.empty env).change injective opened
  unfold State.initGenesis at imported
  dsimp only at imported
  split at imported
  · cases imported
  · split at imported
    · rename_i u run
      cases imported
      obtain ⟨pairs, -⟩ := State.initTokenPairs_changes injective openedKept spelled valid run
      exact ReflTransGen.head opened pairs
    · rename_i u run
      obtain ⟨pairs, -, all⟩ := State.initTokenPairs_changes injective openedKept spelled valid run
      have stored := all rfl
      obtain ⟨v, nativeRun, imported⟩ := bind_ok imported
      obtain ⟨w, dynamicRun, allowanceRun⟩ := bind_ok imported
      -- the precompiles find the pairs of the genesis in place
      have afterNative : Changes env quiet .empty v.kv ∧ v.kv.tokenPairs = u.kv.tokenPairs := by
        refine foldlM_invariant (fun v : State σ => Changes env quiet .empty v.kv ∧
          v.kv.tokenPairs = u.kv.tokenPairs) ?_ ⟨ReflTransGen.head opened pairs, rfl⟩ nativeRun
        rintro text member before after ⟨changes, same⟩ step
        obtain ⟨pair, inside, rfl, enabled⟩ := natives text member
        rw [State.enableNativePrecompile_kv (mapError_ok step)]
        refine ⟨changes.tail (.native _ (pair.getID env) pair ?_ enabled), same⟩
        rw [same]
        exact stored pair inside
      have afterDynamic : Changes env quiet .empty w.kv ∧ w.kv.tokenPairs = u.kv.tokenPairs := by
        refine foldlM_invariant (fun v : State σ => Changes env quiet .empty v.kv ∧
          v.kv.tokenPairs = u.kv.tokenPairs) ?_ afterNative dynamicRun
        rintro text member before after ⟨changes, same⟩ step
        obtain ⟨pair, inside, rfl, enabled⟩ := dynamics text member
        rw [State.enableDynamicPrecompile_kv (mapError_ok step)]
        refine ⟨changes.tail (.dynamic _ (pair.getID env) pair ?_ enabled), same⟩
        rw [same]
        exact stored pair inside
      refine foldlM_invariant (fun v : State σ => Changes env quiet .empty v.kv) ?_ afterDynamic.1 allowanceRun
      intro allowance _ before after changes step
      obtain ⟨kv, set, rfl⟩ := map_ok step
      have allowed : Change env quiet before.kv kv := KVStore.putAllowance_change (mapError_ok set)
      exact changes.tail allowed

end

end OgEvm.Erc20
