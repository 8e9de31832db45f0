import OgEvm.Erc20Genesis

/- What `InitGenesis` of x/erc20 leaves in the store. `Validate` tells addresses apart by their
text and the store by their bytes, so that an accepted genesis may name one twice. -/
namespace OgEvm.Erc20

open ExceptFacts PartialMaps

variable {σ : Type} {env : KeeperEnv σ} {kv : KVStore} {pair : TokenPair} {s t : State σ}

/-! The pairs. -/

/-- The store holds these pairs under their ids, and no others. -/
structure PairsOf (env : KeeperEnv σ) (kv : KVStore) (pairs : List TokenPair) : Prop where
  indexed : Indexed env kv
  stored : ∀ id pair, kv.tokenPairs id = some pair ↔ pair ∈ pairs ∧ id = pair.getID env

/-- Only pairs and maps differ. -/
def KVStore.PairsOnly (before after : KVStore) : Prop :=
  after = { before with
    tokenPairs := after.tokenPairs, erc20Map := after.erc20Map, denomMap := after.denomMap }

section

variable {done pairs : List TokenPair}

theorem PairsOf.denom (holds : PairsOf env kv done) (taken : kv.isDenomRegistered pair.denom = true) :
    pair.denom ∈ done.map TokenPair.denom := by
  obtain ⟨id, mapped⟩ := Option.isSome_iff_exists.mp taken
  obtain ⟨other, stored, same⟩ := holds.indexed.denom_only _ id mapped
  exact List.mem_map.mpr ⟨other, ((holds.stored id other).mp stored).1, same⟩

theorem PairsOf.contract (holds : PairsOf env kv done) : kv.isERC20Registered pair.getERC20Contract = true ↔
      pair.getERC20Contract ∈ done.map TokenPair.getERC20Contract := by
  constructor
  · intro taken
    obtain ⟨id, mapped⟩ := Option.isSome_iff_exists.mp taken
    obtain ⟨other, stored, same⟩ := holds.indexed.erc20_only _ id mapped
    exact List.mem_map.mpr ⟨other, ((holds.stored id other).mp stored).1, same⟩
  · intro member
    obtain ⟨other, inside, same⟩ := List.mem_map.mp member
    have mapped := holds.indexed.erc20 _ other ((holds.stored _ other).mpr ⟨inside, rfl⟩)
    unfold KVStore.isERC20Registered
    rw [← same, mapped]
    rfl

theorem PairsOf.set (holds : PairsOf env kv done) (injective : Function.Injective env.sum)
    (hex : ∀ pair ∈ done, isHexAddress pair.erc20Address = true) (own : isHexAddress pair.erc20Address = true)
    (freshDenom : kv.denomMap pair.denom = none) (freshContract : kv.erc20Map pair.getERC20Contract = none) :
    PairsOf env (kv.withPair env pair) (done ++ [pair]) := by
  have fresh := holds.indexed.fresh injective own
    (fun id other stored => hex other ((holds.stored id other).mp stored).1) freshContract
  refine ⟨holds.indexed.register fresh freshDenom freshContract, fun id other => ?_⟩
  rw [KVStore.withPair_tokenPairs, List.mem_append, List.mem_singleton]
  constructor
  · intro here
    rcases update_some here with ⟨rfl, rfl⟩ | ⟨-, before⟩
    · exact ⟨Or.inr rfl, rfl⟩
    · obtain ⟨inside, place⟩ := (holds.stored id other).mp before
      exact ⟨Or.inl inside, place⟩
  · rintro ⟨inside | rfl, rfl⟩
    · exact update_kept fresh ((holds.stored _ other).mpr ⟨inside, rfl⟩)
    · exact Function.update_self ..

/-- The loop over the pairs ends early exactly where a contract comes up again, and the pair
that names it is then missing. -/
theorem State.initTokenPairs_spec {complete : Bool} (injective : Function.Injective env.sum)
    (holds : PairsOf env s.kv done) (hex : ∀ pair ∈ done ++ pairs, isHexAddress pair.erc20Address = true)
    (denoms : ((done ++ pairs).map TokenPair.denom).Nodup)
    (apart : (done.map TokenPair.getERC20Contract).Nodup) (run : s.initTokenPairs env pairs = (t, complete)) :
    t.evm = s.evm ∧ s.kv.PairsOnly t.kv ∧ ((complete = true ∧ ((done ++ pairs).map TokenPair.getERC20Contract).Nodup ∧
          PairsOf env t.kv (done ++ pairs)) ∨
        (complete = false ∧ ¬ ((done ++ pairs).map TokenPair.getERC20Contract).Nodup ∧
          ∃ pair ∈ pairs, t.kv.tokenPairs (pair.getID env) ≠ some pair)) := by
  induction pairs generalizing s done with
  | nil =>
    cases run
    rw [List.append_nil]
    exact ⟨rfl, rfl, Or.inl ⟨rfl, apart, holds⟩⟩
  | cons pair rest ih =>
    have newDenom : pair.denom ∉ done.map TokenPair.denom := by
      rw [List.map_append] at denoms
      intro member
      exact (List.nodup_append.mp denoms).2.2 _ member _ (List.mem_map_of_mem List.mem_cons_self) rfl
    have grouped : done ++ pair :: rest = done ++ [pair] ++ rest := by simp
    unfold State.initTokenPairs KVStore.setToken at run
    rw [if_neg fun taken => newDenom (holds.denom taken)] at run
    by_cases again : s.kv.isERC20Registered pair.getERC20Contract = true
    · rw [if_pos again] at run
      cases run
      refine ⟨rfl, rfl, Or.inr ⟨rfl, ?_, pair, List.mem_cons_self, ?_⟩⟩
      · rw [List.map_append]
        intro nodup
        exact (List.nodup_append.mp nodup).2.2 _ (holds.contract.mp again) _
          (List.mem_map_of_mem List.mem_cons_self) rfl
      · intro stored
        exact newDenom (List.mem_map_of_mem ((holds.stored _ pair).mp stored).1)
    · have freshContract : s.kv.erc20Map pair.getERC20Contract = none := by
        simpa [KVStore.isERC20Registered] using again
      have freshDenom : s.kv.denomMap pair.denom = none := by
        by_contra taken
        exact newDenom (holds.denom (Option.isSome_iff_ne_none.mpr taken))
      rw [if_neg again] at run
      have own := hex pair (by simp)
      have set := holds.set injective (fun other member => hex other (List.mem_append_left _ member)) own
        freshDenom freshContract
      have apartNext : ((done ++ [pair]).map TokenPair.getERC20Contract).Nodup := by
        rw [List.map_append, List.nodup_append]
        refine ⟨apart, List.nodup_singleton _, fun contract member other last same => ?_⟩
        rw [List.map_singleton, List.mem_singleton] at last
        rw [same, last] at member
        exact again (holds.contract.mpr member)
      rw [grouped] at hex denoms ⊢
      obtain ⟨evm, only, outcome⟩ := ih (s := { s with kv := s.kv.withPair env pair }) set hex denoms apartNext run
      refine ⟨evm, ?_, ?_⟩
      · unfold KVStore.PairsOnly at only ⊢
        rw [only]
        rfl
      · rcases outcome with whole | ⟨early, twice, missing, member, absent⟩
        · exact Or.inl whole
        · exact Or.inr ⟨early, twice, missing, List.mem_cons_of_mem _ member, absent⟩

end

/-! The precompiles. -/

/-- x/vm writes the account of a precompile, in the states it can be in. -/
def RegistersCode (env : KeeperEnv σ) (sound : σ → Prop) : Prop :=
  ∀ (s : State σ) (addr : Address), sound s.evm →
    ∃ t, s.registerERC20CodeHash env addr = .ok t ∧ sound t.evm

/-- The text under which the keeper stores the address that a text stands for. -/
def keeperText (env : KeeperEnv σ) (text : String) : String := addressHex env.vm (hexToAddress text)

section

variable {sound : σ → Prop}

/-- A loop that lists the addresses of its texts, over the part of the store it writes. -/
theorem State.lists_all (texts : List String) (list : KVStore → String → Bool)
    (write : KVStore → (String → Bool) → KVStore) {step : State σ → String → Except InitPanic (State σ)}
    (reads : ∀ kv new, list (write kv new) = new) (same : ∀ kv, write kv (list kv) = kv)
    (again : ∀ kv first second, write (write kv first) second = write kv second)
    (lists : ∀ s text, sound s.evm → ∃ t, step s text = .ok t ∧ sound t.evm ∧
      t.kv = write s.kv (Function.update (list s.kv) (keeperText env text) true)) (start : sound s.evm) :
    ∃ t, texts.foldlM step s = .ok t ∧ sound t.evm ∧
      t.kv = write s.kv fun read => decide (read ∈ texts.map (keeperText env)) || list s.kv read := by
  induction texts generalizing s with
  | nil => exact ⟨s, rfl, start, by simp [same]⟩
  | cons text rest ih =>
    obtain ⟨u, stepped, next, written⟩ := lists s text start
    obtain ⟨t, run, after, later⟩ := ih next
    refine ⟨t, ?_, after, ?_⟩
    · rw [List.foldlM_cons, bind_of_ok stepped]
      exact run
    · rw [later, written, reads, again]
      congr 1
      funext read
      by_cases here : read = keeperText env text
      · simp [here]
      · simp [here]

variable (registers : RegistersCode env sound)
include registers

theorem RegistersCode.unlisted (listed : Bool) (addr : Address) (start : sound s.evm) :
    ∃ t, (if listed then pure s else s.registerERC20CodeHash env addr) = .ok t ∧ sound t.evm := by
  split
  · exact ⟨s, rfl, start⟩
  · exact registers s addr start

theorem State.initNative_lists (s : State σ) (text : String) (start : sound s.evm) :
    ∃ t, s.initNative env text = .ok t ∧ sound t.evm ∧ t.kv = { s.kv with
      nativePrecompiles := Function.update s.kv.nativePrecompiles (keeperText env text) true } := by
  obtain ⟨coded, registered, after⟩ := registers.unlisted
    (s.kv.isNativePrecompileAvailable env (hexToAddress text)) (hexToAddress text) start
  have enabling : s.enableNativePrecompile env (hexToAddress text) = .ok _ := bind_of_ok registered _
  exact ⟨_, congrArg (Except.mapError _) enabling, after, State.enableNativePrecompile_kv enabling⟩

theorem State.initDynamic_lists (s : State σ) (text : String) (start : sound s.evm) :
    ∃ t, s.initDynamic env text = .ok t ∧ sound t.evm ∧ t.kv = { s.kv with
      dynamicPrecompiles := Function.update s.kv.dynamicPrecompiles (keeperText env text) true } := by
  obtain ⟨coded, registered, after⟩ := registers.unlisted
    (s.kv.isDynamicPrecompileAvailable env (hexToAddress text)) (hexToAddress text) start
  have enabling : s.enableDynamicPrecompile env (hexToAddress text) = .ok _ := bind_of_ok registered _
  exact ⟨_, congrArg (Except.mapError _) enabling, after, State.enableDynamicPrecompile_kv enabling⟩

end

/-! The allowances. -/

/-- The key of an allowance, from the bytes of its addresses. -/
def Allowance.key (allowance : Allowance) : Bytes :=
  allowanceKey (hexToAddress allowance.erc20Address) (hexToAddress allowance.owner) (hexToAddress allowance.spender)

/-- The entry that is written for an allowance. -/
def Allowance.written (env : KeeperEnv σ) (allowance : Allowance) : Allowance :=
  newAllowance env (hexToAddress allowance.erc20Address) (hexToAddress allowance.owner)
    (hexToAddress allowance.spender) allowance.value

/-- `UnsafeSetAllowance` refuses the allowance, whatever the store holds. -/
def Allowance.Refused (allowance : Allowance) : Prop :=
  hexToAddress allowance.owner = Vector.replicate 20 0 ∨ hexToAddress allowance.spender = Vector.replicate 20 0 ∨
    2 ^ 256 ≤ allowance.value

/-- The entries after one write for each allowance. -/
def writeAllowances (env : KeeperEnv σ) (allowances : List Allowance) (entries : Bytes → Option Allowance) :
    Bytes → Option Allowance :=
  allowances.foldl (fun entries allowance =>
    Function.update entries allowance.key (some (allowance.written env))) entries

theorem State.initAllowance_accepted {allowance : Allowance} (success : s.initAllowance env allowance = .ok t) :
    ¬ allowance.Refused := by
  obtain ⟨kv, set, -⟩ := map_ok success
  obtain ⟨-, amount, -, same, owner, spender, -, fits, -⟩ := KVStore.putAllowance_ok (mapError_ok set)
  cases same
  rintro (refused | refused | refused)
  · exact owner refused
  · exact spender refused
  · exact not_le.mpr fits refused

theorem State.initAllowance_writes {allowance : Allowance} (positive : 0 < allowance.value)
    (fits : ¬ allowance.Refused) (found : s.kv.getTokenPair
      (s.kv.erc20Map (hexToAddress allowance.erc20Address)) = some pair) :
    s.initAllowance env allowance = .ok { s with kv := { s.kv with
      allowances := Function.update s.kv.allowances allowance.key (some (allowance.written env)) } } := by
  obtain ⟨owner, fits⟩ := not_or.mp fits
  obtain ⟨spender, fits⟩ := not_or.mp fits
  unfold State.initAllowance KVStore.unsafeSetAllowance KVStore.putAllowance
  rw [found]
  dsimp only
  rw [if_neg (by simp), if_neg owner, if_neg spender, if_neg (by omega), if_neg fits, if_neg (by omega)]
  rfl

theorem State.initAllowance_all {allowances : List Allowance}
    (positive : ∀ allowance ∈ allowances, 0 < allowance.value) (fits : ∀ allowance ∈ allowances, ¬ allowance.Refused)
    (registered : ∀ allowance ∈ allowances, ∃ pair, s.kv.getTokenPair
      (s.kv.erc20Map (hexToAddress allowance.erc20Address)) = some pair) :
    allowances.foldlM (initAllowance env) s = .ok { s with kv := { s.kv with
      allowances := writeAllowances env allowances s.kv.allowances } } := by
  induction allowances generalizing s with
  | nil => rfl
  | cons allowance rest ih =>
    obtain ⟨headPositive, restPositive⟩ := List.forall_mem_cons.mp positive
    obtain ⟨headFits, restFits⟩ := List.forall_mem_cons.mp fits
    obtain ⟨⟨pair, headFound⟩, restRegistered⟩ := List.forall_mem_cons.mp registered
    rw [List.foldlM_cons, bind_of_ok (State.initAllowance_writes headPositive headFits headFound)]
    exact ih restPositive restFits restRegistered

/-! The whole import. -/

variable {data : GenesisState}

/-- What a validated genesis is known to satisfy. -/
structure GenesisState.Checked (data : GenesisState) : Prop where
  hex : ∀ pair ∈ data.tokenPairs, isHexAddress pair.erc20Address = true
  denoms : (data.tokenPairs.map TokenPair.denom).Nodup
  registered : ∀ allowance ∈ data.allowances, ∃ pair ∈ data.tokenPairs,
    pair.getERC20Contract = hexToAddress allowance.erc20Address
  positive : ∀ allowance ∈ data.allowances, 0 < allowance.value

theorem GenesisState.checkAllowances_facts {texts seen : List String} {allowances : List Allowance}
    (checked : checkAllowances texts allowances seen = .ok ()) :
    ∀ allowance ∈ allowances, allowance.erc20Address ∈ texts ∧ 0 < allowance.value := by
  induction allowances generalizing seen with
  | nil => simp
  | cons allowance rest ih =>
    unfold checkAllowances at checked
    obtain ⟨-, checked⟩ := ite_error_ok checked
    obtain ⟨registered, checked⟩ := ite_error_ok checked
    obtain ⟨_, validated, others⟩ := bind_ok checked
    have validated := mapError_ok validated
    unfold Allowance.validate at validated
    obtain ⟨-, validated⟩ := ite_error_ok validated
    obtain ⟨-, validated⟩ := ite_error_ok validated
    obtain ⟨-, validated⟩ := ite_error_ok validated
    obtain ⟨positive, -⟩ := ite_error_ok validated
    exact List.forall_mem_cons.mpr ⟨⟨not_not.mp registered, not_le.mp positive⟩, ih others⟩

theorem GenesisState.checked_of_validate (accepted : data.validate = .ok ()) : data.Checked := by
  obtain ⟨_, pairsChecked, accepted⟩ := bind_ok accepted
  obtain ⟨_, -, accepted⟩ := bind_ok accepted
  obtain ⟨_, -, allowancesChecked⟩ := bind_ok accepted
  obtain ⟨each, denoms⟩ := GenesisState.checkPairs_facts pairsChecked
  have allowances := GenesisState.checkAllowances_facts allowancesChecked
  refine ⟨fun pair member => (each pair member).2.1, denoms, fun allowance member => ?_,
    fun allowance member => (allowances allowance member).2⟩
  obtain ⟨pair, inside, same⟩ := List.mem_map.mp (allowances allowance member).1
  exact ⟨pair, inside, congrArg hexToAddress same⟩

/-- The contracts of the pairs are different, as bytes. -/
def GenesisState.Apart (data : GenesisState) : Prop := (data.tokenPairs.map TokenPair.getERC20Contract).Nodup

/-- The store after an import that got through. -/
structure Imported (env : KeeperEnv σ) (data : GenesisState) (kv : KVStore) : Prop where
  enableErc20 : kv.enableErc20 = data.params.enableErc20
  permissionless : kv.permissionlessRegistration = data.params.permissionlessRegistration
  pairs : PairsOf env kv data.tokenPairs
  natives : kv.nativePrecompiles = fun text => decide (text ∈ data.nativePrecompiles.map (keeperText env))
  dynamics : kv.dynamicPrecompiles = fun text => decide (text ∈ data.dynamicPrecompiles.map (keeperText env))
  allowances : kv.allowances = writeAllowances env data.allowances fun _ => none

section

variable (injective : Function.Injective env.sum) (nothing : s.kv = .empty) (checked : data.Checked)
include injective nothing checked

/-- The loop over the pairs, from an empty store. -/
theorem State.initGenesis_pairs :
    ∃ u complete, (s.setParams data.params).initTokenPairs env data.tokenPairs = (u, complete) ∧ u.evm = s.evm ∧
      KVStore.PairsOnly { KVStore.empty with
        enableErc20 := data.params.enableErc20,
        permissionlessRegistration := data.params.permissionlessRegistration } u.kv ∧
      ((complete = true ∧ data.Apart ∧ PairsOf env u.kv data.tokenPairs) ∨
        (complete = false ∧ ¬ data.Apart ∧ ∃ pair ∈ data.tokenPairs,
          u.kv.tokenPairs (pair.getID env) ≠ some pair)) := by
  have opened : (s.setParams data.params).kv = { KVStore.empty with
      enableErc20 := data.params.enableErc20,
      permissionlessRegistration := data.params.permissionlessRegistration } := by
    unfold State.setParams
    rw [nothing]
  have empty : PairsOf env (s.setParams data.params).kv [] := by
    rw [opened]
    exact ⟨{ (Kept.empty env).indexed with }, fun _ _ => by simp [KVStore.empty]⟩
  obtain ⟨evm, only, outcome⟩ := State.initTokenPairs_spec injective empty
    (by simpa using checked.hex) (by simpa using checked.denoms) (by simp)
    (rfl : (s.setParams data.params).initTokenPairs env data.tokenPairs = (_, _))
  rw [opened] at only
  exact ⟨_, _, rfl, evm, only, outcome⟩

variable {account : AccAddress} (configured : env.vm.bank.moduleAddress moduleName = some account)
include configured

/-- Where a contract comes up again, a pair is missing and nothing else has been set. -/
theorem State.initGenesis_early (twice : ¬ data.Apart) : ∃ t, s.initGenesis env data = .ok t ∧
      (∃ pair ∈ data.tokenPairs, t.kv.tokenPairs (pair.getID env) ≠ some pair) ∧
      t.kv.nativePrecompiles = (fun _ => false) ∧ t.kv.dynamicPrecompiles = (fun _ => false) ∧
      t.kv.allowances = fun _ => none := by
  obtain ⟨u, complete, run, -, only, outcome⟩ := State.initGenesis_pairs injective nothing checked
  rcases outcome with ⟨-, apart, -⟩ | ⟨rfl, -, missing⟩
  · exact absurd apart twice
  · unfold KVStore.PairsOnly at only
    refine ⟨u, ?_, missing, ?_, ?_, ?_⟩
    · unfold State.initGenesis
      dsimp only
      rw [configured]
      dsimp only
      rw [run]
    · rw [only]
      rfl
    · rw [only]
      rfl
    · rw [only]
      rfl

variable {sound : σ → Prop} (registers : RegistersCode env sound) (start : sound s.evm)
include registers start

/-- The import gets through, panics over an allowance, or ends early without a pair. -/
theorem State.initGenesis_spec : (data.Apart ∧ (∀ allowance ∈ data.allowances, ¬ allowance.Refused) ∧
      ∃ t, s.initGenesis env data = .ok t ∧ Imported env data t.kv) ∨
    (data.Apart ∧ (∃ allowance ∈ data.allowances, allowance.Refused) ∧ ∀ t, s.initGenesis env data ≠ .ok t) ∨
    (¬ data.Apart ∧ ∃ t, s.initGenesis env data = .ok t ∧
      ∃ pair ∈ data.tokenPairs, t.kv.tokenPairs (pair.getID env) ≠ some pair) := by
  by_cases apart : data.Apart
  swap
  · obtain ⟨t, success, missing, -⟩ := State.initGenesis_early injective nothing checked configured apart
    exact Or.inr (Or.inr ⟨apart, t, success, missing⟩)
  obtain ⟨u, complete, run, evm, only, outcome⟩ := State.initGenesis_pairs injective nothing checked
  unfold State.initGenesis
  dsimp only
  rw [configured]
  dsimp only
  rw [run]
  rcases outcome with ⟨rfl, -, pairs⟩ | ⟨-, twice, -⟩
  · dsimp only
    obtain ⟨v, nativeRun, next, natives⟩ := State.lists_all data.nativePrecompiles
      KVStore.nativePrecompiles (fun kv list => { kv with nativePrecompiles := list }) (fun _ _ => rfl)
      (fun _ => rfl) (fun _ _ _ => rfl) (State.initNative_lists registers) (evm ▸ start : sound u.evm)
    obtain ⟨w, dynamicRun, -, dynamics⟩ := State.lists_all data.dynamicPrecompiles
      KVStore.dynamicPrecompiles (fun kv list => { kv with dynamicPrecompiles := list }) (fun _ _ => rfl)
      (fun _ => rfl) (fun _ _ _ => rfl) (State.initDynamic_lists registers) next
    rw [bind_of_ok nativeRun, bind_of_ok dynamicRun]
    by_cases refused : ∃ allowance ∈ data.allowances, allowance.Refused
    · refine Or.inr (Or.inl ⟨apart, refused, fun t success => ?_⟩)
      obtain ⟨allowance, member, bad⟩ := refused
      obtain ⟨before, after, step⟩ := foldlM_steps success allowance member
      exact State.initAllowance_accepted step bad
    · push Not at refused
      have registered : ∀ allowance ∈ data.allowances, ∃ pair, w.kv.getTokenPair
          (w.kv.erc20Map (hexToAddress allowance.erc20Address)) = some pair := by
        intro allowance member
        obtain ⟨pair, inside, contract⟩ := checked.registered allowance member
        have held := (pairs.stored _ pair).mpr ⟨inside, rfl⟩
        refine ⟨pair, ?_⟩
        rw [dynamics, natives, ← contract]
        unfold KVStore.getTokenPair
        rw [pairs.indexed.erc20 _ pair held]
        exact held
      refine Or.inl ⟨apart, refused, _, State.initAllowance_all checked.positive refused registered, ?_⟩
      unfold KVStore.PairsOnly at only
      rw [dynamics, natives]
      constructor
      · rw [only]
      · rw [only]
      · exact ⟨{ pairs.indexed with }, pairs.stored⟩
      · rw [only]
        simp [KVStore.empty]
      · rw [only]
        simp [KVStore.empty]
      · rw [only]
        rfl
  · exact absurd apart twice

end

theorem mem_exported {iterators : kv.Iterators} :
    pair ∈ iterators.pairs.filterMap kv.tokenPairs ↔ ∃ id, kv.tokenPairs id = some pair := by
  rw [List.mem_filterMap]
  constructor
  · rintro ⟨id, -, stored⟩
    exact ⟨id, stored⟩
  · rintro ⟨id, stored⟩
    exact ⟨id, (iterators.mem_pairs id).mpr (by rw [stored]; rfl), stored⟩

/-- Every entry of the genesis is in the store, under the bytes of its addresses. -/
structure KVStore.Installs (env : KeeperEnv σ) (kv : KVStore) (data : GenesisState) : Prop where
  pairs : ∀ pair ∈ data.tokenPairs, kv.tokenPairs (pair.getID env) = some pair ∧
    kv.erc20Map pair.getERC20Contract = some (pair.getID env) ∧ kv.denomMap pair.denom = some (pair.getID env)
  natives : ∀ text ∈ data.nativePrecompiles, kv.isNativePrecompileAvailable env (hexToAddress text) = true
  dynamics : ∀ text ∈ data.dynamicPrecompiles, kv.isDynamicPrecompileAvailable env (hexToAddress text) = true
  allowances : ∀ allowance ∈ data.allowances, kv.allowances allowance.key = some (allowance.written env)

/-- The addresses and the value of an allowance. -/
def Allowance.parts (allowance : Allowance) : Address × Address × Address × ℤ :=
  (hexToAddress allowance.erc20Address, hexToAddress allowance.owner, hexToAddress allowance.spender, allowance.value)

/-- Two genesis states list the same things, addresses being compared as bytes. -/
structure GenesisState.SameSets (data exported : GenesisState) : Prop where
  pairs : ∀ pair, pair ∈ exported.tokenPairs ↔ pair ∈ data.tokenPairs
  natives : ∀ addr, addr ∈ exported.nativePrecompiles.map hexToAddress ↔
    addr ∈ data.nativePrecompiles.map hexToAddress
  dynamics : ∀ addr, addr ∈ exported.dynamicPrecompiles.map hexToAddress ↔
    addr ∈ data.dynamicPrecompiles.map hexToAddress
  allowances : ∀ parts, parts ∈ exported.allowances.map Allowance.parts ↔
    parts ∈ data.allowances.map Allowance.parts

/-- Allowances for the same bytes have the same value. -/
def GenesisState.Agrees (data : GenesisState) : Prop :=
  ∀ first ∈ data.allowances, ∀ second ∈ data.allowances, first.key = second.key → first.value = second.value

theorem Allowance.written_parts (env : KeeperEnv σ) (allowance : Allowance) :
    (allowance.written env).parts = allowance.parts := by
  unfold Allowance.parts Allowance.written newAllowance
  simp only [hexToAddress_addressHex]

theorem Allowance.written_eq {first second : Allowance} (keys : first.key = second.key)
    (values : first.value = second.value) : first.written env = second.written env := by
  obtain ⟨erc20, owner, spender⟩ := allowanceKey_injective keys
  unfold Allowance.written
  rw [erc20, owner, spender, values]

section

variable (imported : Imported env data kv)
include imported

theorem Imported.allowance (agrees : data.Agrees) {key : Bytes} {entry : Allowance} : kv.allowances key = some entry ↔
      ∃ allowance ∈ data.allowances, allowance.key = key ∧ allowance.written env = entry := by
  rw [imported.allowances]
  unfold writeAllowances
  rw [foldl_update_some fun first member second inside same =>
    Allowance.written_eq same (agrees first member second inside same)]
  simp

theorem Imported.installs (agrees : data.Agrees) : kv.Installs env data where
  pairs pair member := by
    have held := (imported.pairs.stored _ pair).mpr ⟨member, rfl⟩
    exact ⟨held, imported.pairs.indexed.erc20 _ pair held, imported.pairs.indexed.denom _ pair held⟩
  natives text member := by
    unfold KVStore.isNativePrecompileAvailable
    rw [imported.natives]
    exact decide_eq_true (List.mem_map_of_mem member)
  dynamics text member := by
    unfold KVStore.isDynamicPrecompileAvailable
    rw [imported.dynamics]
    exact decide_eq_true (List.mem_map_of_mem member)
  allowances allowance member := (imported.allowance agrees).mpr ⟨allowance, member, rfl, rfl⟩

omit imported in
/-- A list of addresses read back from the texts under which the keeper stores them. -/
theorem mem_keeperTexts {listed texts : List String}
    (visits : ∀ text, text ∈ listed ↔ text ∈ texts.map (keeperText env))
    (addr : Address) : addr ∈ listed.map hexToAddress ↔ addr ∈ texts.map hexToAddress := by
  have reads : ∀ text, hexToAddress (keeperText env text) = hexToAddress text := fun text =>
    hexToAddress_addressHex env.vm _
  simp only [List.mem_map, visits]
  constructor
  · rintro ⟨_, ⟨text, member, rfl⟩, rfl⟩
    exact ⟨text, member, (reads text).symm⟩
  · rintro ⟨text, member, rfl⟩
    exact ⟨keeperText env text, ⟨text, member, rfl⟩, reads text⟩

theorem Imported.same_sets (agrees : data.Agrees) (iterators : kv.Iterators) :
    data.SameSets (kv.exportGenesis iterators) where
  pairs pair := by
    refine mem_exported.trans ?_
    constructor
    · rintro ⟨id, stored⟩
      exact ((imported.pairs.stored id pair).mp stored).1
    · intro member
      exact ⟨_, (imported.pairs.stored _ pair).mpr ⟨member, rfl⟩⟩
  natives addr := mem_keeperTexts (fun text => by
    rw [KVStore.exportGenesis, iterators.mem_natives, imported.natives, decide_eq_true_iff]) addr
  dynamics addr := mem_keeperTexts (fun text => by
    rw [KVStore.exportGenesis, iterators.mem_dynamics, imported.dynamics, decide_eq_true_iff]) addr
  allowances parts := by
    simp only [KVStore.exportGenesis, List.mem_map, List.mem_filterMap]
    constructor
    · rintro ⟨entry, ⟨key, -, stored⟩, rfl⟩
      obtain ⟨allowance, member, -, rfl⟩ := (imported.allowance agrees).mp stored
      exact ⟨allowance, member, (allowance.written_parts env).symm⟩
    · rintro ⟨allowance, member, rfl⟩
      have stored := (imported.allowance agrees).mpr ⟨allowance, member, rfl, rfl⟩
      refine ⟨_, ⟨allowance.key, ?_, stored⟩, allowance.written_parts env⟩
      exact (iterators.mem_allowances _).mpr (by rw [stored]; rfl)

end

theorem KVStore.Installs.agrees (installs : kv.Installs env data) : data.Agrees := by
  intro first member second inside same
  have held := installs.allowances first member
  rw [same, installs.allowances second inside] at held
  have written := Option.some.inj held
  exact (congrArg Allowance.value written).symm

/-- An accepted genesis is imported whole, or with a panic, exactly where no contract of a
pair comes up twice and no two allowances for the same bytes differ, as long as it gets
as far as writing them. -/
theorem import_whole_iff (env : KeeperEnv σ) (injective : Function.Injective env.sum) (sound : σ → Prop)
    (registers : RegistersCode env sound) (account : AccAddress)
    (configured : env.vm.bank.moduleAddress moduleName = some account) (data : GenesisState)
    (accepted : data.validate = .ok ()) (s : State σ) (nothing : s.kv = .empty) (start : sound s.evm) :
    (∀ t, s.initGenesis env data = .ok t →
      t.kv.Installs env data ∧ ∀ iterators : t.kv.Iterators, data.SameSets (t.kv.exportGenesis iterators)) ↔
    data.Apart ∧ (data.Agrees ∨ ∃ allowance ∈ data.allowances, allowance.Refused) := by
  have checked := GenesisState.checked_of_validate accepted
  rcases State.initGenesis_spec injective nothing checked configured registers start with
    ⟨apart, fits, t, success, imported⟩ | ⟨apart, refused, panics⟩ | ⟨twice, t, success, pair, member, missing⟩
  · constructor
    · intro whole
      exact ⟨apart, Or.inl (whole t success).1.agrees⟩
    · rintro ⟨-, agrees | ⟨allowance, member, refused⟩⟩
      · intro u again
        cases success.symm.trans again
        exact ⟨imported.installs agrees, imported.same_sets agrees⟩
      · exact absurd refused (fits allowance member)
  · exact ⟨fun _ => ⟨apart, Or.inr refused⟩, fun _ t success => absurd success (panics t)⟩
  · constructor
    · intro whole
      exact absurd ((whole t success).1.pairs pair member).1 missing
    · rintro ⟨apart, -⟩
      exact absurd apart twice

theorem registryEnv_registers : RegistersCode registryEnv fun _ => True := fun s _ _ => ⟨s, rfl, trivial⟩

/-- A genesis that leaves out the mark in front of an address, for a pair and its precompile. -/
def unmarkedGenesis : GenesisState where
  params := ⟨true, true⟩
  tokenPairs := [⟨"00000000000000000000000000000000000000aa", "utoken", true, .module⟩]
  allowances := []
  nativePrecompiles := []
  dynamicPrecompiles := ["00000000000000000000000000000000000000aa"]

theorem import_whole_iff_unmarked :
    ∃ t, registryStart.initGenesis registryEnv unmarkedGenesis = .ok t ∧
      t.kv.Installs registryEnv unmarkedGenesis := by
  have whole := (import_whole_iff registryEnv (fun _ _ same => same) _ registryEnv_registers _ rfl unmarkedGenesis
    (toOption_some (by decide +kernel)) registryStart rfl trivial).mpr
    ⟨List.nodup_singleton _, Or.inl nofun⟩
  exact ⟨_, rfl, (whole _ rfl).1⟩

/-- A contract in capitals, and the same in small letters. -/
def capitalPair : TokenPair := ⟨"0x00000000000000000000000000000000000000AA", "utoken", true, .module⟩

def smallPair : TokenPair := ⟨"0x00000000000000000000000000000000000000aa", "uother", true, .module⟩

/-- The two pairs, with a precompile and an allowance. -/
def twiceGenesis : GenesisState where
  params := ⟨true, true⟩
  tokenPairs := [capitalPair, smallPair]
  allowances := [⟨"0x00000000000000000000000000000000000000aa", "0x0000000000000000000000000000000000000001",
    "0x0000000000000000000000000000000000000002", 5⟩]
  nativePrecompiles := []
  dynamicPrecompiles := ["0x00000000000000000000000000000000000000aa"]

theorem twiceGenesis_not_apart : ¬ twiceGenesis.Apart := by
  have same : hexToAddress "0x00000000000000000000000000000000000000AA" =
      hexToAddress "0x00000000000000000000000000000000000000aa" := Vector.toList_inj.mp (by decide +kernel)
  have contracts : capitalPair.getERC20Contract = smallPair.getERC20Contract := same
  unfold GenesisState.Apart twiceGenesis
  rw [List.map_cons, List.map_singleton, List.nodup_cons, List.mem_singleton]
  exact fun apart => apart.1 contracts

/-- The genesis is accepted and imported without an error, but for the second pair, the
precompile and the allowance. -/
theorem twice_imported_in_part :
    twiceGenesis.validate = .ok () ∧ ∃ t, registryStart.initGenesis registryEnv twiceGenesis = .ok t ∧
      ¬ t.kv.Installs registryEnv twiceGenesis ∧ t.kv.dynamicPrecompiles = (fun _ => false) ∧
      t.kv.allowances = fun _ => none := by
  have accepted : twiceGenesis.validate = .ok () := toOption_some (by decide +kernel)
  obtain ⟨t, success, ⟨pair, member, missing⟩, -, dynamics, allowances⟩ := @State.initGenesis_early Unit registryEnv
    registryStart twiceGenesis (fun _ _ same => same) rfl (GenesisState.checked_of_validate accepted) _ rfl
    twiceGenesis_not_apart
  exact ⟨accepted, t, success, fun installs => missing (installs.pairs pair member).1, dynamics, allowances⟩

end OgEvm.Erc20
