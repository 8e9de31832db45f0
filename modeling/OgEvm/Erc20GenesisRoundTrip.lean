import OgEvm.Erc20GenesisImport

/- What is exported is accepted and imported again: the pairs with their maps, the precompiles
and the allowances come back as they were. -/
namespace OgEvm.Erc20

open ExceptFacts Function PartialMaps Relation

section

variable {σ : Type} {env : KeeperEnv σ} {kv : KVStore} {pair : TokenPair} {s t : State σ}

/-! The export is accepted. -/

theorem GenesisState.checkPairs_accepts {pairs : List TokenPair} {seenErc20 seenDenom : List String}
    (valid : ∀ pair ∈ pairs, pair.validate = .ok ())
    (addresses : pairs.Pairwise fun first second => first.erc20Address ≠ second.erc20Address)
    (denoms : pairs.Pairwise fun first second => first.denom ≠ second.denom)
    (newAddresses : ∀ pair ∈ pairs, pair.erc20Address ∉ seenErc20)
    (newDenoms : ∀ pair ∈ pairs, pair.denom ∉ seenDenom) : checkPairs pairs seenErc20 seenDenom = .ok () := by
  induction pairs generalizing seenErc20 seenDenom with
  | nil => rfl
  | cons pair rest ih =>
    obtain ⟨headValid, restValid⟩ := List.forall_mem_cons.mp valid
    obtain ⟨headAddress, restAddresses⟩ := List.pairwise_cons.mp addresses
    obtain ⟨headDenom, restDenoms⟩ := List.pairwise_cons.mp denoms
    obtain ⟨newAddress, newRest⟩ := List.forall_mem_cons.mp newAddresses
    obtain ⟨newDenom, newRestDenoms⟩ := List.forall_mem_cons.mp newDenoms
    unfold checkPairs
    rw [if_neg newAddress, if_neg newDenom, bind_of_ok headValid]
    refine ih restValid restAddresses restDenoms ?_ ?_
    · intro other member
      simp only [List.mem_cons, not_or]
      exact ⟨fun same => headAddress other member same.symm, newRest other member⟩
    · intro other member
      simp only [List.mem_cons, not_or]
      exact ⟨fun same => headDenom other member same.symm, newRestDenoms other member⟩

theorem validatePrecompiles_accepts {pairs : List TokenPair} {precompiles : List String}
    (active : ∀ text ∈ precompiles, ∃ pair ∈ pairs, pair.erc20Address = text ∧ pair.enabled = true) :
    validatePrecompiles pairs precompiles = .ok () := by
  induction precompiles with
  | nil => rfl
  | cons text rest ih =>
    obtain ⟨head, others⟩ := List.forall_mem_cons.mp active
    have found : hasActiveTokenPair pairs text = true := by simpa [hasActiveTokenPair] using head
    unfold validatePrecompiles
    rw [found]
    exact ih others

/-- The text under which `Validate` looks for a second allowance. -/
def Allowance.text (allowance : Allowance) : String :=
  allowance.erc20Address ++ allowance.owner ++ allowance.spender

theorem GenesisState.checkAllowances_accepts {seenErc20 : List String} {allowances : List Allowance}
    {seenAllowance : List String} (valid : ∀ allowance ∈ allowances, allowance.validate = .ok ())
    (registered : ∀ allowance ∈ allowances, allowance.erc20Address ∈ seenErc20)
    (distinct : allowances.Pairwise fun first second => first.text ≠ second.text)
    (new : ∀ allowance ∈ allowances, allowance.text ∉ seenAllowance) :
    checkAllowances seenErc20 allowances seenAllowance = .ok () := by
  induction allowances generalizing seenAllowance with
  | nil => rfl
  | cons allowance rest ih =>
    obtain ⟨headValid, restValid⟩ := List.forall_mem_cons.mp valid
    obtain ⟨headRegistered, restRegistered⟩ := List.forall_mem_cons.mp registered
    obtain ⟨headDistinct, restDistinct⟩ := List.pairwise_cons.mp distinct
    obtain ⟨headNew, restNew⟩ := List.forall_mem_cons.mp new
    unfold Allowance.text at headNew
    unfold checkAllowances
    dsimp only
    rw [if_neg headNew, if_neg (not_not.mpr headRegistered), headValid]
    refine ih restValid restRegistered restDistinct ?_
    intro other member
    simp only [List.mem_cons, not_or]
    exact ⟨fun same => headDistinct other member same.symm, restNew other member⟩

/-- The texts of two allowances are the same only if their keys are. -/
theorem newAllowance_text {erc20 owner spender erc20' owner' spender' : Address} {value value' : ℤ}
    (same : (newAllowance env erc20 owner spender value).text =
      (newAllowance env erc20' owner' spender' value').text) :
    allowanceKey erc20 owner spender = allowanceKey erc20' owner' spender' := by
  have texts := congrArg (fun text : String => text.toUTF8.toList) same
  simp only [Allowance.text, newAllowance, toUTF8_append, List.append_assoc] at texts
  obtain ⟨first, texts⟩ := List.append_inj texts (by rw [addressHex_size, addressHex_size])
  obtain ⟨second, third⟩ := List.append_inj texts (by rw [addressHex_size, addressHex_size])
  rw [addressHex_injective env.vm (toUTF8_injective first), addressHex_injective env.vm (toUTF8_injective second),
    addressHex_injective env.vm (toUTF8_injective third)]

theorem Kept.pair_validate {id : Bytes} (kept : Kept env kv) (stored : kv.tokenPairs id = some pair) :
    pair.validate = .ok () := by
  unfold TokenPair.validate
  rw [bind_of_ok (kept.valid id pair stored)]
  unfold validateAddress
  rw [kept.spelled id pair stored, addressHex_isHexAddress]
  rfl

theorem Kept.allowance_validate {key : Bytes} {allowance : Allowance} (kept : Kept env kv)
    (entry : kv.allowances key = some allowance) : allowance.validate = .ok () := by
  obtain ⟨erc20, owner, spender, allowed⟩ := kept.allowed key allowance entry
  have positive := allowed.positive
  rw [allowed.entry]
  unfold Allowance.validate newAllowance
  dsimp only
  simp only [addressHex_isHexAddress, Bool.not_true, Bool.false_eq_true, if_false]
  rw [if_neg (by omega)]

/-- The export of a store whose precompiles have their pairs is accepted. -/
theorem Kept.export_accepted (kept : Kept env kv) (live : kv.Live) (iterators : kv.Iterators) :
    (kv.exportGenesis iterators).validate = .ok () := by
  have pairsAccepted : GenesisState.checkPairs (iterators.pairs.filterMap kv.tokenPairs) [] [] = .ok () := by
    refine GenesisState.checkPairs_accepts ?_ ?_ ?_ (by simp) (by simp)
    · intro pair member
      obtain ⟨id, stored⟩ := mem_exported.mp member
      exact kept.pair_validate stored
    · refine List.pairwise_filterMap.mpr (iterators.pairs_nodup.imp ?_)
      intro id id' apart pair stored other storedOther same
      exact apart (kept.indexed.unique stored storedOther (Or.inl (congrArg hexToAddress same)))
    · refine List.pairwise_filterMap.mpr (iterators.pairs_nodup.imp ?_)
      intro id id' apart pair stored other storedOther same
      exact apart (kept.indexed.unique stored storedOther (Or.inr same))
  have active : ∀ text, kv.listed text = true →
      ∃ pair ∈ iterators.pairs.filterMap kv.tokenPairs, pair.erc20Address = text ∧ pair.enabled = true := by
    intro text listed
    obtain ⟨id, pair, stored, address, enabled⟩ := live text listed
    exact ⟨pair, mem_exported.mpr ⟨id, stored⟩, address, enabled⟩
  have dynamicsAccepted : validatePrecompiles (iterators.pairs.filterMap kv.tokenPairs) iterators.dynamics = .ok () :=
    validatePrecompiles_accepts fun text member => active text (by
      rw [KVStore.listed, (iterators.mem_dynamics text).mp member, Bool.or_true])
  have nativesAccepted : validatePrecompiles (iterators.pairs.filterMap kv.tokenPairs) iterators.natives = .ok () :=
    validatePrecompiles_accepts fun text member => active text (by
      rw [KVStore.listed, (iterators.mem_natives text).mp member, Bool.true_or])
  unfold GenesisState.validate KVStore.exportGenesis
  dsimp only
  rw [pairsAccepted, dynamicsAccepted, nativesAccepted]
  refine GenesisState.checkAllowances_accepts ?_ ?_ ?_ (by simp)
  · intro allowance member
    obtain ⟨key, -, entry⟩ := List.mem_filterMap.mp member
    exact kept.allowance_validate entry
  · intro allowance member
    obtain ⟨key, -, entry⟩ := List.mem_filterMap.mp member
    obtain ⟨erc20, owner, spender, allowed⟩ := kept.allowed key allowance entry
    obtain ⟨id, pair, stored, contract⟩ := allowed.registered
    refine List.mem_map.mpr ⟨pair, mem_exported.mpr ⟨id, stored⟩, ?_⟩
    rw [allowed.entry, kept.spelled id pair stored, contract]
    rfl
  · refine List.pairwise_filterMap.mpr (iterators.allowances_nodup.imp ?_)
    intro key key' apart allowance entry other entryOther same
    obtain ⟨erc20, owner, spender, allowed⟩ := kept.allowed key allowance entry
    obtain ⟨erc20', owner', spender', allowedOther⟩ := kept.allowed key' other entryOther
    rw [allowed.entry, allowedOther.entry] at same
    rw [allowed.key, allowedOther.key] at apart
    exact apart (newAllowance_text same)

/-! The import gives the store back. -/

theorem Kept.pairs_apart (kept : Kept env kv) (iterators : kv.Iterators) :
    ((iterators.pairs.filterMap kv.tokenPairs).map TokenPair.getERC20Contract).Nodup := by
  refine List.pairwise_map.mpr (List.pairwise_filterMap.mpr (iterators.pairs_nodup.imp ?_))
  intro id id' apart pair stored other storedOther same
  exact apart (kept.indexed.unique stored storedOther (Or.inl same))

/-- An allowance of the store is written back as it is, under its key. -/
theorem Kept.allowance_written {key : Bytes} {allowance : Allowance} (kept : Kept env kv)
    (entry : kv.allowances key = some allowance) :
    allowance.key = key ∧ allowance.written env = allowance ∧ ¬ allowance.Refused := by
  obtain ⟨erc20, owner, spender, allowed⟩ := kept.allowed key allowance entry
  have read := fun addr => hexToAddress_addressHex env.vm addr
  have fits := allowed.fits
  have whole := allowed.entry
  refine ⟨?_, ?_, ?_⟩
  · rw [whole, allowed.key]
    unfold Allowance.key newAllowance
    rw [read, read, read]
  · rw [whole]
    unfold Allowance.written newAllowance
    rw [read, read, read]
  · unfold Allowance.Refused
    rw [whole]
    unfold newAllowance
    rw [read, read]
    rintro (zero | zero | large)
    · exact allowed.ownerSet zero
    · exact allowed.spenderSet zero
    · dsimp only at large
      omega

/-- The export of a store is imported into an empty one, which is then the same. -/
theorem Kept.export_imported {sound : σ → Prop} {account : AccAddress} (kept : Kept env kv) (live : kv.Live)
    (injective : Injective env.sum) (registers : RegistersCode env sound) (start : sound s.evm)
    (configured : env.vm.bank.moduleAddress moduleName = some account) (iterators : kv.Iterators)
    (nothing : s.kv = .empty) : ∃ t, s.initGenesis env (kv.exportGenesis iterators) = .ok t ∧ t.kv = kv := by
  have checked := GenesisState.checked_of_validate (kept.export_accepted live iterators)
  have listed : ∀ allowance ∈ (kv.exportGenesis iterators).allowances,
      ∃ key, kv.allowances key = some allowance := by
    intro allowance member
    obtain ⟨key, -, entry⟩ := List.mem_filterMap.mp member
    exact ⟨key, entry⟩
  have spelled : ∀ text, kv.listed text = true → keeperText env text = text := by
    intro text inList
    obtain ⟨id, pair, stored, rfl, -⟩ := live text inList
    exact (kept.spelled id pair stored).symm
  -- a list of precompiles comes back as it was
  have back : ∀ (list : String → Bool) (texts : List String), (∀ text, text ∈ texts ↔ list text = true) →
      (∀ text, list text = true → kv.listed text = true) →
      (fun text => decide (text ∈ texts.map (keeperText env))) = list := by
    intro list texts visits inList
    have same : texts.map (keeperText env) = texts :=
      (List.map_congr_left fun text member => spelled text (inList text ((visits text).mp member))).trans
        (List.map_id texts)
    funext text
    rw [same, Bool.eq_iff_iff, decide_eq_true_iff]
    exact visits text
  rcases State.initGenesis_spec injective nothing checked configured registers start with
    ⟨-, -, t, success, imported⟩ | ⟨-, ⟨allowance, member, refused⟩, -⟩ | ⟨twice, -⟩
  · have pairs : t.kv.tokenPairs = kv.tokenPairs := by
      funext id
      apply Option.ext
      intro pair
      rw [imported.pairs.stored]
      constructor
      · rintro ⟨member, rfl⟩
        obtain ⟨id, stored⟩ := mem_exported.mp member
        rw [← kept.indexed.keyed id pair stored]
        exact stored
      · intro stored
        exact ⟨mem_exported.mpr ⟨id, stored⟩, kept.indexed.keyed id pair stored⟩
    have index := imported.pairs.indexed
    refine ⟨t, success, KVStore.ext imported.enableErc20 imported.permissionless pairs
      ((pairs ▸ index.contracts).unique kept.indexed.contracts) ((pairs ▸ index.denoms).unique kept.indexed.denoms)
      ?_ ?_ ?_⟩
    · have agrees : (kv.exportGenesis iterators).Agrees := by
        intro first member second inside same
        obtain ⟨key, entry⟩ := listed first member
        obtain ⟨other, otherEntry⟩ := listed second inside
        rw [(kept.allowance_written entry).1, (kept.allowance_written otherEntry).1] at same
        rw [same] at entry
        cases entry.symm.trans otherEntry
        rfl
      funext key
      apply Option.ext
      intro entry
      rw [imported.allowance agrees]
      constructor
      · rintro ⟨allowance, member, rfl, rfl⟩
        obtain ⟨key, held⟩ := listed allowance member
        obtain ⟨place, same, -⟩ := kept.allowance_written held
        rw [place, same]
        exact held
      · intro held
        obtain ⟨place, same, -⟩ := kept.allowance_written held
        exact ⟨entry, List.mem_filterMap.mpr ⟨key, (iterators.mem_allowances key).mpr (by rw [held]; rfl), held⟩,
          place, same⟩
    · rw [imported.natives]
      exact back _ _ iterators.mem_natives fun text native => by rw [KVStore.listed, native, Bool.true_or]
    · rw [imported.dynamics]
      exact back _ _ iterators.mem_dynamics fun text dynamic => by rw [KVStore.listed, dynamic, Bool.or_true]
  · obtain ⟨key, entry⟩ := listed allowance member
    exact absurd refused (kept.allowance_written entry).2.2
  · exact absurd (kept.pairs_apart iterators) twice

/-- What `Validate` accepts has an enabled pair for every precompile. -/
theorem KVStore.live_of_accepted {iterators : kv.Iterators}
    (accepted : (kv.exportGenesis iterators).validate = .ok ()) : kv.Live := by
  obtain ⟨_, -, accepted⟩ := bind_ok accepted
  obtain ⟨_, dynamicChecked, accepted⟩ := bind_ok accepted
  obtain ⟨_, nativeChecked, -⟩ := bind_ok accepted
  have backed : ∀ text, (∃ pair ∈ iterators.pairs.filterMap kv.tokenPairs,
      pair.erc20Address = text ∧ pair.enabled = true) → kv.Backs text := by
    rintro text ⟨pair, member, address, enabled⟩
    obtain ⟨id, stored⟩ := mem_exported.mp member
    exact ⟨id, pair, stored, address, enabled⟩
  intro text listed
  rcases Bool.or_eq_true_iff.mp listed with native | dynamic
  · exact backed text (validatePrecompiles_ok (mapError_ok nativeChecked) text
      ((iterators.mem_natives text).mpr native))
  · exact backed text (validatePrecompiles_ok (mapError_ok dynamicChecked) text
      ((iterators.mem_dynamics text).mpr dynamic))

/-! Runs from a genesis. -/

/-- States reached from an imported genesis by operations that toggle and delete only pairs
of the given kind. -/
inductive GenesisRun (env : KeeperEnv σ) (quiet : KVStore → TokenPair → Prop) (data : GenesisState) :
    State σ → Prop
  | genesis (s t : State σ) (nothing : s.kv = .empty) (imported : s.initGenesis env data = .ok t) :
      GenesisRun env quiet data t
  | operation (s : State σ) (op : Operation) (reached : GenesisRun env quiet data s)
      (allowed : op.Quiet quiet s.kv) : GenesisRun env quiet data (op.apply env s)
  | elsewhere (s t : State σ) (reached : GenesisRun env quiet data s) (same : t.kv = s.kv) :
      GenesisRun env quiet data t

theorem GenesisRun.changes {quiet : KVStore → TokenPair → Prop} {data : GenesisState}
    (reached : GenesisRun env quiet data s) (injective : Injective env.sum)
    (accepted : data.validate = .ok ()) (spelled : ∀ pair ∈ data.tokenPairs, pair.Spelled env) :
    Changes env quiet .empty s.kv := by
  induction reached with
  | genesis s t nothing imported =>
    exact State.initGenesis_changes injective nothing accepted spelled imported
  | operation s op _ allowed ih => exact ih.trans (Operation.apply_changes allowed)
  | elsewhere s t _ same ih =>
    rw [same]
    exact ih

/-- A genesis is imported only where the module has its account. -/
theorem GenesisRun.configured {quiet : KVStore → TokenPair → Prop} {data : GenesisState}
    (reached : GenesisRun env quiet data s) : ∃ account, env.vm.bank.moduleAddress moduleName = some account := by
  induction reached with
  | genesis s t nothing imported =>
    unfold State.initGenesis at imported
    dsimp only at imported
    split at imported
    · cases imported
    · rename_i account configured
      exact ⟨account, configured⟩
  | operation _ _ _ _ ih => exact ih
  | elsewhere _ _ _ _ ih => exact ih

/-- From a genesis that spells its addresses with their checksum, and as long as no pair whose
contract is a precompile is toggled or deleted, every export is accepted and imported again. -/
theorem quiet_export_importable (env : KeeperEnv σ) (injective : Injective env.sum)
    (sound : σ → Prop) (registers : RegistersCode env sound) (data : GenesisState) (accepted : data.validate = .ok ())
    (spelled : ∀ pair ∈ data.tokenPairs, pair.Spelled env) (s : State σ)
    (reached : GenesisRun env (Unlisted env) data s) (iterators : s.kv.Iterators) :
    (s.kv.exportGenesis iterators).validate = .ok () ∧
      ∀ fresh : State σ, fresh.kv = .empty → sound fresh.evm →
        ∃ t, fresh.initGenesis env (s.kv.exportGenesis iterators) = .ok t ∧ t.kv = s.kv := by
  have changes := reached.changes injective accepted spelled
  have kept := (Kept.empty env).changes injective changes
  have start : KVStore.empty.Live := by
    intro text listed
    cases listed
  have live : s.kv.Live := Live.changes start injective (Kept.empty env) changes
  obtain ⟨account, configured⟩ := reached.configured
  exact ⟨kept.export_accepted live iterators,
    fun fresh nothing start => kept.export_imported live injective registers start configured iterators nothing⟩

end

/-- `DefaultGenesisState`. -/
def defaultGenesis : GenesisState := ⟨⟨true, true⟩, [], [], [], []⟩

/-- The iterators over a store with one pair and one dynamic precompile. -/
def onePairIterators {kv : KVStore} {pair : TokenPair} {id : Bytes} {text : String}
    (pairs : kv.tokenPairs = update (fun _ => none) id (some pair))
    (allowances : kv.allowances = fun _ => none) (natives : kv.nativePrecompiles = fun _ => false)
    (dynamics : kv.dynamicPrecompiles = update (fun _ => false) text true) : kv.Iterators where
  pairs := [id]
  allowances := []
  natives := []
  dynamics := [text]
  mem_pairs read := by
    rw [pairs]
    by_cases here : read = id <;> simp [here]
  mem_allowances := by simp [allowances]
  mem_natives := by simp [natives]
  mem_dynamics read := by
    rw [dynamics]
    by_cases here : read = text <;> simp [here]
  pairs_nodup := by simp
  allowances_nodup := by simp

theorem registryExtended_run (quiet : KVStore → TokenPair → Prop) :
    GenesisRun registryEnv quiet defaultGenesis registryExtended := by
  have opened : GenesisRun registryEnv quiet defaultGenesis registryOpened := .genesis registryStart _ rfl rfl
  have extended := opened.operation registryOpened (.registerERC20Extension voucher) trivial
  unfold Operation.apply at extended
  simp only [Operation.run, voucher_registered] at extended
  exact extended

/-- A voucher has come in over IBC; the export is accepted and imported. -/
theorem quiet_export_importable_registryExtended :
    ∃ iterators : registryExtended.kv.Iterators,
      (registryExtended.kv.exportGenesis iterators).validate = .ok () ∧
        ∃ t, registryStart.initGenesis registryEnv (registryExtended.kv.exportGenesis iterators) = .ok t ∧
          t.kv = registryExtended.kv := by
  let iterators : registryExtended.kv.Iterators := onePairIterators rfl rfl rfl rfl
  obtain ⟨accepted, imported⟩ := quiet_export_importable registryEnv (fun _ _ same => same) _
    registryEnv_registers defaultGenesis rfl nofun registryExtended (registryExtended_run _) iterators
  exact ⟨iterators, accepted, imported registryStart rfl trivial⟩

/-- Governance switches the conversion of the voucher off. -/
def registryToggled : State Unit :=
  { registryExtended with
    kv := registryExtended.kv.setTokenPair registryEnv { voucherPair with enabled := false }
    events := [⟨"toggle_token_conversion",
      [("cosmos_coin", voucherPair.denom), ("erc20_token", voucherPair.erc20Address)]⟩] }

theorem voucher_toggled : registryExtended.toggleConversion registryEnv "gov" voucher = .ok registryToggled := by
  have found : registryExtended.kv.getTokenPairID voucher = some (voucherPair.getID registryEnv) := by
    unfold KVStore.getTokenPairID
    rw [if_neg (by decide +kernel : ¬ isHexAddress voucher = true)]
    change update (fun _ => none) voucher (some (voucherPair.getID registryEnv)) voucher = _
    rw [update_self]
  have stored : registryExtended.kv.getTokenPair (some (voucherPair.getID registryEnv)) = some voucherPair :=
    update_self ..
  have sized : (voucherPair.getID registryEnv).length ≠ 0 := by
    have long := addressHex_size registryEnv.vm voucherAddress
    change (voucherPair.erc20Address ++ "|" ++ voucherPair.denom).toUTF8.toList.length ≠ 0
    rw [toUTF8_append, toUTF8_append, List.length_append, List.length_append]
    change (addressHex registryEnv.vm voucherAddress).toUTF8.toList.length + _ + _ ≠ 0
    omega
  have toggled : registryExtended.kv.toggleConversion registryEnv voucher =
      .ok (registryToggled.kv, { voucherPair with enabled := false }) := by
    unfold KVStore.toggleConversion
    rw [found]
    dsimp only
    rw [if_neg sized, stored]
    rfl
  unfold State.toggleConversion
  rw [if_neg (by decide), bind_of_ok (rfl : State.validateAuthority registryEnv "gov" = .ok ()), bind_of_ok toggled]
  rfl

/-- The only pair of the store is not an enabled one with the address of the precompile. -/
theorem refused_export {kv : KVStore} {pair : TokenPair} {id : Bytes} {text : String}
    (pairs : kv.tokenPairs = update (fun _ => none) id (some pair))
    (listed : kv.dynamicPrecompiles text = true) (missing : pair.erc20Address ≠ text ∨ pair.enabled = false)
    (iterators : kv.Iterators) : (kv.exportGenesis iterators).validate ≠ .ok () := by
  intro accepted
  have backed := KVStore.live_of_accepted accepted text (by rw [KVStore.listed, listed, Bool.or_true])
  obtain ⟨read, found, stored, address, enabled⟩ := backed
  rw [pairs] at stored
  rcases update_some stored with ⟨-, rfl⟩ | ⟨-, nothing⟩
  · rcases missing with other | disabled
    · exact other address
    · rw [disabled] at enabled
      cases enabled
  · cases nothing

/-- After a toggle of the voucher's pair the export is refused, and so is the export of a
genesis that spells an address in another way and has just been imported. -/
theorem toggled_export_refused :
    (defaultGenesis.validate = .ok () ∧
      GenesisRun registryEnv (fun _ _ => True) defaultGenesis registryToggled ∧
      ∃ iterators : registryToggled.kv.Iterators,
        (registryToggled.kv.exportGenesis iterators).validate ≠ .ok ()) ∧
      (unmarkedGenesis.validate = .ok () ∧
        ∃ s, registryStart.initGenesis registryEnv unmarkedGenesis = .ok s ∧
          ∃ iterators : s.kv.Iterators, (s.kv.exportGenesis iterators).validate ≠ .ok ()) := by
  refine ⟨⟨rfl, ?_, ?_⟩, toOption_some (by decide +kernel), _, rfl, ?_⟩
  · have toggled := (registryExtended_run fun _ _ => True).operation registryExtended
      (.toggleConversion "gov" voucher) fun _ _ => trivial
    unfold Operation.apply at toggled
    simp only [Operation.run, voucher_toggled] at toggled
    exact toggled
  · have pairs : registryToggled.kv.tokenPairs = update (fun _ => none)
        (voucherPair.getID registryEnv) (some { voucherPair with enabled := false }) := update_idem ..
    exact ⟨onePairIterators pairs rfl rfl rfl, refused_export pairs (update_self ..) (Or.inr rfl) _⟩
  · refine ⟨onePairIterators rfl rfl rfl rfl, refused_export rfl (update_self ..) (Or.inl ?_) _⟩
    intro same
    have short : "00000000000000000000000000000000000000aa".toUTF8.toList.length = 40 := by decide +kernel
    have long : "00000000000000000000000000000000000000aa".toUTF8.toList.length = 42 :=
      (congrArg (fun text : String => text.toUTF8.toList.length) same).trans (addressHex_size ..)
    rw [short] at long
    cases long

end OgEvm.Erc20
