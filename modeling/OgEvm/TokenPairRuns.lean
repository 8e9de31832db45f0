import OgEvm.Erc20Refund
import OgEvm.TokenPairs

/- Every operation of the keeper is a sequence of changes of its store, so that what the
changes keep holds after any run of operations. -/
namespace OgEvm.Erc20

open ExceptFacts Relation

section

variable {σ : Type} {env : KeeperEnv σ} {quiet : KVStore → TokenPair → Prop} {kv kv' : KVStore}
  {pair : TokenPair} {s t : State σ}

theorem KVStore.setToken_ok (success : kv.setToken env pair = .ok kv') :
    kv.denomMap pair.denom = none ∧ kv.erc20Map pair.getERC20Contract = none ∧ kv' = kv.withPair env pair := by
  unfold KVStore.setToken at success
  obtain ⟨freshDenom, success⟩ := ite_error_ok success
  obtain ⟨freshContract, success⟩ := ite_error_ok success
  refine ⟨?_, ?_, (Except.ok.inj success).symm⟩
  · simpa [KVStore.isDenomRegistered] using freshDenom
  · simpa [KVStore.isERC20Registered] using freshContract

section

variable {erc20 owner spender : Address} {value : Option ℤ} {allowDisabled : Bool}
  (success : kv.putAllowance env erc20 owner spender value allowDisabled = .ok kv')

include success

theorem KVStore.putAllowance_ok : ∃ pair amount, kv.getTokenPair (kv.erc20Map erc20) = some pair ∧
    value = some amount ∧
    owner ≠ Vector.replicate 20 0 ∧ spender ≠ Vector.replicate 20 0 ∧ 0 ≤ amount ∧ amount < 2 ^ 256 ∧ kv' = { kv with
      allowances := Function.update kv.allowances (allowanceKey erc20 owner spender)
        (if amount = 0 then none else some (newAllowance env erc20 owner spender amount)) } := by
  unfold KVStore.putAllowance at success
  split at success
  · cases success
  · rename_i pair found
    obtain ⟨-, success⟩ := ite_error_ok success
    obtain ⟨ownerSet, success⟩ := ite_error_ok success
    obtain ⟨spenderSet, success⟩ := ite_error_ok success
    cases value with
    | none => cases success
    | some amount =>
      obtain ⟨nonneg, success⟩ := ite_error_ok success
      obtain ⟨fits, success⟩ := ite_error_ok success
      exact ⟨pair, amount, found, rfl, ownerSet, spenderSet, not_lt.mp nonneg, not_le.mp fits,
        (Except.ok.inj success).symm⟩

theorem KVStore.putAllowance_change : Change env quiet kv kv' := by
  obtain ⟨pair, amount, found, -, ownerSet, spenderSet, nonneg, fits, rfl⟩ := KVStore.putAllowance_ok success
  obtain ⟨id, registered, stored⟩ := Option.bind_eq_some_iff.mp found
  split_ifs with zero
  · exact .revoke kv (allowanceKey erc20 owner spender)
  · exact .allow kv erc20 owner spender amount id pair registered stored ownerSet spenderSet
      (by omega) (by omega)

end

theorem State.registerERC20CodeHash_kv {addr : Address} (success : s.registerERC20CodeHash env addr = .ok t) :
    t.kv = s.kv := by
  unfold State.registerERC20CodeHash at success
  obtain ⟨evm, -, rfl⟩ := map_ok success
  rfl

/-- An account written for an address that was not listed. -/
theorem State.registerUnlisted_kv {listed : Bool} {addr : Address}
    (success : (if listed then pure s else s.registerERC20CodeHash env addr) = .ok t) : t.kv = s.kv := by
  split at success
  · cases success
    rfl
  · exact State.registerERC20CodeHash_kv success

theorem State.enableDynamicPrecompile_kv {addr : Address} (success : s.enableDynamicPrecompile env addr = .ok t) :
    t.kv = s.kv.setDynamicPrecompile env addr := by
  obtain ⟨coded, registered, success⟩ := bind_ok success
  cases success
  rw [State.registerUnlisted_kv registered]

theorem State.enableNativePrecompile_kv {addr : Address} (success : s.enableNativePrecompile env addr = .ok t) :
    t.kv = s.kv.setNativePrecompile env addr := by
  obtain ⟨coded, registered, success⟩ := bind_ok success
  cases success
  rw [State.registerUnlisted_kv registered]

/-- An extension is registered where no code stands, for a pair owned by the module. -/
theorem State.registerERC20Extension_ok {denom : Denom}
    (success : s.registerERC20Extension env denom = .ok (t, pair)) :
    ∃ addr created, getIBCDenomAddress denom = .ok addr ∧ pair = newTokenPair env addr denom .module ∧
      (env.getAccount s.evm pair.getERC20Contract).any (hasCodeHash env) = false ∧
      s.kv.denomMap pair.denom = none ∧ s.kv.erc20Map pair.getERC20Contract = none ∧
      created = { s with kv := s.kv.withPair env pair } ∧
      created.enableDynamicPrecompile env pair.getERC20Contract = .ok t := by
  obtain ⟨⟨created, made⟩, creating, success⟩ := bind_ok success
  obtain ⟨done, enabling, success⟩ := bind_ok success
  cases success
  obtain ⟨pair, derived, creating⟩ := bind_ok creating
  obtain ⟨uncoded, creating⟩ := ite_error_ok creating
  obtain ⟨kv, set, creating⟩ := bind_ok creating
  cases creating
  obtain ⟨addr, read, rfl⟩ := map_ok derived
  obtain ⟨freshDenom, freshContract, rfl⟩ := KVStore.setToken_ok set
  exact ⟨addr, _, read, rfl, by simpa using uncoded, freshDenom, freshContract, rfl, enabling⟩

theorem State.registerERC20Extension_changes {denom : Denom}
    (success : s.registerERC20Extension env denom = .ok (t, pair)) : Changes env quiet s.kv t.kv := by
  obtain ⟨addr, created, read, rfl, -, freshDenom, freshContract, rfl, enabling⟩ :=
    State.registerERC20Extension_ok success
  rw [State.enableDynamicPrecompile_kv enabling]
  have registered : Change env quiet s.kv (s.kv.withPair env (newTokenPair env addr denom .module)) :=
    .register _ _ (newTokenPair_spelled env addr denom .module) (ibcDenom_valid read) freshDenom freshContract
  refine (ReflTransGen.single registered).tail
    (.dynamic _ ((newTokenPair env addr denom .module).getID env) _ ?_ rfl)
  rw [KVStore.withPair_tokenPairs]
  exact Function.update_self ..

theorem State.createCoinMetadata_ok {contract : Address} {metadata : Metadata}
    (success : s.createCoinMetadata env contract = .ok (t, metadata)) :
    t.kv = s.kv ∧ metadata.name = createDenom (addressHex env.vm contract) := by
  obtain ⟨data, -, success⟩ := bind_ok success
  obtain ⟨-, success⟩ := ite_error_ok success
  obtain ⟨-, success⟩ := ite_error_ok success
  obtain ⟨_, -, success⟩ := bind_ok success
  cases success
  exact ⟨rfl, rfl⟩

theorem State.registerContract_change {contract : Address}
    (success : s.registerContract env contract = .ok (t, pair)) : Change env quiet s.kv t.kv := by
  unfold State.registerContract at success
  obtain ⟨-, success⟩ := ite_error_ok success
  obtain ⟨⟨created, metadata⟩, creating, success⟩ := bind_ok success
  obtain ⟨kv, set, success⟩ := bind_ok success
  cases success
  obtain ⟨same, name⟩ := State.createCoinMetadata_ok (mapError_ok creating)
  rw [same, name] at set
  obtain ⟨freshDenom, freshContract, rfl⟩ := KVStore.setToken_ok set
  exact .register _ _ (newTokenPair_spelled ..) (createDenom_valid env.vm contract) freshDenom freshContract

theorem State.registerERC20_changes {signer : String} {erc20Addresses : List String}
    (success : s.registerERC20 env signer erc20Addresses = .ok t) : Changes env quiet s.kv t.kv := by
  obtain ⟨_, -, success⟩ := bind_ok success
  obtain ⟨-, success⟩ := ite_error_ok success
  refine foldlM_invariant (fun u : State σ => Changes env quiet s.kv u.kv) ?_ ReflTransGen.refl success
  intro addr _ u v changes registered
  unfold State.registerAddress at registered
  obtain ⟨-, registered⟩ := ite_error_ok registered
  obtain ⟨⟨after, pair⟩, registering, registered⟩ := bind_ok registered
  cases registered
  have changed : Change env quiet u.kv after.kv := State.registerContract_change registering
  exact changes.tail changed

/-- The pair that a token leads to may be toggled or deleted. -/
def Leads (quiet : KVStore → TokenPair → Prop) (kv : KVStore) (token : String) : Prop :=
  ∀ pair, kv.getTokenPair (kv.getTokenPairID token) = some pair → quiet kv pair

theorem KVStore.toggleConversion_ok {token : String} (success : kv.toggleConversion env token = .ok (kv', pair)) :
    ∃ id before, kv.getTokenPairID token = some id ∧ kv.tokenPairs id = some before ∧
      kv' = kv.setTokenPair env { before with enabled := !before.enabled } := by
  unfold KVStore.toggleConversion at success
  split at success
  · cases success
  · rename_i id found
    obtain ⟨-, success⟩ := ite_error_ok success
    split at success
    · cases success
    · rename_i before stored
      cases success
      exact ⟨id, before, found, stored, rfl⟩

theorem State.toggleConversion_ok {authority token : String}
    (success : s.toggleConversion env authority token = .ok t) :
    ∃ pair, s.kv.toggleConversion env token = .ok (t.kv, pair) ∧ t.bank = s.bank ∧ t.evm = s.evm := by
  unfold State.toggleConversion at success
  obtain ⟨-, success⟩ := ite_error_ok success
  obtain ⟨⟨⟩, -, success⟩ := bind_ok success
  obtain ⟨⟨kv, pair⟩, toggled, success⟩ := bind_ok success
  cases success
  exact ⟨pair, toggled, rfl, rfl⟩

theorem State.toggleConversion_change {authority token : String} (allowed : Leads quiet s.kv token)
    (success : s.toggleConversion env authority token = .ok t) : Change env quiet s.kv t.kv := by
  obtain ⟨pair, toggled, -, -⟩ := State.toggleConversion_ok success
  obtain ⟨id, before, found, stored, toggledKv⟩ := KVStore.toggleConversion_ok toggled
  rw [toggledKv]
  refine .toggle s.kv id before stored (allowed before ?_)
  rw [found]
  exact stored

/-! Conversions. -/

theorem State.mintingEnabled_ok {receiver : AccAddress} {token : String}
    (success : s.mintingEnabled env receiver token = .ok pair) :
    ∃ id, s.kv.getTokenPairID token = some id ∧ s.kv.tokenPairs id = some pair ∧ pair.enabled = true ∧
      env.vm.bank.blockedAddr receiver = false := by
  unfold State.mintingEnabled at success
  obtain ⟨-, success⟩ := ite_error_ok success
  split at success
  · cases success
  · rename_i id found
    obtain ⟨-, success⟩ := ite_error_ok success
    split at success
    · cases success
    · rename_i held stored
      obtain ⟨enabled, success⟩ := ite_error_ok success
      obtain ⟨free, success⟩ := ite_error_ok success
      obtain ⟨-, success⟩ := ite_error_ok success
      cases success
      exact ⟨id, found, stored, by simpa using enabled, by simpa using free⟩

theorem State.retrieveBalance_ok {contract account : Address} {balance : ℤ}
    (success : s.retrieveBalance env contract account = .ok balance) :
    balanceOf env.toErc20Env s.store contract account = some balance := by
  unfold State.retrieveBalance at success
  split at success
  · cases success
  · rename_i found read
    cases success
    exact read

/-- What a conversion leaves alone. -/
structure State.SameKeeper (s t : State σ) : Prop where
  kv : t.kv = s.kv
  moduleAccounts : t.moduleAccounts = s.moduleAccounts
  denomMetadata : t.denomMetadata = s.denomMetadata
  sendEnabled : t.sendEnabled = s.sendEnabled

theorem State.escrowTokens_same {contract sender : Address} {amount : ℤ}
    (success : s.escrowTokens env contract sender amount = .ok t) : s.SameKeeper t ∧ t.bank = s.bank := by
  obtain ⟨_, -, success⟩ := bind_ok success
  dsimp only at success
  obtain ⟨_, -, success⟩ := bind_ok success
  obtain ⟨_, -, success⟩ := bind_ok success
  obtain ⟨_, -, success⟩ := bind_ok success
  obtain ⟨-, success⟩ := ite_error_ok success
  cases success
  exact ⟨⟨rfl, rfl, rfl, rfl⟩, rfl⟩

theorem State.mintConverted_same {denom : Denom} {amount balanceCoin : ℤ} {receiver : AccAddress}
    (success : s.mintConverted env denom amount balanceCoin receiver = .ok t) : s.SameKeeper t ∧ t.evm = s.evm := by
  obtain ⟨_, -, success⟩ := bind_ok success
  obtain ⟨bank, -, success⟩ := bind_ok success
  dsimp only at success
  obtain ⟨-, success⟩ := ite_error_ok success
  cases success
  exact ⟨⟨rfl, rfl, rfl, rfl⟩, rfl⟩

theorem State.convertIntoCoins_same {msg : MsgConvertERC20} {receiver : AccAddress} {sender : Address}
    (success : s.convertERC20IntoCoinsForNativeToken env pair msg receiver sender = .ok t) : s.SameKeeper t := by
  obtain ⟨escrowed, escrowing, success⟩ := bind_ok success
  obtain ⟨minted, minting, success⟩ := bind_ok success
  cases success
  obtain ⟨first, -⟩ := State.escrowTokens_same escrowing
  obtain ⟨second, -⟩ := State.mintConverted_same minting
  exact ⟨second.kv.trans first.kv, second.moduleAccounts.trans first.moduleAccounts,
    second.denomMetadata.trans first.denomMetadata, second.sendEnabled.trans first.sendEnabled⟩

/-- Only the bank and the EVM differ. -/
def Store.Framed (s after : Store σ) : Prop := after = { s with bank := after.bank, evm := after.evm }

section

variable {e : Erc20Env σ} {receiver : Address} {sender : AccAddress} {store after : Store σ}
  {err : Option GoError}

theorem burnEscrow_effect {amount balanceToken : ℤ}
    (returned : burnEscrow e pair amount balanceToken receiver store = .ok (after, err)) :
    after = store ∨ ∃ bank, Bank.burnCoins e.vm.bank store.bank moduleName [⟨pair.denom, amount⟩] = .ok bank ∧
      after = { store with bank := bank } := by
  unfold burnEscrow at returned
  split at returned
  · cases returned
    exact Or.inl rfl
  · dsimp only at returned
    split at returned
    · cases returned
      exact Or.inl rfl
    · split at returned
      · cases returned
      · cases returned
        exact Or.inl rfl
      · rename_i bank burned
        cases returned
        exact Or.inr ⟨bank, burned, rfl⟩

/-- The contract is called once, and the bank is only burnt from. -/
theorem unescrowTokens_effect {amount balanceToken : ℤ}
    (returned : unescrowTokens e pair amount balanceToken receiver store = .ok (after, err)) :
    ∃ bank, after = { store with bank := bank, evm :=
        (e.contracts.transfer store.evm pair.getERC20Contract (moduleAddress e) receiver amount).2 } ∧
      (bank = store.bank ∨
        Bank.burnCoins e.vm.bank store.bank moduleName [⟨pair.denom, amount⟩] = .ok bank) := by
  have called : (callTransfer e store pair.getERC20Contract receiver amount).2 = { store with evm :=
    (e.contracts.transfer store.evm pair.getERC20Contract (moduleAddress e) receiver amount).2 } := rfl
  unfold unescrowTokens at returned
  generalize callTransfer e store pair.getERC20Contract receiver amount = call at called returned
  obtain ⟨answer, moved⟩ := call
  change moved = _ at called
  subst called
  cases answer with
  | error reason =>
    cases returned
    exact ⟨store.bank, rfl, Or.inl rfl⟩
  | ok res =>
    obtain ⟨outcome, -, returned⟩ := bind_ok returned
    cases outcome with
    | some reason =>
      cases returned
      exact ⟨store.bank, rfl, Or.inl rfl⟩
    | none =>
      rcases burnEscrow_effect returned with rfl | ⟨bank, burned, rfl⟩
      · exact ⟨store.bank, rfl, Or.inl rfl⟩
      · exact ⟨bank, rfl, Or.inr burned⟩

/-- A coin conversion writes the bank and the EVM only, also where it fails. -/
theorem convertCoinNativeERC20_frame {amount : Option ℤ}
    (returned : convertCoinNativeERC20 e pair amount receiver sender store = .ok (after, err)) :
    store.Framed after := by
  unfold convertCoinNativeERC20 at returned
  split at returned
  · cases returned
  · split at returned
    · cases returned
      rfl
    · split at returned
      · cases returned
        rfl
      · split at returned
        · cases returned
        · cases returned
          rfl
        · rename_i bank _
          obtain ⟨burned, rfl, -⟩ := unescrowTokens_effect returned
          rfl

end

theorem State.convertCoinNative_same {amount : Option ℤ} {receiver : Address} {sender : AccAddress}
    (success : s.convertCoinNative env pair amount receiver sender = .ok t) : s.SameKeeper t := by
  unfold State.convertCoinNative at success
  split at success
  · cases success
  · cases success
  · rename_i after returned
    cases success
    have framed := convertCoinNativeERC20_frame returned
    unfold Store.Framed at framed
    rw [framed]
    exact ⟨rfl, rfl, rfl, rfl⟩

/-- A conversion finds the pair of its token, one of a contract: that pair is deleted or converted. -/
theorem State.conversion_ok {receiver : AccAddress} {token : String} {convert : TokenPair → Except Halt (State σ)}
    (success : ((s.mintingEnabled env receiver token).mapError Halt.error >>= fun pair =>
      if pair.isNativeERC20 then
        if s.selfDestructed env pair then pure { s with kv := s.kv.deleteTokenPair env pair } else convert pair
      else if pair.isNativeCoin then .error (.error errNativeConversionDisabled)
      else .error (.error errUndefinedOwner)) = .ok t) :
    ∃ id pair, s.kv.getTokenPairID token = some id ∧ s.kv.tokenPairs id = some pair ∧ pair.isNativeERC20 = true ∧
      (t = { s with kv := s.kv.deleteTokenPair env pair } ∨ convert pair = .ok t) := by
  obtain ⟨pair, minting, success⟩ := bind_ok success
  obtain ⟨id, found, stored, -⟩ := State.mintingEnabled_ok (mapError_ok minting)
  split at success
  · rename_i external
    refine ⟨id, pair, found, stored, external, ?_⟩
    split at success
    · cases success
      exact Or.inl rfl
    · exact Or.inr success
  · obtain ⟨-, success⟩ := ite_error_ok success
    cases success

theorem State.convertERC20_changes {msg : MsgConvertERC20} (allowed : Leads quiet s.kv msg.contractAddress)
    (success : s.convertERC20 env msg = .ok t) : Changes env quiet s.kv t.kv := by
  obtain ⟨receiver, -, success⟩ := bind_ok success
  obtain ⟨id, pair, found, stored, -, rfl | converted⟩ := State.conversion_ok success
  · exact ReflTransGen.single (.delete s.kv id pair stored (allowed pair (by rw [found]; exact stored)))
  · rw [(State.convertIntoCoins_same converted).kv]
    exact ReflTransGen.refl

theorem State.convertCoin_changes {msg : MsgConvertCoin} (allowed : Leads quiet s.kv msg.coin.denom)
    (success : s.convertCoin env msg = .ok t) : Changes env quiet s.kv t.kv := by
  obtain ⟨sender, -, success⟩ := bind_ok success
  obtain ⟨id, pair, found, stored, -, rfl | converted⟩ := State.conversion_ok success
  · exact ReflTransGen.single (.delete s.kv id pair stored (allowed pair (by rw [found]; exact stored)))
  · rw [(State.convertCoinNative_same converted).kv]
    exact ReflTransGen.refl

/-! Runs. -/

/-- The operations that write the module's store. -/
inductive Operation where
  | updateParams (authority : String) (params : State.Params)
  | registerERC20 (signer : String) (erc20Addresses : List String)
  | registerERC20Extension (denom : Denom)
  | toggleConversion (authority token : String)
  | convertERC20 (msg : MsgConvertERC20)
  | convertCoin (msg : MsgConvertCoin)
  | setAllowance (erc20 owner spender : Address) (value : Option ℤ)
  | deleteAllowance (erc20 owner spender : Address)

def Operation.run (env : KeeperEnv σ) (s : State σ) : Operation → Except Halt (State σ)
  | .updateParams authority params => (s.updateParams env authority params).mapError .error
  | .registerERC20 signer erc20Addresses => (s.registerERC20 env signer erc20Addresses).mapError .error
  | .registerERC20Extension denom => ((s.registerERC20Extension env denom).mapError .error).map Prod.fst
  | .toggleConversion authority token => (s.toggleConversion env authority token).mapError .error
  | .convertERC20 msg => s.convertERC20 env msg
  | .convertCoin msg => s.convertCoin env msg
  | .setAllowance erc20 owner spender value =>
    ((s.kv.setAllowance env erc20 owner spender value).mapError .error).map fun kv => { s with kv := kv }
  | .deleteAllowance erc20 owner spender =>
    ((s.kv.deleteAllowance env erc20 owner spender).mapError .error).map fun kv => { s with kv := kv }

/-- An operation that fails is rolled back. -/
def Operation.apply (env : KeeperEnv σ) (s : State σ) (op : Operation) : State σ :=
  match op.run env s with
  | .ok t => t
  | .error _ => s

/-- The pair that an operation would toggle or delete may be. -/
def Operation.Quiet (quiet : KVStore → TokenPair → Prop) (kv : KVStore) : Operation → Prop
  | .toggleConversion _ token => Leads quiet kv token
  | .convertERC20 msg => Leads quiet kv msg.contractAddress
  | .convertCoin msg => Leads quiet kv msg.coin.denom
  | _ => True

theorem Operation.run_changes {op : Operation} (allowed : op.Quiet quiet s.kv) (success : op.run env s = .ok t) :
    Changes env quiet s.kv t.kv := by
  cases op with
  | updateParams authority params =>
    have updated := mapError_ok success
    unfold State.updateParams at updated
    obtain ⟨-, updated⟩ := ite_error_ok updated
    cases updated
    exact ReflTransGen.single (.params s.kv params.enableErc20 params.permissionlessRegistration)
  | registerERC20 signer erc20Addresses => exact State.registerERC20_changes (mapError_ok success)
  | registerERC20Extension denom =>
    obtain ⟨⟨after, pair⟩, registered, rfl⟩ := map_ok success
    exact State.registerERC20Extension_changes (mapError_ok registered)
  | toggleConversion authority token =>
    exact ReflTransGen.single (State.toggleConversion_change allowed (mapError_ok success))
  | convertERC20 msg => exact State.convertERC20_changes allowed success
  | convertCoin msg => exact State.convertCoin_changes allowed success
  | setAllowance erc20 owner spender value =>
    obtain ⟨kv, set, rfl⟩ := map_ok success
    exact ReflTransGen.single (KVStore.putAllowance_change (mapError_ok set))
  | deleteAllowance erc20 owner spender =>
    obtain ⟨kv, set, rfl⟩ := map_ok success
    exact ReflTransGen.single (KVStore.putAllowance_change (mapError_ok set))

theorem Operation.apply_changes {op : Operation} (allowed : op.Quiet quiet s.kv) :
    Changes env quiet s.kv (op.apply env s).kv := by
  unfold Operation.apply
  split
  · rename_i t success
    exact Operation.run_changes allowed success
  · exact ReflTransGen.refl

/-- States reached from an empty store. Bank, EVM and the accounts may change in between. -/
inductive Reachable (env : KeeperEnv σ) : State σ → Prop
  | empty (s : State σ) (nothing : s.kv = .empty) : Reachable env s
  | operation (s : State σ) (op : Operation) (reached : Reachable env s) : Reachable env (op.apply env s)
  | elsewhere (s t : State σ) (reached : Reachable env s) (same : t.kv = s.kv) : Reachable env t

theorem Reachable.run {op : Operation} (reached : Reachable env s) (success : op.run env s = .ok t) :
    Reachable env t := by
  have next := reached.operation s op
  unfold Operation.apply at next
  rw [success] at next
  exact next

theorem Reachable.kept (injective : Function.Injective env.sum) (reached : Reachable env s) : Kept env s.kv := by
  induction reached with
  | empty s nothing =>
    rw [nothing]
    exact Kept.empty env
  | operation s op _ ih =>
    have any : op.Quiet (fun _ _ => True) s.kv := by
      cases op <;> first | exact fun _ _ => trivial | exact trivial
    exact ih.changes injective (Operation.apply_changes any)
  | elsewhere s t _ same ih =>
    rw [same]
    exact ih

/-- The index of token pairs and what an allowance stands for. -/
structure PairIndex (env : KeeperEnv σ) (kv : KVStore) : Prop extends Indexed env kv where
  one_contract : ∀ id id' pair other, kv.tokenPairs id = some pair → kv.tokenPairs id' = some other →
    pair.getERC20Contract = other.getERC20Contract → id = id' ∧ pair = other
  one_denom : ∀ id id' pair other, kv.tokenPairs id = some pair → kv.tokenPairs id' = some other →
    pair.denom = other.denom → id = id' ∧ pair = other
  allowance_range : ∀ key allowance, kv.allowances key = some allowance →
    1 ≤ allowance.value ∧ allowance.value ≤ 2 ^ 256 - 1
  allowance_key : ∀ key allowance, kv.allowances key = some allowance →
    key = allowanceKey (hexToAddress allowance.erc20Address) (hexToAddress allowance.owner)
      (hexToAddress allowance.spender)
  allowance_pair : ∀ key allowance, kv.allowances key = some allowance →
    ∃ id pair, kv.tokenPairs id = some pair ∧
      pair.getERC20Contract = hexToAddress allowance.erc20Address

theorem Kept.pairIndex (kept : Kept env kv) : PairIndex env kv where
  toIndexed := kept.indexed
  one_contract id id' pair other stored storedOther shared := by
    have same := kept.indexed.unique stored storedOther (Or.inl shared)
    rw [same, storedOther] at stored
    exact ⟨same, (Option.some.inj stored).symm⟩
  one_denom id id' pair other stored storedOther shared := by
    have same := kept.indexed.unique stored storedOther (Or.inr shared)
    rw [same, storedOther] at stored
    exact ⟨same, (Option.some.inj stored).symm⟩
  allowance_range key allowance entry := by
    obtain ⟨erc20, owner, spender, allowed⟩ := kept.allowed key allowance entry
    exact ⟨allowed.positive, allowed.fits⟩
  allowance_key key allowance entry := by
    obtain ⟨erc20, owner, spender, allowed⟩ := kept.allowed key allowance entry
    rw [allowed.key, allowed.entry]
    simp only [newAllowance, hexToAddress_addressHex]
  allowance_pair key allowance entry := by
    obtain ⟨erc20, owner, spender, allowed⟩ := kept.allowed key allowance entry
    obtain ⟨id, pair, stored, contract⟩ := allowed.registered
    refine ⟨id, pair, stored, contract.trans ?_⟩
    rw [allowed.entry]
    exact (hexToAddress_addressHex env.vm erc20).symm

/-- In every reachable state the pairs, the two maps and the allowances agree. -/
theorem reachable_pairIndex (env : KeeperEnv σ) (injective : Function.Injective env.sum) (s : State σ)
    (reached : Reachable env s) : PairIndex env s.kv :=
  (reached.kept injective).pairIndex

end

/-- A chain where every contract names itself a token and every account may be written. The
hash keeps the whole text. -/
def registryEnv : KeeperEnv Unit where
  vm := ⟨erc20Config, bytesToHash⟩
  contracts :=
    { transfer := fun _ _ _ _ _ => (.error (.other, "execution reverted"), ())
      balanceOf := fun _ _ _ => .ok (word 0) }
  addrCodec _ := .ok [3]
  newIntFromString _ := none
  extractIBCDenom denom := denom
  sum := id
  authority := "gov"
  accAddressFromBech32 _ := .ok [3]
  getAccount _ _ := none
  setAccount _ _ _ := .ok ()
  getCode _ _ := []
  setCode _ _ _ := ()
  erc20Bytecode := [96]
  queryERC20 _ _ := .ok ⟨"Token", "TKN", 18⟩
  validateMetadata _ := .ok ()

def registryStart : State Unit where
  kv := .empty
  moduleAccounts _ := false
  denomMetadata _ := none
  sendEnabled _ := true
  bank := Precisebank.emptyBank
  evm := ()
  events := []

/-- The module is switched on, and anyone may register a contract. -/
def registryOpened : State Unit := registryStart.setParams ⟨true, true⟩

def voucher : Denom := "ibc/27394FB092D2ECCD56123C74F36E4C1F926001CEADA9CA97EA622B25F41E5EB2"

/-- The last twenty bytes of the voucher's hash. -/
def voucherAddress : Address :=
  bytesToAddress [0xF3, 0x6E, 0x4C, 0x1F, 0x92, 0x60, 0x01, 0xCE, 0xAD, 0xA9, 0xCA, 0x97, 0xEA, 0x62,
    0x2B, 0x25, 0xF4, 0x1E, 0x5E, 0xB2]

theorem voucher_read : getIBCDenomAddress voucher = .ok voucherAddress :=
  toOption_some (by decide +kernel)

def voucherPair : TokenPair := newTokenPair registryEnv voucherAddress voucher .module

def registryExtended : State Unit :=
  { registryOpened with
    kv := (registryOpened.kv.withPair registryEnv voucherPair).setDynamicPrecompile registryEnv
      voucherPair.getERC20Contract }

theorem voucher_registered :
    registryOpened.registerERC20Extension registryEnv voucher = .ok (registryExtended, voucherPair) := by
  unfold State.registerERC20Extension State.createNewTokenPair newTokenPairSTRv2
  rw [voucher_read]
  rfl

theorem reachable_pairIndex_registryExtended :
    PairIndex registryEnv registryExtended.kv ∧
      registryExtended.kv.tokenPairs (voucherPair.getID registryEnv) = some voucherPair := by
  refine ⟨reachable_pairIndex registryEnv (fun _ _ same => same) registryExtended ?_, Function.update_self ..⟩
  have opened : Reachable registryEnv registryOpened :=
    (Reachable.empty registryStart rfl).operation _ (.updateParams "gov" ⟨true, true⟩)
  have extended : Operation.run registryEnv registryOpened (.registerERC20Extension voucher) =
      .ok registryExtended := by
    simp only [Operation.run, voucher_registered]
    rfl
  exact opened.run extended

end OgEvm.Erc20
