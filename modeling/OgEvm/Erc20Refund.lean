import OgEvm.Erc20
import OgEvm.PrecisebankInvariant

/- The refund of a failed IBC transfer, through the conversion that follows it. The
coins are in escrow before the contract is called, and the callback drops the error
of every later step, so the sender is made whole exactly when no later step fails. -/
namespace OgEvm.Erc20

open ExceptFacts

section

variable {σ : Type} {env : Erc20Env σ} {pair : TokenPair} {amount balanceToken : ℤ}
  {receiver : Address} {sender account : AccAddress} {s after : Store σ} {err : Option GoError}

/-- The contract accepts the transfer, answers it as an ERC-20 does and raises the
receiver's balance by the amount. -/
def Delivers (env : Erc20Env σ) (contract receiver : Address) (amount balanceToken : ℤ) (s : Store σ) :
    Prop :=
  match callTransfer env s contract receiver amount with
  | (.error _, _) => False
  | (.ok res, s) =>
    checkResponse env contract res = .ok none ∧
      balanceOf env s contract receiver = some (balanceToken + amount)

theorem callTransfer_bank (env : Erc20Env σ) (s : Store σ) (contract receiver : Address) (amount : ℤ) :
    (callTransfer env s contract receiver amount).2.bank = s.bank := rfl

/-- Contracts do not see the bank. -/
theorem delivers_withBank (contract : Address) (bank : BankState) :
    Delivers env contract receiver amount balanceToken { s with bank := bank } ↔
      Delivers env contract receiver amount balanceToken s := by
  unfold Delivers callTransfer
  dsimp only
  generalize Except.mapError _ _ = answer
  cases answer with
  | error err => exact Iff.rfl
  | ok res => exact Iff.rfl

/-- The burn that ends a conversion, or the reason why it is not reached. -/
theorem burnEscrow_cases (positive : 0 < amount) (found : env.vm.bank.moduleAddress moduleName = some account)
    (returned : burnEscrow env pair amount balanceToken receiver s = .ok (after, err)) :
    (err = none ∧ balanceOf env s pair.getERC20Contract receiver = some (balanceToken + amount) ∧
        amount ≤ Bank.spendableAmount s.bank account pair.denom ∧ after.evm = s.evm ∧
        after.bank.supply pair.denom = s.bank.supply pair.denom - amount) ∨
      (after = s ∧ ¬ (balanceOf env s pair.getERC20Contract receiver = some (balanceToken + amount) ∧
        amount ≤ Bank.spendableAmount s.bank account pair.denom)) := by
  unfold burnEscrow at returned
  split at returned
  · rename_i unreadable
    cases returned
    exact Or.inr ⟨rfl, fun settled => by cases unreadable.symm.trans settled.1⟩
  · rename_i balanceTokenAfter readable
    dsimp only at returned
    by_cases wrong : balanceTokenAfter ≠ balanceToken + amount
    · rw [if_pos wrong] at returned
      cases returned
      refine Or.inr ⟨rfl, fun settled => wrong ?_⟩
      exact Option.some.inj (readable.symm.trans settled.1)
    · rw [if_neg wrong] at returned
      rw [not_not.mp wrong] at readable
      split at returned
      · cases returned
      · rename_i code text failed
        cases returned
        have short := Bank.burnCoins_error positive found failed
        exact Or.inr ⟨rfl, fun settled => absurd settled.2 (not_le.mpr short)⟩
      · rename_i bank burned
        cases returned
        have covered := Bank.burnCoins_covered found burned
        obtain ⟨addr, -, -, rfl⟩ := Bank.burnCoins_ok burned
        refine Or.inl ⟨rfl, readable, covered, rfl, ?_⟩
        change s.bank.supply pair.denom + -1 * Coins.amountOf [⟨pair.denom, amount⟩] pair.denom = _
        rw [Coins.amountOf_singleton, if_pos rfl]
        ring

/-- After the escrow, the conversion succeeds exactly when the contract delivers and
the module account can burn. -/
theorem unescrowTokens_cases (positive : 0 < amount) (found : env.vm.bank.moduleAddress moduleName = some account)
    (returned : unescrowTokens env pair amount balanceToken receiver s = .ok (after, err)) :
    (err = none ∧ Delivers env pair.getERC20Contract receiver amount balanceToken s ∧
        amount ≤ Bank.spendableAmount s.bank account pair.denom ∧
        balanceOf env after pair.getERC20Contract receiver = some (balanceToken + amount) ∧
        after.bank.supply pair.denom = s.bank.supply pair.denom - amount) ∨
      (after.bank = s.bank ∧ ¬ (Delivers env pair.getERC20Contract receiver amount balanceToken s ∧
        amount ≤ Bank.spendableAmount s.bank account pair.denom)) := by
  have sameBank := callTransfer_bank env s pair.getERC20Contract receiver amount
  unfold unescrowTokens at returned
  unfold Delivers
  generalize callTransfer env s pair.getERC20Contract receiver amount = called at sameBank returned ⊢
  obtain ⟨answer, t⟩ := called
  change t.bank = s.bank at sameBank
  cases answer with
  | error reason =>
    cases returned
    exact Or.inr ⟨sameBank, fun settled => settled.1⟩
  | ok res =>
    obtain ⟨checked, response, returned⟩ := bind_ok returned
    cases checked with
    | some reason =>
      cases returned
      refine Or.inr ⟨sameBank, fun settled => ?_⟩
      cases (Except.ok.inj (response.symm.trans settled.1.1))
    | none =>
      rcases burnEscrow_cases positive found returned with
        ⟨done, delivered, covered, evm, supply⟩ | ⟨rfl, failed⟩
      · rw [sameBank] at covered supply
        refine Or.inl ⟨done, ⟨response, delivered⟩, covered, ?_, supply⟩
        unfold balanceOf at delivered ⊢
        rw [evm]
        exact delivered
      · rw [sameBank] at failed
        exact Or.inr ⟨sameBank, fun settled => failed ⟨settled.1.2, settled.2⟩⟩

/-- The store once the coins are in escrow. -/
def escrowed (s : Store σ) (denom : Denom) (sender account : AccAddress) (amount : ℤ) : Store σ :=
  { s with bank := Bank.moved s.bank sender account [⟨denom, amount⟩] }

theorem escrowed_supply (s : Store σ) (denom : Denom) (sender account : AccAddress) (amount : ℤ) :
    (escrowed s denom sender account amount).bank.supply = s.bank.supply :=
  (Bank.moved_frame s.bank sender account [⟨denom, amount⟩]).supply

theorem escrowed_balance (s : Store σ) (denom : Denom) (sender account other : AccAddress)
    (positive : 0 < amount) : (escrowed s denom sender account amount).bank.balances denom other =
      s.bank.balances denom other - (if other = sender then amount else 0) +
        (if other = account then amount else 0) := by
  unfold escrowed
  rw [Bank.moved_balance _ _ _ (Coins.isValid_singleton denom amount positive),
    Coins.amountOf_singleton, if_pos rfl]

theorem escrowed_spendable (s : Store σ) (denom : Denom) (positive : 0 < amount) (apart : sender ≠ account) :
    Bank.spendableAmount (escrowed s denom sender account amount).bank account denom =
      Bank.spendableAmount s.bank account denom + amount := by
  have locked := (Bank.moved_frame s.bank sender account [⟨denom, amount⟩]).locked
  unfold Bank.spendableAmount
  rw [escrowed_balance s denom sender account account positive, if_neg apart.symm, if_pos rfl]
  change _ - ((Bank.moved s.bank sender account [⟨denom, amount⟩]).locked account denom : ℤ) = _
  rw [locked]
  ring

/-- The callback gets as far as the escrow. -/
structure Attempted (env : Erc20Env σ) (data : FungibleTokenPacketData) (pair : TokenPair)
    (sender : AccAddress) (amount balanceToken : ℤ) (s : Store σ) : Prop where
  enabled : s.enableErc20 = true
  registered : s.isDenomRegistered (env.extractIBCDenom data.denom) = true
  ordinary : s.moduleAccounts sender = false
  parsed : env.newIntFromString data.amount = some amount
  positive : 0 < amount
  readable : balanceOf env s pair.getERC20Contract (bytesToAddress sender) = some balanceToken
  covered : amount ≤ Bank.spendableAmount s.bank sender pair.denom

/-- A conversion that returns has stopped before the escrow or gone through it. -/
theorem convertCoinNativeERC20_cases {parsed : Option ℤ}
    (returned : convertCoinNativeERC20 env pair parsed receiver sender s = .ok (after, err)) :
    (after = s ∧ ∀ amount balanceToken, parsed = some amount → 0 < amount →
        balanceOf env s pair.getERC20Contract receiver = some balanceToken →
        ¬ amount ≤ Bank.spendableAmount s.bank sender pair.denom) ∨
      ∃ amount balanceToken account, parsed = some amount ∧ 0 < amount ∧
        balanceOf env s pair.getERC20Contract receiver = some balanceToken ∧
        amount ≤ Bank.spendableAmount s.bank sender pair.denom ∧
        env.vm.bank.moduleAddress moduleName = some account ∧ unescrowTokens env pair amount balanceToken receiver
          (escrowed s pair.denom sender account amount) = .ok (after, err) := by
  unfold convertCoinNativeERC20 at returned
  cases parsed with
  | none => cases returned
  | some amount =>
    dsimp only at returned
    by_cases positive : amount ≤ 0
    · rw [if_pos positive] at returned
      cases returned
      refine Or.inl ⟨rfl, fun other _ same wrong => ?_⟩
      cases same
      omega
    · rw [if_neg positive] at returned
      cases readable : balanceOf env s pair.getERC20Contract receiver with
      | none =>
        rw [readable] at returned
        cases returned
        exact Or.inl ⟨rfl, fun _ _ _ _ wrong => by cases wrong⟩
      | some balanceToken =>
        rw [readable] at returned
        dsimp only [Bank.sendCoinsFromAccountToModule] at returned
        cases found : env.vm.bank.moduleAddress moduleName with
        | none =>
          rw [found] at returned
          cases returned
        | some account =>
          rw [found] at returned
          dsimp only at returned
          by_cases covered : amount ≤ Bank.spendableAmount s.bank sender pair.denom
          · rw [Bank.sendCoins_enough (not_le.mp positive) covered] at returned
            exact Or.inr ⟨amount, balanceToken, account, rfl, not_le.mp positive, rfl, covered, rfl, returned⟩
          · obtain ⟨message, short⟩ :=
              Bank.sendCoins_short account (not_le.mp positive) (not_le.mp covered)
            rw [short] at returned
            cases returned
            refine Or.inl ⟨rfl, fun other _ same _ _ => ?_⟩
            cases same
            exact covered

variable {data : FungibleTokenPacketData}

/-- What the callback leaves of the bank and of the contracts. -/
theorem convertCoinToERC20FromPacket_cases (decoded : env.addrCodec data.sender = .ok sender)
    (registered : s.getTokenPair (s.getTokenPairID data.denom) = some pair) (native : pair.isNativeERC20 = true)
    (returned : convertCoinToERC20FromPacket env data s = .ok (after, none)) :
    (after.bank = s.bank ∧ ∀ amount balanceToken, ¬ Attempted env data pair sender amount balanceToken s) ∨
      ∃ amount balanceToken account t err, Attempted env data pair sender amount balanceToken s ∧
        env.vm.bank.moduleAddress moduleName = some account ∧
        unescrowTokens env pair amount balanceToken (bytesToAddress sender)
          (escrowed s pair.denom sender account amount) = .ok (t, err) ∧ after.bank = t.bank ∧ after.evm = t.evm := by
  have foreign : pair.isNativeCoin = false := by
    simp only [TokenPair.isNativeERC20, decide_eq_true_eq] at native
    simp [TokenPair.isNativeCoin, native]
  simp only [convertCoinToERC20FromPacket, decoded, registered, foreign, native, Bool.false_eq_true,
    if_false, if_true] at returned
  by_cases off : (!s.enableErc20 || !s.isDenomRegistered (env.extractIBCDenom data.denom)) = true
  · rw [if_pos off] at returned
    cases returned
    refine Or.inl ⟨rfl, fun amount balanceToken attempted => ?_⟩
    rw [attempted.enabled, attempted.registered] at off
    cases off
  rw [if_neg off] at returned
  by_cases owned : s.moduleAccounts sender = true
  · rw [if_pos owned] at returned
    cases returned
    exact Or.inl ⟨rfl, fun amount balanceToken attempted => by cases owned.symm.trans attempted.ordinary⟩
  rw [if_neg owned] at returned
  obtain ⟨⟨t, err⟩, converted, returned⟩ := bind_ok returned
  have same : after.bank = t.bank ∧ after.evm = t.evm := by
    cases err with
    | none =>
      cases returned
      exact ⟨rfl, rfl⟩
    | some err =>
      cases returned
      exact ⟨rfl, rfl⟩
  rcases convertCoinNativeERC20_cases converted with
    ⟨rfl, stopped⟩ | ⟨amount, balanceToken, account, parsed, positive, readable, covered, found, ran⟩
  · exact Or.inl ⟨same.1, fun amount balanceToken attempted => stopped amount balanceToken
      attempted.parsed attempted.positive attempted.readable attempted.covered⟩
  · simp only [Bool.or_eq_true, Bool.not_eq_true', not_or, Bool.not_eq_false] at off
    exact Or.inr ⟨amount, balanceToken, account, t, err,
      ⟨off.1, off.2, Bool.not_eq_true _ ▸ owned, parsed, positive, readable, covered⟩, found, ran, same⟩

/-- The packet's amount left the coin supply and reached the sender as tokens, or the
sender still has the refund. -/
def ConvertedOrKept (env : Erc20Env σ) (data : FungibleTokenPacketData) (pair : TokenPair)
    (sender : AccAddress) (s after : Store σ) : Prop :=
  (∃ amount balanceToken, env.newIntFromString data.amount = some amount ∧
      after.bank.supply pair.denom = s.bank.supply pair.denom - amount ∧
      balanceOf env s pair.getERC20Contract (bytesToAddress sender) = some balanceToken ∧
      balanceOf env after pair.getERC20Contract (bytesToAddress sender) = some (balanceToken + amount)) ∨
    after.bank.balances pair.denom sender = s.bank.balances pair.denom sender

/-- A callback that returns no error has converted or kept the refund exactly when every
conversion it attempts is one the contract delivers and the module account can burn. -/
theorem refund_convertedOrKept_iff (decoded : env.addrCodec data.sender = .ok sender)
    (registered : s.getTokenPair (s.getTokenPairID data.denom) = some pair)
    (native : pair.isNativeERC20 = true)
    (returned : onTimeoutPacket env data s = .ok (after, none) ∨
      ∃ text, onAcknowledgementPacket env data (.error text) s = .ok (after, none)) :
    ConvertedOrKept env data pair sender s after ↔
      ∀ amount balanceToken account, Attempted env data pair sender amount balanceToken s →
        env.vm.bank.moduleAddress moduleName = some account → sender = account ∨
          (Delivers env pair.getERC20Contract (bytesToAddress sender) amount balanceToken s ∧
            0 ≤ Bank.spendableAmount s.bank account pair.denom) := by
  have returned : convertCoinToERC20FromPacket env data s = .ok (after, none) := by
    rcases returned with timedOut | ⟨text, acknowledged⟩
    · exact timedOut
    · exact acknowledged
  rcases convertCoinToERC20FromPacket_cases decoded registered native returned with
    ⟨same, stopped⟩ | ⟨amount, balanceToken, account, t, err, attempted, found, ran, bank, evm⟩
  · refine ⟨fun _ amount balanceToken account attempted => absurd attempted (stopped _ _), fun _ => ?_⟩
    exact Or.inr (by rw [same])
  have tokens : ∀ queried, balanceOf env after queried (bytesToAddress sender) =
      balanceOf env t queried (bytesToAddress sender) := by
    intro queried
    unfold balanceOf
    rw [evm]
  have delivers : Delivers env pair.getERC20Contract (bytesToAddress sender) amount balanceToken
      (escrowed s pair.denom sender account amount) ↔
      Delivers env pair.getERC20Contract (bytesToAddress sender) amount balanceToken s :=
    delivers_withBank _ _
  have spendable := @escrowed_spendable σ amount sender account s pair.denom attempted.positive
  have balance := escrowed_balance s pair.denom sender account sender attempted.positive
  rw [if_pos rfl] at balance
  constructor
  · intro kept otherAmount otherBalance otherAccount other otherFound
    cases attempted.parsed.symm.trans other.parsed
    cases attempted.readable.symm.trans other.readable
    cases found.symm.trans otherFound
    by_cases own : sender = account
    · exact Or.inl own
    refine Or.inr ?_
    rcases unescrowTokens_cases attempted.positive found ran with
      ⟨-, delivered, enough, -, -⟩ | ⟨untouched, -⟩
    · rw [spendable own] at enough
      exact ⟨delivers.mp delivered, by omega⟩
    · exfalso
      have positive := attempted.positive
      rcases kept with ⟨burned, -, parsed, supply, -⟩ | refund
      · cases attempted.parsed.symm.trans parsed
        rw [bank, untouched, escrowed_supply] at supply
        omega
      · rw [bank, untouched, balance, if_neg own] at refund
        omega
  · intro settled
    rcases unescrowTokens_cases attempted.positive found ran with
      ⟨-, -, -, delivered, supply⟩ | ⟨untouched, failed⟩
    · refine Or.inl ⟨amount, balanceToken, attempted.parsed, ?_, attempted.readable, ?_⟩
      · rw [bank, supply, escrowed_supply]
      · rw [tokens, delivered]
    · rcases settled amount balanceToken account attempted found with own | ⟨delivered, burnable⟩
      · refine Or.inr ?_
        rw [bank, untouched, balance, if_pos own]
        ring
      · by_cases own : sender = account
        · refine Or.inr ?_
          rw [bank, untouched, balance, if_pos own]
          ring
        · exact absurd ⟨delivers.mpr delivered, by rw [spendable own]; omega⟩ failed

end

/-- A chain whose erc20 module may burn. -/
def erc20Config : Config :=
  { Precisebank.sixDecimals with
    moduleAddress := fun name =>
      if name = precisebankModule then some [1] else if name = moduleName then some [7] else none
    hasPermission := fun name _ => name = moduleName
    blockedAddr := fun addr => addr = [1] || addr = [7]
    reserve_registered := rfl }

def word (value : ℕ) : Bytes := List.replicate 31 0 ++ [UInt8.ofNat value]

/-- One token, whose state is the balance it reports for everyone; its `transfer` returns the
given word and adds the given part of the amount. -/
def tokenEnv (ret : Bytes) (part : ℤ) : Erc20Env ℕ where
  vm := ⟨erc20Config, bytesToHash⟩
  contracts :=
    { transfer := fun held _ _ _ amount => (.ok ⟨ret, []⟩, held + (part * amount).toNat)
      balanceOf := fun held _ _ => .ok (word held) }
  addrCodec _ := .ok [3]
  newIntFromString _ := some 10
  extractIBCDenom denom := denom

def tokenPair : TokenPair :=
  ⟨"0x00000000000000000000000000000000000000aA", "erc20:0x00000000000000000000000000000000000000aA",
    true, .external⟩

/-- The sender has just been refunded ten coins. -/
def refunded : Store ℕ where
  tokenPairs _ := some tokenPair
  erc20Map _ := none
  denomMap _ := some [1]
  enableErc20 := true
  moduleAccounts _ := false
  bank :=
    { Precisebank.emptyBank with
      balances := fun denom => if denom = tokenPair.denom then DFinsupp.single [3] 10 else 0
      supply := fun denom => if denom = tokenPair.denom then 10 else 0 }
  evm := 4
  events := []

def packet : FungibleTokenPacketData := ⟨tokenPair.denom, "10", "sender", "receiver", ""⟩

theorem packet_registered : refunded.getTokenPair (refunded.getTokenPairID packet.denom) = some tokenPair := by
  decide +kernel

theorem refund_convertedOrKept_iff_tokenEnv :
    ∃ after, onTimeoutPacket (tokenEnv (word 1) 1) packet refunded = .ok (after, none) ∧
      ConvertedOrKept (tokenEnv (word 1) 1) packet tokenPair [3] refunded after := by
  have runs : ((onTimeoutPacket (tokenEnv (word 1) 1) packet refunded).map Prod.snd).toOption =
      some none := by
    decide +kernel
  obtain ⟨⟨after, err⟩, returned, none_err⟩ := map_ok (toOption_some runs)
  cases none_err
  refine ⟨after, returned, ?_⟩
  have decoded : (tokenEnv (word 1) 1).addrCodec packet.sender = .ok [3] := rfl
  apply (refund_convertedOrKept_iff decoded packet_registered rfl (Or.inl returned)).mpr
  intro amount balanceToken account attempted found
  cases attempted.parsed
  cases attempted.readable
  cases (Option.some.inj found : [7] = account)
  exact Or.inr ⟨⟨by decide +kernel, by decide +kernel⟩, by decide +kernel⟩

/-- The contract answers that the transfer failed. The callback returns no error, the
coins are neither burned nor with the sender, and no token has moved. -/
theorem refund_lost_to_false :
    ∃ after, onTimeoutPacket (tokenEnv (word 0) 0) packet refunded = .ok (after, none) ∧
      refunded.bank.balances tokenPair.denom [3] = 10 ∧ after.bank.balances tokenPair.denom [3] = 0 ∧
      ¬ ConvertedOrKept (tokenEnv (word 0) 0) packet tokenPair [3] refunded after := by
  have runs : ((onTimeoutPacket (tokenEnv (word 0) 0) packet refunded).map fun (after, err) =>
      (err, after.bank.balances tokenPair.denom [3], after.bank.supply tokenPair.denom)).toOption =
      some (none, 0, 10) := by
    decide +kernel
  obtain ⟨⟨after, err⟩, returned, shown⟩ := map_ok (toOption_some runs)
  simp only [Prod.mk.injEq] at shown
  obtain ⟨rfl, balance, supply⟩ := shown
  have before : refunded.bank.balances tokenPair.denom [3] = 10 := by decide +kernel
  refine ⟨after, returned, before, balance, ?_⟩
  rintro (⟨amount, balanceToken, parsed, burned, -⟩ | kept)
  · cases parsed
    rw [supply] at burned
    exact absurd burned (by decide +kernel)
  · rw [balance, before] at kept
    cases kept

end OgEvm.Erc20
