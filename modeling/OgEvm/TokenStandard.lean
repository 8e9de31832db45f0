import OgEvm.Allowances

/- The transfers of the ERC-20 precompile against the standard: a transfer goes through if the
payer has the amount and, for a transfer on behalf of another, was allowed it. A transfer of
nothing is refused, and a transfer of the extended coin to oneself is never checked. -/
namespace OgEvm

open ExceptFacts Precisebank

/-! One coin through either keeper. -/

/-- precisebank returns before any check. -/
def BankKeeper.Unchecked (keeper : BankKeeper) (cfg : Config) (denom : Denom) (fromAddr toAddr : AccAddress) : Prop :=
  keeper = .precisebank ∧ denom = cfg.extendedDenom ∧ fromAddr = toAddr

section

variable {cfg : Config} {s t : BankState} {keeper : BankKeeper} {fromAddr toAddr : AccAddress} {amt : ℤ}
  {denom : Denom} (positive : 0 < amt) (fromApart : fromAddr ≠ cfg.reserve) (toApart : toAddr ≠ cfg.reserve)

include positive

theorem Bank.sendCoins_succeeds_iff :
    (∃ t, Bank.sendCoins s fromAddr toAddr [⟨denom, amt⟩] = .ok t) ↔ amt ≤ Bank.spendableCoin s fromAddr denom := by
  constructor
  · rintro ⟨t, success⟩
    simpa [Coins.amountOf_singleton] using Bank.sendCoins_covered success denom
  · intro enough
    refine ⟨_, Bank.sendCoins_enough positive ?_⟩
    unfold Bank.spendableCoin at enough
    omega

omit positive in
theorem Bank.sendCoins_booked (success : Bank.sendCoins s fromAddr toAddr [⟨denom, amt⟩] = .ok t)
    (account : AccAddress) : t.balances denom account =
      s.balances denom account + (booked toAddr amt account - booked fromAddr amt account) := by
  obtain ⟨valid, rfl⟩ := Bank.sendCoins_ok success
  rw [Bank.moved_balance s fromAddr toAddr valid, Coins.amountOf_singleton, if_pos rfl]
  unfold booked
  ring

include fromApart toApart

theorem BankKeeper.sendCoins_succeeds_iff (backed : Backed cfg s) (unlocked : s.locked cfg.reserve cfg.denom = 0)
    (fromNamed : fromAddr ≠ []) (toNamed : toAddr ≠ []) :
    (∃ t, keeper.sendCoins cfg s fromAddr toAddr [⟨denom, amt⟩] = .ok t) ↔
      keeper.Unchecked cfg denom fromAddr toAddr ∨ amt ≤ keeper.spendableCoin cfg s fromAddr denom := by
  unfold BankKeeper.Unchecked
  cases keeper with
  | base =>
    rw [or_iff_right (by simp)]
    exact Bank.sendCoins_succeeds_iff positive
  | precisebank =>
    change (∃ t, Precisebank.sendCoins cfg s fromAddr toAddr [⟨denom, amt⟩] = .ok t) ↔
      _ ∨ amt ≤ Precisebank.spendableCoin cfg s fromAddr denom
    by_cases extended : denom = cfg.extendedDenom
    · subst extended
      rw [sendCoins_extendedCoin positive]
      by_cases self : fromAddr = toAddr
      · subst self
        rw [sendExtendedCoins, if_neg (by tauto), if_pos rfl]
        exact ⟨fun _ => Or.inl ⟨rfl, rfl, rfl⟩, fun _ => ⟨s, rfl⟩⟩
      · rw [or_iff_right (by simp [self])]
        exact sendExtendedCoins_succeeds_iff backed unlocked positive fromApart toApart self fromNamed toNamed
    · rw [sendCoins_passthrough positive extended, or_iff_right (by simp [extended]),
        Bank.sendCoins_succeeds_iff positive]
      simp [Precisebank.spendableCoin, extended]

/-- Exactly the amount moves. -/
theorem BankKeeper.sendCoins_exact (success : keeper.sendCoins cfg s fromAddr toAddr [⟨denom, amt⟩] = .ok t)
    (account : AccAddress) : keeper.getBalance cfg t account denom =
      keeper.getBalance cfg s account denom + (booked toAddr amt account - booked fromAddr amt account) := by
  cases keeper with
  | base => exact Bank.sendCoins_booked success account
  | precisebank =>
    change Precisebank.sendCoins cfg s fromAddr toAddr [⟨denom, amt⟩] = .ok t at success
    change Precisebank.getBalance cfg t account denom = Precisebank.getBalance cfg s account denom + _
    by_cases extended : denom = cfg.extendedDenom
    · subst extended
      rw [sendCoins_extendedCoin positive] at success
      by_cases self : fromAddr = toAddr
      · subst self
        rw [sendExtendedCoins, if_neg (by tauto), if_pos rfl] at success
        cases success
        rw [sub_self, add_zero]
      · by_cases ordinary : account = cfg.reserve
        · rw [ordinary, getBalance_reserve, getBalance_reserve, booked_ne _ toApart.symm, booked_ne _ fromApart.symm]
          rfl
        · exact sendExtendedCoins_exact positive fromApart toApart self success ordinary
    · rw [sendCoins_passthrough positive extended] at success
      rw [getBalance_passthrough extended, getBalance_passthrough extended]
      exact Bank.sendCoins_booked success account

end

/-! No send issues coins. -/

section

variable (cfg : Config) (s : BankState) (fromAddr toAddr : AccAddress)

theorem Bank.sendCoins_supply (amt : Coins) :
    Returns (fun t => t.supply = s.supply) (Bank.sendCoins s fromAddr toAddr amt) := by
  intro t success
  obtain ⟨-, rfl⟩ := Bank.sendCoins_ok success
  exact (Bank.moved_frame s fromAddr toAddr amt).supply

theorem Precisebank.setFractionalBalance_supply (amount : ℤ) :
    Returns (fun t => t.supply = s.supply) (setFractionalBalance cfg s fromAddr amount) := by
  intro t success
  rw [(setFractionalBalance_ok success).1]

theorem Precisebank.settleSend_supply (amt integerAmt : ℤ) (borrow carry : Bool) :
    Returns (fun t => t.supply = s.supply) (settleSend cfg s fromAddr toAddr amt integerAmt borrow carry) := by
  refine Returns.bind (Returns.ite ((Bank.sendCoins_supply s _ _ _).mapError _) (Returns.ok rfl)) fun paid same => ?_
  rw [← same]
  refine Returns.bind (show Returns (fun t : BankState => t.supply = paid.supply) _ from
    Returns.ite (Returns.mapError _ ?_) (Returns.ok rfl)) fun lent same => ?_
  · unfold Bank.sendCoinsFromAccountToModule
    split
    · exact Returns.error _
    · exact Bank.sendCoins_supply paid _ _ _
  · rw [← same]
    exact Returns.ite ((Bank.sendCoins_supply lent _ _ _).mapError _) (Returns.ok rfl)

theorem Precisebank.sendExtendedCoins_supply (amt : ℤ) :
    Returns (fun t => t.supply = s.supply) (sendExtendedCoins cfg s fromAddr toAddr amt) := by
  refine Returns.ite (Returns.ite ((Bank.sendCoins_supply s _ _ _).mapError _) (Returns.ok rfl))
    (Returns.ite (Returns.ok rfl) (Returns.after fun sender => Returns.after fun recipient => ?_))
  refine Returns.bind (settleSend_supply cfg s _ _ _ _ _ _) fun settled same => ?_
  rw [← same]
  refine Returns.bind (setFractionalBalance_supply cfg settled _ _) fun sent same => ?_
  rw [← same]
  exact Returns.bind (setFractionalBalance_supply cfg sent _ _) fun received same => Returns.ok same

theorem BankKeeper.sendCoins_supply (keeper : BankKeeper) (amt : Coins) :
    Returns (fun t => t.supply = s.supply) (keeper.sendCoins cfg s fromAddr toAddr amt) := by
  cases keeper with
  | base => exact Bank.sendCoins_supply s fromAddr toAddr amt
  | precisebank =>
    refine Returns.ite (Returns.error _) (Returns.bind
      (Returns.ite (Bank.sendCoins_supply s _ _ _) (Returns.ok rfl)) fun passed same => ?_)
    rw [← same]
    exact Returns.ite (sendExtendedCoins_supply cfg passed _ _ _) (Returns.ok rfl)

end

namespace Erc20

section

variable {σ : Type} {env : KeeperEnv σ} {keeper : BankKeeper} {p : Precompile} {s t : State σ} {kv kv' : KVStore}

/-! Acceptance. -/

/-- Stored allowances are words, of owners and spenders other than the zero address. -/
structure KVStore.AllowancesSound (kv : KVStore) (erc20 : Address) : Prop where
  range : ∀ owner spender, 0 ≤ kv.getAllowance erc20 owner spender ∧ kv.getAllowance erc20 owner spender < 2 ^ 256
  named : ∀ owner spender, 0 < kv.getAllowance erc20 owner spender →
    owner ≠ Vector.replicate 20 0 ∧ spender ≠ Vector.replicate 20 0

/-- The one writer of allowances keeps it, whichever contract it writes for. -/
theorem KVStore.AllowancesSound.putAllowance {erc20 contract owner spender : Address} {value : Option ℤ}
    {allowDisabled : Bool} (sound : kv.AllowancesSound erc20)
    (success : kv.putAllowance env contract owner spender value allowDisabled = .ok kv') :
    kv'.AllowancesSound erc20 := by
  obtain ⟨-, amount, -, rfl, ownerSet, spenderSet, nonneg, fits, -⟩ := KVStore.putAllowance_ok success
  refine ⟨?_, ?_⟩
  · intro owner' spender'
    rw [KVStore.putAllowance_read success]
    split_ifs
    · exact ⟨nonneg, fits⟩
    · exact sound.range owner' spender'
  · intro owner' spender' positive
    rw [KVStore.putAllowance_read success] at positive
    split_ifs at positive with hit
    · rw [hit.2.1, hit.2.2]
      exact ⟨ownerSet, spenderSet⟩
    · exact sound.named owner' spender' positive

/-- An enabled pair of a coin that may be sent, with the stores in order. -/
structure Precompile.Listed (env : KeeperEnv σ) (p : Precompile) (s : State σ) : Prop where
  registered : ∃ pair, s.kv.getTokenPair (s.kv.erc20Map p.address) = some pair ∧ pair.enabled = true
  denom_valid : validateDenom p.tokenPair.denom = .ok ()
  send_enabled : s.sendEnabled p.tokenPair.denom = true
  allowances : s.kv.AllowancesSound p.address
  backed : Backed env.vm.bank s.bank
  reserve_unlocked : s.bank.locked env.vm.bank.reserve env.vm.bank.denom = 0
  reserve_blocked : env.vm.bank.blockedAddr env.vm.bank.reserve = true

section

variable {caller sender receiver : Address} {amount : ℤ} (listed : p.Listed env s)

include listed

theorem Precompile.Listed.ordinary {account : AccAddress} (free : env.vm.bank.blockedAddr account = false) :
    account ≠ env.vm.bank.reserve := by
  intro same
  rw [same, listed.reserve_blocked] at free
  cases free

theorem Precompile.spendAllowance_succeeds (positive : 0 < amount) (enough : amount ≤ p.allowance s sender caller) :
    ∃ kv left, p.spendAllowance env caller sender amount s = .ok ({ s with kv := kv }, left) := by
  obtain ⟨pair, found, enabled⟩ := listed.registered
  obtain ⟨-, small⟩ := listed.allowances.range sender caller
  obtain ⟨owner, spender⟩ := listed.allowances.named sender caller (positive.trans_le enough)
  unfold Precompile.allowance at enough
  have put : ∃ kv, s.kv.putAllowance env p.address sender caller
      (some (s.kv.getAllowance p.address sender caller - amount)) false = .ok kv := by
    unfold KVStore.putAllowance
    rw [found]
    dsimp only
    rw [if_neg (by simp [enabled]), if_neg owner, if_neg spender, if_neg (by omega), if_neg (by omega)]
    exact ⟨_, rfl⟩
  obtain ⟨kv, put⟩ := put
  refine ⟨kv, s.kv.getAllowance p.address sender caller - amount, ?_⟩
  unfold Precompile.spendAllowance
  dsimp only
  rw [if_neg (by omega)]
  have written : (if s.kv.getAllowance p.address sender caller - amount = 0 then
      s.kv.deleteAllowance env p.address sender caller
      else s.kv.setAllowance env p.address sender caller
        (some (s.kv.getAllowance p.address sender caller - amount))) =
      .ok kv := by
    split
    · rename_i zero
      rw [zero] at put
      exact put
    · exact put
  rw [written]
  rfl

theorem Precompile.transfer_succeeds_iff (isTransferFrom : Bool)
    (free : env.vm.bank.blockedAddr receiver.toList = false) :
    (∃ t events, p.transfer env keeper isTransferFrom caller sender receiver amount s = .ok (t, events)) ↔
      0 < amount ∧ (isTransferFrom = true → amount ≤ p.allowance s sender caller) ∧
        ∃ bank, keeper.sendCoins env.vm.bank s.bank sender.toList receiver.toList [⟨p.tokenPair.denom, amount⟩] =
          .ok bank := by
  constructor
  · rintro ⟨t, events, success⟩
    obtain ⟨positive, spent, left, spending, sent, -⟩ := Precompile.transfer_ok success
    cases isTransferFrom with
    | false =>
      cases spending
      exact ⟨positive, by simp, _, sent⟩
    | true =>
      obtain ⟨covered, same, -⟩ := Precompile.spendAllowance_ok spending
      rw [same] at sent
      exact ⟨positive, fun _ => covered, _, sent⟩
  · rintro ⟨positive, covered, bank, sent⟩
    have valid := Coins.isValid_singleton p.tokenPair.denom amount positive
    have validated : Coin.validate ⟨p.tokenPair.denom, amount⟩ = .ok () := by
      unfold Coin.validate
      rw [listed.denom_valid]
      exact if_neg (not_le.mpr positive)
    have spends : ∃ kv left, (if isTransferFrom then p.spendAllowance env caller sender amount s else pure (s, 0)) =
        .ok ({ s with kv := kv }, left) := by
      cases isTransferFrom with
      | false => exact ⟨s.kv, 0, rfl⟩
      | true => exact Precompile.spendAllowance_succeeds listed positive (covered rfl)
    obtain ⟨kv, left, spends⟩ := spends
    have sends : msgServerSend env keeper { s with kv := kv }
        ⟨sender.toList, receiver.toList, [⟨p.tokenPair.denom, amount⟩]⟩ = .ok bank := by
      unfold msgServerSend send
      rw [if_neg (not_not.mpr valid), if_neg (not_not.mpr (by simpa [Coins.IsAllPositive] using positive))]
      simp only [List.find?, listed.send_enabled, Bool.not_true, free]
      rw [if_neg Bool.false_ne_true, sent]
      rfl
    unfold Precompile.transfer
    dsimp only
    rw [validated, Except.mapError, bind_of_ok rfl, bind_of_ok spends]
    dsimp only
    rw [sends]
    exact ⟨_, _, rfl⟩

end

/-- `TotalSupply`: both keepers pass it to x/bank. -/
def Precompile.totalSupply (p : Precompile) (s : State σ) : ℤ := s.bank.supply p.tokenPair.denom

/-- The parties and the amount of a transfer. -/
def Call.transferred (call : Call) : Option (Address × Address × BitVec 256) :=
  match call.method with
  | .transfer receiver amount => some (call.caller, receiver, amount)
  | .transferFrom sender receiver amount => some (sender, receiver, amount)
  | .approve _ _ => none

/-- What the standard asks of a transfer. -/
structure StandardTransfer (env : KeeperEnv σ) (keeper : BankKeeper) (p : Precompile) (s : State σ) (call : Call)
    (sender receiver : Address) (amount : BitVec 256) : Prop where
  accepted : (∃ t events, p.handleMethod env keeper call s = .ok (t, events)) ↔
    (amount.toNat : ℤ) ≤ p.balanceOf env keeper s sender.toList ∧ call.Covered p s
  moved : ∀ t events, p.handleMethod env keeper call s = .ok (t, events) →
    (∀ account, keeper.getBalance env.vm.bank t.bank account p.tokenPair.denom =
      keeper.getBalance env.vm.bank s.bank account p.tokenPair.denom +
        (booked receiver.toList amount.toNat account - booked sender.toList amount.toNat account)) ∧
    p.totalSupply t = p.totalSupply s

section

variable {call : Call} {sender receiver : Address} {amount : BitVec 256}

/-- Both methods are one transfer, which needs an allowance or not. -/
theorem Call.transferred_eq (named : call.transferred = some (sender, receiver, amount)) :
    ∃ isTransferFrom, (∀ s : State σ, p.handleMethod env keeper call s =
      p.transfer env keeper isTransferFrom call.caller sender receiver amount.toNat s) ∧
      ∀ s : State σ, call.Covered p s ↔
        (isTransferFrom = true → (amount.toNat : ℤ) ≤ p.allowance s sender call.caller) := by
  obtain ⟨caller, method⟩ := call
  cases method with
  | transfer receiver amount =>
    cases named
    exact ⟨false, fun _ => rfl, fun _ => by simp [Call.Covered]⟩
  | transferFrom sender receiver amount =>
    cases named
    refine ⟨true, fun _ => rfl, fun _ => ⟨fun covered _ => covered _ _ _ rfl, fun enough => ?_⟩⟩
    rintro _ _ _ ⟨⟩
    exact enough rfl
  | approve spender amount => cases named

theorem BankKeeper.spendableCoin_nonneg {cfg : Config} {bank : BankState} (backed : Backed cfg bank)
    (keeper : BankKeeper) {account : AccAddress} (ordinary : account ≠ cfg.reserve) (denom : Denom) :
    0 ≤ keeper.spendableCoin cfg bank account denom := by
  cases keeper with
  | base => exact le_max_left _ _
  | precisebank =>
    change 0 ≤ Precisebank.spendableCoin cfg bank account denom
    by_cases extended : denom = cfg.extendedDenom
    · rw [extended, spendableCoin_extended ordinary]
      exact add_nonneg (mul_nonneg (le_max_left _ _) cfg.conversionFactor_pos.le) (backed.fractional_nonneg account)
    · simp [Precisebank.spendableCoin, extended, Bank.spendableCoin]

/-- A transfer is as the standard has it if it moves something, and is covered where
precisebank does not look. -/
theorem transfers_standard_iff (listed : p.Listed env s)
    (named : call.transferred = some (sender, receiver, amount))
    (senderFree : env.vm.bank.blockedAddr sender.toList = false)
    (receiverFree : env.vm.bank.blockedAddr receiver.toList = false) :
    StandardTransfer env keeper p s call sender receiver amount ↔
      0 < amount.toNat ∧ (keeper.Unchecked env.vm.bank p.tokenPair.denom sender.toList receiver.toList →
        call.Covered p s → (amount.toNat : ℤ) ≤ p.balanceOf env keeper s sender.toList) := by
  have fromApart := listed.ordinary senderFree
  have toApart := listed.ordinary receiverFree
  have filled (addr : Address) : addr.toList ≠ [] := by
    intro empty
    simpa [empty] using addr.length_toList
  obtain ⟨isTransferFrom, runs, covers⟩ := @Call.transferred_eq σ env keeper p call sender receiver amount named
  have accepts : (∃ t events, p.handleMethod env keeper call s = .ok (t, events)) ↔
      0 < (amount.toNat : ℤ) ∧ call.Covered p s ∧
        (keeper.Unchecked env.vm.bank p.tokenPair.denom sender.toList receiver.toList ∨
          (amount.toNat : ℤ) ≤ p.balanceOf env keeper s sender.toList) := by
    rw [runs, Precompile.transfer_succeeds_iff listed isTransferFrom receiverFree, covers]
    refine and_congr_right fun positive => and_congr_right fun _ => ?_
    exact BankKeeper.sendCoins_succeeds_iff positive fromApart toApart listed.backed listed.reserve_unlocked
      (filled sender) (filled receiver)
  constructor
  · intro standard
    have positive : 0 < amount.toNat := by
      by_contra none
      have zero : (amount.toNat : ℤ) = 0 := by omega
      have accepted := accepts.mp (standard.accepted.mpr ⟨?_, (covers s).mpr fun _ => ?_⟩)
      · omega
      · rw [zero]
        exact BankKeeper.spendableCoin_nonneg listed.backed keeper fromApart _
      · rw [zero]
        exact (listed.allowances.range sender call.caller).1
    refine ⟨positive, fun unchecked covered => ?_⟩
    exact (standard.accepted.mp (accepts.mpr ⟨by exact_mod_cast positive, covered, Or.inl unchecked⟩)).1
  · rintro ⟨positive, funded⟩
    have positive : 0 < (amount.toNat : ℤ) := by exact_mod_cast positive
    refine ⟨accepts.trans ⟨?_, fun ⟨enough, covered⟩ => ⟨positive, covered, Or.inr enough⟩⟩, ?_⟩
    · rintro ⟨-, covered, unchecked | enough⟩
      · exact ⟨funded unchecked covered, covered⟩
      · exact ⟨enough, covered⟩
    · intro t events success
      rw [runs] at success
      obtain ⟨-, spent, left, spending, sent, -⟩ := Precompile.transfer_ok success
      have same : spent.bank = s.bank := by
        cases isTransferFrom with
        | false =>
          cases spending
          rfl
        | true => rw [(Precompile.spendAllowance_ok spending).2.1]
      rw [same] at sent
      exact ⟨BankKeeper.sendCoins_exact positive fromApart toApart sent,
        congrFun (BankKeeper.sendCoins_supply _ _ _ _ keeper _ _ sent) p.tokenPair.denom⟩

end

end

/-! The extended coin. -/

def wrappedPair : TokenPair := ⟨"0x0000000000000000000000000000000000000099", "atest", true, .module⟩

def wrappedPrecompile : Precompile := ⟨wrappedPair⟩

def wrappedStart : State Unit :=
  { registryStart with
    kv := { KVStore.empty with
      tokenPairs := fun id => if id = [1] then some wrappedPair else none
      erc20Map := fun erc20 => if erc20 = wrappedPair.getERC20Contract then some [1] else none }
    bank := Precisebank.emptyBank }

theorem wrappedStart_listed : wrappedPrecompile.Listed registryEnv wrappedStart where
  registered := ⟨wrappedPair, by decide +kernel, rfl⟩
  denom_valid := by decide +kernel
  send_enabled := rfl
  allowances :=
    { range := fun _ _ => ⟨le_refl 0, by norm_num [KVStore.getAllowance, wrappedStart, KVStore.empty]⟩
      named := fun _ _ positive => absurd positive (lt_irrefl 0) }
  backed := emptyBank_backed
  reserve_unlocked := rfl
  reserve_blocked := rfl

/-- The holder has a whole coin. -/
def fundedStart : State Unit :=
  { wrappedStart with bank := Bank.addBalance Precisebank.emptyBank tokenHolder.toList "utest" 1 }

theorem fundedStart_listed : wrappedPrecompile.Listed registryEnv fundedStart :=
  { wrappedStart_listed with
    backed := emptyBank_backed.of_same (by decide +kernel) rfl rfl
    reserve_unlocked := rfl }

theorem transfers_standard_iff_wrapped :
    wrappedPrecompile.balanceOf registryEnv .precisebank fundedStart tokenHolder.toList = 10 ^ 12 ∧
    (wrappedPrecompile.handleMethod registryEnv .precisebank ⟨tokenHolder, .transfer tokenSpender 5⟩
      fundedStart).toOption.isSome = true ∧
    StandardTransfer registryEnv .precisebank wrappedPrecompile fundedStart ⟨tokenHolder, .transfer tokenSpender 5⟩
      tokenHolder tokenSpender 5 := by
  refine ⟨by decide +kernel, by decide +kernel,
    (transfers_standard_iff fundedStart_listed rfl (by decide) (by decide)).mpr ?_⟩
  exact ⟨by decide, fun unchecked => absurd unchecked.2.2 (by decide)⟩

/-- Five coins that nobody has are sent to oneself, and no coins cannot be sent at all. -/
theorem transfers_not_standard :
    wrappedPrecompile.balanceOf registryEnv .precisebank wrappedStart tokenHolder.toList = 0 ∧
    (wrappedPrecompile.handleMethod registryEnv .precisebank ⟨tokenHolder, .transfer tokenHolder 5⟩
      wrappedStart).toOption.isSome = true ∧
    (wrappedPrecompile.handleMethod registryEnv .precisebank ⟨tokenHolder, .transfer tokenSpender 0⟩
      wrappedStart).toOption.isSome = false :=
  ⟨by decide +kernel, by decide +kernel, by decide +kernel⟩

end Erc20

end OgEvm
