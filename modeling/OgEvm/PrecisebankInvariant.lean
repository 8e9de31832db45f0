import OgEvm.PrecisebankSpec

/- The reserve holds exactly what the fractional balances and the remainder add
up to, through every call of the keeper that does not name the reserve. -/
namespace OgEvm.Precisebank

open Totals ExceptFacts

/-- Full backing of the fractional balances, with the ranges of the stored amounts. -/
structure Backed (cfg : Config) (s : BankState) : Prop where
  reserve : s.balances cfg.denom cfg.reserve * cfg.conversionFactor =
    total s.fractionalBalances + s.remainder
  fractional_nonneg : ∀ account, 0 ≤ s.fractionalBalances account
  fractional_lt : ∀ account, s.fractionalBalances account < cfg.conversionFactor
  reserve_fractional : s.fractionalBalances cfg.reserve = 0
  remainder_nonneg : 0 ≤ s.remainder
  remainder_lt : s.remainder < cfg.conversionFactor

/-- A panic of `SetFractionalBalance` or `SetRemainderAmount` on an amount out of range. -/
def RangePanic : Fault → Prop
  | .panic (.invalidFractionalAmount _) => True
  | .panic (.invalidRemainderAmount _) => True
  | _ => False

/-- The public entry points of the keeper that move coins. -/
inductive Call where
  | mintCoins (moduleName : ModuleName) (amt : Coins)
  | burnCoins (moduleName : ModuleName) (amt : Coins)
  | sendCoins (fromAddr toAddr : AccAddress) (amt : Coins)
  | sendCoinsFromAccountToModule (senderAddr : AccAddress) (recipientModule : ModuleName) (amt : Coins)
  | sendCoinsFromModuleToAccount (senderModule : ModuleName) (recipientAddr : AccAddress) (amt : Coins)
  | sendCoinsFromModuleToModule (senderModule recipientModule : ModuleName) (amt : Coins)

def Call.run (cfg : Config) (s : BankState) : Call → Except Fault BankState
  | .mintCoins moduleName amt => Precisebank.mintCoins cfg s moduleName amt
  | .burnCoins moduleName amt => Precisebank.burnCoins cfg s moduleName amt
  | .sendCoins fromAddr toAddr amt => Precisebank.sendCoins cfg s fromAddr toAddr amt
  | .sendCoinsFromAccountToModule senderAddr recipientModule amt =>
    Precisebank.sendCoinsFromAccountToModule cfg s senderAddr recipientModule amt
  | .sendCoinsFromModuleToAccount senderModule recipientAddr amt =>
    Precisebank.sendCoinsFromModuleToAccount cfg s senderModule recipientAddr amt
  | .sendCoinsFromModuleToModule senderModule recipientModule amt =>
    Precisebank.sendCoinsFromModuleToModule cfg s senderModule recipientModule amt

/-- Sender and recipient; minting and burning name the module account only. -/
def Call.parties (cfg : Config) : Call → List AccAddress
  | .mintCoins moduleName _ => [moduleAddr cfg moduleName]
  | .burnCoins moduleName _ => [moduleAddr cfg moduleName]
  | .sendCoins fromAddr toAddr _ => [fromAddr, toAddr]
  | .sendCoinsFromAccountToModule senderAddr recipientModule _ =>
    [senderAddr, moduleAddr cfg recipientModule]
  | .sendCoinsFromModuleToAccount senderModule recipientAddr _ =>
    [moduleAddr cfg senderModule, recipientAddr]
  | .sendCoinsFromModuleToModule senderModule recipientModule _ =>
    [moduleAddr cfg senderModule, moduleAddr cfg recipientModule]

def runCalls (cfg : Config) (s : BankState) (calls : List Call) : Except Fault BankState :=
  calls.foldlM (Call.run cfg) s

section

variable {cfg : Config} {s t : BankState}

theorem Backed.of_same (backed : Backed cfg s)
    (reserve : t.balances cfg.denom cfg.reserve = s.balances cfg.denom cfg.reserve)
    (fractional : t.fractionalBalances = s.fractionalBalances) (remainder : t.remainder = s.remainder) :
    Backed cfg t := by
  obtain ⟨equation, nonneg, small, empty, low, high⟩ := backed
  constructor
  · rw [reserve, fractional, remainder, equation]
  · rw [fractional]
    exact nonneg
  · rw [fractional]
    exact small
  · rw [fractional, empty]
  · rw [remainder]
    exact low
  · rw [remainder]
    exact high

/-- A movement keeps the backing when the reserve pays for the change of the
fractional sum and the remainder, and the written amounts stay in range. -/
theorem Backed.of_moves {net : Movement} (backed : Backed cfg s) (moves : Moves cfg s t net)
    (paid : net.integer cfg.reserve * cfg.conversionFactor = net.fractionalTotal + net.remainder)
    (apart : net.fractional cfg.reserve = 0)
    (range : ∀ account, 0 ≤ s.fractionalBalances account + net.fractional account ∧
      s.fractionalBalances account + net.fractional account < cfg.conversionFactor)
    (remainder : 0 ≤ s.remainder + net.remainder ∧
      s.remainder + net.remainder < cfg.conversionFactor) : Backed cfg t where
  reserve := by
    rw [moves.integer, moves.fractionalTotal, moves.remainder, add_mul, backed.reserve, paid]
    ring
  fractional_nonneg account := by
    rw [moves.fractional]
    exact (range account).1
  fractional_lt account := by
    rw [moves.fractional]
    exact (range account).2
  reserve_fractional := by rw [moves.fractional, backed.reserve_fractional, apart, add_zero]
  remainder_nonneg := by
    rw [moves.remainder]
    exact remainder.1
  remainder_lt := by
    rw [moves.remainder]
    exact remainder.2

/-- Subtracting a fraction with a borrow stays in range. -/
theorem borrow_range (cfg : Config) (amt : ℤ) {current : ℤ} (range : 0 ≤ current ∧ current < cfg.conversionFactor) :
    0 ≤ current - amt % cfg.conversionFactor +
        (decide (current < amt % cfg.conversionFactor)).toInt * cfg.conversionFactor ∧
      current - amt % cfg.conversionFactor + (decide (current < amt % cfg.conversionFactor)).toInt *
        cfg.conversionFactor < cfg.conversionFactor := by
  have nonneg := fraction_nonneg cfg amt
  have small := fraction_lt cfg amt
  by_cases less : current < amt % cfg.conversionFactor
  · simp only [less, decide_true, Bool.toInt_true, one_mul]
    omega
  · simp only [less, decide_false, Bool.toInt_false, zero_mul]
    omega

/-- Adding a fraction with a carry stays in range. -/
theorem carry_range (cfg : Config) (amt : ℤ) {current : ℤ} (range : 0 ≤ current ∧ current < cfg.conversionFactor) :
    0 ≤ current + amt % cfg.conversionFactor -
        (decide (cfg.conversionFactor ≤ current + amt % cfg.conversionFactor)).toInt * cfg.conversionFactor ∧
      current + amt % cfg.conversionFactor -
        (decide (cfg.conversionFactor ≤ current + amt % cfg.conversionFactor)).toInt *
        cfg.conversionFactor < cfg.conversionFactor := by
  have nonneg := fraction_nonneg cfg amt
  have small := fraction_lt cfg amt
  by_cases full : cfg.conversionFactor ≤ current + amt % cfg.conversionFactor
  · simp only [full, decide_true, Bool.toInt_true, one_mul]
    omega
  · simp only [full, decide_false, Bool.toInt_false, zero_mul]
    omega

section

variable {fromAddr toAddr : AccAddress} {amt : ℤ} {moduleName : ModuleName} (backed : Backed cfg s)

include backed

theorem Backed.fractional_range (account : AccAddress) :
    0 ≤ s.fractionalBalances account ∧ s.fractionalBalances account < cfg.conversionFactor :=
  ⟨backed.fractional_nonneg account, backed.fractional_lt account⟩

theorem Backed.remainder_range : 0 ≤ s.remainder ∧ s.remainder < cfg.conversionFactor :=
  ⟨backed.remainder_nonneg, backed.remainder_lt⟩

theorem sendExtendedCoins_backed (positive : 0 < amt) (fromApart : fromAddr ≠ cfg.reserve)
    (toApart : toAddr ≠ cfg.reserve) (success : sendExtendedCoins cfg s fromAddr toAddr amt = .ok t) :
    Backed cfg t := by
  by_cases apart : fromAddr = toAddr
  · rw [sendExtendedCoins, if_neg (by tauto), if_pos apart] at success
    cases success
    exact backed
  · have moves := sendExtendedCoins_moves positive fromApart toApart apart success
    have borrow := borrow_range cfg amt (backed.fractional_range fromAddr)
    have carry := carry_range cfg amt (backed.fractional_range toAddr)
    refine backed.of_moves moves ?_ ?_ ?_ ?_
    · simp [sendMovement, booked_ne _ fromApart.symm, booked_ne _ toApart.symm]
    · simp [sendMovement, booked_ne _ fromApart.symm, booked_ne _ toApart.symm]
    · intro account
      simp only [sendMovement, booked]
      by_cases sender : account = fromAddr
      · subst sender
        rw [if_pos rfl, if_neg apart]
        omega
      · by_cases recipient : account = toAddr
        · subst recipient
          rw [if_neg sender, if_pos rfl]
          omega
        · rw [if_neg sender, if_neg recipient]
          simpa using backed.fractional_range account
    · simpa [sendMovement] using backed.remainder_range

/-- A movement for one account. -/
theorem Backed.of_account {net : Movement} {addr : AccAddress} {written : ℤ} (moves : Moves cfg s t net)
    (away : addr ≠ cfg.reserve) (fractional : net.fractional = booked addr written)
    (paid : net.integer cfg.reserve * cfg.conversionFactor = net.fractionalTotal + net.remainder)
    (range : 0 ≤ s.fractionalBalances addr + written ∧ s.fractionalBalances addr + written < cfg.conversionFactor)
    (remainder : 0 ≤ s.remainder + net.remainder ∧ s.remainder + net.remainder < cfg.conversionFactor) :
    Backed cfg t := by
  refine backed.of_moves moves paid ?_ ?_ remainder
  · rw [fractional, booked_ne _ away.symm]
  · intro account
    rw [fractional, booked]
    split
    · rename_i same
      rw [same]
      exact range
    · rw [add_zero]
      exact backed.fractional_range account

theorem mintExtendedCoin_backed (positive : 0 < amt) (apart : moduleName ≠ precisebankModule)
    (addrApart : moduleAddr cfg moduleName ≠ cfg.reserve)
    (success : mintExtendedCoin cfg s moduleName amt = .ok t) : Backed cfg t := by
  have carry := carry_range cfg amt (backed.fractional_range (moduleAddr cfg moduleName))
  have borrow := borrow_range cfg amt backed.remainder_range
  refine backed.of_account (mintExtendedCoin_moves positive apart success) addrApart rfl ?_ (by omega) ?_
  · simp only [mintMovement, booked_ne _ addrApart.symm, booked_self]
    ring
  · simp only [mintMovement]
    omega

theorem burnExtendedCoin_backed (apart : moduleName ≠ precisebankModule)
    (addrApart : moduleAddr cfg moduleName ≠ cfg.reserve)
    (success : burnExtendedCoin cfg s moduleName amt = .ok t) : Backed cfg t := by
  have borrow := borrow_range cfg amt (backed.fractional_range (moduleAddr cfg moduleName))
  have carry := carry_range cfg amt backed.remainder_range
  refine backed.of_account (burnExtendedCoin_moves apart success) addrApart rfl ?_ (by omega) ?_
  · simp only [burnMovement, booked_ne _ addrApart.symm, booked_self]
    ring
  · simp only [burnMovement]
    omega

theorem Backed.of_bank_send {coins : Coins} (fromApart : fromAddr ≠ cfg.reserve)
    (toApart : toAddr ≠ cfg.reserve) (success : Bank.sendCoins s fromAddr toAddr coins = .ok t) : Backed cfg t := by
  obtain ⟨valid, rfl⟩ := Bank.sendCoins_ok success
  obtain ⟨-, -, fractional, remainder⟩ := Bank.moved_frame s fromAddr toAddr coins
  refine backed.of_same ?_ fractional remainder
  rw [Bank.moved_balance s fromAddr toAddr valid, if_neg fromApart.symm, if_neg toApart.symm]
  ring

theorem Backed.of_reissued {sign : ℤ} {event : Event} {addr : AccAddress} {coins : Coins}
    (apart : addr ≠ cfg.reserve) (valid : Coins.IsValid coins) :
    Backed cfg (Bank.reissued sign event s addr coins) := by
  obtain ⟨⟨-, -, fractional, remainder⟩, -⟩ := Bank.shiftCoins_frame sign addr coins s
  refine backed.of_same ?_ fractional remainder
  rw [Bank.reissued_balances, Bank.shiftCoins_balance sign addr valid, if_neg apart.symm, add_zero]

theorem sendCoins_backed {amt : Coins} (fromApart : fromAddr ≠ cfg.reserve) (toApart : toAddr ≠ cfg.reserve)
    (success : sendCoins cfg s fromAddr toAddr amt = .ok t) : Backed cfg t := by
  obtain ⟨-, passed, pass, extended⟩ := sendCoins_ok success
  have middle : Backed cfg passed := by
    rcases ite_pure_ok pass with ⟨-, run⟩ | ⟨-, rfl⟩
    · exact backed.of_bank_send fromApart toApart run
    · exact backed
  rcases ite_pure_ok extended with ⟨positive, run⟩ | ⟨-, rfl⟩
  · exact sendExtendedCoins_backed middle positive fromApart toApart run
  · exact middle

theorem Backed.of_whole (issue : Issue) {coins : Coins} (apart : moduleAddr cfg moduleName ≠ cfg.reserve)
    (success : issue.whole cfg s moduleName coins = .ok t) : Backed cfg t := by
  cases issue with
  | mint =>
    obtain ⟨addr, found, valid, rfl⟩ := Bank.mintCoins_ok success
    exact backed.of_reissued (moduleAddr_of found ▸ apart) valid
  | burn =>
    obtain ⟨addr, found, valid, rfl⟩ := Bank.burnCoins_ok success
    exact backed.of_reissued (moduleAddr_of found ▸ apart) valid

theorem Issue.coins_backed (issue : Issue) {amt : Coins} (addrApart : moduleAddr cfg moduleName ≠ cfg.reserve)
    (success : issue.coins cfg s moduleName amt = .ok t) : Backed cfg t := by
  obtain ⟨apart, -, passed, pass, extended⟩ := issue.coins_ok success
  have middle : Backed cfg passed := by
    rcases ite_pure_ok pass with ⟨-, run⟩ | ⟨-, rfl⟩
    · exact backed.of_whole issue addrApart run
    · exact backed
  rcases ite_pure_ok extended with ⟨positive, run⟩ | ⟨-, rfl⟩
  · cases issue with
    | mint => exact mintExtendedCoin_backed middle positive apart addrApart run
    | burn => exact burnExtendedCoin_backed middle apart addrApart run
  · exact middle

/-- One successful call keeps the backing. -/
theorem Call.run_backed {call : Call} (apart : cfg.reserve ∉ call.parties cfg)
    (success : call.run cfg s = .ok t) : Backed cfg t := by
  cases call <;>
    simp only [Call.parties, List.mem_cons, List.not_mem_nil, or_false, not_or] at apart
  case mintCoins moduleName amt => exact Issue.coins_backed backed .mint (Ne.symm apart) success
  case burnCoins moduleName amt => exact Issue.coins_backed backed .burn (Ne.symm apart) success
  case sendCoins fromAddr toAddr amt =>
      exact sendCoins_backed backed (Ne.symm apart.1) (Ne.symm apart.2) success
  case sendCoinsFromAccountToModule senderAddr recipientModule amt =>
      exact sendCoins_backed backed (Ne.symm apart.1) (Ne.symm apart.2)
        (sendCoinsFromAccountToModule_ok success)
  case sendCoinsFromModuleToAccount senderModule recipientAddr amt =>
      exact sendCoins_backed backed (Ne.symm apart.1) (Ne.symm apart.2)
        (sendCoinsFromModuleToAccount_ok success).2
  case sendCoinsFromModuleToModule senderModule recipientModule amt =>
      exact sendCoins_backed backed (Ne.symm apart.1) (Ne.symm apart.2)
        (sendCoinsFromModuleToModule_ok success)

end

/-! No call meets a range panic: the x/bank calls raise none, and the amounts the
keeper writes are in range before anything is written. -/

theorem rangePanic_updateInsufficientFundsError {addr : AccAddress} {amt : ℤ} (fault : Fault)
    (bad : RangePanic (updateInsufficientFundsError cfg s addr amt fault)) : RangePanic fault := by
  rcases fault with ⟨code, message⟩ | cause
  · cases code <;> exact bad
  · exact bad

theorem rangePanic_wrapFault {text : String} (fault : Fault) (bad : RangePanic (wrapFault text fault)) :
    RangePanic fault := by
  cases fault <;> exact bad

theorem spendLoop_avoids (addr : AccAddress) (coins : Coins) (s : BankState) :
    Avoids RangePanic (Bank.spendLoop addr coins s) := by
  induction coins generalizing s with
  | nil => exact Avoids.ok s
  | cons coin rest ih => exact Avoids.ite (fun _ => Avoids.error id) fun _ => ih _

theorem subUnlockedCoins_avoids (s : BankState) (addr : AccAddress) (amt : Coins) :
    Avoids RangePanic (Bank.subUnlockedCoins s addr amt) :=
  Avoids.ite (fun _ => Avoids.error id) fun _ => (spendLoop_avoids addr amt s).map

theorem addCoins_avoids (s : BankState) (addr : AccAddress) (amt : Coins) :
    Avoids RangePanic (Bank.addCoins s addr amt) :=
  Avoids.ite (fun _ => Avoids.error id) fun _ => Avoids.ok _

theorem bankSendCoins_avoids (s : BankState) (fromAddr toAddr : AccAddress) (amt : Coins) :
    Avoids RangePanic (Bank.sendCoins s fromAddr toAddr amt) :=
  Avoids.bind (subUnlockedCoins_avoids s fromAddr amt) fun _ _ => addCoins_avoids _ toAddr amt

theorem bankMintCoins_avoids (cfg : Config) (s : BankState) (moduleName : ModuleName) (amt : Coins) :
    Avoids RangePanic (Bank.mintCoins cfg s moduleName amt) := by
  unfold Bank.mintCoins
  split
  · exact Avoids.error id
  · exact Avoids.ite (fun _ => Avoids.error id) fun _ => (addCoins_avoids s _ amt).map

theorem bankBurnCoins_avoids (cfg : Config) (s : BankState) (moduleName : ModuleName) (amt : Coins) :
    Avoids RangePanic (Bank.burnCoins cfg s moduleName amt) := by
  unfold Bank.burnCoins
  split
  · exact Avoids.error id
  · exact Avoids.ite (fun _ => Avoids.error id) fun _ => (subUnlockedCoins_avoids s _ amt).map

theorem bankSendToModule_avoids (cfg : Config) (s : BankState) (senderAddr : AccAddress)
    (recipientModule : ModuleName) (amt : Coins) :
    Avoids RangePanic (Bank.sendCoinsFromAccountToModule cfg s senderAddr recipientModule amt) := by
  unfold Bank.sendCoinsFromAccountToModule
  split
  · exact Avoids.error id
  · exact bankSendCoins_avoids s senderAddr _ amt

theorem bankSendBetweenModules_avoids (cfg : Config) (s : BankState)
    (senderModule recipientModule : ModuleName) (amt : Coins) : Avoids RangePanic
      (Bank.sendCoinsFromModuleToModule cfg s senderModule recipientModule amt) := by
  unfold Bank.sendCoinsFromModuleToModule
  split
  · exact Avoids.error id
  · exact Avoids.error id
  · exact bankSendCoins_avoids s _ _ amt

theorem validateFractionalAmount_ok {amount : ℤ} (positive : 0 < amount)
    (small : amount < cfg.conversionFactor) : validateFractionalAmount cfg amount = .ok () := by
  simp [validateFractionalAmount, positive, not_le.mpr small]

theorem setFractionalBalance_avoids (s : BankState) (address : AccAddress) {amount : ℤ}
    (range : 0 ≤ amount ∧ amount < cfg.conversionFactor) :
    Avoids RangePanic (setFractionalBalance cfg s address amount) := by
  refine Avoids.ite (fun _ => Avoids.error id) fun _ => ?_
  refine Avoids.ite (fun _ => Avoids.ok _) fun nonzero => ?_
  rw [validateFractionalAmount_ok (by omega) range.2]
  exact Avoids.ok _

theorem setRemainderAmount_avoids (s : BankState) {amount : ℤ} (range : 0 ≤ amount ∧ amount < cfg.conversionFactor) :
    Avoids RangePanic (setRemainderAmount cfg s amount) := by
  refine Avoids.ite (fun _ => Avoids.ok _) fun nonzero => ?_
  rw [validateFractionalAmount_ok (by omega) range.2]
  exact Avoids.ok _

theorem settleSend_avoids (s : BankState) (fromAddr toAddr : AccAddress) (amt integerAmt : ℤ)
    (borrow carry : Bool) : Avoids RangePanic (settleSend cfg s fromAddr toAddr amt integerAmt borrow carry) := by
  have updated := @rangePanic_updateInsufficientFundsError cfg
  refine Avoids.bind ?_ fun paid _ => Avoids.bind ?_ fun lent _ => ?_
  · exact Avoids.ite (fun _ => (bankSendCoins_avoids s _ _ _).mapError updated) fun _ => Avoids.ok s
  · exact Avoids.ite (fun _ => (bankSendToModule_avoids cfg paid _ _ _).mapError updated)
      fun _ => Avoids.ok paid
  · refine Avoids.ite (fun _ => ?_) fun _ => Avoids.ok lent
    exact (bankSendCoins_avoids lent _ _ _).mapError fun _ bad => bad.elim

section

variable (backed : Backed cfg s)

include backed

theorem sendExtendedCoins_avoids (fromAddr toAddr : AccAddress) (amt : ℤ) :
    Avoids RangePanic (sendExtendedCoins cfg s fromAddr toAddr amt) := by
  refine Avoids.ite (fun _ => ?_) fun _ => Avoids.ite (fun _ => Avoids.ok s) fun _ => ?_
  · refine Avoids.ite (fun _ => ?_) fun _ => Avoids.ok s
    exact (bankSendCoins_avoids s _ _ _).mapError rangePanic_updateInsufficientFundsError
  · have sender : Avoids RangePanic
        (subFromFractionalBalance cfg (getFractionalBalance s fromAddr) (amt % cfg.conversionFactor)) :=
      Avoids.ite (fun _ => Avoids.error id) fun _ => Avoids.ite (fun _ => Avoids.error id) fun _ =>
        Avoids.ite (fun _ => Avoids.ok _) fun _ => Avoids.ok _
    have recipient : Avoids RangePanic
        (addToFractionalBalance cfg (getFractionalBalance s toAddr) (amt % cfg.conversionFactor)) :=
      Avoids.ite (fun _ => Avoids.error id) fun _ => Avoids.ite (fun _ => Avoids.error id) fun _ =>
        Avoids.ite (fun _ => Avoids.ok _) fun _ => Avoids.ok _
    refine Avoids.bind sender fun senderNew subtracted => ?_
    refine Avoids.bind recipient fun recipientNew added => ?_
    rw [subFromFractionalBalance_ok subtracted, addToFractionalBalance_ok added]
    refine Avoids.bind (settleSend_avoids s _ _ _ _ _ _) fun settled _ => ?_
    refine Avoids.bind (setFractionalBalance_avoids settled _
      (borrow_range cfg amt (backed.fractional_range fromAddr))) ?_
    intro sent _
    refine Avoids.bind (setFractionalBalance_avoids sent _ (carry_range cfg amt (backed.fractional_range toAddr))) ?_
    intro received _
    exact Avoids.ok _

theorem mintExtendedCoin_avoids (moduleName : ModuleName) (amt : ℤ) :
    Avoids RangePanic (mintExtendedCoin cfg s moduleName amt) := by
  have carry := carry_range cfg amt (backed.fractional_range (moduleAddr cfg moduleName))
  have borrow := borrow_range cfg amt backed.remainder_range
  refine Avoids.ite (fun _ => ?_) fun _ => ?_
  · exact Avoids.ite (fun _ => bankMintCoins_avoids cfg s _ _) fun _ => Avoids.ok s
  refine Avoids.bind ?_ fun paid _ => Avoids.bind ?_ fun minted _ => ?_
  · exact Avoids.ite (fun _ => bankSendBetweenModules_avoids cfg s _ _ _) fun _ => Avoids.ok s
  · exact Avoids.ite (fun _ => bankMintCoins_avoids cfg paid _ _) fun _ => Avoids.ok paid
  refine Avoids.bind (setFractionalBalance_avoids minted _ ?_) fun fractionSet _ => ?_
  · by_cases full : cfg.conversionFactor ≤ s.fractionalBalances (moduleAddr cfg moduleName) +
        amt % cfg.conversionFactor
    · simpa [getFractionalBalance, full] using carry
    · simpa [getFractionalBalance, full] using carry
  refine Avoids.bind ?_ fun covered _ => ?_
  · refine Avoids.ite (fun _ => ?_) fun _ => Avoids.ok fractionSet
    exact (bankMintCoins_avoids cfg fractionSet _ _).mapError rangePanic_wrapFault
  refine Avoids.bind (setRemainderAmount_avoids covered ?_) fun remainderSet _ => Avoids.ok _
  by_cases less : s.remainder < amt % cfg.conversionFactor
  · simpa [getRemainderAmount, less, sub_neg] using borrow
  · simpa [getRemainderAmount, less, sub_neg] using borrow

theorem burnExtendedCoin_avoids (moduleName : ModuleName) (amt : ℤ) :
    Avoids RangePanic (burnExtendedCoin cfg s moduleName amt) := by
  have borrow := borrow_range cfg amt (backed.fractional_range (moduleAddr cfg moduleName))
  have carry := carry_range cfg amt backed.remainder_range
  have updated := @rangePanic_updateInsufficientFundsError cfg
  refine Avoids.ite (fun _ => ?_) fun _ => ?_
  · exact Avoids.ite (fun _ => bankBurnCoins_avoids cfg s _ _) fun _ => Avoids.ok s
  refine Avoids.bind ?_ fun lent _ => Avoids.bind ?_ fun drawn _ => Avoids.bind ?_ fun burned _ => ?_
  · exact Avoids.ite (fun _ => (bankSendBetweenModules_avoids cfg s _ _ _).mapError updated)
      fun _ => Avoids.ok s
  · exact Avoids.ite (fun _ => (bankBurnCoins_avoids cfg lent _ _).mapError rangePanic_wrapFault)
      fun _ => Avoids.ok lent
  · exact Avoids.ite (fun _ => (bankBurnCoins_avoids cfg drawn _ _).mapError updated)
      fun _ => Avoids.ok drawn
  refine Avoids.bind (setFractionalBalance_avoids burned _ ?_) fun fractionSet _ => ?_
  · by_cases less : s.fractionalBalances (moduleAddr cfg moduleName) < amt % cfg.conversionFactor
    · simpa [getFractionalBalance, less, sub_neg] using borrow
    · simpa [getFractionalBalance, less, sub_neg] using borrow
  refine Avoids.bind (setRemainderAmount_avoids fractionSet ?_) fun remainderSet _ => Avoids.ok _
  by_cases full : cfg.conversionFactor ≤ s.remainder + amt % cfg.conversionFactor
  · simpa [getRemainderAmount, full] using carry
  · simpa [getRemainderAmount, full] using carry

theorem sendCoins_avoids {fromAddr toAddr : AccAddress} (fromApart : fromAddr ≠ cfg.reserve)
    (toApart : toAddr ≠ cfg.reserve) (amt : Coins) : Avoids RangePanic (sendCoins cfg s fromAddr toAddr amt) := by
  refine Avoids.ite (fun _ => Avoids.error id) fun _ => Avoids.bind ?_ fun passed pass => ?_
  · exact Avoids.ite (fun _ => bankSendCoins_avoids s _ _ _) fun _ => Avoids.ok s
  · refine Avoids.ite (fun _ => ?_) fun _ => Avoids.ok passed
    rcases ite_pure_ok pass with ⟨-, run⟩ | ⟨-, rfl⟩
    · exact sendExtendedCoins_avoids (backed.of_bank_send fromApart toApart run) _ _ _
    · exact sendExtendedCoins_avoids backed _ _ _

theorem Issue.coins_avoids (issue : Issue) {moduleName : ModuleName}
    (apart : moduleAddr cfg moduleName ≠ cfg.reserve) (amt : Coins) :
    Avoids RangePanic (issue.coins cfg s moduleName amt) := by
  have whole : ∀ coins, Avoids RangePanic (issue.whole cfg s moduleName coins) := by
    intro coins
    cases issue
    · exact bankMintCoins_avoids cfg s _ _
    · exact bankBurnCoins_avoids cfg s _ _
  have extended : ∀ {passed}, Backed cfg passed → ∀ amt,
      Avoids RangePanic (issue.extended cfg passed moduleName amt) := by
    intro passed kept amt
    cases issue
    · exact mintExtendedCoin_avoids kept _ _
    · exact burnExtendedCoin_avoids kept _ _
  have kept : ∀ {passed}, (if passthrough cfg amt ≠ [] then issue.whole cfg s moduleName (passthrough cfg amt)
      else pure s) = .ok passed → Backed cfg passed := by
    intro passed pass
    rcases ite_pure_ok pass with ⟨-, run⟩ | ⟨-, rfl⟩
    · exact backed.of_whole issue apart run
    · exact backed
  cases issue
  all_goals
    refine Avoids.ite (fun _ => Avoids.error id) fun _ => ?_
    split
    · exact Avoids.error id
    refine Avoids.ite (fun _ => Avoids.error id) fun _ => Avoids.ite (fun _ => Avoids.error id) fun _ =>
      Avoids.bind (Avoids.ite (fun _ => whole _) fun _ => Avoids.ok s) fun passed pass => ?_
    exact Avoids.ite (fun _ => extended (kept pass) _) fun _ => Avoids.ok passed

/-- One attempted call meets no range panic, whether it succeeds or not. -/
theorem Call.run_avoids {call : Call} (apart : cfg.reserve ∉ call.parties cfg) :
    Avoids RangePanic (call.run cfg s) := by
  cases call <;>
    simp only [Call.parties, List.mem_cons, List.not_mem_nil, or_false, not_or] at apart
  case mintCoins moduleName amt => exact Issue.coins_avoids backed .mint (Ne.symm apart) amt
  case burnCoins moduleName amt => exact Issue.coins_avoids backed .burn (Ne.symm apart) amt
  case sendCoins fromAddr toAddr amt =>
      exact sendCoins_avoids backed (Ne.symm apart.1) (Ne.symm apart.2) amt
  case sendCoinsFromAccountToModule senderAddr recipientModule amt =>
      change Avoids RangePanic (Precisebank.sendCoinsFromAccountToModule cfg s senderAddr recipientModule amt)
      unfold Precisebank.sendCoinsFromAccountToModule
      split
      · exact Avoids.error id
      · rename_i recipientAddr found
        rw [moduleAddr_of found] at apart
        exact Avoids.ite (fun _ => Avoids.error id) fun _ =>
          sendCoins_avoids backed (Ne.symm apart.1) (Ne.symm apart.2) amt
  case sendCoinsFromModuleToAccount senderModule recipientAddr amt =>
      change Avoids RangePanic (Precisebank.sendCoinsFromModuleToAccount cfg s senderModule recipientAddr amt)
      unfold Precisebank.sendCoinsFromModuleToAccount
      split
      · exact Avoids.error id
      · rename_i senderAddr found
        rw [moduleAddr_of found] at apart
        exact Avoids.ite (fun _ => Avoids.error id) fun _ => Avoids.ite (fun _ => Avoids.error id)
          fun _ => sendCoins_avoids backed (Ne.symm apart.1) (Ne.symm apart.2) amt
  case sendCoinsFromModuleToModule senderModule recipientModule amt =>
      change Avoids RangePanic (Precisebank.sendCoinsFromModuleToModule cfg s senderModule recipientModule amt)
      unfold Precisebank.sendCoinsFromModuleToModule
      split
      · exact Avoids.error id
      · exact Avoids.error id
      · rename_i senderAddr recipientAddr senderFound recipientFound
        rw [moduleAddr_of senderFound, moduleAddr_of recipientFound] at apart
        exact Avoids.ite (fun _ => Avoids.error id) fun _ =>
          sendCoins_avoids backed (Ne.symm apart.1) (Ne.symm apart.2) amt

end

/-- Full backing along every run of calls that do not name the reserve: it holds
after each call, and neither a completed nor an aborted run met a range panic. -/
theorem runCalls_backed {calls : List Call} (backed : Backed cfg s)
    (apart : ∀ call ∈ calls, cfg.reserve ∉ call.parties cfg) :
    (∀ done, done <+: calls → ∀ u, runCalls cfg s done = .ok u → Backed cfg u) ∧
      ∀ fault, runCalls cfg s calls = .error fault → ¬ RangePanic fault := by
  constructor
  · intro done initial u success
    refine foldlM_invariant (Backed cfg) ?_ backed success
    intro call member before after holds stepped
    exact Call.run_backed holds (apart call (initial.subset member)) stepped
  · refine foldlM_avoids (Backed cfg) ?_ ?_ backed
    · intro call member before after holds stepped
      exact Call.run_backed holds (apart call member) stepped
    · intro call member before holds
      exact Call.run_avoids holds (apart call member)

end

/-- A six-decimals chain with an evm module that may mint and burn. -/
def sixDecimals : Config where
  denom := "utest"
  extendedDenom := "atest"
  decimals := 6
  decimals_valid := by decide
  same_denom := by decide
  moduleAddress name := if name = precisebankModule then some [1] else if name = "evm" then some [2]
    else none
  hasPermission name _ := name = precisebankModule || name = "evm"
  blockedAddr addr := addr = [1] || addr = [2]
  reserve := [1]
  reserve_registered := rfl

/-- The bank before any coin exists. -/
def emptyBank : BankState where
  balances _ := 0
  supply _ := 0
  locked _ _ := 0
  fractionalBalances := 0
  remainder := 0
  events := []

theorem emptyBank_backed {cfg : Config} : Backed cfg emptyBank where
  reserve := by simp [emptyBank, total, DFinsupp.sum_zero_index]
  fractional_nonneg _ := le_refl 0
  fractional_lt _ := cfg.conversionFactor_pos
  reserve_fractional := rfl
  remainder_nonneg := le_refl 0
  remainder_lt := cfg.conversionFactor_pos

/-- A mixed mint, a transfer with a borrow and a burn, from the empty bank. -/
def mixedCalls : List Call :=
  [.mintCoins "evm" [⟨"atest", 1500000000000⟩, ⟨"utest", 3⟩],
    .sendCoinsFromModuleToAccount "evm" [3] [⟨"atest", 700000000000⟩],
    .burnCoins "evm" [⟨"atest", 800000000000⟩, ⟨"utest", 1⟩]]

theorem runCalls_backed_mixedCalls :
    ∃ u, runCalls sixDecimals emptyBank mixedCalls = .ok u ∧ Backed sixDecimals u := by
  have runs : (runCalls sixDecimals emptyBank mixedCalls).toBool = true := by decide
  have apart : ∀ call ∈ mixedCalls, sixDecimals.reserve ∉ call.parties sixDecimals := by decide
  have kept := (runCalls_backed emptyBank_backed apart).1 mixedCalls List.prefix_rfl
  cases outcome : runCalls sixDecimals emptyBank mixedCalls with
  | error fault => simp [outcome, Except.toBool] at runs
  | ok u => exact ⟨u, rfl, kept u outcome⟩

end OgEvm.Precisebank
