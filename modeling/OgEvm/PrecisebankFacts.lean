import OgEvm.BankFacts
import OgEvm.LibExcept
import OgEvm.PrecisebankMint

namespace OgEvm.Precisebank

open Totals

/-- An amount booked on one account and zero elsewhere. -/
def booked (account : AccAddress) (amount : ℤ) (read : AccAddress) : ℤ :=
  if read = account then amount else 0

@[simp] theorem booked_self (account : AccAddress) (amount : ℤ) : booked account amount account = amount := if_pos rfl

theorem booked_ne {account read : AccAddress} (amount : ℤ) (apart : read ≠ account) :
    booked account amount read = 0 := if_neg apart

theorem booked_zero (account : AccAddress) : booked account 0 = fun _ => 0 :=
  funext fun _ => ite_self 0

/-- Net change of the integer balances with the supply, of the fractional
balances with their sum, and of the remainder. -/
@[ext] structure Movement where
  integer : AccAddress → ℤ
  issued : ℤ
  fractional : AccAddress → ℤ
  fractionalTotal : ℤ
  remainder : ℤ

namespace Movement

def none : Movement := ⟨fun _ => 0, 0, fun _ => 0, 0, 0⟩

def add (first second : Movement) : Movement where
  integer account := first.integer account + second.integer account
  issued := first.issued + second.issued
  fractional account := first.fractional account + second.fractional account
  fractionalTotal := first.fractionalTotal + second.fractionalTotal
  remainder := first.remainder + second.remainder

def transfer (fromAddr toAddr : AccAddress) (amount : ℤ) : Movement :=
  { none with integer := fun account => booked toAddr amount account - booked fromAddr amount account }

def issue (addr : AccAddress) (amount : ℤ) : Movement :=
  { none with integer := booked addr amount, issued := amount }

def setFractional (addr : AccAddress) (delta : ℤ) : Movement :=
  { none with fractional := booked addr delta, fractionalTotal := delta }

def setRemainder (delta : ℤ) : Movement := { none with remainder := delta }

theorem transfer_zero (fromAddr toAddr : AccAddress) : transfer fromAddr toAddr 0 = none := by
  simp [transfer, none, booked_zero]

theorem issue_zero (addr : AccAddress) : issue addr 0 = none := by
  simp [issue, none, booked_zero]

/-- Transfers skipped when the amount is zero are transfers all the same. -/
theorem transfer_nonneg (fromAddr toAddr : AccAddress) {amount : ℤ} (nonneg : 0 ≤ amount) :
    (if 0 < amount then transfer fromAddr toAddr amount else none) = transfer fromAddr toAddr amount := by
  rcases nonneg.eq_or_lt with rfl | positive
  · rw [transfer_zero, ite_self]
  · rw [if_pos positive]

theorem issue_nonneg (addr : AccAddress) {amount : ℤ} (nonneg : 0 ≤ amount) :
    (if 0 < amount then issue addr amount else none) = issue addr amount := by
  rcases nonneg.eq_or_lt with rfl | positive
  · rw [issue_zero, ite_self]
  · rw [if_pos positive]

theorem transfer_flag (fromAddr toAddr : AccAddress) (flag : Bool) :
    (if flag = true then transfer fromAddr toAddr 1 else none) = transfer fromAddr toAddr flag.toInt := by
  cases flag
  · exact (transfer_zero fromAddr toAddr).symm
  · rfl

theorem issue_flag (addr : AccAddress) (flag : Bool) :
    (if flag = true then issue addr 1 else none) = issue addr flag.toInt := by
  cases flag
  · exact (issue_zero addr).symm
  · rfl

theorem issue_neg_flag (addr : AccAddress) (flag : Bool) :
    (if flag = true then issue addr (-1) else none) = issue addr (-flag.toInt) := by
  cases flag
  · exact (issue_zero addr).symm
  · rfl

theorem issue_neg (addr : AccAddress) (amount : ℤ) :
    (if amount ≠ 0 then issue addr (-amount) else none) = issue addr (-amount) := by
  by_cases zero : amount = 0
  · rw [zero, neg_zero, issue_zero, ite_self]
  · rw [if_pos zero]

end Movement

/-- A run of keeper calls that touches the integer denomination and the
precisebank store only, with its net effect. -/
structure Moves (cfg : Config) (s t : BankState) (net : Movement) : Prop where
  integer : ∀ account,
    t.balances cfg.denom account = s.balances cfg.denom account + net.integer account
  others : ∀ denom, denom ≠ cfg.denom → ∀ account, t.balances denom account = s.balances denom account
  total : total (t.balances cfg.denom) = total (s.balances cfg.denom) + net.issued
  supply : t.supply cfg.denom = s.supply cfg.denom + net.issued
  locked : t.locked = s.locked
  fractional : ∀ account,
    t.fractionalBalances account = s.fractionalBalances account + net.fractional account
  fractionalTotal : Totals.total t.fractionalBalances =
    Totals.total s.fractionalBalances + net.fractionalTotal
  remainder : t.remainder = s.remainder + net.remainder

theorem Moves.refl (cfg : Config) (s : BankState) : Moves cfg s s .none := by
  constructor <;> intros <;> simp [Movement.none]

theorem Moves.trans {cfg : Config} {s t u : BankState} {first second : Movement}
    (left : Moves cfg s t first) (right : Moves cfg t u second) : Moves cfg s u (first.add second) where
  integer account := by rw [right.integer, left.integer, add_assoc]; rfl
  others denom apart account := by rw [right.others denom apart, left.others denom apart]
  total := by rw [right.total, left.total, add_assoc]; rfl
  supply := by rw [right.supply, left.supply, add_assoc]; rfl
  locked := right.locked.trans left.locked
  fractional account := by rw [right.fractional, left.fractional, add_assoc]; rfl
  fractionalTotal := by rw [right.fractionalTotal, left.fractionalTotal, add_assoc]; rfl
  remainder := by rw [right.remainder, left.remainder, add_assoc]; rfl

/-- Emitting an event moves nothing. -/
theorem Moves.emit {cfg : Config} {s t : BankState} {net : Movement} (moves : Moves cfg s t net)
    (event : Event) : Moves cfg s (Bank.emit t event) net :=
  ⟨moves.integer, moves.others, moves.total, moves.supply, moves.locked, moves.fractional,
    moves.fractionalTotal, moves.remainder⟩

variable {cfg : Config} {s t : BankState}

section

variable {moduleName : ModuleName} {amount : ℤ}

theorem amountOf_integerCoins (amount : ℤ) : Coins.amountOf (integerCoins cfg amount) cfg.denom = amount := by
  rw [integerCoins, Coins.amountOf_singleton, if_pos rfl]

theorem amountOf_integerCoins_ne (amount : ℤ) {denom : Denom} (apart : denom ≠ cfg.denom) :
    Coins.amountOf (integerCoins cfg amount) denom = 0 := by
  rw [integerCoins, Coins.amountOf_singleton, if_neg apart.symm]

theorem moduleAddr_of {addr : AccAddress} (found : cfg.moduleAddress moduleName = some addr) :
    moduleAddr cfg moduleName = addr := by
  simp [moduleAddr, found]

theorem moduleAddr_reserve : moduleAddr cfg precisebankModule = cfg.reserve :=
  moduleAddr_of cfg.reserve_registered

theorem moved_moves (fromAddr toAddr : AccAddress) (positive : 0 < amount) :
    Moves cfg s (Bank.moved s fromAddr toAddr (integerCoins cfg amount)) (.transfer fromAddr toAddr amount) := by
  have valid : Coins.IsValid (integerCoins cfg amount) :=
    Coins.isValid_singleton cfg.denom amount positive
  obtain ⟨supply, locked, fractional, remainder⟩ :=
    Bank.moved_frame s fromAddr toAddr (integerCoins cfg amount)
  refine ⟨?_, ?_, ?_, ?_, locked, ?_, ?_, ?_⟩
  · intro account
    rw [Bank.moved_balance s fromAddr toAddr valid, amountOf_integerCoins]
    simp only [Movement.transfer, booked]
    ring
  · intro denom apart account
    rw [Bank.moved_balance s fromAddr toAddr valid, amountOf_integerCoins_ne amount apart]
    simp
  · rw [Bank.moved_total s fromAddr toAddr valid]
    exact (add_zero _).symm
  · rw [supply]
    exact (add_zero _).symm
  · intro account
    rw [fractional]
    exact (add_zero _).symm
  · rw [fractional]
    exact (add_zero _).symm
  · rw [remainder]
    exact (add_zero _).symm

theorem sendCoins_moves {fromAddr toAddr : AccAddress} (positive : 0 < amount)
    (success : Bank.sendCoins s fromAddr toAddr (integerCoins cfg amount) = .ok t) :
    Moves cfg s t (.transfer fromAddr toAddr amount) := by
  rw [(Bank.sendCoins_ok success).2]
  exact moved_moves fromAddr toAddr positive

theorem sendCoinsFromAccountToModule_moves {senderAddr : AccAddress} {recipientModule : ModuleName}
    (positive : 0 < amount)
    (success : Bank.sendCoinsFromAccountToModule cfg s senderAddr recipientModule (integerCoins cfg amount) =
      .ok t) : Moves cfg s t (.transfer senderAddr (moduleAddr cfg recipientModule) amount) := by
  simp only [Bank.sendCoinsFromAccountToModule] at success
  split at success
  · cases success
  · rename_i recipientAddr found
    rw [moduleAddr_of found]
    exact sendCoins_moves positive success

theorem sendCoinsFromModuleToModule_moves {senderModule recipientModule : ModuleName} (positive : 0 < amount)
    (success : Bank.sendCoinsFromModuleToModule cfg s senderModule recipientModule (integerCoins cfg amount)
      = .ok t) : Moves cfg s t (.transfer (moduleAddr cfg senderModule) (moduleAddr cfg recipientModule) amount) := by
  simp only [Bank.sendCoinsFromModuleToModule] at success
  split at success
  · cases success
  · cases success
  · rename_i senderAddr recipientAddr senderFound recipientFound
    rw [moduleAddr_of senderFound, moduleAddr_of recipientFound]
    exact sendCoins_moves positive success

theorem reissued_moves (addr : AccAddress) (sign amount : ℤ) (event : Event)
    (valid : Coins.IsValid (integerCoins cfg amount)) :
    Moves cfg s (Bank.reissued sign event s addr (integerCoins cfg amount)) (.issue addr (sign * amount)) := by
  obtain ⟨⟨-, locked, fractional, remainder⟩, -⟩ :=
    Bank.shiftCoins_frame sign addr (integerCoins cfg amount) s
  refine ⟨?_, ?_, ?_, ?_, locked, ?_, ?_, ?_⟩
  · intro account
    rw [Bank.reissued_balances, Bank.shiftCoins_balance sign addr valid, amountOf_integerCoins]
    rfl
  · intro denom apart account
    rw [Bank.reissued_balances, Bank.shiftCoins_balance sign addr valid, amountOf_integerCoins_ne amount apart]
    simp
  · rw [Bank.reissued_balances, Bank.shiftCoins_total sign addr valid, amountOf_integerCoins]
    rfl
  · simp only [Bank.reissued, amountOf_integerCoins]
    rfl
  · intro account
    change (Bank.shiftCoins sign addr (integerCoins cfg amount) s).fractionalBalances account = _
    rw [fractional]
    exact (add_zero _).symm
  · change Totals.total (Bank.shiftCoins sign addr (integerCoins cfg amount) s).fractionalBalances = _
    rw [fractional]
    exact (add_zero _).symm
  · change (Bank.shiftCoins sign addr (integerCoins cfg amount) s).remainder = _
    rw [remainder]
    exact (add_zero _).symm

theorem mintCoins_moves (success : Bank.mintCoins cfg s moduleName (integerCoins cfg amount) = .ok t) :
    Moves cfg s t (.issue (moduleAddr cfg moduleName) amount) := by
  obtain ⟨addr, found, valid, rfl⟩ := Bank.mintCoins_ok success
  rw [moduleAddr_of found]
  have moves := reissued_moves (s := s) addr 1 amount
    (.coinReceived addr (integerCoins cfg amount)) valid
  rwa [one_mul] at moves

theorem burnCoins_moves (success : Bank.burnCoins cfg s moduleName (integerCoins cfg amount) = .ok t) :
    Moves cfg s t (.issue (moduleAddr cfg moduleName) (-amount)) := by
  obtain ⟨addr, found, valid, rfl⟩ := Bank.burnCoins_ok success
  rw [moduleAddr_of found]
  have moves := reissued_moves (s := s) addr (-1) amount
    (.coinSpent addr (integerCoins cfg amount)) valid
  rwa [neg_one_mul] at moves

end

section

variable {address : AccAddress} {amount : ℤ} (success : setFractionalBalance cfg s address amount = .ok t)

include success

/-- `SetFractionalBalance` writes one entry of the store and nothing else. -/
theorem setFractionalBalance_ok : t = { s with fractionalBalances := t.fractionalBalances } ∧
      (∀ read, t.fractionalBalances read = if read = address then amount else s.fractionalBalances read) ∧
      Totals.total t.fractionalBalances =
        Totals.total s.fractionalBalances - s.fractionalBalances address + amount := by
  simp only [setFractionalBalance] at success
  split at success
  · cases success
  · split at success
    · rename_i zero
      obtain rfl := Except.ok.inj success
      refine ⟨rfl, ?_, ?_⟩
      · intro read
        simp only [deleteFractionalBalance, DFinsupp.erase_apply, zero]
      · simp only [deleteFractionalBalance, total_erase, zero, add_zero]
    · split at success
      · cases success
      · obtain rfl := Except.ok.inj success
        exact ⟨rfl, fun read => update_apply _ _ _ _, total_update _ _ _⟩

theorem setFractionalBalance_nonneg : 0 ≤ amount := by
  unfold setFractionalBalance validateFractionalAmount at success
  split_ifs at success with _ zero low
  · exact zero.ge
  · exact low.le

theorem setFractionalBalance_moves :
    Moves cfg s t (.setFractional address (amount - s.fractionalBalances address)) := by
  obtain ⟨frame, read, sum⟩ := setFractionalBalance_ok success
  rw [frame]
  refine ⟨fun _ => (add_zero _).symm, fun _ _ _ => rfl, (add_zero _).symm, (add_zero _).symm, rfl,
    ?_, ?_, (add_zero _).symm⟩
  · intro account
    simp only [Movement.setFractional, booked, read]
    split
    · rename_i same
      rw [same]
      ring
    · exact (add_zero _).symm
  · simp only [Movement.setFractional, sum]
    ring

end

theorem setRemainderAmount_moves {amount : ℤ} (success : setRemainderAmount cfg s amount = .ok t) :
    Moves cfg s t (.setRemainder (amount - s.remainder)) := by
  have written : t = { s with remainder := amount } := by
    simp only [setRemainderAmount] at success
    split at success
    · rename_i zero
      rw [zero]
      exact (Except.ok.inj success).symm
    · split at success
      · cases success
      · exact (Except.ok.inj success).symm
  rw [written]
  refine ⟨fun _ => (add_zero _).symm, fun _ _ _ => rfl, (add_zero _).symm, (add_zero _).symm, rfl,
    fun _ => (add_zero _).symm, (add_zero _).symm, ?_⟩
  simp only [Movement.setRemainder]
  ring

end OgEvm.Precisebank
