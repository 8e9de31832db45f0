import OgEvm.PrecisebankFacts

/- What a successful send, mint or burn of extended coins does. With the amount
split as quotient and fraction, a borrow or a carry of one account and an
underflow or overflow of the remainder each move one integer coin. -/
namespace OgEvm.Precisebank

open ExceptFacts

variable {cfg : Config} {s t : BankState}

theorem fraction_nonneg (cfg : Config) (amt : ℤ) : 0 ≤ amt % cfg.conversionFactor :=
  Int.emod_nonneg _ cfg.conversionFactor_pos.ne'

theorem fraction_lt (cfg : Config) (amt : ℤ) : amt % cfg.conversionFactor < cfg.conversionFactor :=
  Int.emod_lt_of_pos _ cfg.conversionFactor_pos

theorem quotient_nonneg (cfg : Config) {amt : ℤ} (positive : 0 < amt) : 0 ≤ amt.tdiv cfg.conversionFactor :=
  Int.tdiv_nonneg positive.le cfg.conversionFactor_pos.le

/-- The quotient and the fraction recompose to the amount. -/
theorem quotient_fraction (cfg : Config) {amt : ℤ} (positive : 0 < amt) :
    amt.tdiv cfg.conversionFactor * cfg.conversionFactor + amt % cfg.conversionFactor = amt := by
  rw [Int.tdiv_eq_ediv_of_nonneg positive.le]
  exact Int.ediv_mul_add_emod amt cfg.conversionFactor

theorem Moves.ite (cfg : Config) {condition : Prop} [Decidable condition] {step : Except Fault BankState}
    {net : Movement} (success : (if condition then step else pure s) = .ok t)
    (taken : condition → step = .ok t → Moves cfg s t net) : Moves cfg s t (if condition then net else .none) := by
  rcases ite_pure_ok success with ⟨holds, run⟩ | ⟨fails, rfl⟩
  · rw [if_pos holds]
    exact taken holds run
  · rw [if_neg fails]
    exact Moves.refl cfg t

theorem subFromFractionalBalance_ok {current amountToSub : ℤ} {result : ℤ × Bool}
    (success : subFromFractionalBalance cfg current amountToSub = .ok result) :
    result = (current - amountToSub + (decide (current < amountToSub)).toInt * cfg.conversionFactor,
      decide (current < amountToSub)) := by
  simp only [subFromFractionalBalance] at success
  obtain ⟨-, success⟩ := ite_error_ok success
  obtain ⟨-, success⟩ := ite_error_ok success
  split at success
  · rename_i negative
    have less : current < amountToSub := by omega
    simpa [less] using (Except.ok.inj success).symm
  · rename_i nonneg
    have enough : ¬ current < amountToSub := by omega
    simpa [enough] using (Except.ok.inj success).symm

theorem addToFractionalBalance_ok {current amountToAdd : ℤ} {result : ℤ × Bool}
    (success : addToFractionalBalance cfg current amountToAdd = .ok result) : result = (current + amountToAdd -
      (decide (cfg.conversionFactor ≤ current + amountToAdd)).toInt * cfg.conversionFactor,
      decide (cfg.conversionFactor ≤ current + amountToAdd)) := by
  simp only [addToFractionalBalance] at success
  obtain ⟨-, success⟩ := ite_error_ok success
  obtain ⟨-, success⟩ := ite_error_ok success
  split at success
  · rename_i full
    simpa [full] using (Except.ok.inj success).symm
  · rename_i room
    simpa [room] using (Except.ok.inj success).symm

/-- Integer coins a send moves, `borrow` and `carry` being its two flags. -/
def sendMovement (cfg : Config) (fromAddr toAddr : AccAddress) (quotient fraction : ℤ)
    (borrow carry : Bool) : Movement where
  integer account := booked toAddr (quotient + carry.toInt) account -
    booked fromAddr (quotient + borrow.toInt) account +
    booked cfg.reserve (borrow.toInt - carry.toInt) account
  issued := 0
  fractional account := booked fromAddr (borrow.toInt * cfg.conversionFactor - fraction) account +
    booked toAddr (fraction - carry.toInt * cfg.conversionFactor) account
  fractionalTotal := (borrow.toInt - carry.toInt) * cfg.conversionFactor
  remainder := 0

theorem settleSend_moves {fromAddr toAddr : AccAddress} {amt quotient : ℤ} {borrow carry : Bool}
    (nonneg : 0 ≤ quotient) (success : settleSend cfg s fromAddr toAddr amt
      (if borrow && carry then quotient + 1 else quotient) borrow carry = .ok t) : Moves cfg s t { Movement.none with
      integer := (sendMovement cfg fromAddr toAddr quotient 0 borrow carry).integer } := by
  simp only [settleSend] at success
  obtain ⟨first, paid, success⟩ := bind_ok success
  obtain ⟨second, borrowed, success⟩ := bind_ok success
  have pay := Moves.ite cfg paid fun positive run => sendCoins_moves positive (mapError_ok run)
  have lend := Moves.ite cfg borrowed fun _ run =>
    sendCoinsFromAccountToModule_moves one_pos (mapError_ok run)
  have draw := Moves.ite cfg success fun _ run => sendCoins_moves one_pos (mapError_ok run)
  have whole : 0 ≤ if borrow && carry then quotient + 1 else quotient := by split <;> omega
  rw [Movement.transfer_nonneg _ _ whole] at pay
  rw [moduleAddr_reserve, Movement.transfer_flag] at lend
  rw [Movement.transfer_flag] at draw
  convert (pay.trans lend).trans draw using 1
  ext account
  · simp only [Movement.add, Movement.transfer, sendMovement, booked]
    cases borrow <;> cases carry <;> simp <;> split_ifs <;> omega
  all_goals rfl

/-- The calls behind a successful transfer between two ordinary accounts. -/
theorem sendExtendedCoins_ok {fromAddr toAddr : AccAddress} {amt : ℤ} {borrow carry : Bool}
    (fromApart : fromAddr ≠ cfg.reserve) (toApart : toAddr ≠ cfg.reserve) (apart : fromAddr ≠ toAddr)
    (borrows : borrow = decide (s.fractionalBalances fromAddr < amt % cfg.conversionFactor))
    (carries : carry = decide (cfg.conversionFactor ≤ s.fractionalBalances toAddr + amt % cfg.conversionFactor))
    (success : sendExtendedCoins cfg s fromAddr toAddr amt = .ok t) : ∃ settled sent received,
      settleSend cfg s fromAddr toAddr amt (if borrow && carry then
        amt.tdiv cfg.conversionFactor + 1 else amt.tdiv cfg.conversionFactor) borrow carry = .ok settled ∧
      setFractionalBalance cfg settled fromAddr (s.fractionalBalances fromAddr -
        amt % cfg.conversionFactor + borrow.toInt * cfg.conversionFactor) = .ok sent ∧
      setFractionalBalance cfg sent toAddr (s.fractionalBalances toAddr +
        amt % cfg.conversionFactor - carry.toInt * cfg.conversionFactor) = .ok received ∧
      t = Bank.emit (Bank.emit received (.fractionalBalanceChange fromAddr
          (s.fractionalBalances fromAddr - amt % cfg.conversionFactor +
            borrow.toInt * cfg.conversionFactor - s.fractionalBalances fromAddr)))
        (.fractionalBalanceChange toAddr (s.fractionalBalances toAddr + amt % cfg.conversionFactor -
          carry.toInt * cfg.conversionFactor - s.fractionalBalances toAddr)) := by
  rw [sendExtendedCoins, if_neg (by tauto), if_neg apart] at success
  simp only [getFractionalBalance] at success
  obtain ⟨⟨senderNew, senderBorrows⟩, subtracted, success⟩ := bind_ok success
  obtain ⟨⟨recipientNew, recipientCarries⟩, added, success⟩ := bind_ok success
  obtain ⟨settled, settle, success⟩ := bind_ok success
  obtain ⟨sent, senderSet, success⟩ := bind_ok success
  obtain ⟨received, recipientSet, success⟩ := bind_ok success
  have senderSplit := subFromFractionalBalance_ok subtracted
  have recipientSplit := addToFractionalBalance_ok added
  rw [← borrows] at senderSplit
  rw [← carries] at recipientSplit
  obtain ⟨rfl, rfl⟩ := Prod.mk.inj senderSplit
  obtain ⟨rfl, rfl⟩ := Prod.mk.inj recipientSplit
  exact ⟨settled, sent, received, settle, senderSet, recipientSet, (Except.ok.inj success).symm⟩

theorem sendExtendedCoins_moves {fromAddr toAddr : AccAddress} {amt : ℤ} (positive : 0 < amt)
    (fromApart : fromAddr ≠ cfg.reserve) (toApart : toAddr ≠ cfg.reserve)
    (apart : fromAddr ≠ toAddr) (success : sendExtendedCoins cfg s fromAddr toAddr amt = .ok t) :
    Moves cfg s t (sendMovement cfg fromAddr toAddr (amt.tdiv cfg.conversionFactor) (amt % cfg.conversionFactor)
      (decide (s.fractionalBalances fromAddr < amt % cfg.conversionFactor)) (decide (cfg.conversionFactor ≤
        s.fractionalBalances toAddr + amt % cfg.conversionFactor))) := by
  obtain ⟨settled, sent, received, settle, senderSet, recipientSet, rfl⟩ :=
    sendExtendedCoins_ok fromApart toApart apart rfl rfl success
  have settleMoves := settleSend_moves (quotient_nonneg cfg positive) settle
  have senderMoves := setFractionalBalance_moves senderSet
  have recipientMoves := setFractionalBalance_moves recipientSet
  have sender : settled.fractionalBalances fromAddr = s.fractionalBalances fromAddr := by
    rw [settleMoves.fractional]
    exact add_zero _
  have recipient : sent.fractionalBalances toAddr = s.fractionalBalances toAddr := by
    rw [senderMoves.fractional, settleMoves.fractional]
    simp [Movement.setFractional, Movement.none, booked_ne _ apart.symm]
  rw [sender] at senderMoves
  rw [recipient] at recipientMoves
  refine Moves.emit (Moves.emit ?_ _) _
  convert (settleMoves.trans senderMoves).trans recipientMoves using 1
  generalize decide (s.fractionalBalances fromAddr < amt % cfg.conversionFactor) = borrow
  generalize decide (cfg.conversionFactor ≤ s.fractionalBalances toAddr + amt % cfg.conversionFactor) = carry
  ext account
  · simp [Movement.add, Movement.setFractional, Movement.none, sendMovement]
  · rfl
  · simp only [Movement.add, Movement.setFractional, Movement.none, sendMovement, zero_add]
    congr 2 <;> ring
  · simp only [Movement.add, Movement.setFractional, Movement.none, sendMovement, zero_add]
    ring
  · rfl

/-- Net effect of a mint, `carry` of the target and `short` of the remainder. -/
def mintMovement (cfg : Config) (addr : AccAddress) (quotient fraction : ℤ) (carry short : Bool) :
    Movement where
  integer account := booked addr (quotient + carry.toInt) account +
    booked cfg.reserve (short.toInt - carry.toInt) account
  issued := quotient + short.toInt
  fractional := booked addr (fraction - carry.toInt * cfg.conversionFactor)
  fractionalTotal := fraction - carry.toInt * cfg.conversionFactor
  remainder := short.toInt * cfg.conversionFactor - fraction

/-- A mint with its two flags resolved: the reserve pays a covered carry, mints
cover the rest, and the fraction and the remainder are written last. -/
theorem mintExtendedCoin_ok {moduleName : ModuleName} {amt : ℤ} {carry short : Bool}
    (apart : moduleName ≠ precisebankModule) (carries : carry = decide (cfg.conversionFactor ≤
      s.fractionalBalances (moduleAddr cfg moduleName) + amt % cfg.conversionFactor))
    (shorts : short = decide (s.remainder < amt % cfg.conversionFactor))
    (success : mintExtendedCoin cfg s moduleName amt = .ok t) : ∃ paid minted fractionSet covered remainderSet event,
      (if carry && !short then Bank.sendCoinsFromModuleToModule cfg s precisebankModule moduleName
        (integerCoins cfg 1) else pure s) = .ok paid ∧
      (if 0 < amt.tdiv cfg.conversionFactor + (carry && short).toInt then
        Bank.mintCoins cfg paid moduleName (integerCoins cfg
          (amt.tdiv cfg.conversionFactor + (carry && short).toInt)) else pure paid) = .ok minted ∧
      setFractionalBalance cfg minted (moduleAddr cfg moduleName)
        (s.fractionalBalances (moduleAddr cfg moduleName) + amt % cfg.conversionFactor -
          carry.toInt * cfg.conversionFactor) = .ok fractionSet ∧
      (if short && !carry then (Bank.mintCoins cfg fractionSet precisebankModule (integerCoins cfg 1)).mapError
          (wrapFault ("failed to mint " ++ Coins.toText (integerCoins cfg 1) ++ " for reserve"))
        else pure fractionSet) = .ok covered ∧
      setRemainderAmount cfg covered (s.remainder - amt % cfg.conversionFactor +
        short.toInt * cfg.conversionFactor) = .ok remainderSet ∧ t = Bank.emit remainderSet event := by
  rw [mintExtendedCoin, if_neg apart] at success
  obtain ⟨paid, pay, success⟩ := bind_ok success
  obtain ⟨minted, mint, success⟩ := bind_ok success
  obtain ⟨fractionSet, fraction, success⟩ := bind_ok success
  obtain ⟨covered, cover, success⟩ := bind_ok success
  obtain ⟨remainderSet, remainder, success⟩ := bind_ok success
  simp only [getFractionalBalance, getRemainderAmount, sub_neg, ← not_lt]
    at pay mint fraction cover remainder
  refine ⟨paid, minted, fractionSet, covered, remainderSet, _, ?_, ?_, ?_, ?_, ?_, (Except.ok.inj success).symm⟩
  all_goals subst carries shorts
  all_goals
    by_cases room : s.fractionalBalances (moduleAddr cfg moduleName) + amt % cfg.conversionFactor <
        cfg.conversionFactor <;>
      by_cases less : s.remainder < amt % cfg.conversionFactor <;>
      simp only [room, less, not_true, not_false_eq_true, decide_true, decide_false, and_true,
        and_false, and_self, Bool.and_true, Bool.and_false, Bool.not_true,
        Bool.not_false, Bool.toInt_true, Bool.toInt_false, one_mul, zero_mul, add_zero, sub_zero,
        Bool.false_eq_true, if_true, if_false, ← not_lt]
        at pay mint fraction cover remainder ⊢ <;>
      assumption

theorem mintExtendedCoin_moves {moduleName : ModuleName} {amt : ℤ} (positive : 0 < amt)
    (apart : moduleName ≠ precisebankModule) (success : mintExtendedCoin cfg s moduleName amt = .ok t) :
    Moves cfg s t (mintMovement cfg (moduleAddr cfg moduleName) (amt.tdiv cfg.conversionFactor)
      (amt % cfg.conversionFactor) (decide (cfg.conversionFactor ≤ s.fractionalBalances (moduleAddr cfg moduleName) +
        amt % cfg.conversionFactor)) (decide (s.remainder < amt % cfg.conversionFactor))) := by
  obtain ⟨paid, minted, fractionSet, covered, remainderSet, event, pay, mint, fraction, cover,
    remainder, rfl⟩ := mintExtendedCoin_ok apart rfl rfl success
  generalize decide (cfg.conversionFactor ≤ s.fractionalBalances (moduleAddr cfg moduleName) +
    amt % cfg.conversionFactor) = carry at *
  generalize decide (s.remainder < amt % cfg.conversionFactor) = short at *
  have quotient := quotient_nonneg cfg positive
  have whole : 0 ≤ amt.tdiv cfg.conversionFactor + (carry && short).toInt := by
    cases carry <;> cases short <;> simp only [Bool.and_true, Bool.and_false, Bool.and_self,
      Bool.toInt_true, Bool.toInt_false] <;> omega
  have payMoves := Moves.ite cfg pay fun _ run =>
    sendCoinsFromModuleToModule_moves one_pos run
  have mintMoves := Moves.ite cfg mint fun _ run => mintCoins_moves run
  have fractionMoves := setFractionalBalance_moves fraction
  have coverMoves := Moves.ite cfg cover fun _ run => mintCoins_moves (mapError_ok run)
  have remainderMoves := setRemainderAmount_moves remainder
  rw [Movement.transfer_flag, moduleAddr_reserve] at payMoves
  rw [Movement.issue_nonneg _ whole] at mintMoves
  rw [Movement.issue_flag, moduleAddr_reserve] at coverMoves
  have before := payMoves.trans mintMoves
  have fractionSame : minted.fractionalBalances (moduleAddr cfg moduleName) =
      s.fractionalBalances (moduleAddr cfg moduleName) := by
    rw [before.fractional]
    exact add_zero _
  have after := (before.trans fractionMoves).trans coverMoves
  have remainderSame : covered.remainder = s.remainder := by
    rw [after.remainder]
    exact add_zero _
  rw [remainderSame] at remainderMoves
  refine Moves.emit ?_ event
  convert after.trans remainderMoves using 1
  ext account
  all_goals simp only [mintMovement, Movement.add, Movement.transfer, Movement.issue, Movement.setFractional,
    Movement.setRemainder, Movement.none, fractionSame]
  · simp only [booked]
    cases carry <;> cases short <;> simp
    split_ifs <;> omega
  · cases carry <;> cases short <;> simp
  · simp only [zero_add, add_zero]
    congr 1
    ring
  · ring
  · ring

/-- Net effect of a burn, `borrow` of the target and `spill` of the remainder. -/
def burnMovement (cfg : Config) (addr : AccAddress) (quotient fraction : ℤ) (borrow spill : Bool) :
    Movement where
  integer account := booked addr (-(quotient + borrow.toInt)) account +
    booked cfg.reserve (borrow.toInt - spill.toInt) account
  issued := -(quotient + spill.toInt)
  fractional := booked addr (borrow.toInt * cfg.conversionFactor - fraction)
  fractionalTotal := borrow.toInt * cfg.conversionFactor - fraction
  remainder := fraction - spill.toInt * cfg.conversionFactor

/-- A burn with its two flags resolved, in the order of the keeper's calls. -/
theorem burnExtendedCoin_ok {moduleName : ModuleName} {amt : ℤ} {borrow spill : Bool}
    (apart : moduleName ≠ precisebankModule)
    (borrows : borrow = decide (s.fractionalBalances (moduleAddr cfg moduleName) < amt % cfg.conversionFactor))
    (spills : spill = decide (cfg.conversionFactor ≤ s.remainder + amt % cfg.conversionFactor))
    (success : burnExtendedCoin cfg s moduleName amt = .ok t) : ∃ lent drawn burned fractionSet remainderSet event,
      (if borrow && !spill then (Bank.sendCoinsFromModuleToModule cfg s moduleName precisebankModule
          (integerCoins cfg 1)).mapError (updateInsufficientFundsError cfg s (moduleAddr cfg moduleName) amt)
        else pure s) = .ok lent ∧ (if !borrow && spill then (Bank.burnCoins cfg lent precisebankModule
          (integerCoins cfg 1)).mapError
          (wrapFault ("failed to burn " ++ Coins.toText (integerCoins cfg 1) ++ " for reserve"))
        else pure lent) = .ok drawn ∧ (if amt.tdiv cfg.conversionFactor + (borrow && spill).toInt ≠ 0 then
        (Bank.burnCoins cfg drawn moduleName (integerCoins cfg
          (amt.tdiv cfg.conversionFactor + (borrow && spill).toInt))).mapError
          (updateInsufficientFundsError cfg drawn (moduleAddr cfg moduleName) amt)
        else pure drawn) = .ok burned ∧ setFractionalBalance cfg burned (moduleAddr cfg moduleName)
        (s.fractionalBalances (moduleAddr cfg moduleName) - amt % cfg.conversionFactor +
          borrow.toInt * cfg.conversionFactor) = .ok fractionSet ∧
      setRemainderAmount cfg fractionSet (s.remainder + amt % cfg.conversionFactor -
        spill.toInt * cfg.conversionFactor) = .ok remainderSet ∧ t = Bank.emit remainderSet event := by
  unfold burnExtendedCoin getFractionalBalance getRemainderAmount at success
  rw [if_neg apart] at success
  obtain ⟨lent, lend, success⟩ := bind_ok success
  obtain ⟨drawn, draw, success⟩ := bind_ok success
  obtain ⟨burned, burn, success⟩ := bind_ok success
  obtain ⟨fractionSet, fraction, success⟩ := bind_ok success
  obtain ⟨remainderSet, remainder, success⟩ := bind_ok success
  simp only [sub_neg, ← borrows] at lend draw burn fraction remainder
  rw [← spills] at lend draw burn remainder
  refine ⟨lent, drawn, burned, fractionSet, remainderSet, _, lend, draw, ?_, ?_, ?_,
    (Except.ok.inj success).symm⟩
  · cases borrow <;> cases spill <;> simpa using burn
  · cases borrow <;> simpa using fraction
  · cases spill <;> simpa using remainder

/-- What a burn does on the side of the reserve. -/
theorem reserve_moves {moduleName : ModuleName} {borrow spill : Bool} {lent drawn : BankState}
    {lendFault drawFault : Fault → Fault} (lend : (if borrow && !spill then (Bank.sendCoinsFromModuleToModule cfg s
      moduleName precisebankModule (integerCoins cfg 1)).mapError lendFault else pure s) = .ok lent)
    (draw : (if !borrow && spill then (Bank.burnCoins cfg lent precisebankModule
      (integerCoins cfg 1)).mapError drawFault else pure lent) = .ok drawn) :
    Moves cfg s drawn ((Movement.transfer (moduleAddr cfg moduleName) cfg.reserve (borrow && !spill).toInt).add
      (Movement.issue cfg.reserve (-(!borrow && spill).toInt))) := by
  have lendMoves := Moves.ite cfg lend fun _ run =>
    sendCoinsFromModuleToModule_moves one_pos (mapError_ok run)
  have drawMoves := Moves.ite cfg draw fun _ run => burnCoins_moves (mapError_ok run)
  rw [Movement.transfer_flag, moduleAddr_reserve] at lendMoves
  rw [Movement.issue_neg_flag, moduleAddr_reserve] at drawMoves
  exact lendMoves.trans drawMoves

theorem burnExtendedCoin_moves {moduleName : ModuleName} {amt : ℤ} (apart : moduleName ≠ precisebankModule)
    (success : burnExtendedCoin cfg s moduleName amt = .ok t) :
    Moves cfg s t (burnMovement cfg (moduleAddr cfg moduleName) (amt.tdiv cfg.conversionFactor)
      (amt % cfg.conversionFactor)
      (decide (s.fractionalBalances (moduleAddr cfg moduleName) < amt % cfg.conversionFactor))
      (decide (cfg.conversionFactor ≤ s.remainder + amt % cfg.conversionFactor))) := by
  obtain ⟨lent, drawn, burned, fractionSet, remainderSet, event, lend, draw, burn, fraction,
    remainder, rfl⟩ := burnExtendedCoin_ok apart rfl rfl success
  generalize decide (s.fractionalBalances (moduleAddr cfg moduleName) <
    amt % cfg.conversionFactor) = borrow at *
  generalize decide (cfg.conversionFactor ≤ s.remainder + amt % cfg.conversionFactor) = spill at *
  have burnMoves := Moves.ite cfg burn fun _ run => burnCoins_moves (mapError_ok run)
  have fractionMoves := setFractionalBalance_moves fraction
  have remainderMoves := setRemainderAmount_moves remainder
  rw [Movement.issue_neg] at burnMoves
  have before := (reserve_moves lend draw).trans burnMoves
  have fractionSame : burned.fractionalBalances (moduleAddr cfg moduleName) =
      s.fractionalBalances (moduleAddr cfg moduleName) := by
    rw [before.fractional]
    exact add_zero _
  have after := before.trans fractionMoves
  have remainderSame : fractionSet.remainder = s.remainder := by
    rw [after.remainder]
    exact add_zero _
  rw [remainderSame] at remainderMoves
  refine Moves.emit ?_ event
  convert after.trans remainderMoves using 1
  ext account
  all_goals simp only [burnMovement, Movement.add, Movement.transfer, Movement.issue, Movement.setFractional,
    Movement.setRemainder, Movement.none, fractionSame]
  · simp only [booked]
    cases borrow <;> cases spill <;> simp <;> split_ifs <;> omega
  · cases borrow <;> cases spill <;> simp
  · simp only [zero_add, add_zero]
    congr 1
    ring
  · ring
  · ring

/-- The pass-through coins of a mixed set: everything but the extended denomination. -/
def passthrough (cfg : Config) (amt : Coins) : Coins :=
  if 0 < Coins.amountOf amt cfg.extendedDenom then
    Coins.sub amt ⟨cfg.extendedDenom, Coins.amountOf amt cfg.extendedDenom⟩
  else amt

section

variable {amt : Coins}

/-- What passes through to x/bank. -/
theorem amountOf_passthrough (valid : Coins.IsValid amt) (denom : Denom) :
    Coins.amountOf (passthrough cfg amt) denom =
      if denom = cfg.extendedDenom then 0 else Coins.amountOf amt denom := by
  have nonneg := Coins.amountOf_nonneg valid cfg.extendedDenom
  unfold passthrough
  split_ifs with extended same same
  · rw [Coins.sub_amountOf valid, same, Coins.amountOf_filter_self]
  · rw [Coins.sub_amountOf valid, Coins.amountOf_filter_ne amt same]
  · rw [same]
    omega
  · rfl

theorem passthrough_isValid (cfg : Config) (valid : Coins.IsValid amt) : Coins.IsValid (passthrough cfg amt) := by
  unfold passthrough
  split_ifs
  · rw [Coins.sub_amountOf valid]
    exact ⟨valid.1.sublist (List.filter_sublist.map _), fun coin member =>
      valid.2 coin (List.mem_of_mem_filter member)⟩
  · exact valid

theorem passthrough_nil (valid : Coins.IsValid amt) (nothing : ¬ Coins.IsAllPositive (passthrough cfg amt)) :
    passthrough cfg amt = [] := by
  by_contra nonempty
  exact nothing ⟨nonempty, (passthrough_isValid cfg valid).2⟩

theorem sendCoins_ok {fromAddr toAddr : AccAddress} (success : sendCoins cfg s fromAddr toAddr amt = .ok t) :
    Coins.IsValid amt ∧ ∃ passed, (if Coins.IsAllPositive (passthrough cfg amt) then
        Bank.sendCoins s fromAddr toAddr (passthrough cfg amt) else pure s) = .ok passed ∧
      (if 0 < Coins.amountOf amt cfg.extendedDenom then
        sendExtendedCoins cfg passed fromAddr toAddr (Coins.amountOf amt cfg.extendedDenom)
        else pure passed) = .ok t := by
  unfold sendCoins at success
  obtain ⟨valid, success⟩ := ite_error_ok success
  exact ⟨not_not.mp valid, bind_ok success⟩

/-- Coins come into being or go out of it, by the same steps. -/
inductive Issue where
  | mint | burn

def Issue.whole : Issue → Config → BankState → ModuleName → Coins → Except Fault BankState
  | .mint => Bank.mintCoins
  | .burn => Bank.burnCoins

def Issue.extended : Issue → Config → BankState → ModuleName → ℤ → Except Fault BankState
  | .mint => mintExtendedCoin
  | .burn => burnExtendedCoin

def Issue.coins : Issue → Config → BankState → ModuleName → Coins → Except Fault BankState
  | .mint => mintCoins
  | .burn => burnCoins

theorem Issue.coins_ok (issue : Issue) {moduleName : ModuleName}
    (success : issue.coins cfg s moduleName amt = .ok t) :
    moduleName ≠ precisebankModule ∧ Coins.IsValid amt ∧ ∃ passed,
      (if passthrough cfg amt ≠ [] then issue.whole cfg s moduleName (passthrough cfg amt)
        else pure s) = .ok passed ∧ (if 0 < Coins.amountOf amt cfg.extendedDenom then
        issue.extended cfg passed moduleName (Coins.amountOf amt cfg.extendedDenom) else pure passed) = .ok t := by
  cases issue
  all_goals
    obtain ⟨apart, success⟩ := ite_error_ok success
    split at success
    · cases success
    · obtain ⟨-, success⟩ := ite_error_ok success
      obtain ⟨valid, success⟩ := ite_error_ok success
      exact ⟨apart, not_not.mp valid, bind_ok success⟩

theorem sendCoinsFromAccountToModule_ok {senderAddr : AccAddress} {recipientModule : ModuleName}
    (success : sendCoinsFromAccountToModule cfg s senderAddr recipientModule amt = .ok t) :
    sendCoins cfg s senderAddr (moduleAddr cfg recipientModule) amt = .ok t := by
  unfold sendCoinsFromAccountToModule at success
  split at success
  · cases success
  · rename_i recipientAddr found
    rw [moduleAddr_of found]
    obtain ⟨-, success⟩ := ite_error_ok success
    exact success

theorem sendCoinsFromModuleToAccount_ok {senderModule : ModuleName} {recipientAddr : AccAddress}
    (success : sendCoinsFromModuleToAccount cfg s senderModule recipientAddr amt = .ok t) :
    cfg.blockedAddr recipientAddr = false ∧
      sendCoins cfg s (moduleAddr cfg senderModule) recipientAddr amt = .ok t := by
  unfold sendCoinsFromModuleToAccount at success
  split at success
  · cases success
  · rename_i senderAddr found
    rw [moduleAddr_of found]
    obtain ⟨-, success⟩ := ite_error_ok success
    obtain ⟨allowed, success⟩ := ite_error_ok success
    exact ⟨by simpa using allowed, success⟩

theorem sendCoinsFromModuleToModule_ok {senderModule recipientModule : ModuleName}
    (success : sendCoinsFromModuleToModule cfg s senderModule recipientModule amt = .ok t) :
    sendCoins cfg s (moduleAddr cfg senderModule) (moduleAddr cfg recipientModule) amt = .ok t := by
  unfold sendCoinsFromModuleToModule at success
  split at success
  · cases success
  · cases success
  · rename_i senderAddr recipientAddr senderFound recipientFound
    rw [moduleAddr_of senderFound, moduleAddr_of recipientFound]
    obtain ⟨-, success⟩ := ite_error_ok success
    exact success

end

end OgEvm.Precisebank
