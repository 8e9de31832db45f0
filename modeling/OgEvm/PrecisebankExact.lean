import OgEvm.PrecisebankInvariant

/- Seen through `GetBalance` in the extended denomination, the two stores and the
reserve are one ledger of 18-decimal amounts. -/
namespace OgEvm.Precisebank

open Totals ExceptFacts

/-- What the keeper assumes of x/bank: supplies are the sums of the balances, and
the reserve, a module account, has no vesting coins. -/
structure BankLedger (cfg : Config) (s : BankState) : Prop where
  supply : s.supply cfg.denom = total (s.balances cfg.denom)
  reserve_unlocked : s.locked cfg.reserve cfg.denom = 0

/-- x/bank's refusal to spend more than an account has to spend. -/
def ShortOfFunds : Fault → Prop
  | .error .insufficientFunds _ => True
  | _ => False

theorem ShortOfFunds.message {fault : Fault} (short : ShortOfFunds fault) :
    ∃ message, fault = .error .insufficientFunds message := by
  rcases fault with ⟨code, message⟩ | cause
  · cases code <;> first | exact short.elim | exact ⟨message, rfl⟩
  · exact short.elim

section

variable {cfg : Config} {s t : BankState}

section

variable {account : AccAddress} {net : Movement} {fromAddr toAddr : AccAddress} {amt : ℤ}

theorem getBalance_extended (apart : account ≠ cfg.reserve) : getBalance cfg s account cfg.extendedDenom =
      s.balances cfg.denom account * cfg.conversionFactor + s.fractionalBalances account := by
  simp [getBalance, apart, getFractionalBalance]

theorem getBalance_reserve : getBalance cfg s cfg.reserve cfg.extendedDenom = 0 := by
  simp [getBalance]

theorem spendableCoin_extended (apart : account ≠ cfg.reserve) : spendableCoin cfg s account cfg.extendedDenom =
      Bank.spendableCoin s account cfg.denom * cfg.conversionFactor + s.fractionalBalances account := by
  simp [spendableCoin, apart, getFractionalBalance]

/-- A movement changes an ordinary account's extended balance by its integer
part times the factor plus its fractional part. -/
theorem Moves.extended (moves : Moves cfg s t net) (apart : account ≠ cfg.reserve) :
    getBalance cfg t account cfg.extendedDenom = getBalance cfg s account cfg.extendedDenom +
      (net.integer account * cfg.conversionFactor + net.fractional account) := by
  rw [getBalance_extended apart, getBalance_extended apart, moves.integer, moves.fractional]
  ring

/-- The extended balances of all accounts add up to the integer balances outside
the reserve and the fractional balances. -/
theorem sum_extended (empty : s.fractionalBalances cfg.reserve = 0) :
    ∑ᶠ account, getBalance cfg s account cfg.extendedDenom =
      (total (s.balances cfg.denom) - s.balances cfg.denom cfg.reserve) * cfg.conversionFactor +
        total s.fractionalBalances := by
  have split : (fun account => getBalance cfg s account cfg.extendedDenom) =
      fun account => (s.balances cfg.denom).erase cfg.reserve account * cfg.conversionFactor +
        s.fractionalBalances account := by
    funext account
    by_cases reserve : account = cfg.reserve
    · subst reserve
      rw [getBalance_reserve, DFinsupp.erase_apply, if_pos rfl, empty]
      ring
    · rw [getBalance_extended reserve, DFinsupp.erase_apply, if_neg reserve]
  rw [split, finsum_add_distrib, ← finsum_mul, ← total_eq_finsum, ← total_eq_finsum, total_erase]
  · exact (finite_support _).subset fun account nonzero => left_ne_zero_of_mul nonzero
  · exact finite_support _

/-- Supply times factor is the remainder plus everything the accounts hold. -/
theorem supply_sum (backed : Backed cfg s) (supply : s.supply cfg.denom = total (s.balances cfg.denom)) :
    s.supply cfg.denom * cfg.conversionFactor - s.remainder =
      ∑ᶠ account, getBalance cfg s account cfg.extendedDenom := by
  rw [sum_extended backed.reserve_fractional, supply, sub_mul, backed.reserve]
  ring

/-- Enough whole coins for the quotient and the borrow is enough extended balance. -/
theorem enough_iff {factor held fraction : ℤ} (whole quotient : ℤ) (low : 0 ≤ held) (high : held < factor)
    (nonneg : 0 ≤ fraction) (small : fraction < factor) : quotient * factor + fraction ≤ whole * factor + held ↔
      quotient + (decide (held < fraction)).toInt ≤ whole := by
  by_cases less : held < fraction
  · simp only [less, decide_true, Bool.toInt_true]
    constructor
    · intro enough
      by_contra short
      have bound : whole * factor ≤ quotient * factor :=
        mul_le_mul_of_nonneg_right (by omega) (by omega)
      omega
    · intro enough
      have bound : (quotient + 1) * factor ≤ whole * factor :=
        mul_le_mul_of_nonneg_right enough (by omega)
      rw [add_mul, one_mul] at bound
      omega
  · simp only [less, decide_false, Bool.toInt_false, add_zero]
    constructor
    · intro enough
      by_contra short
      have bound : (whole + 1) * factor ≤ quotient * factor :=
        mul_le_mul_of_nonneg_right (by omega) (by omega)
      rw [add_mul, one_mul] at bound
      omega
    · intro enough
      have bound : quotient * factor ≤ whole * factor :=
        mul_le_mul_of_nonneg_right enough (by omega)
      omega

theorem enough_of_bank_send {amount : ℤ} (positive : 0 < amount)
    (success : Bank.sendCoins s fromAddr toAddr (integerCoins cfg amount) = .ok t) :
    amount ≤ Bank.spendableAmount s fromAddr cfg.denom := by
  by_contra short
  obtain ⟨message, failed⟩ := Bank.sendCoins_short toAddr positive (not_le.mp short)
  rw [integerCoins, failed] at success
  cases success

/-- What is left to spend after a movement of integer coins. -/
theorem Moves.spendable (moves : Moves cfg s t net) (account : AccAddress) :
    Bank.spendableAmount t account cfg.denom = Bank.spendableAmount s account cfg.denom + net.integer account := by
  unfold Bank.spendableAmount
  rw [moves.integer, moves.locked]
  ring

theorem settleSend_enough {amt quotient : ℤ} {borrow carry : Bool} (nonneg : 0 ≤ quotient) (apart : fromAddr ≠ toAddr)
    (success : settleSend cfg s fromAddr toAddr amt (if borrow && carry then quotient + 1 else quotient)
      borrow carry = .ok t) : quotient + borrow.toInt ≤ Bank.spendableCoin s fromAddr cfg.denom := by
  simp only [settleSend] at success
  obtain ⟨paid, pay, success⟩ := bind_ok success
  obtain ⟨lent, lend, -⟩ := bind_ok success
  have paidSpendable : Bank.spendableAmount paid fromAddr cfg.denom =
      Bank.spendableAmount s fromAddr cfg.denom -
        (if borrow && carry then quotient + 1 else quotient) := by
    have moves := Moves.ite cfg pay fun positive run =>
      sendCoins_moves positive (mapError_ok run)
    rw [Movement.transfer_nonneg _ _ (by split <;> omega)] at moves
    rw [moves.spendable]
    simp only [Movement.transfer, booked_self, booked_ne _ apart]
    ring
  have payEnough : 0 < (if borrow && carry then quotient + 1 else quotient) →
      (if borrow && carry then quotient + 1 else quotient) ≤
        Bank.spendableAmount s fromAddr cfg.denom := by
    intro positive
    rcases ite_pure_ok pay with ⟨-, run⟩ | ⟨fails, -⟩
    · exact enough_of_bank_send positive (mapError_ok run)
    · exact absurd positive fails
  have lendEnough : (borrow && !carry) = true →
      1 ≤ Bank.spendableAmount paid fromAddr cfg.denom := by
    intro holds
    rcases ite_pure_ok lend with ⟨-, run⟩ | ⟨fails, -⟩
    · have sent := mapError_ok run
      rw [Bank.sendCoinsFromAccountToModule, cfg.reserve_registered] at sent
      exact enough_of_bank_send one_pos sent
    · exact absurd holds fails
  rw [paidSpendable] at lendEnough
  unfold Bank.spendableCoin
  cases borrow <;> cases carry <;> simp at payEnough lendEnough ⊢ <;> omega

/-- What the reserve backs is worth a whole coin only if the reserve holds one. -/
theorem Backed.reserve_covers (backed : Backed cfg s)
    (full : cfg.conversionFactor ≤ total s.fractionalBalances + s.remainder) :
    1 ≤ s.balances cfg.denom cfg.reserve := by
  have equation := backed.reserve
  have factor := cfg.conversionFactor_pos
  by_contra short
  have bound : s.balances cfg.denom cfg.reserve * cfg.conversionFactor ≤ 0 :=
    mul_nonpos_of_nonpos_of_nonneg (by omega) factor.le
  omega

/-- The reserve can pay a carry that no borrow offsets: the two fractions alone
exceed one integer coin. -/
theorem Backed.reserve_pays {fraction : ℤ} (backed : Backed cfg s) (apart : fromAddr ≠ toAddr)
    (held : fraction ≤ s.fractionalBalances fromAddr)
    (full : cfg.conversionFactor ≤ s.fractionalBalances toAddr + fraction) :
    1 ≤ s.balances cfg.denom cfg.reserve := by
  have covered := add_le_total s.fractionalBalances backed.fractional_nonneg apart
  have remainder := backed.remainder_nonneg
  apply backed.reserve_covers
  omega

theorem shortOfFunds_update {fault : Fault} {addr : AccAddress} (short : ShortOfFunds fault) :
    ShortOfFunds (updateInsufficientFundsError cfg s addr amt fault) := by
  obtain ⟨message, rfl⟩ := short.message
  exact trivial

theorem bankSend_refuses {amount : ℤ} {fault : Fault} (positive : 0 < amount)
    (failed : Bank.sendCoins s fromAddr toAddr (integerCoins cfg amount) = .error fault) :
    ShortOfFunds fault ∧ Bank.spendableAmount s fromAddr cfg.denom < amount := by
  by_cases enough : amount ≤ Bank.spendableAmount s fromAddr cfg.denom
  · rw [integerCoins, Bank.sendCoins_enough positive enough] at failed
    cases failed
  · obtain ⟨message, refused⟩ := Bank.sendCoins_short toAddr positive (not_le.mp enough)
    rw [integerCoins, refused] at failed
    cases failed
    exact ⟨trivial, not_le.mp enough⟩

/-- The reserve's payment never fails, and a payment by the sender fails only if
the sender lacks the quotient or the borrow. -/
theorem settleSend_refuses {amt quotient : ℤ} {borrow carry : Bool} (nonneg : 0 ≤ quotient)
    (fromApart : fromAddr ≠ cfg.reserve) (toApart : toAddr ≠ cfg.reserve) (apart : fromAddr ≠ toAddr)
    (pays : borrow = false → carry = true → 1 ≤ Bank.spendableAmount s cfg.reserve cfg.denom) :
    Avoids (fun fault => ¬ (ShortOfFunds fault ∧ Bank.spendableCoin s fromAddr cfg.denom < quotient + borrow.toInt))
      (settleSend cfg s fromAddr toAddr amt (if borrow && carry then quotient + 1 else quotient) borrow carry) := by
  unfold Bank.spendableCoin
  refine Avoids.bind ?_ fun paid pay => ?_
  · refine Avoids.ite (fun positive => ?_) fun _ => Avoids.ok s
    refine Avoids.mapError (fun _ bad short => bad ⟨shortOfFunds_update short.1, short.2⟩) ?_
    intro fault failed bad
    obtain ⟨short, lacking⟩ := bankSend_refuses positive failed
    refine bad ⟨short, ?_⟩
    cases borrow <;> cases carry <;> simp at positive lacking ⊢ <;> omega
  have payMoves := Moves.ite cfg pay fun positive run => sendCoins_moves positive (mapError_ok run)
  rw [Movement.transfer_nonneg _ _ (by split <;> omega)] at payMoves
  refine Avoids.bind ?_ fun lent lend => ?_
  · refine Avoids.ite (fun lends => ?_) fun _ => Avoids.ok paid
    obtain ⟨rfl, rfl⟩ : borrow = true ∧ carry = false := by simpa using lends
    refine Avoids.mapError (fun _ bad short => bad ⟨shortOfFunds_update short.1, short.2⟩) ?_
    rw [Bank.sendCoinsFromAccountToModule, cfg.reserve_registered]
    intro fault failed bad
    obtain ⟨short, lacking⟩ := bankSend_refuses one_pos failed
    refine bad ⟨short, ?_⟩
    simp [payMoves.spendable, Movement.transfer, booked_self, booked_ne _ apart] at lacking ⊢
    omega
  -- the carry: nothing before it touches the reserve
  · refine Avoids.ite (fun carried => ?_) fun _ => Avoids.ok lent
    obtain ⟨rfl, rfl⟩ : borrow = false ∧ carry = true := by simpa using carried
    cases lend
    have enough : 1 ≤ Bank.spendableAmount paid cfg.reserve cfg.denom := by
      rw [payMoves.spendable]
      simpa [Movement.transfer, booked_ne _ fromApart.symm, booked_ne _ toApart.symm] using pays rfl rfl
    rw [integerCoins, Bank.sendCoins_enough one_pos enough]
    exact Avoids.ok _

theorem setFractionalBalance_succeeds (s : BankState) {address : AccAddress} {amount : ℤ}
    (named : address ≠ []) (range : 0 ≤ amount ∧ amount < cfg.conversionFactor) :
    ∃ u, setFractionalBalance cfg s address amount = .ok u := by
  unfold setFractionalBalance
  rw [if_neg named]
  by_cases zero : amount = 0
  · rw [if_pos zero]
    exact ⟨_, rfl⟩
  · rw [if_neg zero, validateFractionalAmount_ok (by omega) range.2]
    exact ⟨_, rfl⟩

theorem subFromFractionalBalance_succeeds {current amountToSub : ℤ} (high : current < cfg.conversionFactor)
    (small : amountToSub < cfg.conversionFactor) :
    ∃ result, subFromFractionalBalance cfg current amountToSub = .ok result := by
  unfold subFromFractionalBalance
  simp only [not_le.mpr high, not_le.mpr small, if_false]
  split <;> exact ⟨_, rfl⟩

theorem addToFractionalBalance_succeeds {current amountToAdd : ℤ} (high : current < cfg.conversionFactor)
    (small : amountToAdd < cfg.conversionFactor) :
    ∃ result, addToFractionalBalance cfg current amountToAdd = .ok result := by
  unfold addToFractionalBalance
  simp only [not_le.mpr high, not_le.mpr small, if_false]
  split <;> exact ⟨_, rfl⟩

theorem Backed.covers_iff {fromAddr : AccAddress} {amt whole : ℤ} (backed : Backed cfg s) (positive : 0 < amt) :
    amt ≤ whole * cfg.conversionFactor + s.fractionalBalances fromAddr ↔ amt.tdiv cfg.conversionFactor +
        (decide (s.fractionalBalances fromAddr < amt % cfg.conversionFactor)).toInt ≤ whole := by
  have comparison := enough_iff whole (amt.tdiv cfg.conversionFactor)
    (backed.fractional_nonneg fromAddr) (backed.fractional_lt fromAddr)
    (fraction_nonneg cfg amt) (fraction_lt cfg amt)
  rwa [quotient_fraction cfg positive] at comparison

/-- A transfer that goes through was covered by the sender's extended balance:
the fraction it leaves behind is not negative. -/
theorem sendExtendedCoins_enough (positive : 0 < amt) (fromApart : fromAddr ≠ cfg.reserve)
    (toApart : toAddr ≠ cfg.reserve) (apart : fromAddr ≠ toAddr)
    (success : sendExtendedCoins cfg s fromAddr toAddr amt = .ok t) :
    amt ≤ spendableCoin cfg s fromAddr cfg.extendedDenom := by
  obtain ⟨settled, sent, -, settle, senderSet, -⟩ :=
    sendExtendedCoins_ok fromApart toApart apart rfl rfl success
  have left := setFractionalBalance_nonneg senderSet
  have whole := mul_le_mul_of_nonneg_right
    (settleSend_enough (quotient_nonneg cfg positive) apart settle) cfg.conversionFactor_pos.le
  have recompose := quotient_fraction cfg positive
  rw [spendableCoin_extended fromApart]
  rw [add_mul] at whole
  linarith

/-- A transfer between ordinary accounts fails for want of funds only. -/
theorem sendExtendedCoins_refuses (backed : Backed cfg s) (unlocked : s.locked cfg.reserve cfg.denom = 0)
    (positive : 0 < amt) (fromApart : fromAddr ≠ cfg.reserve) (toApart : toAddr ≠ cfg.reserve)
    (apart : fromAddr ≠ toAddr) (fromNamed : fromAddr ≠ []) (toNamed : toAddr ≠ []) :
    Avoids (fun fault => ¬ (ShortOfFunds fault ∧ spendableCoin cfg s fromAddr cfg.extendedDenom < amt))
      (sendExtendedCoins cfg s fromAddr toAddr amt) := by
  obtain ⟨senderNew, subtracted⟩ := subFromFractionalBalance_succeeds
    (backed.fractional_lt fromAddr) (fraction_lt cfg amt)
  obtain ⟨recipientNew, added⟩ := addToFractionalBalance_succeeds
    (backed.fractional_lt toAddr) (fraction_lt cfg amt)
  have senderIs := subFromFractionalBalance_ok subtracted
  have recipientIs := addToFractionalBalance_ok added
  subst senderIs recipientIs
  rw [spendableCoin_extended fromApart, ← not_le, backed.covers_iff positive, not_le]
  unfold sendExtendedCoins getFractionalBalance
  rw [if_neg (by tauto), if_neg apart, bind_of_ok subtracted]
  dsimp only
  rw [bind_of_ok added]
  refine Avoids.bind ?_ fun settled _ => ?_
  · refine settleSend_refuses (quotient_nonneg cfg positive) fromApart toApart apart fun whole full => ?_
    have held : amt % cfg.conversionFactor ≤ s.fractionalBalances fromAddr := by simpa using whole
    have pays := backed.reserve_pays apart held (of_decide_eq_true full)
    rw [Bank.spendableAmount, unlocked]
    simpa using pays
  · obtain ⟨sent, senderSet⟩ := setFractionalBalance_succeeds settled fromNamed
      (borrow_range cfg amt (backed.fractional_range fromAddr))
    obtain ⟨received, recipientSet⟩ := setFractionalBalance_succeeds sent toNamed
      (carry_range cfg amt (backed.fractional_range toAddr))
    rw [bind_of_ok senderSet, bind_of_ok recipientSet]
    exact Avoids.ok _

/-- One comparison on the extended balance decides a transfer, although up to
three x/bank calls with their own conditions are behind it. -/
theorem sendExtendedCoins_succeeds_iff (backed : Backed cfg s) (unlocked : s.locked cfg.reserve cfg.denom = 0)
    (positive : 0 < amt) (fromApart : fromAddr ≠ cfg.reserve) (toApart : toAddr ≠ cfg.reserve)
    (apart : fromAddr ≠ toAddr) (fromNamed : fromAddr ≠ []) (toNamed : toAddr ≠ []) :
    (∃ u, sendExtendedCoins cfg s fromAddr toAddr amt = .ok u) ↔
      amt ≤ spendableCoin cfg s fromAddr cfg.extendedDenom := by
  constructor
  · rintro ⟨u, success⟩
    exact sendExtendedCoins_enough positive fromApart toApart apart success
  · intro enough
    refine Avoids.succeeds fun fault failed _ => ?_
    have refuses := sendExtendedCoins_refuses backed unlocked positive fromApart toApart apart fromNamed
      toNamed
    exact refuses fault failed fun refused => absurd enough (not_le.mpr refused.2)

/-- Movements issue on both sides of the supply equation. -/
theorem Moves.ledger (moves : Moves cfg s t net) (ledger : BankLedger cfg s) : BankLedger cfg t where
  supply := by rw [moves.supply, moves.total, ledger.supply]
  reserve_unlocked := by rw [moves.locked, ledger.reserve_unlocked]

theorem sendExtendedCoins_exact (positive : 0 < amt) (fromApart : fromAddr ≠ cfg.reserve)
    (toApart : toAddr ≠ cfg.reserve) (apart : fromAddr ≠ toAddr)
    (success : sendExtendedCoins cfg s fromAddr toAddr amt = .ok t) (ordinary : account ≠ cfg.reserve) :
    getBalance cfg t account cfg.extendedDenom = getBalance cfg s account cfg.extendedDenom +
      (booked toAddr amt account - booked fromAddr amt account) := by
  have recompose := quotient_fraction cfg positive
  rw [(sendExtendedCoins_moves positive fromApart toApart apart success).extended ordinary]
  congr 1
  simp only [sendMovement, booked, if_neg ordinary]
  split_ifs with toHit fromHit fromHit
  · exact absurd (fromHit.symm.trans toHit) apart
  · linear_combination recompose
  · linear_combination -recompose
  · ring

theorem mintExtendedCoin_exact {moduleName : ModuleName} (positive : 0 < amt)
    (apart : moduleName ≠ precisebankModule) (success : mintExtendedCoin cfg s moduleName amt = .ok t)
    (ordinary : account ≠ cfg.reserve) :
    getBalance cfg t account cfg.extendedDenom = getBalance cfg s account cfg.extendedDenom +
      booked (moduleAddr cfg moduleName) amt account := by
  have recompose := quotient_fraction cfg positive
  rw [(mintExtendedCoin_moves positive apart success).extended ordinary]
  congr 1
  simp only [mintMovement, booked, if_neg ordinary]
  split_ifs with hit
  · linear_combination recompose
  · ring

theorem burnExtendedCoin_exact {moduleName : ModuleName} (positive : 0 < amt)
    (apart : moduleName ≠ precisebankModule) (success : burnExtendedCoin cfg s moduleName amt = .ok t)
    (ordinary : account ≠ cfg.reserve) :
    getBalance cfg t account cfg.extendedDenom = getBalance cfg s account cfg.extendedDenom -
      booked (moduleAddr cfg moduleName) amt account := by
  have recompose := quotient_fraction cfg positive
  rw [(burnExtendedCoin_moves apart success).extended ordinary, sub_eq_add_neg]
  congr 1
  simp only [burnMovement, booked, if_neg ordinary]
  split_ifs with hit
  · linear_combination -recompose
  · ring

/-- The reserve reads zero before and after, whatever moved. -/
theorem getBalance_unchanged
    (ordinary : account ≠ cfg.reserve → getBalance cfg t account cfg.extendedDenom = getBalance cfg s account
      cfg.extendedDenom) :
    getBalance cfg t account cfg.extendedDenom = getBalance cfg s account cfg.extendedDenom := by
  by_cases reserve : account = cfg.reserve
  · rw [reserve, getBalance_reserve, getBalance_reserve]
  · exact ordinary reserve

end

/-- Sends, mints and burns of extended coins are exact on the extended balances. -/
theorem extended_ledger_exact (backed : Backed cfg s) (ledger : BankLedger cfg s) :
    (∀ (fromAddr toAddr : AccAddress) (amt : ℤ), fromAddr ≠ toAddr → fromAddr ≠ cfg.reserve →
      toAddr ≠ cfg.reserve → fromAddr ≠ [] → toAddr ≠ [] → 0 < amt →
      ((∃ u, sendExtendedCoins cfg s fromAddr toAddr amt = .ok u) ↔
        amt ≤ spendableCoin cfg s fromAddr cfg.extendedDenom) ∧
      ∀ u, sendExtendedCoins cfg s fromAddr toAddr amt = .ok u →
        getBalance cfg u fromAddr cfg.extendedDenom =
          getBalance cfg s fromAddr cfg.extendedDenom - amt ∧
        getBalance cfg u toAddr cfg.extendedDenom =
          getBalance cfg s toAddr cfg.extendedDenom + amt ∧
        (∀ other, other ≠ fromAddr → other ≠ toAddr →
          getBalance cfg u other cfg.extendedDenom = getBalance cfg s other cfg.extendedDenom) ∧
        u.remainder = s.remainder ∧ u.supply cfg.denom = s.supply cfg.denom) ∧
    (∀ (moduleName : ModuleName) (amt : ℤ) (u : BankState), moduleName ≠ precisebankModule →
      moduleAddr cfg moduleName ≠ cfg.reserve → 0 < amt →
      mintExtendedCoin cfg s moduleName amt = .ok u →
        getBalance cfg u (moduleAddr cfg moduleName) cfg.extendedDenom =
          getBalance cfg s (moduleAddr cfg moduleName) cfg.extendedDenom + amt ∧
        (∀ other, other ≠ moduleAddr cfg moduleName →
          getBalance cfg u other cfg.extendedDenom = getBalance cfg s other cfg.extendedDenom) ∧
        u.supply cfg.denom * cfg.conversionFactor - u.remainder =
          ∑ᶠ account, getBalance cfg u account cfg.extendedDenom) ∧
    (∀ (moduleName : ModuleName) (amt : ℤ) (u : BankState), moduleName ≠ precisebankModule →
      moduleAddr cfg moduleName ≠ cfg.reserve → 0 < amt →
      burnExtendedCoin cfg s moduleName amt = .ok u →
        getBalance cfg u (moduleAddr cfg moduleName) cfg.extendedDenom =
          getBalance cfg s (moduleAddr cfg moduleName) cfg.extendedDenom - amt ∧
        (∀ other, other ≠ moduleAddr cfg moduleName →
          getBalance cfg u other cfg.extendedDenom = getBalance cfg s other cfg.extendedDenom) ∧
        u.supply cfg.denom * cfg.conversionFactor - u.remainder =
          ∑ᶠ account, getBalance cfg u account cfg.extendedDenom) := by
  refine ⟨?_, ?_, ?_⟩
  · intro fromAddr toAddr amt apart fromApart toApart fromNamed toNamed positive
    refine ⟨sendExtendedCoins_succeeds_iff backed ledger.reserve_unlocked positive fromApart toApart apart
      fromNamed toNamed, ?_⟩
    intro u success
    have exactly {account : AccAddress} (ordinary : account ≠ cfg.reserve) :=
      sendExtendedCoins_exact positive fromApart toApart apart success ordinary
    have moves := sendExtendedCoins_moves positive fromApart toApart apart success
    refine ⟨?_, ?_, ?_, ?_, ?_⟩
    · rw [exactly fromApart, booked_self, booked_ne _ apart]
      ring
    · rw [exactly toApart, booked_self, booked_ne _ apart.symm]
      ring
    · intro other notFrom notTo
      refine getBalance_unchanged fun ordinary => ?_
      rw [exactly ordinary, booked_ne _ notFrom, booked_ne _ notTo]
      ring
    · exact moves.remainder.trans (add_zero _)
    · exact moves.supply.trans (add_zero _)
  · intro moduleName amt u apart addrApart positive success
    refine ⟨?_, ?_, ?_⟩
    · rw [mintExtendedCoin_exact positive apart success addrApart, booked_self]
    · intro other notTarget
      refine getBalance_unchanged fun ordinary => ?_
      rw [mintExtendedCoin_exact positive apart success ordinary, booked_ne _ notTarget, add_zero]
    · exact supply_sum (mintExtendedCoin_backed backed positive apart addrApart success)
        ((mintExtendedCoin_moves positive apart success).ledger ledger).supply
  · intro moduleName amt u apart addrApart positive success
    refine ⟨?_, ?_, ?_⟩
    · rw [burnExtendedCoin_exact positive apart success addrApart, booked_self]
    · intro other notTarget
      refine getBalance_unchanged fun ordinary => ?_
      rw [burnExtendedCoin_exact positive apart success ordinary, booked_ne _ notTarget, sub_zero]
    · exact supply_sum (burnExtendedCoin_backed backed apart addrApart success)
        ((burnExtendedCoin_moves apart success).ledger ledger).supply

end

/-- One account with two and a half integer coins, backed by one in the reserve. -/
def fundedBank : BankState where
  balances denom := if denom = "utest" then DFinsupp.single [1] 1 + DFinsupp.single [3] 2 else 0
  supply denom := if denom = "utest" then 3 else 0
  locked _ _ := 0
  fractionalBalances := DFinsupp.single [3] 500000000000
  remainder := 500000000000
  events := []

theorem fundedBank_fractional (account : AccAddress) :
    fundedBank.fractionalBalances account = if account = [3] then 500000000000 else 0 := by
  rw [fundedBank, DFinsupp.single_eq_pi_single, Pi.single_apply]

theorem fundedBank_backed : Backed sixDecimals fundedBank where
  reserve := by decide
  fractional_nonneg account := by
    rw [fundedBank_fractional]
    split <;> decide
  fractional_lt account := by
    rw [fundedBank_fractional]
    split <;> decide
  reserve_fractional := by decide
  remainder_nonneg := by decide
  remainder_lt := by decide

theorem extended_ledger_exact_fundedBank :
    ∃ u, sendExtendedCoins sixDecimals fundedBank [3] [4] 700000000000 = .ok u ∧
      getBalance sixDecimals u [3] "atest" = 1800000000000 ∧
      getBalance sixDecimals u [4] "atest" = 700000000000 := by
  have ledger : BankLedger sixDecimals fundedBank := ⟨by decide, by decide⟩
  obtain ⟨decides, effect⟩ := (extended_ledger_exact fundedBank_backed ledger).1 [3] [4] 700000000000
    (by decide) (by decide) (by decide) (by decide) (by decide) (by decide)
  obtain ⟨u, success⟩ := decides.mpr (by decide)
  obtain ⟨sender, recipient, -⟩ := effect u success
  exact ⟨u, success, sender.trans (by decide), recipient.trans (by decide)⟩

end OgEvm.Precisebank
