import OgEvm.NativeSends

/- What a send that goes through says about the sender's funds. x/bank checks every
coin it moves; coins of the extended denomination that an account sends to itself
are moved by nobody and checked by nobody. -/
namespace OgEvm.Precisebank

open ExceptFacts

/-- The guarantee of x/bank's `SendCoins`, read through precisebank's balances. -/
structure Covered (cfg : Config) (s : BankState) (fromAddr toAddr : AccAddress) (amt : Coins) : Prop where
  each : ∀ denom, Coins.amountOf amt denom ≤ spendableCoin cfg s fromAddr denom
  together : fromAddr ≠ toAddr → cfg.denom ≠ cfg.extendedDenom →
    Coins.amountOf amt cfg.denom * cfg.conversionFactor + Coins.amountOf amt cfg.extendedDenom ≤
      spendableCoin cfg s fromAddr cfg.extendedDenom

section

variable {cfg : Config} {s t passed : BankState} {fromAddr toAddr : AccAddress} {amt : Coins}

theorem spendableCoin_passthrough {denom : Denom} (other : denom ≠ cfg.extendedDenom) :
    spendableCoin cfg s fromAddr denom = Bank.spendableCoin s fromAddr denom := by
  simp [spendableCoin, other]

section

variable (pass : (if Coins.IsAllPositive (passthrough cfg amt) then
    Bank.sendCoins s fromAddr toAddr (passthrough cfg amt) else pure s) = .ok passed)

include pass

theorem passed_fractional : passed.fractionalBalances = s.fractionalBalances := by
  rcases ite_pure_ok pass with ⟨-, run⟩ | ⟨-, rfl⟩
  · obtain ⟨-, rfl⟩ := Bank.sendCoins_ok run
    exact (Bank.moved_frame s fromAddr toAddr _).fractional
  · rfl

variable (valid : Coins.IsValid amt)

include valid

theorem passed_covered (denom : Denom) :
    Coins.amountOf (passthrough cfg amt) denom ≤ Bank.spendableCoin s fromAddr denom := by
  rcases ite_pure_ok pass with ⟨-, run⟩ | ⟨nothing, -⟩
  · exact Bank.sendCoins_covered run denom
  · rw [passthrough_nil valid nothing]
    exact le_max_left _ _

/-- The integer coins that passed through are gone from what a sender can spend. -/
theorem passed_spendable (apart : fromAddr ≠ toAddr) :
    Bank.spendableCoin passed fromAddr cfg.denom + Coins.amountOf (passthrough cfg amt) cfg.denom =
      Bank.spendableCoin s fromAddr cfg.denom := by
  have covered := passed_covered pass valid cfg.denom
  have nonneg := Coins.amountOf_nonneg (passthrough_isValid cfg valid) cfg.denom
  rcases ite_pure_ok pass with ⟨-, run⟩ | ⟨nothing, rfl⟩
  · obtain ⟨sent, rfl⟩ := Bank.sendCoins_ok run
    have locked := (Bank.moved_frame s fromAddr toAddr (passthrough cfg amt)).locked
    unfold Bank.spendableCoin Bank.spendableAmount at *
    rw [Bank.moved_balance s fromAddr toAddr sent, locked, if_pos rfl, if_neg apart]
    omega
  · rw [passthrough_nil valid nothing, Coins.amountOf_nil, add_zero]

/-- Checks on the passed coins cover what they cover; the extended coins need one of their own. -/
theorem covered_of_extended
    (extended : Coins.amountOf amt cfg.extendedDenom ≤ spendableCoin cfg s fromAddr cfg.extendedDenom)
    (denom : Denom) : Coins.amountOf amt denom ≤ spendableCoin cfg s fromAddr denom := by
  by_cases same : denom = cfg.extendedDenom
  · rw [same]
    exact extended
  · have covered := passed_covered pass valid denom
    rwa [amountOf_passthrough valid, if_neg same, ← spendableCoin_passthrough same] at covered

end

theorem sendCoins_together (fromApart : fromAddr ≠ cfg.reserve) (toApart : toAddr ≠ cfg.reserve)
    (apart : fromAddr ≠ toAddr) (stored : 0 ≤ s.fractionalBalances fromAddr)
    (success : sendCoins cfg s fromAddr toAddr amt = .ok t) :
    Coins.amountOf (passthrough cfg amt) cfg.denom * cfg.conversionFactor +
      Coins.amountOf amt cfg.extendedDenom ≤ spendableCoin cfg s fromAddr cfg.extendedDenom := by
  obtain ⟨valid, passed, pass, extended⟩ := sendCoins_ok success
  rw [spendableCoin_extended fromApart, ← passed_spendable pass valid apart]
  have left : 0 ≤ Bank.spendableCoin passed fromAddr cfg.denom * cfg.conversionFactor :=
    mul_nonneg (le_max_left _ _) cfg.conversionFactor_pos.le
  rcases ite_pure_ok extended with ⟨positive, run⟩ | ⟨zero, -⟩
  · have enough := sendExtendedCoins_enough positive fromApart toApart apart run
    rw [spendableCoin_extended fromApart, passed_fractional pass] at enough
    linarith
  · linarith

/-- An account that holds the coins that pass through, and nothing of the extended denomination. -/
def exactFunds (cfg : Config) (holder : AccAddress) (amt : Coins) : BankState where
  balances denom := DFinsupp.single holder (Coins.amountOf (passthrough cfg amt) denom)
  supply denom := Coins.amountOf (passthrough cfg amt) denom
  locked _ _ := 0
  fractionalBalances := 0
  remainder := 0
  events := []

theorem exactFunds_spendable (denom : Denom) : Bank.spendableAmount (exactFunds cfg fromAddr amt) fromAddr denom =
      Coins.amountOf (passthrough cfg amt) denom := by
  simp [Bank.spendableAmount, exactFunds]

theorem exactFunds_sends (apart : fromAddr ≠ cfg.reserve) (valid : Coins.IsValid amt) :
    ∃ t, sendCoins cfg (exactFunds cfg fromAddr amt) fromAddr fromAddr amt = .ok t := by
  have enough : ∀ coin ∈ passthrough cfg amt,
      coin.amount ≤ Bank.spendableAmount (exactFunds cfg fromAddr amt) fromAddr coin.denom := by
    intro coin member
    rw [exactFunds_spendable, (passthrough_isValid cfg valid).amountOf_mem member]
  unfold sendCoins
  rw [if_neg (not_not.mpr valid)]
  refine Avoids.succeeds (Avoids.bind (Avoids.ite (fun _ => ?_) fun _ => Avoids.ok _) fun passed _ => ?_)
  · exact Avoids.of_succeeds ⟨_, Bank.sendCoins_succeeds (passthrough_isValid cfg valid) enough⟩
  · refine Avoids.ite (fun _ => ?_) fun _ => Avoids.ok _
    rw [sendExtendedCoins, if_neg (by tauto), if_pos rfl]
    exact Avoids.ok _

/-- A send that goes through was covered, for whatever state it starts from, exactly if
the accounts differ or the integer coins in the set are worth the extended ones. -/
theorem sends_covered_iff (fromApart : fromAddr ≠ cfg.reserve) (toApart : toAddr ≠ cfg.reserve)
    (valid : Coins.IsValid amt) :
    (∀ s t, (∀ account, 0 ≤ s.fractionalBalances account) →
      sendCoins cfg s fromAddr toAddr amt = .ok t → Covered cfg s fromAddr toAddr amt) ↔
      fromAddr ≠ toAddr ∨ Coins.amountOf amt cfg.extendedDenom ≤
        Coins.amountOf (passthrough cfg amt) cfg.denom * cfg.conversionFactor := by
  constructor
  · intro always
    by_contra unchecked
    rw [not_or, not_not, not_le] at unchecked
    obtain ⟨rfl, more⟩ := unchecked
    obtain ⟨t, success⟩ := exactFunds_sends fromApart valid
    have covered := (always _ t (fun _ => le_rfl) success).each cfg.extendedDenom
    have nonneg := Coins.amountOf_nonneg (passthrough_isValid cfg valid) cfg.denom
    rw [spendableCoin_extended fromApart, Bank.spendableCoin, exactFunds_spendable,
      max_eq_right nonneg] at covered
    exact absurd covered (not_le.mpr (by simpa [exactFunds] using more))
  · intro condition s t stored success
    obtain ⟨-, passed, pass, -⟩ := sendCoins_ok success
    have integer := mul_nonneg (Coins.amountOf_nonneg (passthrough_isValid cfg valid) cfg.denom)
      cfg.conversionFactor_pos.le
    have together := fun apart => sendCoins_together fromApart toApart apart (stored fromAddr) success
    refine ⟨covered_of_extended pass valid ?_, fun apart distinct => ?_⟩
    · rcases condition with apart | worth
      · linarith [together apart]
      · have value := mul_le_mul_of_nonneg_right (passed_covered pass valid cfg.denom)
          cfg.conversionFactor_pos.le
        rw [spendableCoin_extended fromApart]
        linarith [stored fromAddr]
    · have sum := together apart
      rwa [amountOf_passthrough valid, if_neg distinct] at sum

end

theorem sends_covered_iff_fundedBank :
    Covered sixDecimals fundedBank [3] [4] [⟨"atest", 700000000000⟩, ⟨"utest", 1⟩] := by
  have checked := (@sends_covered_iff sixDecimals [3] [4] [⟨"atest", 700000000000⟩, ⟨"utest", 1⟩]
    (by decide) (by decide) (by decide)).mpr (Or.inl (by decide))
  exact checked fundedBank _ fundedBank_backed.fractional_nonneg rfl

/-- On an empty bank an account sends itself five extended coins, while x/bank
refuses it to send itself one integer coin. -/
theorem unfunded_self_send :
    Backed sixDecimals emptyBank ∧
      (∃ t, sendCoins sixDecimals emptyBank [3] [3] [⟨"atest", 5⟩] = .ok t) ∧
      ¬ Covered sixDecimals emptyBank [3] [3] [⟨"atest", 5⟩] ∧
      ∃ message, sendCoins sixDecimals emptyBank [3] [3] [⟨"utest", 1⟩] =
        .error (.error .insufficientFunds message) := by
  refine ⟨emptyBank_backed, ⟨emptyBank, rfl⟩, fun covered => ?_, ⟨_, rfl⟩⟩
  exact absurd (covered.each "atest") (by decide)

end OgEvm.Precisebank
