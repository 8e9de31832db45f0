import OgEvm.PrecisebankReserve
import OgEvm.NativeSends

/- The remainder is the part of the issued extended coins that no account holds.
Sends leave it alone, a mint takes from it and a burn returns to it, modulo one
integer coin; the paths through the reserve differ, their net effect does not. -/
namespace OgEvm.Precisebank

open ExceptFacts

/-- The extended coins a call brings into existence. -/
def Call.minted (cfg : Config) : Call → ℤ
  | .mintCoins _ amt => Coins.amountOf amt cfg.extendedDenom
  | _ => 0

def Call.burned (cfg : Config) : Call → ℤ
  | .burnCoins _ amt => Coins.amountOf amt cfg.extendedDenom
  | _ => 0

section

variable {cfg : Config} {s t u : BankState}

section

variable {amt : Coins} {moduleName : ModuleName}

/-- A fraction less any number of whole coins is the amount, modulo a coin. -/
theorem fraction_modEq (cfg : Config) (amt whole : ℤ) :
    amt % cfg.conversionFactor - whole * cfg.conversionFactor ≡ amt [ZMOD cfg.conversionFactor] := by
  have recompose := Int.emod_add_mul_ediv amt cfg.conversionFactor
  apply Int.modEq_iff_dvd.mpr
  refine ⟨whole + amt / cfg.conversionFactor, ?_⟩
  linear_combination -recompose

theorem Backed.remainder_eq (backed : Backed cfg t) {amount : ℤ}
    (congruent : t.remainder ≡ amount [ZMOD cfg.conversionFactor]) : t.remainder = amount % cfg.conversionFactor := by
  rw [← Int.emod_eq_of_lt backed.remainder_nonneg backed.remainder_lt]
  exact congruent

theorem bankSend_remainder {fromAddr toAddr : AccAddress} {coins : Coins}
    (success : Bank.sendCoins s fromAddr toAddr coins = .ok t) : t.remainder = s.remainder := by
  obtain ⟨-, rfl⟩ := Bank.sendCoins_ok success
  exact (Bank.moved_frame s fromAddr toAddr coins).remainder

theorem reissued_remainder (sign : ℤ) (event : Event) (s : BankState) (addr : AccAddress) (coins : Coins) :
    (Bank.reissued sign event s addr coins).remainder = s.remainder :=
  (Bank.shiftCoins_frame sign addr coins s).1.remainder

theorem sendCoins_remainder {fromAddr toAddr : AccAddress} (fromApart : fromAddr ≠ cfg.reserve)
    (toApart : toAddr ≠ cfg.reserve) (success : sendCoins cfg s fromAddr toAddr amt = .ok t) :
    t.remainder = s.remainder := by
  obtain ⟨-, passed, pass, extended⟩ := sendCoins_ok success
  have middle : passed.remainder = s.remainder := by
    rcases ite_pure_ok pass with ⟨-, run⟩ | ⟨-, rfl⟩
    · exact bankSend_remainder run
    · rfl
  rw [← middle]
  rcases ite_pure_ok extended with ⟨positive, run⟩ | ⟨-, rfl⟩
  · by_cases same : fromAddr = toAddr
    · rw [sendExtendedCoins, if_neg (by tauto), if_pos same] at run
      cases run
      rfl
    · exact (sendExtendedCoins_moves positive fromApart toApart same run).remainder.trans (add_zero _)
  · rfl

theorem amountOf_zero (valid : Coins.IsValid amt) (none : ¬ 0 < Coins.amountOf amt cfg.extendedDenom) :
    Coins.amountOf amt cfg.extendedDenom = 0 :=
  le_antisymm (not_lt.mp none) (Coins.amountOf_nonneg valid _)

def Issue.change : Issue → ℤ → ℤ
  | .mint, amount => -amount
  | .burn, amount => amount

theorem Issue.coins_remainder (issue : Issue) (success : issue.coins cfg s moduleName amt = .ok t) :
    t.remainder ≡ s.remainder + issue.change (Coins.amountOf amt cfg.extendedDenom) [ZMOD cfg.conversionFactor] := by
  obtain ⟨apart, valid, passed, pass, extended⟩ := issue.coins_ok success
  have middle : passed.remainder = s.remainder := by
    rcases ite_pure_ok pass with ⟨-, run⟩ | ⟨-, rfl⟩
    · cases issue with
      | mint =>
        obtain ⟨addr, -, -, rfl⟩ := Bank.mintCoins_ok run
        exact reissued_remainder _ _ _ _ _
      | burn =>
        obtain ⟨addr, -, -, rfl⟩ := Bank.burnCoins_ok run
        exact reissued_remainder _ _ _ _ _
    · rfl
  rw [← middle]
  rcases ite_pure_ok extended with ⟨positive, run⟩ | ⟨zero, rfl⟩
  · cases issue with
    | mint =>
      have taken := (mintExtendedCoin_moves positive apart run).remainder
      simp only [mintMovement] at taken
      rw [taken, Issue.change, ← sub_eq_add_neg, ← add_sub_assoc, ← sub_sub_eq_add_sub]
      exact (fraction_modEq cfg _ _).sub_left _
    | burn =>
      rw [(burnExtendedCoin_moves apart run).remainder]
      exact (fraction_modEq cfg _ _).add_left _
  · rw [amountOf_zero valid zero]
    cases issue <;> simp [Issue.change]

/-- One call moves the remainder by what it issues. -/
theorem Call.run_remainder {call : Call} (apart : cfg.reserve ∉ call.parties cfg) (success : call.run cfg s = .ok t) :
    t.remainder ≡ s.remainder - call.minted cfg + call.burned cfg [ZMOD cfg.conversionFactor] := by
  cases call <;>
    simp only [Call.parties, List.mem_cons, List.not_mem_nil, or_false, not_or] at apart
  case mintCoins moduleName amt =>
    simpa [Call.minted, Call.burned, Issue.change, sub_eq_add_neg] using Issue.coins_remainder .mint success
  case burnCoins moduleName amt =>
    simpa [Call.minted, Call.burned, Issue.change] using Issue.coins_remainder .burn success
  case sendCoins fromAddr toAddr amt =>
      rw [sendCoins_remainder (Ne.symm apart.1) (Ne.symm apart.2) success]
      simp [Call.minted, Call.burned]
  case sendCoinsFromAccountToModule senderAddr recipientModule amt =>
      rw [sendCoins_remainder (Ne.symm apart.1) (Ne.symm apart.2) (sendCoinsFromAccountToModule_ok success)]
      simp [Call.minted, Call.burned]
  case sendCoinsFromModuleToAccount senderModule recipientAddr amt =>
      rw [sendCoins_remainder (Ne.symm apart.1) (Ne.symm apart.2) (sendCoinsFromModuleToAccount_ok success).2]
      simp [Call.minted, Call.burned]
  case sendCoinsFromModuleToModule senderModule recipientModule amt =>
      rw [sendCoins_remainder (Ne.symm apart.1) (Ne.symm apart.2) (sendCoinsFromModuleToModule_ok success)]
      simp [Call.minted, Call.burned]

/-- A run of calls keeps the backing and moves the remainder by the net issuance. -/
theorem runCalls_remainder {calls : List Call} (backed : Backed cfg s)
    (apart : ∀ call ∈ calls, cfg.reserve ∉ call.parties cfg) (success : runCalls cfg s calls = .ok t) :
    Backed cfg t ∧ t.remainder ≡ s.remainder - (calls.map (Call.minted cfg)).sum +
      (calls.map (Call.burned cfg)).sum [ZMOD cfg.conversionFactor] := by
  induction calls generalizing s with
  | nil =>
    cases success
    refine ⟨backed, ?_⟩
    simp
  | cons call rest ih =>
    rw [runCalls, List.foldlM_cons] at success
    obtain ⟨middle, stepped, success⟩ := bind_ok success
    have here := apart call List.mem_cons_self
    have step := Call.run_remainder here stepped
    obtain ⟨held, later⟩ := ih (Call.run_backed backed here stepped)
      (fun other member => apart other (List.mem_cons_of_mem _ member)) success
    refine ⟨held, later.trans ?_⟩
    rw [List.map_cons, List.map_cons, List.sum_cons, List.sum_cons]
    calc middle.remainder - (rest.map (Call.minted cfg)).sum + (rest.map (Call.burned cfg)).sum
        ≡ s.remainder - call.minted cfg + call.burned cfg - (rest.map (Call.minted cfg)).sum +
            (rest.map (Call.burned cfg)).sum [ZMOD cfg.conversionFactor] :=
          (step.sub_right _).add_right _
      _ = s.remainder - (call.minted cfg + (rest.map (Call.minted cfg)).sum) +
            (call.burned cfg + (rest.map (Call.burned cfg)).sum) := by ring

/-! A mint and the burn of the same amount. -/

/-- The burn borrows exactly if the mint carried. -/
theorem borrow_after_carry {factor held fraction : ℤ} (low : 0 ≤ held) (high : held < factor) :
    decide (held + (fraction - (decide (factor ≤ held + fraction)).toInt * factor) < fraction) =
      decide (factor ≤ held + fraction) := by
  by_cases full : factor ≤ held + fraction
  · simp only [full, decide_true, Bool.toInt_true, one_mul, decide_eq_true_eq]
    omega
  · simp only [full, decide_false, Bool.toInt_false, zero_mul, decide_eq_false_iff_not]
    omega

/-- The remainder overflows exactly if it was short. -/
theorem spill_after_short {factor remainder fraction : ℤ} (low : 0 ≤ remainder) (high : remainder < factor) :
    decide (factor ≤ remainder + ((decide (remainder < fraction)).toInt * factor - fraction) + fraction) =
      decide (remainder < fraction) := by
  by_cases less : remainder < fraction
  · simp only [less, decide_true, Bool.toInt_true, one_mul, decide_eq_true_eq]
    omega
  · simp only [less, decide_false, Bool.toInt_false, zero_mul, decide_eq_false_iff_not]
    omega

/-- The two movements cancel, whichever paths the mint and the burn took. -/
theorem mint_burn_cancel (cfg : Config) (addr : AccAddress) (quotient fraction : ℤ) (carry short : Bool) :
    (mintMovement cfg addr quotient fraction carry short).add
      (burnMovement cfg addr quotient fraction carry short) = .none := by
  ext account
  all_goals simp only [mintMovement, burnMovement, Movement.add, Movement.none, booked]
  · split_ifs <;> ring
  · ring
  · split_ifs <;> ring
  · ring
  · ring

theorem mint_burn_moves {amt : ℤ} (backed : Backed cfg s) (positive : 0 < amt)
    (apart : moduleName ≠ precisebankModule) (minted : mintExtendedCoin cfg s moduleName amt = .ok t)
    (burned : burnExtendedCoin cfg t moduleName amt = .ok u) : Moves cfg s u .none := by
  have mints := mintExtendedCoin_moves positive apart minted
  have burns := burnExtendedCoin_moves apart burned
  have balance := mints.fractional (moduleAddr cfg moduleName)
  have remainder := mints.remainder
  simp only [mintMovement, booked_self] at balance remainder
  rw [balance, remainder, borrow_after_carry (backed.fractional_nonneg _) (backed.fractional_lt _),
    spill_after_short backed.remainder_nonneg backed.remainder_lt] at burns
  rw [← mint_burn_cancel cfg (moduleAddr cfg moduleName) (amt.tdiv cfg.conversionFactor)
    (amt % cfg.conversionFactor)]
  exact mints.trans burns

theorem Moves.restored (moves : Moves cfg s u .none) :
    u.fractionalBalances = s.fractionalBalances ∧ u.balances = s.balances ∧
      u.supply cfg.denom = s.supply cfg.denom ∧ u.remainder = s.remainder := by
  refine ⟨?_, ?_, ?_, ?_⟩
  · ext account
    rw [moves.fractional]
    exact add_zero _
  · funext denom
    ext account
    by_cases integer : denom = cfg.denom
    · subst integer
      rw [moves.integer]
      exact add_zero _
    · exact moves.others denom integer account
  · exact moves.supply.trans (add_zero _)
  · exact moves.remainder.trans (add_zero _)

/-- What was minted to a module account is there to burn. -/
theorem minted_spendable {amt : ℤ} (positive : 0 < amt) (apart : moduleName ≠ precisebankModule)
    (backed : Backed cfg s) (addrApart : moduleAddr cfg moduleName ≠ cfg.reserve)
    (solvent : 0 ≤ Bank.spendableAmount s (moduleAddr cfg moduleName) cfg.denom)
    (minted : mintExtendedCoin cfg s moduleName amt = .ok t) :
    amt ≤ spendableCoin cfg t (moduleAddr cfg moduleName) cfg.extendedDenom := by
  have moves := mintExtendedCoin_moves positive apart minted
  have recompose := quotient_fraction cfg positive
  have held := backed.fractional_nonneg (moduleAddr cfg moduleName)
  have factor := cfg.conversionFactor_pos
  rw [spendableCoin_extended addrApart, moves.fractional, Bank.spendableCoin, moves.spendable]
  simp only [mintMovement, booked_self, booked_ne _ addrApart, add_zero]
  generalize (decide (cfg.conversionFactor ≤ s.fractionalBalances (moduleAddr cfg moduleName) +
    amt % cfg.conversionFactor)).toInt = carry
  have whole := mul_nonneg solvent factor.le
  have atLeast := mul_le_mul_of_nonneg_right (le_max_right 0
    (Bank.spendableAmount s (moduleAddr cfg moduleName) cfg.denom +
      (amt.tdiv cfg.conversionFactor + carry))) factor.le
  rw [add_mul, add_mul] at atLeast
  linarith

/-- The account a successful mint wrote the fraction of. -/
theorem minted_named {amt : ℤ} (apart : moduleName ≠ precisebankModule)
    (minted : mintExtendedCoin cfg s moduleName amt = .ok t) : moduleAddr cfg moduleName ≠ [] := by
  obtain ⟨_, _, _, _, _, _, -, -, written, -⟩ := mintExtendedCoin_ok apart rfl rfl minted
  intro empty
  unfold setFractionalBalance at written
  rw [if_pos empty] at written
  cases written

end

/-- The remainder depends on the net issuance only; and a burn of what was just
minted to a module account puts every balance, the supply and the remainder back. -/
theorem remainder_net_issuance (backed : Backed cfg s) :
    (∀ (calls : List Call) (t : BankState), (∀ call ∈ calls, cfg.reserve ∉ call.parties cfg) →
      runCalls cfg s calls = .ok t →
      t.remainder = (s.remainder - (calls.map (Call.minted cfg)).sum +
        (calls.map (Call.burned cfg)).sum) % cfg.conversionFactor) ∧
    (∀ (moduleName : ModuleName) (addr : AccAddress) (amt : ℤ) (t : BankState),
      cfg.moduleAddress moduleName = some addr → addr ≠ cfg.reserve →
      mintCoins cfg s moduleName [⟨cfg.extendedDenom, amt⟩] = .ok t →
      (∀ u, burnCoins cfg t moduleName [⟨cfg.extendedDenom, amt⟩] = .ok u →
        u.fractionalBalances = s.fractionalBalances ∧ u.balances = s.balances ∧
          u.supply cfg.denom = s.supply cfg.denom ∧ u.remainder = s.remainder) ∧
      (cfg.hasPermission moduleName .burner = true →
        cfg.hasPermission precisebankModule .burner = true →
        s.locked cfg.reserve cfg.denom = 0 → 0 ≤ Bank.spendableAmount s addr cfg.denom →
        ∃ u, burnCoins cfg t moduleName [⟨cfg.extendedDenom, amt⟩] = .ok u)) := by
  refine ⟨?_, ?_⟩
  · intro calls t apart success
    obtain ⟨held, congruent⟩ := runCalls_remainder backed apart success
    exact held.remainder_eq congruent
  · intro moduleName addr amt t found addrApart minted
    have positive : 0 < amt := (Issue.coins_ok .mint minted).2.1.head_pos
    obtain ⟨apart, minted⟩ := Issue.coins_extendedCoin .mint positive minted
    rw [← moduleAddr_of found] at addrApart ⊢
    refine ⟨?_, ?_⟩
    · intro u burned
      exact (mint_burn_moves backed positive apart minted
        (Issue.coins_extendedCoin .burn positive burned).2).restored
    · intro permitted reserveBurns unlocked solvent
      have whole : burnCoins cfg t moduleName _ = _ :=
        Issue.coins_extendedCoin_eq .burn positive apart ⟨addr, found⟩ permitted
      rw [whole]
      have held := mintExtendedCoin_backed backed positive apart addrApart minted
      have stays : t.locked cfg.reserve cfg.denom = 0 := by
        rw [(mintExtendedCoin_moves positive apart minted).locked, unlocked]
      have refuses := burnExtendedCoin_refuses held stays reserveBurns positive apart ⟨addr, found⟩
        addrApart (minted_named apart minted) permitted
      have enough := minted_spendable positive apart backed addrApart solvent minted
      apply Avoids.succeeds
      intro fault failed _
      exact refuses fault failed fun short => absurd short.2 (not_lt.mpr enough)

end

theorem remainder_net_issuance_fundedBank :
    ∃ t u, mintCoins sixDecimals fundedBank "evm" [⟨"atest", 700000000000⟩] = .ok t ∧
      burnCoins sixDecimals t "evm" [⟨"atest", 700000000000⟩] = .ok u ∧
      t.remainder = 800000000000 ∧ u.balances = fundedBank.balances ∧
      u.remainder = fundedBank.remainder := by
  obtain ⟨runs, restores⟩ := remainder_net_issuance fundedBank_backed
  obtain ⟨t, minted⟩ : ∃ t, mintCoins sixDecimals fundedBank "evm" [⟨"atest", 700000000000⟩] = .ok t :=
    ⟨_, rfl⟩
  obtain ⟨restored, returns⟩ := restores "evm" [2] 700000000000 t rfl (by decide) minted
  obtain ⟨u, burned⟩ := returns (by decide) (by decide) (by decide) (by decide)
  obtain ⟨-, balances, -, remainder⟩ := restored u burned
  refine ⟨t, u, minted, burned, ?_, balances, remainder⟩
  exact runs [.mintCoins "evm" [⟨"atest", 700000000000⟩]] t (by decide)
    ((bind_of_ok minted _).trans rfl)

end OgEvm.Precisebank
