import OgEvm.PrecisebankExact

/- The reserve side of sends, mints and burns. Every debit of the reserve comes
before the credit it is for, and the backing alone shows that a coin is there. -/
namespace OgEvm.Precisebank

open Totals ExceptFacts

section

variable {cfg : Config} {s t : BankState}

section

variable {amt : ℤ} {fault : Fault} {amount : ℤ} {moduleName : ModuleName}

/-! What x/bank refuses, one coin at a time. -/

theorem bankBurn_refuses (registered : ∃ addr, cfg.moduleAddress moduleName = some addr)
    (permitted : cfg.hasPermission moduleName .burner = true) (positive : 0 < amount)
    (failed : Bank.burnCoins cfg s moduleName (integerCoins cfg amount) = .error fault) : ShortOfFunds fault ∧
      Bank.spendableAmount s (moduleAddr cfg moduleName) cfg.denom < amount := by
  obtain ⟨addr, found⟩ := registered
  have valid := Coins.isValid_singleton cfg.denom amount positive
  rw [moduleAddr_of found]
  by_cases enough : amount ≤ Bank.spendableAmount s addr cfg.denom
  · have spent := Bank.spendLoop_singleton addr s positive enough
    simp [Bank.burnCoins, found, permitted, Bank.subUnlockedCoins, integerCoins, valid, spent,
      Except.map] at failed
  · obtain ⟨message, spent⟩ := Bank.spendLoop_short addr ⟨cfg.denom, amount⟩ [] s (not_le.mp enough)
    simp only [Bank.burnCoins, found, permitted, Bank.subUnlockedCoins, integerCoins, valid, spent,
      Except.map, not_true, if_false] at failed
    cases failed
    exact ⟨trivial, not_le.mp enough⟩

theorem bankMint_succeeds (registered : ∃ addr, cfg.moduleAddress moduleName = some addr)
    (permitted : cfg.hasPermission moduleName .minter = true) (positive : 0 < amount) :
    ∃ t, Bank.mintCoins cfg s moduleName (integerCoins cfg amount) = .ok t := by
  obtain ⟨addr, found⟩ := registered
  have valid := Coins.isValid_singleton cfg.denom amount positive
  simp [Bank.mintCoins, found, permitted, Bank.addCoins, integerCoins, valid, Except.map]

/-! Minting and burning. -/

theorem setRemainderAmount_succeeds (s : BankState) (range : 0 ≤ amount ∧ amount < cfg.conversionFactor) :
    ∃ u, setRemainderAmount cfg s amount = .ok u := by
  unfold setRemainderAmount
  by_cases zero : amount = 0
  · rw [if_pos zero]
    exact ⟨_, rfl⟩
  · rw [if_neg zero, validateFractionalAmount_ok (by omega) range.2]
    exact ⟨_, rfl⟩

/-- Minting never fails: the carry is paid by the reserve only when the remainder
covers the minted fraction, and then the reserve holds a coin. -/
theorem mintExtendedCoin_succeeds (backed : Backed cfg s) (unlocked : s.locked cfg.reserve cfg.denom = 0)
    (reserveMints : cfg.hasPermission precisebankModule .minter = true)
    (apart : moduleName ≠ precisebankModule) (registered : ∃ addr, cfg.moduleAddress moduleName = some addr)
    (named : moduleAddr cfg moduleName ≠ []) (permitted : cfg.hasPermission moduleName .minter = true) :
    ∃ t, mintExtendedCoin cfg s moduleName amt = .ok t := by
  have carry := carry_range cfg amt (backed.fractional_range (moduleAddr cfg moduleName))
  have borrow := borrow_range cfg amt backed.remainder_range
  refine Avoids.succeeds (Avoids.ite (fun own => absurd own apart) fun _ => ?_)
  refine Avoids.bind ?_ fun paid _ => Avoids.bind ?_ fun minted _ => ?_
  · refine Avoids.ite (fun ⟨full, covered⟩ => ?_) fun _ => Avoids.ok s
    have held := apply_le_total s.fractionalBalances backed.fractional_nonneg
      (moduleAddr cfg moduleName)
    have pays := backed.reserve_covers (by
      simp only [getFractionalBalance, getRemainderAmount] at full covered
      omega)
    obtain ⟨addr, found⟩ := registered
    rw [Bank.sendCoinsFromModuleToModule, cfg.reserve_registered, found]
    intro fault failed _
    have short := (bankSend_refuses one_pos failed).2
    rw [Bank.spendableAmount, unlocked] at short
    omega
  · exact Avoids.ite (fun positive => Avoids.of_succeeds (bankMint_succeeds registered permitted positive))
      fun _ => Avoids.ok paid
  refine Avoids.bind (Avoids.of_succeeds (setFractionalBalance_succeeds minted named ?_)) fun fractionSet _ => ?_
  · by_cases full : cfg.conversionFactor ≤ s.fractionalBalances (moduleAddr cfg moduleName) +
        amt % cfg.conversionFactor
    · simpa [getFractionalBalance, full] using carry
    · simpa [getFractionalBalance, full] using carry
  refine Avoids.bind ?_ fun covered _ => ?_
  · refine Avoids.ite (fun _ => ?_) fun _ => Avoids.ok fractionSet
    refine Avoids.mapError (fun _ bad => bad) (Avoids.of_succeeds ?_)
    exact bankMint_succeeds ⟨_, cfg.reserve_registered⟩ reserveMints one_pos
  refine Avoids.bind (Avoids.of_succeeds (setRemainderAmount_succeeds covered ?_)) fun _ _ => Avoids.ok _
  by_cases less : s.remainder < amt % cfg.conversionFactor
  · simpa [getRemainderAmount, less, sub_neg] using borrow
  · simpa [getRemainderAmount, less, sub_neg] using borrow

/-- A burn fails for want of funds only, and only if the whole extended amount
is not there to spend. -/
theorem burnExtendedCoin_refuses (backed : Backed cfg s) (unlocked : s.locked cfg.reserve cfg.denom = 0)
    (reserveBurns : cfg.hasPermission precisebankModule .burner = true) (positive : 0 < amt)
    (apart : moduleName ≠ precisebankModule) (registered : ∃ addr, cfg.moduleAddress moduleName = some addr)
    (addrApart : moduleAddr cfg moduleName ≠ cfg.reserve) (named : moduleAddr cfg moduleName ≠ [])
    (permitted : cfg.hasPermission moduleName .burner = true) : Avoids (fun fault => ¬ (ShortOfFunds fault ∧
        spendableCoin cfg s (moduleAddr cfg moduleName) cfg.extendedDenom < amt))
      (burnExtendedCoin cfg s moduleName amt) := by
  have balanceRange := borrow_range cfg amt (backed.fractional_range (moduleAddr cfg moduleName))
  have remainderRange := carry_range cfg amt backed.remainder_range
  have nonneg := quotient_nonneg cfg positive
  rw [spendableCoin_extended addrApart, ← not_le, backed.covers_iff positive, not_le]
  unfold burnExtendedCoin getFractionalBalance getRemainderAmount
  rw [if_neg apart]
  simp only [sub_neg]
  generalize borrows : decide (s.fractionalBalances (moduleAddr cfg moduleName) <
    amt % cfg.conversionFactor) = borrow at *
  generalize spills : decide (cfg.conversionFactor ≤ s.remainder + amt % cfg.conversionFactor) =
    spill at *
  refine Avoids.bind ?_ fun lent lend => Avoids.bind ?_ fun drawn draw => Avoids.bind ?_ fun burned _ => ?_
  · refine Avoids.ite (fun borrowed => ?_) fun _ => Avoids.ok s
    obtain ⟨rfl, -⟩ : borrow = true ∧ spill = false := by simpa using borrowed
    obtain ⟨addr, found⟩ := registered
    rw [Bank.sendCoinsFromModuleToModule, cfg.reserve_registered, found]
    refine Avoids.mapError (fun _ bad short => bad ⟨shortOfFunds_update short.1, short.2⟩) ?_
    intro fault failed bad
    obtain ⟨short, spendable⟩ := bankSend_refuses one_pos failed
    refine bad ⟨short, ?_⟩
    rw [moduleAddr_of found, Bank.spendableCoin, Bool.toInt_true]
    omega
  -- the reserve burn: the account's fraction and the remainder make up a coin
  · refine Avoids.ite (fun spilled => ?_) fun _ => Avoids.ok lent
    obtain ⟨rfl, rfl⟩ : borrow = false ∧ spill = true := by simpa using spilled
    cases lend
    have held := apply_le_total s.fractionalBalances backed.fractional_nonneg
      (moduleAddr cfg moduleName)
    have pays := backed.reserve_covers (by
      simp only [decide_eq_false_iff_not, decide_eq_true_eq] at borrows spills
      omega)
    have never : Avoids (fun _ => True) (Bank.burnCoins cfg s precisebankModule (integerCoins cfg 1)) := by
      intro fault failed _
      have short := (bankBurn_refuses ⟨_, cfg.reserve_registered⟩ reserveBurns one_pos failed).2
      rw [moduleAddr_reserve, Bank.spendableAmount, unlocked] at short
      omega
    obtain ⟨drawn, draw⟩ := never.succeeds
    rw [draw]
    exact Avoids.ok drawn
  · refine Avoids.ite (fun nonzero => ?_) fun _ => Avoids.ok drawn
    refine Avoids.mapError (fun _ bad short => bad ⟨shortOfFunds_update short.1, short.2⟩) ?_
    have positive : 0 < if (borrow && spill) = true then amt.tdiv cfg.conversionFactor + 1
        else amt.tdiv cfg.conversionFactor := by
      split
      · omega
      · rename_i direct
        rw [if_neg direct] at nonzero
        omega
    intro fault failed bad
    obtain ⟨short, spendable⟩ := bankBurn_refuses registered permitted positive failed
    refine bad ⟨short, ?_⟩
    rw [(reserve_moves lend draw).spendable] at spendable
    rw [Bank.spendableCoin]
    cases borrow <;> cases spill <;>
      simp [Movement.add, Movement.transfer, Movement.issue, booked_self, booked_ne _ addrApart]
        at spendable positive ⊢ <;> omega
  refine Avoids.bind (Avoids.of_succeeds (setFractionalBalance_succeeds burned named ?_)) fun fractionSet _ => ?_
  · cases borrow <;> simpa using balanceRange
  refine Avoids.bind (Avoids.of_succeeds (setRemainderAmount_succeeds fractionSet ?_)) fun _ _ => Avoids.ok _
  cases spill <;> simpa using remainderRange

/-- A burn that goes through was covered by the account's extended balance. -/
theorem burnExtendedCoin_enough (backed : Backed cfg s) (positive : 0 < amt)
    (apart : moduleName ≠ precisebankModule) (registered : ∃ addr, cfg.moduleAddress moduleName = some addr)
    (addrApart : moduleAddr cfg moduleName ≠ cfg.reserve) (success : burnExtendedCoin cfg s moduleName amt = .ok t) :
    amt ≤ spendableCoin cfg s (moduleAddr cfg moduleName) cfg.extendedDenom := by
  have nonneg := quotient_nonneg cfg positive
  rw [spendableCoin_extended addrApart, backed.covers_iff positive]
  obtain ⟨lent, drawn, burned, -, -, -, lend, draw, burn, -⟩ :=
    burnExtendedCoin_ok apart rfl rfl success
  generalize decide (s.fractionalBalances (moduleAddr cfg moduleName) <
    amt % cfg.conversionFactor) = borrow at *
  generalize decide (cfg.conversionFactor ≤ s.remainder + amt % cfg.conversionFactor) = spill at *
  obtain ⟨addr, found⟩ := registered
  have lendEnough : (borrow && !spill) = true →
      1 ≤ Bank.spendableAmount s (moduleAddr cfg moduleName) cfg.denom := by
    intro holds
    rcases ite_pure_ok lend with ⟨-, run⟩ | ⟨fails, -⟩
    · have sent := mapError_ok run
      rw [Bank.sendCoinsFromModuleToModule, cfg.reserve_registered, found] at sent
      rw [moduleAddr_of found]
      exact enough_of_bank_send one_pos sent
    · exact absurd holds fails
  have burnEnough : amt.tdiv cfg.conversionFactor + (borrow && spill).toInt ≠ 0 →
      amt.tdiv cfg.conversionFactor + (borrow && spill).toInt ≤
        Bank.spendableAmount drawn (moduleAddr cfg moduleName) cfg.denom := by
    intro nonzero
    rcases ite_pure_ok burn with ⟨-, run⟩ | ⟨fails, -⟩
    · rw [moduleAddr_of found]
      exact Bank.burnCoins_covered found (mapError_ok run)
    · exact absurd nonzero fails
  rw [(reserve_moves lend draw).spendable] at burnEnough
  rw [Bank.spendableCoin]
  cases borrow <;> cases spill <;>
    simp [Movement.add, Movement.transfer, Movement.issue, booked_self, booked_ne _ addrApart]
      at lendEnough burnEnough ⊢ <;> omega

end

/-- The reserve side never fails. A send or a burn goes through exactly when the
payer's extended balance covers it and is refused for want of funds otherwise; a
mint goes through. -/
theorem reserve_never_fails (backed : Backed cfg s) (unlocked : s.locked cfg.reserve cfg.denom = 0)
    (reserveMints : cfg.hasPermission precisebankModule .minter = true)
    (reserveBurns : cfg.hasPermission precisebankModule .burner = true) :
    (∀ (fromAddr toAddr : AccAddress) (amt : ℤ), fromAddr ≠ toAddr → fromAddr ≠ cfg.reserve →
      toAddr ≠ cfg.reserve → fromAddr ≠ [] → toAddr ≠ [] → 0 < amt →
      (amt ≤ spendableCoin cfg s fromAddr cfg.extendedDenom ∧
        ∃ u, sendExtendedCoins cfg s fromAddr toAddr amt = .ok u) ∨
      (spendableCoin cfg s fromAddr cfg.extendedDenom < amt ∧
        ∃ message, sendExtendedCoins cfg s fromAddr toAddr amt =
          .error (.error .insufficientFunds message))) ∧
    (∀ (moduleName : ModuleName) (addr : AccAddress) (amt : ℤ), moduleName ≠ precisebankModule →
      cfg.moduleAddress moduleName = some addr → addr ≠ cfg.reserve → addr ≠ [] →
      cfg.hasPermission moduleName .minter = true → 0 < amt →
      ∃ u, mintExtendedCoin cfg s moduleName amt = .ok u) ∧
    (∀ (moduleName : ModuleName) (addr : AccAddress) (amt : ℤ), moduleName ≠ precisebankModule →
      cfg.moduleAddress moduleName = some addr → addr ≠ cfg.reserve → addr ≠ [] →
      cfg.hasPermission moduleName .burner = true → 0 < amt →
      (amt ≤ spendableCoin cfg s addr cfg.extendedDenom ∧
        ∃ u, burnExtendedCoin cfg s moduleName amt = .ok u) ∨
      (spendableCoin cfg s addr cfg.extendedDenom < amt ∧
        ∃ message, burnExtendedCoin cfg s moduleName amt =
          .error (.error .insufficientFunds message))) := by
  refine ⟨?_, ?_, ?_⟩
  · intro fromAddr toAddr amt apart fromApart toApart fromNamed toNamed positive
    have refuses := sendExtendedCoins_refuses backed unlocked positive fromApart toApart apart fromNamed
      toNamed
    cases ran : sendExtendedCoins cfg s fromAddr toAddr amt with
    | ok u => exact .inl ⟨sendExtendedCoins_enough positive fromApart toApart apart ran, u, rfl⟩
    | error fault =>
      obtain ⟨short, lacking⟩ := not_not.mp (refuses fault ran)
      obtain ⟨message, rfl⟩ := short.message
      exact .inr ⟨lacking, message, rfl⟩
  · intro moduleName addr amt apart found addrApart named permitted positive
    rw [← moduleAddr_of found] at named
    exact mintExtendedCoin_succeeds backed unlocked reserveMints apart ⟨addr, found⟩ named permitted
  · intro moduleName addr amt apart found addrApart named permitted positive
    rw [← moduleAddr_of found] at addrApart named ⊢
    have refuses := burnExtendedCoin_refuses backed unlocked reserveBurns positive apart ⟨addr, found⟩
      addrApart named permitted
    cases ran : burnExtendedCoin cfg s moduleName amt with
    | ok u =>
      exact .inl ⟨burnExtendedCoin_enough backed positive apart ⟨addr, found⟩ addrApart ran, u, rfl⟩
    | error fault =>
      obtain ⟨short, lacking⟩ := not_not.mp (refuses fault ran)
      obtain ⟨message, rfl⟩ := short.message
      exact .inr ⟨lacking, message, rfl⟩

end

theorem reserve_never_fails_fundedBank :
    (∃ u, sendExtendedCoins sixDecimals fundedBank [3] [4] 2500000000000 = .ok u) ∧
      (∃ u, mintExtendedCoin sixDecimals fundedBank "evm" 700000000000 = .ok u) ∧
      ∃ message, burnExtendedCoin sixDecimals fundedBank "evm" 1 =
        .error (.error .insufficientFunds message) := by
  obtain ⟨send, mint, burn⟩ := reserve_never_fails fundedBank_backed (by decide) (by decide) (by decide)
  refine ⟨?_, ?_, ?_⟩
  · rcases send [3] [4] 2500000000000 (by decide) (by decide) (by decide) (by decide) (by decide)
      (by decide) with ⟨-, success⟩ | ⟨short, -⟩
    · exact success
    · exact absurd short (by decide)
  · exact mint "evm" [2] 700000000000 (by decide) rfl (by decide) (by decide) (by decide) (by decide)
  · rcases burn "evm" [2] 1 (by decide) rfl (by decide) (by decide) (by decide) (by decide) with
      ⟨enough, -⟩ | ⟨-, refused⟩
    · exact absurd enough (by decide)
    · exact refused

end OgEvm.Precisebank
