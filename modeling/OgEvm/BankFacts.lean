import OgEvm.Bank

namespace OgEvm.Bank

open Totals

/-! Frame facts: a balance write touches one entry of one denomination. -/

section

variable (s : BankState) (addr : AccAddress) (denom : Denom) (delta : ℤ)

@[simp] theorem addBalance_supply : (addBalance s addr denom delta).supply = s.supply := rfl

@[simp] theorem addBalance_locked : (addBalance s addr denom delta).locked = s.locked := rfl

@[simp] theorem addBalance_fractional :
    (addBalance s addr denom delta).fractionalBalances = s.fractionalBalances := rfl

@[simp] theorem addBalance_remainder : (addBalance s addr denom delta).remainder = s.remainder := rfl

@[simp] theorem addBalance_events : (addBalance s addr denom delta).events = s.events := rfl

end

theorem addBalance_balance (s : BankState) (addr other : AccAddress) (denom read : Denom) (delta : ℤ) :
    (addBalance s addr denom delta).balances read other =
      s.balances read other + if read = denom ∧ other = addr then delta else 0 := by
  by_cases same : read = denom
  · subst same
    simp only [addBalance, Function.update_self, update_apply, true_and]
    split
    · rename_i hit
      rw [hit]
    · exact (add_zero _).symm
  · simp [addBalance, same]

theorem addBalance_total (s : BankState) (addr : AccAddress) (denom read : Denom) (delta : ℤ) :
    total ((addBalance s addr denom delta).balances read) =
      total (s.balances read) + if read = denom then delta else 0 := by
  by_cases same : read = denom
  · subst same
    simp only [addBalance, Function.update_self, total_update, if_true]
    ring
  · simp [addBalance, same]

/-- The part of a bank state that balance movements of any kind leave alone. -/
structure SameFrame (s t : BankState) : Prop where
  supply : t.supply = s.supply
  locked : t.locked = s.locked
  fractional : t.fractionalBalances = s.fractionalBalances
  remainder : t.remainder = s.remainder

theorem shiftCoins_frame (sign : ℤ) (addr : AccAddress) (coins : Coins) (s : BankState) :
    SameFrame s (shiftCoins sign addr coins s) ∧ (shiftCoins sign addr coins s).events = s.events := by
  induction coins generalizing s with
  | nil => exact ⟨⟨rfl, rfl, rfl, rfl⟩, rfl⟩
  | cons coin rest ih =>
    obtain ⟨⟨supply, locked, fractional, remainder⟩, events⟩ :=
      ih (addBalance s addr coin.denom (sign * coin.amount))
    exact ⟨⟨supply, locked, fractional, remainder⟩, events⟩

theorem shiftCoins_balance (sign : ℤ) (addr : AccAddress) {coins : Coins}
    (valid : Coins.IsValid coins) (s : BankState) (read : Denom) (other : AccAddress) :
    (shiftCoins sign addr coins s).balances read other =
      s.balances read other + if other = addr then sign * Coins.amountOf coins read else 0 := by
  induction coins generalizing s with
  | nil => simp [shiftCoins]
  | cons coin rest ih =>
    have step := ih valid.tail (addBalance s addr coin.denom (sign * coin.amount))
    change (shiftCoins sign addr rest _).balances read other = _
    rw [step, addBalance_balance, Coins.amountOf_cons]
    by_cases same : read = coin.denom
    · subst same
      rw [valid.amountOf_tail]
      by_cases hit : other = addr <;> simp [hit]
    · have fresh : coin.denom ≠ read := fun equal => same equal.symm
      simp [same, fresh]

theorem shiftCoins_total (sign : ℤ) (addr : AccAddress) {coins : Coins}
    (valid : Coins.IsValid coins) (s : BankState) (read : Denom) :
    total ((shiftCoins sign addr coins s).balances read) =
      total (s.balances read) + sign * Coins.amountOf coins read := by
  induction coins generalizing s with
  | nil => simp [shiftCoins]
  | cons coin rest ih =>
    have step := ih valid.tail (addBalance s addr coin.denom (sign * coin.amount))
    change total ((shiftCoins sign addr rest _).balances read) = _
    rw [step, addBalance_total, Coins.amountOf_cons]
    by_cases same : read = coin.denom
    · subst same
      rw [valid.amountOf_tail]
      simp
    · have fresh : coin.denom ≠ read := fun equal => same equal.symm
      simp [same, fresh]

/-- A successful spend loop performed exactly the subtraction of the whole set. -/
theorem spendLoop_ok (addr : AccAddress) (coins : Coins) (s t : BankState)
    (success : spendLoop addr coins s = .ok t) : t = shiftCoins (-1) addr coins s := by
  induction coins generalizing s with
  | nil => exact (Except.ok.inj success).symm
  | cons coin rest ih =>
    simp only [spendLoop] at success
    split at success
    · cases success
    · exact ih _ success

theorem spendLoop_enough (addr : AccAddress) {coins : Coins} (valid : Coins.IsValid coins) (s : BankState)
    (enough : ∀ coin ∈ coins, coin.amount ≤ spendableAmount s addr coin.denom) :
    spendLoop addr coins s = .ok (shiftCoins (-1) addr coins s) := by
  induction coins generalizing s with
  | nil => rfl
  | cons coin rest ih =>
    simp only [spendLoop, not_lt.mpr (enough coin List.mem_cons_self), if_false]
    refine ih valid.tail _ fun held member => ?_
    have later := enough held (List.mem_cons_of_mem _ member)
    simpa [spendableAmount, addBalance_balance, valid.head_fresh held member] using later

theorem spendLoop_singleton (addr : AccAddress) {denom : Denom} {amount : ℤ} (s : BankState)
    (positive : 0 < amount) (enough : amount ≤ spendableAmount s addr denom) :
    spendLoop addr [⟨denom, amount⟩] s = .ok (shiftCoins (-1) addr [⟨denom, amount⟩] s) :=
  spendLoop_enough addr (Coins.isValid_singleton denom amount positive) s (by simpa using enough)

theorem spendLoop_short (addr : AccAddress) (coin : Coin) (rest : Coins) (s : BankState)
    (short : spendableAmount s addr coin.denom < coin.amount) :
    ∃ message, spendLoop addr (coin :: rest) s = .error (.error .insufficientFunds message) := by
  simp only [spendLoop, short, if_true]
  exact ⟨_, rfl⟩

/-- What a successful spend loop takes is there to be spent. -/
theorem spendLoop_covered (addr : AccAddress) (coins : Coins) (s t : BankState)
    (success : spendLoop addr coins s = .ok t) (denom : Denom) :
    Coins.amountOf coins denom ≤ spendableCoin s addr denom := by
  induction coins generalizing s with
  | nil => exact le_max_left _ _
  | cons coin rest ih =>
    simp only [spendLoop] at success
    split at success
    · cases success
    · rename_i enough
      rw [Coins.amountOf_cons]
      by_cases same : coin.denom = denom
      · subst same
        rw [if_pos rfl]
        exact le_max_of_le_right (not_lt.mp enough)
      · rw [if_neg same]
        have apart : denom ≠ coin.denom := fun equal => same equal.symm
        have later := ih _ success
        simpa [spendableCoin, spendableAmount, addBalance_balance, apart] using later

/-- The pure effect of one transfer: spend, receive, and the two events. -/
def moved (s : BankState) (fromAddr toAddr : AccAddress) (amt : Coins) : BankState :=
  emit (shiftCoins 1 toAddr amt
    (emit (shiftCoins (-1) fromAddr amt s) (.coinSpent fromAddr amt))) (.coinReceived toAddr amt)

section

variable {fromAddr toAddr : AccAddress} {amt : Coins} {s : BankState}

theorem sendCoins_ok {s t : BankState} (success : sendCoins s fromAddr toAddr amt = .ok t) :
    Coins.IsValid amt ∧ t = moved s fromAddr toAddr amt := by
  simp only [sendCoins, subUnlockedCoins] at success
  by_cases valid : Coins.IsValid amt
  · simp only [valid, not_true, if_false] at success
    cases spent : spendLoop fromAddr amt s with
    | error fault => simp [spent, Except.map, bind, Except.bind] at success
    | ok u =>
      simp only [spent, Except.map, bind, Except.bind, addCoins, valid, not_true, if_false,
        Except.ok.injEq] at success
      rw [spendLoop_ok fromAddr amt s u spent] at success
      exact ⟨valid, success.symm⟩
  · simp [valid, bind, Except.bind] at success

theorem sendCoins_covered {s t : BankState} (success : sendCoins s fromAddr toAddr amt = .ok t)
    (denom : Denom) : Coins.amountOf amt denom ≤ spendableCoin s fromAddr denom := by
  simp only [sendCoins, subUnlockedCoins] at success
  split at success
  · simp [bind, Except.bind] at success
  · cases spent : spendLoop fromAddr amt s with
    | error fault => simp [spent, Except.map, bind, Except.bind] at success
    | ok u => exact spendLoop_covered fromAddr amt s u spent denom

theorem sendCoins_succeeds (valid : Coins.IsValid amt)
    (enough : ∀ coin ∈ amt, coin.amount ≤ spendableAmount s fromAddr coin.denom) :
    sendCoins s fromAddr toAddr amt = .ok (moved s fromAddr toAddr amt) := by
  have spent := spendLoop_enough fromAddr valid s enough
  simp [sendCoins, subUnlockedCoins, addCoins, valid, spent, Except.map, bind, Except.bind, moved]

theorem sendCoins_enough {denom : Denom} {amount : ℤ} (positive : 0 < amount)
    (enough : amount ≤ spendableAmount s fromAddr denom) : sendCoins s fromAddr toAddr [⟨denom, amount⟩] =
      .ok (moved s fromAddr toAddr [⟨denom, amount⟩]) :=
  sendCoins_succeeds (Coins.isValid_singleton denom amount positive) (by simpa using enough)

theorem sendCoins_short {fromAddr : AccAddress} (toAddr : AccAddress) {denom : Denom} {amount : ℤ}
    (positive : 0 < amount) (short : spendableAmount s fromAddr denom < amount) :
    ∃ message, sendCoins s fromAddr toAddr [⟨denom, amount⟩] = .error (.error .insufficientFunds message) := by
  have valid := Coins.isValid_singleton denom amount positive
  obtain ⟨message, spent⟩ := spendLoop_short fromAddr ⟨denom, amount⟩ [] s short
  exact ⟨message, by simp [sendCoins, subUnlockedCoins, valid, spent, Except.map, bind, Except.bind]⟩

end

section

variable (s : BankState) (fromAddr toAddr : AccAddress)

theorem moved_frame (amt : Coins) : SameFrame s (moved s fromAddr toAddr amt) := by
  obtain ⟨spend, -⟩ := shiftCoins_frame (-1) fromAddr amt s
  obtain ⟨receive, -⟩ := shiftCoins_frame 1 toAddr amt
    (emit (shiftCoins (-1) fromAddr amt s) (.coinSpent fromAddr amt))
  exact ⟨receive.supply.trans spend.supply, receive.locked.trans spend.locked,
    receive.fractional.trans spend.fractional, receive.remainder.trans spend.remainder⟩

theorem moved_events (amt : Coins) : (moved s fromAddr toAddr amt).events =
      s.events ++ [.coinSpent fromAddr amt, .coinReceived toAddr amt] := by
  have spend := (shiftCoins_frame (-1) fromAddr amt s).2
  have receive := (shiftCoins_frame 1 toAddr amt
    (emit (shiftCoins (-1) fromAddr amt s) (.coinSpent fromAddr amt))).2
  simp only [moved, emit] at receive ⊢
  rw [receive, spend]
  simp

theorem moved_balance {amt : Coins} (valid : Coins.IsValid amt) (read : Denom) (other : AccAddress) :
    (moved s fromAddr toAddr amt).balances read other =
      s.balances read other - (if other = fromAddr then Coins.amountOf amt read else 0) +
        (if other = toAddr then Coins.amountOf amt read else 0) := by
  simp only [moved, emit]
  rw [shiftCoins_balance 1 toAddr valid]
  simp only
  rw [shiftCoins_balance (-1) fromAddr valid]
  split <;> split <;> ring

theorem moved_total {amt : Coins} (valid : Coins.IsValid amt) (read : Denom) :
    total ((moved s fromAddr toAddr amt).balances read) = total (s.balances read) := by
  simp only [moved, emit]
  rw [shiftCoins_total 1 toAddr valid]
  simp only
  rw [shiftCoins_total (-1) fromAddr valid]
  ring

end

/-- The pure effect of a mint (`sign` 1) or a burn (`sign` -1) at an account. -/
def reissued (sign : ℤ) (event : Event) (s : BankState) (addr : AccAddress) (amt : Coins) :
    BankState :=
  { emit (shiftCoins sign addr amt s) event with
    supply := fun denom => s.supply denom + sign * Coins.amountOf amt denom }

variable {cfg : Config} {s t : BankState} {moduleName : ModuleName}

theorem reissued_balances (sign : ℤ) (event : Event) (s : BankState) (addr : AccAddress) (amt : Coins) :
    (reissued sign event s addr amt).balances = (shiftCoins sign addr amt s).balances := rfl

theorem mintCoins_ok {amt : Coins} (success : mintCoins cfg s moduleName amt = .ok t) :
    ∃ addr, cfg.moduleAddress moduleName = some addr ∧ Coins.IsValid amt ∧
      t = reissued 1 (.coinReceived addr amt) s addr amt := by
  simp only [mintCoins] at success
  split at success
  · cases success
  · rename_i addr found
    split at success
    · cases success
    · by_cases valid : Coins.IsValid amt
      · refine ⟨addr, found, valid, ?_⟩
        simp only [addCoins, valid, not_true, if_false, Except.map, Except.ok.injEq] at success
        rw [← success]
        simp [reissued, emit, (shiftCoins_frame 1 addr amt s).1.supply]
      · simp [addCoins, valid, Except.map] at success

theorem burnCoins_ok {amt : Coins} (success : burnCoins cfg s moduleName amt = .ok t) :
    ∃ addr, cfg.moduleAddress moduleName = some addr ∧ Coins.IsValid amt ∧
      t = reissued (-1) (.coinSpent addr amt) s addr amt := by
  simp only [burnCoins] at success
  split at success
  · cases success
  · rename_i addr found
    split at success
    · cases success
    · by_cases valid : Coins.IsValid amt
      · refine ⟨addr, found, valid, ?_⟩
        simp only [subUnlockedCoins, valid, not_true, if_false] at success
        cases spent : spendLoop addr amt s with
        | error fault => simp [spent, Except.map] at success
        | ok u =>
          simp only [spent, Except.map, Except.ok.injEq] at success
          rw [spendLoop_ok addr amt s u spent] at success
          rw [← success]
          simp [reissued, emit, (shiftCoins_frame (-1) addr amt s).1.supply, sub_eq_add_neg]
      · simp [subUnlockedCoins, valid, Except.map] at success

/-- A burn of one coin takes what the module account can spend. -/
theorem burnCoins_covered {addr : AccAddress} {denom : Denom} {amount : ℤ}
    (found : cfg.moduleAddress moduleName = some addr)
    (success : burnCoins cfg s moduleName [⟨denom, amount⟩] = .ok t) : amount ≤ spendableAmount s addr denom := by
  by_contra short
  have spent := spendLoop_short addr ⟨denom, amount⟩ [] s (not_le.mp short)
  obtain ⟨message, spent⟩ := spent
  simp only [burnCoins, found, subUnlockedCoins, spent] at success
  split at success
  · cases success
  · split at success <;> cases success

/-- A burn of one coin that returns an error is short of funds. -/
theorem burnCoins_error {s : BankState} {addr : AccAddress} {denom : Denom} {amount : ℤ} {code : ErrCode}
    {text : String} (positive : 0 < amount) (found : cfg.moduleAddress moduleName = some addr)
    (failed : burnCoins cfg s moduleName [⟨denom, amount⟩] = .error (.error code text)) :
    spendableAmount s addr denom < amount := by
  by_contra enough
  have valid := Coins.isValid_singleton denom amount positive
  have spent := spendLoop_singleton addr s positive (not_lt.mp enough)
  simp only [burnCoins, found, subUnlockedCoins, spent, valid, not_true, if_false] at failed
  split at failed <;> cases failed

end OgEvm.Bank
