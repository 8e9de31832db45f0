import OgEvm.StateDbHistory

/- The gas of a precompile call. The native action is metered on a meter of its own,
made from the gas of the contract; the contract is charged from that meter on the
normal return only. -/
namespace OgEvm.Metered

open ExceptFacts

/-- The gas meter of the store package. -/
structure GasMeter where
  limit : UInt64
  consumed : UInt64

inductive GasPanic where
  | outOfGas
  | overflow
deriving DecidableEq

def newGasMeter (limit : UInt64) : GasMeter := ⟨limit, 0⟩

/-- `ConsumeGas` counts the amount before it panics. -/
def GasMeter.consumeGas (meter : GasMeter) (amount : UInt64) : GasMeter × Option GasPanic :=
  if 2 ^ 64 ≤ meter.consumed.toNat + amount.toNat then
    ({ meter with consumed := -1 }, some .overflow)
  else
    let meter := { meter with consumed := meter.consumed + amount }
    (meter, if meter.limit < meter.consumed then some .outOfGas else none)

/-- The field of `vm.Contract` that a precompile call changes. -/
structure Contract where
  gas : UInt64

def Contract.useGas (contract : Contract) (gas : UInt64) : Contract × Bool :=
  if contract.gas < gas then (contract, false) else (⟨contract.gas - gas⟩, true)

/-- How a native action ends. -/
inductive Exit where
  | returned
  | failed (err : GoError)
  | panicked (cause : GasPanic)

/-- The context and the meter as the native action leaves them. -/
structure Outcome where
  ctx : Context
  meter : GasMeter
  exit : Exit

structure Precompile where
  action : Context → GasMeter → Except DbPanic Outcome
  balanceHandler : Bool

/-- What a precompile call leaves when it returns. -/
structure Result where
  db : StateDb
  contract : Contract
  err : Option GoError

inductive Panic where
  | db (panic : DbPanic)
  | gasOverflow

def errOutOfGas : GoError := (.other, "out of gas")

def errExecutionReverted : GoError := (.other, "execution reverted")

/-- The deferred handler keeps the context it was created with, hence the meter the call
had before it got its own. Any other panic goes on. -/
def handleGasError (outer : GasMeter) (contract : Contract) (initialGas : UInt64) (s : StateDb) :
    GasPanic → Except Panic Result
  | .outOfGas =>
    let usedGas := outer.consumed - initialGas
    .ok ⟨s, (contract.useGas usedGas).1, some errOutOfGas⟩
  | .overflow => .error .gasOverflow

/-- What `runNativeAction` does from the action on. -/
def leavePrecompile (env : Env) (p : Precompile) (outer : GasMeter) (contract : Contract)
    (initialGas : UInt64) (meter : GasMeter) (s : StateDb) : Except Panic Result := do
  let prevEventsLen := (StateDb.cacheContext s).events.length
  let outcome ← (p.action (StateDb.cacheContext s) meter).mapError .db
  let s := StateDb.withCacheContext s outcome.ctx
  match outcome.exit with
  | .panicked cause => handleGasError outer contract initialGas s cause
  | .failed err => pure ⟨s, contract, some err⟩
  | .returned =>
    let cost := outcome.meter.consumed - initialGas
    match contract.useGas cost with
    | (contract, false) => pure ⟨s, contract, some errOutOfGas⟩
    | (contract, true) =>
      let (s, err) :=
        if p.balanceHandler then BalanceHandler.afterBalanceChange env s prevEventsLen outcome.ctx
        else (s, none)
      pure ⟨s, contract, err⟩

/-- `runNativeAction` for a contract with gas, on a context whose meter is `outer`. -/
def runNativeAction (env : Env) (p : Precompile) (outer : GasMeter) (contract : Contract)
    (s : StateDb) : Except Panic Result := do
  match ← (StateDb.enterPrecompile env s).mapError .db with
  | (s, some err) => pure ⟨s, contract, some err⟩
  | (s, none) =>
    let initialGas := outer.consumed
    match (newGasMeter contract.gas).consumeGas initialGas with
    | (_, some cause) => handleGasError outer contract initialGas s cause
    | (meter, none) => leavePrecompile env p outer contract initialGas meter s

/-- The exported `RunNativeAction`: every failure is reported as a revert, for which the
interpreter hands the gas of the contract back to the caller. -/
def runReverting (env : Env) (p : Precompile) (outer : GasMeter) (contract : Contract)
    (s : StateDb) : Except Panic Result :=
  (runNativeAction env p outer contract s).map fun result =>
    { result with err := result.err.map fun _ => errExecutionReverted }

section

variable {env : Env} {p : Precompile} {outer meter : GasMeter} {contract : Contract} {s u : StateDb}
  {initialGas : UInt64} {outcome : Outcome} {result : Result}

/-! What each exit charges. -/

theorem Contract.useGas_zero : contract.useGas 0 = (contract, true) := by
  have enough : ¬ contract.gas < 0 := by simp
  rw [Contract.useGas, if_neg enough, UInt64.sub_zero]

/-- No gas goes to the outer meter during the call, so the handler charges nothing. -/
theorem handleGasError_free {cause : GasPanic}
    (success : handleGasError outer contract outer.consumed s cause = .ok result) : result.contract = contract := by
  cases cause with
  | overflow => cases success
  | outOfGas =>
    cases success
    show (contract.useGas (outer.consumed - outer.consumed)).1 = contract
    rw [UInt64.sub_self, Contract.useGas_zero]

/-- An action that returns is charged what it consumed, or nothing if that is too much. -/
theorem leavePrecompile_returned
    (acted : p.action (StateDb.cacheContext s) meter = .ok outcome) (normal : outcome.exit = .returned)
    (success : leavePrecompile env p outer contract outer.consumed meter s = .ok result) :
    result.contract = (contract.useGas (outcome.meter.consumed - outer.consumed)).1 := by
  unfold leavePrecompile at success
  rw [acted] at success
  simp only [Except.mapError, bind_of_ok rfl, normal] at success
  rcases charged : contract.useGas (outcome.meter.consumed - outer.consumed) with ⟨left, _ | _⟩ <;>
    rw [charged] at success <;> cases success <;> rfl

theorem leavePrecompile_kept
    (acted : p.action (StateDb.cacheContext s) meter = .ok outcome) (aborted : outcome.exit ≠ .returned)
    (success : leavePrecompile env p outer contract outer.consumed meter s = .ok result) :
    result.contract = contract := by
  unfold leavePrecompile at success
  rw [acted] at success
  simp only [Except.mapError, bind_of_ok rfl] at success
  cases ended : outcome.exit with
  | returned => exact absurd ended aborted
  | failed err =>
    rw [ended] at success
    cases success
    rfl
  | panicked cause =>
    rw [ended] at success
    exact handleGasError_free success

/-- The action's meter starts where the outer one is. -/
theorem started_consumed (started : (newGasMeter contract.gas).consumeGas initialGas = (meter, none)) :
    meter.consumed = initialGas := by
  unfold GasMeter.consumeGas at started
  split at started
  · cases started
  · have counted : _ = meter := congrArg Prod.fst started
    rw [← counted]
    exact UInt64.zero_add initialGas

theorem runNativeAction_leaves (entered : StateDb.enterPrecompile env s = .ok (u, none))
    (started : (newGasMeter contract.gas).consumeGas outer.consumed = (meter, none))
    (success : runNativeAction env p outer contract s = .ok result) :
    leavePrecompile env p outer contract outer.consumed meter u = .ok result := by
  unfold runNativeAction at success
  rw [entered] at success
  simpa only [Except.mapError, bind_of_ok rfl, started] using success

/-- What is charged is what was consumed, as long as the contract can afford it. -/
theorem useGas_consumed (contract : Contract) {g : ℕ}
    (consumed : outcome.meter.consumed.toNat = outer.consumed.toNat + g) :
    (contract.useGas (outcome.meter.consumed - outer.consumed)).1.gas.toNat =
      if g ≤ contract.gas.toNat then contract.gas.toNat - g else contract.gas.toNat := by
  have grown : outer.consumed ≤ outcome.meter.consumed := by
    rw [UInt64.le_iff_toNat_le]
    omega
  have cost : (outcome.meter.consumed - outer.consumed).toNat = g := by
    rw [UInt64.toNat_sub_of_le _ _ grown]
    omega
  generalize outcome.meter.consumed - outer.consumed = amount at cost
  unfold Contract.useGas
  by_cases enough : g ≤ contract.gas.toNat
  · have affordable : amount ≤ contract.gas := by
      rw [UInt64.le_iff_toNat_le]
      omega
    rw [if_pos enough, if_neg (UInt64.not_lt.mpr affordable), UInt64.toNat_sub_of_le _ _ affordable, cost]
  · have short : contract.gas < amount := by
      rw [UInt64.lt_iff_toNat_lt]
      omega
    rw [if_neg enough, if_pos short]

/-! Gas that is consumed and not paid. -/

/-- An action that consumed `g` has it paid for exactly when it returns and the contract can
afford it; gas nobody has or nobody consumed needs no payment. -/
theorem consumed_gas_paid_iff {g : ℕ} (entered : StateDb.enterPrecompile env s = .ok (u, none))
    (started : (newGasMeter contract.gas).consumeGas outer.consumed = (meter, none))
    (acted : p.action (StateDb.cacheContext u) meter = .ok outcome)
    (consumed : outcome.meter.consumed.toNat = meter.consumed.toNat + g)
    (success : runNativeAction env p outer contract s = .ok result) :
    result.contract.gas.toNat + min g contract.gas.toNat ≤ contract.gas.toNat ↔
      (outcome.exit = .returned ∧ g ≤ contract.gas.toNat) ∨ g = 0 ∨ contract.gas.toNat = 0 := by
  have left := runNativeAction_leaves entered started success
  rw [started_consumed started] at consumed
  by_cases normal : outcome.exit = .returned
  · have charged := useGas_consumed contract consumed
    rw [← leavePrecompile_returned acted normal left] at charged
    rw [charged]
    split <;> simp only [normal, true_and] <;> omega
  · rw [leavePrecompile_kept acted normal left]
    simp only [normal, false_and, false_or]
    omega

end

/-- An action that spends gas and then ends as it is told. -/
def spending (amount : UInt64) (exit : Exit) : Precompile where
  action ctx meter :=
    let (meter, panic) := meter.consumeGas amount
    .ok ⟨ctx, meter, panic.elim exit .panicked⟩
  balanceHandler := false

def idleMeter : GasMeter := ⟨-1, 0⟩

def spendingStart : StateDb := StateDb.new ⟨StateDb.emptyStore, []⟩ ⟨zeroHash, 0⟩

theorem spendingStart_enters : ∃ u, StateDb.enterPrecompile StateDb.toyEnv spendingStart = .ok (u, none) := by
  have entered : ((StateDb.enterPrecompile StateDb.toyEnv spendingStart).toOption.map
      fun result => result.2.isNone) = some true := by decide +kernel
  obtain ⟨⟨u, err⟩, run, clean⟩ := Option.map_eq_some_iff.mp entered
  cases err with
  | none => exact ⟨u, toOption_some run⟩
  | some err => cases clean

theorem consumed_gas_paid_iff_spending : ∃ result,
    runNativeAction StateDb.toyEnv (spending 400 .returned) idleMeter ⟨1000⟩ spendingStart = .ok result ∧
      result.contract.gas.toNat + min 400 1000 ≤ 1000 := by
  obtain ⟨u, entered⟩ := spendingStart_enters
  have ran : ((runNativeAction StateDb.toyEnv (spending 400 .returned) idleMeter ⟨1000⟩
      spendingStart).toOption.map fun _ => ()) = some () := by decide +kernel
  obtain ⟨result, run, -⟩ := Option.map_eq_some_iff.mp ran
  have success := toOption_some run
  exact ⟨result, success,
    (consumed_gas_paid_iff (g := 400) entered rfl rfl rfl success).mpr (.inl ⟨rfl, by decide⟩)⟩

/-- A failing action has consumed 400 of the 1000 units, an exhausting one all of them. Both
calls revert with all 1000 units left. -/
theorem spending_unpaid :
    (newGasMeter 1000).consumeGas 400 = (⟨1000, 400⟩, none) ∧
    ((runReverting StateDb.toyEnv (spending 400 (.failed (.other, "validator does not exist"))) idleMeter
        ⟨1000⟩ spendingStart).toOption.map fun result => (result.contract.gas, result.err)) =
      some (1000, some errExecutionReverted) ∧
    (newGasMeter 1000).consumeGas 5000 = (⟨1000, 5000⟩, some .outOfGas) ∧
    ((runReverting StateDb.toyEnv (spending 5000 .returned) idleMeter ⟨1000⟩
        spendingStart).toOption.map fun result => (result.contract.gas, result.err)) =
      some (1000, some errExecutionReverted) := by
  refine ⟨rfl, ?_, rfl, ?_⟩ <;> decide +kernel

end OgEvm.Metered
