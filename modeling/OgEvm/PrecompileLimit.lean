import OgEvm.StateDbAside

/- The limit on precompile calls. The counter has eight bits, counts rejected calls as
well and is not restored by reverts. -/
namespace OgEvm.StateDb

open ExceptFacts

/-! The counter of a run. -/

section

variable {env : Env} {s t : StateDb}

theorem revertEntry_counter {entry : JournalEntry} (success : revertEntry env s entry = .ok t) :
    t.precompileCallsCounter = s.precompileCallsCounter := by
  cases revertEntry_effect success with
  | forgets addr => rfl
  | resets obj => rfl
  | misses loading => exact (loading_aside loading).counter
  | changes loading undo => exact (loading_aside loading).counter
  | elsewhere => rfl

theorem revertToSnapshot_counter {revid : ℤ} (success : revertToSnapshot env s revid = .ok t) :
    t.precompileCallsCounter = s.precompileCallsCounter := by
  obtain ⟨idx, revision, u, -, replayed, -, rfl⟩ := revertToSnapshot_ok success
  refine foldlM_invariant (fun u => u.precompileCallsCounter = s.precompileCallsCounter) ?_ rfl replayed
  intro entry _ before after same reverted
  obtain ⟨middle, undone, rfl⟩ := revertLast_ok reverted
  exact (revertEntry_counter undone).trans same

/-- Every call counts, whatever becomes of it. -/
theorem enterPrecompile_counter {err : Option GoError} (success : enterPrecompile env s = .ok (t, err)) :
    t.precompileCallsCounter = s.precompileCallsCounter + 1 := by
  rcases enterPrecompile_cases success with ⟨rfl, -⟩ | ⟨cache, u, ctx, -, flushed, rfl⟩
  · rfl
  · exact (commitObjects_aside flushed).counter

theorem runNativeAction_counter {p : Precompile} {err : Option GoError}
    (success : runNativeAction env p s = .ok (t, err)) : t.precompileCallsCounter = s.precompileCallsCounter + 1 := by
  rcases runNativeAction_cases success with ⟨-, began⟩ | ⟨u, ctx, -, events, began, -, -, rfl⟩
  · exact enterPrecompile_counter began
  · have entered := enterPrecompile_counter began
    exact (afterEvents_aside env events _).counter.trans entered

end

/-! Calls made and calls let through. -/

/-- Whether `AddPrecompileFn` lets a call go on to its native action. -/
def callAccepted (s : StateDb) : Bool :=
  let (cache, s) := getCacheContext s
  match multiStoreSnapshot s with
  | .error _ => false
  | .ok (snapshot, s) => (addPrecompileFn s snapshot cache.events).2.isNone

def Step.isCall : Step → Bool
  | .op _ => false
  | .precompile _ => true

/-- The calls a transaction makes until it ends or panics. -/
def madeCalls (env : Env) : StateDb → List Step → ℕ
  | _, [] => 0
  | s, step :: rest =>
    (if step.isCall then 1 else 0) +
      match step.run env s with
      | .ok t => madeCalls env t rest
      | .error _ => 0

/-- Those of them whose native action is executed. -/
def acceptedCalls (env : Env) : StateDb → List Step → ℕ
  | _, [] => 0
  | s, step :: rest =>
    (if step.isCall && callAccepted s then 1 else 0) +
      match step.run env s with
      | .ok t => acceptedCalls env t rest
      | .error _ => 0

/-- How many of the next calls the counter lets through. -/
def admitted : UInt8 → ℕ → ℕ
  | _, 0 => 0
  | counter, calls + 1 =>
    (if counter + 1 > maxPrecompileCalls then 0 else 1) + admitted (counter + 1) calls

section

variable {env : Env} {s t : StateDb}

theorem callAccepted_eq (s : StateDb) :
    callAccepted s = decide (¬ s.precompileCallsCounter + 1 > maxPrecompileCalls) := by
  obtain ⟨shape, copies⟩ := getCacheContext_eq s
  unfold callAccepted
  rcases cached : getCacheContext s with ⟨cache, u⟩
  rw [cached] at shape copies
  simp only at shape copies
  subst shape
  simp only [multiStoreSnapshot, addPrecompileFn, append]
  by_cases reached : s.precompileCallsCounter + 1 > maxPrecompileCalls
  · simp [reached]
  · simp [reached]

theorem Step.run_counter {step : Step} (success : step.run env s = .ok t) :
    t.precompileCallsCounter = if step.isCall then s.precompileCallsCounter + 1 else s.precompileCallsCounter := by
  cases step with
  | precompile p =>
    obtain ⟨⟨u, err⟩, ran, rfl⟩ := map_ok success
    exact runNativeAction_counter ran
  | op op =>
    change op.run env s = .ok t at success
    by_cases back : ∃ revid, op = .revertToSnapshot revid
    · obtain ⟨revid, rfl⟩ := back
      exact revertToSnapshot_counter success
    · exact (Op.run_aside success fun revid same => back ⟨revid, same⟩).counter

/-- What is let through depends on the number of calls alone. -/
theorem acceptedCalls_eq (env : Env) (s : StateDb) (steps : List Step) :
    acceptedCalls env s steps = admitted s.precompileCallsCounter (madeCalls env s steps) := by
  induction steps generalizing s with
  | nil => rfl
  | cons step rest ih =>
    unfold acceptedCalls madeCalls
    rw [callAccepted_eq]
    cases ran : step.run env s with
    | error panic =>
      cases step with
      | op op => rfl
      | precompile p =>
        simp only [Step.isCall, Bool.true_and, decide_eq_true_eq, if_true, ite_not, admitted, Nat.add_zero]
    | ok t =>
      have counter := Step.run_counter ran
      dsimp only
      rw [ih t, counter]
      cases step with
      | op op =>
        simp only [Step.isCall, Bool.false_and, Bool.false_eq_true, if_false, Nat.zero_add]
      | precompile p =>
        simp only [Step.isCall, Bool.true_and, decide_eq_true_eq, if_true, ite_not]
        rw [Nat.add_comm 1, admitted]

theorem admitted_mono (counter : UInt8) {fewer more : ℕ} (le : fewer ≤ more) :
    admitted counter fewer ≤ admitted counter more := by
  induction fewer generalizing counter more with
  | zero => exact Nat.zero_le _
  | succ fewer ih =>
    obtain ⟨more, rfl⟩ := Nat.exists_eq_succ_of_ne_zero (by omega : more ≠ 0)
    have rest := ih (counter + 1) (by omega : fewer ≤ more)
    simp only [admitted]
    omega

/-- A transaction executes at most the maximal number of native actions exactly when it
makes fewer than 256 calls: the call that brings the counter back to zero goes through. -/
theorem acceptedCalls_le_iff (env : Env) {ctx : Context} {txConfig : TxConfig}
    {preparation : Option Preparation} (started : begin ctx txConfig preparation = .ok s) (steps : List Step) :
    acceptedCalls env s steps ≤ maxPrecompileCalls.toNat ↔ madeCalls env s steps < 256 := by
  have counter : s.precompileCallsCounter = 0 := (begin_aside started).counter
  rw [acceptedCalls_eq, counter]
  have full : admitted 0 255 = maxPrecompileCalls.toNat := by decide +kernel
  have exceeded : admitted 0 256 = maxPrecompileCalls.toNat + 1 := by decide +kernel
  constructor
  · intro few
    by_contra many
    have more := admitted_mono 0 (not_lt.mp many)
    omega
  · intro few
    have fewer := admitted_mono 0 (by omega : madeCalls env s steps ≤ 255)
    omega

end

/-! A contract that goes on calling. -/

/-- A precompile without effect. -/
def noop : Precompile := ⟨fun ctx => .ok (ctx, none), false⟩

def callingStart : StateDb := new ⟨emptyStore, []⟩ ⟨zeroHash, 0⟩

theorem callingStart_begin : begin ⟨emptyStore, []⟩ ⟨zeroHash, 0⟩ none = .ok callingStart := rfl

/-- After twenty calls the contract goes on; the frame of each rejected call is reverted. -/
def callingSteps : List Step :=
  List.replicate 20 (.precompile noop) ++
    (List.range 235).flatMap (fun id => [.op .snapshot, .precompile noop, .op (.revertToSnapshot id)]) ++
    [.precompile noop]

theorem acceptedCalls_le_iff_rejected :
    acceptedCalls toyEnv callingStart (callingSteps.take 26) ≤ maxPrecompileCalls.toNat :=
  (acceptedCalls_le_iff toyEnv callingStart_begin _).mpr (by decide +kernel)

theorem callingSteps_accepted :
    begin ⟨emptyStore, []⟩ ⟨zeroHash, 0⟩ none = .ok callingStart ∧
      acceptedCalls toyEnv callingStart callingSteps = maxPrecompileCalls.toNat + 1 := by
  refine ⟨callingStart_begin, ?_⟩
  decide +kernel

end OgEvm.StateDb
