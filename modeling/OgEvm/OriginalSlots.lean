import OgEvm.NoLostWrite

/- The original value of a slot, which the gas rules of SSTORE compare with. It is read
from the same cache that the flush before a precompile call uses as the baseline of the
next flush, so it stays what the keeper had at the start only while no call finds a
pending change of the slot. -/
namespace OgEvm.StateDb

open ExceptFacts

/-- The steps of a transaction that write storage or flush it. -/
def Step.Writes : Step → Prop
  | .op (.setState _ _ _) => True
  | .precompile _ => True
  | _ => False

section

variable {env : Env} {s t : StateDb} {addr : Address} {key : Hash}

theorem getCommittedState_fst (env : Env) (s : StateDb) (addr : Address) (key : Hash) :
    (getCommittedState env s addr key).1 = ((slots env s addr).map fun x => x.committed key).getD zeroHash := by
  rcases loading : getStateObject env s addr with ⟨_ | obj, t⟩
  · simp [getCommittedState, loading, (getStateObject_slots loading).2]
  · simp only [getCommittedState, loading, (getStateObject_slots loading).2, Option.map_some, Option.getD_some]
    rw [objectCommittedState_fst, (loading_cached noSlot loading).store]
    rfl

/-- The account exists and its slot shows the given original value. -/
structure Shows (env : Env) (addr : Address) (key original : Hash) (s : StateDb) : Prop where
  sound : Sound s
  committed : (slots env s addr).map (fun x => x.committed key) = some original

variable {original : Hash}

theorem Shows.read (shows : Shows env addr key original s) : (getCommittedState env s addr key).1 = original := by
  rw [getCommittedState_fst, shows.committed]
  rfl

theorem quiet_committed (quiet : Quiet env s t)
    (held : (slots env s addr).map (fun x => x.committed key) = some original) :
    (slots env t addr).map (fun x => x.committed key) = some original := by
  rcases quiet.slots addr with same | ⟨absent, -⟩
  · rw [same, held]
  · rw [absent] at held
    cases held

section

variable (shows : Shows env addr key original s)

include shows

/-- A write changes what is dirty, never what is committed. -/
theorem Shows.setState (other : Address) (slot value : Hash) :
    Shows env addr key original (setState env s other slot value).2 := by
  have change : Journaled env noSlot s (StateDb.setState env s other slot value).2 :=
    run_journaled shows.sound (show (Op.setState other slot value).run env s = .ok _ from rfl) (by simp)
  refine ⟨change.sound, ?_⟩
  obtain ⟨u, x, loading, held, outcome⟩ := setState_slots env shows.sound.addressed other slot value
  have before := quiet_committed loading shows.committed
  rcases outcome with ⟨-, quiet⟩ | ⟨-, -, -, -, written⟩
  · exact quiet_committed quiet before
  · rw [written]
    by_cases here : addr = other
    · subst here
      rw [Function.update_self]
      rw [held] at before
      exact before
    · rw [Function.update_of_ne here]
      exact before

/-- A call that finds no pending change of the slot flushes none. -/
theorem Shows.enterPrecompile (settled : (getState env s addr key).1 = (getCommittedState env s addr key).1)
    {err : Option GoError} (success : enterPrecompile env s = .ok (t, err)) : Shows env addr key original t := by
  have inside : oneSlot addr key addr key = true := by simp [oneSlot]
  have entered := enterPrecompile_entered shows.sound (calm_oneSlot shows.sound.addressed settled) success
  have sound := entered.sound shows.sound
  have objects : (view env (oneSlot addr key) t).objects = (view env (oneSlot addr key) s).objects := by
    have same := congrArg View.objects entered.view
    exact same
  have shown : (getCommittedState env t addr key).1 = original := by
    rw [getCommittedState_view sound.addressed inside, objects,
      ← getCommittedState_view shows.sound.addressed inside, shows.read]
  refine ⟨sound, ?_⟩
  cases held : slots env t addr with
  | none =>
    have absent := shows.committed
    rw [slots_none_iff (oneSlot addr key), objects, ← slots_none_iff (oneSlot addr key)] at held
    rw [held] at absent
    cases absent
  | some x =>
    rw [getCommittedState_fst, held] at shown
    exact congrArg some shown

theorem Shows.precompile {p : Precompile}
    (settled : (getState env s addr key).1 = (getCommittedState env s addr key).1) {err : Option GoError}
    (success : runNativeAction env p s = .ok (t, err)) : Shows env addr key original t := by
  rcases runNativeAction_cases success with ⟨-, began⟩ | ⟨u, ctx, failed, events, began, -, -, rfl⟩
  · exact shows.enterPrecompile settled began
  · have entered := shows.enterPrecompile settled began
    have still : Sound (withCacheContext u ctx) := ⟨entered.sound.addressed, entered.sound.accessList⟩
    have acted : (slots env (withCacheContext u ctx) addr).map (fun x => x.committed key) = some original :=
      entered.committed
    refine ⟨(runNativeAction_journaled shows.sound (calm_noSlot env s) success).sound, ?_⟩
    exact quiet_committed (afterEvents_quiet still events) acted

/-- Step: a write, or a call that finds the slot settled. -/
theorem Shows.step {step : Step} (writes : step.Writes)
    (settled : ∀ p, step = .precompile p → (getState env s addr key).1 = (getCommittedState env s addr key).1)
    (success : step.run env s = .ok t) : Shows env addr key original t := by
  cases step with
  | precompile p =>
    obtain ⟨⟨u, err⟩, ran, rfl⟩ := map_ok success
    exact shows.precompile (settled p rfl) ran
  | op op =>
    cases op with
    | setState other slot value =>
      cases success
      exact shows.setState other slot value
    | _ => exact writes.elim

/-- Run: the slot shows its original value in every state on the way. -/
theorem Shows.runSteps {steps : List Step} (writes : ∀ step ∈ steps, step.Writes)
    (settled : SettledRun env addr key s steps) (count : ℕ) (ran : runSteps env s (steps.take count) = .ok t) :
    Shows env addr key original t := by
  induction steps generalizing s count with
  | nil =>
    rw [List.take_nil] at ran
    cases ran
    exact shows
  | cons step rest ih =>
    cases count with
    | zero =>
      cases ran
      exact shows
    | succ count =>
      rw [List.take_succ_cons, StateDb.runSteps, List.foldlM_cons] at ran
      obtain ⟨middle, stepped, remaining⟩ := bind_ok ran
      obtain ⟨first, others⟩ := List.forall_mem_cons.mp writes
      exact ih (shows.step first settled.1 stepped) others (settled.2 middle stepped) count remaining

end

/-- In every run of writes and precompile calls that find the slot settled, an account
that was there at the start shows the original value of the slot all the time. -/
theorem original_constant_of_settled {ctx : Context} {txConfig : TxConfig}
    {preparation : Option Preparation} {start : StateDb} {steps : List Step}
    (started : begin ctx txConfig preparation = .ok start)
    (existing : (exist env start addr).1 = true) (writes : ∀ step ∈ steps, step.Writes)
    (settled : SettledRun env addr key start steps) (count : ℕ)
    (ran : runSteps env start (steps.take count) = .ok s) :
    (getCommittedState env s addr key).1 = Keeper.getState ctx.store addr key := by
  obtain ⟨sound, -⟩ := begin_sound started
  rw [exist_fst] at existing
  obtain ⟨x, held⟩ := Option.isSome_iff_exists.mp existing
  have shows : Shows env addr key (Keeper.getState ctx.store addr key) start := by
    refine ⟨sound, ?_⟩
    rw [held, begin_fresh started held, (begin_empty started).1]
    rfl
  exact (shows.runSteps writes settled count ran).read

end

/-- A call before the writes. -/
def calledFirst : List Step := [.precompile idle, writeSlot 1, writeSlot 2]

theorem calledFirst_settled : SettledRun toyEnv (bytesToAddress [7]) zeroHash oneAccount calledFirst := by
  refine ⟨fun _ _ => by decide +kernel, fun _ _ => ⟨by simp [writeSlot], fun _ _ =>
    ⟨by simp [writeSlot], fun _ _ => trivial⟩⟩⟩

theorem original_constant_of_settled_calledFirst :
    ∃ s, runSteps toyEnv oneAccount calledFirst = .ok s ∧
      (getState toyEnv s (bytesToAddress [7]) zeroHash).1 = bytesToHash [2] ∧
      (getCommittedState toyEnv s (bytesToAddress [7]) zeroHash).1 = zeroHash := by
  have runs : ((runSteps toyEnv oneAccount calledFirst).map fun s =>
      (getState toyEnv s (bytesToAddress [7]) zeroHash).1).toOption = some (bytesToHash [2]) := by
    decide +kernel
  obtain ⟨s, ran, state⟩ := map_ok (toOption_some runs)
  have started : begin ⟨oneAccountStore (bytesToAddress [7]), []⟩ ⟨zeroHash, 0⟩ none =
    .ok oneAccount := rfl
  have writes : ∀ step ∈ calledFirst, step.Writes := by
    simp [calledFirst, writeSlot, Step.Writes]
  refine ⟨s, ran, state, ?_⟩
  exact original_constant_of_settled started (by decide +kernel) writes calledFirst_settled 3 ran

/-- The slot is zero in the keeper when the StateDB is created; after a write and a
precompile call its original value is reported as the one just written. -/
theorem original_moved :
    ∃ s, runSteps toyEnv oneAccount [writeSlot 1, .precompile idle] = .ok s ∧
      (exist toyEnv oneAccount (bytesToAddress [7])).1 = true ∧
      Keeper.getState oneAccount.ctx.store (bytesToAddress [7]) zeroHash = zeroHash ∧
      (getCommittedState toyEnv oneAccount (bytesToAddress [7]) zeroHash).1 = zeroHash ∧
      (getCommittedState toyEnv s (bytesToAddress [7]) zeroHash).1 = bytesToHash [1] := by
  have runs : ((runSteps toyEnv oneAccount [writeSlot 1, .precompile idle]).map fun s =>
      (getCommittedState toyEnv s (bytesToAddress [7]) zeroHash).1).toOption = some (bytesToHash [1]) := by
    decide +kernel
  obtain ⟨s, ran, committed⟩ := map_ok (toOption_some runs)
  exact ⟨s, ran, by decide +kernel, by decide +kernel, by decide +kernel, committed⟩

end OgEvm.StateDb
