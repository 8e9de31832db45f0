import OgEvm.StateDbHistory

/- `RevertToSnapshot` across precompile calls. The flush of a pending slot becomes
its origin, and the journal brings back the dirty value only, so a slot is restored
as long as no call since the snapshot has flushed a change of it. -/
namespace OgEvm.StateDb

open ExceptFacts

def oneSlot (addr : Address) (key : Hash) : Mask := fun other slot => other = addr && slot = key

/-- Every precompile call of the run finds the slot without a pending change. -/
def SettledRun (env : Env) (addr : Address) (key : Hash) : StateDb → List Step → Prop
  | _, [] => True
  | s, step :: rest =>
    (∀ p, step = .precompile p → (getState env s addr key).1 = (getCommittedState env s addr key).1) ∧
      ∀ t, step.run env s = .ok t → SettledRun env addr key t rest

section

variable {env : Env} {s t : StateDb} {addr : Address} {key : Hash}

theorem getState_view {mask : Mask} (addressed : Addressed s) (inside : mask addr key = true) :
    (getState env s addr key).1 = (((view env mask s).objects addr).map fun obj => obj.state key).getD zeroHash := by
  have within : (Query.getState addr key).Within mask := inside
  exact Answer.word.inj (ask_fst addressed within)

theorem getCommittedState_view {mask : Mask} (addressed : Addressed s) (inside : mask addr key = true) :
    (getCommittedState env s addr key).1 =
      (((view env mask s).objects addr).map fun obj => obj.committed key).getD zeroHash := by
  have within : (Query.getCommittedState addr key).Within mask := inside
  exact Answer.word.inj (ask_fst addressed within)

/-- Outside of the mask an object shows nothing. -/
theorem view_outside {mask : Mask} (addressed : Addressed s) {obj : ObjView}
    (found : (view env mask s).objects addr = some obj) (outside : mask addr key = false) :
    obj.state key = zeroHash ∧ obj.committed key = zeroHash := by
  rw [view_objects] at found
  obtain ⟨held, present, rfl⟩ := Option.map_eq_some_iff.mp found
  have home : held.address = addr := by
    cases live : s.stateObjects addr with
    | some cached =>
      rw [live, Option.some_or] at present
      rw [← Option.some.inj present]
      exact addressed addr cached live
    | none =>
      rw [live, Option.none_or, loaded] at present
      obtain ⟨account, -, rfl⟩ := Option.map_eq_some_iff.mp present
      rfl
  simp [objView, masked, home, outside]

theorem calm_oneSlot (addressed : Addressed s)
    (settled : (getState env s addr key).1 = (getCommittedState env s addr key).1) :
    Calm env (oneSlot addr key) s := by
  have inside : oneSlot addr key addr key = true := by simp [oneSlot]
  intro other obj found
  funext slot
  by_cases here : oneSlot addr key other slot
  · obtain ⟨rfl, rfl⟩ : other = addr ∧ slot = key := by simpa [oneSlot] using here
    rw [getState_view addressed inside, getCommittedState_view addressed inside, found] at settled
    exact settled
  · obtain ⟨state, committed⟩ := view_outside addressed found (Bool.eq_false_iff.mpr here)
    rw [state, committed]

theorem settledRun_calm {marks : ℤ → View} (everywhere : Everywhere env marks s) {steps : List Step}
    (settled : SettledRun env addr key s steps) : CalmRun env (oneSlot addr key) s steps := by
  induction steps generalizing s marks with
  | nil => trivial
  | cons step rest ih =>
    refine ⟨fun p same => calm_oneSlot everywhere.addressed (settled.1 p same), fun t ran => ?_⟩
    obtain ⟨later, kept, -, -⟩ := everywhere.step ran (admissible_noSlot env s step)
    exact ih kept (settled.2 t ran)

/-- A slot is restored if no precompile call since the snapshot found it pending. -/
theorem revertToSnapshot_exact_of_settled {ctx : Context} {txConfig : TxConfig}
    {preparation : Option Preparation} {start taken last : StateDb} {before after : List Step}
    (started : begin ctx txConfig preparation = .ok start)
    (earlier : runSteps env start before = .ok taken)
    (later : runSteps env (snapshot taken).2 after = .ok last)
    (settled : SettledRun env addr key (snapshot taken).2 after)
    (valid : Valid last (snapshot taken).1) :
    ∃ back, revertToSnapshot env last (snapshot taken).1 = .ok back ∧
      (getState env back addr key).1 = (getState env taken addr key).1 ∧
      (getCommittedState env back addr key).1 = (getCommittedState env taken addr key).1 := by
  have begun : Everywhere env (fun _ => view env noSlot start) start := begin_tracked started trivial
  obtain ⟨all, everywhere⟩ := everywhere_runSteps begun earlier
  obtain ⟨back, reverted, same⟩ := window_restores started earlier later
    (settledRun_calm everywhere.snapshot settled) valid
  have inside : oneSlot addr key addr key = true := by simp [oneSlot]
  exact ⟨back, reverted, Answer.word.inj (same (.getState addr key) inside),
    Answer.word.inj (same (.getCommittedState addr key) inside)⟩

end

/-- A store with one account and nothing else. -/
def oneAccountStore (addr : Address) : VmStore :=
  { emptyStore with accounts := fun other => if other = addr.toList then some ⟨0⟩ else none }

def oneAccount : StateDb := new ⟨oneAccountStore (bytesToAddress [7]), []⟩ ⟨zeroHash, 0⟩

def idle : Precompile := ⟨fun ctx => .ok (ctx, none), false⟩

/-- A call before the write, and a nested frame around a further write. -/
def settledSteps : List Step :=
  [.precompile idle, .op (.setState (bytesToAddress [7]) zeroHash (bytesToHash [1])), .op .snapshot,
    .op (.setState (bytesToAddress [7]) zeroHash (bytesToHash [2])), .op (.revertToSnapshot 1)]

theorem settledSteps_settled :
    SettledRun toyEnv (bytesToAddress [7]) zeroHash (snapshot oneAccount).2 settledSteps := by
  refine ⟨fun _ _ => by decide +kernel, fun _ _ => ⟨by simp, fun _ _ => ⟨by simp, fun _ _ =>
    ⟨by simp, fun _ _ => ⟨by simp, fun _ _ => trivial⟩⟩⟩⟩⟩

theorem revertToSnapshot_exact_of_settled_settledSteps :
    ∃ last back, runSteps toyEnv (snapshot oneAccount).2 settledSteps = .ok last ∧
      revertToSnapshot toyEnv last (snapshot oneAccount).1 = .ok back ∧
      (getState toyEnv back (bytesToAddress [7]) zeroHash).1 =
        (getState toyEnv oneAccount (bytesToAddress [7]) zeroHash).1 := by
  have runs : (do
      let last ← runSteps toyEnv (snapshot oneAccount).2 settledSteps
      pure (decide (Valid last (snapshot oneAccount).1))).toOption = some true := by
    decide +kernel
  obtain ⟨last, later, valid⟩ := bind_ok (toOption_some runs)
  have started : begin ⟨oneAccountStore (bytesToAddress [7]), []⟩ ⟨zeroHash, 0⟩ none =
    .ok oneAccount := rfl
  have earlier : runSteps toyEnv oneAccount [] = .ok oneAccount := rfl
  obtain ⟨back, reverted, same, -⟩ := revertToSnapshot_exact_of_settled started earlier later
    settledSteps_settled (of_decide_eq_true (Except.ok.inj valid))
  exact ⟨last, back, later, reverted, same⟩

/-- A write that is pending when a precompile is called. -/
def pendingSteps : List Step :=
  [.op (.setState (bytesToAddress [7]) zeroHash (bytesToHash [1])), .precompile idle]

/-- The account is there from the start and its slot is zero; after the revert the slot
shows the value that was flushed. -/
theorem revertToSnapshot_after_flush :
    ∃ last back, (exist toyEnv oneAccount (bytesToAddress [7])).1 = true ∧
      runSteps toyEnv (snapshot oneAccount).2 pendingSteps = .ok last ∧
      Valid last (snapshot oneAccount).1 ∧
      revertToSnapshot toyEnv last (snapshot oneAccount).1 = .ok back ∧
      (getState toyEnv oneAccount (bytesToAddress [7]) zeroHash).1 = zeroHash ∧
      (getCommittedState toyEnv oneAccount (bytesToAddress [7]) zeroHash).1 = zeroHash ∧
      (getState toyEnv back (bytesToAddress [7]) zeroHash).1 = bytesToHash [1] ∧
      (getCommittedState toyEnv back (bytesToAddress [7]) zeroHash).1 = bytesToHash [1] := by
  have runs : (do
      let last ← runSteps toyEnv (snapshot oneAccount).2 pendingSteps
      let back ← revertToSnapshot toyEnv last (snapshot oneAccount).1
      pure (decide (Valid last (snapshot oneAccount).1),
        (getState toyEnv back (bytesToAddress [7]) zeroHash).1,
        (getCommittedState toyEnv back (bytesToAddress [7]) zeroHash).1)).toOption =
          some (true, bytesToHash [1], bytesToHash [1]) := by
    decide +kernel
  obtain ⟨last, later, rest⟩ := bind_ok (toOption_some runs)
  obtain ⟨back, reverted, shown⟩ := bind_ok rest
  obtain ⟨valid, state, committed⟩ := Prod.mk.inj (Except.ok.inj shown) |>.imp_right Prod.mk.inj
  exact ⟨last, back, by decide +kernel, later, of_decide_eq_true valid, reverted,
    by decide +kernel, by decide +kernel, state, committed⟩

end OgEvm.StateDb
