import OgEvm.StateDbAside
import OgEvm.StateDbPersist

/- Properties of the stores a transaction works on: the context it will write to, the
cache context and the copies that a revert can bring back. A property that every write
of an object keeps holds in all of them. -/
namespace OgEvm.StateDb

open ExceptFacts Layers

variable {env : Env} {s t : StateDb} {good : VmStore → Prop}

/-- Undoing an entry leaves the copies of the multistore alone or goes back to one. -/
theorem revertEntry_copies {entry : JournalEntry} (success : revertEntry env s entry = .ok t) :
    cacheCopies t = cacheCopies s ∨ ∃ index, (cacheCopies s).truncate index = some (cacheCopies t) := by
  have found {addr : Address} {undo : StateObject → StateObject}
      (success : revertObject env s addr undo = .ok t) : cacheCopies t = cacheCopies s := by
    obtain ⟨obj, u, loading, rfl⟩ := revertObject_ok success
    exact ((loading_aside loading).set _).cacheCopies
  cases entry with
  | balanceChange account prev => exact Or.inl (found success)
  | nonceChange account prev => exact Or.inl (found success)
  | storageChange account key preValue origValue => exact Or.inl (found success)
  | codeChange account prevcode prevhash => exact Or.inl (found success)
  | createContractChange account => exact Or.inl (found success)
  | selfDestructChange account prev prevbalance =>
    unfold revertEntry at success
    rcases loading : getStateObject env s account with ⟨_ | obj, u⟩ <;>
      simp only [loading] at success <;> cases success
    · exact Or.inl (loading_aside loading).cacheCopies
    · exact Or.inl ((loading_aside loading).set _).cacheCopies
  | addLogChange =>
    unfold revertEntry at success
    dsimp only at success
    split at success
    · cases success
    · cases success
      exact Or.inl rfl
  | accessListAddSlotChange address slot =>
    obtain ⟨al, -, rfl⟩ := map_ok success
    exact Or.inl rfl
  | precompileCallChange snapshot events =>
    change revertMultiStore s snapshot events = .ok t at success
    unfold revertMultiStore at success
    split at success
    · cases success
    rename_i cache held
    split at success
    · cases success
    split at success
    · cases success
    · rename_i copies back
      cases success
      refine Or.inr ⟨snapshot.toNat, ?_⟩
      simp only [cacheCopies, held, Option.map_some, Option.getD_some]
      exact back
  | _ =>
    cases success
    exact Or.inl rfl

/-- Writing the object takes a store with the property to one. -/
def WriteKeeps (good : VmStore → Prop) (env : Env) (keepDirty : Bool) (obj : StateObject) : Prop :=
  ∀ ctx after changed, good ctx.store → commitObject env keepDirty ctx obj = .ok (after, changed) →
    good after.store

/-- So does writing every dirty object. -/
def DirtyKeeps (good : VmStore → Prop) (env : Env) (keepDirty : Bool) (s : StateDb) : Prop :=
  ∀ addr ∈ s.journal.dirties, ∀ obj, s.stateObjects addr = some obj → WriteKeeps good env keepDirty obj

/-- Also if the loop stops at an error with what is written so far. -/
theorem commitObjects_keeps {keepDirty : Bool} {ctx after : Context} (addressed : Addressed s)
    {addrs : List Address} (distinct : addrs.Nodup)
    (keeps : ∀ addr ∈ addrs, ∀ obj, s.stateObjects addr = some obj → WriteKeeps good env keepDirty obj)
    (holds : good ctx.store) {err : Option GoError}
    (success : commitObjects env keepDirty addrs s ctx = .ok (t, after, err)) : good after.store := by
  induction addrs generalizing s ctx with
  | nil =>
    cases success
    exact holds
  | cons addr rest ih =>
    obtain ⟨fresh, distinct⟩ := List.nodup_cons.mp distinct
    unfold commitObjects at success
    split at success
    · cases success
    rename_i obj found
    split at success
    · cases success
    · cases success
      exact holds
    · rename_i middle changed written
      have place := (commitObject_rest written).1.trans (addressed addr obj found)
      refine ih (addressed_setStateObject addressed changed) distinct ?_
        (keeps addr List.mem_cons_self obj found ctx middle changed holds written) success
      intro other later held there
      have apart : other ≠ changed.address := by
        rw [place]
        rintro rfl
        exact fresh later
      simp only [setStateObject, Function.update_of_ne apart] at there
      exact keeps other (List.mem_cons_of_mem _ later) held there

/-! Runs. -/

theorem revertToSnapshot_copies {revid : ℤ} (all : (cacheCopies s).All good)
    (success : revertToSnapshot env s revid = .ok t) : (cacheCopies t).All good := by
  refine revertToSnapshot_invariant (fun x => (cacheCopies x).All good) ?_ (fun _ => all) (fun _ _ held => held)
    success
  intro x y rest entry held entries reverted
  obtain ⟨z, back, rfl⟩ := revertLast_ok reverted
  rcases revertEntry_copies back with same | ⟨index, truncated⟩
  · exact same ▸ held
  · exact held.truncate truncated

theorem enterPrecompile_copies (addressed : Addressed s) (all : (cacheCopies s).All good)
    (keeps : DirtyKeeps good env true s) {err : Option GoError}
    (success : enterPrecompile env s = .ok (t, err)) : (cacheCopies t).All good := by
  have pushed : (cacheCopies (journalCall s)).All good := all.push
  rcases enterPrecompile_cases success with ⟨rfl, -⟩ | ⟨cache, u, ctx, held, flushed, rfl⟩
  · exact pushed
  · have same : cacheCopies (journalCall s) = cache.copies := by
      simp only [cacheCopies, held, Option.map_some, Option.getD_some]
    rw [same] at pushed
    refine ⟨?_, pushed.saved⟩
    have kept : Addressed (journalCall s) := addressed
    have start : good cache.context.store := pushed.current
    refine commitObjects_keeps kept (sortedDirties_nodup _) ?_ start flushed
    intro addr dirty obj found
    rw [mem_sortedDirties] at dirty
    exact keeps addr dirty obj found

/-- The precompile's own writes keep the property. -/
def ActionKeeps (good : VmStore → Prop) (p : Precompile) : Prop :=
  ∀ ctx after failed, good ctx.store → p.action ctx = .ok (after, failed) → good after.store

theorem runNativeAction_copies (addressed : Addressed s) (all : (cacheCopies s).All good)
    (keeps : DirtyKeeps good env true s) {p : Precompile} (acts : ActionKeeps good p)
    {err : Option GoError} (success : runNativeAction env p s = .ok (t, err)) : (cacheCopies t).All good := by
  rcases runNativeAction_cases success with ⟨-, began⟩ | ⟨u, ctx, failed, events, began, acted, -, rfl⟩
  · exact enterPrecompile_copies addressed all keeps began
  · have entered := enterPrecompile_copies addressed all keeps began
    rw [(afterEvents_aside env events _).cacheCopies]
    unfold cacheCopies withCacheContext at *
    unfold cacheContext at acted
    cases held : u.cacheCtx with
    | none =>
      rw [held] at entered
      exact entered
    | some cache =>
      rw [held] at entered acted
      have written := acts cache.context ctx failed entered.current acted
      exact ⟨written, entered.saved⟩

/-- A call flushes and acts so that the property is kept. -/
def StepKeeps (good : VmStore → Prop) (env : Env) (s : StateDb) (step : Step) : Prop :=
  ∀ p, step = .precompile p → DirtyKeeps good env true s ∧ ActionKeeps good p

/-- Step. -/
theorem step_copies (addressed : Addressed s) (all : (cacheCopies s).All good) {step : Step}
    (keeps : StepKeeps good env s step) (success : step.run env s = .ok t) : (cacheCopies t).All good := by
  cases step with
  | precompile p =>
    obtain ⟨flushes, acts⟩ := keeps p rfl
    obtain ⟨⟨u, err⟩, ran, rfl⟩ := map_ok success
    exact runNativeAction_copies addressed all flushes acts ran
  | op op =>
    by_cases back : ∃ revid, op = .revertToSnapshot revid
    · obtain ⟨revid, rfl⟩ := back
      exact revertToSnapshot_copies all success
    · rw [(Op.run_aside success (not_exists.mp back)).cacheCopies]
      exact all

/-- Every step of the run keeps the property in the state it finds. -/
def RunKeeps (good : VmStore → Prop) (env : Env) : StateDb → List Step → Prop
  | _, [] => True
  | s, step :: rest => StepKeeps good env s step ∧ ∀ t, step.run env s = .ok t → RunKeeps good env t rest

/-- Run. -/
theorem runSteps_copies {marks : ℤ → View} (everywhere : Everywhere env marks s)
    (all : (cacheCopies s).All good) {steps : List Step} (keeps : RunKeeps good env s steps)
    (ran : runSteps env s steps = .ok t) : (cacheCopies t).All good := by
  induction steps generalizing s marks with
  | nil =>
    cases ran
    exact all
  | cons step rest ih =>
    rw [runSteps, List.foldlM_cons] at ran
    obtain ⟨middle, stepped, remaining⟩ := bind_ok ran
    obtain ⟨later, kept, -, -⟩ := everywhere.step stepped (admissible_noSlot env s step)
    exact ih kept (step_copies everywhere.addressed all keeps.1 stepped) (keeps.2 middle stepped) remaining

theorem begin_copies {ctx : Context} {txConfig : TxConfig} {preparation : Option Preparation}
    (started : begin ctx txConfig preparation = .ok s) (holds : good ctx.store) : (cacheCopies s).All good := by
  rw [(begin_aside started).cacheCopies]
  exact ⟨holds, by simp [cacheCopies, new]⟩

/-- Commit. -/
theorem commit_keeps (addressed : Addressed s) (holds : good (cacheCopies s).current)
    (keeps : DirtyKeeps good env false s) {err : Option GoError}
    (success : commit env s = .ok (t, err)) : good t.ctx.store := by
  obtain ⟨store, objects, journal⟩ := written_eq s
  obtain ⟨u, ctx, done, rfl⟩ := commit_ok success
  have kept : Addressed (written s) := by
    intro other obj found
    rw [objects] at found
    exact addressed other obj found
  refine commitObjects_keeps kept (sortedDirties_nodup _) ?_ (store ▸ holds) done
  intro addr dirty obj found
  rw [mem_sortedDirties] at dirty
  rw [objects] at found
  exact keeps addr dirty obj found

end OgEvm.StateDb
