import OgEvm.RevertAcrossFlush
import OgEvm.StorageJournal

/- No storage write is lost, as long as no revert takes flushed storage out of the
cache context: what is committed in an object is then what the cache context holds,
so a slot reaches the keeper through the cache or through its dirty value. -/
namespace OgEvm.StateDb

open ExceptFacts Function Layers UndoLog

/-- What is committed in an account is what a store holds; an account that does not
exist has what the transaction's context holds. -/
structure Agrees (env : Env) (s : StateDb) (store : VmStore) : Prop where
  committed : ∀ addr x, slots env s addr = some x → ∀ key, x.committed key = Keeper.getState store addr key
  absent : ∀ addr, slots env s addr = none → ∀ key,
    Keeper.getState s.ctx.store addr key = Keeper.getState store addr key

/-- The part of the agreement that a revert brings back. -/
def AbsentAgrees (v : View) : Prop :=
  ∀ addr, v.objects addr = none → ∀ key,
    Keeper.getState v.base addr key = Keeper.getState v.copies.current addr key

structure Coherent (env : Env) (marks : ℤ → View) (s : StateDb) : Prop where
  tracked : Tracked env noSlot AbsentAgrees (fun _ => True) marks s
  booked : Booked env s
  agrees : Agrees env s (cacheCopies s).current

section

variable {env : Env} {marks : ℤ → View} {s t : StateDb} {store after : VmStore}

theorem slots_none_iff (mask : Mask) (addr : Address) :
    slots env s addr = none ↔ (view env mask s).objects addr = none := by
  rw [slots, view_objects, Option.map_eq_none_iff, Option.map_eq_none_iff]

theorem Agrees.absentAgrees (agrees : Agrees env s (cacheCopies s).current) (mask : Mask) :
    AbsentAgrees (view env mask s) :=
  fun addr absent => agrees.absent addr ((slots_none_iff mask addr).mpr absent)

theorem Agrees.quiet (agrees : Agrees env s store) (quiet : Quiet env s t) : Agrees env t store where
  committed := by
    intro addr x found key
    rcases quiet.slots addr with same | ⟨none_yet, fresh⟩
    · rw [same] at found
      exact agrees.committed addr x found key
    · rw [fresh] at found
      rw [← Option.some.inj found]
      exact agrees.absent addr none_yet key
  absent := by
    intro addr absent key
    rw [quiet.ctx]
    rcases quiet.slots addr with same | ⟨-, fresh⟩
    · rw [same] at absent
      exact agrees.absent addr absent key
    · rw [fresh] at absent
      cases absent

theorem Quiet.cacheCopies (quiet : Quiet env s t) : cacheCopies t = cacheCopies s := by
  unfold StateDb.cacheCopies
  rw [quiet.cacheCtx, quiet.ctx]

theorem setState_contexts (env : Env) (addressed : Addressed s) (addr : Address) (key value : Hash) :
    (setState env s addr key value).2.ctx = s.ctx ∧
      cacheCopies (setState env s addr key value).2 = cacheCopies s := by
  obtain ⟨u, x, loading, -, outcome⟩ := setState_slots env addressed addr key value
  rcases outcome with ⟨-, quiet⟩ | ⟨-, ctx, cacheCtx, -, -⟩
  · exact ⟨quiet.ctx.trans loading.ctx, quiet.cacheCopies.trans loading.cacheCopies⟩
  · refine ⟨ctx.trans loading.ctx, ?_⟩
    rw [← loading.cacheCopies]
    unfold StateDb.cacheCopies
    rw [cacheCtx, ctx]

theorem Coherent.quiet (coherent : Coherent env marks s) (change : Journaled env noSlot s t)
    (quiet : Quiet env s t) : Coherent env marks t := by
  have agrees : Agrees env t (cacheCopies t).current := by
    rw [quiet.cacheCopies]
    exact coherent.agrees.quiet quiet
  exact ⟨coherent.tracked.journaled change (agrees.absentAgrees noSlot), coherent.booked.quiet quiet, agrees⟩

theorem Coherent.setState (coherent : Coherent env marks s) (addr : Address) (key value : Hash) :
    Coherent env marks (setState env s addr key value).2 := by
  have change : Journaled env noSlot s (StateDb.setState env s addr key value).2 :=
    run_journaled coherent.tracked.sound (show (Op.setState addr key value).run env s = .ok _ from rfl) (by simp)
  obtain ⟨u, x, loading, held, outcome⟩ :=
    setState_slots env coherent.tracked.addressed addr key value
  rcases outcome with ⟨-, quiet⟩ | ⟨-, ctx, -, journal, written⟩
  · exact coherent.quiet change (loading.trans quiet)
  · have before := coherent.agrees.quiet loading
    have copies := (setState_contexts env coherent.tracked.addressed addr key value).2
    have agrees : Agrees env (StateDb.setState env s addr key value).2 (cacheCopies s).current := by
      refine ⟨?_, ?_⟩
      · intro other y found slot
        rw [written] at found
        by_cases here : other = addr
        · subst here
          rw [update_self] at found
          rw [← Option.some.inj found]
          exact before.committed other x held slot
        · rw [update_of_ne here] at found
          exact before.committed other y found slot
      · intro other absent slot
        rw [written] at absent
        rw [ctx]
        by_cases here : other = addr
        · subst here
          rw [update_self] at absent
          cases absent
        · rw [update_of_ne here] at absent
          exact before.absent other absent slot
    rw [← copies] at agrees
    exact ⟨coherent.tracked.journaled change (agrees.absentAgrees noSlot),
      (coherent.booked.quiet loading).write held ctx journal written, agrees⟩

theorem Coherent.snapshot (coherent : Coherent env marks s) : ∃ later, Coherent env later (snapshot s).2 :=
  ⟨_, coherent.tracked.snapshot, ⟨coherent.booked.plain, coherent.booked.pending, coherent.booked.proper⟩,
    ⟨coherent.agrees.committed, coherent.agrees.absent⟩⟩

/-! Reverts. -/

/-- What undoing the journal down to the snapshot gives back has the storage of the cache
context for the accounts that exist there. -/
def StableRevert (env : Env) (s : StateDb) (revid : ℤ) : Prop :=
  ∀ revision ∈ s.validRevisions, revision.id = revid → ∀ earlier,
    Undoes (undoView env noSlot) s.journal.entries revision.journalIndex (view env noSlot s) earlier →
    ∀ addr, earlier.objects addr ≠ none → ∀ key,
      Keeper.getState earlier.copies.current addr key = Keeper.getState (cacheCopies s).current addr key

theorem exist_fst (env : Env) (s : StateDb) (addr : Address) : (exist env s addr).1 = (slots env s addr).isSome := by
  rcases loading : getStateObject env s addr with ⟨found, t⟩
  simp [exist, loading, (getStateObject_slots loading).2]

theorem Coherent.revertToSnapshot (coherent : Coherent env marks s) {revid : ℤ}
    (success : revertToSnapshot env s revid = .ok t) (stable : StableRevert env s revid) : Coherent env marks t := by
  obtain ⟨tracked, kept⟩ : Tracked env noSlot AbsentAgrees (fun _ => True) marks t ∧
      ∀ addr, slots env t addr ≠ none → ∀ key, Keeper.getState (cacheCopies t).current addr key =
        Keeper.getState (cacheCopies s).current addr key := by
    obtain ⟨index, inside, rfl⟩ := revertToSnapshot_valid success
    have member := List.getElem_mem inside
    obtain ⟨back, same, shown, after, -, -⟩ := coherent.tracked.revertToSnapshot inside trivial
    rw [success] at same
    cases same
    have reach := coherent.tracked.history.reach _ member trivial
    rw [← shown] at reach
    exact ⟨after, fun addr present => stable _ member rfl _ reach addr fun absent =>
      present ((slots_none_iff noSlot addr).mpr absent)⟩
  obtain ⟨idx, revision, u, found, reverted, -, rfl⟩ := revertToSnapshot_ok success
  have entries : s.journal.entries = s.journal.entries.take revision.journalIndex ++
      (s.journal.entries.drop revision.journalIndex).reverse.reverse := by
    rw [List.reverse_reverse, List.take_append_drop]
  have start : Booked env { s with ctx := { s.ctx with events := revision.events } } :=
    ⟨coherent.booked.plain, coherent.booked.pending, coherent.booked.proper⟩
  obtain ⟨booked, same⟩ := start.replay coherent.tracked.addressed entries reverted
  refine ⟨tracked, ⟨booked.plain, booked.pending, booked.proper⟩, ?_, ?_⟩
  · intro addr y found key
    obtain ⟨x, held, equal⟩ := same addr y found
    rw [kept addr (by rw [found]; simp) key, equal]
    exact coherent.agrees.committed addr x held key
  · intro addr absent key
    exact tracked.history.present.2 addr ((slots_none_iff noSlot addr).mp absent) key

/-! Precompile calls. -/

/-- A change of what is committed only. -/
structure SameDirty (env : Env) (s t : StateDb) : Prop where
  ctx : t.ctx = s.ctx
  journal : t.journal = s.journal
  slots : ∀ addr y, slots env t addr = some y → ∃ x, slots env s addr = some x ∧
    y.dirty = x.dirty ∧ y.overridden = x.overridden ∧ y.selfDestructed = x.selfDestructed
  states : ∀ addr, (StateDb.slots env t addr).map Slots.state =
    (StateDb.slots env s addr).map Slots.state

theorem SameDirty.refl (env : Env) (s : StateDb) : SameDirty env s s :=
  ⟨rfl, rfl, fun _ y found => ⟨y, found, rfl, rfl, rfl⟩, fun _ => rfl⟩

theorem SameDirty.trans {u : StateDb} (first : SameDirty env s t) (second : SameDirty env t u) :
    SameDirty env s u := by
  refine ⟨second.ctx.trans first.ctx, second.journal.trans first.journal, ?_,
    fun addr => (second.states addr).trans (first.states addr)⟩
  intro addr z found
  obtain ⟨y, middle, dirty, overridden, destructed⟩ := second.slots addr z found
  obtain ⟨x, held, dirty', overridden', destructed'⟩ := first.slots addr y middle
  exact ⟨x, held, dirty.trans dirty', overridden.trans overridden', destructed.trans destructed'⟩

theorem SameDirty.booked (same : SameDirty env s t) (booked : Booked env s) : Booked env t :=
  booked.of_same_dirty (by rw [same.ctx]) same.journal same.slots

/-- Flushing one object makes its present slots the committed ones on both sides. -/
theorem commitObject_agrees (addressed : Addressed s) (booked : Booked env s)
    {ctx written : Context} (agrees : Agrees env s ctx.store) {addr : Address}
    {obj changed : StateObject} (found : s.stateObjects addr = some obj)
    (success : commitObject env true ctx obj = .ok (written, changed)) :
    SameDirty env s (setStateObject s changed) ∧ Agrees env (setStateObject s changed) written.store := by
  obtain rfl := addressed addr obj found
  have held : slots env s obj.address = some (slotsOf s.ctx.store obj) := slots_live found
  obtain ⟨overridden, alive⟩ := booked.plain obj.address _ held
  have plain : obj.overrideStorage = none := by simpa [slotsOf] using overridden
  rcases commitObject_keep success with ⟨destructed, -⟩ | ⟨origins, rfl, lookup⟩
  · rw [show obj.selfDestructed = false from alive] at destructed
    cases destructed
  · have committed := committedOf_flushed s.ctx.store lookup plain
    have changedSlots : slots env (setStateObject s { obj with originStorage := origins }) =
        update (slots env s) obj.address
          (some (slotsOf s.ctx.store { obj with originStorage := origins })) :=
      slots_setStateObject env s { obj with originStorage := origins }
    refine ⟨⟨rfl, rfl, ?_, ?_⟩, ?_, ?_⟩
    · intro other y there
      rw [changedSlots] at there
      by_cases here : other = obj.address
      · subst here
        rw [update_self] at there
        rw [← Option.some.inj there]
        exact ⟨_, held, rfl, rfl, rfl⟩
      · rw [update_of_ne here] at there
        exact ⟨y, there, rfl, rfl, rfl⟩
    · intro other
      rw [changedSlots]
      by_cases here : other = obj.address
      · subst here
        rw [update_self, held, Option.map_some, Option.map_some]
        refine congrArg some (funext fun key => ?_)
        simp only [Slots.state, slotsOf]
        rw [committed key, stateOf]
        cases obj.dirtyStorage.lookup key <;> rfl
      · rw [update_of_ne here]
    · intro other y there key
      rw [changedSlots] at there
      by_cases here : other = obj.address
      · subst here
        rw [update_self] at there
        rw [← Option.some.inj there]
        rw [commitObject_own success alive key, ← agrees.committed obj.address _ held key]
        exact committed key
      · rw [update_of_ne here] at there
        rw [commitObject_other success here]
        exact agrees.committed other y there key
    · intro other absent key
      rw [changedSlots] at absent
      by_cases here : other = obj.address
      · subst here
        rw [update_self] at absent
        cases absent
      · rw [update_of_ne here] at absent
        rw [commitObject_other success here]
        exact agrees.absent other absent key

theorem commitObjects_agrees (addressed : Addressed s) (booked : Booked env s) {addrs : List Address}
    {ctx written : Context} {err : Option GoError} (agrees : Agrees env s ctx.store)
    (success : commitObjects env true addrs s ctx = .ok (t, written, err)) :
    SameDirty env s t ∧ Agrees env t written.store := by
  refine (commitObjects_invariant (fun u ctx => Addressed u ∧ SameDirty env s u ∧ Agrees env u ctx.store) success
    ⟨addressed, SameDirty.refl env _, agrees⟩ ?_).2
  rintro u ctx addr obj middle changed ⟨home, same, agreed⟩ found flushed
  obtain ⟨again, still⟩ := commitObject_agrees home (same.booked booked) agreed found flushed
  exact ⟨addressed_setStateObject home changed, same.trans again, still⟩

theorem journalCall_booked (booked : Booked env s) : Booked env (journalCall s) where
  plain := booked.plain
  pending := by
    intro addr x key found dirty
    obtain ⟨pre, orig, member⟩ := booked.pending addr x key found dirty
    exact ⟨pre, orig, List.mem_append_left _ member⟩
  proper := booked.proper.append (j := s.journal) trivial

theorem enterPrecompile_agrees (sound : Sound s) (booked : Booked env s)
    (agrees : Agrees env s (cacheCopies s).current) {err : Option GoError}
    (success : enterPrecompile env s = .ok (t, err)) : Booked env t ∧ Agrees env t (cacheCopies t).current ∧
      ∀ addr, (slots env t addr).map Slots.state = (slots env s addr).map Slots.state := by
  have begun := journalCall_booked booked
  have start : Agrees env (journalCall s) (cacheCopies s).current := ⟨agrees.committed, agrees.absent⟩
  rcases enterPrecompile_cases success with ⟨rfl, -⟩ | ⟨cache, u, ctx, held, committed, rfl⟩
  · exact ⟨begun, start, fun _ => rfl⟩
  · cases held
    have home : Addressed (journalCall s) := sound.addressed
    obtain ⟨same, agreed⟩ := commitObjects_agrees home begun start committed
    have kept := same.booked begun
    exact ⟨⟨kept.plain, kept.pending, kept.proper⟩, ⟨agreed.committed, agreed.absent⟩, same.states⟩

/-- The native action leaves the contract storage of a context as it finds it. -/
def KeepsStorageAt (action : NativeAction) (ctx : Context) : Prop :=
  ∀ after err, action ctx = .ok (after, err) → ∀ addr key,
    Keeper.getState after.store addr key = Keeper.getState ctx.store addr key

def KeepsStorage (action : NativeAction) : Prop := ∀ ctx, KeepsStorageAt action ctx

theorem cacheContext_store {cache : CacheCtx} (held : s.cacheCtx = some cache) :
    (cacheContext s).store = (cacheCopies s).current := by
  simp [cacheContext, cacheCopies, held, CacheCtx.context]

theorem cacheCopies_withCacheContext {cache : CacheCtx} (held : s.cacheCtx = some cache)
    (ctx : Context) : (cacheCopies (withCacheContext s ctx)).current = ctx.store := by
  simp [cacheCopies, withCacheContext, held, CacheCtx.withContext]

theorem withCacheContext_agrees {cache : CacheCtx} (held : s.cacheCtx = some cache) {ctx : Context}
    (agrees : Agrees env s (cacheCopies s).current) (same : ∀ addr key, Keeper.getState ctx.store addr key =
      Keeper.getState (cacheContext s).store addr key) :
    Agrees env (withCacheContext s ctx) (cacheCopies (withCacheContext s ctx)).current := by
  rw [cacheCopies_withCacheContext held]
  rw [cacheContext_store held] at same
  refine ⟨fun addr x found key => ?_, fun addr absent key => ?_⟩
  · rw [same]
    exact agrees.committed addr x found key
  · rw [same]
    exact agrees.absent addr absent key

theorem runNativeAction_agrees (sound : Sound s) (booked : Booked env s)
    (agrees : Agrees env s (cacheCopies s).current) {p : Precompile}
    (keeps : ∀ u, enterPrecompile env s = .ok (u, none) → KeepsStorageAt p.action (cacheContext u))
    {err : Option GoError} (success : runNativeAction env p s = .ok (t, err)) :
    Booked env t ∧ Agrees env t (cacheCopies t).current := by
  rcases runNativeAction_cases success with ⟨-, began⟩ | ⟨u, ctx, failed, events, began, acted, -, rfl⟩
  · obtain ⟨kept, agreed, -⟩ := enterPrecompile_agrees sound booked agrees began
    exact ⟨kept, agreed⟩
  · obtain ⟨kept, agreed, -⟩ := enterPrecompile_agrees sound booked agrees began
    have entered := enterPrecompile_entered sound (calm_noSlot env s) began
    obtain ⟨cache, held, -⟩ := entered.saved
    have changed : Booked env (withCacheContext u ctx) := ⟨kept.plain, kept.pending, kept.proper⟩
    have still := ((entered.withCacheContext ctx).journaled sound).sound
    have quiet : Quiet env (withCacheContext u ctx) _ := afterEvents_quiet still events
    refine ⟨changed.quiet quiet, ?_⟩
    rw [quiet.cacheCopies]
    exact (withCacheContext_agrees held agreed (keeps u began ctx failed acted)).quiet quiet

/-! Whole transactions. -/

/-- The steps whose effect on storage is covered. -/
def Step.Plain : Step → Prop
  | .op operation => operation.Plain
  | .precompile p => KeepsStorage p.action

/-- Every revert of the run is stable. -/
def StableReverts (env : Env) : StateDb → List Step → Prop
  | _, [] => True
  | s, step :: rest =>
    (∀ revid, step = .op (.revertToSnapshot revid) → StableRevert env s revid) ∧
      ∀ t, step.run env s = .ok t → StableReverts env t rest

theorem Coherent.step (coherent : Coherent env marks s) {step : Step} (plain : step.Plain)
    (success : step.run env s = .ok t)
    (stable : ∀ revid, step = .op (.revertToSnapshot revid) → StableRevert env s revid) :
    ∃ later, Coherent env later t := by
  cases step with
  | precompile p =>
    obtain ⟨⟨u, err⟩, ran, rfl⟩ := map_ok success
    have change := runNativeAction_journaled coherent.tracked.sound (calm_noSlot env s) ran
    obtain ⟨booked, agrees⟩ := runNativeAction_agrees coherent.tracked.sound coherent.booked
      coherent.agrees (fun u _ => plain (cacheContext u)) ran
    exact ⟨marks, coherent.tracked.journaled change (agrees.absentAgrees noSlot), booked, agrees⟩
  | op op =>
    change op.run env s = .ok t at success
    change op.Plain at plain
    cases op with
    | setState addr key value =>
      cases success
      exact ⟨marks, coherent.setState addr key value⟩
    | snapshot =>
      cases success
      exact coherent.snapshot
    | revertToSnapshot revid =>
      exact ⟨marks, coherent.revertToSnapshot success (stable revid rfl)⟩
    | _ =>
      refine ⟨marks, coherent.quiet (run_journaled coherent.tracked.sound success (by simp))
        (run_quiet coherent.tracked.addressed plain (by simp) success)⟩

theorem Coherent.runSteps (coherent : Coherent env marks s) {steps : List Step}
    (plain : ∀ step ∈ steps, step.Plain) (success : runSteps env s steps = .ok t)
    (stable : StableReverts env s steps) : ∃ later, Coherent env later t := by
  induction steps generalizing s marks with
  | nil =>
    cases success
    exact ⟨marks, coherent⟩
  | cons step rest ih =>
    rw [StateDb.runSteps, List.foldlM_cons] at success
    obtain ⟨middle, ran, remaining⟩ := bind_ok success
    obtain ⟨first, others⟩ := List.forall_mem_cons.mp plain
    obtain ⟨later, kept⟩ := coherent.step first ran stable.1
    exact ih kept others remaining (stable.2 middle ran)

section

variable {ctx : Context} {txConfig : TxConfig} {preparation : Option Preparation}
  (started : begin ctx txConfig preparation = .ok s)

include started

/-- The first state has no objects and no cache context. -/
theorem begin_fresh {addr : Address} {x : Slots} (found : slots env s addr = some x) :
    x = freshSlots s.ctx.store addr := by
  simp only [slots, (begin_empty started).2.2.1, Option.none_or, loaded, Option.map_map] at found
  obtain ⟨account, -, rfl⟩ := Option.map_eq_some_iff.mp found
  exact slotsOf_newObject s.ctx.store addr account

theorem begin_coherent : Coherent env marks s := by
  obtain ⟨-, cacheCtx, -, journal⟩ := begin_empty started
  have current : (cacheCopies s).current = s.ctx.store := by simp [cacheCopies, cacheCtx]
  have agrees : Agrees env s (cacheCopies s).current := by
    rw [current]
    refine ⟨fun addr x found key => ?_, fun _ _ _ => rfl⟩
    rw [begin_fresh started found]
    rfl
  refine ⟨begin_tracked started (agrees.absentAgrees noSlot), ⟨?_, ?_, ?_⟩, agrees⟩
  · intro addr x found
    rw [begin_fresh started found]
    exact ⟨rfl, rfl⟩
  · intro addr x key found dirty
    rw [begin_fresh started found] at dirty
    exact absurd rfl dirty
  · rw [journal]
    exact proper_new env s.ctx.store

end

theorem getState_fst (env : Env) (s : StateDb) (addr : Address) (key : Hash) :
    (getState env s addr key).1 = ((slots env s addr).map fun x => x.state key).getD zeroHash := by
  rcases loading : getStateObject env s addr with ⟨_ | obj, t⟩
  · simp [getState, loading, (getStateObject_slots loading).2]
  · simp only [getState, loading, (getStateObject_slots loading).2, Option.map_some, Option.getD_some]
    rw [objectState_fst, (loading_cached noSlot loading).store]
    rfl

/-- Every dirty slot is one of an account in the journal. -/
theorem Booked.dirty_eq (booked : Booked env s) {addr : Address} {x : Slots} (held : slots env s addr = some x)
    (key : Hash) : (if addr ∈ s.journal.dirties then
      (s.stateObjects addr).bind fun obj => obj.dirtyStorage.lookup key else none) = x.dirty.lookup key := by
  cases found : s.stateObjects addr with
  | none =>
    -- a loaded account has no dirty slots
    have clean : x.dirty = ∅ := by
      simp only [slots, found, Option.none_or, loaded, Option.map_map] at held
      obtain ⟨account, -, rfl⟩ := Option.map_eq_some_iff.mp held
      rfl
    simp [clean]
  | some obj =>
    obtain rfl : slotsOf s.ctx.store obj = x := by
      rw [slots_live found] at held
      exact Option.some.inj held
    cases pending : obj.dirtyStorage.lookup key with
    | none => simp [slotsOf, pending]
    | some value =>
      obtain ⟨pre, orig, member⟩ := booked.pending addr _ key held (by simp [slotsOf, pending])
      have dirty : addr ∈ s.journal.dirties := booked.proper.counted.mem member rfl
      simp [dirty, slotsOf, pending]

theorem Booked.alive (booked : Booked env s) {addr : Address} {obj : StateObject}
    (found : s.stateObjects addr = some obj) : obj.selfDestructed = false :=
  (booked.plain addr _ (slots_live found)).2

/-- `Commit` leaves in the keeper the present slots of every account that exists. -/
theorem commit_state (addressed : Addressed s) (booked : Booked env s)
    (agrees : Agrees env s (cacheCopies s).current) {final : StateDb}
    (committed : commit env s = .ok (final, none)) {addr : Address} {x : Slots}
    (held : slots env s addr = some x) (key : Hash) : Keeper.getState final.ctx.store addr key = x.state key := by
  rw [commit_getState addressed committed (fun _ found => booked.alive found),
    booked.dirty_eq held, ← agrees.committed addr x held key]
  rfl

/-- In a run whose reverts are stable, `Commit` leaves in the keeper what `GetState`
returned before. -/
theorem commit_persists_of_stable {ctx : Context} {txConfig : TxConfig}
    {preparation : Option Preparation} {start final : StateDb} {steps : List Step}
    (started : begin ctx txConfig preparation = .ok start)
    (plain : ∀ step ∈ steps, step.Plain) (ran : runSteps env start steps = .ok s)
    (stable : StableReverts env start steps) (committed : commit env s = .ok (final, none)) :
    ∀ addr key, (exist env s addr).1 = true →
      Keeper.getState final.ctx.store addr key = (getState env s addr key).1 := by
  intro addr key present
  have begun : Coherent env (fun _ => view env noSlot start) start := begin_coherent started
  obtain ⟨marks, coherent⟩ := begun.runSteps plain ran stable
  rw [exist_fst] at present
  obtain ⟨x, held⟩ := Option.isSome_iff_exists.mp present
  rw [commit_state coherent.tracked.addressed coherent.booked coherent.agrees committed held,
    getState_fst, held]
  rfl

end

def writeSlot (value : UInt8) : Step :=
  .op (.setState (bytesToAddress [7]) zeroHash (bytesToHash [value]))

/-- A frame that is undone, and a write on either side of a precompile call. -/
def stableSteps : List Step :=
  [.op .snapshot, writeSlot 1, .op (.revertToSnapshot 0), writeSlot 2, .precompile idle, writeSlot 3]

theorem idle_keepsStorage : KeepsStorage idle.action := by
  intro ctx after err success addr key
  cases success
  rfl

theorem stableSteps_stable : StableReverts toyEnv oneAccount stableSteps := by
  refine ⟨by simp, fun taken ran => ⟨by simp [writeSlot], fun pending wrote => ⟨?_, fun _ _ =>
    ⟨by simp [writeSlot], fun _ _ => ⟨by simp, fun _ _ => ⟨by simp [writeSlot], fun _ _ => trivial⟩⟩⟩⟩⟩⟩
  intro revid same revision valid number earlier undone addr _ key
  cases ran
  cases wrote
  have entries : ∃ account slot pre orig, (setState toyEnv (snapshot oneAccount).2 (bytesToAddress [7]) zeroHash
      (bytesToHash [1])).2.journal.entries = [.storageChange account slot pre orig] := ⟨_, _, _, _, rfl⟩
  obtain ⟨account, slot, pre, orig, entries⟩ := entries
  obtain rfl : revision = ⟨0, 0, []⟩ := List.mem_singleton.mp valid
  have undone := undone.undone
  rw [entries] at undone
  obtain ⟨obj, -, rfl⟩ := Option.map_eq_some_iff.mp undone
  rfl

theorem commit_persists_of_stable_stableSteps :
    ∃ s final, runSteps toyEnv oneAccount stableSteps = .ok s ∧
      commit toyEnv s = .ok (final, none) ∧
      Keeper.getState final.ctx.store (bytesToAddress [7]) zeroHash =
        (getState toyEnv s (bytesToAddress [7]) zeroHash).1 := by
  obtain ⟨s, final, ran, committed, present⟩ := committed_run toyEnv
    ((runSteps toyEnv oneAccount stableSteps).map fun s => (s, none))
    (fun s _ => (exist toyEnv s (bytesToAddress [7])).1) true (by decide +kernel)
  obtain ⟨u, stepped, same⟩ := map_ok ran
  obtain rfl : u = s := congrArg Prod.fst same
  have started : begin ⟨oneAccountStore (bytesToAddress [7]), []⟩ ⟨zeroHash, 0⟩ none =
    .ok oneAccount := rfl
  have plain : ∀ step ∈ stableSteps, step.Plain := by
    simp only [stableSteps, writeSlot, List.forall_mem_cons]
    exact ⟨trivial, trivial, trivial, trivial, idle_keepsStorage, trivial, by simp⟩
  exact ⟨u, final, stepped, committed, commit_persists_of_stable started plain stepped stableSteps_stable
    committed (bytesToAddress [7]) zeroHash present⟩

/-- A flushed write is taken out of the cache context by a revert, and a later write of
the same value is taken for no change. -/
def lostSteps : List Step :=
  [writeSlot 1, .op .snapshot, .precompile idle, .op (.revertToSnapshot 0), writeSlot 2, writeSlot 1]

theorem commit_loses_write :
    ∃ s final, runSteps toyEnv oneAccount lostSteps = .ok s ∧
      commit toyEnv s = .ok (final, none) ∧ (exist toyEnv s (bytesToAddress [7])).1 = true ∧
      (hasSelfDestructed toyEnv s (bytesToAddress [7])).1 = false ∧
      (getState toyEnv s (bytesToAddress [7]) zeroHash).1 = bytesToHash [1] ∧
      Keeper.getState final.ctx.store (bytesToAddress [7]) zeroHash = zeroHash := by
  obtain ⟨s, final, ran, committed, present⟩ := committed_run toyEnv
    ((runSteps toyEnv oneAccount lostSteps).map fun s => (s, none))
    (fun s final => ([(exist toyEnv s (bytesToAddress [7])).1,
        (hasSelfDestructed toyEnv s (bytesToAddress [7])).1],
      [(getState toyEnv s (bytesToAddress [7]) zeroHash).1,
        Keeper.getState final.ctx.store (bytesToAddress [7]) zeroHash]))
    ([true, false], [bytesToHash [1], zeroHash]) (by decide +kernel)
  obtain ⟨u, stepped, same⟩ := map_ok ran
  obtain rfl : u = s := congrArg Prod.fst same
  simp only [Prod.mk.injEq, List.cons.injEq, and_true] at present
  obtain ⟨⟨there, alive⟩, state, stored⟩ := present
  exact ⟨u, final, stepped, committed, there, alive, state, stored⟩

end OgEvm.StateDb
