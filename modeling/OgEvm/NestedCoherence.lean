import OgEvm.NestedScript

/- A StateDB does not see what the messages nested in a precompile call write. Its
storage is that of one storage run in program order exactly as long as those messages
leave every slot as they found it. -/
namespace OgEvm.StateDb

open ExceptFacts Function Layers

/-- The storage `GetState` shows. -/
def shownStorage (env : Env) (s : StateDb) : OneStorage :=
  fun addr => ((slots env s addr).map Slots.state).getD fun _ => zeroHash

section

variable {env : Env} {s t u : StateDb} {storage : OneStorage}

theorem getState_shown (env : Env) (s : StateDb) (addr : Address) (key : Hash) :
    (getState env s addr key).1 = shownStorage env s addr key := by
  rw [getState_fst, shownStorage]
  cases slots env s addr <;> rfl

theorem slots_none_account {addr : Address} (absent : slots env s addr = none) :
    Keeper.getAccount env s.ctx.store addr = none := by
  have missing := (Option.or_eq_none_iff.mp (Option.map_eq_none_iff.mp absent)).2
  exact Option.map_eq_none_iff.mp missing

theorem state_freshSlots (base : VmStore) (addr : Address) :
    (freshSlots base addr).state = Keeper.getState base addr := rfl

/-- An account that is created shows the storage it had before, which is none. -/
theorem Quiet.shown (quiet : Quiet env s t) (fine : NoOrphans env s.ctx.store) :
    shownStorage env t = shownStorage env s := by
  funext addr
  unfold shownStorage
  rcases quiet.slots addr with same | ⟨absent, fresh⟩
  · rw [same]
  · rw [absent, fresh, Option.map_some, Option.getD_some, Option.map_none, Option.getD_none, state_freshSlots]
    exact funext (fine addr (slots_none_account absent))

theorem Slots.state_write (x : Slots) (key value : Hash) :
    (x.write key value (x.committed key)).state = update x.state key value := by
  funext slot
  unfold Slots.state Slots.write
  by_cases here : slot = key
  · subst here
    rw [update_self]
    by_cases origin : value = x.committed slot
    · simp [origin]
    · simp [origin]
  · rw [update_of_ne here]
    by_cases origin : value = x.committed key
    · simp [origin, AList.lookup_erase_ne here]
    · simp [origin, AList.lookup_insert_ne here]

theorem setState_shown (addressed : Addressed s) (fine : NoOrphans env s.ctx.store) (addr : Address)
    (key value : Hash) : shownStorage env (setState env s addr key value).2 =
      (Op.setState addr key value).exec (shownStorage env s) := by
  obtain ⟨v, x, loading, held, outcome⟩ := setState_slots env addressed addr key value
  have before : shownStorage env v addr = x.state := by
    rw [shownStorage, held]
    rfl
  rw [← loading.shown fine, Op.exec]
  rcases outcome with ⟨same, quiet⟩ | ⟨-, -, -, -, written⟩
  · rw [quiet.shown (by rw [loading.ctx]; exact fine), before, ← same, update_eq_self,
      ← before, update_eq_self]
  · funext other
    by_cases here : other = addr
    · subst here
      rw [update_self, shownStorage, written, update_self, Option.map_some,
        Option.getD_some, before, Slots.state_write]
    · rw [update_of_ne here, shownStorage, written, update_of_ne here, shownStorage]

/-! Accounts without storage stay so. -/

theorem commitObject_noOrphans {keepDirty : Bool} {ctx after : Context} {obj changed : StateObject}
    (success : commitObject env keepDirty ctx obj = .ok (after, changed))
    (alive : obj.selfDestructed = false) (fine : NoOrphans env ctx.store) : NoOrphans env after.store := by
  intro addr missing key
  have accounts : after.store.accounts = _ := congrArg VmStore.accounts (commitObject_store success alive)
  dsimp only at accounts
  rw [Keeper.getAccount, Option.map_eq_none_iff, accounts] at missing
  have apart : addr ≠ obj.address := by
    intro same
    rw [same, update_self] at missing
    cases missing
  have lists : addr.toList ≠ obj.address.toList := fun same => apart (Vector.toList_inj.mp same)
  rw [update_of_ne lists] at missing
  rw [commitObject_other success apart]
  refine fine addr ?_ key
  rw [Keeper.getAccount, missing]
  rfl

theorem commitObjects_noOrphans {keepDirty : Bool} {ctx after : Context} {addrs : List Address}
    (alive : Alive s) (success : commitObjects env keepDirty addrs s ctx = .ok (t, after, none))
    (fine : NoOrphans env ctx.store) : NoOrphans env after.store := by
  induction addrs generalizing s ctx with
  | nil =>
    cases success
    exact fine
  | cons addr rest ih =>
    obtain ⟨obj, changed, middle, found, written, success⟩ := commitObjects_cons success
    exact ih (alive.commitObject found written) success
      (commitObject_noOrphans written (alive addr obj found) fine)

/-! One StateDB. -/

/-- The StateDB shows a storage, and its contexts are in order. -/
structure Faithful (env : Env) (storage : OneStorage) (s : StateDb) : Prop where
  coherent : ∃ marks, Coherent env marks s
  shown : shownStorage env s = storage
  base : NoOrphans env s.ctx.store
  cache : NoOrphans env (cacheCopies s).current

theorem Faithful.sound (faithful : Faithful env storage s) : Sound s := by
  obtain ⟨marks, coherent⟩ := faithful.coherent
  exact coherent.tracked.sound

theorem begin_faithful {ctx : Context} {txConfig : TxConfig} {preparation : Option Preparation}
    (started : begin ctx txConfig preparation = .ok s) (fine : NoOrphans env ctx.store) :
    Faithful env (Keeper.getState ctx.store) s := by
  obtain ⟨same, cacheCtx, -, -⟩ := begin_empty started
  have current : (cacheCopies s).current = ctx.store := by
    simp [cacheCopies, cacheCtx, same]
  refine ⟨⟨fun _ => view env noSlot s, begin_coherent started⟩, ?_, by rwa [same], by rwa [current]⟩
  funext addr
  unfold shownStorage
  cases held : slots env s addr with
  | none =>
    have missing := slots_none_account held
    rw [same] at missing
    exact (funext (fine addr missing)).symm
  | some x =>
    rw [begin_fresh started held, Option.map_some, Option.getD_some, state_freshSlots, same]

theorem Faithful.op (faithful : Faithful env storage s) (direct : DirectOp)
    (success : direct.op.run env s = .ok t) : Faithful env (direct.op.exec storage) t := by
  obtain ⟨marks, coherent⟩ := faithful.coherent
  have still : ∃ later, Coherent env later t := by
    have plain : (Step.op direct.op).Plain := direct.plain
    refine coherent.step plain success ?_
    intro revid same
    exact absurd (Step.op.inj same) (direct.onward revid)
  obtain ⟨op, plain, onward⟩ := direct
  change op.run env s = .ok t at success
  have change : t.ctx = s.ctx ∧ cacheCopies t = cacheCopies s ∧
      shownStorage env t = op.exec (shownStorage env s) := by
    cases op with
    | setState addr key value =>
      cases success
      have shown := setState_shown coherent.tracked.addressed faithful.base addr key value
      obtain ⟨ctx, copies⟩ := setState_contexts env coherent.tracked.addressed addr key value
      exact ⟨ctx, copies, shown⟩
    | snapshot =>
      cases success
      exact ⟨rfl, rfl, rfl⟩
    | revertToSnapshot revid => exact absurd rfl (onward revid)
    | _ =>
      have quiet := run_quiet coherent.tracked.addressed plain (by simp) success
      exact ⟨quiet.ctx, quiet.cacheCopies, quiet.shown faithful.base⟩
  obtain ⟨ctx, copies, shown⟩ := change
  refine ⟨still, ?_, ?_, ?_⟩
  · rw [shown, faithful.shown]
  · rw [ctx]
    exact faithful.base
  · rw [copies]
    exact faithful.cache

/-- What a write of the dirty accounts leaves in the store is what the StateDB shows. -/
theorem shown_written {store : VmStore} (booked : Booked env s) (agrees : Agrees env s store)
    (base : NoOrphans env s.ctx.store) (addr : Address) (key : Hash) : (if addr ∈ s.journal.dirties then
        (s.stateObjects addr).bind fun obj => obj.dirtyStorage.lookup key
      else none).getD (Keeper.getState store addr key) = shownStorage env s addr key := by
  unfold shownStorage
  cases held : slots env s addr with
  | none =>
    have gone : s.stateObjects addr = none :=
      (Option.or_eq_none_iff.mp (Option.map_eq_none_iff.mp held)).1
    rw [gone, Option.bind_none, ite_self, Option.getD_none, ← agrees.absent addr held key]
    exact base addr (slots_none_account held) key
  | some x =>
    rw [Option.map_some, Option.getD_some, booked.dirty_eq held, ← agrees.committed addr x held key]
    rfl

/-- The flush leaves what the StateDB shows in the cache context. -/
theorem Faithful.enter (faithful : Faithful env storage s) (success : enterPrecompile env s = .ok (u, none)) :
    Keeper.getState (cacheContext u).store = storage ∧ NoOrphans env (cacheContext u).store ∧
      u.ctx = s.ctx ∧ shownStorage env u = storage := by
  obtain ⟨marks, coherent⟩ := faithful.coherent
  have sound := coherent.tracked.sound
  obtain ⟨-, agreed, states⟩ := enterPrecompile_agrees sound coherent.booked coherent.agrees success
  have entered := enterPrecompile_entered sound (calm_noSlot env s) success
  obtain ⟨cache, held, -⟩ := entered.saved
  have shown : shownStorage env u = storage := by
    rw [← faithful.shown]
    funext addr
    rw [shownStorage, states addr]
    rfl
  rw [cacheContext_store held]
  obtain ⟨kept, v, ctx, flushed, committed, rfl⟩ := enterPrecompile_flushed success
  cases flushed
  have begun := journalCall_booked coherent.booked
  have home : Addressed (journalCall s) := sound.addressed
  have start : Agrees env (journalCall s) (cacheCopies s).current :=
    ⟨coherent.agrees.committed, coherent.agrees.absent⟩
  have same := (commitObjects_agrees home begun start committed).1
  refine ⟨?_, commitObjects_noOrphans (fun _ _ => begun.alive) committed faithful.cache, same.ctx,
    shown⟩
  funext addr key
  change Keeper.getState ctx.store addr key = storage addr key
  rw [commitObjects_getState home committed (fun _ => begun.alive) key, ← faithful.shown]
  exact shown_written begun start faithful.base addr key

theorem Faithful.commit (faithful : Faithful env storage s) (success : commit env s = .ok (t, none)) :
    Keeper.getState t.ctx.store = storage ∧ NoOrphans env t.ctx.store := by
  obtain ⟨marks, coherent⟩ := faithful.coherent
  refine ⟨?_, ?_⟩
  · funext addr key
    rw [commit_getState coherent.tracked.addressed success (fun _ => coherent.booked.alive),
      ← faithful.shown]
    exact shown_written coherent.booked coherent.agrees faithful.base addr key
  · obtain ⟨store, objects, -⟩ := written_eq s
    obtain ⟨u, ctx, done, rfl⟩ := commit_ok success
    refine commitObjects_noOrphans ?_ done (by rw [store]; exact faithful.cache)
    intro addr obj found
    rw [objects] at found
    exact coherent.booked.alive found

/-- A call shows nothing of what its action does to the storage. -/
theorem Faithful.acted (faithful : Faithful env storage s) {p : Precompile}
    (success : runNativeAction env p s = .ok (t, none)) :
    ∃ u ctx, enterPrecompile env s = .ok (u, none) ∧ p.action (cacheContext u) = .ok (ctx, none) ∧
      t.ctx = s.ctx ∧ (cacheCopies t).current = ctx.store ∧ shownStorage env t = storage := by
  rcases runNativeAction_cases success with ⟨failed, -⟩ | ⟨u, ctx, failed, events, began, acted, fine, rfl⟩
  · exact absurd rfl failed
  · obtain rfl := fine rfl
    obtain ⟨-, -, base, shown⟩ := faithful.enter began
    have entered := enterPrecompile_entered faithful.sound (calm_noSlot env s) began
    obtain ⟨cache, held, -⟩ := entered.saved
    have still := ((entered.withCacheContext ctx).journaled faithful.sound).sound
    have quiet : Quiet env (withCacheContext u ctx) _ := afterEvents_quiet still events
    have orphans : NoOrphans env (withCacheContext u ctx).ctx.store := by
      change NoOrphans env u.ctx.store
      rw [base]
      exact faithful.base
    refine ⟨u, ctx, began, acted, quiet.ctx.trans base, ?_, (quiet.shown orphans).trans shown⟩
    rw [quiet.cacheCopies, cacheCopies_withCacheContext held]

/-- A call whose action leaves the storage as it is keeps everything in order. -/
theorem Faithful.call (faithful : Faithful env storage s) {p : Precompile}
    (success : runNativeAction env p s = .ok (t, none)) (acts : ∀ u ctx, enterPrecompile env s = .ok (u, none) →
      p.action (cacheContext u) = .ok (ctx, none) →
      Keeper.getState ctx.store = storage ∧ NoOrphans env ctx.store) : Faithful env storage t := by
  obtain ⟨marks, coherent⟩ := faithful.coherent
  have sound := faithful.sound
  have change := runNativeAction_journaled sound (calm_noSlot env s) success
  obtain ⟨u, ctx, began, acted, base, current, shown⟩ := faithful.acted success
  obtain ⟨kept, orphans⟩ := acts u ctx began acted
  obtain ⟨stored, -, -, -⟩ := faithful.enter began
  have keeps : ∀ v, enterPrecompile env s = .ok (v, none) →
      KeepsStorageAt p.action (cacheContext v) := by
    intro v again after err ran addr key
    rw [began] at again
    cases again
    rw [acted] at ran
    cases ran
    rw [kept, stored]
  obtain ⟨booked, agrees⟩ := runNativeAction_agrees sound coherent.booked coherent.agrees keeps success
  refine ⟨⟨marks, coherent.tracked.journaled change (agrees.absentAgrees noSlot), booked, agrees⟩,
    shown, ?_, ?_⟩
  · rw [base]
    exact faithful.base
  · rw [current]
    exact orphans

/-! Whole trees of messages. -/

theorem Op.exec_outside {op : Op} {addr : Address} {key : Hash} (outside : (addr, key) ∉ op.writes) :
    op.exec storage addr key = storage addr key := by
  cases op with
  | setState target slot value =>
    simp only [Op.writes, List.mem_singleton, Prod.mk.injEq] at outside
    rw [Op.exec]
    by_cases there : addr = target
    · subst there
      have apart : key ≠ slot := fun same => outside ⟨rfl, same⟩
      rw [update_self, update_of_ne apart]
    · rw [update_of_ne there]
  | _ => rfl

mutual

theorem Script.exec_outside : ∀ (script : Script) {storage : OneStorage} {addr : Address}
    {key : Hash}, (addr, key) ∉ script.writes → script.exec storage addr key = storage addr key
  | .done, _, _, _, _ => rfl
  | .op direct rest, storage, addr, key, outside => by
    rw [Script.writes, List.mem_append, not_or] at outside
    rw [Script.exec, rest.exec_outside outside.2, Op.exec_outside outside.1]
  | .call _ nested rest, storage, addr, key, outside => by
    rw [Script.writes, List.mem_append, not_or] at outside
    rw [Script.exec, rest.exec_outside outside.2, nested.exec_outside outside.1]

theorem Messages.exec_outside : ∀ (messages : Messages) {storage : OneStorage} {addr : Address}
    {key : Hash}, (addr, key) ∉ messages.writes → messages.exec storage addr key = storage addr key
  | .none, _, _, _, _ => rfl
  | .next _ message rest, storage, addr, key, outside => by
    rw [Messages.writes, List.mem_append, not_or] at outside
    rw [Messages.exec, rest.exec_outside outside.2, message.exec_outside outside.1]

end

/-- What a call leaves, given what its messages do to the context they find. -/
theorem Faithful.nested (faithful : Faithful env storage s) {nested : Messages} {balanceHandler : Bool}
    (success : runNativeAction env ⟨fun ctx => nested.run env ctx, balanceHandler⟩ s = .ok (t, none))
    (acts : ∀ ctx after, NoOrphans env ctx.store → Keeper.getState ctx.store = storage →
      nested.run env ctx = .ok (after, none) →
      Keeper.getState after.store = nested.exec storage ∧ NoOrphans env after.store) :
    (ShowsWritten env t nested.writes ↔ nested.exec storage = storage) ∧
      (nested.exec storage = storage → Faithful env storage t) := by
  have leaves : ∀ u ctx, enterPrecompile env s = .ok (u, none) →
      nested.run env (cacheContext u) = .ok (ctx, none) →
      Keeper.getState ctx.store = nested.exec storage ∧ NoOrphans env ctx.store := by
    intro u ctx began acted
    obtain ⟨stored, orphans, -, -⟩ := faithful.enter began
    exact acts (cacheContext u) ctx orphans stored acted
  obtain ⟨u, ctx, began, acted, -, current, shown⟩ := faithful.acted success
  have left : Keeper.getState (cacheCopies t).current = nested.exec storage := by
    rw [current]
    exact (leaves u ctx began acted).1
  refine ⟨⟨?_, ?_⟩, ?_⟩
  · intro showing
    funext addr key
    by_cases inside : (addr, key) ∈ nested.writes
    · rw [← left, ← showing _ inside, getState_shown, shown]
    · exact nested.exec_outside inside
  · intro same slot _
    rw [getState_shown, shown, left, same]
  · intro same
    rw [same] at leaves
    exact faithful.call success leaves

theorem next_ok {preparation : Option Preparation} {message : Script} {rest : Messages} {ctx after : Context}
    (success : (Messages.next preparation message rest).run env ctx = .ok (after, none)) :
    ∃ start s t, begin ctx ⟨zeroHash, 0⟩ preparation = .ok start ∧ message.run env start = .ok (s, none) ∧
      commit env s = .ok (t, none) ∧ rest.run env t.ctx = .ok (after, none) := by
  rw [Messages.run] at success
  obtain ⟨start, started, success⟩ := bind_ok success
  obtain ⟨⟨s, err⟩, ran, success⟩ := bind_ok success
  cases err with
  | some err => cases success
  | none =>
    obtain ⟨⟨t, err⟩, committed, success⟩ := bind_ok success
    cases err with
    | some err => cases success
    | none => exact ⟨start, s, t, started, ran, committed, success⟩

mutual

/-- A script whose calls restore the storage runs as on one storage. -/
theorem Script.faithful : ∀ (script : Script) {storage : OneStorage} {s t : StateDb},
    Faithful env storage s → script.run env s = .ok (t, none) →
    script.Restores storage → Faithful env (script.exec storage) t
  | .done, _, s, t, faithful, success, _ => by
    rw [Script.run] at success
    cases success
    exact faithful
  | .op direct rest, storage, s, t, faithful, success, restores => by
    rw [Script.run] at success
    rw [Script.Restores] at restores
    obtain ⟨middle, ran, success⟩ := bind_ok success
    rw [Script.exec]
    exact rest.faithful (faithful.op direct ran) success restores
  | .call balanceHandler nested rest, storage, s, t, faithful, success, restores => by
    rw [Script.run] at success
    rw [Script.Restores] at restores
    obtain ⟨inside, same, later⟩ := restores
    obtain ⟨⟨middle, err⟩, ran, success⟩ := bind_ok success
    cases err with
    | some err => cases success
    | none =>
      obtain ⟨-, still⟩ := faithful.nested ran fun ctx after orphans found acted => by
        rw [← found] at inside ⊢
        exact nested.faithful orphans acted inside
      rw [Script.exec, same]
      exact rest.faithful (still same) success later

theorem Messages.faithful : ∀ (messages : Messages) {ctx after : Context},
    NoOrphans env ctx.store → messages.run env ctx = .ok (after, none) →
    messages.Restores (Keeper.getState ctx.store) →
    Keeper.getState after.store = messages.exec (Keeper.getState ctx.store) ∧ NoOrphans env after.store
  | .none, ctx, after, fine, success, _ => by
    rw [Messages.run] at success
    cases success
    exact ⟨rfl, fine⟩
  | .next preparation message rest, ctx, after, fine, success, restores => by
    rw [Messages.Restores] at restores
    obtain ⟨start, s, t, started, ran, committed, success⟩ := next_ok success
    have done := message.faithful (begin_faithful started fine) ran restores.1
    obtain ⟨stored, orphans⟩ := done.commit committed
    have later := restores.2
    rw [← stored] at later
    rw [Messages.exec, ← stored]
    exact rest.faithful orphans success later

end

mutual

/-- Along a run the calls show what their messages wrote as long as they restore it. -/
theorem Script.shown_iff : ∀ (script : Script) {storage : OneStorage} {s t : StateDb},
    Faithful env storage s → script.run env s = .ok (t, none) → (script.Shown env s ↔ script.Restores storage)
  | .done, _, s, t, _, _ => by
    rw [Script.Shown, Script.Restores]
  | .op direct rest, storage, s, t, faithful, success => by
    rw [Script.run] at success
    obtain ⟨middle, ran, success⟩ := bind_ok success
    rw [Script.Shown, Script.Restores, ran]
    have onward := rest.shown_iff (faithful.op direct ran) success
    simp only [Except.ok.injEq, forall_eq']
    exact onward
  | .call balanceHandler nested rest, storage, s, t, faithful, success => by
    rw [Script.run] at success
    obtain ⟨⟨middle, err⟩, ran, success⟩ := bind_ok success
    cases err with
    | some err => cases success
    | none =>
      obtain ⟨u, ctx, began, acted, -, -, -⟩ := faithful.acted ran
      obtain ⟨stored, orphans, -, -⟩ := faithful.enter began
      have inside := nested.shown_iff orphans acted
      rw [stored] at inside
      rw [Script.Shown, Script.Restores, ran, began]
      simp only [Except.ok.injEq, Prod.mk.injEq, and_true, forall_eq', inside]
      refine and_congr_right fun within => ?_
      obtain ⟨here, still⟩ := faithful.nested ran fun given after orphans found acted => by
        rw [← found] at within ⊢
        exact nested.faithful orphans acted within
      rw [here]
      exact and_congr_right fun same => rest.shown_iff (still same) success

theorem Messages.shown_iff : ∀ (messages : Messages) {ctx after : Context},
    NoOrphans env ctx.store → messages.run env ctx = .ok (after, none) →
    (messages.Shown env ctx ↔ messages.Restores (Keeper.getState ctx.store))
  | .none, ctx, after, _, _ => by
    rw [Messages.Shown, Messages.Restores]
  | .next preparation message rest, ctx, after, fine, success => by
    obtain ⟨start, s, t, started, ran, committed, success⟩ := next_ok success
    have begun := begin_faithful started fine
    have within := message.shown_iff begun ran
    rw [Messages.Shown, Messages.Restores, started]
    simp only [ran, committed, Except.ok.injEq, Prod.mk.injEq, and_true, forall_eq', within]
    refine and_congr_right fun restores => ?_
    obtain ⟨stored, orphans⟩ := (message.faithful begun ran restores).commit committed
    rw [← stored]
    exact rest.shown_iff orphans success

end

/-- A transaction shows after every call what the nested messages wrote, at every level,
and commits what one storage holds after all writes in program order, exactly when every
call's messages leave the storage they find as it is. -/
theorem nested_coherent_iff {ctx : Context} {txConfig : TxConfig} {preparation : Option Preparation}
    {script : Script} {start final : StateDb} (fine : NoOrphans env ctx.store)
    (started : begin ctx txConfig preparation = .ok start)
    (ran : script.run env start = .ok (s, none)) (committed : commit env s = .ok (final, none)) :
    (script.Shown env start ∧ ∀ addr key,
      Keeper.getState final.ctx.store addr key = script.exec (Keeper.getState ctx.store) addr key) ↔
    script.Restores (Keeper.getState ctx.store) := by
  have begun : Faithful env (Keeper.getState ctx.store) start := begin_faithful started fine
  have same := script.shown_iff begun ran
  constructor
  · intro coherent
    exact same.mp coherent.1
  · intro restores
    obtain ⟨stored, -⟩ := (script.faithful begun ran restores).commit committed
    exact ⟨same.mpr restores, fun addr key => by rw [stored]⟩

end

/-- A write to the slot of the one account. -/
def directWrite (value : UInt8) : DirectOp :=
  ⟨.setState (bytesToAddress [7]) zeroHash (bytesToHash [value]), trivial, by simp⟩

/-- The message moves the slot and brings it back. -/
def movedAndBack : Messages := .next none (.op (directWrite 3) (.op (directWrite 2) .done)) .none

def neutralScript : Script :=
  .op (directWrite 2) (.call true movedAndBack (.op (directWrite 5) .done))

/-- The message finds two in the slot, and leaves two in it. -/
theorem neutralScript_restores (storage : OneStorage) : neutralScript.Restores storage := by
  simp [neutralScript, movedAndBack, directWrite, Script.Restores, Messages.Restores, Messages.exec,
    Script.exec, Op.exec]

theorem nested_coherent_iff_neutralScript :
    ∃ s final, neutralScript.run toyEnv oneAccount = .ok (s, none) ∧
      commit toyEnv s = .ok (final, none) ∧
      neutralScript.Shown toyEnv oneAccount ∧
      Keeper.getState final.ctx.store (bytesToAddress [7]) zeroHash = bytesToHash [5] := by
  obtain ⟨s, final, ran, committed, -⟩ := committed_run toyEnv (neutralScript.run toyEnv oneAccount)
    (fun _ _ => ()) () (by decide +kernel)
  have started : begin ⟨oneAccountStore (bytesToAddress [7]), []⟩ ⟨zeroHash, 0⟩ none =
    .ok oneAccount := rfl
  have fine : NoOrphans toyEnv (Context.mk (oneAccountStore (bytesToAddress [7])) []).store :=
    fun _ _ _ => rfl
  obtain ⟨coherent, stored⟩ :=
    (nested_coherent_iff fine started ran committed).mpr (neutralScript_restores _)
  refine ⟨s, final, ran, committed, coherent, ?_⟩
  rw [stored]
  decide +kernel

/-- The message changes the slot, and the transaction then writes what it still sees. -/
def staleMessage : Messages := .next none (.op (directWrite 1) .done) .none

def staleScript : Script := .call true staleMessage (.op (directWrite 0) .done)

theorem nested_write_not_seen :
    ∃ t s final, runNativeAction toyEnv ⟨fun ctx => staleMessage.run toyEnv ctx, true⟩ oneAccount =
        .ok (t, none) ∧
      Keeper.getState (cacheCopies t).current (bytesToAddress [7]) zeroHash = bytesToHash [1] ∧
      (getState toyEnv t (bytesToAddress [7]) zeroHash).1 = zeroHash ∧
      staleScript.run toyEnv oneAccount = .ok (s, none) ∧ commit toyEnv s = .ok (final, none) ∧
      Keeper.getState final.ctx.store (bytesToAddress [7]) zeroHash = bytesToHash [1] ∧
      staleScript.exec (Keeper.getState oneAccount.ctx.store) (bytesToAddress [7]) zeroHash =
        zeroHash := by
  have calls : ((runNativeAction toyEnv ⟨fun ctx => staleMessage.run toyEnv ctx, true⟩ oneAccount).map
      fun done => (done.2, Keeper.getState (cacheCopies done.1).current (bytesToAddress [7]) zeroHash,
        (getState toyEnv done.1 (bytesToAddress [7]) zeroHash).1)).toOption =
          some (none, bytesToHash [1], zeroHash) := by
    decide +kernel
  obtain ⟨⟨t, err⟩, called, shown⟩ := map_ok (toOption_some calls)
  simp only [Prod.mk.injEq] at shown
  obtain ⟨rfl, left, seen⟩ := shown
  obtain ⟨s, final, ran, committed, stored⟩ := committed_run toyEnv (staleScript.run toyEnv oneAccount)
    (fun _ final => Keeper.getState final.ctx.store (bytesToAddress [7]) zeroHash) (bytesToHash [1])
    (by decide +kernel)
  exact ⟨t, s, final, called, left, seen, ran, committed, stored, by decide +kernel⟩

end OgEvm.StateDb
