import OgEvm.Precompile
import OgEvm.StateDbUndo

/- A precompile call seen through the journal: the flush moves pending slots into
the origins, which no entry takes back, and everything else is undone by the entry
of the call. -/
namespace OgEvm.StateDb

open UndoLog ExceptFacts Layers

variable {env : Env} {mask : Mask} {s t : StateDb}

theorem toList_length_ne_zero (value : Hash) : ¬ value.toList.length = 0 := by
  rw [Vector.length_toList]
  decide

theorem flushSlot_keep (store : VmStore) (obj : StateObject) (key : Hash) : flushSlot true (store, obj) key =
      (Keeper.setState store obj.address key ((obj.dirtyStorage.lookup key).getD zeroHash).toList,
        { obj with originStorage :=
          obj.originStorage.insert key ((obj.dirtyStorage.lookup key).getD zeroHash) }) := by
  simp only [flushSlot, toList_length_ne_zero, if_false, if_true]

theorem mem_sortedKeys (storage : Storage) (key : Hash) : key ∈ sortedKeys storage ↔ key ∈ storage := by
  unfold sortedKeys
  rw [List.mem_insertionSort, AList.mem_keys]

/-- The objects of a flush that keeps the dirty slots: only the origins change. -/
theorem foldl_flushSlot_keep (keys : List Hash) (store : VmStore) (obj : StateObject) :
    ∃ origins : Storage, (keys.foldl (flushSlot true) (store, obj)).2 = { obj with originStorage := origins } ∧
      ∀ key, origins.lookup key = if key ∈ keys then some ((obj.dirtyStorage.lookup key).getD zeroHash)
        else obj.originStorage.lookup key := by
  induction keys generalizing store obj with
  | nil => exact ⟨obj.originStorage, rfl, fun key => by simp⟩
  | cons first rest ih =>
    rw [List.foldl_cons, flushSlot_keep]
    obtain ⟨origins, shape, lookup⟩ := ih
      (Keeper.setState store obj.address first ((obj.dirtyStorage.lookup first).getD zeroHash).toList)
      { obj with originStorage :=
        obj.originStorage.insert first ((obj.dirtyStorage.lookup first).getD zeroHash) }
    refine ⟨origins, shape, fun key => ?_⟩
    rw [lookup]
    by_cases later : key ∈ rest
    · simp [later]
    · by_cases here : key = first
      · subst here
        simp [later, AList.lookup_insert]
      · simp [later, here, AList.lookup_insert_ne here]

/-- What a flush leaves in the origins. -/
theorem flush_origins (store : VmStore) (obj : StateObject) :
    ∃ origins : Storage, ((sortedKeys obj.dirtyStorage).foldl (flushSlot true) (store, obj)).2 =
        { obj with originStorage := origins } ∧
      ∀ key, origins.lookup key = (obj.dirtyStorage.lookup key).or (obj.originStorage.lookup key) := by
  obtain ⟨origins, shape, lookup⟩ := foldl_flushSlot_keep (sortedKeys obj.dirtyStorage) store obj
  refine ⟨origins, shape, fun key => ?_⟩
  rw [lookup]
  cases pending : obj.dirtyStorage.lookup key with
  | some value =>
    have dirty : key ∈ sortedKeys obj.dirtyStorage := by
      rw [mem_sortedKeys, ← AList.lookup_isSome, pending]
      rfl
    simp [dirty]
  | none =>
    have clean : key ∉ sortedKeys obj.dirtyStorage := by
      rw [mem_sortedKeys, ← AList.lookup_isSome, pending]
      simp
    simp [clean]

/-- After a flush the committed value of a slot is the present one. -/
theorem committedOf_flushed (base : VmStore) {obj : StateObject} {origins : Storage}
    (lookup : ∀ key, origins.lookup key = (obj.dirtyStorage.lookup key).or (obj.originStorage.lookup key))
    (plain : obj.overrideStorage = none) (key : Hash) :
    committedOf base { obj with originStorage := origins } key = stateOf base obj key := by
  simp only [committedOf, stateOf, plain, lookup]
  cases obj.dirtyStorage.lookup key <;> rfl

/-- No slot of the mask has a pending change. -/
def Calm (env : Env) (mask : Mask) (s : StateDb) : Prop :=
  ∀ addr obj, (view env mask s).objects addr = some obj → obj.state = obj.committed

theorem objView_flushed (env : Env) (base : VmStore) {obj : StateObject} {origins : Storage}
    (lookup : ∀ key, origins.lookup key = (obj.dirtyStorage.lookup key).or (obj.originStorage.lookup key))
    (calm : (objView env mask base obj).state = (objView env mask base obj).committed) :
    objView env mask base { obj with originStorage := origins } = objView env mask base obj := by
  have committed : ∀ key, mask obj.address key →
      committedOf base { obj with originStorage := origins } key = committedOf base obj key := by
    intro key seen
    by_cases plain : obj.overrideStorage = none
    · have here := congrFun calm key
      simp only [objView, masked, seen, if_true] at here
      rw [committedOf_flushed base lookup plain, here]
    · obtain ⟨store, overridden⟩ := Option.ne_none_iff_exists'.mp plain
      simp only [committedOf, overridden]
  have first : masked mask obj.address (committedOf base { obj with originStorage := origins }) =
      masked mask obj.address (committedOf base obj) := by
    funext key
    by_cases seen : mask obj.address key
    · simp [masked, seen, committed key seen]
    · simp [masked, seen]
  have second : masked mask obj.address (stateOf base { obj with originStorage := origins }) =
      masked mask obj.address (stateOf base obj) := by
    funext key
    by_cases seen : mask obj.address key
    · simp only [masked, seen, if_true, stateOf, committed key seen]
    · simp [masked, seen]
  simp only [objView, first, second]

theorem Cached.calm (cached : Cached env mask s t) (calm : Calm env mask s) : Calm env mask t := by
  unfold Calm
  rw [cached.view]
  exact calm

/-- What a flush makes of one object. -/
theorem commitObject_keep {ctx after : Context} {obj changed : StateObject}
    (success : commitObject env true ctx obj = .ok (after, changed)) : (obj.selfDestructed = true ∧ changed = obj) ∨
      ∃ origins : Storage, changed = { obj with originStorage := origins } ∧
        ∀ key, origins.lookup key =
          (obj.dirtyStorage.lookup key).or (obj.originStorage.lookup key) := by
  unfold commitObject at success
  split at success
  · rename_i destructed
    obtain ⟨_, -, equal⟩ := map_ok success
    exact Or.inl ⟨destructed, (Prod.mk.inj equal).2.symm⟩
  · obtain ⟨written, -, final⟩ := bind_ok success
    obtain ⟨origins, shape, lookup⟩ := flush_origins written.store obj
    refine Or.inr ⟨origins, ?_, lookup⟩
    rw [← shape]
    exact (Prod.mk.inj (Except.ok.inj final)).2.symm

/-- What every object that is written keeps, a flush or a commit keeps, also one that stops. -/
theorem commitObjects_invariant (inv : StateDb → Context → Prop) {keepDirty : Bool} {addrs : List Address}
    {ctx after : Context} {err : Option GoError}
    (success : commitObjects env keepDirty addrs s ctx = .ok (t, after, err)) (start : inv s ctx)
    (step : ∀ s ctx addr obj middle changed, inv s ctx → s.stateObjects addr = some obj →
      commitObject env keepDirty ctx obj = .ok (middle, changed) → inv (setStateObject s changed) middle) :
    inv t after := by
  induction addrs generalizing s ctx with
  | nil =>
    cases success
    exact start
  | cons addr rest ih =>
    unfold commitObjects at success
    split at success
    · cases success
    · rename_i obj found
      split at success
      · cases success
      · cases success
        exact start
      · rename_i middle changed written
        exact ih success (step s ctx addr obj middle changed start found written)

theorem foldl_flushSlot_object (keepDirty : Bool) (keys : List Hash) (store : VmStore) (obj : StateObject) :
    ∃ origins dirty, (keys.foldl (flushSlot keepDirty) (store, obj)).2 =
      { obj with originStorage := origins, dirtyStorage := dirty } := by
  induction keys generalizing store obj with
  | nil => exact ⟨_, _, rfl⟩
  | cons first rest ih =>
    rw [List.foldl_cons]
    obtain ⟨origins, dirty, same⟩ := ih (flushSlot keepDirty (store, obj) first).1
      (flushSlot keepDirty (store, obj) first).2
    refine ⟨origins, dirty, same.trans ?_⟩
    cases keepDirty <;> rfl

/-- Only the slots of an object are changed by its commit. -/
theorem commitObject_frame {keepDirty : Bool} {ctx after : Context} {obj changed : StateObject}
    (success : commitObject env keepDirty ctx obj = .ok (after, changed)) :
    ∃ origins dirty, changed = { obj with originStorage := origins, dirtyStorage := dirty } := by
  unfold commitObject at success
  split at success
  · obtain ⟨deleted, -, equal⟩ := map_ok success
    cases equal
    exact ⟨_, _, rfl⟩
  · obtain ⟨written, -, final⟩ := bind_ok success
    obtain ⟨-, rfl⟩ := Prod.mk.inj (Except.ok.inj final)
    exact foldl_flushSlot_object keepDirty _ written.store obj

theorem commitObjects_cached (addressed : Addressed s) (calm : Calm env mask s)
    {addrs : List Address} {ctx after : Context} {err : Option GoError}
    (success : commitObjects env true addrs s ctx = .ok (t, after, err)) : Cached env mask s t := by
  refine commitObjects_invariant (fun u _ => Cached env mask s u) success (Cached.refl env mask _) ?_
  intro u ctx addr obj middle changed cached found committed
  have home := cached.addressed addressed addr obj found
  have held : (view env mask u).objects addr = some (objView env mask u.ctx.store obj) := by
    rw [view_objects, found]
    rfl
  refine cached.trans ?_
  rcases commitObject_keep committed with ⟨-, rfl⟩ | ⟨origins, rfl, lookup⟩
  · refine cached_setStateObject changed changed ?_ rfl
    rw [home]
    exact held
  · refine cached_setStateObject obj _ ?_
      (objView_flushed env u.ctx.store lookup (cached.calm calm addr _ held))
    rw [← home] at held
    exact held

/-- A precompile call has begun: its entry is the last one, and going back to the
copy it names forgets whatever happens to the cache context from here on. -/
structure Entered (env : Env) (mask : Mask) (s t : StateDb) : Prop where
  entries : ∃ events, t.journal.entries =
    s.journal.entries ++ [.precompileCallChange (cacheCopies s).saved.length events]
  saved : ∃ cache, t.cacheCtx = some cache ∧ cache.copies.saved = (cacheCopies s).push.saved
  view : { view env mask t with copies := cacheCopies s } = view env mask s
  validRevisions : t.validRevisions = s.validRevisions
  nextRevisionID : t.nextRevisionID = s.nextRevisionID
  sound : Sound s → Sound t

theorem Entered.journaled (entered : Entered env mask s t) (sound : Sound s) : Journaled env mask s t where
  undone := by
    obtain ⟨events, entries⟩ := entered.entries
    obtain ⟨cache, held, saved⟩ := entered.saved
    refine ⟨_, entries, ?_⟩
    have back : (StateDb.view env mask t).copies.truncate (cacheCopies s).saved.length =
        some (cacheCopies s) := by
      have same : (StateDb.view env mask t).copies = cache.copies := by
        simp [StateDb.view, cacheCopies, held]
      rw [same, Copies.truncate, saved]
      simp [Copies.push]
    rw [undoAll, undoAll, Option.bind_some, undoView, if_neg (by simp), Int.toNat_natCast, back, ← entered.view]
    rfl
  validRevisions := entered.validRevisions
  nextRevisionID := entered.nextRevisionID
  sound := entered.sound sound

theorem Entered.withCacheContext (entered : Entered env mask s t) (ctx : Context) :
    Entered env mask s (withCacheContext t ctx) where
  entries := entered.entries
  saved := by
    obtain ⟨cache, held, saved⟩ := entered.saved
    refine ⟨cache.withContext ctx, ?_, saved⟩
    simp [StateDb.withCacheContext, held]
  view := entered.view
  validRevisions := entered.validRevisions
  nextRevisionID := entered.nextRevisionID
  sound := fun sound => ⟨(entered.sound sound).addressed, (entered.sound sound).accessList⟩

theorem getCacheContext_eq (s : StateDb) : (getCacheContext s).2 = { s with cacheCtx := some (getCacheContext s).1 } ∧
      (getCacheContext s).1.copies = cacheCopies s := by
  unfold getCacheContext cacheCopies
  split
  · rename_i cache held
    simp only [held, Option.map_some, Option.getD_some, and_true]
    rw [← held]
  · rename_i absent
    simp only [absent, cache, Option.map_none, Option.getD_none, and_self]

/-- The state after the snapshot of the multistore and the journal entry. -/
def journalCall (s : StateDb) : StateDb :=
  { append s (.precompileCallChange (cacheCopies s).saved.length (getCacheContext s).1.events) with
    cacheCtx := some { (getCacheContext s).1 with copies := (cacheCopies s).push }
    precompileCallsCounter := s.precompileCallsCounter + 1 }

theorem enterPrecompile_eq (env : Env) (s : StateDb) : enterPrecompile env s =
      if s.precompileCallsCounter + 1 > maxPrecompileCalls then
        .ok (journalCall s, some (.other, "max calls to precompiles (20) reached"))
      else commitWithCacheCtx env (journalCall s) := by
  obtain ⟨shape, copies⟩ := getCacheContext_eq s
  unfold enterPrecompile journalCall
  rcases cached : getCacheContext s with ⟨cache, u⟩
  rw [cached] at shape copies
  simp only at shape copies
  subst shape
  simp only [multiStoreSnapshot, addPrecompileFn, append, copies]
  by_cases reached : s.precompileCallsCounter + 1 > maxPrecompileCalls
  · simp [reached, bind, Except.bind, pure, Except.pure]
  · simp [reached, bind, Except.bind]

/-- The flush into the cache context. -/
theorem commitWithCacheCtx_ok {err : Option GoError} (success : commitWithCacheCtx env s = .ok (t, err)) :
    ∃ cache u ctx, s.cacheCtx = some cache ∧ commitWithCtx env s cache.context true = .ok (u, ctx, err) ∧
      t = { u with cacheCtx := some (cache.withContext ctx) } := by
  unfold commitWithCacheCtx at success
  split at success
  · cases success
  · rename_i cache held
    obtain ⟨⟨u, ctx, failed⟩, flushed, success⟩ := bind_ok success
    cases success
    exact ⟨cache, u, ctx, held, flushed, rfl⟩

/-- A call stops at the limit, or goes on with what the flush leaves. -/
theorem enterPrecompile_cases {err : Option GoError} (success : enterPrecompile env s = .ok (t, err)) :
    (t = journalCall s ∧ err = some (.other, "max calls to precompiles (20) reached")) ∨
      ∃ cache u ctx, (journalCall s).cacheCtx = some cache ∧
        commitWithCtx env (journalCall s) cache.context true = .ok (u, ctx, err) ∧
        t = { u with cacheCtx := some (cache.withContext ctx) } := by
  rw [enterPrecompile_eq] at success
  split at success
  · cases success
    exact Or.inl ⟨rfl, rfl⟩
  · exact Or.inr (commitWithCacheCtx_ok success)

/-- A call that is let through has flushed the state. -/
theorem enterPrecompile_flushed (success : enterPrecompile env s = .ok (t, none)) :
    ∃ cache u ctx, (journalCall s).cacheCtx = some cache ∧
      commitWithCtx env (journalCall s) cache.context true = .ok (u, ctx, none) ∧
      t = { u with cacheCtx := some (cache.withContext ctx) } := by
  rcases enterPrecompile_cases success with ⟨-, stopped⟩ | flushed
  · cases stopped
  · exact flushed

theorem journalCall_entered (env : Env) (mask : Mask) (s : StateDb) : Entered env mask s (journalCall s) where
  entries := ⟨_, rfl⟩
  saved := ⟨_, rfl, rfl⟩
  view := rfl
  validRevisions := rfl
  nextRevisionID := rfl
  sound := fun sound => ⟨sound.addressed, sound.accessList⟩

theorem enterPrecompile_entered (sound : Sound s) (calm : Calm env mask s) {err : Option GoError}
    (success : enterPrecompile env s = .ok (t, err)) : Entered env mask s t := by
  have begun := journalCall_entered env mask s
  rcases enterPrecompile_cases success with ⟨rfl, -⟩ | ⟨cache, u, ctx, held, committed, rfl⟩
  · exact begun
  · obtain ⟨_, kept, saved⟩ := begun.saved
    obtain rfl := Option.some.inj (held.symm.trans kept)
    have calm' : Calm env mask (journalCall s) := calm
    have cached := commitObjects_cached (begun.sound sound).addressed calm' committed
    refine ⟨?_, ⟨cache.withContext ctx, rfl, saved⟩, ?_, ?_, ?_, ?_⟩
    · obtain ⟨events, entries⟩ := begun.entries
      refine ⟨events, ?_⟩
      rw [← entries, cached.rest]
    · rw [← begun.view, ← cached.view]
      rfl
    · rw [← begun.validRevisions, cached.rest]
    · rw [← begun.nextRevisionID, cached.rest]
    · intro sound
      have kept := cached.sound (begun.sound sound)
      exact ⟨kept.addressed, kept.accessList⟩

/-! The balance handler only moves balances. -/

theorem afterEvent_cases {event : Event} (success : BalanceHandler.afterEvent env s event = .ok t) :
    t = s ∨ ∃ addr amount, t = addBalance env s addr amount := by
  cases event with
  | coinSpent spender coins =>
    obtain ⟨addr, -, success⟩ := bind_ok success
    split at success
    · cases success
      exact Or.inl rfl
    · obtain ⟨amount, -, final⟩ := bind_ok success
      cases final
      exact Or.inr ⟨_, -amount, subBalance_eq env s _ amount⟩
  | coinReceived receiver coins =>
    obtain ⟨addr, -, success⟩ := bind_ok success
    split at success
    · cases success
      exact Or.inl rfl
    · obtain ⟨amount, -, final⟩ := bind_ok success
      cases final
      exact Or.inr ⟨_, amount, rfl⟩
  | fractionalBalanceChange address delta =>
    obtain ⟨addr, -, success⟩ := bind_ok success
    split at success
    · cases success
      exact Or.inl rfl
    · obtain ⟨amount, -, final⟩ := bind_ok success
      cases final
      split
      · exact Or.inr ⟨_, amount, rfl⟩
      · split
        · exact Or.inr ⟨_, -amount, subBalance_eq env s _ amount⟩
        · exact Or.inl rfl
  | other type =>
    cases success
    exact Or.inl rfl

theorem afterEvents_invariant (inv : StateDb → Prop) (events : List Event) (start : inv s)
    (add : ∀ u addr amount, inv u → inv (addBalance env u addr amount)) :
    inv (BalanceHandler.afterEvents env events s).1 := by
  induction events generalizing s with
  | nil => exact start
  | cons event rest ih =>
    unfold BalanceHandler.afterEvents
    split
    · exact start
    · rename_i next stepped
      rcases afterEvent_cases stepped with rfl | ⟨addr, amount, rfl⟩
      · exact ih start
      · exact ih (add s addr amount start)

/-- The balance handler writes balances only. -/
theorem afterEvents_edits {allow : Address → WriteKind → Prop} (env : Env) (events : List Event) (s : StateDb)
    (allowed : ∀ addr, allow addr .balance) : Edits env allow s (BalanceHandler.afterEvents env events s).1 :=
  afterEvents_invariant (Edits env allow s) events .refl
    fun u addr amount so => so.trans (addBalance_edits env u addr amount (allowed addr))

theorem afterEvents_journaled (sound : Sound s) (events : List Event) :
    Journaled env mask s (BalanceHandler.afterEvents env events s).1 :=
  Edits.journaled (afterEvents_edits env events s fun _ => trivial : Edits env (fun _ _ => True) s _) sound

/-- A call stops before its action, or the action runs and the balance handler replays
some of its events. -/
theorem runNativeAction_cases {p : Precompile} {err : Option GoError}
    (success : runNativeAction env p s = .ok (t, err)) : (err ≠ none ∧ enterPrecompile env s = .ok (t, err)) ∨
      ∃ u ctx failed events, enterPrecompile env s = .ok (u, none) ∧
        p.action (cacheContext u) = .ok (ctx, failed) ∧ (err = none → failed = none) ∧
        (BalanceHandler.afterEvents env events (withCacheContext u ctx)).1 = t := by
  unfold runNativeAction at success
  obtain ⟨⟨u, stopped⟩, began, success⟩ := bind_ok success
  cases stopped with
  | some fault =>
    cases success
    exact Or.inl ⟨by simp, began⟩
  | none =>
    obtain ⟨⟨ctx, failed⟩, acted, final⟩ := bind_ok success
    refine Or.inr ⟨u, ctx, failed, ?_⟩
    cases failed with
    | some fault =>
      cases final
      exact ⟨[], began, acted, by simp, rfl⟩
    | none =>
      cases handled : p.balanceHandler with
      | false =>
        simp only [handled] at final
        cases final
        exact ⟨[], began, acted, by simp, rfl⟩
      | true =>
        simp only [handled, if_true] at final
        exact ⟨_, began, acted, by simp, congrArg Prod.fst (Except.ok.inj final)⟩

/-- A precompile call journals what takes the view back, whatever its action does. -/
theorem runNativeAction_journaled (sound : Sound s) (calm : Calm env mask s) {p : Precompile}
    {err : Option GoError} (success : runNativeAction env p s = .ok (t, err)) : Journaled env mask s t := by
  rcases runNativeAction_cases success with ⟨-, began⟩ | ⟨u, ctx, -, events, began, -, -, rfl⟩
  · exact (enterPrecompile_entered sound calm began).journaled sound
  · have entered := enterPrecompile_entered sound calm began
    have acted := (entered.withCacheContext ctx).journaled sound
    exact acted.trans (afterEvents_journaled acted.sound events)

end OgEvm.StateDb
