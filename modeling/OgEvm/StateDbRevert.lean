import OgEvm.StateDbUndo

/- `RevertToSnapshot`: the replay of the journal is the undo of the views, so a
revision that is still valid is brought back as every query shows it. -/
namespace OgEvm.StateDb

open UndoLog ExceptFacts Layers

/-- What no undo of an entry touches. -/
structure Framed (s t : StateDb) : Prop where
  journal : t.journal = s.journal
  validRevisions : t.validRevisions = s.validRevisions
  nextRevisionID : t.nextRevisionID = s.nextRevisionID
  ctx : t.ctx = s.ctx

variable {env : Env} {mask : Mask} {s t : StateDb}

theorem Cached.framed (cached : Cached env mask s t) : Framed s t := by
  constructor <;> rw [cached.rest]

theorem Framed.setStateObject (framed : Framed s t) (obj : StateObject) : Framed s (setStateObject t obj) :=
  ⟨framed.journal, framed.validRevisions, framed.nextRevisionID, framed.ctx⟩

theorem revertObject_ok {addr : Address} {undo : StateObject → StateObject}
    (success : revertObject env s addr undo = .ok t) :
    ∃ obj u, getStateObject env s addr = (some obj, u) ∧ t = setStateObject u (undo obj) := by
  unfold revertObject at success
  rcases found : getStateObject env s addr with ⟨_ | obj, u⟩
  · simp [found] at success
  · simp only [found] at success
    cases success
    exact ⟨obj, u, rfl, rfl⟩

theorem revertMultiStore_ok {snapshot : ℤ} {events : List Event}
    (success : revertMultiStore s snapshot events = .ok t) : ∃ cache, t = { s with cacheCtx := some cache } := by
  unfold revertMultiStore at success
  split at success
  · cases success
  split at success
  · cases success
  split at success
  · cases success
  · cases success
    exact ⟨_, rfl⟩

theorem revertLog_ok (success : revertEntry env s .addLogChange = .ok t) :
    t = { s with logs := s.logs.dropLast } := by
  simp only [revertEntry] at success
  obtain ⟨-, success⟩ := ite_error_ok success
  exact (Except.ok.inj success).symm

/-- What the undo of an entry can do to the state. -/
inductive RevertEffect (env : Env) (s : StateDb) : StateDb → Prop
  | forgets (addr : Address) :
      RevertEffect env s { s with stateObjects := Function.update s.stateObjects addr none }
  | resets (obj : StateObject) : RevertEffect env s (setStateObject s obj)
  | misses {addr : Address} {u : StateDb} (loading : getStateObject env s addr = (none, u)) :
      RevertEffect env s u
  | changes {addr : Address} {obj : StateObject} {u : StateDb}
      (loading : getStateObject env s addr = (some obj, u)) (undo : StateObject → StateObject) :
      RevertEffect env s (setStateObject u (undo obj))
  | elsewhere (transient : Address → Hash → Hash) (refund : UInt64) (logs : List Log)
      (accessList : AccessList) (cacheCtx : Option CacheCtx) :
      RevertEffect env s { s with
        transientStorage := transient, refund := refund, logs := logs, accessList := accessList,
        cacheCtx := cacheCtx }

section

variable {entry : JournalEntry} {before : View}

theorem revertObject_effect {addr : Address} {undo : StateObject → StateObject}
    (success : revertObject env s addr undo = .ok t) : RevertEffect env s t := by
  obtain ⟨obj, u, loading, rfl⟩ := revertObject_ok success
  exact .changes loading undo

theorem revertEntry_effect (success : revertEntry env s entry = .ok t) : RevertEffect env s t := by
  cases entry with
  | createObjectChange account => cases success; exact .forgets account
  | resetObjectChange prev => cases success; exact .resets prev
  | selfDestructChange account prev prevbalance =>
    simp only [revertEntry] at success
    rcases loading : getStateObject env s account with ⟨_ | obj, u⟩ <;> rw [loading] at success
    · cases success
      exact .misses loading
    · cases success
      exact .changes loading fun obj => withBalance { obj with selfDestructed := prev } prevbalance
  | balanceChange account prev => exact revertObject_effect success
  | nonceChange account prev => exact revertObject_effect success
  | storageChange account key preValue origValue => exact revertObject_effect success
  | transientStorageChange account key prevalue => cases success; exact .elsewhere _ _ _ _ _
  | codeChange account prevcode prevhash => exact revertObject_effect success
  | refundChange prev => cases success; exact .elsewhere _ _ _ _ _
  | addLogChange => rw [revertLog_ok success]; exact .elsewhere _ _ _ _ _
  | accessListAddAccountChange address => cases success; exact .elsewhere _ _ _ _ _
  | accessListAddSlotChange address slot =>
    obtain ⟨al, -, rfl⟩ := map_ok success
    exact .elsewhere _ _ _ _ _
  | precompileCallChange snapshot events =>
    obtain ⟨cache, rfl⟩ := revertMultiStore_ok success
    exact .elsewhere _ _ _ _ _
  | createContractChange account => exact revertObject_effect success

theorem revertEntry_framed (success : revertEntry env s entry = .ok t) : Framed s t := by
  cases revertEntry_effect success with
  | forgets addr => exact ⟨rfl, rfl, rfl, rfl⟩
  | resets obj => exact ⟨rfl, rfl, rfl, rfl⟩
  | misses loading => exact (loading_cached noSlot loading).framed
  | changes loading undo => exact (loading_cached noSlot loading).framed.setStateObject _
  | elsewhere => exact ⟨rfl, rfl, rfl, rfl⟩

theorem revertEntry_addressed (addressed : Addressed s) (success : revertEntry env s entry = .ok t) :
    Addressed t := by
  cases revertEntry_effect success with
  | forgets addr => exact addressed_forget addressed addr
  | resets obj => exact addressed_setStateObject addressed obj
  | misses loading => exact (loading_cached noSlot loading).addressed addressed
  | changes loading undo =>
    exact addressed_setStateObject ((loading_cached noSlot loading).addressed addressed) _
  | elsewhere => exact addressed

/-! The undo of an entry, on the state and on its view. -/

theorem revertObject_undo (addressed : Addressed s) {addr : Address} (undo : StateObject → StateObject)
    {change : ObjView → ObjView} (address : ∀ obj, (undo obj).address = obj.address)
    (shows : ∀ obj, obj.address = addr → objView env mask s.ctx.store (undo obj) = change (objView env mask
      s.ctx.store obj)) (undone : (view env mask s).modifyObject addr change = some before) :
    ∃ t, revertObject env s addr undo = .ok t ∧ view env mask t = before ∧ Addressed t := by
  rcases found : getStateObject env s addr with ⟨_ | obj, u⟩
  · obtain ⟨rfl, absent, missing⟩ := getStateObject_none found
    simp [View.modifyObject, view_objects, absent, missing] at undone
  · obtain ⟨rfl, -, cached, held⟩ := getStateObject_some addressed found
    refine ⟨setStateObject u (undo obj), by simp only [revertObject, found], ?_,
      addressed_setStateObject (cached.addressed addressed) _⟩
    rw [View.modifyObject, held] at undone
    rw [view_setStateObject, cached.view, cached.store, address, shows obj rfl]
    exact Option.some.inj undone

theorem revertEntry_undo (addressed : Addressed s)
    (undone : undoView env mask entry (view env mask s) = some before) :
    ∃ t, revertEntry env s entry = .ok t ∧ view env mask t = before ∧ Addressed t := by
  cases entry with
  | createObjectChange account =>
    refine ⟨_, rfl, ?_, addressed_forget addressed account⟩
    rw [view_forget]
    exact Option.some.inj undone
  | resetObjectChange prev =>
    refine ⟨_, rfl, ?_, addressed_setStateObject addressed prev⟩
    rw [view_setStateObject]
    exact Option.some.inj undone
  | selfDestructChange account prev prevbalance =>
    obtain ⟨t, reverted, shown, kept⟩ := revertObject_undo addressed
      (fun obj => withBalance { obj with selfDestructed := prev } prevbalance)
      (fun _ => rfl) (fun _ _ => rfl) undone
    obtain ⟨obj, u, found, rfl⟩ := revertObject_ok reverted
    exact ⟨_, by simp only [revertEntry, found], shown, kept⟩
  | balanceChange account prev =>
    exact revertObject_undo addressed _ (fun _ => rfl) (fun _ _ => rfl) undone
  | nonceChange account prev =>
    exact revertObject_undo addressed _ (fun _ => rfl) (fun _ _ => rfl) undone
  | storageChange account key preValue origValue =>
    refine revertObject_undo addressed _ (fun obj => ?_) (fun obj here => ?_) undone
    · rw [withState_rest]
    · rw [objView_withState, here]
  | transientStorageChange account key prevalue =>
    exact ⟨_, rfl, Option.some.inj undone, addressed⟩
  | codeChange account prevcode prevhash =>
    exact revertObject_undo addressed _ (fun _ => rfl) (fun _ _ => rfl) undone
  | refundChange prev => exact ⟨_, rfl, Option.some.inj undone, addressed⟩
  | addLogChange =>
    simp only [undoView] at undone
    split at undone
    · cases undone
    · rename_i some_log
      exact ⟨{ s with logs := s.logs.dropLast }, if_neg some_log, Option.some.inj undone, addressed⟩
  | accessListAddAccountChange address => exact ⟨_, rfl, Option.some.inj undone, addressed⟩
  | accessListAddSlotChange address slot =>
    simp only [undoView] at undone
    split at undone
    · cases undone
    · rename_i al deleted
      refine ⟨{ s with accessList := al }, ?_, Option.some.inj undone, addressed⟩
      change (s.accessList.deleteSlot address slot).map _ = _
      change s.accessList.deleteSlot address slot = _ at deleted
      rw [deleted]
      rfl
  | precompileCallChange snapshot events =>
    simp only [undoView] at undone
    split at undone
    · cases undone
    · rename_i nonneg
      obtain ⟨copies, truncated, rfl⟩ := Option.map_eq_some_iff.mp undone
      have kept := Copies.truncate_length truncated
      cases held : s.cacheCtx with
      | none => simp [view, cacheCopies, held] at kept
      | some cache =>
        have same : (view env mask s).copies = cache.copies := by simp [view, cacheCopies, held]
        rw [same] at truncated
        let restored : CacheCtx := { cache with copies := copies, writeCache := .captured events }
        refine ⟨{ s with cacheCtx := some restored }, ?_, rfl, addressed⟩
        simp only [revertEntry, revertMultiStore, held, nonneg, if_false, truncated]
        rfl
  | createContractChange account =>
    exact revertObject_undo addressed _ (fun _ => rfl) (fun _ _ => rfl) undone

/-! The replay of a stretch of the journal. -/

theorem revertLast_ok (success : revertLast env s entry = .ok t) :
    ∃ u, revertEntry env s entry = .ok u ∧ t = { u with journal := s.journal.undoLast entry } := by
  obtain ⟨u, reverted, final⟩ := bind_ok success
  cases final
  refine ⟨u, reverted, ?_⟩
  rw [(revertEntry_framed reverted).journal]

theorem foldlM_revertLast_framed (stretch : List JournalEntry) {s : StateDb}
    (success : stretch.foldlM (revertLast env) s = .ok t) :
    t.validRevisions = s.validRevisions ∧ t.nextRevisionID = s.nextRevisionID ∧ t.ctx = s.ctx ∧
      t.journal.entries = s.journal.entries.take (s.journal.entries.length - stretch.length) := by
  induction stretch generalizing s with
  | nil =>
    cases success
    exact ⟨rfl, rfl, rfl, by simp⟩
  | cons entry rest ih =>
    rw [List.foldlM_cons] at success
    obtain ⟨middle, first, later⟩ := bind_ok success
    obtain ⟨u, reverted, rfl⟩ := revertLast_ok first
    have framed := revertEntry_framed reverted
    obtain ⟨revisions, next, ctx, taken⟩ := ih later
    refine ⟨revisions.trans framed.validRevisions, next.trans framed.nextRevisionID, ctx.trans framed.ctx, ?_⟩
    simp only [Journal.undoLast] at taken
    rw [taken, List.dropLast_eq_take, List.take_take, List.length_take, List.length_cons]
    congr 1
    omega

/-- What holds of a state and is kept by undoing its last entry holds after a replay. -/
theorem foldlM_revertLast_invariant (inv : StateDb → Prop)
    (keeps : ∀ (s t : StateDb) (rest : List JournalEntry) (entry : JournalEntry), inv s → s.journal.entries =
      rest ++ [entry] → revertLast env s entry = .ok t → inv t) (stretch : List JournalEntry) {s : StateDb}
    {rest : List JournalEntry} (entries : s.journal.entries = rest ++ stretch.reverse) (holds : inv s)
    (success : stretch.foldlM (revertLast env) s = .ok t) : inv t := by
  induction stretch generalizing s with
  | nil =>
    cases success
    exact holds
  | cons entry later ih =>
    rw [List.foldlM_cons] at success
    obtain ⟨middle, first, success⟩ := bind_ok success
    rw [List.reverse_cons, ← List.append_assoc] at entries
    have dropped : middle.journal.entries = rest ++ later.reverse := by
      obtain ⟨u, -, rfl⟩ := revertLast_ok first
      simp only [Journal.undoLast]
      rw [entries, List.dropLast_concat]
    exact ih dropped (keeps s middle _ entry holds entries first) success

theorem revertLast_undo (addressed : Addressed s) (undone : undoView env mask entry (view env mask s) = some before) :
    ∃ t, revertLast env s entry = .ok t ∧ view env mask t = before ∧ Addressed t := by
  obtain ⟨t, reverted, shown, kept⟩ := revertEntry_undo addressed undone
  exact ⟨_, bind_of_ok reverted _, shown, kept⟩

theorem revertJournal_undo (addressed : Addressed s) {index : ℕ}
    (reach : Undoes (undoView env mask) s.journal.entries index (view env mask s) before) :
    ∃ t, revertJournal env s index = .ok t ∧ view env mask t = before ∧ Addressed t ∧
      t.validRevisions = s.validRevisions ∧ t.nextRevisionID = s.nextRevisionID ∧
      t.journal.entries = s.journal.entries.take index := by
  have simulates : ∀ (s : StateDb) (entry : JournalEntry) (before : View), Addressed s →
      undoView env mask entry (view env mask s) = some before →
      ∃ t, revertLast env s entry = .ok t ∧ view env mask t = before ∧ Addressed t :=
    fun _ _ _ kept undone => revertLast_undo kept undone
  obtain ⟨t, reverted, shown, kept⟩ := foldlM_undo Addressed simulates
    (s.journal.entries.drop index) addressed reach.undone
  obtain ⟨revisions, next, -, taken⟩ := foldlM_revertLast_framed _ reverted
  refine ⟨t, reverted, shown, kept, revisions, next, ?_⟩
  rw [taken, List.length_reverse, List.length_drop, Nat.sub_sub_self reach.inside]

end

/-- A revert replays the journal down to the index of a valid revision. -/
theorem revertToSnapshot_ok {revid : ℤ} (success : revertToSnapshot env s revid = .ok t) :
    ∃ idx revision u, s.validRevisions[idx]? = some revision ∧
      (s.journal.entries.drop revision.journalIndex).reverse.foldlM (revertLast env)
        { s with ctx := { s.ctx with events := revision.events } } = .ok u ∧
      u.journal.entries = s.journal.entries.take revision.journalIndex ∧
      t = { u with validRevisions := s.validRevisions.take idx } := by
  unfold revertToSnapshot at success
  dsimp only at success
  split at success
  · cases success
  rename_i revision found
  split at success
  · cases success
  obtain ⟨u, replayed, success⟩ := bind_ok success
  cases success
  obtain ⟨revisions, -, -, taken⟩ := foldlM_revertLast_framed _ replayed
  refine ⟨_, revision, u, found, replayed, ?_, by rw [revisions]⟩
  rw [taken, List.length_reverse, List.length_drop]
  change s.journal.entries.take (s.journal.entries.length -
    (s.journal.entries.length - revision.journalIndex)) = _
  by_cases inside : revision.journalIndex ≤ s.journal.entries.length
  · rw [Nat.sub_sub_self inside]
  · rw [List.take_of_length_le (by omega), List.take_of_length_le (by omega)]

/-- What undoing the last entry keeps, a revert keeps. -/
theorem revertToSnapshot_invariant (inv : StateDb → Prop)
    (keeps : ∀ (s t : StateDb) (rest : List JournalEntry) (entry : JournalEntry), inv s → s.journal.entries =
      rest ++ [entry] → revertLast env s entry = .ok t → inv t) {revid : ℤ}
    (start : ∀ events, inv { s with ctx := { s.ctx with events := events } })
    (forget : ∀ u revisions, inv u → inv { u with validRevisions := revisions })
    (success : revertToSnapshot env s revid = .ok t) : inv t := by
  obtain ⟨idx, revision, u, -, undone, -, rfl⟩ := revertToSnapshot_ok success
  have split : ({ s with ctx := { s.ctx with events := revision.events } } : StateDb).journal.entries =
      s.journal.entries.take revision.journalIndex ++
        (s.journal.entries.drop revision.journalIndex).reverse.reverse := by
    rw [List.reverse_reverse, List.take_append_drop]
  exact forget u _ (foldlM_revertLast_invariant inv keeps _ split (start revision.events) undone)

end OgEvm.StateDb
