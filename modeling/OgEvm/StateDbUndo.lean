import OgEvm.StateDbEdits

/- Every operation journals the entries that take the view of the StateDB back. -/
namespace OgEvm.StateDb

open Function UndoLog

structure Sound (s : StateDb) : Prop where
  addressed : Addressed s
  accessList : s.accessList.Wf

structure Journaled (env : Env) (mask : Mask) (s t : StateDb) : Prop where
  undone : ∃ added, t.journal.entries = s.journal.entries ++ added ∧
    undoAll (undoView env mask) added (view env mask t) = some (view env mask s)
  validRevisions : t.validRevisions = s.validRevisions
  nextRevisionID : t.nextRevisionID = s.nextRevisionID
  sound : Sound t

variable {env : Env} {mask : Mask} {s t u : StateDb}

theorem Cached.sound (cached : Cached env mask s t) (sound : Sound s) : Sound t := by
  refine ⟨cached.addressed sound.addressed, ?_⟩
  rw [cached.rest]
  exact sound.accessList

theorem Cached.journaled (cached : Cached env mask s t) (sound : Sound s) : Journaled env mask s t where
  undone := by
    refine ⟨[], ?_, ?_⟩
    · rw [cached.rest, List.append_nil]
    · rw [cached.view]
      rfl
  validRevisions := by rw [cached.rest]
  nextRevisionID := by rw [cached.rest]
  sound := cached.sound sound

theorem Journaled.trans (first : Journaled env mask s t) (second : Journaled env mask t u) :
    Journaled env mask s u where
  undone := by
    obtain ⟨added, entries, back⟩ := first.undone
    obtain ⟨more, further, undo⟩ := second.undone
    refine ⟨added ++ more, by rw [further, entries, List.append_assoc], ?_⟩
    rw [undoAll_append, undo]
    exact back
  validRevisions := second.validRevisions.trans first.validRevisions
  nextRevisionID := second.nextRevisionID.trans first.nextRevisionID
  sound := second.sound

/-- One entry that takes the view back. -/
theorem journaled_entry {entry : JournalEntry} (entries : t.journal.entries = s.journal.entries ++ [entry])
    (undo : undoView env mask entry (view env mask t) = some (view env mask s))
    (validRevisions : t.validRevisions = s.validRevisions)
    (nextRevisionID : t.nextRevisionID = s.nextRevisionID) (sound : Sound t) : Journaled env mask s t where
  undone := ⟨[entry], entries, undo⟩
  validRevisions := validRevisions
  nextRevisionID := nextRevisionID
  sound := sound

theorem sound_setStateObject (sound : Sound s) (obj : StateObject) : Sound (setStateObject s obj) :=
  ⟨addressed_setStateObject sound.addressed obj, sound.accessList⟩

theorem sound_append (sound : Sound s) (entry : JournalEntry) : Sound (append s entry) :=
  ⟨sound.addressed, sound.accessList⟩

theorem journaled_set {entry : JournalEntry} {changed : StateObject} (sound : Sound s)
    (undo : undoView env mask entry ((view env mask s).setObject changed.address
      (some (objView env mask s.ctx.store changed))) = some (view env mask s)) :
    Journaled env mask s (setStateObject (append s entry) changed) := by
  refine journaled_entry rfl ?_ rfl rfl (sound_setStateObject (sound_append sound entry) changed)
  rw [view_setStateObject]
  exact undo

/-- The undo of the entry of a write puts the object back. -/
theorem Rewrite.undo {store : VmStore} {addr : Address} {obj changed : StateObject} {kind : WriteKind}
    {entry : JournalEntry} (written : Rewrite env store addr obj kind entry changed) (home : obj.address = addr)
    {v : View} (base : v.base = store) (held : v.objects addr = some (objView env mask store obj)) :
    changed.address = addr ∧
      undoView env mask entry (v.setObject addr (some (objView env mask store changed))) = some v := by
  subst home base
  cases written with
  | balance amount => exact ⟨rfl, modifyObject_undo held rfl⟩
  | nonce nonce => exact ⟨rfl, modifyObject_undo held rfl⟩
  | code code => exact ⟨rfl, modifyObject_undo held rfl⟩
  | selfDestruct => exact ⟨rfl, modifyObject_undo held rfl⟩
  | newContract fresh =>
    refine ⟨rfl, modifyObject_undo held ?_⟩
    rw [objView, objView, fresh]
    rfl
  | reset =>
    refine ⟨rfl, ?_⟩
    change some ((View.setObject _ _ _).setObject obj.address (some (objView env mask v.base obj))) = _
    rw [setObject_setObject, ← held, setObject_self]
  | state key value =>
    refine ⟨by rw [withState_rest], modifyObject_undo held ?_⟩
    rw [objView_withState]
    by_cases seen : mask obj.address key
    · have back : (if stateOf v.base obj key = committedOf v.base obj key then
          (objView env mask v.base obj).committed key else stateOf v.base obj key) =
          (objView env mask v.base obj).state key := by
        simp only [objView, masked, seen, if_true]
        split <;> simp [*]
      simp only [seen, if_true, update_idem]
      rw [back, update_eq_self]
    · simp only [seen]
      rfl

theorem Edit.journaled {allow : Address → WriteKind → Prop} (edit : Edit env allow s t) (sound : Sound s) :
    Journaled env mask s t := by
  cases edit with
  | load load => exact (load.cached sound.addressed).journaled sound
  | @create addr absent missing =>
    refine journaled_set sound ?_
    change some ((View.setObject _ addr _).setObject addr
      ((loaded env s.ctx.store addr).map (objView env mask s.ctx.store))) = _
    have held : (view env mask s).objects addr =
        (loaded env s.ctx.store addr).map (objView env mask s.ctx.store) := by
      rw [view_objects, absent]
      rfl
    rw [setObject_setObject, ← held, setObject_self]
  | @write addr _ read _ _ _ held cached written =>
    have same := cached.recached
    have shown : (view env mask s).objects addr = some (objView env mask s.ctx.store read) := by
      rw [view_objects, held, same.objView]
      rfl
    obtain ⟨place, undo⟩ := written.undo (same.address.trans (sound.addressed _ _ held)) rfl shown
    refine journaled_set sound ?_
    rw [place]
    exact undo

theorem Edits.journaled {allow : Address → WriteKind → Prop} (edits : Edits env allow s t) (sound : Sound s) :
    Journaled env mask s t :=
  edits.keeps (Journaled env mask s) (fun _ _ so edit => so.trans (edit.journaled so.sound))
    ((Cached.refl env mask s).journaled sound)

section

variable (sound : Sound s)

include sound

theorem setTransientState_journaled (addr : Address) (key value : Hash) :
    Journaled env mask s (setTransientState s addr key value) := by
  unfold setTransientState
  simp only
  split
  · exact (Cached.refl env mask s).journaled sound
  · refine journaled_entry rfl ?_ rfl rfl ⟨sound.addressed, sound.accessList⟩
    have back : update (update s.transientStorage addr
        (update (s.transientStorage addr) key value)) addr
        (update (update s.transientStorage addr
          (update (s.transientStorage addr) key value) addr) key
          (getTransientState s addr key)) = s.transientStorage := by
      simp [getTransientState]
    simp only [undoView, view]
    rw [back]
    rfl

/-! Logs, the refund counter and the access list. -/

theorem addLog_journaled (log : Log) : Journaled env mask s (addLog s log) := by
  refine journaled_entry rfl ?_ rfl rfl ⟨sound.addressed, sound.accessList⟩
  simp [undoView, view, addLog, append, cacheCopies]

theorem addRefund_journaled (gas : UInt64) : Journaled env mask s (addRefund s gas) :=
  journaled_entry rfl rfl rfl rfl ⟨sound.addressed, sound.accessList⟩

theorem subRefund_journaled {gas : UInt64} (success : subRefund s gas = .ok t) : Journaled env mask s t := by
  unfold subRefund at success
  split at success
  · cases success
  · cases success
    exact journaled_entry rfl rfl rfl rfl ⟨sound.addressed, sound.accessList⟩

theorem addAddressToAccessList_journaled (addr : Address) : Journaled env mask s (addAddressToAccessList s addr) := by
  unfold addAddressToAccessList
  rcases AccessList.addAddress_cases sound.accessList addr with same | ⟨added, changed, wf, back⟩
  · rw [same]
    exact (Cached.refl env mask s).journaled sound
  · rw [changed]
    refine journaled_entry rfl ?_ rfl rfl ⟨sound.addressed, wf⟩
    simp only [undoView, view, append]
    rw [back]
    rfl

theorem addSlotToAccessList_journaled {addr : Address} {slot : Hash}
    (success : addSlotToAccessList s addr slot = .ok t) : Journaled env mask s t := by
  unfold addSlotToAccessList at success
  by_cases deep : ∃ idx, s.accessList.addresses addr = some idx ∧ idx ≠ -1
  · obtain ⟨idx, found, apart⟩ := deep
    rcases AccessList.addSlot_next sound.accessList found apart slot with same | ⟨added, changed, wf, back⟩
    · rw [same] at success
      cases success
      exact (Cached.refl env mask s).journaled sound
    · rw [changed] at success
      cases success
      refine journaled_entry rfl ?_ rfl rfl ⟨sound.addressed, wf⟩
      change undoView env mask _ { view env mask s with accessList := added } = _
      simp only [undoView, back]
      rfl
  · have shallow : ∀ idx, s.accessList.addresses addr = some idx → idx = -1 := by
      intro idx found
      by_contra apart
      exact deep ⟨idx, found, apart⟩
    obtain ⟨added, changed, wf, back⟩ := AccessList.addSlot_first sound.accessList addr slot shallow
    rw [changed] at success
    cases success
    cases found : s.accessList.addresses addr with
    | some idx =>
      have whole : update s.accessList.addresses addr (some (-1)) =
          s.accessList.addresses := by
        rw [← shallow idx found, ← found, update_eq_self]
      refine journaled_entry rfl ?_ rfl rfl ⟨sound.addressed, wf⟩
      simp [undoView, view, append, back, whole, cacheCopies]
    | none =>
      refine ⟨⟨[.accessListAddAccountChange addr, .accessListAddSlotChange addr slot],
        by simp [append, Journal.append], ?_⟩, rfl, rfl, ⟨sound.addressed, wf⟩⟩
      have whole : update s.accessList.addresses addr none =
          s.accessList.addresses := by
        rw [← found, update_eq_self]
      simp [undoAll, undoView, view, append, back, AccessList.deleteAddress, whole, cacheCopies]

/-- The operations that only journal. -/
theorem run_journaled {op : Op} (success : op.run env s = .ok t)
    (plain : op ≠ .snapshot ∧ ∀ revid, op ≠ .revertToSnapshot revid) : Journaled env mask s t := by
  cases about : op.beside with
  | false =>
    have edits : Edits env (fun _ _ => True) s t := Op.run_edits success about fun _ _ _ => trivial
    exact edits.journaled sound
  | true =>
    cases op with
    | setTransientState addr key value =>
      cases success
      exact setTransientState_journaled sound addr key value
    | addLog log => cases success; exact addLog_journaled sound log
    | addRefund gas => cases success; exact addRefund_journaled sound gas
    | subRefund gas => exact subRefund_journaled sound success
    | addAddressToAccessList addr => cases success; exact addAddressToAccessList_journaled sound addr
    | addSlotToAccessList addr slot => exact addSlotToAccessList_journaled sound success
    | snapshot => exact absurd rfl plain.1
    | revertToSnapshot revid => exact absurd rfl (plain.2 revid)
    | _ => cases about

end

end OgEvm.StateDb
