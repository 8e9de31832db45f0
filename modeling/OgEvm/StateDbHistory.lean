import OgEvm.PrecisebankInvariant
import OgEvm.StateDbFlush
import OgEvm.StateDbRevert

/- Runs of the StateDB: every valid revision can be brought back. Precompile calls
are part of a run; the slots they flush are outside of the mask. -/
namespace OgEvm.StateDb

open UndoLog ExceptFacts

def runOps (env : Env) (s : StateDb) (ops : List Op) : Except DbPanic StateDb :=
  ops.foldlM (Op.run env) s

/-- A step of a transaction. A precompile call that fails is a step as well: the EVM
goes back to the snapshot of the frame in a later one. -/
inductive Step where
  | op (op : Op)
  | precompile (p : Precompile)

def Step.run (env : Env) (s : StateDb) : Step → Except DbPanic StateDb
  | .op operation => operation.run env s
  | .precompile p => (runNativeAction env p s).map Prod.fst

def runSteps (env : Env) (s : StateDb) (steps : List Step) : Except DbPanic StateDb :=
  steps.foldlM (Step.run env) s

/-- The arguments of `Prepare`. -/
structure Preparation where
  rules : Rules
  sender : Address
  coinbase : Address
  dst : Option Address
  precompiles : List Address
  list : List AccessTuple

/-- The StateDB of a transaction before its first operation. -/
def begin (ctx : Context) (txConfig : TxConfig) : Option Preparation → Except DbPanic StateDb
  | none => .ok (new ctx txConfig)
  | some p => prepare (new ctx txConfig) p.rules p.sender p.coinbase p.dst p.precompiles p.list

/-- The history of a run, seen through a mask. -/
structure Tracked (env : Env) (mask : Mask) (extra : View → Prop) (watched : ℤ → Prop)
    (marks : ℤ → View) (s : StateDb) : Prop where
  addressed : Addressed s
  history : History Revision.id Revision.journalIndex (undoView env mask)
    (fun shown => shown.accessList.Wf ∧ extra shown) watched marks s.journal.entries
    s.validRevisions s.nextRevisionID (view env mask s)

section

variable {env : Env} {mask : Mask} {extra : View → Prop} {watched : ℤ → Prop} {marks : ℤ → View}
  {s t : StateDb}

section

variable (tracked : Tracked env mask extra watched marks s)

include tracked

theorem Tracked.sound : Sound s :=
  ⟨tracked.addressed, tracked.history.present.1⟩

theorem Tracked.journaled (change : Journaled env mask s t) (kept : extra (view env mask t)) :
    Tracked env mask extra watched marks t := by
  obtain ⟨added, entries, undone⟩ := change.undone
  refine ⟨change.sound.addressed, ?_⟩
  rw [change.validRevisions, change.nextRevisionID, entries]
  exact tracked.history.extend undone ⟨change.sound.accessList, kept⟩

theorem Tracked.snapshot :
    Tracked env mask extra watched (Function.update marks s.nextRevisionID (view env mask s)) (snapshot s).2 :=
  ⟨tracked.addressed, tracked.history.mark rfl rfl⟩

/-- A watched revision is brought back, and the earlier ones stay valid. -/
theorem Tracked.revertToSnapshot {index : ℕ} (inside : index < s.validRevisions.length)
    (seen : watched s.validRevisions[index].id) : ∃ t, revertToSnapshot env s s.validRevisions[index].id = .ok t ∧
      view env mask t = marks s.validRevisions[index].id ∧
      Tracked env mask extra watched marks t ∧ t.nextRevisionID = s.nextRevisionID ∧
      t.validRevisions = s.validRevisions.take index := by
  have member := List.getElem_mem inside
  have earlier := tracked.history.back inside seen
  obtain ⟨t, reverted, shown, addressed, revisions, next, entries⟩ := revertJournal_undo
    (s := { s with ctx := { s.ctx with events := s.validRevisions[index].events } })
    tracked.addressed (tracked.history.reach _ member seen)
  refine ⟨{ t with validRevisions := t.validRevisions.take index }, ?_, shown, ⟨addressed, ?_⟩, next, ?_⟩
  · simp only [StateDb.revertToSnapshot]
    rw [tracked.history.search inside, List.getElem?_eq_getElem inside]
    simp only [ne_eq, not_true_eq_false, if_false]
    rw [bind_of_ok reverted]
    rfl
  · have same : view env mask { t with validRevisions := t.validRevisions.take index } =
        marks s.validRevisions[index].id := shown
    rw [same]
    simp only [revisions, next, entries]
    exact earlier
  · rw [revisions]

end

theorem revertToSnapshot_valid {revid : ℤ} (success : StateDb.revertToSnapshot env s revid = .ok t) :
    ∃ index, ∃ inside : index < s.validRevisions.length, s.validRevisions[index].id = revid := by
  simp only [StateDb.revertToSnapshot] at success
  split at success
  · cases success
  · rename_i revision found
    obtain ⟨inside, equal⟩ := List.getElem?_eq_some_iff.mp found
    split at success
    · cases success
    · rename_i same
      rw [not_not] at same
      exact ⟨_, inside, by rw [equal, same]⟩

/-- What a step needs: a precompile call finds the mask calm, and a revert goes to a
watched revision. -/
structure Admissible (env : Env) (mask : Mask) (watched : ℤ → Prop) (s : StateDb) (step : Step) :
    Prop where
  calm : ∀ p, step = .precompile p → Calm env mask s
  seen : ∀ revid, step = .op (.revertToSnapshot revid) → watched revid

/-- How a step moves the revisions: those after it were there before or are new, and
a revert leaves only lower ones. -/
structure Advances (step : Step) (s t : StateDb) : Prop where
  next : s.nextRevisionID ≤ t.nextRevisionID
  revisions : ∀ revision ∈ t.validRevisions, revision ∈ s.validRevisions ∨
    revision.id = s.nextRevisionID
  lower : ∀ revid, step = .op (.revertToSnapshot revid) → ∀ revision ∈ t.validRevisions,
    revision.id < revid

theorem Journaled.advances (change : Journaled env mask s t) {step : Step}
    (other : ∀ revid, step ≠ .op (.revertToSnapshot revid)) : Advances step s t where
  next := le_of_eq change.nextRevisionID.symm
  revisions := by
    intro revision valid
    rw [change.validRevisions] at valid
    exact Or.inl valid
  lower := fun revid same => absurd same (other revid)

theorem snapshot_advances (s : StateDb) : Advances (.op .snapshot) s (snapshot s).2 where
  next := by
    change s.nextRevisionID ≤ s.nextRevisionID + 1
    omega
  revisions := by
    intro revision valid
    rcases List.mem_append.mp valid with old | new
    · exact Or.inl old
    · rw [List.mem_singleton.mp new]
      exact Or.inr rfl
  lower := by simp

/-- One step keeps the history and the marks issued so far. What else holds of the view
has to be shown for the steps that are no revert. -/
theorem Tracked.advance (tracked : Tracked env mask extra watched marks s) {step : Step}
    (success : step.run env s = .ok t) (admissible : Admissible env mask watched s step)
    (kept : (∀ revid, step ≠ .op (.revertToSnapshot revid)) → extra (view env mask t)) :
    ∃ later, Tracked env mask extra watched later t ∧
      (∀ id < s.nextRevisionID, later id = marks id) ∧ Advances step s t := by
  cases step with
  | precompile p =>
    obtain ⟨⟨u, err⟩, ran, rfl⟩ := map_ok success
    have change := runNativeAction_journaled tracked.sound (admissible.calm p rfl) ran
    exact ⟨marks, tracked.journaled change (kept (by simp)), fun _ _ => rfl, change.advances (by simp)⟩
  | op op =>
    change op.run env s = .ok t at success
    by_cases journals : op ≠ .snapshot ∧ ∀ revid, op ≠ .revertToSnapshot revid
    · have change : Journaled env mask s t := run_journaled tracked.sound success journals
      have forward : ∀ revid, Step.op op ≠ .op (.revertToSnapshot revid) :=
        fun revid same => journals.2 revid (Step.op.inj same)
      exact ⟨marks, tracked.journaled change (kept forward), fun _ _ => rfl, change.advances forward⟩
    · cases op with
      | snapshot =>
        cases success
        exact ⟨_, tracked.snapshot, fun id below => Function.update_of_ne (ne_of_lt below) _ _,
          snapshot_advances s⟩
      | revertToSnapshot revid =>
        have seen := admissible.seen revid rfl
        obtain ⟨index, inside, rfl⟩ := revertToSnapshot_valid success
        obtain ⟨back, reverted, -, still, next, revisions⟩ := tracked.revertToSnapshot inside seen
        change StateDb.revertToSnapshot env s _ = _ at success
        rw [reverted] at success
        cases success
        refine ⟨marks, still, fun _ _ => rfl, le_of_eq next.symm, ?_, ?_⟩
        · intro revision valid
          rw [revisions] at valid
          exact Or.inl (List.mem_of_mem_take valid)
        · intro revid same revision valid
          cases same
          rw [revisions] at valid
          obtain ⟨place, below, rfl⟩ := List.mem_take_iff_getElem.mp valid
          exact (List.pairwise_iff_getElem.mp tracked.history.ascending place index (by omega)
            inside (by omega)).1
      | _ => exact absurd ⟨by simp, by simp⟩ journals

theorem Tracked.step (tracked : Tracked env mask (fun _ => True) watched marks s) {step : Step}
    (success : step.run env s = .ok t) (admissible : Admissible env mask watched s step) :
    ∃ later, Tracked env mask (fun _ => True) watched later t ∧
      (∀ id < s.nextRevisionID, later id = marks id) ∧ Advances step s t :=
  tracked.advance success admissible fun _ => trivial

theorem calm_noSlot (env : Env) (s : StateDb) : Calm env noSlot s := by
  intro addr obj found
  rw [view_objects] at found
  obtain ⟨held, -, rfl⟩ := Option.map_eq_some_iff.mp found
  rfl

/-- Without slots to look at, every step is admissible. -/
theorem admissible_noSlot (env : Env) (s : StateDb) (step : Step) : Admissible env noSlot (fun _ => True) s step :=
  ⟨fun _ _ => calm_noSlot env s, fun _ _ => trivial⟩

/-- The history that holds of every run. -/
abbrev Everywhere (env : Env) (marks : ℤ → View) (s : StateDb) : Prop :=
  Tracked env noSlot (fun _ => True) (fun _ => True) marks s

theorem everywhere_runSteps (tracked : Everywhere env marks s) {steps : List Step}
    (success : runSteps env s steps = .ok t) : ∃ later, Everywhere env later t := by
  induction steps generalizing s marks with
  | nil =>
    cases success
    exact ⟨marks, tracked⟩
  | cons step rest ih =>
    rw [StateDb.runSteps, List.foldlM_cons] at success
    obtain ⟨middle, ran, remaining⟩ := bind_ok success
    obtain ⟨soon, kept, -⟩ := tracked.step ran (admissible_noSlot env s step)
    exact ih kept remaining

abbrev Valid (s : StateDb) (id : ℤ) : Prop := ∃ revision ∈ s.validRevisions, revision.id = id

/-- A revision that is valid at the end of a run was valid all along. -/
theorem valid_back (tracked : Everywhere env marks s) {steps : List Step}
    (success : runSteps env s steps = .ok t) {id : ℤ} (issued : id < s.nextRevisionID)
    (valid : Valid t id) : Valid s id := by
  induction steps generalizing s marks with
  | nil =>
    cases success
    exact valid
  | cons step rest ih =>
    rw [StateDb.runSteps, List.foldlM_cons] at success
    obtain ⟨middle, ran, remaining⟩ := bind_ok success
    obtain ⟨soon, kept, -, advances⟩ := tracked.step ran (admissible_noSlot env s step)
    obtain ⟨revision, member, rfl⟩ := ih kept remaining (lt_of_lt_of_le issued advances.next)
    rcases advances.revisions revision member with old | new
    · exact ⟨revision, old, rfl⟩
    · exact absurd new (ne_of_lt issued)

/-- Every precompile call of the run finds the mask calm. -/
def CalmRun (env : Env) (mask : Mask) : StateDb → List Step → Prop
  | _, [] => True
  | s, step :: rest =>
    (∀ p, step = .precompile p → Calm env mask s) ∧
      ∀ t, step.run env s = .ok t → CalmRun env mask t rest

/-- From a snapshot on, as long as its revision stays valid, what the mask shows at
the snapshot can be brought back. -/
theorem Tracked.window {since : ℤ} {all : ℤ → View} (everywhere : Everywhere env all s)
    (tracked : Tracked env mask (fun _ => True) (since ≤ ·) marks s) {steps : List Step}
    (success : runSteps env s steps = .ok t) (calm : CalmRun env mask s steps)
    (issued : since < s.nextRevisionID) (valid : Valid t since) :
    ∃ later, Tracked env mask (fun _ => True) (since ≤ ·) later t ∧ later since = marks since := by
  induction steps generalizing s marks all with
  | nil =>
    cases success
    exact ⟨marks, tracked, rfl⟩
  | cons step rest ih =>
    rw [StateDb.runSteps, List.foldlM_cons] at success
    obtain ⟨middle, ran, remaining⟩ := bind_ok success
    obtain ⟨soon, further, -, advances⟩ := everywhere.step ran (admissible_noSlot env s step)
    have above := lt_of_lt_of_le issued advances.next
    obtain ⟨revision, member, rfl⟩ := valid_back further remaining above valid
    have admissible : Admissible env mask (revision.id ≤ ·) s step :=
      ⟨calm.1, fun revid same => le_of_lt (advances.lower revid same revision member)⟩
    obtain ⟨next, kept, agree, -⟩ := tracked.step ran admissible
    obtain ⟨later, final, same⟩ := ih further kept remaining (calm.2 middle ran) above
    exact ⟨later, final, same.trans (agree _ issued)⟩

/-! The first state. -/

theorem foldlM_addSlot_wf {address : Address} {keys : List Hash} {al added : AccessList} (wf : al.Wf)
    (success : keys.foldlM (fun al key => (AccessList.addSlot al address key).map Prod.fst) al =
      .ok added) : added.Wf := by
  refine foldlM_invariant AccessList.Wf ?_ wf success
  intro key _ before after valid step
  rcases slot : before.addSlot address key with _ | ⟨added, addrMod, slotMod⟩
  · rw [slot] at step
    cases step
  · rw [slot] at step
    cases step
    exact AccessList.addSlot_wf valid slot

theorem foldl_addAddress_wf (precompiles : List Address) {al : AccessList} (wf : al.Wf) :
    (precompiles.foldl (fun al addr => (al.addAddress addr).1) al).Wf := by
  induction precompiles generalizing al with
  | nil => exact wf
  | cons addr rest ih => exact ih (AccessList.addAddress_wf wf addr)

theorem warmAccessList_wf {rules : Rules} {sender coinbase : Address} {dst : Option Address}
    {precompiles : List Address} {list : List AccessTuple} {al : AccessList}
    (success : warmAccessList rules sender coinbase dst precompiles list = .ok al) : al.Wf := by
  have first := AccessList.addAddress_wf AccessList.wf_new sender
  obtain ⟨listed, tuples, final⟩ := bind_ok success
  have warm : listed.Wf := by
    refine foldlM_invariant AccessList.Wf ?_ (foldl_addAddress_wf precompiles ?_) tuples
    · intro tuple _ before after valid step
      exact foldlM_addSlot_wf (AccessList.addAddress_wf valid tuple.address) step
    · cases dst with
      | none => exact first
      | some dst => exact AccessList.addAddress_wf first dst
  cases final
  split
  · exact AccessList.addAddress_wf warm coinbase
  · exact warm

theorem prepare_sound {rules : Rules} {sender coinbase : Address} {dst : Option Address}
    {precompiles : List Address} {list : List AccessTuple} (sound : Sound s)
    (success : prepare s rules sender coinbase dst precompiles list = .ok t) :
    Sound t ∧ t.validRevisions = s.validRevisions := by
  unfold prepare at success
  split at success
  · cases success
  · obtain ⟨al, warmed, final⟩ := bind_ok success
    cases final
    refine ⟨⟨sound.addressed, ?_⟩, rfl⟩
    rcases ite_pure_ok warmed with ⟨-, warm⟩ | ⟨-, rfl⟩
    · exact warmAccessList_wf warm
    · exact sound.accessList

theorem new_sound (ctx : Context) (txConfig : TxConfig) : Sound (new ctx txConfig) :=
  ⟨fun _ _ found => (Option.some_ne_none _ found.symm).elim, AccessList.wf_new⟩

/-- Without revisions there is no history yet. -/
theorem tracked_fresh (sound : Sound s) (empty : s.validRevisions = []) (kept : extra (view env mask s)) :
    Tracked env mask extra watched marks s := by
  refine ⟨sound.addressed, ⟨sound.accessList, kept⟩, ?_, ?_, ?_, ?_, ?_⟩
  all_goals simp [empty]

section

variable {ctx : Context} {txConfig : TxConfig} {preparation : Option Preparation}
  (started : begin ctx txConfig preparation = .ok s)

include started

theorem begin_sound : Sound s ∧ s.validRevisions = [] := by
  cases preparation with
  | none =>
    cases started
    exact ⟨new_sound ctx txConfig, rfl⟩
  | some p => exact prepare_sound (new_sound ctx txConfig) started

theorem begin_empty : s.ctx = ctx ∧ s.cacheCtx = none ∧ s.stateObjects = (fun _ => none) ∧
      s.journal = Journal.newJournal := by
  cases preparation with
  | none =>
    cases started
    exact ⟨rfl, rfl, rfl, rfl⟩
  | some p =>
    simp only [begin, prepare] at started
    split at started
    · cases started
    · obtain ⟨al, -, final⟩ := bind_ok started
      cases final
      exact ⟨rfl, rfl, rfl, rfl⟩

theorem begin_tracked (kept : extra (view env mask s)) : Tracked env mask extra watched marks s := by
  obtain ⟨sound, empty⟩ := begin_sound started
  exact tracked_fresh sound empty kept

end

/-- Going back to a snapshot restores every answer within a mask that each precompile
call since the snapshot has found calm. -/
theorem window_restores {ctx : Context} {txConfig : TxConfig} {preparation : Option Preparation}
    {start taken last : StateDb} {before after : List Step}
    (started : begin ctx txConfig preparation = .ok start) (earlier : runSteps env start before = .ok taken)
    (later : runSteps env (snapshot taken).2 after = .ok last)
    (calm : CalmRun env mask (snapshot taken).2 after) (valid : Valid last (snapshot taken).1) :
    ∃ back, StateDb.revertToSnapshot env last (snapshot taken).1 = .ok back ∧
      ∀ query : Query, query.Within mask → (ask env back query).1 = (ask env taken query).1 := by
  have begun : Everywhere env (fun _ => view env noSlot start) start := begin_tracked started trivial
  obtain ⟨all, everywhere⟩ := everywhere_runSteps begun earlier
  -- the window starts with no watched revision at all
  have fresh : Tracked env mask (fun _ => True) (taken.nextRevisionID ≤ ·)
      (fun _ => view env mask taken) taken := by
    refine ⟨everywhere.addressed, everywhere.history.present, everywhere.history.ascending,
      everywhere.history.issued, everywhere.history.inside, ?_, ?_⟩
    · intro revision member above
      exact absurd (everywhere.history.issued revision member) (not_lt.mpr above)
    · intro revision member above
      exact absurd (everywhere.history.issued revision member) (not_lt.mpr above)
  obtain ⟨marks, tracked, marked⟩ := Tracked.window everywhere.snapshot fresh.snapshot later
    calm (lt_add_one taken.nextRevisionID) valid
  rw [Function.update_self] at marked
  obtain ⟨revision, member, id⟩ := valid
  obtain ⟨index, inside, rfl⟩ := List.getElem_of_mem member
  obtain ⟨back, reverted, shown, kept, -, -⟩ := tracked.revertToSnapshot inside (le_of_eq id.symm)
  rw [id] at reverted shown
  refine ⟨back, reverted, fun query within => ?_⟩
  rw [ask_fst kept.addressed within, ask_fst everywhere.addressed within, shown]
  exact congrArg (fun shown : View => shown.answer query) marked

/-! Without precompile calls. -/

theorem runSteps_ops (ops : List Op) (s : StateDb) : runSteps env s (ops.map .op) = runOps env s ops := by
  unfold StateDb.runSteps runOps
  rw [List.foldlM_map]
  rfl

theorem calmRun_ops (mask : Mask) (ops : List Op) (s : StateDb) : CalmRun env mask s (ops.map .op) := by
  induction ops generalizing s with
  | nil => trivial
  | cons op rest ih => exact ⟨fun p same => (by cases same), fun t _ => ih t⟩

/-- Whatever happens after a snapshot, as long as its revision is valid going back
to it succeeds and every query answers as it did. -/
theorem revertToSnapshot_restores {ctx : Context} {txConfig : TxConfig}
    {preparation : Option Preparation} {start taken last : StateDb} {before after : List Op}
    (started : begin ctx txConfig preparation = .ok start)
    (earlier : runOps env start before = .ok taken)
    (later : runOps env (snapshot taken).2 after = .ok last)
    (valid : ∃ revision ∈ last.validRevisions, revision.id = (snapshot taken).1) :
    ∃ back, StateDb.revertToSnapshot env last (snapshot taken).1 = .ok back ∧
      ∀ query, (ask env back query).1 = (ask env taken query).1 := by
  rw [← runSteps_ops] at earlier later
  obtain ⟨back, reverted, same⟩ := window_restores started earlier later
    (calmRun_ops everySlot after _) valid
  refine ⟨back, reverted, fun query => same query ?_⟩
  cases query <;> trivial

end

/-- A six-decimals chain whose hash function keeps the last 32 bytes. -/
def toyEnv : Env := ⟨Precisebank.sixDecimals, bytesToHash⟩

def emptyStore : VmStore :=
  ⟨fun _ => none, fun _ => none, fun _ => none, fun _ _ => none, Precisebank.emptyBank⟩

/-- An account with a balance and a slot. -/
def fundingOps (addr : Address) : List Op :=
  [.addBalance addr 5, .setState addr zeroHash (bytesToHash [1])]

/-- A nested frame that recreates the account, warms a slot and is undone. -/
def nestedOps (addr : Address) : List Op :=
  [.setNonce addr 3, .snapshot, .createAccount addr, .setState addr zeroHash (bytesToHash [2]),
    .addSlotToAccessList addr zeroHash, .revertToSnapshot 1, .selfDestruct addr]

theorem revertToSnapshot_restores_nestedOps :
    ∃ taken last back,
      runOps toyEnv (new ⟨emptyStore, []⟩ ⟨zeroHash, 0⟩) (fundingOps (bytesToAddress [7])) = .ok taken ∧
      runOps toyEnv (snapshot taken).2 (nestedOps (bytesToAddress [7])) = .ok last ∧
      StateDb.revertToSnapshot toyEnv last (snapshot taken).1 = .ok back ∧
      ∀ query, (ask toyEnv back query).1 = (ask toyEnv taken query).1 := by
  have runs : (do
      let taken ← runOps toyEnv (new ⟨emptyStore, []⟩ ⟨zeroHash, 0⟩) (fundingOps (bytesToAddress [7]))
      let last ← runOps toyEnv (snapshot taken).2 (nestedOps (bytesToAddress [7]))
      pure (decide (∃ revision ∈ last.validRevisions, revision.id = (snapshot taken).1))).toOption =
        some true := by
    decide +kernel
  cases first : runOps toyEnv (new ⟨emptyStore, []⟩ ⟨zeroHash, 0⟩)
      (fundingOps (bytesToAddress [7])) with
  | error panic =>
    rw [first] at runs
    cases runs
  | ok taken =>
    cases second : runOps toyEnv (snapshot taken).2 (nestedOps (bytesToAddress [7])) with
    | error panic =>
      rw [first] at runs
      simp only [bind, Except.bind, second] at runs
      cases runs
    | ok last =>
      rw [first] at runs
      simp only [bind, Except.bind, second] at runs
      have started : begin ⟨emptyStore, []⟩ ⟨zeroHash, 0⟩ none =
        .ok (new ⟨emptyStore, []⟩ ⟨zeroHash, 0⟩) := rfl
      obtain ⟨back, reverted, same⟩ := revertToSnapshot_restores started first second
        (of_decide_eq_true (Option.some.inj runs))
      exact ⟨taken, last, back, rfl, second, reverted, same⟩

end OgEvm.StateDb
