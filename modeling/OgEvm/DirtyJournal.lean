import OgEvm.StorageJournal

/- The dirty counts of the journal over whole runs, and the objects behind them. An object is
deleted by the undo of its creation only, and its creation is the first entry about it. -/
namespace OgEvm

/-- The account whose object an entry finds again when it is undone. -/
def JournalEntry.undoes : JournalEntry → Option Address
  | .createContractChange account => some account
  | entry => entry.dirtied

namespace StateDb

open ExceptFacts

/-! The operations that are not steps of a transaction. -/

variable (env : Env) (s : StateDb) (addr : Address)

/-- `stateObject.empty`. -/
def objectEmpty (obj : StateObject) : Bool :=
  obj.account.nonce = 0 && obj.account.balance = 0 && obj.account.codeHash = env.emptyCodeHash

/-- The body of the loop of `Finalise`. -/
def finaliseObject (deleteEmptyObjects : Bool) (s : StateDb) (addr : Address) : StateDb :=
  match s.stateObjects addr with
  | none => s
  | some obj =>
    if obj.selfDestructed || (deleteEmptyObjects && objectEmpty env obj) then
      { s with stateObjects := Function.update s.stateObjects obj.address none }
    else s

/-- `Finalise`, in some order of the dirty addresses. -/
def finalise (deleteEmptyObjects : Bool) : StateDb :=
  { s.journal.dirties.keys.foldl (finaliseObject env deleteEmptyObjects) s with
    journal := Journal.newJournal
    validRevisions := []
    nextRevisionID := 0
    refund := 0 }

def setStorage (storage : Storage) : StateDb :=
  let (obj, s) := getOrNewStateObject env s addr
  setStateObject s { obj with overrideStorage := some storage, originStorage := ∅, dirtyStorage := ∅ }

def setStateOverride (key value : Hash) : StateDb :=
  let (obj, s) := getOrNewStateObject env s addr
  setStateObject s { obj with
    originStorage := obj.originStorage.insert key value
    dirtyStorage := obj.dirtyStorage.erase key
    overrideStorage := obj.overrideStorage.map fun storage => storage.insert key value }

/-- What can be asked of a StateDB before it is committed. -/
inductive Action where
  | step (taken : Step)
  | prepare (p : Preparation)
  | setStorage (addr : Address) (storage : Storage)
  | setStateOverride (addr : Address) (key value : Hash)
  | getCacheContext
  | multiStoreSnapshot
  | addPrecompileFn (snapshot : ℤ) (events : List Event)
  | commitWithCacheCtx
  | finalise (deleteEmptyObjects : Bool)

def Action.run : Action → Except DbPanic StateDb
  | .step taken => taken.run env s
  | .prepare p => StateDb.prepare s p.rules p.sender p.coinbase p.dst p.precompiles p.list
  | .setStorage addr storage => .ok (StateDb.setStorage env s addr storage)
  | .setStateOverride addr key value => .ok (StateDb.setStateOverride env s addr key value)
  | .getCacheContext => .ok (StateDb.getCacheContext s).2
  | .multiStoreSnapshot => (StateDb.multiStoreSnapshot s).map Prod.snd
  | .addPrecompileFn snapshot events => .ok (StateDb.addPrecompileFn s snapshot events).1
  | .commitWithCacheCtx => (StateDb.commitWithCacheCtx env s).map Prod.fst
  | .finalise deleteEmptyObjects => .ok (StateDb.finalise env s deleteEmptyObjects)

/-- The counts are right, the object of every entry is there, and nothing is journaled about an
object before its creation. -/
structure Anchored (s : StateDb) : Prop where
  addressed : Addressed s
  counted : Counted s.journal
  live : ∀ entry ∈ s.journal.entries, ∀ addr, entry.undoes = some addr → (s.stateObjects addr).isSome
  created : s.journal.entries.Pairwise fun earlier later =>
    ∀ addr, later = .createObjectChange addr → earlier.undoes ≠ some addr

section

variable {env : Env} {allow : Address → WriteKind → Prop} {s t u : StateDb} {addr : Address}
  {entry : JournalEntry}

theorem setStateObject_live (obj : StateObject) (there : (s.stateObjects addr).isSome) :
    ((setStateObject s obj).stateObjects addr).isSome := by
  simp only [setStateObject, Function.update_apply]
  split
  · rfl
  · exact there

theorem anchored_unjournaled (home : Addressed s) (journal : s.journal = Journal.newJournal) : Anchored s := by
  refine ⟨home, ?_, ?_, ?_⟩ <;> rw [journal]
  · exact fun _ => rfl
  · exact fun _ member => nomatch member
  · exact List.Pairwise.nil

/-- Objects may be added and replaced. -/
theorem Anchored.grown (anchored : Anchored s) (home : Addressed t) (journal : t.journal = s.journal)
    (kept : ∀ addr, (s.stateObjects addr).isSome → (t.stateObjects addr).isSome) : Anchored t := by
  refine ⟨home, by rw [journal]; exact anchored.counted, ?_, by rw [journal]; exact anchored.created⟩
  intro entry member addr about
  rw [journal] at member
  exact kept addr (anchored.live entry member addr about)

theorem Anchored.setStateObject (anchored : Anchored s) (obj : StateObject) : Anchored (setStateObject s obj) :=
  anchored.grown (addressed_setStateObject anchored.addressed obj) rfl fun _ => setStateObject_live obj

theorem Anchored.append (anchored : Anchored s)
    (found : ∀ addr, entry.undoes = some addr → (s.stateObjects addr).isSome)
    (first : ∀ addr, entry = .createObjectChange addr → ∀ other ∈ s.journal.entries, other.undoes ≠ some addr) :
    Anchored (StateDb.append s entry) where
  addressed := anchored.addressed
  counted := counted_append anchored.counted entry
  live := by
    intro other member
    rcases List.mem_append.mp member with old | new
    · exact anchored.live other old
    · rw [List.mem_singleton.mp new]
      exact found
  created := by
    refine List.pairwise_append.mpr ⟨anchored.created, List.pairwise_singleton _ _, ?_⟩
    intro other member last same addr create
    rw [List.mem_singleton.mp same] at create
    exact first addr create other member

theorem Rewrite.about {store : VmStore} {obj changed : StateObject} {kind : WriteKind}
    (written : Rewrite env store addr obj kind entry changed) (home : obj.address = addr) :
    (∀ account, entry.undoes = some account → account = addr) ∧ ∀ account, entry ≠ .createObjectChange account := by
  cases written <;> simp [JournalEntry.undoes, JournalEntry.dirtied, home, eq_comm]

/-- An object is created where there is none, so no entry is about it yet. -/
theorem Anchored.edit (anchored : Anchored s) (edit : Edit env allow s t) : Anchored t := by
  cases edit with
  | load load => cases load <;> exact anchored.setStateObject _
  | @create addr absent missing =>
    refine (anchored.setStateObject (newObject addr (emptyAccount env))).append ?_ ?_
    · intro account same
      cases same
      simp [StateDb.setStateObject, newObject]
    · intro account same other member about
      cases same
      have there := anchored.live other member addr about
      rw [absent] at there
      cases there
  | @write addr obj read changed kind entry held cached written allowed =>
    have home : read.address = addr := cached.recached.address.trans (anchored.addressed addr obj held)
    obtain ⟨own, forward⟩ := written.about home
    refine (anchored.setStateObject changed).append ?_ fun account same => absurd same (forward account)
    intro account about
    rw [own account about]
    exact setStateObject_live changed (by rw [held]; rfl)

theorem Anchored.edits (anchored : Anchored s) (edits : Edits env allow s t) : Anchored t :=
  edits.keeps Anchored (fun _ _ held edit => held.edit edit) anchored

theorem Anchored.quiet (anchored : Anchored s) (entry : JournalEntry) (none : entry.undoes = none) :
    Anchored (StateDb.append s entry) := by
  refine anchored.append ?_ ?_
  · intro account about
    rw [none] at about
    cases about
  · rintro account rfl
    cases none

theorem Anchored.beside (anchored : Anchored s) (beside : Beside s t) : Anchored t := by
  obtain ⟨-, objects, added, objectless, journal⟩ := beside
  have all : Anchored { s with journal := added.foldl Journal.append s.journal } := by
    clear journal
    induction added generalizing s with
    | nil => exact anchored
    | cons entry rest ih =>
      obtain ⟨first, later⟩ := List.forall_mem_cons.mp objectless
      have quiet : entry.undoes = none := by cases entry <;> first | rfl | cases first
      exact ih (anchored.quiet entry quiet) objects later
  refine all.grown ?_ journal (by rw [objects]; exact fun _ => id)
  intro account obj held
  rw [objects] at held
  exact anchored.addressed account obj held

/-! Reverts. -/

theorem loading_live {found : Option StateObject} {account : Address}
    (loading : getStateObject env s addr = (found, t)) (there : (s.stateObjects account).isSome) :
    (t.stateObjects account).isSome := by
  have loads := (loading_loads loading).1
  clear loading
  induction loads with
  | refl => exact there
  | tail _ last ih => cases last <;> exact setStateObject_live _ ih

/-- Only the undo of a creation deletes an object. -/
theorem revertEntry_live (success : revertEntry env s entry = .ok t) (there : (s.stateObjects addr).isSome)
    (kept : entry ≠ .createObjectChange addr) : (t.stateObjects addr).isSome := by
  have reverted : ∀ {account : Address} {undo : StateObject → StateObject},
      revertObject env s account undo = .ok t → (t.stateObjects addr).isSome := by
    intro account undo success
    obtain ⟨obj, u, loading, rfl⟩ := revertObject_ok success
    exact setStateObject_live _ (loading_live loading there)
  cases entry with
  | createObjectChange account =>
    cases success
    have apart : addr ≠ account := by
      rintro rfl
      exact kept rfl
    simp only [Function.update_of_ne apart]
    exact there
  | resetObjectChange prev => cases success; exact setStateObject_live prev there
  | selfDestructChange account prev prevbalance =>
    unfold revertEntry at success
    rcases loading : getStateObject env s account with ⟨_ | obj, u⟩ <;> simp only [loading] at success <;>
      cases success
    · exact loading_live loading there
    · exact setStateObject_live _ (loading_live loading there)
  | balanceChange | nonceChange | storageChange | codeChange | createContractChange => exact reverted success
  | transientStorageChange | refundChange | accessListAddAccountChange => cases success; exact there
  | addLogChange =>
    obtain ⟨-, same⟩ := ite_error_ok success
    cases same
    exact there
  | accessListAddSlotChange address slot =>
    obtain ⟨al, -, rfl⟩ := map_ok success
    exact there
  | precompileCallChange snapshot events =>
    obtain ⟨cache, rfl⟩ := revertMultiStore_ok success
    exact there

theorem revertObject_avoids (undo : StateObject → StateObject) (there : (s.stateObjects addr).isSome) :
    Avoids (· = DbPanic.nilObject) (revertObject env s addr undo) := by
  obtain ⟨obj, held⟩ := Option.isSome_iff_exists.mp there
  simp only [revertObject, getStateObject, held]
  exact Avoids.ok _

theorem revertEntry_avoids (there : ∀ addr, entry.undoes = some addr → (s.stateObjects addr).isSome) :
    Avoids (· = DbPanic.nilObject) (revertEntry env s entry) := by
  cases entry with
  | balanceChange | nonceChange | storageChange | codeChange | createContractChange =>
    exact revertObject_avoids _ (there _ rfl)
  | selfDestructChange account prev prevbalance =>
    rcases loading : getStateObject env s account with ⟨_ | obj, u⟩ <;> simp only [revertEntry, loading] <;>
      exact Avoids.ok _
  | addLogChange => exact Avoids.ite (fun _ => Avoids.error (by simp)) fun _ => Avoids.ok _
  | accessListAddSlotChange address slot =>
    refine Avoids.map ?_
    unfold AccessList.deleteSlot
    split
    · exact Avoids.error (by simp)
    · split
      · exact Avoids.error (by simp)
      · exact Avoids.ite (fun _ => Avoids.ok _) fun _ => Avoids.ok _
  | precompileCallChange snapshot events =>
    change Avoids _ (revertMultiStore s snapshot events)
    unfold revertMultiStore
    split
    · exact Avoids.error (by simp)
    · refine Avoids.ite (fun _ => Avoids.error (by simp)) fun _ => ?_
      split
      · exact Avoids.error (by simp)
      · exact Avoids.ok _
  | createObjectChange | resetObjectChange | transientStorageChange | refundChange | accessListAddAccountChange =>
    exact Avoids.ok _

section

variable {rest : List JournalEntry} (anchored : Anchored s) (last : s.journal.entries = rest ++ [entry])

include anchored last

theorem Anchored.revertLast_avoids : Avoids (· = DbPanic.nilObject) (revertLast env s entry) := by
  have member : entry ∈ s.journal.entries := by
    rw [last]
    simp
  exact Avoids.bind (revertEntry_avoids (anchored.live entry member)) fun _ _ => Avoids.ok _

theorem Anchored.revertLast (success : revertLast env s entry = .ok t) : Anchored t := by
  obtain ⟨u, undone, rfl⟩ := revertLast_ok success
  have dropped : (s.journal.undoLast entry).entries = rest := by
    simp only [Journal.undoLast, last, List.dropLast_concat]
  have created := anchored.created
  rw [last] at created
  obtain ⟨before, -, apart⟩ := List.pairwise_append.mp created
  have home : Addressed u := revertEntry_addressed anchored.addressed undone
  refine ⟨home, counted_undo anchored.counted last, ?_, ?_⟩
  · intro other member addr about
    change other ∈ (s.journal.undoLast entry).entries at member
    rw [dropped] at member
    have there := anchored.live other (by rw [last]; exact List.mem_append_left _ member) addr about
    change (u.stateObjects addr).isSome
    refine revertEntry_live undone there ?_
    intro create
    exact apart other member entry List.mem_cons_self addr create about
  · change (s.journal.undoLast entry).entries.Pairwise _
    rw [dropped]
    exact before

end

theorem Anchored.foldlM_avoids {stretch rest : List JournalEntry} (anchored : Anchored s)
    (entries : s.journal.entries = rest ++ stretch.reverse) :
    Avoids (· = DbPanic.nilObject) (stretch.foldlM (StateDb.revertLast env) s) := by
  induction stretch generalizing s with
  | nil => exact Avoids.ok s
  | cons entry later ih =>
    rw [List.reverse_cons, ← List.append_assoc] at entries
    rw [List.foldlM_cons]
    refine Avoids.bind (anchored.revertLast_avoids entries) fun next stepped => ?_
    refine ih (anchored.revertLast entries stepped) ?_
    obtain ⟨u, -, rfl⟩ := revertLast_ok stepped
    simp only [Journal.undoLast]
    rw [entries, List.dropLast_concat]

theorem Anchored.congr (anchored : Anchored s) (objects : t.stateObjects = s.stateObjects)
    (journal : t.journal = s.journal) : Anchored t := by
  refine anchored.grown ?_ journal fun addr there => by rw [objects]; exact there
  intro addr obj held
  rw [objects] at held
  exact anchored.addressed addr obj held

theorem Anchored.revertToSnapshot_avoids (anchored : Anchored s) (revid : ℤ) :
    Avoids (· = DbPanic.nilObject) (revertToSnapshot env s revid) := by
  unfold revertToSnapshot
  dsimp only
  split
  · exact Avoids.error (by simp)
  rename_i revision _
  refine Avoids.ite (fun _ => Avoids.error (by simp)) fun _ => Avoids.bind ?_ fun _ _ => Avoids.ok _
  have split : s.journal.entries = s.journal.entries.take revision.journalIndex ++
      (s.journal.entries.drop revision.journalIndex).reverse.reverse := by
    rw [List.reverse_reverse, List.take_append_drop]
  have start : Anchored { s with ctx := { s.ctx with events := revision.events } } := anchored.congr rfl rfl
  exact start.foldlM_avoids split

theorem Anchored.revertToSnapshot (anchored : Anchored s) {revid : ℤ}
    (success : revertToSnapshot env s revid = .ok t) : Anchored t :=
  revertToSnapshot_invariant Anchored (fun _ _ _ _ held last undone => held.revertLast last undone)
    (fun _ => anchored.congr rfl rfl) (fun _ _ held => held.congr rfl rfl) success

/-! Flushes. -/

theorem commitObjects_avoids {keepDirty : Bool} {addrs : List Address} {ctx : Context}
    (there : ∀ addr ∈ addrs, (s.stateObjects addr).isSome) :
    Avoids (· = DbPanic.nilObject) (commitObjects env keepDirty addrs s ctx) := by
  induction addrs generalizing s ctx with
  | nil => exact Avoids.ok _
  | cons addr rest ih =>
    obtain ⟨first, later⟩ := List.forall_mem_cons.mp there
    obtain ⟨obj, held⟩ := Option.isSome_iff_exists.mp first
    simp only [commitObjects, held]
    split
    · exact Avoids.error (by simp)
    · exact Avoids.ok _
    · exact ih fun other member => setStateObject_live _ (later other member)

/-- The dirty addresses are those of the entries. -/
theorem Anchored.dirty_live (anchored : Anchored s) (dirty : addr ∈ s.journal.dirties) :
    (s.stateObjects addr).isSome := by
  rw [← AList.lookup_isSome, anchored.counted addr] at dirty
  have counted : 0 < dirtyCount s.journal.entries addr := by
    by_contra zero
    rw [if_pos (by omega)] at dirty
    cases dirty
  obtain ⟨entry, member, named⟩ := List.countP_pos_iff.mp counted
  refine anchored.live entry member addr ?_
  cases entry <;> first | simpa [JournalEntry.undoes] using named | cases named

theorem Anchored.commitWithCtx_avoids (anchored : Anchored s) (ctx : Context) (keepDirty : Bool) :
    Avoids (· = DbPanic.nilObject) (commitWithCtx env s ctx keepDirty) :=
  commitObjects_avoids fun addr member => anchored.dirty_live ((mem_sortedDirties s.journal addr).mp member)

theorem Anchored.commitObjects {keepDirty : Bool} {addrs : List Address} {ctx after : Context}
    {err : Option GoError} (anchored : Anchored s)
    (success : commitObjects env keepDirty addrs s ctx = .ok (t, after, err)) : Anchored t :=
  commitObjects_invariant (fun u _ => Anchored u) success anchored fun _ _ _ _ _ changed held _ _ =>
    held.setStateObject changed

theorem Anchored.commitWithCacheCtx {err : Option GoError} (anchored : Anchored s)
    (success : commitWithCacheCtx env s = .ok (t, err)) : Anchored t := by
  obtain ⟨cache, u, ctx, -, flushed, rfl⟩ := commitWithCacheCtx_ok success
  exact (anchored.commitObjects flushed).congr rfl rfl

theorem Anchored.runNativeAction {p : Precompile} {err : Option GoError} (anchored : Anchored s)
    (success : runNativeAction env p s = .ok (t, err)) : Anchored t := by
  have entered : ∀ {u : StateDb} {err : Option GoError}, enterPrecompile env s = .ok (u, err) → Anchored u := by
    intro u err began
    have called : Anchored (journalCall s) := (anchored.quiet (.precompileCallChange _ _) rfl).congr rfl rfl
    rcases enterPrecompile_cases began with ⟨rfl, -⟩ | ⟨cache, v, ctx, -, flushed, rfl⟩
    · exact called
    · exact (called.commitObjects flushed).congr rfl rfl
  rcases runNativeAction_cases success with ⟨-, began⟩ | ⟨u, ctx, -, events, began, -, -, rfl⟩
  · exact entered began
  · have acted : Anchored (withCacheContext u ctx) := (entered began).congr rfl rfl
    have credited : Edits env (fun _ _ => True) (withCacheContext u ctx) _ :=
      afterEvents_edits env events _ fun _ => trivial
    exact acted.edits credited

theorem Anchored.step (anchored : Anchored s) {taken : Step} (success : taken.run env s = .ok t) : Anchored t := by
  cases taken with
  | precompile p =>
    obtain ⟨⟨after, err⟩, ran, rfl⟩ := map_ok success
    exact anchored.runNativeAction ran
  | op op =>
    by_cases back : ∃ revid, op = .revertToSnapshot revid
    · obtain ⟨revid, rfl⟩ := back
      exact anchored.revertToSnapshot success
    · have forward : Edits env (fun _ _ => True) s t ∨ Beside s t :=
        Op.run_cases success (fun revid same => back ⟨revid, same⟩) fun _ _ _ => trivial
      rcases forward with edits | beside
      · exact anchored.edits edits
      · exact anchored.beside beside

/-- `Finalise` deletes objects and leaves no journal. -/
theorem Anchored.finalise (anchored : Anchored s) (deleteEmptyObjects : Bool) :
    Anchored (finalise env s deleteEmptyObjects) := by
  refine anchored_unjournaled ?_ rfl
  change Addressed (s.journal.dirties.keys.foldl (finaliseObject env deleteEmptyObjects) s)
  refine List.foldlRecOn _ _ anchored.addressed fun u home addr _ => ?_
  unfold finaliseObject
  split
  · exact home
  · split
    · exact addressed_forget home _
    · exact home

theorem Anchored.run (anchored : Anchored s) {action : Action} (success : action.run env s = .ok t) : Anchored t := by
  have found : ∀ addr, Anchored (getOrNewStateObject env s addr).2 := by
    intro addr
    rcases loading : getOrNewStateObject env s addr with ⟨obj, u⟩
    have edits : Edits env (fun _ _ => True) s u := (getOrNewStateObject_edits loading).1
    exact anchored.edits edits
  cases action with
  | step taken => exact anchored.step success
  | prepare p =>
    obtain ⟨-, success⟩ := ite_error_ok success
    obtain ⟨al, -, success⟩ := bind_ok success
    cases success
    exact anchored.congr rfl rfl
  | setStorage addr storage => cases success; exact (found addr).setStateObject _
  | setStateOverride addr key value => cases success; exact (found addr).setStateObject _
  | getCacheContext =>
    cases success
    unfold StateDb.getCacheContext
    split
    · exact anchored
    · exact anchored.congr rfl rfl
  | multiStoreSnapshot =>
    obtain ⟨⟨index, after⟩, taken, rfl⟩ := map_ok success
    unfold StateDb.multiStoreSnapshot at taken
    split at taken
    · cases taken
    · cases taken
      exact anchored.congr rfl rfl
  | addPrecompileFn snapshot events =>
    cases success
    unfold StateDb.addPrecompileFn
    dsimp only
    split <;> exact (anchored.quiet (.precompileCallChange snapshot events) rfl).congr rfl rfl
  | commitWithCacheCtx =>
    obtain ⟨⟨after, err⟩, flushed, rfl⟩ := map_ok success
    exact anchored.commitWithCacheCtx flushed
  | finalise deleteEmptyObjects => cases success; exact anchored.finalise deleteEmptyObjects

end

/-- In every state that a StateDB comes to, the dirty counts are the numbers of entries, every
dirty address has an object, and neither a commit nor a revert misses one. -/
theorem dirty_objects_found (env : Env) (ctx : Context) (txConfig : TxConfig) (actions : List Action) (s : StateDb)
    (ran : actions.foldlM (Action.run env) (new ctx txConfig) = .ok s) :
    (∀ addr, s.journal.dirties.lookup addr =
      if dirtyCount s.journal.entries addr = 0 then none else some (dirtyCount s.journal.entries addr : ℤ)) ∧
    (∀ addr ∈ s.journal.dirties, (s.stateObjects addr).isSome) ∧
    (∀ target keepDirty, commitWithCtx env s target keepDirty ≠ .error .nilObject) ∧
    ∀ revid, revertToSnapshot env s revid ≠ .error .nilObject := by
  have start : Anchored (new ctx txConfig) := anchored_unjournaled (fun _ _ held => nomatch held) rfl
  have anchored : Anchored s := foldlM_invariant Anchored (fun _ _ _ _ held run => held.run run) start ran
  refine ⟨anchored.counted, fun addr dirty => anchored.dirty_live dirty, ?_, ?_⟩
  · intro target keepDirty failed
    exact anchored.commitWithCtx_avoids target keepDirty _ failed rfl
  · intro revid failed
    exact anchored.revertToSnapshot_avoids revid _ failed rfl

/-- A balance, then the end of a transaction, then a nonce. -/
def finalisedActions : List Action :=
  [.step (.op (.addBalance (bytesToAddress [7]) 5)), .finalise true, .step (.op (.setNonce (bytesToAddress [7]) 1))]

theorem dirty_objects_found_finalised :
    ∃ s, finalisedActions.foldlM (Action.run toyEnv) (new ⟨emptyStore, []⟩ ⟨zeroHash, 0⟩) = .ok s ∧
      ∀ revid, revertToSnapshot toyEnv s revid ≠ .error .nilObject :=
  ⟨_, rfl, (dirty_objects_found toyEnv ⟨emptyStore, []⟩ ⟨zeroHash, 0⟩ finalisedActions _ rfl).2.2.2⟩

end StateDb

end OgEvm
