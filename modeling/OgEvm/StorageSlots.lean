import OgEvm.StateDbHistory
import OgEvm.StateDbPersist

/- The storage side of the state objects: what is committed and what is dirty in each
account, and the operations that leave both alone. -/
namespace OgEvm.StateDb

/-- The storage of one account, as the StateDB holds it. -/
@[ext] structure Slots where
  committed : Hash → Hash
  dirty : Storage
  overridden : Bool
  selfDestructed : Bool

def Slots.state (x : Slots) (key : Hash) : Hash := (x.dirty.lookup key).getD (x.committed key)

def slotsOf (base : VmStore) (obj : StateObject) : Slots where
  committed := committedOf base obj
  dirty := obj.dirtyStorage
  overridden := obj.overrideStorage.isSome
  selfDestructed := obj.selfDestructed

/-- The storage of an account that is created or loaded. -/
def freshSlots (base : VmStore) (addr : Address) : Slots := ⟨Keeper.getState base addr, ∅, false, false⟩

/-- The storage of every account that exists. -/
def slots (env : Env) (s : StateDb) (addr : Address) : Option Slots :=
  ((s.stateObjects addr).or (loaded env s.ctx.store addr)).map (slotsOf s.ctx.store)

variable {env : Env} {s t u : StateDb}

theorem slotsOf_newObject (base : VmStore) (addr : Address) (account : Account) :
    slotsOf base (newObject addr account) = freshSlots base addr := by
  ext key
  · simp [slotsOf, newObject, freshSlots, committedOf]
  all_goals rfl

theorem slots_live {addr : Address} {obj : StateObject} (found : s.stateObjects addr = some obj) :
    slots env s addr = some (slotsOf s.ctx.store obj) := by
  simp [slots, found]

theorem slots_setStateObject (env : Env) (s : StateDb) (obj : StateObject) : slots env (setStateObject s obj) =
      Function.update (slots env s) obj.address (some (slotsOf s.ctx.store obj)) := by
  funext addr
  by_cases same : addr = obj.address
  · subst same
    simp [slots, setStateObject]
  · simp [slots, setStateObject, same]

theorem slots_forget (env : Env) (s : StateDb) (addr : Address) :
    slots env { s with stateObjects := Function.update s.stateObjects addr none } =
      Function.update (slots env s) addr ((loaded env s.ctx.store addr).map (slotsOf s.ctx.store)) := by
  funext other
  by_cases same : other = addr
  · subst same
    simp [slots]
  · simp [slots, same]

/-- Storing an object with the storage the account has changes nothing. -/
theorem slots_setStateObject_same {obj : StateObject}
    (held : slots env s obj.address = some (slotsOf s.ctx.store obj)) :
    slots env (setStateObject s obj) = slots env s := by
  rw [slots_setStateObject, ← held, Function.update_eq_self]

theorem getStateObject_slots {addr : Address} {found : Option StateObject}
    (loading : getStateObject env s addr = (found, t)) :
    slots env t = slots env s ∧ slots env s addr = found.map (slotsOf s.ctx.store) := by
  have first := getStateObject_fst env s addr
  rw [loading] at first
  have shown : slots env s addr = found.map (slotsOf s.ctx.store) := by
    rw [slots, ← first]
  refine ⟨?_, shown⟩
  unfold getStateObject at loading
  split at loading
  · obtain ⟨-, rfl⟩ := Prod.mk.inj loading
    rfl
  · split at loading
    · obtain ⟨-, rfl⟩ := Prod.mk.inj loading
      rfl
    · obtain ⟨rfl, rfl⟩ := Prod.mk.inj loading
      exact slots_setStateObject_same shown

/-- Entries that no storage depends on; a creation is of an account the keeper does
not have. -/
def QuietEntry (env : Env) (base : VmStore) : JournalEntry → Prop
  | .createObjectChange account => loaded env base account = none
  | .resetObjectChange _ => False
  | .selfDestructChange _ _ _ => False
  | .storageChange _ _ _ _ => False
  | .precompileCallChange _ _ => False
  | _ => True

/-- A change that writes no storage: accounts may be created, with what the keeper
holds for them. -/
structure Quiet (env : Env) (s t : StateDb) : Prop where
  ctx : t.ctx = s.ctx
  cacheCtx : t.cacheCtx = s.cacheCtx
  journal : ∃ added : List JournalEntry, t.journal = added.foldl Journal.append s.journal ∧
    ∀ entry ∈ added, QuietEntry env s.ctx.store entry
  slots : ∀ addr, slots env t addr = slots env s addr ∨
    (slots env s addr = none ∧ slots env t addr = some (freshSlots s.ctx.store addr))

theorem Quiet.refl (env : Env) (s : StateDb) : Quiet env s s :=
  ⟨rfl, rfl, ⟨[], rfl, by simp⟩, fun _ => Or.inl rfl⟩

theorem Quiet.trans (first : Quiet env s t) (second : Quiet env t u) : Quiet env s u where
  ctx := second.ctx.trans first.ctx
  cacheCtx := second.cacheCtx.trans first.cacheCtx
  journal := by
    obtain ⟨added, left, quiet⟩ := first.journal
    obtain ⟨more, right, still⟩ := second.journal
    refine ⟨added ++ more, by rw [right, left, List.foldl_append], ?_⟩
    intro entry member
    rcases List.mem_append.mp member with old | new
    · exact quiet entry old
    · rw [← first.ctx]
      exact still entry new
  slots := by
    intro addr
    have base : t.ctx = s.ctx := first.ctx
    rcases second.slots addr with same | ⟨absent, fresh⟩
    · rw [same]
      exact first.slots addr
    · rcases first.slots addr with kept | ⟨-, created⟩
      · rw [kept] at absent
        rw [base] at fresh
        exact Or.inr ⟨absent, fresh⟩
      · rw [created] at absent
        cases absent

theorem quiet_of_same (ctx : t.ctx = s.ctx) (cacheCtx : t.cacheCtx = s.cacheCtx)
    (journal : t.journal = s.journal) (same : slots env t = slots env s) : Quiet env s t :=
  ⟨ctx, cacheCtx, ⟨[], journal, by simp⟩, fun addr => Or.inl (congrFun same addr)⟩

theorem quiet_append (entry : JournalEntry) (quiet : QuietEntry env s.ctx.store entry) :
    Quiet env s (append s entry) :=
  ⟨rfl, rfl, ⟨[entry], rfl, by simpa using quiet⟩, fun _ => Or.inl rfl⟩

/-- An account written back with the storage it has. -/
theorem quiet_set {entry : JournalEntry} (changed : StateObject) (quiet : QuietEntry env s.ctx.store entry)
    (held : slots env s changed.address = some (slotsOf s.ctx.store changed)) :
    Quiet env s (setStateObject (append s entry) changed) := by
  refine (quiet_append entry quiet).trans (quiet_of_same rfl rfl rfl ?_)
  exact slots_setStateObject_same held

theorem Recached.slots {store : VmStore} {obj read : StateObject} (same : Recached env store obj read) :
    slotsOf store read = slotsOf store obj := by
  unfold slotsOf
  rw [same.committed, same.rest]

/-- The writes that leave storage alone. -/
def WriteKind.quiet : WriteKind → Bool
  | .state => false
  | .selfDestruct => false
  | .reset => false
  | _ => true

theorem Edit.quiet (edit : Edit env (fun _ kind => kind.quiet = true) s t) (addressed : Addressed s) :
    Quiet env s t := by
  have home {addr : Address} {obj read : StateObject} (held : s.stateObjects addr = some obj)
      (cached : Rereads env s.ctx.store obj read) : slots env s read.address = some (slotsOf s.ctx.store read) := by
    rw [cached.recached.slots, cached.recached.address, addressed _ _ held]
    exact slots_live held
  cases edit with
  | load load =>
    cases load with
    | account absent stored =>
      refine quiet_of_same rfl rfl rfl (slots_setStateObject_same ?_)
      simp [slots, newObject, absent, loaded, stored]
    | reread held cached => exact quiet_of_same rfl rfl rfl (slots_setStateObject_same (home held cached))
  | @create addr absent missing =>
    have none_yet : slots env s addr = none := by simp [slots, absent, loaded, missing]
    have unloaded : loaded env s.ctx.store addr = none := by simp [loaded, missing]
    refine (quiet_append (.createObjectChange addr) unloaded).trans ⟨rfl, rfl, ⟨[], rfl, by simp⟩, ?_⟩
    intro other
    rw [slots_setStateObject]
    by_cases here : other = addr
    · subst here
      refine Or.inr ⟨none_yet, ?_⟩
      simp only [newObject, Function.update_self]
      exact congrArg some (slotsOf_newObject _ _ _)
    · exact Or.inl (Function.update_of_ne here _ _)
  | write held cached written allowed =>
    have shown := home held cached
    cases written with
    | balance amount => exact quiet_set _ trivial shown
    | nonce nonce => exact quiet_set _ trivial shown
    | code code => exact quiet_set _ trivial shown
    | newContract => exact quiet_set _ trivial shown
    | _ => cases allowed

theorem Beside.quiet (beside : Beside s t) : Quiet env s t := by
  obtain ⟨aside, objects, added, objectless, journal⟩ := beside
  have same : slots env t = slots env s := by
    funext addr
    unfold slots
    rw [objects, aside.ctx]
  refine ⟨aside.ctx, aside.cacheCtx, ⟨added, journal, fun entry member => ?_⟩, fun addr =>
    Or.inl (congrFun same addr)⟩
  have about := objectless entry member
  cases entry <;> trivial

theorem Edits.quiet (edits : Edits env (fun _ kind => kind.quiet = true) s t) (addressed : Addressed s) :
    Quiet env s t := by
  refine (edits.keeps (fun u => Addressed u ∧ Quiet env s u) ?_ ⟨addressed, Quiet.refl env s⟩).2
  rintro u v ⟨home, quiet⟩ edit
  exact ⟨edit.addressed home, quiet.trans (edit.quiet home)⟩

/-- The operations whose effect on storage is covered: no account is reset or destructed. -/
def Op.Plain : Op → Prop
  | .createAccount _ => False
  | .selfDestruct _ => False
  | .selfDestruct6780 _ => False
  | _ => True

theorem run_quiet (addressed : Addressed s) {op : Op} (plain : op.Plain)
    (other : (∀ addr key value, op ≠ .setState addr key value) ∧ op ≠ .snapshot ∧
      ∀ revid, op ≠ .revertToSnapshot revid) (success : op.run env s = .ok t) : Quiet env s t := by
  refine (Op.run_cases success other.2.2 ?_).elim (fun edits => edits.quiet addressed) Beside.quiet
  intro addr kind writes
  cases op <;> cases writes <;> first | rfl | exact plain.elim | exact absurd rfl (other.1 _ _ _)

theorem afterEvents_quiet (sound : Sound s) (events : List Event) :
    Quiet env s (BalanceHandler.afterEvents env events s).1 :=
  Edits.quiet (afterEvents_edits env events s fun _ => rfl) sound.addressed

/-- The dirty slots after a write with the given origin. -/
def Slots.write (x : Slots) (key value origin : Hash) : Slots :=
  { x with dirty := if value = origin then x.dirty.erase key else x.dirty.insert key value }

theorem slotsOf_withState (base : VmStore) (obj : StateObject) (key value origin : Hash) :
    slotsOf base (withState obj key value origin) = (slotsOf base obj).write key value origin := by
  unfold withState Slots.write
  split <;> rfl

/-- `SetState` loads the account and then either finds the value or journals the write. -/
theorem setState_slots (env : Env) (addressed : Addressed s) (addr : Address) (key value : Hash) :
    ∃ u x, Quiet env s u ∧ slots env u addr = some x ∧
      ((x.state key = value ∧ Quiet env u (setState env s addr key value).2) ∨
      (x.state key ≠ value ∧ (setState env s addr key value).2.ctx = u.ctx ∧
        (setState env s addr key value).2.cacheCtx = u.cacheCtx ∧ (setState env s addr key value).2.journal =
          u.journal.append (.storageChange addr key (x.state key) (x.committed key)) ∧
        slots env (setState env s addr key value).2 =
          Function.update (slots env u) addr (some (x.write key value (x.committed key))))) := by
  rcases found : getOrNewStateObject env s addr with ⟨obj, u⟩
  obtain ⟨loaded, present⟩ := getOrNewStateObject_edits found
  obtain rfl := loaded.addressed addressed _ _ present
  have held : slots env u obj.address = some (slotsOf u.ctx.store obj) := slots_live present
  refine ⟨u, slotsOf u.ctx.store obj, loaded.quiet addressed, held, ?_⟩
  have prev := objectState_fst u.ctx.store obj key
  have reading := objectState_rereads env u.ctx.store obj key
  simp only [setState, found, objectSetState]
  rcases read : objectState u.ctx.store obj key with ⟨value₀, first⟩
  simp only [read] at prev reading ⊢
  have state : (slotsOf u.ctx.store obj).state key = value₀ := by
    rw [prev]
    rfl
  rw [state]
  by_cases same : value₀ = value
  · refine Or.inl ⟨same, ?_⟩
    rw [if_pos same]
    refine quiet_of_same rfl rfl rfl (slots_setStateObject_same ?_)
    rw [reading.recached.address, reading.recached.slots]
    exact held
  · refine Or.inr ⟨same, ?_⟩
    have origin := objectCommittedState_fst u.ctx.store first key
    have again : Rereads .. := reading.trans (objectCommittedState_rereads env u.ctx.store first key)
    replace again := again.recached
    rw [reading.recached.committed] at origin
    rw [if_neg same]
    rcases below : objectCommittedState u.ctx.store first key with ⟨committed, changed⟩
    simp only [below] at origin again ⊢
    refine ⟨rfl, rfl, ?_, ?_⟩
    · rw [again.address, origin]
      rfl
    · have home : (withState changed key value committed).address = obj.address := by
        rw [withState_rest]
        exact again.address
      rw [slots_setStateObject, home, origin]
      simp only [append]
      rw [slotsOf_withState, again.slots]
      rfl

end OgEvm.StateDb
