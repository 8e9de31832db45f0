import OgEvm.LibPartialMap
import OgEvm.LibUndoLog
import OgEvm.StateDb

/- What the StateDB shows, with its caches removed: loading an object, a slot or
a code changes nothing here, and undoing an entry is a function of it. -/
namespace OgEvm.StateDb

open Function Layers

/-- What the queries show of one account. -/
@[ext] structure ObjView where
  account : Account
  code : Option Bytes
  committed : Hash → Hash
  state : Hash → Hash
  selfDestructed : Bool
  newContract : Bool

@[ext] structure View where
  base : VmStore
  objects : Address → Option ObjView
  transient : Address → Hash → Hash
  refund : UInt64
  logs : List Log
  accessList : AccessList
  copies : Copies VmStore

/-- The code a query returns for a cached code and a code hash. -/
def codeOf (env : Env) (base : VmStore) (code : Option Bytes) (codeHash : Hash) : Option Bytes :=
  match code with
  | some code => some code
  | none => if codeHash = env.emptyCodeHash then none else Keeper.getCode base codeHash

def committedOf (base : VmStore) (obj : StateObject) (key : Hash) : Hash :=
  match obj.overrideStorage with
  | some overridden => (overridden.lookup key).getD zeroHash
  | none => (obj.originStorage.lookup key).getD (Keeper.getState base obj.address key)

def stateOf (base : VmStore) (obj : StateObject) (key : Hash) : Hash :=
  (obj.dirtyStorage.lookup key).getD (committedOf base obj key)

/-- Slots outside of the mask are not looked at. -/
abbrev Mask : Type := Address → Hash → Bool

def everySlot : Mask := fun _ _ => true

def noSlot : Mask := fun _ _ => false

def masked (mask : Mask) (addr : Address) (slots : Hash → Hash) (key : Hash) : Hash :=
  if mask addr key then slots key else zeroHash

variable (env : Env) (mask : Mask)

def objView (base : VmStore) (obj : StateObject) : ObjView where
  account := obj.account
  code := codeOf env base obj.code obj.account.codeHash
  committed := masked mask obj.address (committedOf base obj)
  state := masked mask obj.address (stateOf base obj)
  selfDestructed := obj.selfDestructed
  newContract := obj.newContract

/-- The object a query would load. -/
def loaded (base : VmStore) (addr : Address) : Option StateObject :=
  (Keeper.getAccount env base addr).map (newObject addr)

/-- A cache context that is not there yet holds what the transaction's context holds. -/
def cacheCopies (s : StateDb) : Copies VmStore :=
  (s.cacheCtx.map CacheCtx.copies).getD ⟨s.ctx.store, []⟩

def view (s : StateDb) : View where
  base := s.ctx.store
  objects addr := ((s.stateObjects addr).or (loaded env s.ctx.store addr)).map
    (objView env mask s.ctx.store)
  transient := s.transientStorage
  refund := s.refund
  logs := s.logs
  accessList := s.accessList
  copies := cacheCopies s

/-- Every cached object sits under its own address. -/
def Addressed (s : StateDb) : Prop := ∀ addr obj, s.stateObjects addr = some obj → obj.address = addr

def View.setObject (v : View) (addr : Address) (obj : Option ObjView) : View :=
  { v with objects := update v.objects addr obj }

/-- Change an object the entry expects to find. -/
def View.modifyObject (v : View) (addr : Address) (change : ObjView → ObjView) : Option View :=
  (v.objects addr).map fun obj => v.setObject addr (some (change obj))

/-- The undo of each entry on views. -/
def undoView : JournalEntry → View → Option View
  | .createObjectChange account, v =>
    some (v.setObject account ((loaded env v.base account).map (objView env mask v.base)))
  | .resetObjectChange prev, v => some (v.setObject prev.address (some (objView env mask v.base prev)))
  | .selfDestructChange account prev prevbalance, v =>
    v.modifyObject account fun obj => { obj with
      selfDestructed := prev, account := { obj.account with balance := prevbalance } }
  | .balanceChange account prev, v =>
    v.modifyObject account fun obj => { obj with account := { obj.account with balance := prev } }
  | .nonceChange account prev, v =>
    v.modifyObject account fun obj => { obj with account := { obj.account with nonce := prev } }
  | .storageChange account key preValue origValue, v =>
    v.modifyObject account fun obj => { obj with
      state := if mask account key then update obj.state key
          (if preValue = origValue then obj.committed key else preValue)
        else obj.state }
  | .transientStorageChange account key prevalue, v =>
    some { v with
      transient := update v.transient account
        (update (v.transient account) key prevalue) }
  | .codeChange account prevcode prevhash, v =>
    v.modifyObject account fun obj => { obj with
      code := codeOf env v.base prevcode prevhash
      account := { obj.account with codeHash := prevhash } }
  | .refundChange prev, v => some { v with refund := prev }
  | .addLogChange, v => if v.logs = [] then none else some { v with logs := v.logs.dropLast }
  | .accessListAddAccountChange address, v =>
    some { v with accessList := v.accessList.deleteAddress address }
  | .accessListAddSlotChange address slot, v =>
    match v.accessList.deleteSlot address slot with
    | .error _ => none
    | .ok al => some { v with accessList := al }
  | .precompileCallChange snapshot _, v =>
    if snapshot < 0 then none
    else (v.copies.truncate snapshot.toNat).map fun copies => { v with copies := copies }
  | .createContractChange account, v =>
    v.modifyObject account fun obj => { obj with newContract := false }

variable {env : Env} {mask : Mask} {s : StateDb}

theorem view_objects (addr : Address) :
    (view env mask s).objects addr = ((s.stateObjects addr).or (loaded env s.ctx.store addr)).map
      (objView env mask s.ctx.store) := rfl

theorem view_setStateObject (obj : StateObject) : view env mask (setStateObject s obj) =
      (view env mask s).setObject obj.address (some (objView env mask s.ctx.store obj)) := by
  have objects : (view env mask (setStateObject s obj)).objects =
      update (view env mask s).objects obj.address (some (objView env mask s.ctx.store obj)) := by
    funext addr
    by_cases same : addr = obj.address
    · subst same
      simp [view, setStateObject]
    · simp [view, setStateObject, same]
  unfold View.setObject
  rw [← objects]
  rfl

theorem addressed_setStateObject (addressed : Addressed s) (obj : StateObject) :
    Addressed (setStateObject s obj) := PartialMaps.forall_update addressed rfl

/-- An object that is dropped is read from the keeper again. -/
theorem view_forget (env : Env) (mask : Mask) (s : StateDb) (addr : Address) :
    view env mask { s with stateObjects := update s.stateObjects addr none } =
      (view env mask s).setObject addr
        ((loaded env s.ctx.store addr).map (objView env mask s.ctx.store)) := by
  have objects :
      (view env mask { s with stateObjects := update s.stateObjects addr none }).objects =
        update (view env mask s).objects addr
          ((loaded env s.ctx.store addr).map (objView env mask s.ctx.store)) := by
    funext other
    by_cases same : other = addr
    · subst same
      simp [view]
    · simp [view, same]
  unfold View.setObject
  rw [← objects]
  rfl

theorem addressed_forget (addressed : Addressed s) (addr : Address) :
    Addressed { s with stateObjects := update s.stateObjects addr none } := by
  intro other held found
  by_cases same : other = addr
  · subst same
    simp only [update_self] at found
    cases found
  · simp only [update_of_ne same] at found
    exact addressed other held found

theorem setObject_self (v : View) (addr : Address) : v.setObject addr (v.objects addr) = v := by
  simp [View.setObject]

theorem setObject_setObject (v : View) (addr : Address) (first second : Option ObjView) :
    (v.setObject addr first).setObject addr second = v.setObject addr second := by
  simp [View.setObject]

/-- Undoing a change of an object that brings its view back brings everything back. -/
theorem modifyObject_undo {v : View} {addr : Address} {before after : ObjView}
    {change : ObjView → ObjView} (held : v.objects addr = some before) (back : change after = before) :
    (v.setObject addr (some after)).modifyObject addr change = some v := by
  have found : (v.setObject addr (some after)).objects addr = some after := by
    simp [View.setObject]
  rw [View.modifyObject, found, Option.map_some, back, setObject_setObject, ← held, setObject_self]

/-- Two states that differ in what is cached only. -/
structure Cached (env : Env) (mask : Mask) (s t : StateDb) : Prop where
  view : view env mask t = view env mask s
  rest : t = { s with stateObjects := t.stateObjects }
  addressed : Addressed s → Addressed t

section

variable {t : StateDb} {addr : Address}

theorem Cached.refl (env : Env) (mask : Mask) (s : StateDb) : Cached env mask s s := ⟨rfl, rfl, id⟩

theorem Cached.trans {t u : StateDb} (first : Cached env mask s t) (second : Cached env mask t u) :
    Cached env mask s u := by
  refine ⟨second.view.trans first.view, ?_, fun start => second.addressed (first.addressed start)⟩
  have left := first.rest
  have right := second.rest
  rw [left] at right
  exact right

theorem Cached.store (cached : Cached env mask s t) : t.ctx = s.ctx := by
  rw [cached.rest]

theorem cached_setStateObject (obj changed : StateObject)
    (held : (view env mask s).objects changed.address = some (objView env mask s.ctx.store obj))
    (same : objView env mask s.ctx.store changed = objView env mask s.ctx.store obj) :
    Cached env mask s (setStateObject s changed) := by
  refine ⟨?_, rfl, fun addressed => addressed_setStateObject addressed changed⟩
  rw [view_setStateObject, same, ← held, setObject_self]

theorem getStateObject_fst (env : Env) (s : StateDb) (addr : Address) :
    (getStateObject env s addr).1 = (s.stateObjects addr).or (loaded env s.ctx.store addr) := by
  unfold getStateObject loaded
  cases s.stateObjects addr with
  | some obj => rfl
  | none => cases Keeper.getAccount env s.ctx.store addr <;> rfl

theorem getStateObject_cached (env : Env) (mask : Mask) (s : StateDb) (addr : Address) :
    Cached env mask s (getStateObject env s addr).2 := by
  unfold getStateObject
  cases found : s.stateObjects addr with
  | some obj => exact Cached.refl env mask s
  | none =>
    cases stored : Keeper.getAccount env s.ctx.store addr with
    | none => exact Cached.refl env mask s
    | some account =>
      refine cached_setStateObject (newObject addr account) (newObject addr account) ?_ rfl
      change (view env mask s).objects addr = _
      rw [view_objects, found, loaded, stored]
      rfl

theorem loading_cached (mask : Mask) {found : Option StateObject}
    (loading : getStateObject env s addr = (found, t)) : Cached env mask s t := by
  have cached := getStateObject_cached env mask s addr
  rw [loading] at cached
  exact cached

/-- A found object is cached under its own address. -/
theorem getStateObject_some (addressed : Addressed s) {obj : StateObject}
    (found : getStateObject env s addr = (some obj, t)) :
    obj.address = addr ∧ t.stateObjects addr = some obj ∧ Cached env mask s t ∧
      (view env mask s).objects addr = some (objView env mask s.ctx.store obj) := by
  have cached := getStateObject_cached env mask s addr
  have shown := getStateObject_fst env s addr
  rw [found] at cached shown
  have held : t.stateObjects addr = some obj := by
    unfold getStateObject at found
    split at found
    · rename_i live present
      obtain ⟨equal, rfl⟩ := Prod.mk.inj found
      rw [present, equal]
    · split at found
      · cases (Prod.mk.inj found).1
      · obtain ⟨equal, rfl⟩ := Prod.mk.inj found
        cases equal
        simp [setStateObject, newObject]
  refine ⟨cached.addressed addressed addr obj held, held, cached, ?_⟩
  rw [view_objects, ← shown]
  rfl

theorem getStateObject_address (addressed : Addressed s) {obj : StateObject}
    (found : getStateObject env s addr = (some obj, t)) : obj.address = addr := by
  have facts : obj.address = addr ∧ t.stateObjects addr = some obj ∧ Cached env noSlot s t ∧
      (view env noSlot s).objects addr = some (objView env noSlot s.ctx.store obj) :=
    getStateObject_some addressed found
  exact facts.1

theorem getStateObject_none (found : getStateObject env s addr = (none, t)) :
    t = s ∧ s.stateObjects addr = none ∧ loaded env s.ctx.store addr = none := by
  unfold getStateObject at found
  split at found
  · cases (Prod.mk.inj found).1
  · rename_i absent
    split at found
    · rename_i stored
      refine ⟨(Prod.mk.inj found).2.symm, absent, ?_⟩
      rw [loaded, stored]
      rfl
    · cases (Prod.mk.inj found).1

end

/-! Caching a code or a slot leaves the view of the object as it was. -/

theorem objectCode_fst (env : Env) (mask : Mask) (base : VmStore) (obj : StateObject) :
    (objectCode env base obj).1 = (objView env mask base obj).code := by
  unfold objectCode objView codeOf
  cases obj.code with
  | some code => rfl
  | none =>
    by_cases empty : obj.account.codeHash = env.emptyCodeHash <;> simp [empty]

theorem objectCommittedState_fst (base : VmStore) (obj : StateObject) (key : Hash) :
    (objectCommittedState base obj key).1 = committedOf base obj key := by
  unfold objectCommittedState committedOf
  cases obj.overrideStorage with
  | some overridden => rfl
  | none => cases obj.originStorage.lookup key <;> rfl

theorem objectState_fst (base : VmStore) (obj : StateObject) (key : Hash) :
    (objectState base obj key).1 = stateOf base obj key := by
  unfold objectState stateOf
  cases obj.dirtyStorage.lookup key with
  | some value => rfl
  | none => exact objectCommittedState_fst base obj key

theorem withState_rest (obj : StateObject) (key value origin : Hash) : withState obj key value origin =
      { obj with dirtyStorage := (withState obj key value origin).dirtyStorage } := by
  unfold withState
  split <;> rfl

theorem stateOf_withState (base : VmStore) (obj : StateObject) (key value origin : Hash) :
    stateOf base (withState obj key value origin) = update (stateOf base obj) key
      (if value = origin then committedOf base obj key else value) := by
  funext slot
  unfold withState
  by_cases here : slot = key
  · subst here
    rw [update_self]
    split
    · change (AList.lookup slot (obj.dirtyStorage.erase slot)).getD (committedOf base obj slot) = _
      rw [AList.lookup_erase]
      rfl
    · change (AList.lookup slot (obj.dirtyStorage.insert slot value)).getD (committedOf base obj slot) = _
      rw [AList.lookup_insert]
      rfl
  · rw [update_of_ne here]
    split
    · change (AList.lookup slot (obj.dirtyStorage.erase key)).getD (committedOf base obj slot) = _
      rw [AList.lookup_erase_ne here]
      rfl
    · change (AList.lookup slot (obj.dirtyStorage.insert key value)).getD (committedOf base obj slot) = _
      rw [AList.lookup_insert_ne here]
      rfl

theorem masked_update (mask : Mask) (addr : Address) (slots : Hash → Hash) (key value : Hash) :
    masked mask addr (update slots key value) =
      if mask addr key then update (masked mask addr slots) key value else masked mask addr slots := by
  funext slot
  by_cases here : slot = key
  · subst here
    by_cases seen : mask addr slot <;> simp [masked, seen]
  · by_cases seen : mask addr key <;> simp [masked, seen, here]

theorem objView_withState (env : Env) (mask : Mask) (base : VmStore) (obj : StateObject) (key value origin : Hash) :
    objView env mask base (withState obj key value origin) = { objView env mask base obj with
      state := if mask obj.address key then update (objView env mask base obj).state key
          (if value = origin then (objView env mask base obj).committed key else value)
        else (objView env mask base obj).state } := by
  have state : masked mask obj.address (stateOf base (withState obj key value origin)) =
      if mask obj.address key then update (objView env mask base obj).state key
          (if value = origin then (objView env mask base obj).committed key else value)
        else (objView env mask base obj).state := by
    rw [stateOf_withState, masked_update]
    by_cases seen : mask obj.address key <;> simp [objView, masked, seen]
  rw [← state, withState_rest]
  rfl

end OgEvm.StateDb
