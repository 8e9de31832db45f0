import OgEvm.StateDbFlush

/- What `commitWithCtx` does to the contract storage of the context it writes to. -/
namespace OgEvm

open ExceptFacts

theorem fitBytes_toList {size : ℕ} (value : Vector UInt8 size) : fitBytes size value.toList = value := by
  ext index inside
  simp only [fitBytes, Vector.getElem_ofFn]
  rw [List.getElem?_reverse (by simp; omega)]
  simp only [Vector.length_toList]
  have place : size - 1 - (size - 1 - index) = index := by omega
  rw [place]
  simp [inside]

theorem bytesToHash_toList (value : Hash) : bytesToHash value.toList = value := fitBytes_toList value

theorem bytesToAddress_toList (addr : Address) : bytesToAddress addr.toList = addr :=
  fitBytes_toList addr

theorem toList_bytesToAddress {bytes : Bytes} (sized : bytes.length = 20) :
    (bytesToAddress bytes).toList = bytes := by
  have whole := bytesToAddress_toList ⟨bytes.toArray, by simpa using sized⟩
  rw [show (Vector.mk bytes.toArray (by simpa using sized) : Address).toList = bytes from rfl] at whole
  rw [whole]
  rfl

namespace Keeper

section

variable {addr : Address} {env : Env} {ctx after : Context}

theorem setState_storage (store : VmStore) (addr other : Address) (key slot : Hash) (value : Bytes) :
    (setState store addr key value).storage other slot =
      if other = addr ∧ slot = key then some value else store.storage other slot := by
  by_cases there : other = addr
  · subst there
    by_cases here : slot = key <;> simp [setState, here]
  · simp [setState, there]

/-- A stored hash is read back, the zero hash as well. -/
theorem getState_written {store after : VmStore} {slot : Hash} {pending : Option Hash}
    (stored : after.storage addr slot = (pending.map Vector.toList).or (store.storage addr slot)) :
    getState after addr slot = pending.getD (getState store addr slot) := by
  cases pending with
  | none =>
    unfold getState
    rw [stored]
    rfl
  | some value =>
    have whole := bytesToHash_toList value
    rw [Option.map_some, Option.some_or] at stored
    cases bytes : value.toList with
    | nil => exact absurd (by rw [bytes]; rfl) (StateDb.toList_length_ne_zero value)
    | cons first rest =>
      rw [bytes] at stored whole
      simp only [getState, stored, whole, Option.getD_some]

theorem getState_setState (store : VmStore) (addr other : Address) (key slot value : Hash) :
    getState (setState store addr key value.toList) other slot =
      if other = addr ∧ slot = key then value else getState store other slot := by
  have stored := setState_storage store addr other key slot value.toList
  split
  · rename_i here
    rw [if_pos here] at stored
    have written : getState (setState store addr key value.toList) other slot =
        (some value).getD (getState store other slot) := getState_written stored
    exact written
  · rename_i away
    rw [if_neg away] at stored
    unfold getState
    rw [stored]

theorem getState_congr {store after : VmStore} (same : after.storage addr = store.storage addr) (key : Hash) :
    getState after addr key = getState store addr key := by
  unfold getState
  rw [same]

/-- Minting and burning change the bank only. -/
theorem setBalance_rest {amount : BitVec 256} (success : setBalance env ctx addr amount = .ok after) :
    after.store = { ctx.store with bank := after.store.bank } := by
  unfold setBalance at success
  simp only at success
  split at success
  · obtain ⟨bank, -, rfl⟩ := map_ok success
    rfl
  · split at success
    · obtain ⟨bank, -, rfl⟩ := map_ok success
      rfl
    · cases success
      rfl

theorem setAccount_store {account : Account} (success : setAccount env ctx addr account = .ok after) :
    after.store = { ctx.store with
      accounts := Function.update ctx.store.accounts addr.toList (some ⟨account.nonce⟩)
      codeHashes := Function.update ctx.store.codeHashes addr
        (if account.codeHash = env.emptyCodeHash then none else some account.codeHash)
      bank := after.store.bank } := by
  unfold setAccount at success
  rw [setBalance_rest success]
  by_cases empty : account.codeHash = env.emptyCodeHash <;>
    simp [Context.withStore, empty, deleteCodeHash, setCodeHash]

/-- The accounts that a deletion leaves as they were, and the codes. -/
structure Spared (addr : Address) (before after : VmStore) : Prop where
  account : ∀ other, other ≠ addr → after.accounts other.toList = before.accounts other.toList
  codeHash : ∀ other, other ≠ addr → after.codeHashes other = before.codeHashes other
  storage : ∀ other, other ≠ addr → after.storage other = before.storage other
  codes : after.codes = before.codes

theorem deleteAccount_spares {addr : Address} (success : deleteAccount env ctx addr = .ok after) :
    Spared addr ctx.store after.store := by
  unfold deleteAccount at success
  split at success
  · cases success
    exact ⟨fun _ _ => rfl, fun _ _ => rfl, fun _ _ => rfl, rfl⟩
  · split at success
    · cases success
    · obtain ⟨emptied, cleared, final⟩ := bind_ok success
      cases final
      simp only [Context.withStore, deleteCodeHash]
      rw [setBalance_rest cleared]
      exact ⟨fun _ apart => Function.update_of_ne (fun same => apart (Vector.toList_inj.mp same)) _ _,
        fun _ apart => Function.update_of_ne apart _ _, fun _ apart => Function.update_of_ne apart _ _, rfl⟩

end

end Keeper

namespace StateDb

theorem flushCode_store (store : VmStore) (obj : StateObject) :
    flushCode store obj = { store with codes := (flushCode store obj).codes } := by
  unfold flushCode
  split
  · rfl
  · split
    · split <;> rfl
    · rfl

theorem flushSlot_fst (keepDirty : Bool) (store : VmStore) (obj : StateObject) (key : Hash) :
    (flushSlot keepDirty (store, obj) key).1 =
      Keeper.setState store obj.address key ((obj.dirtyStorage.lookup key).getD zeroHash).toList := by
  simp only [flushSlot, toList_length_ne_zero, if_false]

theorem flushSlot_snd (keepDirty : Bool) (store : VmStore) (obj : StateObject) (key : Hash) :
    (flushSlot keepDirty (store, obj) key).2.address = obj.address ∧
      ∀ slot, slot ≠ key → (flushSlot keepDirty (store, obj) key).2.dirtyStorage.lookup slot =
        obj.dirtyStorage.lookup slot := by
  cases keepDirty with
  | true => exact ⟨rfl, fun _ _ => rfl⟩
  | false => exact ⟨rfl, fun slot apart => AList.lookup_erase_ne apart⟩

theorem foldl_flushSlot_store (keepDirty : Bool) (keys : List Hash) (store : VmStore) (obj : StateObject) :
    (keys.foldl (flushSlot keepDirty) (store, obj)).1 =
      { store with storage := (keys.foldl (flushSlot keepDirty) (store, obj)).1.storage } := by
  induction keys generalizing store obj with
  | nil => rfl
  | cons first rest ih =>
    rw [List.foldl_cons, ih (flushSlot keepDirty (store, obj) first).1, flushSlot_fst]
    rfl

theorem foldl_flushSlot_storage (keepDirty : Bool) {keys : List Hash} (distinct : keys.Nodup)
    (store : VmStore) (obj : StateObject) (other : Address) (slot : Hash) :
    (keys.foldl (flushSlot keepDirty) (store, obj)).1.storage other slot =
      if other = obj.address ∧ slot ∈ keys then some ((obj.dirtyStorage.lookup slot).getD zeroHash).toList
      else store.storage other slot := by
  induction keys generalizing store obj with
  | nil => simp
  | cons first rest ih =>
    obtain ⟨fresh, distinct⟩ := List.nodup_cons.mp distinct
    obtain ⟨address, dirty⟩ := flushSlot_snd keepDirty store obj first
    rw [List.foldl_cons, ih distinct, address, flushSlot_fst, Keeper.setState_storage]
    by_cases there : other = obj.address
    · by_cases later : slot ∈ rest
      · have apart : slot ≠ first := fun same => fresh (same ▸ later)
        simp [there, later, dirty slot apart]
      · by_cases here : slot = first
        · subst here
          simp [there, later]
        · simp [there, later, here]
    · simp [there]

theorem sortedKeys_nodup (storage : Storage) : (sortedKeys storage).Nodup :=
  (List.perm_insertionSort _ _).nodup_iff.mpr storage.keys_nodup

/-- A flushed object leaves its dirty slots in the store. -/
theorem flush_storage (keepDirty : Bool) (store : VmStore) (obj : StateObject) (other : Address) (slot : Hash) :
    ((sortedKeys obj.dirtyStorage).foldl (flushSlot keepDirty) (store, obj)).1.storage other slot =
      if other = obj.address then ((obj.dirtyStorage.lookup slot).map Vector.toList).or (store.storage other slot)
      else store.storage other slot := by
  rw [foldl_flushSlot_storage keepDirty (sortedKeys_nodup obj.dirtyStorage)]
  cases pending : obj.dirtyStorage.lookup slot with
  | some value =>
    have dirty : slot ∈ sortedKeys obj.dirtyStorage := by
      rw [mem_sortedKeys, ← AList.lookup_isSome, pending]
      rfl
    simp [dirty]
  | none =>
    have clean : slot ∉ sortedKeys obj.dirtyStorage := by
      rw [mem_sortedKeys, ← AList.lookup_isSome, pending]
      simp
    simp [clean]

section

variable {env : Env} {keepDirty : Bool} {ctx after : Context} {obj changed : StateObject}

section

variable (success : commitObject env keepDirty ctx obj = .ok (after, changed))

include success

/-- A live object is written with its code, its account and its slots. -/
theorem commitObject_alive (alive : obj.selfDestructed = false) :
    ∃ written, Keeper.setAccount env (ctx.withStore (flushCode ctx.store obj)) obj.address obj.account = .ok written ∧
      after = written.withStore
        ((sortedKeys obj.dirtyStorage).foldl (flushSlot keepDirty) (written.store, obj)).1 := by
  unfold commitObject at success
  rw [alive, if_neg (by simp)] at success
  obtain ⟨written, stored, final⟩ := bind_ok success
  exact ⟨written, mapError_ok stored, (Prod.mk.inj (Except.ok.inj final)).1.symm⟩

theorem commitObject_store (alive : obj.selfDestructed = false) : after.store = { ctx.store with
      accounts := Function.update ctx.store.accounts obj.address.toList (some ⟨obj.account.nonce⟩)
      codeHashes := Function.update ctx.store.codeHashes obj.address
        (if obj.account.codeHash = env.emptyCodeHash then none else some obj.account.codeHash)
      codes := (flushCode ctx.store obj).codes
      storage := fun other slot => if other = obj.address then
          ((obj.dirtyStorage.lookup slot).map Vector.toList).or (ctx.store.storage other slot)
        else ctx.store.storage other slot
      bank := after.store.bank } := by
  obtain ⟨written, stored, rfl⟩ := commitObject_alive success alive
  have slots : ((sortedKeys obj.dirtyStorage).foldl (flushSlot keepDirty) (written.store, obj)).1.storage = _ :=
    funext fun other => funext (flush_storage keepDirty written.store obj other)
  simp only [Context.withStore]
  rw [foldl_flushSlot_store, slots, Keeper.setAccount_store stored]
  simp only [Context.withStore]
  rw [flushCode_store]

/-- A written object leaves its dirty slots, and every other account as it was. -/
theorem commitObject_storage (alive : obj.selfDestructed = false) (slot : Hash) :
    after.store.storage obj.address slot =
      ((obj.dirtyStorage.lookup slot).map Vector.toList).or (ctx.store.storage obj.address slot) := by
  rw [commitObject_store success alive]
  exact if_pos rfl

theorem commitObject_deleted (destructed : obj.selfDestructed = true) :
    Keeper.deleteAccount env ctx obj.address = .ok after ∧ changed = obj := by
  unfold commitObject at success
  rw [if_pos destructed] at success
  obtain ⟨deleted, done, equal⟩ := map_ok success
  cases equal
  exact ⟨mapError_ok done, rfl⟩

theorem commitObject_untouched {other : Address} (apart : other ≠ obj.address) :
    after.store.storage other = ctx.store.storage other := by
  cases alive : obj.selfDestructed with
  | true => exact (Keeper.deleteAccount_spares (commitObject_deleted success alive).1).storage other apart
  | false =>
    rw [commitObject_store success alive]
    exact funext fun _ => if_neg apart

theorem commitObject_own (alive : obj.selfDestructed = false) (slot : Hash) :
    Keeper.getState after.store obj.address slot =
      (obj.dirtyStorage.lookup slot).getD (Keeper.getState ctx.store obj.address slot) :=
  Keeper.getState_written (commitObject_storage success alive slot)

theorem commitObject_other {other : Address} (apart : other ≠ obj.address) (slot : Hash) :
    Keeper.getState after.store other slot = Keeper.getState ctx.store other slot :=
  Keeper.getState_congr (commitObject_untouched success apart) slot

end

theorem commitObject_rest (success : commitObject env keepDirty ctx obj = .ok (after, changed)) :
    changed.address = obj.address ∧ changed.selfDestructed = obj.selfDestructed := by
  obtain ⟨origins, dirty, rfl⟩ := commitObject_frame success
  exact ⟨rfl, rfl⟩

end

section

variable {env : Env} {keepDirty : Bool} {ctx after : Context} {s t : StateDb}

/-- One turn of the loop. -/
theorem commitObjects_cons {addr : Address} {rest : List Address}
    (success : commitObjects env keepDirty (addr :: rest) s ctx = .ok (t, after, none)) :
    ∃ obj changed middle, s.stateObjects addr = some obj ∧
      commitObject env keepDirty ctx obj = .ok (middle, changed) ∧
      commitObjects env keepDirty rest (setStateObject s changed) middle = .ok (t, after, none) := by
  unfold commitObjects at success
  split at success
  · cases success
  · rename_i obj found
    split at success
    · cases success
    · cases success
    · rename_i middle changed written
      exact ⟨obj, changed, middle, found, written, success⟩

theorem commitObjects_untouched (addressed : Addressed s) {addrs : List Address} {other : Address}
    (success : commitObjects env keepDirty addrs s ctx = .ok (t, after, none))
    (outside : other ∉ addrs) : after.store.storage other = ctx.store.storage other := by
  induction addrs generalizing s ctx with
  | nil =>
    cases success
    rfl
  | cons addr rest ih =>
    obtain ⟨obj, changed, middle, found, written, success⟩ := commitObjects_cons success
    obtain ⟨apart, outside⟩ := not_or.mp fun member => outside (List.mem_cons.mpr member)
    have home := addressed addr obj found
    rw [ih (addressed_setStateObject addressed changed) success outside]
    exact commitObject_untouched written (by rw [home]; exact apart)

/-- Every dirty account that is not destructed has its dirty slots in the store. -/
theorem commitObjects_storage (addressed : Addressed s) {addrs : List Address} (distinct : addrs.Nodup)
    (success : commitObjects env keepDirty addrs s ctx = .ok (t, after, none)) {addr : Address}
    {obj : StateObject} (dirty : addr ∈ addrs) (found : s.stateObjects addr = some obj)
    (alive : obj.selfDestructed = false) (slot : Hash) : after.store.storage addr slot =
      ((obj.dirtyStorage.lookup slot).map Vector.toList).or (ctx.store.storage addr slot) := by
  induction addrs generalizing s ctx with
  | nil => cases dirty
  | cons first rest ih =>
    obtain ⟨fresh, distinct⟩ := List.nodup_cons.mp distinct
    obtain ⟨held, changed, middle, present, written, remaining⟩ := commitObjects_cons success
    have home := addressed first held present
    have place := (commitObject_rest written).1
    have kept := addressed_setStateObject addressed changed
    by_cases here : addr = first
    · subst here
      obtain rfl : held = obj := Option.some.inj (present.symm.trans found)
      rw [commitObjects_untouched kept remaining fresh]
      have own := commitObject_storage written alive slot
      rw [home] at own
      exact own
    · have apart : addr ≠ held.address := by
        rw [home]
        exact here
      have still : (setStateObject s changed).stateObjects addr = some obj := by
        simp only [setStateObject]
        rw [Function.update_of_ne (by rw [place]; exact apart)]
        exact found
      rw [ih kept distinct remaining ((List.mem_cons.mp dirty).resolve_left here) still]
      rw [commitObject_untouched written apart]

/-- No object is marked as destructed. -/
def Alive (s : StateDb) : Prop :=
  ∀ addr obj, s.stateObjects addr = some obj → obj.selfDestructed = false

theorem Alive.commitObject {obj changed : StateObject} {addr : Address} (alive : Alive s)
    (found : s.stateObjects addr = some obj)
    (success : commitObject env keepDirty ctx obj = .ok (after, changed)) : Alive (setStateObject s changed) := by
  refine PartialMaps.forall_update alive ?_
  rw [(commitObject_rest success).2]
  exact alive addr obj found

/-- A dirty address without an object would be a nil dereference. -/
theorem commitObjects_present (addressed : Addressed s) {addrs : List Address}
    (success : commitObjects env keepDirty addrs s ctx = .ok (t, after, none)) {addr : Address}
    (dirty : addr ∈ addrs) : ∃ obj, s.stateObjects addr = some obj := by
  induction addrs generalizing s ctx with
  | nil => cases dirty
  | cons first rest ih =>
    obtain ⟨held, changed, middle, present, written, remaining⟩ := commitObjects_cons success
    have place := (commitObject_rest written).1.trans (addressed first held present)
    by_cases here : addr = first
    · subst here
      exact ⟨held, present⟩
    · obtain ⟨obj, found⟩ := ih (addressed_setStateObject addressed changed) remaining
        ((List.mem_cons.mp dirty).resolve_left here)
      simp only [setStateObject] at found
      rw [Function.update_of_ne (by rw [place]; exact here)] at found
      exact ⟨obj, found⟩

end

theorem mem_sortedDirties (j : Journal) (addr : Address) : addr ∈ j.sortedDirties ↔ addr ∈ j.dirties := by
  unfold Journal.sortedDirties
  rw [List.mem_insertionSort, AList.mem_keys]

theorem sortedDirties_nodup (j : Journal) : j.sortedDirties.Nodup :=
  (List.perm_insertionSort _ _).nodup_iff.mpr j.dirties.keys_nodup

/-- The state whose objects `Commit` writes. -/
def written (s : StateDb) : StateDb :=
  match s.cacheCtx with
  | none => s
  | some cache => writeCache s cache

theorem written_eq (s : StateDb) : (written s).ctx.store = (cacheCopies s).current ∧
      (written s).stateObjects = s.stateObjects ∧ (written s).journal = s.journal := by
  unfold written cacheCopies
  cases s.cacheCtx with
  | none => exact ⟨rfl, rfl, rfl⟩
  | some cache => exact ⟨rfl, rfl, rfl⟩

theorem commit_ok {env : Env} {s t : StateDb} {err : Option GoError} (success : commit env s = .ok (t, err)) :
    ∃ u ctx, commitObjects env false s.journal.sortedDirties (written s) (written s).ctx =
      .ok (u, ctx, err) ∧ t = { u with ctx := ctx } := by
  obtain ⟨⟨u, ctx, failed⟩, done, final⟩ := bind_ok success
  obtain ⟨rfl, rfl⟩ := Prod.mk.inj (Except.ok.inj final)
  refine ⟨u, ctx, ?_, rfl⟩
  rw [← (written_eq s).2.2]
  exact done

theorem commit_of_written {env : Env} {s u : StateDb} {ctx : Context} {err : Option GoError}
    (done : commitObjects env false s.journal.sortedDirties (written s) (written s).ctx = .ok (u, ctx, err)) :
    commit env s = .ok ({ u with ctx := ctx }, err) := by
  rw [← (written_eq s).2.2] at done
  exact bind_of_ok done _

/-- One evaluation of a run with its commit shows that both end without an error, and what is
read of the two states. -/
theorem committed_run {α : Type} (env : Env) (run : Except DbPanic (StateDb × Option GoError))
    (read : StateDb → StateDb → α) (value : α) (evaluated : (run.bind fun ran => (commit env ran.1).map fun done =>
      ([ran.2, done.2], read ran.1 done.1)).toOption = some ([none, none], value)) :
    ∃ s final, run = .ok (s, none) ∧ commit env s = .ok (final, none) ∧ read s final = value := by
  obtain ⟨⟨s, err⟩, ran, rest⟩ := bind_ok (toOption_some evaluated)
  obtain ⟨⟨final, failed⟩, committed, shown⟩ := map_ok rest
  simp only [Prod.mk.injEq, List.cons.injEq, and_true] at shown
  obtain ⟨⟨rfl, rfl⟩, value⟩ := shown
  exact ⟨s, final, ran, committed, value⟩

/-- A write of all dirty accounts leaves their dirty slots in the store. -/
theorem commitObjects_getState {env : Env} {keepDirty : Bool} {ctx after : Context} {s t : StateDb}
    (addressed : Addressed s) {j : Journal}
    (success : commitObjects env keepDirty j.sortedDirties s ctx = .ok (t, after, none)) {addr : Address}
    (alive : ∀ obj, s.stateObjects addr = some obj → obj.selfDestructed = false) (slot : Hash) :
    Keeper.getState after.store addr slot =
      ((if addr ∈ j.dirties then (s.stateObjects addr).bind fun obj => obj.dirtyStorage.lookup slot
      else none).getD (Keeper.getState ctx.store addr slot)) := by
  by_cases dirty : addr ∈ j.dirties
  · rw [if_pos dirty]
    have listed := (mem_sortedDirties j addr).mpr dirty
    obtain ⟨obj, found⟩ := commitObjects_present addressed success listed
    rw [found]
    exact Keeper.getState_written (commitObjects_storage addressed (sortedDirties_nodup j) success listed
      found (alive obj found) slot)
  · rw [if_neg dirty]
    refine Keeper.getState_congr (commitObjects_untouched addressed success ?_) slot
    rw [mem_sortedDirties]
    exact dirty

/-- `Commit` writes the cache context and then the dirty slots. -/
theorem commit_getState {env : Env} {s t : StateDb} (addressed : Addressed s)
    (success : commit env s = .ok (t, none)) {addr : Address}
    (alive : ∀ obj, s.stateObjects addr = some obj → obj.selfDestructed = false) (slot : Hash) :
    Keeper.getState t.ctx.store addr slot = ((if addr ∈ s.journal.dirties then
        (s.stateObjects addr).bind fun obj => obj.dirtyStorage.lookup slot
      else none).getD (Keeper.getState (cacheCopies s).current addr slot)) := by
  obtain ⟨store, objects, -⟩ := written_eq s
  obtain ⟨u, ctx, done, rfl⟩ := commit_ok success
  rw [← objects] at alive
  have kept : Addressed (written s) := by
    intro other obj found
    rw [objects] at found
    exact addressed other obj found
  rw [← store, ← objects]
  exact commitObjects_getState kept done alive slot

end StateDb

end OgEvm
