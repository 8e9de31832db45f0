import OgEvm.LibExcept
import OgEvm.SnapshotStore

/- snapshotmulti.Store against the store it stands for: complete copies of all
stores, pushed by Snapshot and truncated by RevertToSnapshot. -/
namespace OgEvm

open Layers ExceptFacts

namespace Snapshotkv

variable {κ ν : Type}

/-- The copies one snapshot store stands for. -/
def copiesOf (s : Store κ ν) : Copies (κ → Option ν) :=
  copies through (initialView s) s.cacheStores

section

variable (s : Store κ ν)

theorem get_copiesOf : get s = (copiesOf s).current := by
  funext key
  unfold get copiesOf
  generalize initialView s = view
  induction s.cacheStores generalizing view with
  | nil => rfl
  | cons layer rest ih => exact ih (through layer view)

theorem copiesOf_length : (copiesOf s).saved.length = s.cacheStores.length :=
  copies_length through (initialView s) s.cacheStores

theorem copiesOf_snapshot : copiesOf (snapshot s).1 = (copiesOf s).push :=
  copies_push through (initialView s) s.cacheStores through_untouched

theorem copiesOf_put [DecidableEq κ] (key : κ) (value : Option ν) :
    copiesOf (put s key value) = (copiesOf s).modify fun view => Function.update view key value := by
  unfold put
  split
  · rename_i last
    have empty : s.cacheStores = [] := List.getLast?_eq_none_iff.mp last
    unfold copiesOf initialView
    rw [empty, through_record]
    rfl
  · rename_i top last
    have layers : s.cacheStores = s.cacheStores.dropLast ++ [top] :=
      (List.dropLast_append_getLast? top last).symm
    have changed := copies_top through (initialView s) s.cacheStores.dropLast
      (fun view => Function.update view key value) (through_record top key value)
    rw [← layers] at changed
    exact changed

theorem copiesOf_commit : copiesOf (commit s) = (copiesOf s).commit ∧
      (commit s).initialStore.parent = (copiesOf s).current := by
  have flushed := through_collapse s.initialStore.cache s.cacheStores s.initialStore.parent
  constructor
  · unfold copiesOf commit initialView
    rw [flushed]
    rfl
  · exact flushed

theorem revertToSnapshot_inside {index : ℕ} (inside : index < s.cacheStores.length) :
    revertToSnapshot s index = .ok { s with cacheStores := s.cacheStores.take index } := by
  unfold revertToSnapshot
  rw [if_neg (by omega)]
  rfl

theorem copiesOf_take {index : ℕ} (inside : index < s.cacheStores.length) : (copiesOf s).truncate index =
      some (copiesOf { s with cacheStores := s.cacheStores.take index }) :=
  copies_take through (initialView s) s.cacheStores inside

theorem revertToSnapshot_outside {target : ℤ} (outside : ¬ (0 ≤ target ∧ target < s.cacheStores.length)) :
    revertToSnapshot s target = .error (.snapshotIndex target s.cacheStores.length) := by
  unfold revertToSnapshot
  rw [if_pos (by omega)]

end

end Snapshotkv

namespace Snapshotmulti

variable {σ κ ν : Type} [DecidableEq σ]

/-- A loop over distinct registered keys that succeeds on each store applies to
each of them once and to no other entry. -/
theorem eachStore_ok {act : Snapshotkv.Store κ ν → Except StorePanic (Snapshotkv.Store κ ν)}
    {effect : Snapshotkv.Store κ ν → Snapshotkv.Store κ ν} {keys : List σ}
    {stores : AList fun _ : σ => Snapshotkv.Store κ ν} (distinct : keys.Nodup)
    (succeeds : ∀ key ∈ keys, ∃ store, stores.lookup key = some store ∧ act store = .ok (effect store)) :
    ∃ changed, eachStore act keys stores = .ok changed ∧ ∀ key, changed.lookup key =
        if key ∈ keys then (stores.lookup key).map effect else stores.lookup key := by
  induction keys generalizing stores with
  | nil => exact ⟨stores, rfl, fun key => (if_neg List.not_mem_nil).symm⟩
  | cons key rest ih =>
    obtain ⟨fresh, distinctRest⟩ := List.nodup_cons.mp distinct
    obtain ⟨store, found, acted⟩ := succeeds key List.mem_cons_self
    have kept : ∀ other, other ≠ key →
        (stores.insert key (effect store)).lookup other = stores.lookup other :=
      fun other apart => AList.lookup_insert_ne apart
    have remaining : ∀ other ∈ rest, ∃ held,
        (stores.insert key (effect store)).lookup other = some held ∧
          act held = .ok (effect held) := by
      intro other member
      rw [kept other (ne_of_mem_of_not_mem member fresh)]
      exact succeeds other (List.mem_cons_of_mem _ member)
    obtain ⟨changed, ran, entries⟩ := ih distinctRest remaining
    refine ⟨changed, ?_, ?_⟩
    · rw [eachStore, found]
      exact (bind_of_ok acted _).trans ran
    · intro other
      rw [entries]
      by_cases same : other = key
      · subst same
        rw [if_neg fresh, if_pos List.mem_cons_self, AList.lookup_insert, found]
        rfl
      · rw [kept other same]
        simp only [List.mem_cons, same, false_or]

/-- A loop whose act fails on every store fails, unless there is no store. -/
theorem eachStore_fails (act : Snapshotkv.Store κ ν → Except StorePanic (Snapshotkv.Store κ ν))
    {keys : List σ} (stores : AList fun _ : σ => Snapshotkv.Store κ ν) (some_key : keys ≠ [])
    (fails : ∀ key store, stores.lookup key = some store → ∃ panic, act store = .error panic) :
    ∃ panic, eachStore act keys stores = .error panic := by
  cases keys with
  | nil => exact absurd rfl some_key
  | cons key rest =>
    unfold eachStore
    split
    · exact ⟨_, rfl⟩
    · rename_i store found
      obtain ⟨panic, failed⟩ := fails key store found
      rw [failed]
      exact ⟨panic, rfl⟩

/-- What NewStoreWithKVStores sets up and every method keeps: the ordered keys are
the keys of the map, and every stack has as many layers as `head` says. -/
structure Synced (s : Store σ κ ν) : Prop where
  distinct : s.storeKeys.Nodup
  registered : ∀ key, key ∈ s.storeKeys ↔ ∃ store, s.stores.lookup key = some store
  lengths : ∀ key store, s.stores.lookup key = some store → (store.cacheStores.length : ℤ) = s.head

/-- Complete copies of all stores, with the contents of the stores they write into. -/
structure Naive (σ κ ν : Type) where
  keys : List σ
  underlying : σ → κ → Option ν
  copies : Copies (σ → κ → Option ν)

inductive Op (σ κ ν : Type) where
  | set (key : σ) (k : κ) (value : ν)
  | delete (key : σ) (k : κ)
  | snapshot
  | revertToSnapshot (target : ℤ)
  | write

section

variable [DecidableEq κ]

def updateAt (key : σ) (k : κ) (value : Option ν) (view : σ → κ → Option ν) : σ → κ → Option ν :=
  Function.update view key (Function.update (view key) k value)

/-- One step of the copying store; writes go to registered keys and reverts to an
index that is still on the stack. -/
def Naive.step (c : Naive σ κ ν) : Op σ κ ν → Option (Naive σ κ ν)
  | .set key k value =>
    if key ∈ c.keys then some { c with copies := c.copies.modify (updateAt key k (some value)) }
    else none
  | .delete key k =>
    if key ∈ c.keys then some { c with copies := c.copies.modify (updateAt key k none) } else none
  | .snapshot => some { c with copies := c.copies.push }
  | .revertToSnapshot target =>
    if 0 ≤ target then (c.copies.truncate target.toNat).map fun copies => { c with copies := copies }
    else none
  | .write => some { c with underlying := c.copies.current, copies := c.copies.commit }

def Store.step (s : Store σ κ ν) : Op σ κ ν → Except StorePanic (Store σ κ ν)
  | .set key k value => put s key k (some value)
  | .delete key k => put s key k none
  | .snapshot => (snapshot s).map Prod.fst
  | .revertToSnapshot target => revertToSnapshot s target
  | .write => write s

end

/-- The store's layers stand for the copies. -/
structure Refines (s : Store σ κ ν) (c : Naive σ κ ν) : Prop where
  synced : Synced s
  keys : ∀ key, key ∈ c.keys ↔ key ∈ s.storeKeys
  head : s.head = c.copies.saved.length
  underlying : ∀ key store, s.stores.lookup key = some store →
    store.initialStore.parent = c.underlying key
  copies : ∀ key store, s.stores.lookup key = some store →
    Snapshotkv.copiesOf store = c.copies.map fun view => view key

section

variable {s : Store σ κ ν} {c d : Naive σ κ ν}

theorem Synced.loop (synced : Synced s) {act : Snapshotkv.Store κ ν → Except StorePanic (Snapshotkv.Store κ ν)}
    {effect : Snapshotkv.Store κ ν → Snapshotkv.Store κ ν}
    (succeeds : ∀ key store, s.stores.lookup key = some store → act store = .ok (effect store)) :
    ∃ changed, eachStore act s.storeKeys s.stores = .ok changed ∧
      ∀ key, changed.lookup key = (s.stores.lookup key).map effect := by
  have every : ∀ key ∈ s.storeKeys, ∃ store, s.stores.lookup key = some store ∧
      act store = .ok (effect store) := by
    intro key member
    obtain ⟨store, found⟩ := (synced.registered key).mp member
    exact ⟨store, found, succeeds key store found⟩
  obtain ⟨changed, ran, entries⟩ := eachStore_ok synced.distinct every
  refine ⟨changed, ran, fun key => ?_⟩
  rw [entries]
  split
  · rfl
  · rename_i absent
    cases found : s.stores.lookup key with
    | none => rfl
    | some store => exact absurd ((synced.registered key).mpr ⟨store, found⟩) absent

/-- A loop over all stores refines a step of the copies when it does so on each store. -/
theorem Refines.loop (refines : Refines s c) {head : ℤ} {changed : AList fun _ : σ => Snapshotkv.Store κ ν}
    {effect : Snapshotkv.Store κ ν → Snapshotkv.Store κ ν}
    (entries : ∀ key, changed.lookup key = (s.stores.lookup key).map effect)
    (keys : d.keys = c.keys) (headIs : head = d.copies.saved.length)
    (underlying : ∀ key store, s.stores.lookup key = some store →
      (effect store).initialStore.parent = d.underlying key) (copies : ∀ key store, s.stores.lookup key = some store →
      Snapshotkv.copiesOf (effect store) = d.copies.map fun view => view key) :
    Refines { s with stores := changed, head := head } d := by
  have lookups : ∀ key store, changed.lookup key = some store →
      ∃ held, s.stores.lookup key = some held ∧ effect held = store := by
    intro key store found
    rw [entries] at found
    exact Option.map_eq_some_iff.mp found
  refine ⟨⟨refines.synced.distinct, ?_, ?_⟩, ?_, headIs, ?_, ?_⟩
  · intro key
    rw [refines.synced.registered]
    simp only [entries, Option.map_eq_some_iff]
    constructor
    · rintro ⟨store, found⟩
      exact ⟨effect store, store, found, rfl⟩
    · rintro ⟨-, store, found, -⟩
      exact ⟨store, found⟩
  · intro key store found
    obtain ⟨held, before, rfl⟩ := lookups key store found
    change ((effect held).cacheStores.length : ℤ) = head
    rw [headIs, ← Snapshotkv.copiesOf_length, copies key held before]
    simp [Copies.map]
  · rw [keys]
    exact refines.keys
  · intro key store found
    obtain ⟨held, before, rfl⟩ := lookups key store found
    exact underlying key held before
  · intro key store found
    obtain ⟨held, before, rfl⟩ := lookups key store found
    exact copies key held before

theorem Refines.snapshot (refines : Refines s c) : ∃ t, Snapshotmulti.snapshot s = .ok (t, c.copies.saved.length) ∧
      Refines t { c with copies := c.copies.push } := by
  obtain ⟨changed, ran, entries⟩ := refines.synced.loop fun _ _ _ => rfl
  refine ⟨{ s with stores := changed, head := s.head + 1 }, ?_, ?_⟩
  · unfold Snapshotmulti.snapshot
    rw [bind_of_ok ran, refines.head]
    simp [pure, Except.pure]
  · refine refines.loop entries rfl ?_ ?_ ?_
    · rw [refines.head]
      simp
    · intro key store found
      exact refines.underlying key store found
    · intro key store found
      rw [Snapshotkv.copiesOf_snapshot, refines.copies key store found, ← Copies.map_push]

theorem Refines.revertToSnapshot (refines : Refines s c) {index : ℕ} {earlier : Copies (σ → κ → Option ν)}
    (back : c.copies.truncate index = some earlier) : ∃ t, Snapshotmulti.revertToSnapshot s index = .ok t ∧
      Refines t { c with copies := earlier } := by
  obtain ⟨inside, length⟩ := Copies.truncate_length back
  have insideStore : ∀ key store, s.stores.lookup key = some store →
      index < store.cacheStores.length := by
    intro key store found
    have synced := refines.synced.lengths key store found
    rw [refines.head] at synced
    omega
  obtain ⟨changed, ran, entries⟩ := refines.synced.loop
    fun key store found => Snapshotkv.revertToSnapshot_inside store (insideStore key store found)
  refine ⟨{ s with stores := changed, head := index }, ?_, ?_⟩
  · exact bind_of_ok ran _
  · refine refines.loop entries rfl ?_ ?_ ?_
    · rw [length]
    · intro key store found
      exact refines.underlying key store found
    · intro key store found
      have taken := Snapshotkv.copiesOf_take store (insideStore key store found)
      rw [refines.copies key store found, Copies.truncate_map (fun view => view key) back] at taken
      exact (Option.some.inj taken).symm

theorem Refines.write (refines : Refines s c) : ∃ t, Snapshotmulti.write s = .ok t ∧
      Refines t { c with underlying := c.copies.current, copies := c.copies.commit } := by
  obtain ⟨changed, ran, entries⟩ := refines.synced.loop fun _ _ _ => rfl
  refine ⟨{ s with stores := changed, head := initialHead }, ?_, ?_⟩
  · exact bind_of_ok ran _
  · refine refines.loop entries rfl rfl ?_ ?_
    · intro key store found
      rw [(Snapshotkv.copiesOf_commit store).2, refines.copies key store found]
      rfl
    · intro key store found
      rw [(Snapshotkv.copiesOf_commit store).1, refines.copies key store found]
      rfl

theorem map_updateAt_self [DecidableEq κ] (copies : Copies (σ → κ → Option ν)) (key : σ) (k : κ)
    (value : Option ν) : (copies.modify (updateAt key k value)).map (fun view => view key) =
      (copies.map fun view => view key).modify fun view => Function.update view k value := by
  simp [Copies.modify, Copies.map, updateAt]

theorem map_updateAt_ne [DecidableEq κ] (copies : Copies (σ → κ → Option ν)) {key other : σ} (k : κ)
    (value : Option ν) (apart : other ≠ key) :
    (copies.modify (updateAt key k value)).map (fun view => view other) = copies.map fun view => view other := by
  simp [Copies.modify, Copies.map, updateAt, apart]

theorem put_length [DecidableEq κ] (store : Snapshotkv.Store κ ν) (k : κ) (value : Option ν) :
    (Snapshotkv.put store k value).cacheStores.length = store.cacheStores.length := by
  rw [← Snapshotkv.copiesOf_length, Snapshotkv.copiesOf_put, ← Snapshotkv.copiesOf_length]
  rfl

theorem put_parent [DecidableEq κ] (store : Snapshotkv.Store κ ν) (k : κ) (value : Option ν) :
    (Snapshotkv.put store k value).initialStore.parent = store.initialStore.parent := by
  unfold Snapshotkv.put
  split <;> rfl

section

variable {key : σ} (refines : Refines s c)

include refines

theorem Refines.put [DecidableEq κ] (known : key ∈ c.keys) (k : κ) (value : Option ν) :
    ∃ t, Snapshotmulti.put s key k value = .ok t ∧
      Refines t { c with copies := c.copies.modify (updateAt key k value) } := by
  obtain ⟨store, found⟩ := (refines.synced.registered key).mp ((refines.keys key).mp known)
  have entry : ∀ other, (s.stores.insert key (Snapshotkv.put store k value)).lookup other =
      if other = key then some (Snapshotkv.put store k value) else s.stores.lookup other := by
    intro other
    split
    · rename_i same
      rw [same, AList.lookup_insert]
    · rename_i apart
      exact AList.lookup_insert_ne apart
  refine ⟨{ s with stores := s.stores.insert key (Snapshotkv.put store k value) }, ?_, ?_⟩
  · unfold Snapshotmulti.put
    rw [found]
  have held : ∀ other changed, (s.stores.insert key (Snapshotkv.put store k value)).lookup other =
      some changed → (other = key ∧ changed = Snapshotkv.put store k value) ∨
        (other ≠ key ∧ s.stores.lookup other = some changed) := by
    intro other changed lookup
    rw [entry] at lookup
    by_cases same : other = key
    · rw [if_pos same] at lookup
      exact Or.inl ⟨same, (Option.some.inj lookup).symm⟩
    · rw [if_neg same] at lookup
      exact Or.inr ⟨same, lookup⟩
  refine ⟨⟨refines.synced.distinct, ?_, ?_⟩, refines.keys, refines.head, ?_, ?_⟩
  · intro other
    rw [refines.synced.registered]
    simp only [entry]
    by_cases same : other = key
    · subst same
      exact ⟨fun _ => ⟨_, if_pos rfl⟩, fun _ => ⟨store, found⟩⟩
    · simp only [same, if_false]
  · intro other changed lookup
    rcases held other changed lookup with ⟨rfl, rfl⟩ | ⟨-, before⟩
    · rw [put_length]
      exact refines.synced.lengths other store found
    · exact refines.synced.lengths other changed before
  · intro other changed lookup
    rcases held other changed lookup with ⟨rfl, rfl⟩ | ⟨-, before⟩
    · rw [put_parent]
      exact refines.underlying other store found
    · exact refines.underlying other changed before
  · intro other changed lookup
    rcases held other changed lookup with ⟨rfl, rfl⟩ | ⟨apart, before⟩
    · rw [Snapshotkv.copiesOf_put, refines.copies other store found, map_updateAt_self]
    · rw [map_updateAt_ne _ _ _ apart]
      exact refines.copies other changed before

/-- One step of the copies is matched by a step of the store that does not panic. -/
theorem Refines.step [DecidableEq κ] {op : Op σ κ ν} (stepped : c.step op = some d) :
    ∃ t, s.step op = .ok t ∧ Refines t d := by
  cases op with
  | set key k value =>
    simp only [Naive.step] at stepped
    split at stepped
    · rename_i known
      cases stepped
      exact refines.put known k (some value)
    · cases stepped
  | delete key k =>
    simp only [Naive.step] at stepped
    split at stepped
    · rename_i known
      cases stepped
      exact refines.put known k none
    · cases stepped
  | snapshot =>
    cases stepped
    obtain ⟨t, taken, after⟩ := refines.snapshot
    exact ⟨t, by rw [Store.step, taken]; rfl, after⟩
  | revertToSnapshot target =>
    simp only [Naive.step] at stepped
    split at stepped
    · rename_i nonneg
      obtain ⟨earlier, back, rfl⟩ := Option.map_eq_some_iff.mp stepped
      obtain ⟨t, reverted, after⟩ := refines.revertToSnapshot back
      rw [Int.toNat_of_nonneg nonneg] at reverted
      exact ⟨t, reverted, after⟩
    · cases stepped
  | write =>
    cases stepped
    exact refines.write

theorem Refines.run [DecidableEq κ] {ops : List (Op σ κ ν)} (ran : ops.foldlM Naive.step c = some d) :
    ∃ t, ops.foldlM Store.step s = .ok t ∧ Refines t d := by
  induction ops generalizing s c with
  | nil =>
    cases ran
    exact ⟨s, rfl, refines⟩
  | cons op rest ih =>
    rw [List.foldlM_cons] at ran
    obtain ⟨next, stepped, ran⟩ := Option.bind_eq_some_iff.mp ran
    obtain ⟨t, matched, after⟩ := refines.step stepped
    obtain ⟨u, finished, final⟩ := ih after ran
    exact ⟨u, by rw [List.foldlM_cons, bind_of_ok matched, finished], final⟩

theorem Refines.get (known : key ∈ c.keys) (k : κ) : Snapshotmulti.get s key k = .ok (c.copies.current key k) := by
  obtain ⟨store, found⟩ := (refines.synced.registered key).mp ((refines.keys key).mp known)
  simp only [Snapshotmulti.get, found, Snapshotkv.get_copiesOf, refines.copies key store found]
  rfl

theorem Refines.get_underlying (known : key ∈ c.keys) : Snapshotmulti.underlying s key = some (c.underlying key) := by
  obtain ⟨store, found⟩ := (refines.synced.registered key).mp ((refines.keys key).mp known)
  unfold Snapshotmulti.underlying
  rw [found, ← refines.underlying key store found]
  rfl

/-- Out of range, every store panics, so the first one does, if there is one. -/
theorem Refines.revert_panics (some_key : c.keys ≠ []) {target : ℤ} (outside : ¬ (0 ≤ target ∧ target < s.head)) :
    ∃ panic, Snapshotmulti.revertToSnapshot s target = .error panic := by
  have present : s.storeKeys ≠ [] := by
    obtain ⟨key, known⟩ := List.exists_mem_of_ne_nil _ some_key
    exact List.ne_nil_of_mem ((refines.keys key).mp known)
  obtain ⟨panic, failed⟩ := eachStore_fails
    (fun store => Snapshotkv.revertToSnapshot store target) s.stores present (by
      intro key store found
      refine ⟨_, Snapshotkv.revertToSnapshot_outside store ?_⟩
      rw [refines.synced.lengths key store found]
      exact outside)
  refine ⟨panic, ?_⟩
  unfold Snapshotmulti.revertToSnapshot
  rw [failed]
  rfl

end

end

/-- The copying store over the same cache-wraps, before any snapshot. -/
def naiveOf (stores : AList fun _ : σ => CacheWrap κ ν) : Naive σ κ ν where
  keys := stores.keys
  underlying key := ((stores.lookup key).map CacheWrap.parent).getD fun _ => none
  copies := ⟨fun key => ((stores.lookup key).map fun store =>
    through store.cache store.parent).getD fun _ => none, []⟩

theorem newStore_lookup (stores : AList fun _ : σ => CacheWrap κ ν) (keys : List σ) (key : σ) :
    (keys.foldr (fun key (built : AList fun _ : σ => Snapshotkv.Store κ ν) => match stores.lookup key with
      | none => built
      | some store => built.insert key (Snapshotkv.newStore store)) ∅).lookup key =
      if key ∈ keys then (stores.lookup key).map Snapshotkv.newStore else none := by
  induction keys with
  | nil => simp
  | cons first rest ih =>
    rw [List.foldr_cons]
    by_cases same : key = first
    · subst same
      cases found : stores.lookup key with
      | none => simp [ih, found]
      | some store => simp
    · cases stores.lookup first with
      | none => simp [ih, same]
      | some store => simp [AList.lookup_insert_ne same, ih, same]

theorem newStoreWithKVStores_refines (name : σ → String) (stores : AList fun _ : σ => CacheWrap κ ν) :
    Refines (newStoreWithKVStores name stores) (naiveOf stores) := by
  have entries : ∀ key, (newStoreWithKVStores name stores).stores.lookup key =
      (stores.lookup key).map Snapshotkv.newStore := by
    intro key
    refine (newStore_lookup stores stores.keys key).trans ?_
    split
    · rfl
    · rename_i absent
      rw [AList.lookup_eq_none.mpr absent]
      rfl
  have sorted : ∀ key, key ∈ (newStoreWithKVStores name stores).storeKeys ↔ key ∈ stores.keys :=
    fun key => List.mem_insertionSort _
  refine ⟨⟨?_, ?_, ?_⟩, ?_, rfl, ?_, ?_⟩
  · exact (List.perm_insertionSort _ _).nodup_iff.mpr stores.keys_nodup
  · intro key
    rw [sorted, entries, ← AList.mem_keys, ← AList.lookup_isSome, Option.isSome_iff_exists]
    simp
  · intro key store found
    rw [entries] at found
    obtain ⟨wrap, -, rfl⟩ := Option.map_eq_some_iff.mp found
    rfl
  · intro key
    exact (sorted key).symm
  · intro key store found
    rw [entries] at found
    obtain ⟨wrap, held, rfl⟩ := Option.map_eq_some_iff.mp found
    simp [naiveOf, held, Snapshotkv.newStore]
  · intro key store found
    rw [entries] at found
    obtain ⟨wrap, held, rfl⟩ := Option.map_eq_some_iff.mp found
    simp [naiveOf, held, Snapshotkv.newStore, Snapshotkv.copiesOf, Snapshotkv.initialView, copies, Copies.map]

/-- What a user of the store may rely on after any run of operations that the
copying store accepts. -/
def RefinesCopies [DecidableEq κ] (name : σ → String) (stores : AList fun _ : σ => CacheWrap κ ν) :
    Prop :=
  ∀ (ops : List (Op σ κ ν)) (c : Naive σ κ ν), ops.foldlM Naive.step (naiveOf stores) = some c →
    ∃ s, ops.foldlM Store.step (newStoreWithKVStores name stores) = .ok s ∧
      (∀ key ∈ stores.keys, ∀ k, get s key k = .ok (c.copies.current key k)) ∧
      (∀ key store, s.stores.lookup key = some store → (store.cacheStores.length : ℤ) = s.head) ∧
      (∃ t, snapshot s = .ok (t, c.copies.saved.length)) ∧
      (∀ target, (∃ panic, revertToSnapshot s target = .error panic) ↔ ¬ (0 ≤ target ∧ target < s.head)) ∧
      ∃ t, write s = .ok t ∧
        ∀ key ∈ stores.keys, underlying t key = some (c.copies.current key)

theorem Naive.step_keys [DecidableEq κ] {c d : Naive σ κ ν} {op : Op σ κ ν}
    (stepped : c.step op = some d) : d.keys = c.keys := by
  cases op with
  | snapshot =>
    cases stepped
    rfl
  | write =>
    cases stepped
    rfl
  | set key k value =>
    simp only [Naive.step] at stepped
    split at stepped
    · cases stepped
      rfl
    · cases stepped
  | delete key k =>
    simp only [Naive.step] at stepped
    split at stepped
    · cases stepped
      rfl
    · cases stepped
  | revertToSnapshot target =>
    simp only [Naive.step] at stepped
    split at stepped
    · obtain ⟨copies, -, rfl⟩ := Option.map_eq_some_iff.mp stepped
      rfl
    · cases stepped

theorem Naive.run_keys [DecidableEq κ] {c d : Naive σ κ ν} {ops : List (Op σ κ ν)}
    (ran : ops.foldlM Naive.step c = some d) : d.keys = c.keys := by
  induction ops generalizing c with
  | nil =>
    cases ran
    rfl
  | cons op rest ih =>
    rw [List.foldlM_cons] at ran
    obtain ⟨next, stepped, ran⟩ := Option.bind_eq_some_iff.mp ran
    rw [ih ran, Naive.step_keys stepped]

/-- The store refines complete copies exactly when a store is registered: without
one, `RevertToSnapshot` has no stack to check its index against. -/
theorem refinesCopies_iff [DecidableEq κ] (name : σ → String)
    (stores : AList fun _ : σ => CacheWrap κ ν) :
    RefinesCopies name stores ↔ stores.keys ≠ [] := by
  constructor
  · intro refines empty
    obtain ⟨s, ran, -, -, -, panics, -⟩ := refines [] (naiveOf stores) rfl
    obtain rfl := Except.ok.inj ran
    obtain ⟨panic, failed⟩ := (panics 0).mpr (by simp [newStoreWithKVStores, initialHead])
    simp [revertToSnapshot, newStoreWithKVStores, empty, eachStore, bind, Except.bind, pure,
      Except.pure] at failed
  · intro nonempty ops c ran
    obtain ⟨s, matched, refines⟩ := (newStoreWithKVStores_refines name stores).run ran
    have keys : c.keys = stores.keys := Naive.run_keys ran
    refine ⟨s, matched, ?_, refines.synced.lengths, ?_, ?_, ?_⟩
    · intro key known k
      exact refines.get (by rwa [keys]) k
    · obtain ⟨t, taken, -⟩ := refines.snapshot
      exact ⟨t, taken⟩
    · intro target
      constructor
      · rintro ⟨panic, failed⟩ ⟨nonneg, inside⟩
        rw [refines.head] at inside
        have bound : target.toNat < c.copies.saved.length := by omega
        obtain ⟨earlier, back⟩ := Copies.truncate_isSome bound
        obtain ⟨t, reverted, -⟩ := refines.revertToSnapshot back
        rw [Int.toNat_of_nonneg nonneg, failed] at reverted
        cases reverted
      · exact refines.revert_panics (by rwa [keys])
    · obtain ⟨t, written, after⟩ := refines.write
      exact ⟨t, written, fun key known => after.get_underlying (by rwa [keys])⟩

/-- With no store registered, an index that was never returned is accepted. -/
theorem revertToSnapshot_unregistered :
    ∃ t : Store String (List UInt8) (List UInt8),
      revertToSnapshot (newStoreWithKVStores id ∅) 5 = .ok t ∧ t.head = 5 :=
  ⟨_, rfl, rfl⟩

end Snapshotmulti

end OgEvm
