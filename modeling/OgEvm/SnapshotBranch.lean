import OgEvm.SnapshotRefinement

/- CacheMultiStore returns its receiver, so a branch is the parent store with one
more layer on every stack. -/
namespace OgEvm.Snapshotmulti

open Layers ExceptFacts

variable {σ κ ν : Type} [DecidableEq σ] [DecidableEq κ]

/-- A sequence of Set and Delete calls: store, key, and the value if there is one. -/
abbrev Writes (σ κ ν : Type) : Type := List (σ × κ × Option ν)

/-- The writes made through one store pointer. -/
def putThrough (heap : Heap σ κ ν) (s : ℕ) (writes : Writes σ κ ν) :
    Except StorePanic (Heap σ κ ν) :=
  writes.foldlM (fun heap write => do
    let changed ← put (heap s) write.1 write.2.1 write.2.2
    pure (Function.update heap s changed)) heap

/-- The writes applied to one complete copy. -/
def applied (writes : Writes σ κ ν) (view : σ → κ → Option ν) : σ → κ → Option ν :=
  writes.foldl (fun view write => updateAt write.1 write.2.1 write.2.2 view) view

theorem putThrough_refines {heap : Heap σ κ ν} {s : ℕ} {c : Naive σ κ ν} {writes : Writes σ κ ν}
    (refines : Refines (heap s) c) (known : ∀ write ∈ writes, write.1 ∈ c.keys) :
    ∃ after, putThrough heap s writes = .ok after ∧
      Refines (after s) { c with copies := c.copies.modify (applied writes) } := by
  induction writes generalizing heap c with
  | nil => exact ⟨heap, rfl, refines⟩
  | cons write rest ih =>
    obtain ⟨changed, putOk, next⟩ :=
      refines.put (known write List.mem_cons_self) write.2.1 write.2.2
    have here : Refines (Function.update heap s changed s)
        { c with copies := c.copies.modify (updateAt write.1 write.2.1 write.2.2) } := by
      rw [Function.update_self]
      exact next
    obtain ⟨after, ran, final⟩ := ih here fun other member =>
      known other (List.mem_cons_of_mem _ member)
    refine ⟨after, ?_, final⟩
    unfold putThrough
    rw [List.foldlM_cons, bind_assoc, bind_of_ok putOk]
    exact ran

/-- A branch of a store with at least one registered store is the store itself.
Its writes show through the parent at once. As long as Write is not called, the
parent can be reverted to where the branch was made and to every earlier
snapshot. Write makes the branch's view permanent and forgets every snapshot. -/
theorem branch_shares_parent (name : σ → String) (stores : AList fun _ : σ => CacheWrap κ ν)
    (nonempty : stores.keys ≠ []) (ops : List (Op σ κ ν)) (c : Naive σ κ ν)
    (ran : ops.foldlM Naive.step (naiveOf stores) = some c) (heap : Heap σ κ ν) (parent : ℕ)
    (reached : ops.foldlM Store.step (newStoreWithKVStores name stores) = .ok (heap parent))
    (writes : Writes σ κ ν) (known : ∀ write ∈ writes, write.1 ∈ stores.keys) :
    ∃ branched branch, cacheMultiStore heap parent = .ok (branched, branch) ∧ branch = parent ∧
      ∃ after, putThrough branched branch writes = .ok after ∧
        (∀ key ∈ stores.keys, ∀ k,
          get (after parent) key k = .ok (applied writes c.copies.current key k)) ∧
        (∀ index earlier, c.copies.push.truncate index = some earlier →
          ∃ t, revertToSnapshot (after parent) index = .ok t ∧
            ∀ key ∈ stores.keys, ∀ k, get t key k = .ok (earlier.current key k)) ∧
        ∃ t, write (after branch) = .ok t ∧
          (∀ key ∈ stores.keys, underlying t key = some (applied writes c.copies.current key)) ∧
          (∀ key ∈ stores.keys, ∀ k,
            get t key k = .ok (applied writes c.copies.current key k)) ∧
          ∀ index, ∃ panic, revertToSnapshot t index = .error panic := by
  have keys : c.keys = stores.keys := Naive.run_keys ran
  have refines : Refines (heap parent) c := by
    obtain ⟨s, matched, refines⟩ := (newStoreWithKVStores_refines name stores).run ran
    rw [reached] at matched
    rwa [← Except.ok.inj matched] at refines
  obtain ⟨pushed, taken, branchRefines⟩ := refines.snapshot
  refine ⟨Function.update heap parent pushed, parent, ?_, rfl, ?_⟩
  · unfold cacheMultiStore
    rw [bind_of_ok taken]
    rfl
  have here : Refines (Function.update heap parent pushed parent)
      { c with copies := c.copies.push } := by
    rw [Function.update_self]
    exact branchRefines
  obtain ⟨after, put, final⟩ := putThrough_refines here fun write member => by
    rw [keys]
    exact known write member
  refine ⟨after, put, ?_, ?_, ?_⟩
  · intro key registered k
    exact final.get (by rwa [keys]) k
  · intro index earlier back
    obtain ⟨t, reverted, restored⟩ := final.revertToSnapshot back
    exact ⟨t, reverted, fun key registered k => restored.get (by rwa [keys]) k⟩
  · obtain ⟨t, written, stored⟩ := final.write
    refine ⟨t, written, ?_, ?_, ?_⟩
    · intro key registered
      exact stored.get_underlying (by rwa [keys])
    · intro key registered k
      exact stored.get (by rwa [keys]) k
    · intro index
      refine stored.revert_panics (by rwa [keys]) ?_
      rw [stored.head]
      simp [Copies.commit]

/-- One registered store with nothing in it. -/
def oneStore : AList fun _ : String => CacheWrap (List UInt8) (List UInt8) :=
  AList.singleton "evm" ⟨fun _ => none, untouched⟩

theorem branch_shares_parent_oneStore :
    ∃ s branched after, snapshot (newStoreWithKVStores id oneStore) = .ok (s, 0) ∧
      cacheMultiStore (fun _ => s) 0 = .ok (branched, 0) ∧
      putThrough branched 0 [("evm", [1], some [7])] = .ok after ∧
      get (after 0) "evm" [1] = .ok (some [7]) ∧
      ∃ t, revertToSnapshot (after 0) 1 = .ok t ∧ get t "evm" [1] = .ok none := by
  obtain ⟨s, taken, -⟩ := (newStoreWithKVStores_refines id oneStore).snapshot
  have reached : [Op.snapshot].foldlM Store.step (newStoreWithKVStores id oneStore) = .ok s := by
    change ((snapshot (newStoreWithKVStores id oneStore)).map Prod.fst >>= pure) = _
    rw [taken]
    rfl
  obtain ⟨branched, branch, wrapped, rfl, after, put, visible, reverts, -⟩ :=
    branch_shares_parent id oneStore (by decide) [.snapshot] _ rfl (fun _ => s) 0 reached
      [("evm", [1], some [7])] (by decide)
  obtain ⟨t, reverted, restored⟩ := reverts 1 _ rfl
  exact ⟨s, branched, after, taken, wrapped, put, visible "evm" (by decide) [1], t, reverted,
    restored "evm" (by decide) [1]⟩

/-- A write through the branch is read through the parent without any Write, and
after a Write the index taken before the branch is out of bounds. -/
theorem branch_not_isolated :
    ∃ s branched after, snapshot (newStoreWithKVStores id oneStore) = .ok (s, 0) ∧
      cacheMultiStore (fun _ => s) 0 = .ok (branched, 0) ∧
      putThrough branched 0 [("evm", [1], some [7])] = .ok after ∧
      get s "evm" [1] = .ok none ∧ get (after 0) "evm" [1] = .ok (some [7]) ∧
      ∃ t, write (after 0) = .ok t ∧ revertToSnapshot t 0 = .error (.snapshotIndex 0 0) :=
  ⟨_, _, _, rfl, rfl, rfl, rfl, rfl, _, rfl, rfl⟩

end OgEvm.Snapshotmulti
