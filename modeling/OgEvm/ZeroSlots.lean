import OgEvm.NoLostWrite
import OgEvm.StateDbStores

/- Slots whose stored value is zero. The commit loop means to delete a slot that is
written with zero, but it asks for the length of a hash, which is never zero, so the
slot is stored and counts as storage of the account. -/
namespace OgEvm

open ExceptFacts Layers

namespace Keeper

/-- The pairs `ForEachStorage` visits. -/
def visited (store : VmStore) (addr : Address) (key : Hash) : Option Hash :=
  (store.storage addr key).map bytesToHash

/-- No account stores a zero-valued slot. -/
def ZeroFree (store : VmStore) : Prop := ∀ addr key, visited store addr key ≠ some zeroHash

/-- The slots of an account that are not zero. -/
def nonzeroSlots (store : VmStore) (addr : Address) (key : Hash) : Option Hash :=
  if getState store addr key = zeroHash then none else some (getState store addr key)

theorem visited_of_zeroFree {store : VmStore} (clean : ZeroFree store) (addr : Address) :
    visited store addr = nonzeroSlots store addr := by
  funext key
  have nonzero := clean addr key
  unfold nonzeroSlots getState
  unfold visited at nonzero ⊢
  cases stored : store.storage addr key with
  | none => rfl
  | some bytes =>
    rw [stored] at nonzero
    cases bytes with
    | nil => exact absurd rfl nonzero
    | cons first rest =>
      have shown : bytesToHash (first :: rest) ≠ zeroHash := fun zero => nonzero (congrArg some zero)
      simp [shown]

theorem deleteAccount_visited {env : Env} {ctx after : Context} {addr : Address}
    (success : deleteAccount env ctx addr = .ok after) (other : Address) (key : Hash) :
    after.store.storage other key = none ∨ after.store.storage other key = ctx.store.storage other key := by
  by_cases apart : other = addr
  · subst apart
    unfold deleteAccount at success
    split at success
    · cases success
      exact Or.inr rfl
    · split at success
      · cases success
      · obtain ⟨emptied, -, final⟩ := bind_ok success
        cases final
        exact Or.inl (by simp [Context.withStore, deleteCodeHash])
  · exact Or.inr (by rw [(deleteAccount_spares success).storage _ apart])

end Keeper

namespace StateDb

open Keeper (visited ZeroFree nonzeroSlots)

/-- `IsStorageEmpty` and `GetStorageRoot` read the transaction's context. The stack trie is
a function of the visited pairs. -/
def IsStorageEmpty (s : StateDb) (addr : Address) : Prop := ∀ key, visited s.ctx.store addr key = none

def getStorageRoot (stackTrie : (Hash → Option Hash) → Hash) (s : StateDb) (addr : Address) : Hash :=
  stackTrie (visited s.ctx.store addr)

/-- No dirty slot that the next write stores is zero. -/
def NonzeroPending (s : StateDb) : Prop :=
  ∀ addr ∈ s.journal.dirties, ∀ obj, s.stateObjects addr = some obj → obj.selfDestructed = false →
    ∀ key, obj.dirtyStorage.lookup key ≠ some zeroHash

instance (s : StateDb) : Decidable (NonzeroPending s) :=
  decidable_of_iff (∀ addr ∈ s.journal.dirties.keys, ∀ obj ∈ s.stateObjects addr,
      obj.selfDestructed = false → ∀ key ∈ obj.dirtyStorage.keys,
        obj.dirtyStorage.lookup key ≠ some zeroHash) <| by
    refine forall₂_congr fun addr _ => forall₂_congr fun obj _ => forall_congr' fun _ => ?_
    refine ⟨fun nonzero key zero => nonzero key ?_ zero, fun nonzero key _ => nonzero key⟩
    have held : (obj.dirtyStorage.lookup key).isSome := by rw [zero]; rfl
    exact AList.mem_keys.mp (AList.lookup_isSome.mp held)

/-- Every precompile call of the run flushes no zero, and its own writes store none. -/
def NonzeroRun (env : Env) : StateDb → List Step → Prop
  | _, [] => True
  | s, step :: rest =>
    (∀ p, step = .precompile p → NonzeroPending s ∧ ActionKeeps ZeroFree p) ∧
      ∀ t, step.run env s = .ok t → NonzeroRun env t rest

section

variable {env : Env} {s t : StateDb}

theorem writeKeeps_zeroFree (keepDirty : Bool) {obj : StateObject}
    (nonzero : obj.selfDestructed = false → ∀ key, obj.dirtyStorage.lookup key ≠ some zeroHash) :
    WriteKeeps ZeroFree env keepDirty obj := by
  intro ctx after changed clean success addr key
  cases alive : obj.selfDestructed with
  | true =>
    have deleted := (commitObject_deleted success alive).1
    unfold visited
    rcases Keeper.deleteAccount_visited deleted addr key with gone | same
    · simp [gone]
    · rw [same]
      exact clean addr key
  | false =>
    by_cases here : addr = obj.address
    · subst here
      unfold visited
      rw [commitObject_storage success alive]
      cases pending : obj.dirtyStorage.lookup key with
      | none => exact clean obj.address key
      | some value =>
        rw [Option.map_some, Option.some_or, Option.map_some, bytesToHash_toList, ← pending]
        exact nonzero alive key
    · unfold visited
      rw [commitObject_untouched success here]
      exact clean addr key

theorem NonzeroPending.keeps (nonzero : NonzeroPending s) (keepDirty : Bool) : DirtyKeeps ZeroFree env keepDirty s :=
  fun addr dirty obj found => writeKeeps_zeroFree keepDirty (nonzero addr dirty obj found)

theorem NonzeroRun.keeps {steps : List Step} (nonzero : NonzeroRun env s steps) : RunKeeps ZeroFree env s steps := by
  induction steps generalizing s with
  | nil => trivial
  | cons step rest ih =>
    refine ⟨fun p same => ?_, fun t ran => ih (nonzero.2 t ran)⟩
    obtain ⟨pending, acts⟩ := nonzero.1 p same
    exact ⟨pending.keeps true, acts⟩

/-- A zero that is pending at the commit is stored. -/
theorem commit_stores_zero (addressed : Addressed s) (success : commit env s = .ok (t, none))
    (clean : ZeroFree t.ctx.store) : NonzeroPending s := by
  obtain ⟨-, objects, -⟩ := written_eq s
  obtain ⟨u, ctx, done, rfl⟩ := commit_ok success
  have kept : Addressed (written s) := by
    intro other obj found
    rw [objects] at found
    exact addressed other obj found
  intro addr dirty obj found alive key zero
  rw [← mem_sortedDirties] at dirty
  rw [← objects] at found
  have stored := commitObjects_storage kept (sortedDirties_nodup s.journal) done dirty found alive key
  rw [zero, Option.map_some, Option.some_or] at stored
  refine clean addr key ?_
  unfold visited
  rw [stored, Option.map_some, bytesToHash_toList]

/-- From a store without zero-valued slots, and if no precompile call flushes a zero, the
commit leaves none exactly if none is pending. The account's storage is then what its
slots show. -/
theorem zeroFree_commit_iff {ctx : Context} {txConfig : TxConfig} {preparation : Option Preparation}
    {start final : StateDb} {steps : List Step} (clean : ZeroFree ctx.store)
    (started : begin ctx txConfig preparation = .ok start) (nonzero : NonzeroRun env start steps)
    (ran : runSteps env start steps = .ok s) (committed : commit env s = .ok (final, none)) :
    (ZeroFree final.ctx.store ↔ NonzeroPending s) ∧
      (NonzeroPending s → ∀ addr,
        (IsStorageEmpty final addr ↔ ∀ key, Keeper.getState final.ctx.store addr key = zeroHash) ∧
          ∀ stackTrie, getStorageRoot stackTrie final addr =
            stackTrie (nonzeroSlots final.ctx.store addr)) := by
  have begun : Everywhere env (fun _ => view env noSlot start) start := begin_tracked started trivial
  obtain ⟨all, everywhere⟩ := everywhere_runSteps begun ran
  have copies := runSteps_copies begun (begin_copies started clean) nonzero.keeps ran
  have stays (pending : NonzeroPending s) : ZeroFree final.ctx.store :=
    commit_keeps everywhere.addressed copies.current (pending.keeps false) committed
  refine ⟨⟨commit_stores_zero everywhere.addressed committed, stays⟩, fun pending addr => ?_⟩
  have shown := Keeper.visited_of_zeroFree (stays pending) addr
  refine ⟨?_, fun stackTrie => congrArg stackTrie shown⟩
  unfold IsStorageEmpty
  rw [shown]
  refine forall_congr' fun key => ?_
  unfold nonzeroSlots
  split <;> simp [*]

end

/-- The account of the toy store holds one in a slot. -/
def oneSlotStore : VmStore :=
  Keeper.setState (oneAccountStore (bytesToAddress [7])) (bytesToAddress [7]) zeroHash (bytesToHash [1]).toList

theorem oneSlotStore_zeroFree : ZeroFree oneSlotStore := by
  intro addr key
  unfold visited oneSlotStore
  rw [Keeper.setState_storage]
  split
  · decide
  · simp [oneAccountStore, emptyStore]

def oneSlotHeld : StateDb := new ⟨oneSlotStore, []⟩ ⟨zeroHash, 0⟩

theorem zeroFree_commit_iff_called :
    ∃ s final, runSteps toyEnv oneSlotHeld [.precompile idle, writeSlot 2] = .ok s ∧
      commit toyEnv s = .ok (final, none) ∧ ZeroFree final.ctx.store ∧
      visited final.ctx.store (bytesToAddress [7]) zeroHash = some (bytesToHash [2]) := by
  obtain ⟨s, final, ran, committed, shown⟩ := committed_run toyEnv
    ((runSteps toyEnv oneSlotHeld [.precompile idle, writeSlot 2]).map fun s => (s, none))
    (fun s final => (decide (NonzeroPending s), visited final.ctx.store (bytesToAddress [7]) zeroHash))
    (true, some (bytesToHash [2])) (by decide +kernel)
  obtain ⟨pending, visits⟩ := Prod.mk.inj shown
  obtain ⟨u, ran, same⟩ := map_ok ran
  cases same
  have nonzero : NonzeroRun toyEnv oneSlotHeld [.precompile idle, writeSlot 2] := by
    refine ⟨fun p same => ⟨by decide +kernel, ?_⟩, fun _ _ => ⟨by simp [writeSlot], fun _ _ => trivial⟩⟩
    cases same
    intro ctx after failed clean acted
    cases acted
    exact clean
  have started : begin ⟨oneSlotStore, []⟩ ⟨zeroHash, 0⟩ none = .ok oneSlotHeld := rfl
  have exactly := zeroFree_commit_iff oneSlotStore_zeroFree started nonzero ran committed
  exact ⟨s, final, ran, committed, exactly.1.mpr (of_decide_eq_true pending), visits⟩

/-- The account sets its slot to zero. The commit stores the zero, and the account's
storage does not count as empty. -/
theorem zero_slot_stored :
    ∃ s final, runSteps toyEnv oneSlotHeld [writeSlot 0] = .ok s ∧ commit toyEnv s = .ok (final, none) ∧
      ZeroFree oneSlotHeld.ctx.store ∧ ¬ZeroFree final.ctx.store ∧
      Keeper.getState final.ctx.store (bytesToAddress [7]) zeroHash = zeroHash ∧
      ¬IsStorageEmpty final (bytesToAddress [7]) := by
  obtain ⟨s, final, ran, committed, shown⟩ := committed_run toyEnv
    ((runSteps toyEnv oneSlotHeld [writeSlot 0]).map fun s => (s, none))
    (fun _ final => (Keeper.getState final.ctx.store (bytesToAddress [7]) zeroHash,
      visited final.ctx.store (bytesToAddress [7]) zeroHash))
    (zeroHash, some zeroHash) (by decide +kernel)
  obtain ⟨state, stored⟩ := Prod.mk.inj shown
  obtain ⟨u, ran, same⟩ := map_ok ran
  cases same
  refine ⟨s, final, ran, committed, oneSlotStore_zeroFree, fun clean => clean _ _ stored, state, ?_⟩
  intro empty
  have absent := empty zeroHash
  rw [stored] at absent
  cases absent

end StateDb

end OgEvm
