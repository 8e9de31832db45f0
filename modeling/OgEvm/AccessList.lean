import OgEvm.SnapshotStore
import OgEvm.VmKeeper
import Mathlib.Data.Finset.Basic

/- The EIP-2929 access list. An address holds the index of its slot set, or -1
while it has none; removing the last slot of an address truncates the sets. -/
namespace OgEvm

inductive DbPanic where
  | nilObject
  | refundBelowZero (gas refund : UInt64)
  | revision (id : ℤ)
  | slotChangeAddress
  | indexOutOfRange
  | conflictingRules
  | nilSnapshotter
  | store (panic : StorePanic)
  | keeper (cause : PanicCause)

structure AccessList where
  addresses : Address → Option ℤ
  slots : List (Finset Hash)

namespace AccessList

variable (al : AccessList) (address : Address)

def newAccessList : AccessList := ⟨fun _ => none, []⟩

def containsAddress : Bool := (al.addresses address).isSome

/-- The slot set at a Go index; reading outside the slice is a runtime panic. -/
def slotsAt (idx : ℤ) : Option (Finset Hash) := if idx < 0 then none else al.slots[idx.toNat]?

def contains (slot : Hash) : Except DbPanic (Bool × Bool) :=
  match al.addresses address with
  | none => .ok (false, false)
  | some idx =>
    if idx = -1 then .ok (true, false)
    else match al.slotsAt idx with
      | none => .error .indexOutOfRange
      | some slotmap => .ok (true, slot ∈ slotmap)

def addAddress : AccessList × Bool :=
  match al.addresses address with
  | some _ => (al, false)
  | none => ({ al with addresses := Function.update al.addresses address (some (-1)) }, true)

def addSlot (slot : Hash) : Except DbPanic (AccessList × Bool × Bool) :=
  let fresh : AccessList :=
    ⟨Function.update al.addresses address (some al.slots.length), al.slots ++ [{slot}]⟩
  match al.addresses address with
  | none => .ok (fresh, true, true)
  | some idx =>
    if idx = -1 then .ok (fresh, false, true)
    else match al.slotsAt idx with
      | none => .error .indexOutOfRange
      | some slotmap =>
        if slot ∈ slotmap then .ok (al, false, false)
        else .ok ({ al with slots := al.slots.set idx.toNat (insert slot slotmap) }, false, true)

def deleteSlot (slot : Hash) : Except DbPanic AccessList :=
  match al.addresses address with
  | none => .error .slotChangeAddress
  | some idx =>
    match al.slotsAt idx with
    | none => .error .indexOutOfRange
    | some slotmap =>
      let slotmap := slotmap.erase slot
      if slotmap = ∅ then
        .ok ⟨Function.update al.addresses address (some (-1)), al.slots.take idx.toNat⟩
      else .ok { al with slots := al.slots.set idx.toNat slotmap }

def deleteAddress : AccessList := { al with addresses := Function.update al.addresses address none }

/-- Indices point into the slice, and no slot set is empty. -/
structure Wf (al : AccessList) : Prop where
  indices : ∀ address idx, al.addresses address = some idx → idx ≠ -1 →
    0 ≤ idx ∧ idx.toNat < al.slots.length
  nonempty : ∀ slotmap ∈ al.slots, slotmap ≠ ∅

theorem wf_new : Wf newAccessList := by
  constructor
  · intro address idx found
    cases found
  · intro slotmap member
    cases member

theorem slotsAt_of_lt {al : AccessList} {idx : ℤ} (nonneg : 0 ≤ idx)
    (inside : idx.toNat < al.slots.length) : al.slotsAt idx = some al.slots[idx.toNat] := by
  unfold slotsAt
  rw [if_neg (by omega), List.getElem?_eq_getElem inside]

/-- Adding an address that was absent is undone by deleting it. -/
theorem addAddress_cases {al : AccessList} (wf : Wf al) (address : Address) : (addAddress al address = (al, false)) ∨
      ∃ added, addAddress al address = (added, true) ∧ Wf added ∧ added.deleteAddress address = al := by
  unfold addAddress
  cases found : al.addresses address with
  | some idx => exact Or.inl rfl
  | none =>
    refine Or.inr ⟨_, rfl, ⟨?_, wf.nonempty⟩, ?_⟩
    · intro other idx lookup apart
      simp only at lookup
      by_cases same : other = address
      · subst same
        rw [Function.update_self] at lookup
        exact absurd (Option.some.inj lookup).symm apart
      · rw [Function.update_of_ne same] at lookup
        exact wf.indices other idx lookup apart
    · simp only [deleteAddress, Function.update_idem]
      rw [← found, Function.update_eq_self]

/-- A first slot extends the slice by one set, which its deletion truncates again;
the address is left with -1 and was there with -1 or not at all. -/
theorem addSlot_first {al : AccessList} (wf : Wf al) (address : Address) (slot : Hash)
    (none_yet : ∀ idx, al.addresses address = some idx → idx = -1) : ∃ added, addSlot al address slot =
        .ok (added, !(al.addresses address).isSome, true) ∧ Wf added ∧ added.deleteSlot address slot =
        .ok { al with addresses := Function.update al.addresses address (some (-1)) } := by
  refine ⟨⟨Function.update al.addresses address (some al.slots.length), al.slots ++ [{slot}]⟩, ?_, ⟨?_, ?_⟩, ?_⟩
  · unfold addSlot
    cases found : al.addresses address with
    | none => rfl
    | some idx =>
      simp only [none_yet idx found, if_true]
      rfl
  · intro other idx lookup apart
    simp only at lookup ⊢
    by_cases same : other = address
    · subst same
      rw [Function.update_self] at lookup
      obtain rfl := (Option.some.inj lookup).symm
      simp
    · rw [Function.update_of_ne same] at lookup
      have bound := wf.indices other idx lookup apart
      rw [List.length_append]
      omega
  · intro slotmap member
    rcases List.mem_append.mp member with old | new
    · exact wf.nonempty slotmap old
    · rw [List.mem_singleton.mp new]
      exact Finset.singleton_ne_empty slot
  · have lookup : slotsAt ⟨Function.update al.addresses address (some al.slots.length),
        al.slots ++ [{slot}]⟩ al.slots.length = some {slot} := by
      rw [slotsAt_of_lt (by simp) (by simp)]
      simp
    simp only [deleteSlot, Function.update_self, lookup]
    simp

/-- A further slot is undone in place, since the set keeps the slots it had. -/
theorem addSlot_next {al : AccessList} (wf : Wf al) {address : Address} {idx : ℤ}
    (found : al.addresses address = some idx) (apart : idx ≠ -1) (slot : Hash) :
    (addSlot al address slot = .ok (al, false, false)) ∨
      ∃ added, addSlot al address slot = .ok (added, false, true) ∧ Wf added ∧
        added.deleteSlot address slot = .ok al := by
  obtain ⟨nonneg, inside⟩ := wf.indices address idx found apart
  have here := slotsAt_of_lt nonneg inside
  by_cases present : slot ∈ al.slots[idx.toNat]
  · exact Or.inl (by simp [addSlot, found, apart, here, present])
  · refine Or.inr ⟨{ al with slots := al.slots.set idx.toNat (insert slot al.slots[idx.toNat]) },
      by simp [addSlot, found, apart, here, present], ⟨?_, ?_⟩, ?_⟩
    · intro other other_idx lookup other_apart
      rw [List.length_set]
      exact wf.indices other other_idx lookup other_apart
    · intro slotmap member
      rcases List.mem_or_eq_of_mem_set member with old | new
      · exact wf.nonempty slotmap old
      · rw [new]
        exact Finset.insert_ne_empty _ _
    · have kept : (insert slot al.slots[idx.toNat]).erase slot = al.slots[idx.toNat] :=
        Finset.erase_insert present
      have still : al.slots[idx.toNat] ≠ ∅ := wf.nonempty _ (List.getElem_mem inside)
      have lookup : slotsAt { al with
          slots := al.slots.set idx.toNat (insert slot al.slots[idx.toNat]) } idx =
          some (insert slot al.slots[idx.toNat]) := by
        rw [slotsAt_of_lt nonneg (by simpa using inside)]
        simp
      simp only [deleteSlot, found, lookup, kept, still, if_false, List.set_set, List.set_getElem_self]

theorem addAddress_wf {al : AccessList} (wf : Wf al) (address : Address) : Wf (addAddress al address).1 := by
  rcases addAddress_cases wf address with same | ⟨added, changed, after, -⟩
  · rw [same]
    exact wf
  · rw [changed]
    exact after

theorem addSlot_wf {al added : AccessList} (wf : Wf al) {address : Address} {slot : Hash}
    {addrMod slotMod : Bool} (success : addSlot al address slot = .ok (added, addrMod, slotMod)) : Wf added := by
  by_cases deep : ∃ idx, al.addresses address = some idx ∧ idx ≠ -1
  · obtain ⟨idx, found, apart⟩ := deep
    rcases addSlot_next wf found apart slot with same | ⟨_, changed, after, -⟩
    · rw [same] at success
      cases success
      exact wf
    · rw [changed] at success
      cases success
      exact after
  · have shallow : ∀ idx, al.addresses address = some idx → idx = -1 := by
      intro idx found
      by_contra apart
      exact deep ⟨idx, found, apart⟩
    obtain ⟨_, changed, after, -⟩ := addSlot_first wf address slot shallow
    rw [changed] at success
    cases success
    exact after

end AccessList

end OgEvm
