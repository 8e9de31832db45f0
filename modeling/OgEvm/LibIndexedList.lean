import Mathlib.Data.List.Basic
import Mathlib.Tactic

/- A list of distinct items kept with the position of each. An item is taken out by
moving the last one into its place, so the order is lost and no item is searched for. -/
namespace IndexedLists

structure Listing (α : Type) where
  items : List α
  index : α → ℕ

/-- The ways an unguarded array access ends. -/
inductive IndexFault where
  | underflow
  | outOfBounds
  deriving DecidableEq, Repr

variable {α : Type}

/-- Every item stands where the index says. -/
def Indexed (l : Listing α) : Prop := ∀ slot item, l.items[slot]? = some item → l.index item = slot

theorem Indexed.nodup {l : Listing α} (indexed : Indexed l) : l.items.Nodup := by
  rw [List.nodup_iff_injective_get]
  intro first second same
  have left := indexed first _ (List.getElem?_eq_getElem first.isLt)
  have right := indexed second _ (List.getElem?_eq_getElem second.isLt)
  apply Fin.ext
  rw [← left, ← right]
  exact congrArg l.index same

theorem getElem?_swapPop (items : List α) (slot : ℕ) (last : α) (inside : slot + 1 < items.length) (position : ℕ) :
    (items.set slot last).dropLast[position]? =
      if position + 1 < items.length then if position = slot then some last else items[position]? else none := by
  rw [List.getElem?_dropLast, List.length_set]
  split
  · rename_i before
    rw [if_pos (by omega), List.getElem?_set]
    by_cases here : slot = position
    · rw [if_pos here, if_pos here.symm, if_pos (by omega)]
    · rw [if_neg here, if_neg (Ne.symm here)]
  · rw [if_neg (by omega)]

variable [DecidableEq α]

def push (l : Listing α) (item : α) : Listing α where
  items := l.items ++ [item]
  index := Function.update l.index item l.items.length

def remove (l : Listing α) (item : α) : Except IndexFault (Listing α) :=
  let slot := l.index item
  if l.items.length = 0 then .error .underflow
  else
    let lastSlot := l.items.length - 1
    if slot ≠ lastSlot then
      match l.items[lastSlot]? with
      | none => .error .outOfBounds
      | some last =>
        if slot < l.items.length then
          .ok ⟨(l.items.set slot last).dropLast, Function.update (Function.update l.index last slot) item 0⟩
        else .error .outOfBounds
    else .ok ⟨l.items.dropLast, Function.update l.index item 0⟩

theorem mem_push (l : Listing α) (item other : α) : other ∈ (push l item).items ↔ other ∈ l.items ∨ other = item := by
  simp [push]

theorem Indexed.push {l : Listing α} (indexed : Indexed l) {item : α} (fresh : item ∉ l.items) :
    Indexed (push l item) := by
  intro slot other found
  change (l.items ++ [item])[slot]? = some other at found
  change Function.update l.index item l.items.length other = slot
  by_cases inside : slot < l.items.length
  · rw [List.getElem?_append_left inside] at found
    have apart : other ≠ item := by
      intro same
      exact fresh (same ▸ List.mem_of_getElem? found)
    rw [Function.update_of_ne apart]
    exact indexed slot other found
  · rw [List.getElem?_append_right (by omega)] at found
    have last : slot - l.items.length = 0 := by
      by_contra nonzero
      rw [List.getElem?_eq_none (by simp only [List.length_singleton]; omega)] at found
      cases found
    rw [last] at found
    cases found
    rw [Function.update_self]
    omega

/-- The listing once an item is gone: the last item stands in its place. -/
theorem Indexed.remove_ok {l : Listing α} (indexed : Indexed l) {slot : ℕ} {item : α}
    (found : l.items[slot]? = some item) :
    ∃ rest last, remove l item = .ok rest ∧ l.items[l.items.length - 1]? = some last ∧
      (∀ position : ℕ, rest.items[position]? = if position + 1 < l.items.length then
          if position = slot then some last else l.items[position]? else none) ∧
      ∀ other, other ≠ item → rest.index other = if other = last then slot else l.index other := by
  have here : l.index item = slot := indexed slot item found
  have inside : slot < l.items.length := (List.getElem?_eq_some_iff.mp found).1
  have nonempty : l.items.length ≠ 0 := by omega
  have lastFound : l.items[l.items.length - 1]? = some l.items[l.items.length - 1] :=
    List.getElem?_eq_getElem (by omega)
  unfold remove
  dsimp only
  rw [if_neg nonempty, here]
  by_cases end_ : slot = l.items.length - 1
  · rw [if_neg (not_not.mpr end_)]
    refine ⟨_, _, rfl, end_ ▸ found, ?_, ?_⟩
    · intro position
      rw [List.getElem?_dropLast]
      by_cases before : position + 1 < l.items.length
      · rw [if_pos (by omega), if_pos before, if_neg (by omega)]
      · rw [if_neg (by omega), if_neg before]
    · intro other apart
      rw [if_neg apart]
      exact Function.update_of_ne apart _ _
  · rw [if_pos end_, lastFound]
    dsimp only
    rw [if_pos inside]
    refine ⟨_, _, rfl, rfl, getElem?_swapPop l.items slot _ (by omega), ?_⟩
    intro other apart
    change Function.update _ item 0 other = _
    rw [Function.update_of_ne apart]
    exact Function.update_apply _ _ _ _

/-- Taking an item out leaves the others, each where the index says, and nothing that
stood before its slot moves behind it. -/
theorem Indexed.remove {l : Listing α} (indexed : Indexed l) {slot : ℕ} {item : α}
    (found : l.items[slot]? = some item) : ∃ rest, remove l item = .ok rest ∧ Indexed rest ∧
      (∀ other, other ∈ rest.items ↔ other ∈ l.items ∧ other ≠ item) ∧ rest.items.length + 1 = l.items.length ∧
      ∀ (position : ℕ) other, slot ≤ position → rest.items[position]? = some other →
        ∃ later : ℕ, slot < later ∧ l.items[later]? = some other := by
  obtain ⟨rest, last, removed, lastFound, shown, index⟩ := indexed.remove_ok found
  have here : l.index item = slot := indexed slot item found
  have lastHere := indexed _ last lastFound
  have inside : slot < l.items.length := (List.getElem?_eq_some_iff.mp found).1
  -- every remaining item has a place in the old list, away from the slot
  have source : ∀ (position : ℕ) other, rest.items[position]? = some other →
      ∃ old : ℕ, old ≠ slot ∧ l.items[old]? = some other ∧ (position ≠ slot → old = position) ∧
        (position = slot → slot < old) := by
    intro position other held
    rw [shown] at held
    by_cases before : position + 1 < l.items.length
    · rw [if_pos before] at held
      by_cases same : position = slot
      · rw [if_pos same] at held
        cases held
        exact ⟨l.items.length - 1, by omega, lastFound, fun apart => absurd same apart, fun _ => by omega⟩
      · rw [if_neg same] at held
        exact ⟨position, same, held, fun _ => rfl, fun equal => absurd equal same⟩
    · rw [if_neg before] at held
      cases held
  have apart : ∀ (position : ℕ) other, rest.items[position]? = some other → other ≠ item := by
    intro position other held same
    obtain ⟨old, away, oldFound, -⟩ := source position other held
    subst same
    exact away ((indexed old other oldFound).symm.trans here)
  refine ⟨rest, removed, ?_, ?_, ?_, ?_⟩
  · intro position other held
    rw [index other (apart position other held)]
    obtain ⟨old, away, oldFound, kept, moved⟩ := source position other held
    by_cases same : position = slot
    · rw [shown, same] at held
      split at held
      · rw [if_pos rfl] at held
        cases held
        rw [if_pos rfl, same]
      · cases held
    · have there := kept same
      subst there
      have notLast : other ≠ last := by
        intro equal
        subst equal
        rw [shown] at held
        have position_eq := indexed old other oldFound
        rw [if_neg (by omega)] at held
        cases held
      rw [if_neg notLast]
      exact indexed old other oldFound
  · intro other
    constructor
    · intro member
      obtain ⟨position, held⟩ := List.mem_iff_getElem?.mp member
      obtain ⟨old, -, oldFound, -⟩ := source position other held
      exact ⟨List.mem_of_getElem? oldFound, apart position other held⟩
    · rintro ⟨member, different⟩
      obtain ⟨old, oldFound⟩ := List.mem_iff_getElem?.mp member
      have oldInside : old < l.items.length := (List.getElem?_eq_some_iff.mp oldFound).1
      have away : old ≠ slot := by
        intro same
        rw [same, found] at oldFound
        cases oldFound
        exact different rfl
      by_cases atEnd : old = l.items.length - 1
      · rw [atEnd, lastFound] at oldFound
        cases oldFound
        apply List.mem_of_getElem? (i := slot)
        rw [shown, if_pos (by omega), if_pos rfl]
      · apply List.mem_of_getElem? (i := old)
        rw [shown, if_pos (by omega), if_neg away, oldFound]
  · have short : rest.items[l.items.length - 1]? = none := by
      rw [shown, if_neg (by omega)]
    have upper := List.getElem?_eq_none_iff.mp short
    by_cases single : l.items.length = 1
    · omega
    · have long : rest.items[l.items.length - 2]? ≠ none := by
        rw [shown, if_pos (by omega)]
        split
        · simp
        · rw [List.getElem?_eq_getElem (by omega)]
          simp
      have lower := not_le.mp fun le => long (List.getElem?_eq_none_iff.mpr le)
      omega
  · intro position other behind held
    obtain ⟨old, away, oldFound, kept, moved⟩ := source position other held
    by_cases same : position = slot
    · exact ⟨old, moved same, oldFound⟩
    · exact ⟨old, by have := kept same; omega, oldFound⟩

end IndexedLists
