import Mathlib.Logic.Function.Basic
import Mathlib.Tactic

/- Maps with entries that are written and deleted one at a time, and the indices over them. -/
namespace PartialMaps

open Function

variable {α β : Type} [DecidableEq α] {entries : α → Option β} {written read : α} {new found : β}

theorem update_some (here : update entries written (some new) read = some found) :
    (read = written ∧ found = new) ∨ (read ≠ written ∧ entries read = some found) := by
  by_cases same : read = written
  · rw [same, update_self] at here
    exact Or.inl ⟨same, (Option.some.inj here).symm⟩
  · rw [update_of_ne same] at here
    exact Or.inr ⟨same, here⟩

theorem update_none (here : update entries written none read = some found) :
    read ≠ written ∧ entries read = some found := by
  by_cases same : read = written
  · rw [same, update_self] at here
    cases here
  · rw [update_of_ne same] at here
    exact ⟨same, here⟩

/-- A write where nothing was loses nothing. -/
theorem update_kept {value : Option β} (fresh : entries written = none) (here : entries read = some found) :
    update entries written value read = some found := by
  rw [update_of_ne, here]
  rintro rfl
  rw [fresh] at here
  cases here

section

variable {fine : α → β → Prop} (all : ∀ key value, entries key = some value → fine key value)

include all

/-- What holds of every entry holds after a write of one it holds of. -/
theorem forall_update (own : fine written new) (key : α) (value : β)
    (here : update entries written (some new) key = some value) : fine key value := by
  rcases update_some here with ⟨rfl, rfl⟩ | ⟨-, there⟩
  · exact own
  · exact all key value there

theorem forall_erase (key : α) (value : β) (here : update entries written none key = some value) :
    fine key value := all key value (update_none here).2

end

/-- What is read after a list of writes that agree wherever they write the same place. -/
theorem foldl_update_some {ι : Type} {place : ι → α} {value : ι → β} {items : List ι}
    (agree : ∀ first ∈ items, ∀ second ∈ items, place first = place second → value first = value second) :
    items.foldl (fun entries item => update entries (place item) (some (value item))) entries read =
        some found ↔ (∃ item ∈ items, place item = read ∧ value item = found) ∨
        (∀ item ∈ items, place item ≠ read) ∧ entries read = some found := by
  induction items generalizing entries with
  | nil => simp
  | cons item rest ih =>
    rw [List.foldl_cons, ih fun first inside second member =>
      agree first (List.mem_cons_of_mem _ inside) second (List.mem_cons_of_mem _ member)]
    by_cases here : place item = read
    · rw [← here, update_self]
      by_cases again : ∃ later ∈ rest, place later = place item
      · obtain ⟨later, member, same⟩ := again
        have values := agree later (List.mem_cons_of_mem _ member) item List.mem_cons_self same
        grind
      · grind
    · rw [update_of_ne (Ne.symm here)]
      simp [here]

/-- The index leads from the key of an entry to the place of the entry, and nowhere else. -/
structure IndexedBy {κ : Type} (key : β → κ) (entries : α → Option β) (index : κ → Option α) : Prop where
  leads : ∀ place value, entries place = some value → index (key value) = some place
  only : ∀ k place, index k = some place → ∃ value, entries place = some value ∧ key value = k

namespace IndexedBy

variable {κ : Type} {key : β → κ} {index : κ → Option α} {old : β}

theorem replace (indexed : IndexedBy key entries index) (stored : entries written = some old)
    (same : key new = key old) : IndexedBy key (update entries written (some new)) index where
  leads place value here := by
    rcases update_some here with ⟨rfl, rfl⟩ | ⟨-, here⟩
    · rw [same]
      exact indexed.leads place old stored
    · exact indexed.leads place value here
  only k place mapped := by
    obtain ⟨value, here, rfl⟩ := indexed.only k place mapped
    by_cases hit : place = written
    · subst hit
      cases here.symm.trans stored
      exact ⟨new, by rw [update_self], same⟩
    · exact ⟨value, by rw [update_of_ne hit, here], rfl⟩

omit [DecidableEq α] in
/-- The entries leave no choice for the index. -/
theorem unique {other : κ → Option α} (indexed : IndexedBy key entries index)
    (again : IndexedBy key entries other) : index = other := by
  funext k
  apply Option.ext
  intro place
  constructor
  · intro mapped
    obtain ⟨value, here, rfl⟩ := indexed.only k place mapped
    exact again.leads place value here
  · intro mapped
    obtain ⟨value, here, rfl⟩ := again.only k place mapped
    exact indexed.leads place value here

variable [DecidableEq κ]

theorem insert (indexed : IndexedBy key entries index) (fresh : entries written = none)
    (freshKey : index (key new) = none) : IndexedBy key (update entries written (some new))
      (update index (key new) (some written)) where
  leads place value stored := by
    rcases update_some stored with ⟨rfl, rfl⟩ | ⟨-, stored⟩
    · rw [update_self]
    · exact update_kept freshKey (indexed.leads place value stored)
  only k place mapped := by
    rcases update_some mapped with ⟨rfl, rfl⟩ | ⟨-, mapped⟩
    · exact ⟨new, by rw [update_self], rfl⟩
    · obtain ⟨value, stored, same⟩ := indexed.only k place mapped
      exact ⟨value, update_kept fresh stored, same⟩

theorem delete (indexed : IndexedBy key entries index) (stored : entries written = some old) :
    IndexedBy key (update entries written none) (update index (key old) none) where
  leads place value here := by
    obtain ⟨apart, here⟩ := update_none here
    rw [update_of_ne, indexed.leads place value here]
    intro same
    have led := indexed.leads place value here
    rw [same, indexed.leads written old stored] at led
    exact apart (Option.some.inj led).symm
  only k place mapped := by
    obtain ⟨apart, mapped⟩ := update_none mapped
    obtain ⟨value, here, rfl⟩ := indexed.only k place mapped
    refine ⟨value, ?_, rfl⟩
    rw [update_of_ne, here]
    rintro rfl
    cases here.symm.trans stored
    exact apart rfl

end IndexedBy

end PartialMaps
