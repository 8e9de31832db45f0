import Mathlib.Tactic

/- Undo logs: every change appends the entries that take it back, and going back
to an index of the log replays the entries above it, last first. -/
namespace UndoLog

variable {E V : Type} (undo : E → V → Option V)

/-- Undo a stretch of the log, last entry first. -/
def undoAll : List E → V → Option V
  | [], now => some now
  | entry :: rest, now => (undoAll rest now).bind (undo entry)

theorem undoAll_append (first second : List E) (now : V) :
    undoAll undo (first ++ second) now = (undoAll undo second now).bind (undoAll undo first) := by
  induction first with
  | nil =>
    rw [List.nil_append]
    cases undoAll undo second now <;> rfl
  | cons entry rest ih =>
    simp only [List.cons_append, undoAll, ih, Option.bind_assoc]

/-- The log takes the present state back to an earlier one at an index. -/
structure Undoes (entries : List E) (index : ℕ) (now earlier : V) : Prop where
  inside : index ≤ entries.length
  undone : undoAll undo (entries.drop index) now = some earlier

variable {undo} {entries added : List E} {index upper : ℕ} {now later earlier middle : V}

theorem Undoes.here (entries : List E) (now : V) : Undoes undo entries entries.length now now :=
  ⟨le_refl _, by rw [List.drop_length]; rfl⟩

/-- Appending entries that undo a change keeps every earlier state in reach. -/
theorem Undoes.extend (reach : Undoes undo entries index now earlier)
    (change : undoAll undo added later = some now) : Undoes undo (entries ++ added) index later earlier := by
  refine ⟨?_, ?_⟩
  · rw [List.length_append]
    exact reach.inside.trans (Nat.le_add_right _ _)
  · rw [List.drop_append_of_le_length reach.inside, undoAll_append, change]
    exact reach.undone

/-- Going back to an index leaves every state at or below it in reach. -/
theorem Undoes.truncate (reach : Undoes undo entries index now earlier)
    (back : Undoes undo entries upper now middle) (below : index ≤ upper) :
    Undoes undo (entries.take upper) index middle earlier := by
  have split : entries.drop index = (entries.take upper).drop index ++ entries.drop upper := by
    rw [List.drop_take]
    have whole := (List.take_append_drop (upper - index) (entries.drop index)).symm
    rwa [List.drop_drop, Nat.add_sub_cancel' below] at whole
  refine ⟨?_, ?_⟩
  · rw [List.length_take]
    exact le_min below reach.inside
  · have undone := reach.undone
    rw [split, undoAll_append, back.undone] at undone
    exact undone

/-- A program that undoes one entry at a time, as the view of its state says,
undoes a stretch of the log. -/
theorem foldlM_undo {S ε : Type} {step : S → E → Except ε S} {view : S → V} (inv : S → Prop)
    (simulates : ∀ s entry before, inv s → undo entry (view s) = some before →
      ∃ t, step s entry = .ok t ∧ view t = before ∧ inv t) (stretch : List E) {s : S} {before : V} (holds : inv s)
    (undone : undoAll undo stretch (view s) = some before) :
    ∃ t, stretch.reverse.foldlM step s = .ok t ∧ view t = before ∧ inv t := by
  induction stretch generalizing before with
  | nil => exact ⟨s, rfl, Option.some.inj undone, holds⟩
  | cons entry rest ih =>
    obtain ⟨middle, above, last⟩ := Option.bind_eq_some_iff.mp undone
    obtain ⟨t, ran, viewed, kept⟩ := ih above
    obtain ⟨u, stepped, final, still⟩ := simulates t entry before kept (by rw [viewed]; exact last)
    refine ⟨u, ?_, final, still⟩
    rw [List.reverse_cons, List.foldlM_append, ran]
    change ([entry].foldlM step t) = .ok u
    rw [List.foldlM_cons, stepped]
    rfl

/-- Numbered revisions of a log. Those that are watched can be undone to the state
recorded for them. -/
structure History {R : Type} (number : R → ℤ) (place : R → ℕ) (undo : E → V → Option V)
    (good : V → Prop) (watched : ℤ → Prop) (marks : ℤ → V) (entries : List E) (revisions : List R)
    (next : ℤ) (now : V) : Prop where
  present : good now
  ascending : revisions.Pairwise fun earlier later =>
    number earlier < number later ∧ place earlier ≤ place later
  issued : ∀ revision ∈ revisions, number revision < next
  inside : ∀ revision ∈ revisions, place revision ≤ entries.length
  marked : ∀ revision ∈ revisions, watched (number revision) → good (marks (number revision))
  reach : ∀ revision ∈ revisions, watched (number revision) →
    Undoes undo entries (place revision) now (marks (number revision))

namespace History

variable {R : Type} {number : R → ℤ} {place : R → ℕ} {good : V → Prop} {watched : ℤ → Prop}
  {marks : ℤ → V} {revisions : List R} {next : ℤ}

section

variable (history : History number place undo good watched marks entries revisions next now)

include history

theorem extend (change : undoAll undo added later = some now) (kept : good later) :
    History number place undo good watched marks (entries ++ added) revisions next later where
  present := kept
  ascending := history.ascending
  issued := history.issued
  inside := by
    intro revision valid
    rw [List.length_append]
    exact (history.inside revision valid).trans (Nat.le_add_right _ _)
  marked := history.marked
  reach := fun revision valid seen => (history.reach revision valid seen).extend change

/-- Marking the present state issues the next number. -/
theorem mark {revision : R} (fresh : number revision = next) (here : place revision = entries.length) :
    History number place undo good watched (Function.update marks next now) entries
      (revisions ++ [revision]) (next + 1) now := by
  have cases : ∀ other ∈ revisions ++ [revision], other ∈ revisions ∨ other = revision := by
    intro other valid
    simpa using valid
  have kept : ∀ other ∈ revisions, Function.update marks next now (number other) =
      marks (number other) :=
    fun other valid => Function.update_of_ne (ne_of_lt (history.issued other valid)) _ _
  refine ⟨history.present, ?_, ?_, ?_, ?_, ?_⟩
  · simp only [List.pairwise_append, List.pairwise_singleton, true_and]
    refine ⟨history.ascending, ?_⟩
    intro other valid last member
    rw [List.mem_singleton.mp member, fresh, here]
    exact ⟨history.issued other valid, history.inside other valid⟩
  · intro other valid
    rcases cases other valid with old | rfl
    · have issued := history.issued other old
      omega
    · omega
  · intro other valid
    rcases cases other valid with old | rfl
    · exact history.inside other old
    · exact le_of_eq here
  · intro other valid seen
    rcases cases other valid with old | rfl
    · rw [kept other old]
      exact history.marked other old seen
    · rw [fresh, Function.update_self]
      exact history.present
  · intro other valid seen
    rcases cases other valid with old | rfl
    · rw [kept other old]
      exact history.reach other old seen
    · rw [fresh, Function.update_self, here]
      exact Undoes.here entries now

/-- A binary search by number finds a revision where it is. -/
theorem search {position : ℕ} (valid : position < revisions.length) :
    revisions.findIdx (fun revision => decide (number revisions[position] ≤ number revision)) = position := by
  rw [List.findIdx_eq valid]
  refine ⟨by simp, ?_⟩
  intro earlier below
  have ascending := List.pairwise_iff_getElem.mp history.ascending earlier position (by omega) valid
    below
  simpa using ascending.1

/-- Going back to a watched revision keeps the ones before it. -/
theorem back {position : ℕ} (valid : position < revisions.length) (seen : watched (number revisions[position])) :
    History number place undo good watched marks (entries.take (place revisions[position]))
      (revisions.take position) next (marks (number revisions[position])) := by
  have target := List.getElem_mem valid
  have earlier : ∀ kept ∈ revisions.take position, kept ∈ revisions ∧
      place kept ≤ place revisions[position] := by
    intro kept member
    obtain ⟨spot, below, rfl⟩ := List.mem_take_iff_getElem.mp member
    have ascending := List.pairwise_iff_getElem.mp history.ascending spot position (by omega) valid
      (by omega)
    exact ⟨List.getElem_mem _, ascending.2⟩
  refine ⟨history.marked _ target seen, ?_, ?_, ?_, ?_, ?_⟩
  · exact history.ascending.sublist (List.take_sublist _ _)
  · intro kept member
    exact history.issued kept (earlier kept member).1
  · intro kept member
    rw [List.length_take]
    exact le_min (earlier kept member).2 (history.inside kept (earlier kept member).1)
  · intro kept member watched
    exact history.marked kept (earlier kept member).1 watched
  · intro kept member watched
    exact (history.reach kept (earlier kept member).1 watched).truncate
      (history.reach _ target seen) (earlier kept member).2

end

end History

end UndoLog
