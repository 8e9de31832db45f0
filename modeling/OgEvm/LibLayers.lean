import Mathlib.Tactic

/- Snapshots two ways: a stack of full copies, and a stack of change sets over one
base. Pushing an empty change set is taking a copy, and dropping change sets is
going back to one. -/
namespace Layers

/-- The present state and the copies taken of earlier ones, oldest first. -/
@[ext] structure Copies (S : Type) where
  current : S
  saved : List S

namespace Copies

variable {S : Type}

def push (copies : Copies S) : Copies S := ⟨copies.current, copies.saved ++ [copies.current]⟩

def truncate (copies : Copies S) (index : ℕ) : Option (Copies S) :=
  copies.saved[index]?.map fun copy => ⟨copy, copies.saved.take index⟩

def modify (copies : Copies S) (change : S → S) : Copies S :=
  { copies with current := change copies.current }

def commit (copies : Copies S) : Copies S := ⟨copies.current, []⟩

def map {T : Type} (copies : Copies S) (view : S → T) : Copies T :=
  ⟨view copies.current, copies.saved.map view⟩

@[simp] theorem push_length (copies : Copies S) : copies.push.saved.length = copies.saved.length + 1 := by
  simp [push]

theorem map_push {T : Type} (copies : Copies S) (view : S → T) : copies.push.map view = (copies.map view).push := by
  simp [push, map]

theorem truncate_isSome {copies : Copies S} {index : ℕ} (inside : index < copies.saved.length) :
    ∃ earlier, copies.truncate index = some earlier := by
  simp [truncate, inside]

theorem truncate_length {copies earlier : Copies S} {index : ℕ} (back : copies.truncate index = some earlier) :
    index < copies.saved.length ∧ earlier.saved.length = index := by
  unfold truncate at back
  rw [Option.map_eq_some_iff] at back
  obtain ⟨copy, found, rfl⟩ := back
  have inside := (List.getElem?_eq_some_iff.mp found).1
  refine ⟨inside, ?_⟩
  rw [List.length_take]
  omega

theorem truncate_map {T : Type} {copies earlier : Copies S} {index : ℕ} (view : S → T)
    (back : copies.truncate index = some earlier) : (copies.map view).truncate index = some (earlier.map view) := by
  unfold truncate at back ⊢
  rw [Option.map_eq_some_iff] at back
  obtain ⟨copy, found, rfl⟩ := back
  simp [map, found, List.map_take]

/-- A property of the present state and of every copy. -/
structure All (good : S → Prop) (copies : Copies S) : Prop where
  current : good copies.current
  saved : ∀ copy ∈ copies.saved, good copy

theorem All.push {good : S → Prop} {copies : Copies S} (all : All good copies) : All good copies.push := by
  refine ⟨all.current, fun copy member => ?_⟩
  rcases List.mem_append.mp member with old | new
  · exact all.saved copy old
  · rw [List.mem_singleton.mp new]
    exact all.current

theorem All.truncate {good : S → Prop} {copies earlier : Copies S} {index : ℕ}
    (all : All good copies) (back : copies.truncate index = some earlier) : All good earlier := by
  unfold Copies.truncate at back
  obtain ⟨copy, found, rfl⟩ := Option.map_eq_some_iff.mp back
  refine ⟨all.saved copy (List.mem_of_getElem? found), fun other member => ?_⟩
  exact all.saved other (List.mem_of_mem_take member)

end Copies

section

variable {S δ : Type} (act : δ → S → S)

/-- The copies a stack of change sets over a base stands for. -/
def copies : S → List δ → Copies S
  | base, [] => ⟨base, []⟩
  | base, layer :: rest =>
    ⟨(copies (act layer base) rest).current, base :: (copies (act layer base) rest).saved⟩

section

variable (base : S) (layers : List δ)

theorem copies_length : (copies act base layers).saved.length = layers.length := by
  induction layers generalizing base with
  | nil => rfl
  | cons layer rest ih => simp [copies, ih]

theorem copies_concat (layer : δ) : copies act base (layers ++ [layer]) =
      ⟨act layer (copies act base layers).current, (copies act base layers).push.saved⟩ := by
  induction layers generalizing base with
  | nil => rfl
  | cons first rest ih => simp [copies, Copies.push, ih]

/-- An empty change set on top is a copy. -/
theorem copies_push {empty : δ} (neutral : ∀ s, act empty s = s) :
    copies act base (layers ++ [empty]) = (copies act base layers).push := by
  rw [copies_concat, neutral]
  rfl

/-- Changing the topmost change set changes the present state only. -/
theorem copies_top {layer changed : δ} (change : S → S) (same : ∀ s, act changed s = change (act layer s)) :
    copies act base (layers ++ [changed]) = (copies act base (layers ++ [layer])).modify change := by
  rw [copies_concat, copies_concat, same]
  rfl

theorem copies_take {index : ℕ} (inside : index < layers.length) :
    (copies act base layers).truncate index = some (copies act base (layers.take index)) := by
  induction layers generalizing base index with
  | nil => cases inside
  | cons layer rest ih =>
    cases index with
    | zero => rfl
    | succ index =>
      have step := ih (act layer base) (Nat.lt_of_succ_lt_succ inside)
      unfold Copies.truncate at step ⊢
      rw [Option.map_eq_some_iff] at step
      obtain ⟨copy, found, equal⟩ := step
      rw [copies, List.getElem?_cons_succ, found]
      simp [copies, ← equal]

end

end

variable {κ ν : Type}

/-- A change set of a key-value store: untouched, deleted, or written. -/
abbrev Overlay (κ ν : Type) : Type := κ → Option (Option ν)

def untouched : Overlay κ ν := fun _ => none

/-- Reading through a change set. -/
def through (changes : Overlay κ ν) (parent : κ → Option ν) : κ → Option ν :=
  fun key => (changes key).getD (parent key)

def record [DecidableEq κ] (changes : Overlay κ ν) (key : κ) (value : Option ν) : Overlay κ ν :=
  Function.update changes key (some value)

/-- Writing one change set into the one below it. -/
def flush (below above : Overlay κ ν) : Overlay κ ν :=
  fun key => (above key).orElse fun _ => below key

theorem through_untouched (parent : κ → Option ν) : through untouched parent = parent := rfl

theorem through_record [DecidableEq κ] (changes : Overlay κ ν) (key : κ) (value : Option ν) (parent : κ → Option ν) :
    through (record changes key value) parent = Function.update (through changes parent) key value := by
  funext other
  by_cases same : other = key
  · subst same
    simp [through, record]
  · simp [through, record, same]

theorem through_flush (below above : Overlay κ ν) (parent : κ → Option ν) :
    through (flush below above) parent = through above (through below parent) := by
  funext key
  unfold through flush
  cases above key <;> rfl

/-- Flushing every change set, topmost first, into the one at the bottom. -/
def collapse : Overlay κ ν → List (Overlay κ ν) → Overlay κ ν
  | bottom, [] => bottom
  | bottom, layer :: rest => flush bottom (collapse layer rest)

theorem through_collapse (bottom : Overlay κ ν) (layers : List (Overlay κ ν)) (parent : κ → Option ν) :
    through (collapse bottom layers) parent = (copies through (through bottom parent) layers).current := by
  induction layers generalizing bottom parent with
  | nil => rfl
  | cons layer rest ih =>
    rw [collapse, through_flush, ih]
    rfl

end Layers
