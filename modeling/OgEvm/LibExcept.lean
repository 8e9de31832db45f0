import Mathlib.Tactic

/- Inversion of error-monad programs: a successful run is peeled apart call by
call, without unfolding the calls. -/
namespace ExceptFacts

variable {ε α β : Type}

theorem bind_ok {first : Except ε α} {next : α → Except ε β} {result : β}
    (success : (first >>= next) = .ok result) : ∃ value, first = .ok value ∧ next value = .ok result := by
  cases first with
  | error reason => cases success
  | ok value => exact ⟨value, rfl, success⟩

theorem bind_of_ok {first : Except ε α} {value : α} (success : first = .ok value)
    (next : α → Except ε β) : (first >>= next) = next value := by
  subst success
  rfl

theorem map_ok {first : Except ε α} {convert : α → β} {result : β}
    (success : first.map convert = .ok result) : ∃ value, first = .ok value ∧ convert value = result := by
  cases first with
  | error reason => cases success
  | ok value => exact ⟨value, rfl, Except.ok.inj success⟩

theorem toOption_some {run : Except ε α} {value : α} (success : run.toOption = some value) : run = .ok value := by
  cases run with
  | error reason => cases success
  | ok result => exact congrArg Except.ok (Option.some.inj success)

theorem mapError_ok {ε' : Type} {first : Except ε α} {convert : ε → ε'} {result : α}
    (success : first.mapError convert = .ok result) : first = .ok result := by
  cases first with
  | error reason => cases success
  | ok value => exact congrArg Except.ok (Except.ok.inj success)

/-- A guard that was passed. -/
theorem ite_error_ok {condition : Prop} [Decidable condition] {reason : ε} {rest : Except ε α} {result : α}
    (success : (if condition then .error reason else rest) = .ok result) : ¬ condition ∧ rest = .ok result := by
  by_cases holds : condition
  · rw [if_pos holds] at success
    cases success
  · rw [if_neg holds] at success
    exact ⟨holds, success⟩

theorem ite_pure_ok {condition : Prop} [Decidable condition] {step : Except ε α} {start result : α}
    (success : (if condition then step else pure start) = .ok result) :
    (condition ∧ step = .ok result) ∨ (¬ condition ∧ result = start) := by
  by_cases holds : condition
  · rw [if_pos holds] at success
    exact Or.inl ⟨holds, success⟩
  · rw [if_neg holds] at success
    exact Or.inr ⟨holds, (Except.ok.inj success).symm⟩

/-- Whatever the run returns meets the postcondition. -/
def Returns (post : α → Prop) (run : Except ε α) : Prop := ∀ value, run = .ok value → post value

section

variable {post : α → Prop} {first : Except ε α}

theorem Returns.ok {value : α} (holds : post value) : Returns post (.ok value : Except ε α) := by
  intro other success
  cases success
  exact holds

theorem Returns.error (reason : ε) : Returns post (.error reason) := by
  intro other success
  cases success

theorem Returns.bind {middle : α → Prop} {post : β → Prop} {next : α → Except ε β}
    (head : Returns middle first) (tail : ∀ value, middle value → Returns post (next value)) :
    Returns post (first >>= next) := by
  intro result success
  obtain ⟨value, ran, success⟩ := bind_ok success
  exact tail value (head value ran) result success

/-- A first step that nothing is asked of. -/
theorem Returns.after {post : β → Prop} {next : α → Except ε β} (tail : ∀ value, Returns post (next value)) :
    Returns post (first >>= next) := by
  intro result success
  obtain ⟨value, -, success⟩ := bind_ok success
  exact tail value result success

theorem Returns.map {middle : α → Prop} {post : β → Prop} {convert : α → β} (head : Returns middle first)
    (tail : ∀ value, middle value → post (convert value)) : Returns post (first.map convert) := by
  intro result success
  obtain ⟨value, ran, rfl⟩ := map_ok success
  exact tail value (head value ran)

theorem Returns.mapError {ε' : Type} (convert : ε → ε') (head : Returns post first) :
    Returns post (first.mapError convert) :=
  fun value success => head value (mapError_ok success)

theorem Returns.ite {condition : Prop} [Decidable condition] {first second : Except ε α}
    (left : Returns post first) (right : Returns post second) :
    Returns post (if condition then first else second) := by
  split
  · exact left
  · exact right

end

/-- The run does not end with a reason of the given kind. -/
def Avoids (bad : ε → Prop) (run : Except ε α) : Prop := ∀ reason, run = .error reason → ¬ bad reason

variable {bad : ε → Prop}

theorem Avoids.ok (value : α) : Avoids bad (.ok value) := by
  intro reason failed
  cases failed

theorem Avoids.error {reason : ε} (good : ¬ bad reason) : Avoids bad (.error reason : Except ε α) := by
  intro other failed
  cases failed
  exact good

/-- A run that succeeds avoids everything, and one that avoids everything succeeds. -/
theorem Avoids.of_succeeds {run : Except ε α} (success : ∃ value, run = .ok value) : Avoids bad run := by
  obtain ⟨value, rfl⟩ := success
  exact Avoids.ok value

theorem Avoids.succeeds {run : Except ε α} (never : Avoids (fun _ => True) run) : ∃ value, run = .ok value := by
  cases run with
  | error reason => exact absurd trivial (never reason rfl)
  | ok value => exact ⟨value, rfl⟩

theorem Avoids.bind {first : Except ε α} {next : α → Except ε β} (head : Avoids bad first)
    (tail : ∀ value, first = .ok value → Avoids bad (next value)) : Avoids bad (first >>= next) := by
  cases first with
  | error reason =>
    intro other failed
    cases failed
    exact head reason rfl
  | ok value => exact tail value rfl

theorem Avoids.map {first : Except ε α} {convert : α → β} (head : Avoids bad first) :
    Avoids bad (first.map convert) := by
  cases first with
  | error reason => exact Avoids.error (head reason rfl)
  | ok value => exact Avoids.ok (convert value)

theorem Avoids.mapError {first : Except ε α} {convert : ε → ε}
    (same : ∀ reason, bad (convert reason) → bad reason) (head : Avoids bad first) :
    Avoids bad (first.mapError convert) := by
  cases first with
  | error reason => exact Avoids.error fun worse => head reason rfl (same reason worse)
  | ok value => exact Avoids.ok value

theorem Avoids.ite {condition : Prop} [Decidable condition] {first second : Except ε α}
    (left : condition → Avoids bad first) (right : ¬ condition → Avoids bad second) :
    Avoids bad (if condition then first else second) := by
  split
  · rename_i holds
    exact left holds
  · rename_i fails
    exact right fails

variable {step : β → α → Except ε β} {inputs : List α} (inv : β → Prop)
  (keeps : ∀ input ∈ inputs, ∀ before after, inv before → step before input = .ok after → inv after)

include keeps

/-- What every successful step keeps, a successful run keeps. -/
theorem foldlM_invariant {start stop : β} (holds : inv start) (success : inputs.foldlM step start = .ok stop) :
    inv stop := by
  induction inputs generalizing start with
  | nil =>
    cases success
    exact holds
  | cons input rest ih =>
    rw [List.foldlM_cons] at success
    obtain ⟨next, stepped, success⟩ := bind_ok success
    exact ih (fun other member => keeps other (List.mem_cons_of_mem _ member))
      (keeps input List.mem_cons_self start next holds stepped) success

omit keeps in
/-- A successful run has a successful step for each input. -/
theorem foldlM_steps {start stop : β} (success : inputs.foldlM step start = .ok stop) :
    ∀ input ∈ inputs, ∃ before after, step before input = .ok after := by
  induction inputs generalizing start with
  | nil => simp
  | cons input rest ih =>
    rw [List.foldlM_cons] at success
    obtain ⟨next, stepped, success⟩ := bind_ok success
    exact List.forall_mem_cons.mpr ⟨⟨start, next, stepped⟩, ih success⟩

/-- A run whose steps keep an invariant and fail acceptably fails acceptably. -/
theorem foldlM_avoids (safe : ∀ input ∈ inputs, ∀ before, inv before → Avoids bad (step before input))
    {start : β} (holds : inv start) : Avoids bad (inputs.foldlM step start) := by
  induction inputs generalizing start with
  | nil => exact Avoids.ok start
  | cons input rest ih =>
    rw [List.foldlM_cons]
    refine Avoids.bind (safe input List.mem_cons_self start holds) fun next stepped => ?_
    exact ih (fun other member => keeps other (List.mem_cons_of_mem _ member))
      (fun other member => safe other (List.mem_cons_of_mem _ member))
      (keeps input List.mem_cons_self start next holds stepped)

end ExceptFacts
