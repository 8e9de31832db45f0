import Mathlib

/- The ring buffer under the data streams of the RPC server. -/
namespace OgEvm.Streams

inductive StreamPanic where
  | capacityTooSmall
  | removeEmpty
  | getOutOfRange
  | indexOutOfRange
  | sliceBounds
deriving DecidableEq

/-- `Queue`. The default of the element type is Go's zero value. -/
structure Queue (V : Type) where
  buf : List V
  head : ℕ
  tail : ℕ
  count : ℕ

/-- The built-in `copy`. -/
def copy {V : Type} (dst src : List V) : List V := src.take dst.length ++ dst.drop src.length

namespace Queue

variable {V : Type}

def minQueueLen : ℕ := 16

def new [Inhabited V] : Queue V := ⟨List.replicate minQueueLen default, 0, 0, 0⟩

def resize [Inhabited V] (q : Queue V) : Queue V :=
  let newBuf := List.replicate (q.count <<< 1) default
  let newBuf :=
    if q.head < q.tail then copy newBuf ((q.buf.take q.tail).drop q.head)
    else
      let n := min newBuf.length (q.buf.drop q.head).length
      let newBuf := copy newBuf (q.buf.drop q.head)
      newBuf.take n ++ copy (newBuf.drop n) (q.buf.take q.tail)
  ⟨newBuf, 0, q.count, q.count⟩

def add [Inhabited V] (q : Queue V) (elem : V) : Except StreamPanic (Queue V) :=
  let q := if q.count = q.buf.length then q.resize else q
  if q.tail < q.buf.length then
    .ok ⟨q.buf.set q.tail elem, q.head, (q.tail + 1) &&& (q.buf.length - 1), q.count + 1⟩
  else .error .indexOutOfRange

/-- `GetP`: the slot pointed to. -/
def getP (q : Queue V) (i : ℤ) : Except StreamPanic ℕ :=
  let i := if i < 0 then i + q.count else i
  if i < 0 ∨ q.count ≤ i then .error .getOutOfRange
  else .ok ((q.head + i.toNat) &&& (q.buf.length - 1))

/-- What a pointer points to. -/
def load (q : Queue V) (slot : ℕ) : Except StreamPanic V :=
  match q.buf[slot]? with
  | some elem => .ok elem
  | none => .error .indexOutOfRange

def get (q : Queue V) (i : ℤ) : Except StreamPanic V := do q.load (← q.getP i)

def tailP (q : Queue V) : Except StreamPanic ℕ := q.getP (-1)

def remove [Inhabited V] (q : Queue V) : Except StreamPanic (V × Queue V) :=
  if q.count = 0 then .error .removeEmpty
  else do
    let ret ← q.load q.head
    let q := ⟨q.buf, (q.head + 1) &&& (q.buf.length - 1), q.tail, q.count - 1⟩
    pure (ret, if minQueueLen < q.buf.length ∧ q.count <<< 2 = q.buf.length then q.resize else q)

/-- The queue holds the list, from its head on. -/
structure Holds (q : Queue V) (xs : List V) : Prop where
  power : ∃ k, q.buf.length = 2 ^ k
  head_lt : q.head < q.buf.length
  tail_eq : q.tail = (q.head + q.count) % q.buf.length
  count_le : q.count ≤ q.buf.length
  items : (q.buf.rotate q.head).take q.count = xs

/-- The bitwise modulus. -/
theorem and_pred_eq_mod {n : ℕ} (power : ∃ k, n = 2 ^ k) (i : ℕ) : i &&& (n - 1) = i % n := by
  obtain ⟨k, rfl⟩ := power
  exact Nat.and_two_pow_sub_one_eq_mod i k

section

variable {q : Queue V} {xs : List V}

theorem Holds.count_eq (holds : Holds q xs) : q.count = xs.length := by
  rw [← holds.items, List.length_take, List.length_rotate]
  exact (Nat.min_eq_left holds.count_le).symm

theorem Holds.slot (holds : Holds q xs) {i : ℕ} (inside : i < xs.length) :
    q.buf[(q.head + i) % q.buf.length]? = xs[i]? := by
  have bound := holds.count_le
  rw [holds.count_eq] at bound
  rw [← holds.items, List.getElem?_take_of_lt (by rw [holds.count_eq]; exact inside),
    List.getElem?_rotate (by omega), Nat.add_comm]

theorem new_holds [Inhabited V] : Holds (new : Queue V) [] where
  power := ⟨4, by simp [new, minQueueLen]⟩
  head_lt := by simp [new, minQueueLen]
  tail_eq := by simp [new]
  count_le := by simp [new]
  items := by simp [new]

/-- The two parts that `resize` copies are the elements in order. -/
theorem Holds.parts (holds : Holds q xs) (some_held : 0 < q.count) :
    xs = if q.head < q.tail then (q.buf.take q.tail).drop q.head else q.buf.drop q.head ++ q.buf.take q.tail := by
  have head_lt := holds.head_lt
  have count_le := holds.count_le
  have tail_eq := holds.tail_eq
  rw [← holds.items, List.rotate_eq_drop_append_take head_lt.le]
  by_cases wraps : q.head + q.count < q.buf.length
  · rw [Nat.mod_eq_of_lt wraps] at tail_eq
    rw [if_pos (by omega), List.take_append_of_le_length (by rw [List.length_drop]; omega), tail_eq,
      List.drop_take]
    congr 1
    omega
  · rw [Nat.mod_eq_sub_mod (by omega), Nat.mod_eq_of_lt (by omega)] at tail_eq
    rw [if_neg (by omega), List.take_append, List.length_drop, List.take_of_length_le
      (by rw [List.length_drop]; omega), List.take_take]
    congr 2
    omega

/-- Both ways of copying fill the first half of the new buffer. -/
theorem resize_buf [Inhabited V] (holds : Holds q xs) (some_held : 0 < q.count) :
    q.resize.buf = xs ++ List.replicate q.count default := by
  have count_eq := holds.count_eq
  have parts := holds.parts some_held
  unfold resize copy
  dsimp only
  rw [Nat.shiftLeft_eq]
  split at parts
  · rename_i straight
    rw [if_pos straight, ← parts, List.take_of_length_le (by simp; omega), List.drop_replicate]
    congr 2
    omega
  · rename_i wrapped
    have lengths := congrArg List.length parts
    rw [List.length_append] at lengths
    have first : (q.buf.drop q.head).take (q.count * 2 ^ 1) = q.buf.drop q.head :=
      List.take_of_length_le (by omega)
    rw [if_neg wrapped, parts]
    simp only [List.length_replicate, first, List.drop_replicate]
    rw [Nat.min_eq_right (by omega), List.take_left, List.drop_left]
    rw [List.length_replicate, List.take_of_length_le (by omega), List.drop_replicate, List.append_assoc]
    congr 3
    omega

theorem Holds.resized [Inhabited V] (holds : Holds q xs) (some_held : 0 < q.count)
    (power : ∃ k, q.count * 2 = 2 ^ k) : Holds q.resize xs := by
  have count_eq := holds.count_eq
  have buf := resize_buf holds some_held
  have length : q.resize.buf.length = q.count * 2 := by
    rw [buf, List.length_append, List.length_replicate]
    omega
  have head : q.resize.head = 0 := rfl
  have tail : q.resize.tail = q.count := rfl
  have count : q.resize.count = q.count := rfl
  refine ⟨length ▸ power, by omega, ?_, by omega, ?_⟩
  · rw [tail, head, count, length, Nat.zero_add, Nat.mod_eq_of_lt (by omega)]
  · rw [head, count, List.rotate_zero, buf, count_eq, List.take_left]

/-- A write to a slot is a write to the list from the head on. -/
theorem rotate_set {l : List V} {m : ℕ} (inside : m < l.length) (n : ℕ) (v : V) :
    (l.set ((n + m) % l.length) v).rotate n = (l.rotate n).set m v := by
  have positive : 0 < l.length := by omega
  apply List.ext_getElem?
  intro i
  by_cases beyond : l.length ≤ i
  · rw [List.getElem?_eq_none (by simpa using beyond), List.getElem?_eq_none (by simpa using beyond)]
  have same : (n + m) % l.length = (i + n) % l.length ↔ m = i := by
    constructor
    · intro same
      have same : (m + n) % l.length = (i + n) % l.length := by rw [Nat.add_comm m]; exact same
      have := Nat.ModEq.add_right_cancel' n same
      exact Nat.ModEq.eq_of_lt_of_lt this inside (by omega)
    · rintro rfl
      rw [Nat.add_comm]
  rw [List.getElem?_rotate (by simpa using beyond), List.length_set, List.getElem?_set,
    List.getElem?_set, List.length_rotate, List.getElem?_rotate (by omega)]
  simp only [same]
  split
  · rw [if_pos (Nat.mod_lt _ positive)]
  · rfl

theorem Holds.added (holds : Holds q xs) (room : q.count < q.buf.length) (v : V) : q.tail < q.buf.length ∧
      Holds ⟨q.buf.set q.tail v, q.head, (q.tail + 1) &&& (q.buf.length - 1), q.count + 1⟩ (xs ++ [v]) := by
  have tail_eq := holds.tail_eq
  have positive : 0 < q.buf.length := by omega
  refine ⟨tail_eq ▸ Nat.mod_lt _ positive, ?_, ?_, ?_, ?_, ?_⟩
  · rw [List.length_set]
    exact holds.power
  · rw [List.length_set]
    exact holds.head_lt
  · dsimp only
    rw [and_pred_eq_mod holds.power, List.length_set, tail_eq, Nat.mod_add_mod, Nat.add_assoc]
  · rw [List.length_set]
    exact room
  · dsimp only
    rw [tail_eq, rotate_set room, List.take_add_one, List.take_set_of_le (Nat.le_refl _), holds.items,
      List.getElem?_set_self (by rw [List.length_rotate]; exact room)]
    rfl

theorem Holds.add [Inhabited V] (holds : Holds q xs) (v : V) :
    ∃ after, q.add v = .ok after ∧ Holds after (xs ++ [v]) := by
  unfold Queue.add
  dsimp only
  split
  · rename_i full
    have positive := holds.head_lt
    have resized : Holds q.resize xs := holds.resized (by omega) (by
      obtain ⟨k, power⟩ := holds.power
      exact ⟨k + 1, by rw [full, power, Nat.pow_succ]⟩)
    have length := congrArg List.length (resize_buf holds (by omega))
    rw [List.length_append, List.length_replicate] at length
    have count : q.resize.count = q.count := rfl
    obtain ⟨inside, added⟩ := resized.added (by have := holds.count_eq; omega) v
    exact ⟨_, if_pos inside, added⟩
  · rename_i room
    obtain ⟨inside, added⟩ := holds.added (by have := holds.count_le; omega) v
    exact ⟨_, if_pos inside, added⟩

theorem Holds.dropped {x : V} (holds : Holds q (x :: xs)) :
    Holds ⟨q.buf, (q.head + 1) &&& (q.buf.length - 1), q.tail, q.count - 1⟩ xs := by
  have count_eq := holds.count_eq
  have count_le := holds.count_le
  have positive : 0 < q.buf.length := by
    have := holds.head_lt
    omega
  rw [List.length_cons] at count_eq
  rw [and_pred_eq_mod holds.power]
  refine ⟨holds.power, Nat.mod_lt _ positive, ?_, ?_, ?_⟩
  · dsimp only
    rw [holds.tail_eq, Nat.mod_add_mod]
    congr 1
    omega
  · dsimp only
    omega
  · dsimp only
    have items := holds.items
    have length := List.length_rotate q.buf q.head
    rw [List.rotate_mod, ← List.rotate_rotate]
    rcases rotated : q.buf.rotate q.head with _ | ⟨first, rest⟩ <;> rw [rotated] at items length
    · rw [List.length_nil] at length
      omega
    · rw [List.length_cons] at length
      rw [count_eq, List.take_succ_cons] at items
      rw [List.rotate_cons_succ, List.rotate_zero, count_eq, Nat.add_sub_cancel,
        List.take_append_of_le_length (by omega)]
      exact (List.cons.inj items).2

theorem Holds.remove [Inhabited V] {x : V} (holds : Holds q (x :: xs)) :
    ∃ after, q.remove = .ok (x, after) ∧ Holds after xs := by
  have count_eq := holds.count_eq
  rw [List.length_cons] at count_eq
  have first : q.load q.head = .ok x := by
    have slot := holds.slot (i := 0) (by simp)
    rw [Nat.add_zero, Nat.mod_eq_of_lt holds.head_lt] at slot
    unfold load
    rw [slot]
    rfl
  have dropped := holds.dropped
  unfold Queue.remove
  rw [if_neg (by omega), first]
  refine ⟨_, rfl, ?_⟩
  split
  · rename_i sparse
    obtain ⟨large, quarter⟩ := sparse
    dsimp only at large quarter
    rw [Nat.shiftLeft_eq] at quarter
    refine dropped.resized (by unfold minQueueLen at large; dsimp only; omega) ?_
    obtain ⟨k, power⟩ := holds.power
    rcases k with _ | k
    · unfold minQueueLen at large
      omega
    · exact ⟨k, by rw [Nat.pow_succ] at power; dsimp only; omega⟩
  · exact dropped

/-- A valid index points to its element. -/
theorem Holds.getP (holds : Holds q xs) {i : ℕ} (inside : i < xs.length) :
    q.getP i = .ok ((q.head + i) % q.buf.length) := by
  have count_eq := holds.count_eq
  unfold Queue.getP
  dsimp only
  rw [if_neg (by omega), if_neg (by omega), and_pred_eq_mod holds.power, Int.toNat_natCast]

theorem Holds.get (holds : Holds q xs) {i : ℕ} {x : V} (found : xs[i]? = some x) : q.get i = .ok x := by
  have inside := (List.getElem?_eq_some_iff.mp found).1
  unfold Queue.get
  rw [holds.getP inside]
  change q.load _ = _
  unfold load
  rw [holds.slot inside, found]

theorem Holds.tailP {x : V} (holds : Holds q (xs ++ [x])) : q.tailP = .ok ((q.head + xs.length) % q.buf.length) := by
  have count_eq := holds.count_eq
  have last := holds.getP (i := xs.length) (by simp)
  rw [List.length_append, List.length_singleton] at count_eq
  unfold Queue.tailP
  rw [← last]
  unfold Queue.getP
  dsimp only
  have index : (-1 : ℤ) + q.count = xs.length := by omega
  rw [if_pos (show (-1 : ℤ) < 0 by decide), if_neg (show ¬ (xs.length : ℤ) < 0 by omega), index]

theorem Holds.tail {x : V} (holds : Holds q (xs ++ [x])) : q.get (-1) = .ok x := by
  unfold Queue.get
  rw [show q.getP (-1) = _ from holds.tailP]
  change q.load _ = _
  unfold load
  rw [holds.slot (by simp), List.getElem?_concat_length]

/-- A write through the pointer to the last element. -/
theorem Holds.store {x : V} (holds : Holds q (xs ++ [x])) (y : V) :
    Holds { q with buf := q.buf.set ((q.head + xs.length) % q.buf.length) y } (xs ++ [y]) := by
  have count_eq := holds.count_eq
  have count_le := holds.count_le
  rw [List.length_append, List.length_singleton] at count_eq
  refine ⟨?_, ?_, ?_, ?_, ?_⟩
  · rw [List.length_set]
    exact holds.power
  · rw [List.length_set]
    exact holds.head_lt
  · rw [List.length_set]
    exact holds.tail_eq
  · rw [List.length_set]
    exact count_le
  · dsimp only
    rw [rotate_set (by omega), List.take_set, holds.items]
    simp

end

end Queue

end OgEvm.Streams
