import OgEvm.LibExcept
import OgEvm.StreamQueue

/- The data streams of the RPC server: a log of which the latest segments are kept. -/
namespace OgEvm.Streams

open ExceptFacts

structure Stream (V : Type) where
  segments : Queue (List V)
  segmentSize : ℕ
  maxSegments : ℕ
  segmentOffset : ℕ

variable {V : Type}

def newStream (segmentSize capacity : ℕ) : Except StreamPanic (Stream V) :=
  let maxSegments := (capacity + segmentSize - 1) / segmentSize
  if maxSegments < 1 then .error .capacityTooSmall
  else .ok ⟨Queue.new, segmentSize, maxSegments, 0⟩

namespace Stream

variable (s : Stream V) (offset : ℤ)

def lastID : Except StreamPanic ℕ :=
  if s.segments.count = 0 then .ok 0
  else do
    let tail ← s.segments.get (-1)
    pure ((s.segmentOffset + s.segments.count - 1) * s.segmentSize + tail.length)

/-- Whether an item needs a new segment. -/
def needsSegment : Except StreamPanic Bool :=
  if s.segments.count = 0 then .ok true
  else do
    let tail ← s.segments.get (-1)
    pure (tail.length = s.segmentSize)

/-- A new tail; the segment it reuses is emptied first. -/
def openSegment : Except StreamPanic (Stream V) :=
  if s.maxSegments < s.segments.count then do
    let (_, segments) ← s.segments.remove
    let segments ← segments.add []
    pure { s with segments := segments, segmentOffset := s.segmentOffset + 1 }
  else do
    let segments ← s.segments.add []
    pure { s with segments := segments }

def appendTail (v : V) : Except StreamPanic (Stream V) := do
  let tail ← s.segments.tailP
  let seg ← s.segments.load tail
  pure { s with segments := { s.segments with buf := s.segments.buf.set tail (seg ++ [v]) } }

/-- One turn of the loop of `Add`. -/
def addItem (v : V) : Except StreamPanic (Stream V) := do
  let s ← if ← s.needsSegment then s.openSegment else pure s
  s.appendTail v

/-- `Add`, up to the broadcast. -/
def add (vs : List V) : Except StreamPanic (Stream V × ℕ) :=
  if vs = [] then .ok (s, 0)
  else do
    let s ← vs.foldlM addItem s
    pure (s, ← s.lastID)

/-- Where a read starts: the segment of the offset, or the earliest one. -/
def readSegment (offset : ℕ) : ℕ :=
  let segment := offset / s.segmentSize
  if s.segmentOffset ≤ segment then segment - s.segmentOffset else 0

def readItems (offset : ℕ) : Except StreamPanic (List V × ℕ) :=
  if s.segments.count ≤ s.readSegment offset then do pure ([], ← s.lastID)
  else do
    let seg ← s.segments.get (s.readSegment offset)
    if seg.length < offset % s.segmentSize then .error .sliceBounds
    else if seg.drop (offset % s.segmentSize) = [] then do pure ([], ← s.lastID)
    else pure (seg.drop (offset % s.segmentSize),
      (s.segmentOffset + s.readSegment offset) * s.segmentSize + seg.length)

def doRead : Except StreamPanic (List V × ℕ) :=
  if s.segments.count = 0 then do pure ([], ← s.lastID)
  else if offset < 0 then do pure ([], ← s.lastID)
  else s.readItems offset.toNat

def readNonBlocking : Except StreamPanic (List V × ℕ) := s.doRead offset

/-- The loop of `ReadAllNonBlocking`; none if the fuel is used up. -/
def readAllNonBlocking (s : Stream V) : ℕ → ℤ → List V → Except StreamPanic (Option (List V × ℕ))
  | 0, _, _ => .ok none
  | fuel + 1, offset, result => do
    let (items, offset) ← s.doRead offset
    if items = [] then pure (some (result, offset))
    else s.readAllNonBlocking fuel offset (result ++ items)

end Stream

/-- The stream after some calls of `Add`. -/
def addAll (segmentSize capacity : ℕ) (batches : List (List V)) : Except StreamPanic (Stream V) := do
  batches.foldlM (fun s vs => do pure (← s.add vs).1) (← newStream segmentSize capacity)

/-! The log. -/

namespace Stream

/-- The stream holds the end of the log in full segments and a last one. -/
structure Window (s : Stream V) (full : List (List V)) (last log : List V) : Prop where
  positive : 0 < s.segmentSize
  capable : 0 < s.maxSegments
  held : s.segments.Holds (full ++ [last])
  filled : ∀ seg ∈ full, seg.length = s.segmentSize
  fits : last.length ≤ s.segmentSize
  pruned : ∃ old, old.length = s.segmentOffset * s.segmentSize ∧ log = old ++ full.flatten ++ last
  kept : 0 < s.segmentOffset → s.maxSegments ≤ full.length

/-- What a stream can be after the items of the log. -/
inductive Logs (s : Stream V) (log : List V) : Prop where
  | empty (positive : 0 < s.segmentSize) (capable : 0 < s.maxSegments) (held : s.segments.Holds [])
      (unpruned : s.segmentOffset = 0) (none : log = [])
  | window (full : List (List V)) (last : List V) (window : Window s full last log)

structure SameLimits (s after : Stream V) : Prop where
  size : after.segmentSize = s.segmentSize
  segments : after.maxSegments = s.maxSegments

theorem flatten_length {segs : List (List V)} {size : ℕ} (filled : ∀ seg ∈ segs, seg.length = size) :
    segs.flatten.length = segs.length * size := by
  rw [List.length_flatten, List.map_congr_left filled, List.map_const', List.sum_replicate, smul_eq_mul]

section

variable {s : Stream V} {full : List (List V)} {last log : List V}

theorem Window.length (window : Window s full last log) :
    log.length = (s.segmentOffset + full.length) * s.segmentSize + last.length := by
  obtain ⟨old, length, rfl⟩ := window.pruned
  rw [List.length_append, List.length_append, flatten_length window.filled, length, Nat.add_mul]

theorem Window.count (window : Window s full last log) : s.segments.count = full.length + 1 := by
  rw [window.held.count_eq, List.length_append, List.length_singleton]

theorem Window.lastID (window : Window s full last log) : s.lastID = .ok log.length := by
  have count := window.count
  unfold Stream.lastID
  rw [if_neg (by omega), window.held.tail, window.length]
  change Except.ok _ = _
  rw [count, ← Nat.add_assoc, Nat.add_sub_cancel]

theorem Logs.lastID (logs : Logs s log) : s.lastID = .ok log.length := by
  cases logs with
  | empty _ _ held _ none =>
    unfold Stream.lastID
    rw [if_pos (show s.segments.count = 0 from held.count_eq), none]
    rfl
  | window full last window => exact window.lastID

/-- A segment with room takes the item. -/
theorem Window.appendTail (window : Window s full last log) (room : last.length < s.segmentSize) (v : V) :
    ∃ after, s.appendTail v = .ok after ∧ Window after full (last ++ [v]) (log ++ [v]) ∧ SameLimits s after := by
  have loaded : s.segments.load ((s.segments.head + full.length) % s.segments.buf.length) = .ok last := by
    have found := window.held.tail
    unfold Queue.get at found
    rw [show s.segments.getP (-1) = _ from window.held.tailP] at found
    exact found
  unfold Stream.appendTail
  rw [window.held.tailP]
  refine ⟨_, (bind_of_ok loaded _).trans rfl, ⟨window.positive, window.capable, ?_, window.filled, ?_,
    ?_, window.kept⟩, rfl, rfl⟩
  · exact window.held.store (last ++ [v])
  · rw [List.length_append, List.length_singleton]
    exact room
  · obtain ⟨old, length, rfl⟩ := window.pruned
    exact ⟨old, length, by simp only [List.append_assoc]⟩

/-- With every segment full, a new one is opened and the earliest perhaps given up. -/
theorem Window.openSegment (window : Window s full last log) (filled : last.length = s.segmentSize) :
    ∃ after full, s.openSegment = .ok after ∧ Window after full [] log ∧ SameLimits s after := by
  have count := window.count
  obtain ⟨old, length, split⟩ := window.pruned
  have all_filled : ∀ seg ∈ full ++ [last], seg.length = s.segmentSize := by
    intro seg member
    rcases List.mem_append.mp member with inside | tail
    · exact window.filled seg inside
    · rw [List.mem_singleton.mp tail, filled]
  unfold Stream.openSegment
  split
  · rename_i crowded
    obtain ⟨first, rest, shape⟩ : ∃ first rest, full ++ [last] = first :: rest :=
      List.exists_cons_of_ne_nil (by simp)
    have held := window.held
    have lengths := congrArg List.length shape
    rw [shape] at held all_filled
    rw [List.length_append, List.length_singleton, List.length_cons] at lengths
    obtain ⟨removed, remove, left⟩ := held.remove
    obtain ⟨queue, add, grown⟩ := left.add []
    rw [remove]
    refine ⟨_, rest, (bind_of_ok add _).trans rfl, ⟨window.positive, window.capable, grown, ?_, Nat.zero_le _,
      ⟨old ++ first, ?_, ?_⟩, fun _ => ?_⟩, rfl, rfl⟩
    · exact fun seg inside => all_filled seg (List.mem_cons_of_mem _ inside)
    · rw [List.length_append, length, all_filled first List.mem_cons_self]
      exact (Nat.succ_mul _ _).symm
    · have flat := congrArg List.flatten shape
      rw [List.flatten_append, List.flatten_singleton, List.flatten_cons] at flat
      rw [split, List.append_assoc, flat, List.append_nil, List.append_assoc]
    · dsimp only
      omega
  · rename_i room
    obtain ⟨queue, add, grown⟩ := window.held.add []
    rw [add]
    refine ⟨_, full ++ [last], rfl, ⟨window.positive, window.capable, grown, all_filled, Nat.zero_le _,
      ⟨old, length, ?_⟩, fun pruned => ?_⟩, rfl, rfl⟩
    · rw [split, List.flatten_append, List.flatten_singleton, List.append_nil, List.append_assoc]
    · have kept := window.kept pruned
      rw [List.length_append]
      exact Nat.le_add_right_of_le kept

theorem Window.addItem (window : Window s full last log) (v : V) :
    ∃ after full last, s.addItem v = .ok after ∧ Window after full last (log ++ [v]) ∧ SameLimits s after := by
  have count := window.count
  have needs : s.needsSegment = .ok (decide (last.length = s.segmentSize)) := by
    unfold needsSegment
    rw [if_neg (by omega), window.held.tail]
    rfl
  unfold Stream.addItem
  rw [needs]
  by_cases filled : last.length = s.segmentSize
  · obtain ⟨opened, full, ran, window, size, segments⟩ := window.openSegment filled
    obtain ⟨after, appended, window, same, most⟩ := window.appendTail window.positive v
    refine ⟨after, full, _, ?_, window, same.trans size, most.trans segments⟩
    rw [decide_eq_true filled]
    exact (bind_of_ok ran _).trans appended
  · obtain ⟨after, appended, window, same⟩ := window.appendTail (by have := window.fits; omega) v
    refine ⟨after, full, _, ?_, window, same⟩
    rw [decide_eq_false filled]
    exact appended

theorem Logs.addItem (logs : Logs s log) (v : V) : ∃ after, s.addItem v = .ok after ∧ Logs after (log ++ [v]) ∧
      SameLimits s after := by
  cases logs with
  | empty positive capable held unpruned none =>
    have empty : s.segments.count = 0 := held.count_eq
    obtain ⟨queue, add, grown⟩ := held.add []
    have window : Window { s with segments := queue } [] [] log :=
      ⟨positive, capable, grown, fun _ wrong => (List.not_mem_nil wrong).elim, Nat.zero_le _,
        ⟨[], by rw [unpruned, Nat.zero_mul, List.length_nil], none⟩, fun pruned =>
          absurd unpruned (Nat.ne_of_gt pruned)⟩
    obtain ⟨after, appended, window, same⟩ := window.appendTail positive v
    refine ⟨after, ?_, .window _ _ window, same.size, same.segments⟩
    unfold Stream.addItem needsSegment openSegment
    rw [if_pos empty, if_neg (by omega), add]
    exact appended
  | window full last window =>
    obtain ⟨after, full, last, added, window, same⟩ := window.addItem v
    exact ⟨after, added, .window _ _ window, same⟩

/-- No item is refused, and each lengthens the log. -/
theorem Logs.addItems (logs : Logs s log) (vs : List V) :
    ∃ after, vs.foldlM Stream.addItem s = .ok after ∧ Logs after (log ++ vs) ∧ SameLimits s after := by
  induction vs generalizing s log with
  | nil => exact ⟨s, rfl, by rwa [List.append_nil], rfl, rfl⟩
  | cons v vs ih =>
    obtain ⟨next, added, logs, size, segments⟩ := logs.addItem v
    obtain ⟨after, ran, logs, same, most⟩ := ih logs
    refine ⟨after, (bind_of_ok added _).trans ran, ?_, same.trans size, most.trans segments⟩
    rwa [List.append_assoc] at logs

theorem Logs.add (logs : Logs s log) (vs : List V) :
    ∃ after, s.add vs = .ok (after, if vs = [] then 0 else log.length + vs.length) ∧
      Logs after (log ++ vs) ∧ SameLimits s after := by
  unfold Stream.add
  by_cases empty : vs = []
  · rw [if_pos empty, if_pos empty, empty, List.append_nil]
    exact ⟨s, rfl, logs, rfl, rfl⟩
  · rw [if_neg empty, if_neg empty, ← List.length_append]
    obtain ⟨after, ran, logs, same⟩ := logs.addItems vs
    exact ⟨after, (bind_of_ok ran _).trans (bind_of_ok logs.lastID _), logs, same⟩

theorem Logs.addBatches (logs : Logs s log) (batches : List (List V)) :
    ∃ after, batches.foldlM (fun s vs => do pure (← s.add vs).1) s = .ok after ∧
      Logs after (log ++ batches.flatten) ∧ SameLimits s after := by
  induction batches generalizing s log with
  | nil => exact ⟨s, rfl, by rwa [List.flatten_nil, List.append_nil], rfl, rfl⟩
  | cons vs batches ih =>
    obtain ⟨next, added, logs, size, segments⟩ := logs.add vs
    obtain ⟨after, ran, logs, same, most⟩ := ih logs
    have first : (do pure (← s.add vs).1) = Except.ok next := bind_of_ok added _
    refine ⟨after, (bind_of_ok first _).trans ran, ?_, same.trans size, most.trans segments⟩
    rwa [List.append_assoc, ← List.flatten_cons] at logs

/-! Reads. -/

/-- A segment is a run of the log. -/
theorem Window.segment (window : Window s full last log) {i : ℕ} {seg : List V}
    (found : (full ++ [last])[i]? = some seg) : ∃ before after, log = before ++ seg ++ after ∧
      before.length = (s.segmentOffset + i) * s.segmentSize := by
  obtain ⟨old, length, split⟩ := window.pruned
  obtain ⟨inside, element⟩ := List.getElem?_eq_some_iff.mp found
  rw [List.length_append, List.length_singleton] at inside
  have parts : full ++ [last] = full.take i ++ seg :: (full ++ [last]).drop (i + 1) := by
    have first : full.take i = (full ++ [last]).take i :=
      (List.take_append_of_le_length (by omega)).symm
    rw [first, ← element, ← List.drop_eq_getElem_cons, List.take_append_drop]
  have flat := congrArg List.flatten parts
  rw [List.flatten_append, List.flatten_singleton, List.flatten_append, List.flatten_cons] at flat
  refine ⟨old ++ (full.take i).flatten, ((full ++ [last]).drop (i + 1)).flatten, ?_, ?_⟩
  · rw [split, List.append_assoc, flat]
    simp only [List.append_assoc]
  · rw [List.length_append, length, flatten_length fun seg inside =>
      window.filled seg (List.mem_of_mem_take inside), List.length_take, Nat.min_eq_left (by omega),
      Nat.add_mul]

/-- How many items come before the oldest one that is held and is past the offset. -/
def oldest (s : Stream V) (offset : ℤ) : ℕ := max (s.segmentOffset * s.segmentSize) offset.toNat

/-- A read from a number of items on. -/
structure Run (log : List V) (start : ℕ) (items : List V) (id : ℕ) : Prop where
  some_read : items ≠ []
  run : items <+: log.drop start
  ends : id = start + items.length

/-- The offset is that of a whole segment if its own is given up, and it is not one that
the last segment has room for but no item. -/
def InReach (s : Stream V) (total : ℕ) (offset : ℤ) : Prop :=
  offset < 0 ∨
    ((offset.toNat / s.segmentSize < s.segmentOffset → offset.toNat % s.segmentSize = 0) ∧
      (total < offset.toNat → (s.segmentOffset + s.segments.count) * s.segmentSize ≤ offset.toNat))

/-- A read that finds its segment longer than the offset into it. -/
theorem Window.readItems_run (window : Window s full last log) {offset : ℕ} {seg : List V}
    (found : (full ++ [last])[s.readSegment offset]? = some seg) (more : offset % s.segmentSize < seg.length) :
    ∃ items id, s.readItems offset = .ok (items, id) ∧
      id = (s.segmentOffset + s.readSegment offset) * s.segmentSize + seg.length ∧
      Run log ((s.segmentOffset + s.readSegment offset) * s.segmentSize + offset % s.segmentSize) items id := by
  have inside := (List.getElem?_eq_some_iff.mp found).1
  obtain ⟨before, after, split, length⟩ := window.segment found
  have some_read : seg.drop (offset % s.segmentSize) ≠ [] := by
    intro wrong
    have := List.drop_eq_nil_iff.mp wrong
    omega
  refine ⟨seg.drop (offset % s.segmentSize), _, ?_, rfl, some_read, ?_, ?_⟩
  · unfold Stream.readItems
    rw [if_neg (by rw [window.held.count_eq]; omega)]
    refine (bind_of_ok (window.held.get found) _).trans ?_
    rw [if_neg (by omega), if_neg some_read]
    rfl
  · refine ⟨after, ?_⟩
    rw [split, ← length, List.append_assoc, List.drop_length_add_append,
      List.drop_append_of_le_length (by omega)]
  · rw [List.length_drop]
    omega

/-- The offset's own segment has been given up: the read starts at the same place of the
earliest segment. -/
theorem Window.readItems_pruned (window : Window s full last log) {offset : ℕ}
    (early : offset / s.segmentSize < s.segmentOffset) :
    ∃ items, s.readItems offset = .ok (items, s.segmentOffset * s.segmentSize + s.segmentSize) ∧
      Run log (s.segmentOffset * s.segmentSize + offset % s.segmentSize) items
        (s.segmentOffset * s.segmentSize + s.segmentSize) := by
  have kept := window.kept (Nat.zero_lt_of_lt early)
  have capable := window.capable
  have segment : s.readSegment offset = 0 := if_neg (Nat.not_le.mpr early)
  obtain ⟨first, rest, rfl⟩ : ∃ first rest, full = first :: rest :=
    List.exists_cons_of_length_pos (by omega)
  have filled := window.filled first List.mem_cons_self
  have within := Nat.mod_lt offset window.positive
  have found : (first :: rest ++ [last])[s.readSegment offset]? = some first := by
    rw [segment]
    rfl
  obtain ⟨items, id, read, rfl, run⟩ := window.readItems_run found (by rw [filled]; exact within)
  rw [segment, Nat.add_zero, filled] at read run
  exact ⟨items, read, run⟩

/-- The offset's own segment is held, or is still to come. -/
theorem Window.readItems_held (window : Window s full last log) {offset : ℕ}
    (late : s.segmentOffset ≤ offset / s.segmentSize) :
    (offset < log.length ∧ ∃ items id, s.readItems offset = .ok (items, id) ∧ Run log offset items id) ∨
    (log.length ≤ offset ∧ (log.length = offset ∨ (s.segmentOffset + s.segments.count) * s.segmentSize ≤ offset) ∧
      s.readItems offset = .ok ([], log.length)) ∨
    (log.length < offset ∧ offset < (s.segmentOffset + s.segments.count) * s.segmentSize ∧
      s.readItems offset = .error .sliceBounds) := by
  have count := window.count
  have length := window.length
  have fits := window.fits
  have within := Nat.mod_lt offset window.positive
  have segment : s.segmentOffset + s.readSegment offset = offset / s.segmentSize := by
    unfold readSegment
    dsimp only
    rw [if_pos late]
    omega
  have place : (s.segmentOffset + s.readSegment offset) * s.segmentSize + offset % s.segmentSize =
      offset := by
    rw [segment, Nat.mul_comm]
    exact Nat.div_add_mod _ _
  have row : (s.segmentOffset + s.segments.count) * s.segmentSize =
      (s.segmentOffset + full.length) * s.segmentSize + s.segmentSize := by
    rw [count, ← Nat.add_assoc, Nat.add_mul, Nat.one_mul]
  rcases Nat.lt_trichotomy (s.readSegment offset) full.length with inner | tail | beyond
  · have found : (full ++ [last])[s.readSegment offset]? = some full[s.readSegment offset] := by
      rw [List.getElem?_append_left inner, List.getElem?_eq_getElem inner]
    have filled := window.filled _ (List.getElem_mem inner)
    obtain ⟨items, id, read, -, run⟩ := window.readItems_run found (by rw [filled]; exact within)
    rw [place] at run
    have rows := Nat.mul_le_mul_right s.segmentSize
      (show s.segmentOffset + s.readSegment offset + 1 ≤ s.segmentOffset + full.length by omega)
    rw [Nat.add_mul, Nat.one_mul] at rows
    exact .inl ⟨by omega, items, id, read, run⟩
  · have found : (full ++ [last])[s.readSegment offset]? = some last := by
      rw [tail, List.getElem?_concat_length]
    have got : s.segments.get (s.readSegment offset) = .ok last := window.held.get found
    rw [tail] at place
    rcases Nat.lt_trichotomy (offset % s.segmentSize) last.length with more | ended | past
    · obtain ⟨items, id, read, -, run⟩ := window.readItems_run found more
      rw [tail, place] at run
      exact .inl ⟨by omega, items, id, read, run⟩
    · refine .inr (.inl ⟨by omega, .inl (by omega), ?_⟩)
      unfold Stream.readItems
      rw [if_neg (by omega)]
      refine (bind_of_ok got _).trans ?_
      rw [if_neg (by omega), if_pos (List.drop_eq_nil_iff.mpr (by omega)), window.lastID]
      rfl
    · refine .inr (.inr ⟨by omega, by omega, ?_⟩)
      unfold Stream.readItems
      rw [if_neg (by omega)]
      refine (bind_of_ok got _).trans ?_
      rw [if_pos past]
  · have rows := Nat.mul_le_mul_right s.segmentSize
      (show s.segmentOffset + s.segments.count ≤ s.segmentOffset + s.readSegment offset by omega)
    refine .inr (.inl ⟨by omega, .inr (by omega), ?_⟩)
    unfold Stream.readItems
    rw [if_pos (by omega), window.lastID]
    rfl

theorem Run.bounds {start id : ℕ} {items : List V} (read : Run log start items id) :
    start < id ∧ id ≤ log.length := by
  have length := read.run.length_le
  have positive := List.length_pos_iff.mpr read.some_read
  have ends := read.ends
  rw [List.length_drop] at length
  omega

theorem Window.doRead (window : Window s full last log) (offset : ℕ) : s.doRead offset = s.readItems offset := by
  have count := window.count
  unfold Stream.doRead
  rw [if_neg (by omega), if_neg (by omega), Int.toNat_natCast]

/-- A read from within the log finds its next item, or a later one if more wait than the
stream is sure to hold. -/
theorem Logs.readOn (logs : Logs s log) {offset : ℕ} (inside : offset ≤ log.length) :
    (offset = log.length ∧ s.doRead offset = .ok ([], log.length)) ∨
    ∃ first items id, s.doRead offset = .ok (items, id) ∧ Run log first items id ∧ offset ≤ first ∧
      (log.length ≤ offset + s.maxSegments * s.segmentSize → first = offset) := by
  have last := logs.lastID
  cases logs with
  | empty _ _ held _ none =>
    cases none
    exact .inl ⟨Nat.le_zero.mp inside, (if_pos held.count_eq).trans (bind_of_ok last _)⟩
  | window full last window =>
    have read := window.doRead offset
    by_cases early : offset / s.segmentSize < s.segmentOffset
    · obtain ⟨items, found, run⟩ := window.readItems_pruned early
      have before := (Nat.div_lt_iff_lt_mul window.positive).mp early
      have length := window.length
      have kept := Nat.mul_le_mul_right s.segmentSize (window.kept (Nat.zero_lt_of_lt early))
      rw [Nat.add_mul] at length
      exact .inr ⟨_, items, _, read.trans found, run, by omega, by omega⟩
    · rcases window.readItems_held (Nat.not_lt.mp early) with ⟨-, items, id, found, run⟩ |
        ⟨ended, -, found⟩ | ⟨past, -⟩
      · exact .inr ⟨offset, items, id, read.trans found, run, le_rfl, fun _ => rfl⟩
      · exact .inl ⟨Nat.le_antisymm inside ended, read.trans found⟩
      · omega

theorem Logs.readAll (logs : Logs s log) {offset : ℕ} (inside : offset ≤ log.length) (result : List V) :
    ∃ fuel rest, s.readAllNonBlocking fuel offset result = .ok (some (result ++ rest, log.length)) ∧
      (log.length ≤ offset + s.maxSegments * s.segmentSize → rest = log.drop offset) := by
  rcases logs.readOn inside with ⟨rfl, read⟩ | ⟨first, items, id, read, run, later, on⟩
  · refine ⟨1, [], (bind_of_ok read _).trans ?_, fun _ => List.drop_length.symm⟩
    rw [List.append_nil]
    exact if_pos rfl
  · have bounds := run.bounds
    obtain ⟨fuel, rest, ran, all⟩ := logs.readAll bounds.2 (result ++ items)
    rw [List.append_assoc] at ran
    refine ⟨fuel + 1, items ++ rest, (bind_of_ok read _).trans ((if_neg run.some_read).trans ran), fun near => ?_⟩
    cases on near
    rw [all (by omega), run.ends, ← List.drop_drop]
    exact List.prefix_iff_eq_append.mp run.run
termination_by log.length - offset

/-- A read of the log without a panic, from the oldest item on that the offset asks for. -/
def ReadsLog (s : Stream V) (log : List V) (offset : ℤ) : Prop :=
  (∃ items id, s.readNonBlocking offset = .ok (items, id) ∧
    (0 ≤ offset → s.oldest offset < log.length → Run log (s.oldest offset) items id)) ∧
  ∃ fuel all, s.readAllNonBlocking fuel offset [] = .ok (some all)

/-- A read that finds nothing, where there is nothing to find. -/
theorem ReadsLog.of_none {offset : ℤ} {id : ℕ} (read : s.doRead offset = .ok ([], id))
    (none_left : 0 ≤ offset → log.length ≤ s.oldest offset) : ReadsLog s log offset :=
  ⟨⟨[], id, read, fun known more => absurd more (Nat.not_lt.mpr (none_left known))⟩,
    1, _, (bind_of_ok read _).trans (if_pos rfl)⟩

theorem Window.readsLog_of_run (window : Window s full last log) {offset id : ℕ} {items : List V}
    (read : s.readItems offset = .ok (items, id)) (run : Run log (s.oldest offset) items id) :
    ReadsLog s log offset := by
  have read := (window.doRead offset).trans read
  obtain ⟨fuel, rest, ran, -⟩ := (Logs.window _ _ window).readAll run.bounds.2 ([] ++ items)
  exact ⟨⟨items, id, read, fun _ _ => run⟩, fuel + 1, _,
    (bind_of_ok read _).trans ((if_neg run.some_read).trans ran)⟩

theorem Window.readsLog_iff (window : Window s full last log) (offset : ℕ) :
    ReadsLog s log offset ↔ InReach s log.length offset := by
  have known : ¬ (offset : ℤ) < 0 := by omega
  unfold InReach
  rw [or_iff_right known, Int.toNat_natCast]
  by_cases early : offset / s.segmentSize < s.segmentOffset
  · obtain ⟨items, read, run⟩ := window.readItems_pruned early
    have bounds := run.bounds
    have before := (Nat.div_lt_iff_lt_mul window.positive).mp early
    have start : s.oldest offset = s.segmentOffset * s.segmentSize := max_eq_left (by omega)
    constructor
    · rintro ⟨⟨items', id, read', runs⟩, -⟩
      have same := ((window.doRead offset).trans read).symm.trans read'
      cases same
      have ends := (runs (by omega) (by omega)).ends
      have := run.ends
      exact ⟨fun _ => by omega, fun _ => by omega⟩
    · rintro ⟨whole, -⟩
      rw [whole early, Nat.add_zero] at run
      refine window.readsLog_of_run read ?_
      rw [start]
      exact run
  · have late := Nat.not_lt.mp early
    have held := (Nat.le_div_iff_mul_le window.positive).mp late
    have start : s.oldest offset = offset := max_eq_right held
    rcases window.readItems_held late with ⟨inside, items, id, read, run⟩ | ⟨past, place, read⟩ |
        ⟨past, room, panics⟩
    · rw [← start] at run
      exact iff_of_true (window.readsLog_of_run read run) ⟨fun wrong => absurd wrong early, by omega⟩
    · refine iff_of_true (.of_none ((window.doRead offset).trans read) fun _ => by omega)
        ⟨fun wrong => absurd wrong early, by omega⟩
    · refine iff_of_false ?_ fun reach => ?_
      · rintro ⟨⟨items, id, read, -⟩, -⟩
        cases ((window.doRead offset).trans panics).symm.trans read
      · have := reach.2 past
        omega

theorem Logs.readsLog_iff (logs : Logs s log) (offset : ℤ) : ReadsLog s log offset ↔ InReach s log.length offset := by
  have last := logs.lastID
  by_cases negative : offset < 0
  · have read : s.doRead offset = .ok ([], log.length) := by
      unfold Stream.doRead
      rw [if_pos negative, last]
      exact ite_self _
    exact iff_of_true (.of_none read fun _ => by omega) (.inl negative)
  · obtain ⟨offset, rfl⟩ := Int.eq_ofNat_of_zero_le (Int.not_lt.mp negative)
    cases logs with
    | empty _ _ held unpruned none =>
      have empty : s.segments.count = 0 := held.count_eq
      have read : s.doRead offset = .ok ([], log.length) := by
        unfold Stream.doRead
        rw [if_pos empty, last]
        rfl
      refine iff_of_true (.of_none read fun _ => ?_) (.inr ⟨?_, fun _ => ?_⟩)
      · rw [none]
        exact Nat.zero_le _
      · rw [unpruned]
        exact fun wrong => absurd wrong (Nat.not_lt_zero _)
      · rw [unpruned, empty, Nat.zero_mul]
        exact Nat.zero_le _
    | window full last window => exact window.readsLog_iff offset

/-- A read that finds nothing returns the last id. -/
theorem Logs.doRead_none (logs : Logs s log) {offset : ℤ} {id : ℕ}
    (read : s.doRead offset = .ok ([], id)) : id = log.length := by
  have last : (do pure ([], ← s.lastID)) = (.ok ([], log.length) : Except StreamPanic (List V × ℕ)) :=
    bind_of_ok logs.lastID _
  unfold Stream.doRead Stream.readItems at read
  simp only [last] at read
  split_ifs at read
  · cases read
    rfl
  · cases read
    rfl
  · cases read
    rfl
  · obtain ⟨seg, -, read⟩ := bind_ok read
    split_ifs at read with _ none
    · cases read
      rfl
    · exact absurd (congrArg Prod.fst (Except.ok.inj read)) none

/-- Items are given up only for as many later ones as the capacity. -/
theorem Logs.retained (logs : Logs s log) {capacity : ℕ} (covers : capacity ≤ s.maxSegments * s.segmentSize) :
    ∃ segs, s.segments.Holds segs ∧ segs.flatten = log.drop (s.segmentOffset * s.segmentSize) ∧
      min capacity log.length ≤ segs.flatten.length := by
  cases logs with
  | empty _ _ held _ none =>
    rw [none]
    exact ⟨[], held, List.drop_nil.symm, Nat.min_le_right _ _⟩
  | window full last window =>
    have length := window.length
    obtain ⟨old, pruned, rfl⟩ := window.pruned
    have flat : (full ++ [last]).flatten = full.flatten ++ last := by
      rw [List.flatten_append, List.flatten_singleton]
    have flat_length : (full.flatten ++ last).length = full.length * s.segmentSize + last.length := by
      rw [List.length_append, flatten_length window.filled]
    refine ⟨full ++ [last], window.held, ?_, ?_⟩
    · rw [flat, ← pruned, List.append_assoc, List.drop_left]
    · rw [flat, flat_length]
      rw [Nat.add_mul] at length
      rcases Nat.eq_zero_or_pos s.segmentOffset with zero | positive
      · rw [zero, Nat.zero_mul] at length
        omega
      · have := Nat.mul_le_mul_right s.segmentSize (window.kept positive)
        omega

end

end Stream

theorem newStream_logs {segmentSize capacity : ℕ} {s : Stream V} (sized : 1 ≤ segmentSize)
    (created : newStream segmentSize capacity = .ok s) : s.Logs [] := by
  unfold newStream at created
  dsimp only at created
  split at created
  · cases created
  · rename_i some_segment
    cases created
    exact .empty sized (Nat.not_lt.mp some_segment) Queue.new_holds rfl rfl

/-- Every run of `Add` calls builds the log; every read at an offset in reach reads it. -/
theorem stream_log_iff (segmentSize capacity : ℕ) (sized : 1 ≤ segmentSize) (capable : 1 ≤ capacity)
    (batches : List (List V)) :
    ∃ s : Stream V, addAll segmentSize capacity batches = .ok s ∧
      (∀ vs, ∃ after, s.add vs =
        .ok (after, if vs = [] then 0 else batches.flatten.length + vs.length)) ∧
      (∃ segs, s.segments.Holds segs ∧
        segs.flatten = batches.flatten.drop (s.segmentOffset * s.segmentSize) ∧
        min capacity batches.flatten.length ≤ segs.flatten.length) ∧
      ∀ offset, s.ReadsLog batches.flatten offset ↔ s.InReach batches.flatten.length offset := by
  have enough : capacity ≤ (capacity + segmentSize - 1) / segmentSize * segmentSize := by
    have split := Nat.div_add_mod (capacity + segmentSize - 1) segmentSize
    have within := Nat.mod_lt (capacity + segmentSize - 1) sized
    rw [Nat.mul_comm]
    omega
  have some_segment : 1 ≤ (capacity + segmentSize - 1) / segmentSize :=
    (Nat.one_le_div_iff sized).mpr (by omega)
  have start : (newStream segmentSize capacity : Except StreamPanic (Stream V)) =
      .ok ⟨Queue.new, segmentSize, (capacity + segmentSize - 1) / segmentSize, 0⟩ :=
    if_neg (Nat.not_lt.mpr some_segment)
  obtain ⟨s, ran, logs, size, segments⟩ := (newStream_logs sized start).addBatches batches
  rw [List.nil_append] at logs
  refine ⟨s, (bind_of_ok start _).trans ran, fun vs => ?_, ?_, logs.readsLog_iff⟩
  · obtain ⟨after, added, -⟩ := logs.add vs
    exact ⟨after, added⟩
  · exact logs.retained (by rw [size, segments]; exact enough)

/-- Six items in segments of two, of which the last four are held. -/
theorem stream_log_iff_six :
    ∃ s : Stream ℕ, addAll 2 2 [[1, 2, 3], [4, 5, 6]] = .ok s ∧
      ∀ offset, s.ReadsLog [1, 2, 3, 4, 5, 6] offset ↔ s.InReach 6 offset := by
  obtain ⟨s, ran, -, -, reads⟩ := stream_log_iff 2 2 (by decide) (by decide) [[1, 2, 3], [4, 5, 6]]
  exact ⟨s, ran, reads⟩

/-- One item in a segment of four: a read from past it panics. Six items in segments of
two: a read from the first one skips the third, the oldest that is held. -/
theorem reads_out_of_reach :
    ((addAll 4 4 [[1]]).bind fun s : Stream ℕ => s.readNonBlocking 2) = .error .sliceBounds ∧
      ((addAll 2 2 [[1, 2, 3], [4, 5, 6]]).bind fun s : Stream ℕ => s.readNonBlocking 0) =
        .ok ([3, 4], 4) ∧
      ((addAll 2 2 [[1, 2, 3], [4, 5, 6]]).bind fun s : Stream ℕ => s.readNonBlocking 1) =
        .ok ([4], 4) :=
  ⟨by decide, by decide, by decide⟩

end OgEvm.Streams
