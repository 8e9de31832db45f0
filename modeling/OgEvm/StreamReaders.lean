import OgEvm.StreamLog

/- Blocking reads of a stream. A reader that finds nothing gives up the stream's mutex
before it picks up the channel to wait on; a writer that broadcasts between the two
closes a channel that the reader never sees. -/
namespace OgEvm.Streams

variable {V : Type}

/-- Where a goroutine is that reads: outside, before `doRead`, between the mutex and
`Cond.Wait`, or in its select on a channel. -/
inductive Reader where
  | idle
  | reading (offset : ℕ)
  | missed (offset : ℕ)
  | waiting (offset channel : ℕ)
  | crashed
deriving DecidableEq

/-- The channels of the `Cond` are numbered: all before `channel` are closed. An Add holds
the mutex while `writing`. `published` counts the items whose Add has broadcast; it is kept
for reference only. -/
structure System (V : Type) where
  stream : Stream V
  writing : Bool
  published : ℕ
  channel : ℕ
  readers : ℕ → Reader

def System.new (stream : Stream V) : System V := ⟨stream, false, 0, 0, fun _ => .idle⟩

def System.set (st : System V) (r : ℕ) (reader : Reader) : System V :=
  { st with readers := Function.update st.readers r reader }

inductive Act (V : Type) where
  | call (r offset : ℕ)
  | read (r : ℕ)
  | pick (r : ℕ)
  | wake (r : ℕ)
  | cancel (r : ℕ)
  | append (vs : List V)
  | broadcast

/-- What runs under one mutex is one step. A channel is picked up under the mutex of the
`Cond` alone, so this can fall inside an Add. -/
inductive Step (st : System V) : Act V → System V → Prop where
  | call (r offset : ℕ) (free : st.readers r = .idle) :
      Step st (.call r offset) (st.set r (.reading offset))
  | found {r offset : ℕ} {items : List V} {id : ℕ} (unlocked : st.writing = false)
      (ready : st.readers r = .reading offset) (read : st.stream.doRead offset = .ok (items, id))
      (more : items ≠ []) : Step st (.read r) (st.set r .idle)
  | missed {r offset id : ℕ} (unlocked : st.writing = false) (ready : st.readers r = .reading offset)
      (read : st.stream.doRead offset = .ok ([], id)) : Step st (.read r) (st.set r (.missed id))
  | crashed {r offset : ℕ} {cause : StreamPanic} (unlocked : st.writing = false)
      (ready : st.readers r = .reading offset) (read : st.stream.doRead offset = .error cause) :
      Step st (.read r) (st.set r .crashed)
  | pick {r offset : ℕ} (empty : st.readers r = .missed offset) :
      Step st (.pick r) (st.set r (.waiting offset st.channel))
  | wake {r offset channel : ℕ} (blocked : st.readers r = .waiting offset channel)
      (closed : channel < st.channel) : Step st (.wake r) (st.set r (.reading offset))
  | cancel {r offset channel : ℕ} (blocked : st.readers r = .waiting offset channel) :
      Step st (.cancel r) (st.set r .idle)
  | append {vs : List V} {stream : Stream V} {id : ℕ} (unlocked : st.writing = false) (more : vs ≠ [])
      (added : st.stream.add vs = .ok (stream, id)) :
      Step st (.append vs) { st with stream := stream, writing := true }
  | broadcast {total : ℕ} (locked : st.writing = true) (last : st.stream.lastID = .ok total) :
      Step st .broadcast
        { st with writing := false, published := total, channel := st.channel + 1 }

inductive Runs (start : System V) : List (Act V) → System V → Prop where
  | nil : Runs start [] start
  | snoc {acts : List (Act V)} {act : Act V} {st after : System V} (runs : Runs start acts st)
      (step : Step st act after) : Runs start (acts ++ [act]) after

/-- Whoever is blocked with an item to read can go on. -/
def NoLostWakeup (st : System V) : Prop :=
  ∀ r offset channel, st.readers r = .waiting offset channel → offset < st.published →
    channel < st.channel

/-- The reader has read since the last broadcast. -/
def Fresh (acts : List (Act V)) (r : ℕ) : Prop :=
  ∃ earlier later, acts = earlier ++ .read r :: later ∧ .broadcast ∉ later

/-- No broadcast falls between a read and the pick that follows it. -/
def Prompt (acts : List (Act V)) : Prop :=
  ∀ earlier r later, acts = earlier ++ .pick r :: later → Fresh earlier r

/-- A place in a lengthened list is its end or a place in the list. -/
theorem snoc_split {α : Type} {xs earlier later : List α} {x y : α}
    (split : xs ++ [x] = earlier ++ y :: later) : (later = [] ∧ xs = earlier ∧ x = y) ∨
      ∃ front, later = front ++ [x] ∧ xs = earlier ++ y :: front := by
  rcases List.eq_nil_or_concat later with rfl | ⟨front, last, rfl⟩
  · obtain ⟨same, ends⟩ := List.append_inj' split rfl
    exact .inl ⟨rfl, same, List.singleton_inj.mp ends⟩
  · rw [List.concat_eq_append, ← List.cons_append, ← List.append_assoc] at split
    obtain ⟨same, ends⟩ := List.append_inj' split rfl
    rw [List.concat_eq_append, List.singleton_inj.mp ends]
    exact .inr ⟨front, rfl, same⟩

theorem fresh_snoc (acts : List (Act V)) (act : Act V) (r : ℕ) :
    Fresh (acts ++ [act]) r ↔ act = .read r ∨ (act ≠ .broadcast ∧ Fresh acts r) := by
  constructor
  · rintro ⟨earlier, later, split, quiet⟩
    rcases snoc_split split with ⟨-, -, ends⟩ | ⟨front, rfl, same⟩
    · exact .inl ends
    · rw [List.mem_append, List.mem_singleton, not_or] at quiet
      exact .inr ⟨fun wrong => quiet.2 wrong.symm, earlier, front, same, quiet.1⟩
  · rintro (rfl | ⟨other, earlier, later, rfl, quiet⟩)
    · exact ⟨acts, [], rfl, List.not_mem_nil⟩
    · refine ⟨earlier, later ++ [act], by simp, ?_⟩
      rw [List.mem_append, List.mem_singleton, not_or]
      exact ⟨quiet, other.symm⟩

theorem Prompt.snoc_iff (acts : List (Act V)) (act : Act V) :
    Prompt (acts ++ [act]) ↔ Prompt acts ∧ ∀ r, act = .pick r → Fresh acts r := by
  constructor
  · intro prompt
    refine ⟨fun earlier r later split => prompt earlier r (later ++ [act]) ?_, ?_⟩
    · rw [split, List.append_assoc, List.cons_append]
    · rintro r rfl
      exact prompt acts r [] rfl
  · rintro ⟨prompt, picked⟩ earlier r later split
    rcases snoc_split split with ⟨-, rfl, ends⟩ | ⟨front, -, same⟩
    · exact picked r ends
    · exact prompt earlier r front same

/-! What holds along a run. -/

structure Settled (acts : List (Act V)) (st : System V) : Prop where
  logs : ∃ log, st.stream.Logs log ∧
    if st.writing then st.published < log.length else st.published = log.length
  missed : ∀ r offset, st.readers r = .missed offset →
    offset ≤ st.published ∧ (Fresh acts r ↔ offset = st.published)
  waiting : ∀ r offset channel, st.readers r = .waiting offset channel → channel ≤ st.channel

section

variable {acts : List (Act V)} {act : Act V} {st after : System V}

theorem System.set_cases {r r' : ℕ} {reader reader' : Reader} (now : (st.set r reader).readers r' = reader') :
    (r' = r ∧ reader = reader') ∨ (r' ≠ r ∧ st.readers r' = reader') := by
  unfold System.set at now
  dsimp only at now
  by_cases same : r' = r
  · rw [same, Function.update_self] at now
    exact .inl ⟨same, now⟩
  · rw [Function.update_of_ne same] at now
    exact .inr ⟨same, now⟩

/-- A step of one reader. -/
theorem Settled.set (settled : Settled acts st) {r : ℕ} {reader : Reader} (quiet : act ≠ .broadcast)
    (own : ∀ r', act = .read r' → r' = r)
    (read : ∀ offset, reader = .missed offset → act = .read r ∧ offset = st.published)
    (picked : ∀ offset channel, reader = .waiting offset channel → channel ≤ st.channel) :
    Settled (acts ++ [act]) (st.set r reader) where
  logs := settled.logs
  missed r' offset now := by
    rw [fresh_snoc]
    rcases System.set_cases now with ⟨rfl, rfl⟩ | ⟨other, before⟩
    · obtain ⟨rfl, same⟩ := read offset rfl
      exact ⟨same.le, iff_of_true (.inl rfl) same⟩
    · obtain ⟨bound, fresh⟩ := settled.missed r' offset before
      refine ⟨bound, Iff.trans ?_ fresh⟩
      exact ⟨fun now => (now.resolve_left fun wrong => other (own r' wrong)).2, fun now => .inr ⟨quiet, now⟩⟩
  waiting r' offset channel now := by
    rcases System.set_cases now with ⟨rfl, rfl⟩ | ⟨other, before⟩
    · exact picked offset channel rfl
    · exact settled.waiting r' offset channel before

theorem Settled.step (settled : Settled acts st) (step : Step st act after) : Settled (acts ++ [act]) after := by
  obtain ⟨log, logs, counted⟩ := settled.logs
  cases step with
  | call r offset free => exact settled.set nofun nofun nofun nofun
  | found unlocked ready read more => exact settled.set nofun (fun _ same => by cases same; rfl) nofun nofun
  | missed unlocked ready read =>
    rename_i r offset id
    refine settled.set nofun (fun _ same => by cases same; rfl) ?_ nofun
    rintro _ ⟨⟩
    rw [unlocked] at counted
    exact ⟨rfl, (logs.doRead_none read).trans counted.symm⟩
  | crashed unlocked ready read =>
    exact settled.set nofun (fun _ same => by cases same; rfl) nofun nofun
  | pick empty =>
    refine settled.set nofun nofun nofun ?_
    rintro _ _ ⟨⟩
    exact Nat.le_refl _
  | wake blocked closed => exact settled.set nofun nofun nofun nofun
  | cancel blocked => exact settled.set nofun nofun nofun nofun
  | append unlocked more added =>
    rename_i vs stream id
    obtain ⟨next, added', grown, -⟩ := logs.add vs
    cases added.symm.trans added'
    refine ⟨⟨_, grown, ?_⟩, fun r offset now => ?_, settled.waiting⟩
    · rw [unlocked] at counted
      have positive := List.length_pos_iff.mpr more
      rw [if_pos rfl, List.length_append]
      exact lt_of_eq_of_lt counted (Nat.lt_add_of_pos_right positive)
    · obtain ⟨bound, fresh⟩ := settled.missed r offset now
      rw [fresh_snoc]
      exact ⟨bound, Iff.trans ⟨fun now => (now.resolve_left nofun).2, fun now => .inr ⟨nofun, now⟩⟩ fresh⟩
  | broadcast locked last =>
    rw [locked, if_pos rfl] at counted
    cases last.symm.trans logs.lastID
    refine ⟨⟨log, logs, rfl⟩, fun r offset now => ?_, fun r offset channel now => ?_⟩
    · obtain ⟨bound, -⟩ := settled.missed r offset now
      rw [fresh_snoc]
      refine ⟨bound.trans counted.le, iff_of_false ?_ (Nat.ne_of_lt (lt_of_le_of_lt bound counted))⟩
      rintro (wrong | ⟨wrong, -⟩)
      · cases wrong
      · exact wrong rfl
    · exact Nat.le_succ_of_le (settled.waiting r offset channel now)

theorem Runs.settled {s : Stream V} (empty : s.Logs []) (runs : Runs (.new s) acts st) : Settled acts st := by
  induction runs with
  | nil => exact ⟨⟨[], empty, rfl⟩, nofun, nofun⟩
  | snoc _ step ih => exact ih.step step

theorem NoLostWakeup.set (kept : NoLostWakeup st) {r : ℕ} {reader : Reader}
    (picked : ∀ offset channel, reader = .waiting offset channel → st.published ≤ offset) :
    NoLostWakeup (st.set r reader) := by
  intro r' offset channel now unread
  rcases System.set_cases now with ⟨-, same⟩ | ⟨-, before⟩
  · exact absurd unread (Nat.not_lt.mpr (picked offset channel same))
  · exact kept r' offset channel before unread

/-- A prompt reader misses nothing; every other step keeps what was so. -/
theorem NoLostWakeup.step (settled : Settled acts st) (kept : NoLostWakeup st)
    (prompt : ∀ r, act = .pick r → Fresh acts r) (step : Step st act after) : NoLostWakeup after := by
  cases step with
  | call r offset free => exact kept.set nofun
  | found unlocked ready read more => exact kept.set nofun
  | missed unlocked ready read => exact kept.set nofun
  | crashed unlocked ready read => exact kept.set nofun
  | pick empty =>
    refine kept.set ?_
    rintro _ _ ⟨⟩
    exact ((settled.missed _ _ empty).2.mp (prompt _ rfl)).ge
  | wake blocked closed => exact kept.set nofun
  | cancel blocked => exact kept.set nofun
  | append unlocked more added => exact kept
  | broadcast locked last =>
    exact fun r offset channel now _ => Nat.lt_succ_of_le (settled.waiting r offset channel now)

theorem Runs.noLostWakeup {s : Stream V} (empty : s.Logs []) (runs : Runs (.new s) acts st)
    (prompt : Prompt acts) : NoLostWakeup st := by
  induction runs with
  | nil => exact nofun
  | snoc runs step ih =>
    obtain ⟨prompt, picked⟩ := (Prompt.snoc_iff _ _).mp prompt
    exact NoLostWakeup.step (runs.settled empty) (ih prompt) picked step

theorem Runs.earlier {start : System V} {earlier later : List (Act V)}
    (runs : Runs start (earlier ++ later) st) : ∃ mid, Runs start earlier mid := by
  induction later using List.reverseRecOn generalizing st with
  | nil => exact ⟨st, by rwa [List.append_nil] at runs⟩
  | append_singleton front last ih =>
    rw [← List.append_assoc] at runs
    generalize whole : earlier ++ front ++ [last] = acts at runs
    cases runs with
    | nil => exact absurd whole (by simp)
    | snoc before _ =>
      rw [(List.append_inj' whole rfl).1] at ih
      exact ih before

end

/-- No reader is ever left blocked with an item to read, exactly if none lets a broadcast
pass between its read and its pick. -/
theorem noLostWakeup_iff {segmentSize capacity : ℕ} (sized : 1 ≤ segmentSize) {s : Stream V}
    (created : newStream segmentSize capacity = .ok s) {acts : List (Act V)}
    {final : System V} (runs : Runs (.new s) acts final) :
    (∀ earlier later st, acts = earlier ++ later → Runs (.new s) earlier st → NoLostWakeup st) ↔
      Prompt acts := by
  have empty : s.Logs [] := newStream_logs sized created
  constructor
  · rintro kept earlier r later rfl
    rw [List.append_cons] at runs
    obtain ⟨after, picked⟩ := runs.earlier
    have kept := kept _ later after (List.append_cons _ _ _) picked
    generalize whole : earlier ++ [Act.pick r] = acts at picked
    cases picked with
    | nil => exact absurd whole (by simp)
    | snoc before step =>
      obtain ⟨rfl, same⟩ := List.append_inj' whole rfl
      cases List.singleton_inj.mp same
      cases step with
      | pick missed =>
        obtain ⟨bound, fresh⟩ := (before.settled empty).missed r _ missed
        by_contra stale
        have unread := lt_of_le_of_ne bound fun same => stale (fresh.mpr same)
        have lost := kept r _ _ (Function.update_self _ _ _) unread
        exact Nat.lt_irrefl _ lost
  · rintro prompt earlier later st rfl ran
    refine ran.noLostWakeup empty fun front r rest split => prompt front r (rest ++ later) ?_
    rw [split, List.append_assoc, List.cons_append]

def emptyStream : Stream ℕ := ⟨Queue.new, 4, 1, 0⟩

/-- A reader that finds the stream empty and waits. -/
theorem noLostWakeup_iff_waiting :
    ∃ st, Runs (.new emptyStream) [.call 0 0, .read 0, .pick 0] st ∧ NoLostWakeup st := by
  have called : Runs (.new emptyStream) [.call 0 0] _ := Runs.nil.snoc (Step.call 0 0 rfl)
  have missed := called.snoc (Step.missed (r := 0) rfl rfl (show emptyStream.doRead 0 = .ok ([], 0) from rfl))
  have picked := missed.snoc (Step.pick (r := 0) rfl)
  have created : newStream 4 4 = .ok emptyStream := rfl
  refine ⟨_, picked, (noLostWakeup_iff (by decide) created picked).mpr ?_ _ [] _ rfl picked⟩
  have empty : Prompt ([] : List (Act ℕ)) := fun _ _ _ wrong => by simp at wrong
  have called : Prompt [.call 0 0] := (Prompt.snoc_iff [] _).mpr ⟨empty, nofun⟩
  have missed : Prompt [.call 0 0, .read 0] := (Prompt.snoc_iff [.call 0 0] _).mpr ⟨called, nofun⟩
  refine (Prompt.snoc_iff [.call 0 0, .read 0] _).mpr ⟨missed, ?_⟩
  rintro _ ⟨⟩
  exact ⟨[.call 0 0], [], rfl, List.not_mem_nil⟩

/-- The stream with one item. -/
def oneItem : Stream ℕ := ⟨⟨[7] :: List.replicate 15 [], 0, 1, 1⟩, 4, 1, 0⟩

/-- An Add falls between the read of a reader and its pick: the reader is blocked on a
channel that only a further Add closes, with the item to read. -/
theorem wakeup_lost :
    newStream 4 4 = .ok emptyStream ∧
      ∃ st, Runs (.new emptyStream) [.call 0 0, .read 0, .append [7], .broadcast, .pick 0] st ∧
        st.stream = oneItem ∧ oneItem.readNonBlocking 0 = .ok ([7], 1) ∧ st.writing = false ∧
        st.readers 0 = .waiting 0 st.channel := by
  have called : Runs (.new emptyStream) [.call 0 0] _ := Runs.nil.snoc (Step.call 0 0 rfl)
  have missed := called.snoc (Step.missed (r := 0) rfl rfl (show emptyStream.doRead 0 = .ok ([], 0) from rfl))
  have appended := missed.snoc (Step.append rfl (List.cons_ne_nil 7 [])
    (show emptyStream.add [7] = .ok (oneItem, 1) from rfl))
  have woken := appended.snoc (Step.broadcast rfl (show oneItem.lastID = .ok 1 from rfl))
  exact ⟨rfl, _, woken.snoc (Step.pick (r := 0) rfl), rfl, rfl, rfl, rfl⟩

end OgEvm.Streams
