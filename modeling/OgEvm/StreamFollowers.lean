import OgEvm.StreamReaders

/- Those who follow a stream: the poll filters and the subscriptions. Each joins at the
end, and hands the id that it got last to its next read. -/
namespace OgEvm.Streams

open ExceptFacts

variable {V : Type}

/-- A follower among Adds: `got` is what its reads returned, `added` what was added since it
joined. It reads before more items wait than the stream is sure to hold. -/
inductive Follows (start : Stream V) : Stream V → ℕ → List V → List V → Prop where
  | join {offset : ℕ} (read : start.readNonBlocking (-1) = .ok ([], offset)) :
      Follows start start offset [] []
  | add {s after : Stream V} {offset id : ℕ} {got added vs : List V} (run : Follows start s offset got added)
      (ran : s.add vs = .ok (after, id)) : Follows start after offset got (added ++ vs)
  | read {s : Stream V} {offset next : ℕ} {got added items : List V} (run : Follows start s offset got added)
      (near : added.length ≤ got.length + s.maxSegments * s.segmentSize)
      (read : s.readNonBlocking offset = .ok (items, next)) : Follows start s next (got ++ items) added

theorem Follows.tracks {start s : Stream V} {before got added : List V} (logs : start.Logs before) {offset : ℕ}
    (run : Follows start s offset got added) :
    s.Logs (before ++ added) ∧ offset = (before ++ got).length ∧ got <+: added := by
  induction run with
  | join read =>
    rw [List.append_nil]
    exact ⟨logs, logs.doRead_none read, List.nil_prefix⟩
  | @add _ _ _ _ _ _ vs _ ran ih =>
    obtain ⟨logs, place, part⟩ := ih
    obtain ⟨next, added, logs, -⟩ := logs.add vs
    cases ran.symm.trans added
    rw [List.append_assoc] at logs
    exact ⟨logs, place, part.trans (List.prefix_append _ _)⟩
  | @read s _ _ got _ items _ near read ih =>
    obtain ⟨logs, rfl, rest, rfl⟩ := ih
    refine ⟨logs, ?_⟩
    rw [← List.append_assoc] at logs
    rcases logs.readOn (List.prefix_append _ rest).length_le with ⟨ended, found⟩ |
        ⟨first, _, id, found, run, -, on⟩
    · cases found.symm.trans read
      rw [List.append_nil, ended]
      exact ⟨rfl, List.prefix_append _ _⟩
    · cases found.symm.trans read
      rw [List.length_append] at near
      cases on (by rw [List.length_append, List.length_append]; omega)
      have part := run.run
      rw [List.drop_left] at part
      rw [run.ends, ← List.length_append, List.append_assoc]
      exact ⟨rfl, (List.prefix_append_right_inj got).mpr part⟩

/-- A follower gets what is added after it joins, in order and once each. No read of it
fails, it finds nothing only if nothing is left, and a poll returns all that is left. -/
theorem followers_get_added {segmentSize capacity : ℕ} (sized : 1 ≤ segmentSize) {batches : List (List V)}
    {start s : Stream V} (opened : addAll segmentSize capacity batches = .ok start) {offset : ℕ}
    {got added : List V} (run : Follows start s offset got added) : got <+: added ∧
      (∃ items next, s.readNonBlocking offset = .ok (items, next) ∧ (items = [] → got = added)) ∧
      ∃ fuel rest, s.readAllNonBlocking fuel offset [] = .ok (some (rest, (batches.flatten ++ added).length)) ∧
        (added.length ≤ got.length + s.maxSegments * s.segmentSize → got ++ rest = added) := by
  obtain ⟨fresh, created, ran⟩ := bind_ok opened
  obtain ⟨after, ran', logs, -⟩ := (newStream_logs sized created).addBatches batches
  cases ran.symm.trans ran'
  rw [List.nil_append] at logs
  obtain ⟨logs, rfl, rest, rfl⟩ := run.tracks logs
  rw [← List.append_assoc] at logs ⊢
  have inside := (List.prefix_append (batches.flatten ++ got) rest).length_le
  refine ⟨List.prefix_append _ _, ?_, ?_⟩
  · rcases logs.readOn inside with ⟨ended, read⟩ | ⟨first, items, id, read, run, -⟩
    · have empty := List.self_eq_append_right.mp ((List.prefix_append _ rest).eq_of_length ended)
      exact ⟨[], _, read, fun _ => by rw [empty, List.append_nil]⟩
    · exact ⟨items, id, read, fun ended => absurd ended run.some_read⟩
  · obtain ⟨fuel, left, ran, all⟩ := logs.readAll inside []
    refine ⟨fuel, left, ran, fun near => ?_⟩
    rw [List.length_append] at near
    rw [all (by rw [List.length_append, List.length_append]; omega), List.drop_left]

/-- One item in the first poll. -/
theorem followers_get_added_one :
    ∃ fuel rest, oneItem.readAllNonBlocking fuel 0 [] = .ok (some (rest, 1)) ∧ rest = [7] := by
  have opened : addAll 4 4 [] = .ok emptyStream := rfl
  have joined : Follows emptyStream emptyStream 0 [] [] := .join rfl
  have added := joined.add (show emptyStream.add [7] = .ok (oneItem, 1) from rfl)
  obtain ⟨-, -, fuel, rest, polled, all⟩ := followers_get_added (by decide) opened added
  exact ⟨fuel, rest, polled, all (by decide)⟩

/-! Wake-ups. -/

/-- No reader waits for later items than the next, and one that can go on has one to read. -/
def Woken (st : System V) : Prop :=
  ∀ r offset channel, st.readers r = .waiting offset channel →
    offset ≤ st.published ∧ (channel < st.channel → offset < st.published)

section

variable {acts : List (Act V)} {act : Act V} {st after : System V}

theorem Woken.set (woken : Woken st) {r : ℕ} {reader : Reader}
    (picked : ∀ offset channel, reader = .waiting offset channel →
      offset ≤ st.published ∧ channel = st.channel) : Woken (st.set r reader) := by
  intro r' offset channel now
  rcases System.set_cases now with ⟨-, same⟩ | ⟨-, before⟩
  · obtain ⟨bound, rfl⟩ := picked offset channel same
    exact ⟨bound, fun closed => absurd closed (Nat.lt_irrefl _)⟩
  · exact woken r' offset channel before

theorem Woken.step (settled : Settled acts st) (woken : Woken st) (step : Step st act after) : Woken after := by
  cases step with
  | pick empty =>
    refine woken.set ?_
    rintro _ _ ⟨⟩
    exact ⟨(settled.missed _ _ empty).1, rfl⟩
  | append unlocked more added => exact woken
  | broadcast locked last =>
    obtain ⟨log, logs, counted⟩ := settled.logs
    rw [locked, if_pos rfl] at counted
    cases last.symm.trans logs.lastID
    intro r offset channel now
    have bound := (woken r offset channel now).1
    exact ⟨bound.trans counted.le, fun _ => lt_of_le_of_lt bound counted⟩
  | _ => exact woken.set nofun

theorem Runs.woken {s : Stream V} (empty : s.Logs []) (runs : Runs (.new s) acts st) : Woken st := by
  induction runs with
  | nil => exact nofun
  | snoc runs step ih => exact ih.step (runs.settled empty) step

end

/-- Whoever is woken finds an item. -/
theorem woken_readers_find {segmentSize capacity : ℕ} (sized : 1 ≤ segmentSize) {s : Stream V}
    (created : newStream segmentSize capacity = .ok s) {acts : List (Act V)} {st : System V}
    (runs : Runs (.new s) acts st) (unlocked : st.writing = false) {r offset channel : ℕ}
    (blocked : st.readers r = .waiting offset channel) (closed : channel < st.channel) :
    ∃ items id, st.stream.doRead offset = .ok (items, id) ∧ items ≠ [] := by
  have empty := newStream_logs sized created
  have unread := (runs.woken empty r offset channel blocked).2 closed
  obtain ⟨log, logs, counted⟩ := (runs.settled empty).logs
  rw [unlocked] at counted
  rw [show st.published = log.length from counted] at unread
  rcases logs.readOn unread.le with ⟨ended, -⟩ | ⟨first, items, id, read, run, -⟩
  · exact absurd ended unread.ne
  · exact ⟨items, id, read, run.some_read⟩

/-- A reader waits on an empty stream; an item comes. -/
theorem woken_readers_find_one : ∃ items id, oneItem.doRead 0 = .ok (items, id) ∧ items ≠ [] := by
  have called : Runs (.new emptyStream) [.call 0 0] _ := Runs.nil.snoc (Step.call 0 0 rfl)
  have missed := called.snoc (Step.missed (r := 0) rfl rfl (show emptyStream.doRead 0 = .ok ([], 0) from rfl))
  have picked := missed.snoc (Step.pick (r := 0) rfl)
  have appended := picked.snoc (Step.append rfl (List.cons_ne_nil 7 [])
    (show emptyStream.add [7] = .ok (oneItem, 1) from rfl))
  have woken := appended.snoc (Step.broadcast rfl (show oneItem.lastID = .ok 1 from rfl))
  have created : newStream 4 4 = .ok emptyStream := rfl
  exact woken_readers_find (by decide) created woken rfl (r := 0) rfl (by decide)

end OgEvm.Streams
