import OgEvm.SvipPool

/- The clock of the decay: the time since the activation without the paused time. Pauses
are counted in whole seconds from the last block before them, and the times are read in
floating point. -/
namespace OgEvm.Svip

open Store

/-! Durations read as seconds. -/

/-- From here on a nanosecond is too small for the seconds of a duration to show it. -/
def longDuration : ℤ := 2 ^ 24 * second

section

variable {d : ℤ}

/-- The fraction of a second, rounded once more on its own. -/
def fraction (d : ℤ) : ℚ := Binary64.nearest ((d % second : ℤ) / second)

theorem fraction_abs (d : ℤ) : |((d % second : ℤ) : ℚ) / second| < 1 := by
  have low : 0 ≤ d % second := Int.emod_nonneg d (by decide)
  have high : d % second < second := Int.emod_lt_of_pos d (by decide)
  have positive : (0 : ℚ) < second := by exact_mod_cast (by decide : 0 < second)
  rw [abs_div, abs_of_pos positive, div_lt_one positive, abs_of_nonneg (by exact_mod_cast low)]
  exact_mod_cast high

theorem fraction_error (d : ℤ) : |fraction d - ((d % second : ℤ) : ℚ) / second| ≤ 2 ^ (-54 : ℤ) := by
  have small : |((d % second : ℤ) : ℚ) / second| < 2 ^ (0 : ℤ) := by simpa using fraction_abs d
  have error := Binary64.abs_nearest_sub_le small
  exact error

theorem fraction_between (d : ℤ) : 0 ≤ fraction d ∧ fraction d < 1 := by
  have low : 0 ≤ d % second := Int.emod_nonneg d (by decide)
  have high : d % second ≤ second - 1 := by
    have := Int.emod_lt_of_pos d (by decide : 0 < second)
    omega
  have nonneg : (0 : ℚ) ≤ ((d % second : ℤ) : ℚ) / second := by
    apply div_nonneg
    · exact_mod_cast low
    · exact_mod_cast (by decide : 0 ≤ second)
  have small : |((d % second : ℤ) : ℚ) / second| < 2 ^ 53 := (fraction_abs d).trans (by norm_num)
  constructor
  · have rounded := Binary64.le_nearest (n := 0) small (by simpa using nonneg)
    simpa [fraction] using rounded
  · have error := (abs_le.mp (fraction_error d)).2
    have below : ((d % second : ℤ) : ℚ) / second ≤ 1 - 1 / second := by
      have positive : (0 : ℚ) < second := by exact_mod_cast (by decide : 0 < second)
      rw [div_le_iff₀ positive, sub_mul, one_mul, div_mul_cancel₀ _ positive.ne']
      exact_mod_cast high
    have gap : (2 : ℚ) ^ (-54 : ℤ) < 1 / second := by
      norm_num [second]
    linarith

theorem seconds_eq (nonneg : 0 ≤ d) (range : d ≤ maxDuration) :
    seconds d = Binary64.nearest ((d / second : ℤ) + fraction d) := by
  have whole : Binary64.ofInt (d.tdiv second) = (d / second : ℤ) := by
    rw [Int.tdiv_eq_ediv_of_nonneg nonneg]
    apply Binary64.ofInt_eq
    rw [abs_of_nonneg (Int.ediv_nonneg nonneg (by decide))]
    unfold maxDuration at range
    unfold second
    omega
  have rest : Binary64.ofInt (d.tmod second) = (d % second : ℤ) := by
    rw [Int.tmod_eq_emod_of_nonneg nonneg]
    apply Binary64.ofInt_eq
    have low : 0 ≤ d % second := Int.emod_nonneg d (by decide)
    have high : d % second < second := Int.emod_lt_of_pos d (by decide)
    rw [abs_of_nonneg low]
    exact high.trans (by decide)
  unfold seconds Binary64.add Binary64.div fraction
  rw [whole, rest]

theorem whole_nonneg (nonneg : 0 ≤ d) : (0 : ℚ) ≤ (d / second : ℤ) := by
  exact_mod_cast Int.ediv_nonneg nonneg (by decide)

/-- The exact value of the sum `Duration.Seconds` rounds lies below the next power of two. -/
theorem sum_lt {k : ℕ} (nonneg : 0 ≤ d) (short : d < 2 ^ k * second) :
    |((d / second : ℤ) : ℚ) + fraction d| < 2 ^ k := by
  obtain ⟨low, high⟩ := fraction_between d
  have whole : d / second ≤ 2 ^ k - 1 := by
    have := Int.ediv_lt_of_lt_mul (by decide : 0 < second) short
    omega
  have bound : ((d / second : ℤ) : ℚ) ≤ 2 ^ k - 1 := by exact_mod_cast whole
  rw [abs_of_nonneg (add_nonneg (whole_nonneg nonneg) low)]
  linarith

theorem maxDuration_lt : maxDuration < 2 ^ 34 * second := by decide

/-- The whole seconds of a duration survive the reading. -/
theorem floor_le_seconds (nonneg : 0 ≤ d) (range : d ≤ maxDuration) : ((d / second : ℤ) : ℚ) ≤ seconds d := by
  have small := sum_lt nonneg (range.trans_lt maxDuration_lt)
  rw [seconds_eq nonneg range]
  apply Binary64.le_nearest (small.trans (by norm_num))
  have low := (fraction_between d).1
  linarith

theorem seconds_error {k : ℕ} (nonneg : 0 ≤ d) (range : d ≤ maxDuration) (short : d < 2 ^ k * second) :
    |seconds d - (d : ℚ) / second| ≤ 2 ^ ((k : ℤ) - 54) + 2 ^ (-54 : ℤ) := by
  have small : |((d / second : ℤ) : ℚ) + fraction d| < 2 ^ (k : ℤ) := by
    rw [zpow_natCast]
    exact sum_lt nonneg short
  have split : (d : ℚ) / second = (d / second : ℤ) + ((d % second : ℤ) : ℚ) / second := by
    have positive : (second : ℚ) ≠ 0 := by norm_num [second]
    rw [eq_comm, ← eq_sub_iff_add_eq', div_sub' positive]
    congr 1
    have := Int.mul_ediv_add_emod d second
    rw [eq_sub_iff_add_eq']
    exact_mod_cast this
  have rounded := Binary64.abs_nearest_sub_le small
  have error := fraction_error d
  rw [seconds_eq nonneg range, split]
  calc |Binary64.nearest ((d / second : ℤ) + fraction d) - ((d / second : ℤ) + ((d % second : ℤ) : ℚ) / second)|
      = |(Binary64.nearest ((d / second : ℤ) + fraction d) - ((d / second : ℤ) + fraction d)) +
          (fraction d - ((d % second : ℤ) : ℚ) / second)| := by
        congr 1
        ring
    _ ≤ _ := (abs_add_le _ _).trans (add_le_add rounded error)

theorem scale_error {x bound : ℚ} (error : |x - (d : ℚ) / second| ≤ bound) :
    |x * second - d| ≤ bound * second := by
  have positive : (0 : ℚ) < second := by norm_num [second]
  have split : x * second - d = (x - (d : ℚ) / second) * second := by
    rw [sub_mul, div_mul_cancel₀ _ positive.ne']
  rw [split, abs_mul, abs_of_pos positive]
  exact mul_le_mul_of_nonneg_right error positive.le

/-- A reading is off by less than a microsecond, and a short one by less than a nanosecond. -/
theorem seconds_near (nonneg : 0 ≤ d) (range : d ≤ maxDuration) : |seconds d * second - d| < 1000 := by
  have error := scale_error (seconds_error (k := 34) nonneg range (range.trans_lt maxDuration_lt))
  exact error.trans_lt (by norm_num [second])

theorem seconds_near_short (nonneg : 0 ≤ d) (short : d < longDuration) : |seconds d * second - d| < 1 := by
  have range : d ≤ maxDuration := short.le.trans (by decide)
  have error := scale_error (seconds_error (k := 24) nonneg range short)
  exact error.trans_lt (by norm_num [second])

/-- The whole seconds read off a duration: at most the duration, but for a microsecond
when it is long. -/
theorem toInt_seconds (nonneg : 0 ≤ d) (range : d ≤ maxDuration) :
    0 ≤ Binary64.toInt (seconds d) ∧ d < (Binary64.toInt (seconds d) + 1) * second ∧
      Binary64.toInt (seconds d) * second ≤ d + (if longDuration ≤ d then 1000 else 0) := by
  have whole := floor_le_seconds nonneg range
  have positive : (0 : ℚ) < second := by norm_num [second]
  have read_nonneg : 0 ≤ seconds d := (whole_nonneg nonneg).trans whole
  have floor : Binary64.toInt (seconds d) = ⌊seconds d⌋ := if_neg (not_lt.mpr read_nonneg)
  rw [floor]
  have kept : d / second ≤ ⌊seconds d⌋ := Int.le_floor.mpr whole
  have below : (⌊seconds d⌋ : ℚ) * second ≤ seconds d * second :=
    mul_le_mul_of_nonneg_right (Int.floor_le _) positive.le
  refine ⟨Int.floor_nonneg.mpr read_nonneg, ?_, ?_⟩
  · have rest := Int.emod_lt_of_pos d (by decide : 0 < second)
    have parts := Int.mul_ediv_add_emod d second
    unfold second at *
    omega
  · split
    · have near := (abs_lt.mp (seconds_near nonneg range)).2
      have bound : (⌊seconds d⌋ : ℚ) * second < d + 1000 := by linarith
      exact_mod_cast bound.le
    · rename_i short
      have near := (abs_lt.mp (seconds_near_short nonneg (not_le.mp short))).2
      have bound : (⌊seconds d⌋ : ℚ) * second < d + 1 := by linarith
      have bound : ⌊seconds d⌋ * second < d + 1 := by exact_mod_cast bound
      omega

end

/-! The pauses of a run. -/

/-- A completed pause, with the last block time it is measured from. -/
structure Pause where
  mark : ℤ
  began : ℤ
  ended : ℤ

/-- The completed pauses since the latest activation, and the mark and the beginning of
one that is still on. -/
structure Pauses where
  completed : List Pause
  pending : Option (ℤ × ℤ)

namespace Pauses

def none : Pauses := ⟨[], .none⟩

def note (now : ℤ) (step : Step) (s t : Store) (pauses : Pauses) : Pauses :=
  match step with
  | .activate _ => none
  | .reactivate _ => none
  | .pause _ _ =>
    match s.paused, t.paused, pauses.pending with
    | false, true, _ => { pauses with pending := some (s.lastBlockTime, now) }
    | true, false, some (mark, began) => ⟨⟨mark, began, now⟩ :: pauses.completed, .none⟩
    | _, _, _ => pauses
  | .updateParams _ _ => pauses
  | .fundPool _ _ => pauses
  | .beginBlock => pauses

/-- The time the module was paused. -/
def paused (pauses : Pauses) : ℤ := (pauses.completed.map fun pause => pause.ended - pause.began).sum

/-- The time that had passed since the last block when the pauses began. -/
def lead (pauses : Pauses) : ℤ := (pauses.completed.map fun pause => pause.began - pause.mark).sum

def long (pauses : Pauses) : ℕ :=
  pauses.completed.countP fun pause => decide (longDuration ≤ pause.ended - pause.mark)

end Pauses

/-- The clock of an activated module. The counted seconds are those of the pauses, less
than a second short for each, and within the range of a duration not too many. -/
structure Clock (s : Store) (pauses : Pauses) (now : ℤ) : Prop where
  started : s.activationTime ≤ s.lastBlockTime
  past : s.lastBlockTime ≤ now
  pending : s.paused = true → ∃ began, pauses.pending = some (s.lastBlockTime, began) ∧
    s.lastBlockTime ≤ began ∧ began ≤ now
  lead : 0 ≤ pauses.lead
  long : longDuration * pauses.long ≤ pauses.paused + pauses.lead
  fits : pauses.paused + pauses.lead ≤ s.lastBlockTime - s.activationTime
  counted : now - s.activationTime ≤ maxDuration →
    0 ≤ s.totalPausedSeconds ∧
    s.totalPausedSeconds * second ≤ 2 * (pauses.paused + pauses.lead) ∧
    pauses.paused + pauses.lead ≤ s.totalPausedSeconds * second + (second - 1) * pauses.completed.length ∧
    s.totalPausedSeconds * second ≤ pauses.paused + pauses.lead + 1000 * pauses.long

section

variable {env : SvipEnv} {s t : Store} {pauses : Pauses} {now time : ℤ}

theorem Clock.later (clock : Clock s pauses now) (later : now ≤ time) : Clock s pauses time := by
  refine ⟨clock.started, clock.past.trans later, ?_, clock.lead, clock.long, clock.fits, ?_⟩
  · intro on
    obtain ⟨began, pending, low, high⟩ := clock.pending on
    exact ⟨began, pending, low, high.trans later⟩
  · intro range
    exact clock.counted (by omega)

theorem timeSub_eq {u : ℤ} (past : u ≤ now) (range : now - u ≤ maxDuration) : timeSub now u = now - u := by
  unfold timeSub
  rw [min_eq_right range, max_eq_right]
  have := (by decide : minDuration ≤ 0)
  omega

theorem int64Add_eq {a b : ℤ} (nonneg : 0 ≤ a + b) (small : a + b < 2 ^ 63) : int64Add a b = a + b := by
  unfold int64Add
  apply Int.bmod_eq_of_le <;> omega

/-- The clock starts over. -/
theorem Clock.restarted (began : s.activationTime = now) (marked : s.lastBlockTime = now)
    (unpaused : s.paused = false) (uncounted : s.totalPausedSeconds = 0) : Clock s Pauses.none now := by
  refine ⟨by omega, by omega, ?_, ?_, ?_, ?_, ?_⟩
  · intro on
    cases unpaused.symm.trans on
  · exact le_refl 0
  · exact le_refl 0
  · rw [began, marked, sub_self]
    exact le_refl 0
  · intro _
    rw [uncounted]
    decide

theorem pausedGap_eq (past : s.lastBlockTime ≤ now) (range : now - s.lastBlockTime ≤ maxDuration) :
    s.pausedGap now = Binary64.toInt (seconds (now - s.lastBlockTime)) := by
  unfold pausedGap
  rw [timeSub_eq past range]

/-- The seconds a pause adds, and what they are worth. -/
theorem totalPaused_added (past : s.lastBlockTime ≤ now) (range : now - s.lastBlockTime ≤ maxDuration)
    (nonneg : 0 ≤ s.totalPausedSeconds) (small : s.totalPausedSeconds * second ≤ 2 * maxDuration) :
    ∃ gap, (if 0 < s.pausedGap now then int64Add s.totalPausedSeconds (s.pausedGap now)
        else s.totalPausedSeconds) = s.totalPausedSeconds + gap ∧
      0 ≤ gap ∧ now - s.lastBlockTime ≤ gap * second + (second - 1) ∧
      gap * second ≤ now - s.lastBlockTime + (if longDuration ≤ now - s.lastBlockTime then 1000 else 0) := by
  have elapsed : 0 ≤ now - s.lastBlockTime := by omega
  obtain ⟨gap_nonneg, low, high⟩ := toInt_seconds elapsed range
  rw [pausedGap_eq past range]
  refine ⟨_, ?_, gap_nonneg, ?_, high⟩
  · split
    · apply int64Add_eq
      · omega
      · have slack : (if longDuration ≤ now - s.lastBlockTime then 1000 else 0) ≤ (1000 : ℤ) := by
          split <;> decide
        unfold maxDuration at range small
        unfold second at *
        omega
    · omega
  · unfold second at *
    omega

/-- A pause that ends is counted from the last block time. -/
theorem Clock.unpaused (clock : Clock s pauses now) (was : s.paused = true) (result : t = { s with
      paused := false
      totalPausedSeconds :=
        if 0 < s.pausedGap now then int64Add s.totalPausedSeconds (s.pausedGap now)
        else s.totalPausedSeconds
      lastBlockTime := now }) (authority : String) :
    Clock t (pauses.note now (.pause authority false) s t) now := by
  obtain ⟨began, pending, low, high⟩ := clock.pending was
  have noted : pauses.note now (.pause authority false) s t =
      ⟨⟨s.lastBlockTime, began, now⟩ :: pauses.completed, .none⟩ := by
    unfold Pauses.note
    rw [was, pending, result]
  have fits := clock.fits
  have past := clock.past
  have started := clock.started
  have paused : (pauses.note now (.pause authority false) s t).paused = now - began + pauses.paused := by
    rw [noted]
    rfl
  have lead : (pauses.note now (.pause authority false) s t).lead = began - s.lastBlockTime + pauses.lead := by
    rw [noted]
    rfl
  have long : (pauses.note now (.pause authority false) s t).long =
      pauses.long + if longDuration ≤ now - s.lastBlockTime then 1 else 0 := by
    rw [noted]
    unfold Pauses.long
    rw [List.countP_cons]
    simp only [decide_eq_true_eq]
  have count : (pauses.note now (.pause authority false) s t).completed.length = pauses.completed.length + 1 := by
    rw [noted]
    rfl
  have activation : t.activationTime = s.activationTime := by rw [result]
  have marked : t.lastBlockTime = now := by rw [result]
  have off : t.paused = false := by rw [result]
  have total : t.totalPausedSeconds = if 0 < s.pausedGap now then
      int64Add s.totalPausedSeconds (s.pausedGap now) else s.totalPausedSeconds := by rw [result]
  have lead_nonneg := clock.lead
  have longs := clock.long
  refine ⟨by omega, by omega, ?_, by omega, ?_, by omega, ?_⟩
  · intro on
    cases off.symm.trans on
  · rw [paused, lead, long]
    push_cast
    rw [mul_add]
    split <;> omega
  · intro range
    rw [activation] at range
    obtain ⟨nonneg, double, short, above⟩ := clock.counted range
    obtain ⟨gap, added, gap_nonneg, gap_low, gap_high⟩ :=
      totalPaused_added past (by omega) nonneg (by omega)
    have twice : gap * second ≤ 2 * (now - s.lastBlockTime) := by
      have := (by decide : 1000 ≤ longDuration)
      split at gap_high <;> omega
    rw [total, added, paused, lead, long, count]
    push_cast
    refine ⟨by omega, ?_, ?_, ?_⟩
    · rw [add_mul]
      omega
    · rw [add_mul, mul_add]
      omega
    · rw [add_mul, mul_add]
      by_cases wide : longDuration ≤ now - s.lastBlockTime
      · rw [if_pos wide] at gap_high ⊢
        omega
      · rw [if_neg wide] at gap_high ⊢
        omega

/-- A message that does not end a pause may begin one. -/
theorem Clock.flagged (clock : Clock s pauses now) {paused : Bool} (quiet : s.paused = true → paused = true)
    (result : t = { s with paused := paused }) (authority : String) :
    Clock t (pauses.note now (.pause authority paused) s t) now := by
  subst result
  cases was : s.paused with
  | true =>
    have still := quiet was
    subst still
    have noted : pauses.note now (.pause authority true) s { s with paused := true } = pauses := by
      unfold Pauses.note
      rw [was]
    rw [noted]
    exact ⟨clock.started, clock.past, fun _ => clock.pending was, clock.lead, clock.long, clock.fits, clock.counted⟩
  | false =>
    cases paused with
    | false =>
      have noted : pauses.note now (.pause authority false) s { s with paused := false } = pauses := by
        unfold Pauses.note
        rw [was]
      rw [noted]
      exact ⟨clock.started, clock.past, nofun, clock.lead, clock.long, clock.fits, clock.counted⟩
    | true =>
      have noted : pauses.note now (.pause authority true) s { s with paused := true } =
          { pauses with pending := some (s.lastBlockTime, now) } := by
        unfold Pauses.note
        rw [was]
      rw [noted]
      refine ⟨clock.started, clock.past, ?_, clock.lead, clock.long, clock.fits, clock.counted⟩
      intro _
      exact ⟨now, rfl, clock.past, le_refl now⟩

/-- A block that pays or finds nothing to pay moves the mark. -/
theorem Clock.marked (clock : Clock s pauses now) (unpaused : t.paused = false)
    (activation : t.activationTime = s.activationTime) (marked : t.lastBlockTime = now)
    (total : t.totalPausedSeconds = s.totalPausedSeconds) : Clock t pauses now := by
  have started := clock.started
  have past := clock.past
  have fits := clock.fits
  refine ⟨by omega, by omega, ?_, clock.lead, clock.long, by omega, ?_⟩
  · intro on
    cases unpaused.symm.trans on
  · rw [activation, total]
    exact clock.counted

/-- Step: the clock keeps counting. -/
theorem Clock.effect {step : Step} (before : s.activated = true → Clock s pauses now) (later : now ≤ time)
    (effect : Effect env time s step t) (on : t.activated = true) : Clock t (pauses.note time step s t) time := by
  cases effect with
  | paramsSet authority halfLifeSeconds _ result =>
    subst result
    have clock := (before on).later later
    exact ⟨clock.started, clock.past, clock.pending, clock.lead, clock.long, clock.fits, clock.counted⟩
  | activated authority _ off result =>
    subst result
    exact Clock.restarted rfl rfl rfl rfl
  | reactivated authority _ on result =>
    subst result
    exact Clock.restarted rfl rfl rfl rfl
  | unpaused authority _ on was result => exact ((before on).later later).unpaused was result authority
  | flagged authority paused _ on quiet result => exact ((before on).later later).flagged quiet result authority
  | funded depositor sender amount _ known valid result =>
    subst result
    have clock := (before on).later later
    exact ⟨clock.started, clock.past, clock.pending, clock.lead, clock.long, clock.fits, clock.counted⟩
  | skipped exit => exact (before on).later later
  | marked _ ticks result =>
    subst result
    exact ((before ticks.activated).later later).marked ticks.unpaused rfl rfl rfl
  | paid reward _ ticks positive covered result =>
    subst result
    exact ((before ticks.activated).later later).marked ticks.unpaused rfl rfl rfl

/-- Run: an activated module has a running clock. -/
theorem Run.clock {start : Store} (run : Run env Pauses.note start Pauses.none s pauses now)
    (inactive : start.activated = false) : s.activated = true → Clock s pauses now := by
  induction run with
  | started now =>
    intro on
    cases inactive.symm.trans on
  | done before time later step success ih => exact Clock.effect ih later (exec_effect success)
  | failed before time later step error failure ih => exact fun on => (ih on).later later
  | elsewhere before bank balance locked ih =>
    intro on
    have clock := ih on
    exact ⟨clock.started, clock.past, clock.pending, clock.lead, clock.long, clock.fits, clock.counted⟩

/-! What a block reads off the clock. -/

theorem seconds_zero : seconds 0 = 0 := by decide +kernel

/-- Only a later block sees time pass since the last one. -/
theorem lt_of_blockDelta (past : s.lastBlockTime ≤ now) (delta : 0 < s.blockDelta now) : s.lastBlockTime < now := by
  by_contra same
  have same : s.lastBlockTime = now := le_antisymm past (not_lt.mp same)
  unfold blockDelta at delta
  rw [same, timeSub_eq (le_refl now) (by rw [sub_self]; decide), sub_self, seconds_zero] at delta
  exact lt_irrefl 0 delta

section

variable (clock : Clock s pauses now) (range : now - s.activationTime ≤ maxDuration)

include clock range

theorem Clock.totalPaused_small : 0 ≤ s.totalPausedSeconds ∧ s.totalPausedSeconds < 2 ^ 35 := by
  obtain ⟨nonneg, double, -, -⟩ := clock.counted range
  have fits := clock.fits
  have past := clock.past
  refine ⟨nonneg, ?_⟩
  unfold maxDuration at range
  unfold second at double
  omega

theorem Clock.totalElapsed_eq :
    s.totalElapsed now = Binary64.nearest (seconds (now - s.activationTime) - s.totalPausedSeconds) := by
  obtain ⟨nonneg, small⟩ := clock.totalPaused_small range
  have started := clock.started
  have past := clock.past
  have exact_ : Binary64.ofInt s.totalPausedSeconds = s.totalPausedSeconds := by
    apply Binary64.ofInt_eq
    rw [abs_of_nonneg nonneg]
    exact small.trans (by norm_num)
  unfold totalElapsed Binary64.sub
  rw [timeSub_eq (by omega) range, exact_]

/-- The fed time is within three microseconds of the wall time less the counted seconds. -/
theorem Clock.totalElapsed_near :
    |s.totalElapsed now * second - ((now - s.activationTime : ℤ) - s.totalPausedSeconds * second)| < 3000 := by
  obtain ⟨nonneg, small⟩ := clock.totalPaused_small range
  have started := clock.started
  have past := clock.past
  have wall : 0 ≤ now - s.activationTime := by omega
  have unit : (second : ℚ) = 10 ^ 9 := by norm_num [second]
  have top : ((now - s.activationTime : ℤ) : ℚ) ≤ 2 ^ 63 - 1 := by exact_mod_cast range
  have counted : (0 : ℚ) ≤ s.totalPausedSeconds ∧ (s.totalPausedSeconds : ℚ) < 2 ^ 35 :=
    ⟨by exact_mod_cast nonneg, by exact_mod_cast small⟩
  have read_nonneg : 0 ≤ seconds (now - s.activationTime) := (whole_nonneg wall).trans (floor_le_seconds wall range)
  obtain ⟨read_low, read_high⟩ := abs_lt.mp (seconds_near wall range)
  rw [unit] at read_low read_high ⊢
  -- two roundings: of the wall time, and of the difference
  have bounded : |seconds (now - s.activationTime) - s.totalPausedSeconds| < 2 ^ (35 : ℤ) := by
    rw [abs_lt]
    constructor <;> norm_num <;> linarith
  obtain ⟨low, high⟩ := abs_le.mp (Binary64.abs_nearest_sub_le bounded)
  have ulp : (2 : ℚ) ^ ((35 : ℤ) - 54) = 1 / 524288 := by norm_num
  rw [ulp] at low high
  rw [clock.totalElapsed_eq range, abs_lt]
  constructor <;> linarith

/-- The exit for a clock at zero, once the last block is past, needs a long run and the
next microsecond. -/
theorem Clock.exit_near (delta : 0 < s.blockDelta now) (none_elapsed : s.totalElapsed now ≤ 0) :
    longDuration ≤ now - s.activationTime ∧ now < s.lastBlockTime + 1000 * (pauses.long + 1) := by
  have started := clock.started
  have fits := clock.fits
  have longs := clock.long
  have passed := lt_of_blockDelta clock.past delta
  obtain ⟨-, -, -, above⟩ := clock.counted range
  have wall : 0 ≤ now - s.activationTime := by omega
  have unit : (0 : ℚ) < second := by norm_num [second]
  have read : seconds (now - s.activationTime) * second ≤ s.totalPausedSeconds * second := by
    apply mul_le_mul_of_nonneg_right _ unit.le
    by_contra more
    have positive := Binary64.nearest_pos (sub_pos.mpr (not_le.mp more))
    rw [← clock.totalElapsed_eq range] at positive
    exact absurd none_elapsed (not_le.mpr positive)
  have near : now - s.activationTime < s.totalPausedSeconds * second + 1000 := by
    have low := (abs_lt.mp (seconds_near wall range)).1
    have bound : ((now - s.activationTime : ℤ) : ℚ) < s.totalPausedSeconds * second + 1000 := by linarith
    exact_mod_cast bound
  refine ⟨?_, by omega⟩
  by_contra short
  have low := (abs_lt.mp (seconds_near_short wall (not_le.mp short))).1
  have bound : ((now - s.activationTime : ℤ) : ℚ) < s.totalPausedSeconds * second + 1 := by linarith
  have bound : now - s.activationTime < s.totalPausedSeconds * second + 1 := by exact_mod_cast bound
  have no_long : pauses.long = 0 := by
    unfold longDuration second at *
    omega
  rw [no_long] at above
  omega

end

/-- In every run from the default genesis, within the range of a duration: the counted
pauses end before the last block, a later block finds time elapsed, and the time it feeds
to the reward is the wall time without the pauses. Exceptions are the microseconds that
floating point loses on long durations, and what had passed since the last block when a
pause began. -/
theorem elapsed_pauseAdjusted {bank : BankState}
    (run : Run env Pauses.note (initGenesis defaultGenesisState bank) Pauses.none s pauses now)
    (on : s.activated = true) (later : now ≤ time) (range : time - s.activationTime ≤ maxDuration) :
    (s.activationTime + s.totalPausedSeconds * second ≤ s.lastBlockTime + 1000 * pauses.long ∧
      s.lastBlockTime ≤ now) ∧
    (0 < s.blockDelta time → s.totalElapsed time ≤ 0 →
      longDuration ≤ time - s.activationTime ∧ time < s.lastBlockTime + 1000 * (pauses.long + 1)) ∧
    0 ≤ pauses.lead ∧
    ((time - s.activationTime - pauses.paused - pauses.lead - 1000 * pauses.long - 3000 : ℤ) : ℚ) ≤
      s.totalElapsed time * second ∧
    s.totalElapsed time * second ≤
      ((time - s.activationTime - pauses.paused - pauses.lead +
        (second - 1) * pauses.completed.length + 3000 : ℤ) : ℚ) := by
  have clock := run.clock rfl on
  have current := clock.later later
  obtain ⟨-, -, short, above⟩ := current.counted range
  have fits := clock.fits
  obtain ⟨low, high⟩ := abs_lt.mp (current.totalElapsed_near range)
  refine ⟨⟨by omega, clock.past⟩, current.exit_near range, clock.lead, ?_, ?_⟩
  · have bound : ((time - s.activationTime - pauses.paused - pauses.lead - 1000 * pauses.long - 3000 : ℤ) : ℚ) ≤
        ((time - s.activationTime - s.totalPausedSeconds * second - 3000 : ℤ) : ℚ) := by
      exact_mod_cast (by omega)
    push_cast at bound low ⊢
    linarith
  · have bound : ((time - s.activationTime - s.totalPausedSeconds * second + 3000 : ℤ) : ℚ) ≤
        ((time - s.activationTime - pauses.paused - pauses.lead +
          (second - 1) * pauses.completed.length + 3000 : ℤ) : ℚ) := by
      exact_mod_cast (by omega)
    push_cast at bound high ⊢
    linarith

end

/-! Runs in which the clock falls behind. -/

def newYear : ℤ := 63871286400 * second

def genesisRun : Store × Pauses := (initGenesis defaultGenesisState (pooledBank poolEnv), Pauses.none)

/-- The states of runs of the module from its default genesis. -/
def PoolRun (state : Store × Pauses) (now : ℤ) : Prop :=
  Run poolEnv Pauses.note (initGenesis defaultGenesisState (pooledBank poolEnv)) Pauses.none state.1 state.2 now

def activatedRun : Store × Pauses :=
  advance poolEnv Pauses.note newYear (.activate "gov")
    (advance poolEnv Pauses.note newYear (.updateParams "gov" 31536000) genesisRun)

def pausedRun (began ended : ℤ) : Store × Pauses :=
  advance poolEnv Pauses.note ended (.pause "gov" false)
    (advance poolEnv Pauses.note began (.pause "gov" true) activatedRun)

theorem activatedRun_run : PoolRun activatedRun newYear := by
  have start : PoolRun genesisRun newYear := .started newYear
  exact (Run.advance start (le_refl _) _).advance (le_refl _) _

theorem pausedRun_run {began ended : ℤ} (after : newYear ≤ began) (ordered : began ≤ ended) :
    PoolRun (pausedRun began ended) ended :=
  (Run.advance activatedRun_run after _).advance ordered _

theorem elapsed_pauseAdjusted_pausedRun :
    (pausedRun newYear (newYear + 10 * second)).1.activationTime + 10 * second ≤
      (pausedRun newYear (newYear + 10 * second)).1.lastBlockTime := by
  have bounds := elapsed_pauseAdjusted (pausedRun_run (le_refl newYear) (by decide : newYear ≤ newYear + 10 * second))
    (by decide +kernel) (le_refl _) (by decide +kernel)
  have counted : (pausedRun newYear (newYear + 10 * second)).1.totalPausedSeconds = 10 := by decide +kernel
  have short : (pausedRun newYear (newYear + 10 * second)).2.long = 0 := by decide +kernel
  have ended := bounds.1.1
  rw [counted, short] at ended
  omega

/-- Three runs: a pause ten seconds after the last block takes ten active seconds with it;
a pause of `2 ^ 24` seconds and almost one more is counted as one more, and the clock
stands still although the last block is past; and after the range of a duration, 292
years, the clock stops. -/
theorem elapsed_behind :
    (∃ state, PoolRun state (newYear + 20 * second) ∧ state.1.activated = true ∧
      state.1.totalElapsed (newYear + 21 * second) = 1 ∧
      newYear + 21 * second - state.1.activationTime - state.2.paused = 11 * second) ∧
    (∃ state, PoolRun state (newYear + longDuration + 999999999) ∧ state.1.activated = true ∧
      state.1.lastBlockTime < state.1.activationTime + state.1.totalPausedSeconds * second ∧
      0 < state.1.blockDelta (newYear + longDuration + second) ∧
      state.1.totalElapsed (newYear + longDuration + second) ≤ 0) ∧
    ∃ state, PoolRun state newYear ∧ state.1.activated = true ∧ state.2.paused = 0 ∧
      state.1.activationTime = newYear ∧
      state.1.totalElapsed (newYear + 2 ^ 63 + 10 * second) * second < 2 ^ 63 + second := by
  refine ⟨⟨_, pausedRun_run (by decide) (by decide : newYear + 10 * second ≤ newYear + 20 * second), ?_⟩,
    ⟨_, pausedRun_run (le_refl newYear) (by decide : newYear ≤ newYear + longDuration + 999999999), ?_⟩,
    ⟨_, activatedRun_run, ?_⟩⟩
  · decide +kernel
  · decide +kernel
  · decide +kernel

end OgEvm.Svip
