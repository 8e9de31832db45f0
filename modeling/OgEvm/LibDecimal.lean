import Mathlib.Tactic

/- Fixed-point numbers with eighteen digits behind the point, kept as the integer
count of the last digit. -/
namespace Decimals

structure Decimal where
  raw : ℤ
  deriving DecidableEq, Repr

namespace Decimal

def precision : ℤ := 10 ^ 18

def zero : Decimal := ⟨0⟩

variable (d : Decimal) (first second : Decimal) (n : ℤ)

def ofInt : Decimal := ⟨n * precision⟩

/-- Cut the digits behind the point off, towards zero. -/
def truncateInt : ℤ := d.raw.tdiv precision

/-- Drop eighteen digits of a magnitude, a half going to the even neighbour. -/
def chopMagnitude (magnitude : ℕ) : ℕ :=
  let quotient := magnitude / 10 ^ 18
  let remainder := magnitude % 10 ^ 18
  if remainder < 5 * 10 ^ 17 then quotient
  else if 5 * 10 ^ 17 < remainder then quotient + 1
  else if quotient % 2 = 0 then quotient
  else quotient + 1

def chop (raw : ℤ) : ℤ := raw.sign * (chopMagnitude raw.natAbs : ℤ)

def mul : Decimal := ⟨chop (first.raw * second.raw)⟩

/-- All eighteen digits are printed. -/
def toText : String :=
  let digits := toString (d.raw.natAbs % 10 ^ 18)
  (if d.raw < 0 then "-" else "") ++ toString (d.raw.natAbs / 10 ^ 18) ++ "." ++
    String.ofList (List.replicate (18 - digits.length) '0') ++ digits

/-- Times a whole number; nothing is rounded. -/
def mulInt : Decimal := ⟨d.raw * n⟩

/-- By a whole number, cut towards zero. -/
def quoInt : Decimal := ⟨d.raw.tdiv n⟩

def add : Decimal := ⟨first.raw + second.raw⟩

def sub : Decimal := ⟨first.raw - second.raw⟩

/-- The larger of two. -/
def max : Decimal := if first.raw < second.raw then second else first

/-- The smaller of two. -/
def min : Decimal := if first.raw < second.raw then first else second

/-- The least whole number that is not below. -/
def ceilInt : ℤ :=
  if 0 < d.raw.tmod precision then d.raw.tdiv precision + 1 else d.raw.tdiv precision

def ceil : Decimal := ofInt d.ceilInt

/-- To the nearest whole number, a half going to the even one. -/
def roundInt : ℤ := chop d.raw

@[simp] theorem truncateInt_ofInt (n : ℤ) : (ofInt n).truncateInt = n :=
  Int.mul_tdiv_cancel n (by norm_num [precision])

theorem chopMagnitude_mul (n : ℕ) : chopMagnitude (n * 10 ^ 18) = n := by
  unfold chopMagnitude
  rw [Nat.mul_mod_left, Nat.mul_div_cancel n (by norm_num)]
  rfl

theorem chop_mul (z : ℤ) : chop (z * precision) = z := by
  have size : (z * precision).natAbs = z.natAbs * 10 ^ 18 := by
    rw [Int.natAbs_mul]
    rfl
  have sign : (z * precision).sign = z.sign := by
    rw [Int.sign_mul]
    exact mul_one z.sign
  rw [chop, size, sign, chopMagnitude_mul, Int.sign_mul_natAbs]

/-- A whole factor needs no rounding. -/
theorem mul_ofInt (n : ℤ) (d : Decimal) : (ofInt n).mul d = ⟨n * d.raw⟩ := by
  have product : n * precision * d.raw = (n * d.raw) * precision := by ring
  unfold mul ofInt
  dsimp only
  rw [product, chop_mul]

theorem mul_comm (first second : Decimal) : first.mul second = second.mul first := by
  rw [mul, mul, Int.mul_comm]

@[simp] theorem roundInt_ceil (d : Decimal) : d.ceil.roundInt = d.ceilInt := chop_mul _

theorem ceilInt_le_iff (d : Decimal) (n : ℤ) : d.ceilInt ≤ n ↔ d.raw ≤ n * precision := by
  have whole := Int.mul_tdiv_add_tmod d.raw precision
  have below := Int.tmod_lt_of_pos d.raw (show (0 : ℤ) < precision by decide)
  have above := Int.lt_tmod_of_pos d.raw (show (0 : ℤ) < precision by decide)
  unfold ceilInt
  generalize d.raw.tdiv precision = quotient at *
  generalize d.raw.tmod precision = remainder at *
  unfold precision at *
  split <;> omega

theorem ceilInt_mono {first second : Decimal} (order : first.raw ≤ second.raw) : first.ceilInt ≤ second.ceilInt :=
  (ceilInt_le_iff _ _).mpr (order.trans ((ceilInt_le_iff _ _).mp le_rfl))

theorem quoInt_nonneg {d : Decimal} (nonneg : 0 ≤ d.raw) (n : ℤ) : (d.quoInt n).raw = d.raw / n :=
  Int.tdiv_eq_ediv_of_nonneg nonneg

theorem max_raw (first second : Decimal) : (first.max second).raw = Max.max first.raw second.raw := by
  unfold max
  split
  · rename_i less
    rw [max_eq_right less.le]
  · rename_i least
    rw [max_eq_left (not_lt.mp least)]

theorem min_raw (first second : Decimal) : (first.min second).raw = Min.min first.raw second.raw := by
  unfold min
  split
  · rename_i less
    rw [min_eq_left less.le]
  · rename_i least
    rw [min_eq_right (not_lt.mp least)]

theorem truncateInt_nonneg {d : Decimal} (nonneg : 0 ≤ d.raw) : d.truncateInt = d.raw / precision :=
  Int.tdiv_eq_ediv_of_nonneg nonneg

/-- The larger of a whole number and a decimal, cut to a whole number. -/
theorem truncateInt_max {n : ℤ} {d : Decimal} (nonneg : 0 ≤ d.raw) :
    ((ofInt n).max d).truncateInt = Max.max n d.truncateInt := by
  have positive : (0 : ℤ) < precision := by norm_num [precision]
  rw [truncateInt_nonneg nonneg]
  unfold max
  split
  · rename_i less
    have above : n ≤ d.raw / precision := (Int.le_ediv_iff_mul_le positive).mpr (le_of_lt less)
    rw [truncateInt_nonneg nonneg, max_eq_right above]
  · rename_i least
    have below : d.raw / precision ≤ n := by
      have bound : d.raw ≤ n * precision := not_lt.mp least
      exact Int.ediv_le_of_le_mul positive bound
    rw [truncateInt_ofInt, max_eq_left below]

end Decimal

end Decimals
