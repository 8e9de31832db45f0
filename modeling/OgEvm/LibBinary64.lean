import Mathlib.Data.Int.Log
import Mathlib.Algebra.Order.Floor.Ring
import Mathlib.Data.Rat.Floor
import Mathlib.Tactic.Linarith
import Mathlib.Tactic.NormNum
import Mathlib.Tactic.FieldSimp

/- Binary floating point with 53 significant bits as rounding of rationals: to the
nearest value, ties to the even one. The exponent is unbounded, so this is binary64
wherever nothing overflows and nothing is subnormal. -/
namespace Binary64

def roundInt (x : ℚ) : ℤ :=
  let below := ⌊x⌋
  if x - below < 1 / 2 then below
  else if 1 / 2 < x - below then below + 1
  else below + below % 2

/-- The exponent of the unit in the last place of a value. -/
def exponent (x : ℚ) : ℤ := Int.log 2 |x| - 52

def nearest (x : ℚ) : ℚ := roundInt (x / 2 ^ exponent x) * 2 ^ exponent x

def ofInt (n : ℤ) : ℚ := nearest n

def add (x y : ℚ) : ℚ := nearest (x + y)

def sub (x y : ℚ) : ℚ := nearest (x - y)

def div (x y : ℚ) : ℚ := nearest (x / y)

/-- Conversion to an integer drops the fraction. -/
def toInt (x : ℚ) : ℤ := if x < 0 then ⌈x⌉ else ⌊x⌋

variable {n : ℤ} {x : ℚ}

theorem roundInt_between (x : ℚ) : ⌊x⌋ ≤ roundInt x ∧ roundInt x ≤ ⌊x⌋ + 1 := by
  unfold roundInt
  dsimp only
  split_ifs <;> omega

theorem abs_roundInt_sub_le (x : ℚ) : |roundInt x - x| ≤ 1 / 2 := by
  have low := Int.floor_le x
  have high := Int.lt_floor_add_one x
  have parity : (0 : ℚ) ≤ (⌊x⌋ % 2 : ℤ) ∧ ((⌊x⌋ % 2 : ℤ) : ℚ) ≤ 1 := by
    constructor
    · exact_mod_cast (by omega : 0 ≤ ⌊x⌋ % 2)
    · exact_mod_cast (by omega : ⌊x⌋ % 2 ≤ 1)
  unfold roundInt
  dsimp only
  split_ifs <;> rw [abs_le] <;> push_cast <;> constructor <;> linarith [parity.1, parity.2]

theorem le_roundInt (le : n ≤ x) : n ≤ roundInt x :=
  (Int.le_floor.mpr le).trans (roundInt_between x).1

theorem roundInt_le (le : x ≤ n) : roundInt x ≤ n := by
  have between := roundInt_between x
  rcases lt_or_eq_of_le le with below | whole
  · have floor : ⌊x⌋ < n := Int.floor_lt.mpr below
    omega
  · subst whole
    simp [roundInt]

theorem pow_exponent_pos (x : ℚ) : (0 : ℚ) < 2 ^ exponent x := zpow_pos (by norm_num) _

theorem nearest_zero : nearest 0 = 0 := by
  have zero : roundInt 0 = 0 := by decide +kernel
  simp [nearest, zero]

theorem exponent_le {k : ℤ} (nonzero : x ≠ 0) (small : |x| < 2 ^ k) : exponent x ≤ k - 53 := by
  have log : Int.log 2 |x| < k := (Int.lt_zpow_iff_log_lt (by norm_num) (abs_pos.mpr nonzero)).mp small
  unfold exponent
  omega

/-- The rounding error is at most half a unit in the last place. -/
theorem abs_nearest_sub_le {k : ℤ} (small : |x| < 2 ^ k) : |nearest x - x| ≤ 2 ^ (k - 54) := by
  by_cases zero : x = 0
  · subst zero
    rw [nearest_zero, sub_zero, abs_zero]
    exact (zpow_pos (by norm_num) _).le
  · have unit := pow_exponent_pos x
    have split : nearest x - x = (roundInt (x / 2 ^ exponent x) - x / 2 ^ exponent x) * 2 ^ exponent x := by
      unfold nearest
      field_simp
    calc |nearest x - x| = |roundInt (x / 2 ^ exponent x) - x / 2 ^ exponent x| * 2 ^ exponent x := by
          rw [split, abs_mul, abs_of_pos unit]
      _ ≤ 1 / 2 * 2 ^ exponent x := mul_le_mul_of_nonneg_right (abs_roundInt_sub_le _) unit.le
      _ ≤ 1 / 2 * 2 ^ (k - 53) :=
          mul_le_mul_of_nonneg_left (zpow_le_zpow_right₀ (by norm_num) (exponent_le zero small)) (by norm_num)
      _ = 2 ^ (k - 54) := by
          rw [show k - 53 = k - 54 + 1 by omega, zpow_add_one₀ (by norm_num)]
          ring

/-- Below `2 ^ 53` an integer is a whole number of units in the last place. -/
theorem intCast_div_exponent (nonzero : x ≠ 0) (small : |x| < 2 ^ 53) (n : ℤ) :
    ∃ units : ℤ, (n : ℚ) / 2 ^ exponent x = units := by
  have exponent_nonpos : exponent x ≤ 0 := by
    have := exponent_le (k := 53) nonzero (by exact_mod_cast small)
    omega
  obtain ⟨shift, shift_eq⟩ := Int.eq_ofNat_of_zero_le (neg_nonneg.mpr exponent_nonpos)
  refine ⟨n * 2 ^ shift, ?_⟩
  rw [show exponent x = -(shift : ℤ) by omega, zpow_neg, zpow_natCast, div_inv_eq_mul]
  push_cast
  ring

theorem le_nearest (small : |x| < 2 ^ 53) (le : n ≤ x) : n ≤ nearest x := by
  by_cases zero : x = 0
  · subst zero
    rwa [nearest_zero]
  · obtain ⟨units, whole⟩ := intCast_div_exponent zero small n
    have unit := pow_exponent_pos x
    have rounded : units ≤ roundInt (x / 2 ^ exponent x) := by
      apply le_roundInt
      rw [← whole]
      exact div_le_div_of_nonneg_right le unit.le
    unfold nearest
    rw [← div_le_iff₀ unit, whole]
    exact_mod_cast rounded

theorem nearest_le (small : |x| < 2 ^ 53) (le : x ≤ n) : nearest x ≤ n := by
  by_cases zero : x = 0
  · subst zero
    rwa [nearest_zero]
  · obtain ⟨units, whole⟩ := intCast_div_exponent zero small n
    have unit := pow_exponent_pos x
    have rounded : roundInt (x / 2 ^ exponent x) ≤ units := by
      apply roundInt_le
      rw [← whole]
      exact div_le_div_of_nonneg_right le unit.le
    unfold nearest
    rw [← le_div_iff₀ unit, whole]
    exact_mod_cast rounded

theorem ofInt_eq (small : |n| < 2 ^ 53) : ofInt n = n := by
  have small' : |(n : ℚ)| < 2 ^ 53 := by exact_mod_cast small
  exact le_antisymm (nearest_le small' le_rfl) (le_nearest small' le_rfl)

/-- Rounding keeps the sign. -/
theorem nearest_pos (pos : 0 < x) : 0 < nearest x := by
  have unit := pow_exponent_pos x
  have low : (2 : ℚ) ^ (exponent x + 52) ≤ x := by
    have log := Int.zpow_log_le_self (b := 2) (by norm_num) pos
    have shift : exponent x + 52 = Int.log 2 x := by
      unfold exponent
      rw [abs_of_pos pos]
      omega
    rw [shift]
    exact_mod_cast log
  have units : (1 : ℤ) ≤ roundInt (x / 2 ^ exponent x) := by
    apply le_roundInt
    rw [le_div_iff₀ unit]
    calc ((1 : ℤ) : ℚ) * 2 ^ exponent x ≤ 2 ^ (exponent x + 52) := by
          push_cast
          rw [one_mul]
          exact zpow_le_zpow_right₀ (by norm_num) (by omega)
      _ ≤ x := low
  exact mul_pos (by exact_mod_cast (by omega : 0 < roundInt (x / 2 ^ exponent x))) unit

end Binary64
