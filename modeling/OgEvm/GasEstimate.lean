import OgEvm.StateTransition

/- The search of `EstimateGas`. Its lower bound starts at the gas used by a run with the full
limit less one, a limit that may well be enough. -/
namespace OgEvm.Vm

/-- What a run with a gas limit comes to. There is no response if the limit does not cover the
intrinsic gas. -/
inductive Attempt where
  | failed (rsp : Option Response)
  | passed (rsp : Response)

structure EstimateGasResponse where
  gas : UInt64
  ret : Bytes
  vmError : String

section

variable (executable : UInt64 → Except String Attempt)

/-- The limit that is tried next, on the low side of the middle. -/
def midpoint (lo hi : UInt64) : UInt64 :=
  if lo * 2 < lo + (hi - lo) / 2 then lo * 2 else lo + (hi - lo) / 2

/-- `BinSearch`, which goes on for so many turns; the ratio of floats is compared exactly. -/
def binSearch : ℕ → UInt64 → UInt64 → Option (Except String UInt64)
  | 0, _, _ => none
  | turns + 1, lo, hi =>
    if lo + 1 < hi then
      if 1000 * (hi - lo).toNat < 15 * hi.toNat then some (.ok hi)
      else
        match executable (midpoint lo hi) with
        | .error err => some (.error err)
        | .ok (.failed _) => binSearch turns (midpoint lo hi) hi
        | .ok (.passed _) => binSearch turns lo (midpoint lo hi)
    else some (.ok hi)

/-- `(result.MaxUsedGas + ethparams.CallStipend) * 64 / 63`. -/
def optimisticGasLimit (result : Response) : UInt64 := (result.maxUsedGas + 2300) * 64 / 63

/-- The bounds after the optimistic limit has been tried. -/
def optimisticBounds (lo hi optimistic : UInt64) : Except String (UInt64 × UInt64) :=
  if optimistic < hi then
    match executable optimistic with
    | .error err => .error err
    | .ok (.failed _) => .ok (optimistic, hi)
    | .ok (.passed _) => .ok (lo, optimistic)
  else .ok (lo, hi)

/-- The answer if the highest limit does not do. -/
def exceedsAllowance (gasCap hi : UInt64) (result : Option Response) : Except String EstimateGasResponse :=
  let exceeds := "gas required exceeds allowance (" ++ toString hi.toNat ++ ")"
  match result with
  | none => .error exceeds
  | some rsp =>
    if hi = gasCap ∧ rsp.vmError ≠ "out of gas" then
      if rsp.vmError = "execution reverted" then .ok ⟨0, rsp.ret, rsp.vmError⟩ else .error rsp.vmError
    else .error exceeds

/-- `EstimateGas` from its first run on. -/
def estimateGas (turns : ℕ) (gasCap hi : UInt64) : Option (Except String EstimateGasResponse) :=
  match executable hi with
  | .error err => some (.error err)
  | .ok (.failed result) => some (exceedsAllowance gasCap hi result)
  | .ok (.passed result) =>
    match optimisticBounds executable (result.gasUsed - 1) hi (optimisticGasLimit result) with
    | .error err => some (.error err)
    | .ok (lo, hi) => (binSearch executable turns lo hi).map fun found => found.map fun gas => ⟨gas, [], ""⟩

end

/-- Runs fail below the threshold and pass from it on. -/
structure Threshold (executable : UInt64 → Except String Attempt) (least : ℕ) : Prop where
  fails : ∀ gas, gas.toNat < least → ∃ rsp, executable gas = .ok (.failed rsp)
  passes : ∀ gas, least ≤ gas.toNat → ∃ rsp, executable gas = .ok (.passed rsp)

/-- The bounds enclose what is looked for, and no limit between them is below the gas used. -/
structure Brackets (least used : ℕ) (lo hi : UInt64) : Prop where
  positive : 0 < lo.toNat
  below : lo.toNat < max least used
  above : max least used ≤ hi.toNat
  used : used ≤ lo.toNat + 1
  small : hi.toNat < 2 ^ 57

/-- A limit at the goal or over it by less than the allowed share. -/
def NearGoal (goal : ℕ) (gas : UInt64) : Prop :=
  goal ≤ gas.toNat ∧ (gas.toNat = goal ∨ 1000 * (gas.toNat - goal) < 15 * gas.toNat)

section

variable {executable : UInt64 → Except String Attempt} {least used : ℕ} {lo hi : UInt64}

theorem Threshold.cases (threshold : Threshold executable least) (gas : UInt64) :
    (gas.toNat < least ∧ ∃ rsp, executable gas = .ok (.failed rsp)) ∨
      (least ≤ gas.toNat ∧ ∃ rsp, executable gas = .ok (.passed rsp)) := by
  rcases Nat.lt_or_ge gas.toNat least with low | high
  · exact Or.inl ⟨low, threshold.fails gas low⟩
  · exact Or.inr ⟨high, threshold.passes gas high⟩

theorem Brackets.sub (brackets : Brackets least used lo hi) : (hi - lo).toNat = hi.toNat - lo.toNat := by
  have below := brackets.below
  have above := brackets.above
  apply UInt64.toNat_sub_of_le
  rw [UInt64.le_iff_toNat_le]
  omega

theorem Brackets.midpoint (brackets : Brackets least used lo hi) (apart : lo.toNat + 1 < hi.toNat) :
    lo.toNat < (midpoint lo hi).toNat ∧ (midpoint lo hi).toNat < hi.toNat := by
  have positive := brackets.positive
  have small := brackets.small
  have middle : (lo + (hi - lo) / 2).toNat = lo.toNat + (hi.toNat - lo.toNat) / 2 := by
    rw [UInt64.toNat_add, UInt64.toNat_div, brackets.sub]
    change (lo.toNat + (hi.toNat - lo.toNat) / 2) % 2 ^ 64 = _
    omega
  have double : (lo * 2).toNat = lo.toNat * 2 := by
    rw [UInt64.toNat_mul]
    change lo.toNat * 2 % 2 ^ 64 = _
    omega
  unfold Vm.midpoint
  split
  · rename_i skewed
    rw [UInt64.lt_iff_toNat_lt, middle, double] at skewed
    rw [double]
    omega
  · rw [middle]
    omega

/-- Each turn moves one bound past at least one limit and keeps the goal between them. -/
theorem binSearch_near (threshold : Threshold executable least) (brackets : Brackets least used lo hi) :
    ∃ gas, (∀ turns, hi.toNat - lo.toNat ≤ turns → binSearch executable turns lo hi = some (.ok gas)) ∧
      gas.toNat ≤ hi.toNat ∧ NearGoal (max least used) gas := by
  induction gap : hi.toNat - lo.toNat using Nat.strong_induction_on generalizing lo hi with
  | h width ih =>
    have below := brackets.below
    have above := brackets.above
    have small := brackets.small
    have successor : (lo + 1).toNat = lo.toNat + 1 := by
      rw [UInt64.toNat_add]
      change (lo.toNat + 1) % 2 ^ 64 = _
      omega
    have turn : ∀ turns, width ≤ turns → turns = turns - 1 + 1 := by
      intro turns enough
      omega
    by_cases apart : lo + 1 < hi
    · have wide : lo.toNat + 1 < hi.toNat := by
        rwa [UInt64.lt_iff_toNat_lt, successor] at apart
      by_cases close : 1000 * (hi - lo).toNat < 15 * hi.toNat
      · refine ⟨hi, ?_, le_refl _, above, Or.inr ?_⟩
        · intro turns enough
          rw [turn turns enough]
          simp only [binSearch, apart, close, if_true]
        · rw [brackets.sub] at close
          omega
      · obtain ⟨right, left⟩ := brackets.midpoint wide
        have positive := brackets.positive
        have within := brackets.used
        rcases threshold.cases (midpoint lo hi) with ⟨low, rsp, failed⟩ | ⟨high, rsp, passed⟩
        · have inner : Brackets least used (midpoint lo hi) hi :=
            ⟨by omega, by omega, above, by omega, small⟩
          obtain ⟨gas, found, le, near⟩ := ih _ (by omega) inner rfl
          refine ⟨gas, ?_, le, near⟩
          intro turns enough
          rw [turn turns enough]
          simp only [binSearch, apart, close, failed, if_true, if_false]
          exact found (turns - 1) (by omega)
        · have inner : Brackets least used lo (midpoint lo hi) :=
            ⟨positive, below, by omega, brackets.used, by omega⟩
          obtain ⟨gas, found, le, near⟩ := ih _ (by omega) inner rfl
          refine ⟨gas, ?_, by omega, near⟩
          intro turns enough
          rw [turn turns enough]
          simp only [binSearch, apart, close, passed, if_true, if_false]
          exact found (turns - 1) (by omega)
    · refine ⟨hi, ?_, le_refl _, above, Or.inl ?_⟩
      · intro turns enough
        rw [turn turns enough]
        simp only [binSearch, apart, if_false]
      · rw [UInt64.lt_iff_toNat_lt, successor] at apart
        omega

/-- The optimistic limit is tried between the bounds only, and becomes one of them. -/
theorem optimisticBounds_brackets (threshold : Threshold executable least)
    (brackets : Brackets least used lo hi) (optimistic : UInt64) (after : lo.toNat < optimistic.toNat) :
    ∃ lo' hi', optimisticBounds executable lo hi optimistic = .ok (lo', hi') ∧ hi'.toNat ≤ hi.toNat ∧
      Brackets least used lo' hi' := by
  have below := brackets.below
  have above := brackets.above
  have small := brackets.small
  have positive := brackets.positive
  have within := brackets.used
  unfold optimisticBounds
  by_cases lower : optimistic < hi
  · rw [if_pos lower]
    rw [UInt64.lt_iff_toNat_lt] at lower
    rcases threshold.cases optimistic with ⟨low, rsp, failed⟩ | ⟨high, rsp, passed⟩
    · rw [failed]
      exact ⟨optimistic, hi, rfl, le_refl _, by omega, by omega, above, by omega, small⟩
    · rw [passed]
      exact ⟨lo, optimistic, rfl, by omega, positive, below, by omega, within, by omega⟩
  · rw [if_neg lower]
    exact ⟨lo, hi, rfl, le_refl _, brackets⟩

end

/-- The search ends with a limit that is enough, at most the cap, and at the least such limit
from the gas used on or over it by less than the allowed share. -/
theorem estimateGas_near (executable : UInt64 → Except String Attempt) (least : ℕ)
    (threshold : Threshold executable least) (gasCap hi : UInt64) (small : hi.toNat < 2 ^ 57) (first : Response)
    (ran : executable hi = .ok (.passed first)) (some : 2 ≤ first.gasUsed.toNat)
    (used : first.gasUsed.toNat ≤ first.maxUsedGas.toNat) (within : first.maxUsedGas.toNat ≤ hi.toNat) :
    ∃ gas, (∀ turns, hi.toNat ≤ turns → estimateGas executable turns gasCap hi = .some (.ok ⟨gas, [], ""⟩)) ∧
      (∃ rsp, executable gas = .ok (.passed rsp)) ∧ gas.toNat ≤ hi.toNat ∧
      NearGoal (max least first.gasUsed.toNat) gas := by
  have start : (first.gasUsed - 1).toNat = first.gasUsed.toNat - 1 := by
    apply UInt64.toNat_sub_of_le
    rw [UInt64.le_iff_toNat_le]
    change 1 ≤ first.gasUsed.toNat
    omega
  have optimistic : (optimisticGasLimit first).toNat = (first.maxUsedGas.toNat + 2300) * 64 / 63 := by
    unfold optimisticGasLimit
    rw [UInt64.toNat_div, UInt64.toNat_mul, UInt64.toNat_add]
    change (first.maxUsedGas.toNat + 2300) % 2 ^ 64 * 64 % 2 ^ 64 / 63 = _
    omega
  have reached : least ≤ hi.toNat := by
    by_contra short
    obtain ⟨rsp, failed⟩ := threshold.fails hi (by omega)
    rw [ran] at failed
    cases failed
  have brackets : Brackets least first.gasUsed.toNat (first.gasUsed - 1) hi :=
    ⟨by omega, by omega, by omega, by omega, small⟩
  obtain ⟨lo', hi', bounds, lower, inner⟩ :=
    optimisticBounds_brackets threshold brackets (optimisticGasLimit first) (by omega)
  obtain ⟨gas, found, le, near⟩ := binSearch_near threshold inner
  refine ⟨gas, ?_, threshold.passes gas ?_, by omega, near⟩
  · intro turns enough
    unfold estimateGas
    simp only [ran, bounds]
    rw [found turns (by omega)]
    rfl
  · exact (le_max_left _ _).trans near.1

/-- A transaction that uses 25000 gas and needs a limit of 30000. -/
def steppedRun (gas : UInt64) : Except String Attempt :=
  if gas.toNat < 30000 then .ok (.failed none) else .ok (.passed ⟨25000, 26000, "", [], []⟩)

theorem estimateGas_near_steppedRun :
    ∃ gas, (∀ turns, 90000 ≤ turns → estimateGas steppedRun turns 90000 90000 = some (.ok ⟨gas, [], ""⟩)) ∧
      NearGoal 30000 gas := by
  have threshold : Threshold steppedRun 30000 :=
    ⟨fun gas low => ⟨none, if_pos low⟩, fun gas high => ⟨_, if_neg (not_lt.mpr high)⟩⟩
  obtain ⟨gas, found, -, -, near⟩ := estimateGas_near steppedRun 30000 threshold 90000 90000 (by decide)
    ⟨25000, 26000, "", [], []⟩ rfl (by decide) (by decide) (by decide)
  exact ⟨gas, found, near⟩

end OgEvm.Vm
