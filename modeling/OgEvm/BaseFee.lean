import OgEvm.FeeMarket
import OgEvm.PrecisebankInvariant

/- The base fee from block to block. Above the gas target it rises, below it falls, by a
share of itself that is rounded down; it is never taken below the minimum gas price, and
empty blocks bring it there. -/
namespace OgEvm.FeeMarket

open Decimals ExceptFacts

def calcGasBaseFee (gasUsed gasTarget baseFeeChangeDenom : UInt64) (baseFee minUnitGas minGasPrice : Decimal) :
    Decimal :=
  if gasUsed = gasTarget then baseFee
  else if gasTarget = 0 then Decimal.zero
  else
    let num := (Decimal.ofInt ((gasUsed.toNat : ℤ) - gasTarget.toNat).natAbs).mul baseFee
    let num := num.quoInt gasTarget.toNat
    let num := num.quoInt baseFeeChangeDenom.toNat
    if gasTarget < gasUsed then baseFee.add (num.max minUnitGas)
    else (baseFee.sub num).max minGasPrice

def Params.isBaseFeeEnabled (p : Params) (height : ℤ) : Bool := !p.noBaseFee && decide (p.enableHeight ≤ height)

/-- The gas limit of a block by the consensus parameters; -1 is no limit. -/
def blockGasLimit : Option Int64 → ℤ
  | some maxGas => if -1 < maxGas.toInt then maxGas.toInt else 2 ^ 64 - 1
  | none => 2 ^ 64 - 1

def parentGasTarget (p : Params) (maxGas : Option Int64) : ℤ :=
  (blockGasLimit maxGas).tdiv p.elasticityMultiplier.toNat

def minUnitGas (cfg : Config) : Decimal := (Decimal.ofInt 1).quoInt cfg.conversionFactor

inductive BlockFault where
  | error (text : String)
  | nilDecimal
  | divisionByZero
deriving DecidableEq, Repr

/-- Nil below the activation height and without a base fee. -/
def calculateBaseFee (cfg : Config) (p : Params) (parentGasUsed : UInt64) (height : ℤ) (maxGas : Option Int64) :
    Except BlockFault (Option Decimal) :=
  if !p.isBaseFeeEnabled height then .ok none
  else if height = p.enableHeight then .ok p.baseFee
  else match p.baseFee with
    | none => .ok none
    | some parentBaseFee =>
      if p.elasticityMultiplier = 0 then .error .divisionByZero
      else
        let target := parentGasTarget p maxGas
        if ¬ (0 ≤ target ∧ target < 2 ^ 64) then .ok none
        else match p.minGasPrice with
          | none => .error .nilDecimal
          | some minGasPrice =>
            .ok (some (calcGasBaseFee parentGasUsed (UInt64.ofNat target.toNat)
              (UInt64.ofNat p.baseFeeChangeDenominator.toNat) parentBaseFee (minUnitGas cfg) minGasPrice))

/-- The store of the module. -/
structure State where
  params : Params
  blockGasWanted : UInt64

/-- What the module reads of a block. -/
structure Block where
  maxGas : Option Int64
  hasGasMeter : Bool
  gasWanted : UInt64
  gasUsed : UInt64

def beginBlock (cfg : Config) (s : State) (height : ℤ) (maxGas : Option Int64) : Except BlockFault State :=
  (calculateBaseFee cfg s.params s.blockGasWanted height maxGas).map fun baseFee => match baseFee with
    | none => s
    | some baseFee => { s with params := { s.params with baseFee := some baseFee } }

def endBlock (s : State) (block : Block) : Except BlockFault State :=
  if !block.hasGasMeter then .error (.error "block gas meter is nil when setting block gas wanted")
  else if 2 ^ 63 ≤ block.gasWanted.toNat then
    .error (.error ("integer overflow by integer type conversion. Gas wanted > MaxInt64. Gas wanted: " ++
      toString block.gasWanted.toNat))
  else if 2 ^ 63 ≤ block.gasUsed.toNat then
    .error (.error ("integer overflow by integer type conversion. Gas used > MaxInt64. Gas used: " ++
      toString block.gasUsed.toNat))
  else match s.params.minGasMultiplier with
    | none => .error .nilDecimal
    | some minGasMultiplier =>
      let limitedGasWanted := (Decimal.ofInt block.gasWanted.toNat).mul minGasMultiplier
      let updatedGasWanted := (limitedGasWanted.max (Decimal.ofInt block.gasUsed.toNat)).truncateInt
      .ok { s with blockGasWanted := UInt64.ofNat updatedGasWanted.toNat }

/-- Consecutive blocks from a height on, with no change of the other parameters. -/
def runBlocks (cfg : Config) : ℤ → State → List Block → Except BlockFault State
  | _, s, [] => .ok s
  | height, s, block :: rest => do
    let s ← beginBlock cfg s height block.maxGas
    let s ← endBlock s block
    runBlocks cfg (height + 1) s rest

/-! One update, in units of the last digit. -/

/-- The share of the base fee for a distance to the target. -/
def share (target denom : ℕ) (b distance : ℤ) : ℤ := distance * b / target / denom

/-- The next base fee, by the side of the target. -/
def nextFee (target denom : ℕ) (b unit minimum : ℤ) (used : ℕ) : ℤ :=
  if used = target then b
  else if target < used then b + max (share target denom b (used - target)) unit
  else max (b - share target denom b (target - used)) minimum

section

variable {target denom : ℕ} {b unit minimum : ℤ}

/-- The whole distance down to no gas is one part in the denominator. -/
theorem share_target (positive : 0 < target) (denom : ℕ) (b : ℤ) : share target denom b target = b / denom := by
  rw [share, Int.mul_ediv_cancel_left _ (by exact_mod_cast positive.ne')]

/-- Rounding only makes the share smaller. -/
theorem share_le (b distance : ℤ) (positive : 0 < target) (divides : 0 < denom) :
    (share target denom b distance : ℚ) ≤ b * distance / target / denom := by
  have one : (0 : ℤ) < target := by exact_mod_cast positive
  have two : (0 : ℤ) < denom := by exact_mod_cast divides
  have outer := Int.ediv_mul_le (distance * b / target) two.ne'
  have inner := Int.ediv_mul_le (distance * b) one.ne'
  have whole : share target denom b distance * denom * target ≤ b * distance := by
    unfold share
    nlinarith
  rw [le_div_iff₀ (by exact_mod_cast two), le_div_iff₀ (by exact_mod_cast one)]
  exact_mod_cast whole

/-- A base fee and a minimum gas price, with a target and a denominator to move by. -/
structure Fit (target denom : ℕ) (b unit minimum : ℤ) : Prop where
  fee_nonneg : 0 ≤ b
  minimum_nonneg : 0 ≤ minimum
  unit_nonneg : 0 ≤ unit
  target_pos : 0 < target
  denom_pos : 0 < denom

section

variable (fit : Fit target denom b unit minimum)

include fit

theorem Fit.share_mono {near far : ℤ} (further : near ≤ far) : share target denom b near ≤ share target denom b far :=
  Int.ediv_le_ediv (by exact_mod_cast fit.denom_pos) (Int.ediv_le_ediv (by exact_mod_cast fit.target_pos)
    (mul_le_mul_of_nonneg_right further fit.fee_nonneg))

theorem Fit.share_nonneg {distance : ℤ} (nonneg : 0 ≤ distance) : 0 ≤ share target denom b distance := by
  have zero : share target denom b 0 = 0 := by simp [share]
  rw [← zero]
  exact fit.share_mono nonneg

theorem Fit.least (used : ℕ) : min b minimum ≤ nextFee target denom b unit minimum used := by
  unfold nextFee
  split_ifs
  · exact min_le_left _ _
  · exact (min_le_left _ _).trans (le_add_of_nonneg_right (fit.unit_nonneg.trans (le_max_right _ _)))
  · exact (min_le_right _ _).trans (le_max_right _ _)

/-- An empty block takes one part in the denominator off. -/
theorem Fit.idle : nextFee target denom b unit minimum 0 = max (b - b / denom) minimum := by
  have whole := share_target fit.target_pos denom b
  simp [nextFee, fit.target_pos.ne, whole]

section

variable (floor : minimum ≤ b)

include floor

theorem Fit.mono : Monotone (nextFee target denom b unit minimum) := by
  intro less more order
  have up := fit.share_mono (show (less : ℤ) - target ≤ more - target by omega)
  have down := fit.share_mono (show (target : ℤ) - more ≤ target - less by omega)
  have step := fit.unit_nonneg
  have lower : less ≤ target → 0 ≤ share target denom b (target - less) :=
    fun below => fit.share_nonneg (by omega)
  unfold nextFee
  split_ifs <;> grind

theorem Fit.fall (used : ℕ) : ((b - nextFee target denom b unit minimum used : ℤ) : ℚ) ≤ b / denom := by
  have least := fit.mono floor (Nat.zero_le used)
  have bound := share_le b target fit.target_pos fit.denom_pos
  have near : b - nextFee target denom b unit minimum used ≤ share target denom b target := by
    rw [fit.idle] at least
    rw [share_target fit.target_pos]
    omega
  calc ((b - nextFee target denom b unit minimum used : ℤ) : ℚ) ≤ share target denom b target := by
        exact_mod_cast near
    _ ≤ b * target / target / denom := by exact_mod_cast bound
    _ = b / denom := by rw [mul_div_cancel_right₀ _ (by exact_mod_cast fit.target_pos.ne')]

theorem Fit.rise (used : ℕ) : ((nextFee target denom b unit minimum used - b : ℤ) : ℚ) ≤
    max ((b : ℚ) * (used - target) / target / denom) unit := by
  have bound := share_le b (used - target) fit.target_pos fit.denom_pos
  have step : (0 : ℚ) ≤ unit := by exact_mod_cast fit.unit_nonneg
  push_cast at bound
  by_cases above : target < used
  · have next : nextFee target denom b unit minimum used - b =
        max (share target denom b (used - target)) unit := by
      rw [nextFee, if_neg above.ne', if_pos above]
      ring
    rw [next]
    push_cast
    exact max_le_max_right _ bound
  · have most := fit.mono floor (not_lt.mp above)
    have same : nextFee target denom b unit minimum target = b := if_pos rfl
    rw [same] at most
    refine le_trans ?_ (step.trans (le_max_right _ _))
    exact_mod_cast sub_nonpos.mpr most

end

end

end

theorem calcGasBaseFee_raw {target : UInt64} {b : Decimal} (used denom : UInt64) (unit minimum : Decimal)
    (nonneg : 0 ≤ b.raw) (positive : 0 < target.toNat) : (calcGasBaseFee used target denom b unit minimum).raw =
      nextFee target.toNat denom.toNat b.raw unit.raw minimum.raw used.toNat := by
  have cut (distance : ℕ) : ((((Decimal.ofInt distance).mul b).quoInt target.toNat).quoInt denom.toNat).raw =
      share target.toNat denom.toNat b.raw distance := by
    have product : 0 ≤ (distance : ℤ) * b.raw := mul_nonneg (Int.natCast_nonneg _) nonneg
    rw [Decimal.mul_ofInt, Decimal.quoInt_nonneg, Decimal.quoInt_nonneg product, share]
    rw [Decimal.quoInt_nonneg product]
    exact Int.ediv_nonneg product (Int.natCast_nonneg _)
  unfold calcGasBaseFee nextFee
  simp only [← UInt64.toNat_inj, UInt64.lt_iff_toNat_lt]
  rw [if_neg (show ¬ target.toNat = (0 : UInt64).toNat from positive.ne')]
  split_ifs with same above
  · rfl
  · have distance : (((used.toNat : ℤ) - target.toNat).natAbs : ℤ) = used.toNat - target.toNat := by omega
    simp only [Decimal.add, Decimal.max_raw, cut]
    rw [distance]
  · have distance : (((used.toNat : ℤ) - target.toNat).natAbs : ℤ) = target.toNat - used.toNat := by omega
    simp only [Decimal.sub, Decimal.max_raw, cut]
    rw [distance]

/-! Block after block. -/

theorem minUnitGas_nonneg (cfg : Config) : 0 ≤ (minUnitGas cfg).raw := by
  have one : 0 ≤ (Decimal.ofInt 1).raw := by decide
  have factor : (0 : ℤ) ≤ cfg.conversionFactor := cfg.conversionFactor_pos.le
  exact Int.tdiv_nonneg one factor

theorem blockGasLimit_range (maxGas : Option Int64) : 0 ≤ blockGasLimit maxGas ∧ blockGasLimit maxGas < 2 ^ 64 := by
  unfold blockGasLimit
  split
  · rename_i gas
    have below := gas.toInt_lt
    split <;> omega
  · decide

theorem parentGasTarget_lt (p : Params) (maxGas : Option Int64) : parentGasTarget p maxGas < 2 ^ 64 := by
  obtain ⟨nonneg, below⟩ := blockGasLimit_range maxGas
  exact (Int.tdiv_le_self _ nonneg).trans_lt below

/-- `CalcGasBaseFee` as the keeper calls it. -/
def update (cfg : Config) (p : Params) (b m : Decimal) (target used : UInt64) : Decimal :=
  calcGasBaseFee used target (UInt64.ofNat p.baseFeeChangeDenominator.toNat) b (minUnitGas cfg) m

/-- The base fee of the next block, by the gas the last one wanted. -/
def advance (cfg : Config) (p : Params) (b m : Decimal) (height : ℤ) (maxGas : Option Int64) (gas : UInt64) :
    Decimal :=
  if !p.noBaseFee && decide (p.enableHeight < height) then
    update cfg p b m (UInt64.ofNat (parentGasTarget p maxGas).toNat) gas
  else b

section

variable {cfg : Config} {p : Params} {b m k : Decimal} (known : p.Valid b m k)

include known

theorem Params.Valid.withBaseFee {fee : Decimal} (nonneg : 0 ≤ fee.raw) :
    Params.Valid { p with baseFee := some fee } fee m k where
  denominator_pos := known.denominator_pos
  elasticity_ne := known.elasticity_ne
  baseFee_eq := rfl
  baseFee_nonneg := nonneg
  minGasPrice_eq := known.minGasPrice_eq
  minGasPrice_nonneg := known.minGasPrice_nonneg
  minGasMultiplier_eq := known.minGasMultiplier_eq

theorem Params.Valid.fit (cfg : Config) {target : ℕ} (positive : 0 < target) :
    Fit target p.baseFeeChangeDenominator.toNat b.raw (minUnitGas cfg).raw m.raw where
  fee_nonneg := known.baseFee_nonneg
  minimum_nonneg := known.minGasPrice_nonneg
  unit_nonneg := minUnitGas_nonneg cfg
  target_pos := positive
  denom_pos := known.denominator_pos

theorem update_raw (cfg : Config) {target : UInt64} (positive : 0 < target.toNat) (used : UInt64) :
    (update cfg p b m target used).raw = nextFee target.toNat p.baseFeeChangeDenominator.toNat b.raw
      (minUnitGas cfg).raw m.raw used.toNat := by
  have small := p.baseFeeChangeDenominator.toNat_lt
  have denom : (UInt64.ofNat p.baseFeeChangeDenominator.toNat).toNat = p.baseFeeChangeDenominator.toNat :=
    UInt64.toNat_ofNat_of_lt (by change _ < 2 ^ 64; omega)
  rw [update, calcGasBaseFee_raw _ _ _ _ known.baseFee_nonneg positive, denom]

section

variable {maxGas : Option Int64} (positive : 1 ≤ parentGasTarget p maxGas)

include positive

theorem calculateBaseFee_eq (cfg : Config) (height : ℤ) (gas : UInt64) : calculateBaseFee cfg p gas height maxGas =
      .ok (if p.isBaseFeeEnabled height then some (advance cfg p b m height maxGas gas) else none) := by
  have nonneg : 0 ≤ parentGasTarget p maxGas := by omega
  have range := parentGasTarget_lt p maxGas
  unfold calculateBaseFee advance update
  rw [known.baseFee_eq, known.minGasPrice_eq]
  cases enabled : p.isBaseFeeEnabled height with
  | false => rfl
  | true =>
    obtain ⟨feeOn, reached⟩ : p.noBaseFee = false ∧ p.enableHeight ≤ height := by
      simpa [Params.isBaseFeeEnabled] using enabled
    rcases reached.eq_or_lt with first | late
    · simp [first]
    · simp [late, late.ne', feeOn, known.elasticity_ne, nonneg]
      exact range

theorem beginBlock_eq (cfg : Config) (height : ℤ) (gas : UInt64) : beginBlock cfg ⟨p, gas⟩ height maxGas =
      .ok ⟨{ p with baseFee := some (advance cfg p b m height maxGas gas) }, gas⟩ := by
  unfold beginBlock
  rw [calculateBaseFee_eq known positive]
  cases enabled : p.isBaseFeeEnabled height with
  | true => rfl
  | false =>
    have still : (!p.noBaseFee && decide (p.enableHeight < height)) = false := by
      simp only [Params.isBaseFeeEnabled] at enabled
      grind
    have same : { p with baseFee := some b } = p := by rw [← known.baseFee_eq]
    simp [advance, still, same, Except.map]

theorem advance_raw (cfg : Config) {height : ℤ} (enabled : p.noBaseFee = false) (late : p.enableHeight < height)
    (gas : UInt64) : (advance cfg p b m height maxGas gas).raw = nextFee (parentGasTarget p maxGas).toNat
      p.baseFeeChangeDenominator.toNat b.raw (minUnitGas cfg).raw m.raw gas.toNat := by
  have range := parentGasTarget_lt p maxGas
  have target : (UInt64.ofNat (parentGasTarget p maxGas).toNat).toNat = (parentGasTarget p maxGas).toNat :=
    UInt64.toNat_ofNat_of_lt (by change _ < 2 ^ 64; omega)
  rw [advance, enabled, decide_eq_true late, Bool.not_false, Bool.true_and, if_pos rfl,
    update_raw known cfg (by omega), target]

theorem advance_least (cfg : Config) (height : ℤ) (gas : UInt64) :
    min b.raw m.raw ≤ (advance cfg p b m height maxGas gas).raw := by
  by_cases moves : p.noBaseFee = false ∧ p.enableHeight < height
  · rw [advance_raw known positive cfg moves.1 moves.2]
    exact (known.fit cfg (by omega)).least gas.toNat
  · have still : (!p.noBaseFee && decide (p.enableHeight < height)) = false := by
      simpa using moves
    rw [advance, still]
    exact min_le_left _ _

end

end

theorem endBlock_ok {s t : State} {block : Block} (done : endBlock s block = .ok t) :
    ∃ gas, t = { s with blockGasWanted := gas } := by
  unfold endBlock at done
  split at done
  · cases done
  split at done
  · cases done
  split at done
  · cases done
  split at done
  · cases done
  · cases done
    exact ⟨_, rfl⟩

/-- A block without a transaction. -/
def Block.Empty (block : Block) : Prop := block.hasGasMeter = true ∧ block.gasWanted = 0 ∧ block.gasUsed = 0

theorem endBlock_empty {s : State} {block : Block} {k : Decimal} (empty : block.Empty)
    (multiplier : s.params.minGasMultiplier = some k) : endBlock s block = .ok { s with blockGasWanted := 0 } := by
  obtain ⟨meter, wanted, used⟩ := empty
  have zero : (Decimal.ofInt (0 : ℕ)).mul k = Decimal.zero := by
    rw [Decimal.mul_ofInt]
    simp [Decimal.zero]
  unfold endBlock
  rw [meter, wanted, used, multiplier]
  simp only [UInt64.toNat_zero, zero]
  rfl

/-- A base fee at or above the minimum gas price stays there. -/
theorem runBlocks_floor {cfg : Config} {p : Params} {b m k : Decimal} {height : ℤ} {gas : UInt64}
    {blocks : List Block} {t : State} (known : p.Valid b m k) (floor : m.raw ≤ b.raw)
    (targets : ∀ block ∈ blocks, 1 ≤ parentGasTarget p block.maxGas)
    (done : runBlocks cfg height ⟨p, gas⟩ blocks = .ok t) :
    ∃ fee, t.params = { p with baseFee := some fee } ∧ m.raw ≤ fee.raw := by
  induction blocks generalizing p b height gas with
  | nil =>
    cases done
    exact ⟨b, by rw [← known.baseFee_eq], floor⟩
  | cons block rest step =>
    have positive := targets block List.mem_cons_self
    have least := advance_least known positive cfg height gas
    rw [min_eq_right floor] at least
    obtain ⟨_, begun, done⟩ := bind_ok done
    rw [beginBlock_eq known positive] at begun
    cases begun
    obtain ⟨_, ended, done⟩ := bind_ok done
    obtain ⟨_, rfl⟩ := endBlock_ok ended
    obtain ⟨fee, kept, above⟩ := step (known.withBaseFee (known.minGasPrice_nonneg.trans least)) least
      (fun next member => targets next (List.mem_cons_of_mem _ member)) done
    exact ⟨fee, kept, above⟩

/-- The base fee grows with the gas used, keeps at the target and above the minimum gas
price, and moves by a bounded share of itself; in a run with fixed parameters it stays at
or above the minimum once it is there. -/
theorem baseFee_bounded {p : Params} {b m : Decimal} (cfg : Config) (valid : p.validate = .ok ())
    (fee : p.baseFee = some b) (price : p.minGasPrice = some m) (floor : m.raw ≤ b.raw) :
    (∀ target : UInt64, 1 ≤ target.toNat →
      (∀ less more : UInt64, less ≤ more →
        (update cfg p b m target less).raw ≤ (update cfg p b m target more).raw) ∧
      update cfg p b m target target = b ∧
      ∀ used : UInt64,
        m.raw ≤ (update cfg p b m target used).raw ∧ 0 ≤ (update cfg p b m target used).raw ∧
        ((b.raw - (update cfg p b m target used).raw : ℤ) : ℚ) ≤ b.raw / p.baseFeeChangeDenominator.toNat ∧
        (((update cfg p b m target used).raw - b.raw : ℤ) : ℚ) ≤
          max ((b.raw : ℚ) * (used.toNat - target.toNat) / target.toNat / p.baseFeeChangeDenominator.toNat)
            (minUnitGas cfg).raw) ∧
    ∀ (height : ℤ) (gas : UInt64) (blocks : List Block) (t : State),
      (∀ block ∈ blocks, 1 ≤ parentGasTarget p block.maxGas) →
      runBlocks cfg height ⟨p, gas⟩ blocks = .ok t →
      ∃ fee, t.params = { p with baseFee := some fee } ∧ m.raw ≤ fee.raw := by
  obtain ⟨_, _, k, known⟩ := Params.validate_facts valid
  cases fee.symm.trans known.baseFee_eq
  cases price.symm.trans known.minGasPrice_eq
  refine ⟨fun target positive => ⟨fun less more order => ?_, if_pos rfl, fun used => ?_⟩,
    fun height gas blocks t targets done => runBlocks_floor known floor targets done⟩
  · rw [update_raw known cfg positive, update_raw known cfg positive]
    exact (known.fit cfg positive).mono floor (UInt64.le_iff_toNat_le.mp order)
  · have fit := known.fit cfg positive
    have least := fit.least used.toNat
    rw [min_eq_right floor] at least
    rw [update_raw known cfg positive]
    exact ⟨least, known.minGasPrice_nonneg.trans least, fit.fall floor used.toNat, fit.rise floor used.toNat⟩

/-- The default parameters with a minimum gas price of one. -/
def pricedParams : Params where
  noBaseFee := false
  baseFeeChangeDenominator := 8
  elasticityMultiplier := 2
  enableHeight := 0
  baseFee := some (.ofInt 1000000000)
  minGasPrice := some (.ofInt 1)
  minGasMultiplier := some ⟨5 * 10 ^ 17⟩

theorem baseFee_bounded_priced :
    pricedParams.validate = .ok () ∧ (Decimal.ofInt 1).raw ≤ (Decimal.ofInt 1000000000).raw ∧
    update Precisebank.sixDecimals pricedParams (.ofInt 1000000000) (.ofInt 1) 100 100 = .ofInt 1000000000 := by
  have valid : pricedParams.validate = .ok () := by decide
  have floor : (Decimal.ofInt 1).raw ≤ (Decimal.ofInt 1000000000).raw := by decide
  exact ⟨valid, floor, ((baseFee_bounded Precisebank.sixDecimals valid rfl rfl floor).1 100 (by decide)).2.1⟩

/-! Empty blocks. -/

/-- Blocks until the base fee is at the minimum: those before it moves, and one for each
unit of the last digit. -/
def distance (p : Params) (height : ℤ) (b m : Decimal) : ℕ :=
  (p.enableHeight + 1 - height).toNat + (b.raw - m.raw).natAbs

section

variable {p : Params} {b m k : Decimal} (known : p.Valid b m k) (enabled : p.noBaseFee = false)
  (enough : (p.baseFeeChangeDenominator.toNat : ℤ) ≤ m.raw)

include known enabled enough

/-- The share taken off is at least one unit as long as the base fee is above the minimum. -/
theorem advance_closer (cfg : Config) {maxGas : Option Int64} (positive : 1 ≤ parentGasTarget p maxGas) (height : ℤ) :
    distance p (height + 1) (advance cfg p b m height maxGas 0) m ≤ distance p height b m - 1 := by
  unfold distance
  by_cases late : p.enableHeight < height
  · have moved := advance_raw known positive cfg enabled late 0
    have nonneg : (0 : ℤ) < p.baseFeeChangeDenominator.toNat := by exact_mod_cast known.denominator_pos
    have share : m.raw ≤ b.raw → 1 ≤ b.raw / p.baseFeeChangeDenominator.toNat := fun above =>
      (Int.le_ediv_iff_mul_le nonneg).mpr (by omega)
    have fall : 0 ≤ b.raw / p.baseFeeChangeDenominator.toNat := Int.ediv_nonneg known.baseFee_nonneg nonneg.le
    rw [UInt64.toNat_zero, (known.fit cfg (by omega)).idle] at moved
    omega
  · have still : advance cfg p b m height maxGas 0 = b := by
      rw [advance, decide_eq_false late, Bool.and_false, if_neg Bool.false_ne_true]
    rw [still]
    omega

theorem runBlocks_idle (cfg : Config) {blocks : List Block} {height : ℤ}
    (empty : ∀ block ∈ blocks, block.Empty ∧ 1 ≤ parentGasTarget p block.maxGas)
    (long : distance p height b m ≤ blocks.length) :
    runBlocks cfg height ⟨p, 0⟩ blocks = .ok ⟨{ p with baseFee := some m }, 0⟩ := by
  induction blocks generalizing p b height with
  | nil =>
    have same : b = m := by
      have zero : distance p height b m = 0 := Nat.le_zero.mp long
      have raw : b.raw = m.raw := by
        unfold distance at zero
        omega
      cases b
      cases m
      cases raw
      rfl
    rw [← same, ← known.baseFee_eq]
    rfl
  | cons block rest step =>
    obtain ⟨idle, positive⟩ := empty block List.mem_cons_self
    have closer := advance_closer known enabled enough cfg positive height
    have least := advance_least known positive cfg height 0
    have nonneg : 0 ≤ (advance cfg p b m height block.maxGas 0).raw :=
      (le_min known.baseFee_nonneg known.minGasPrice_nonneg).trans least
    unfold runBlocks
    rw [bind_of_ok (beginBlock_eq known positive cfg height 0),
      bind_of_ok (endBlock_empty idle known.minGasMultiplier_eq)]
    have shorter : distance p (height + 1) (advance cfg p b m height block.maxGas 0) m ≤ rest.length := by
      rw [List.length_cons] at long
      omega
    exact step (known.withBaseFee nonneg) enabled enough
      (fun next member => empty next (List.mem_cons_of_mem _ member)) shorter

end

/-- While blocks are empty the base fee comes down to the minimum gas price and stays. -/
theorem idle_blocks_reach_minimum {p : Params} {m : Decimal} (cfg : Config) (valid : p.validate = .ok ())
    (enabled : p.noBaseFee = false) (price : p.minGasPrice = some m)
    (enough : (p.baseFeeChangeDenominator.toNat : ℤ) ≤ m.raw) (height : ℤ) (gas : UInt64) (blocks : ℕ → Block)
    (empty : ∀ i, (blocks i).Empty ∧ 1 ≤ parentGasTarget p (blocks i).maxGas) :
    ∃ count, ∀ n, count ≤ n →
      runBlocks cfg height ⟨p, gas⟩ ((List.range n).map blocks) = .ok ⟨{ p with baseFee := some m }, 0⟩ := by
  obtain ⟨b, _, k, known⟩ := Params.validate_facts valid
  cases price.symm.trans known.minGasPrice_eq
  obtain ⟨idle, positive⟩ := empty 0
  have nonneg : 0 ≤ (advance cfg p b m height (blocks 0).maxGas gas).raw :=
    (le_min known.baseFee_nonneg known.minGasPrice_nonneg).trans (advance_least known positive cfg height gas)
  -- The first block still counts the gas wanted before it.
  refine ⟨distance p (height + 1) (advance cfg p b m height (blocks 0).maxGas gas) m + 1, fun n long => ?_⟩
  obtain ⟨rest, rfl⟩ : ∃ rest, n = rest + 1 := ⟨n - 1, by omega⟩
  rw [List.range_succ_eq_map, List.map_cons, List.map_map, runBlocks,
    bind_of_ok (beginBlock_eq known positive cfg height gas),
    bind_of_ok (endBlock_empty idle known.minGasMultiplier_eq)]
  refine runBlocks_idle (known.withBaseFee nonneg) enabled enough cfg (fun block member => ?_) ?_
  · obtain ⟨i, -, rfl⟩ := List.mem_map.mp member
    exact empty (i + 1)
  · rw [List.length_map, List.length_range]
    exact Nat.le_of_succ_le_succ long

theorem idle_blocks_reach_minimum_priced :
    pricedParams.validate = .ok () ∧
    ∃ count, ∀ n, count ≤ n → runBlocks Precisebank.sixDecimals 1 ⟨pricedParams, 5⟩
      ((List.range n).map fun _ => ⟨some 30000000, true, 0, 0⟩) =
        .ok ⟨{ pricedParams with baseFee := some (.ofInt 1) }, 0⟩ := by
  have valid : pricedParams.validate = .ok () := by decide
  exact ⟨valid, idle_blocks_reach_minimum Precisebank.sixDecimals valid rfl rfl (by decide) 1 5 _
    fun _ => ⟨⟨rfl, rfl, rfl⟩, by decide⟩⟩

/-- With the base fee switched off the stored one is kept. -/
theorem noBaseFee_keeps_stored :
    Params.validate { pricedParams with noBaseFee := true } = .ok () ∧
    1 ≤ parentGasTarget { pricedParams with noBaseFee := true } (some 30000000) ∧
    ∀ n, runBlocks Precisebank.sixDecimals 1 ⟨{ pricedParams with noBaseFee := true }, 0⟩
      (List.replicate n ⟨some 30000000, true, 0, 0⟩) = .ok ⟨{ pricedParams with noBaseFee := true }, 0⟩ := by
  refine ⟨by decide, by decide, fun n => ?_⟩
  generalize (1 : ℤ) = height
  induction n generalizing height with
  | zero => rfl
  | succ n step => exact step (height + 1)

end OgEvm.FeeMarket
