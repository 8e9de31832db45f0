import OgEvm.Bank
import OgEvm.LibDecimal
import OgEvm.LibExcept

/- The parameters of the fee market and the two ways its base fee is read: by the ante
handler from the parameters it is given, and by the keeper through the wrapper that
scales to eighteen decimals. -/
namespace OgEvm.FeeMarket

open Decimals ExceptFacts

/-- A decimal that was never set is nil. -/
structure Params where
  noBaseFee : Bool
  baseFeeChangeDenominator : UInt32
  elasticityMultiplier : UInt32
  enableHeight : ℤ
  baseFee : Option Decimal
  minGasPrice : Option Decimal
  minGasMultiplier : Option Decimal

/-- A failed validation has a text; `IsNegative` of nil panics. -/
inductive ParamFault where
  | error (text : String)
  | nilDecimal
deriving DecidableEq, Repr

def refuseIf (bad : Prop) [Decidable bad] (text : String) : Except ParamFault Unit :=
  if bad then .error (.error text) else .ok ()

def validateMinGasPrice : Option Decimal → Except ParamFault Unit
  | none => .error (.error "invalid parameter: nil")
  | some gasPrice => refuseIf (gasPrice.raw < 0) ("value cannot be negative: " ++ gasPrice.toText)

def validateMinGasMultiplier : Option Decimal → Except ParamFault Unit
  | none => .error (.error "invalid parameter: nil")
  | some multiplier => do
    refuseIf (multiplier.raw < 0) ("value cannot be negative: " ++ multiplier.toText)
    refuseIf ((Decimal.ofInt 1).raw < multiplier.raw)
      ("value cannot be greater than 1: " ++ multiplier.toText)

def validateBaseFee : Option Decimal → Except ParamFault Unit
  | none => .error .nilDecimal
  | some baseFee =>
    refuseIf (baseFee.raw < 0) ("initial base fee cannot be negative: " ++ baseFee.toText)

def Params.validate (p : Params) : Except ParamFault Unit := do
  refuseIf (p.baseFeeChangeDenominator = 0) "base fee change denominator cannot be 0"
  validateBaseFee p.baseFee
  refuseIf (p.enableHeight < 0) ("enable height cannot be negative: " ++ toString p.enableHeight)
  refuseIf (p.elasticityMultiplier = 0) "elasticity multiplier cannot be zero: 0"
  validateMinGasMultiplier p.minGasMultiplier
  validateMinGasPrice p.minGasPrice

/-- The keeper's `GetBaseFee`: nil without a base fee. -/
def getBaseFee (p : Params) : Option Decimal := if p.noBaseFee then none else p.baseFee

/-- `Decimals.Validate`. -/
def validDecimals (decimals : ℕ) : Bool := 0 < decimals && decimals ≤ 18

/-- `FeeMarketWrapper.GetBaseFee`. -/
def wrappedBaseFee (cfg : Config) (p : Params) : ℤ :=
  match getBaseFee p with
  | none => 0
  | some baseFee =>
    if validDecimals cfg.decimals then (baseFee.mulInt cfg.conversionFactor).truncateInt else 0

/-- `Keeper.GetBaseFee` of x/vm: what a transaction is executed with. -/
def executionBaseFee (cfg : Config) (isLondon : Bool) (p : Params) : Option ℤ :=
  if isLondon then some (wrappedBaseFee cfg p) else none

/-- `types.GetBaseFee`: what the ante handler charges with. A base fee that is nil there
is dereferenced. -/
def anteBaseFee (cfg : Config) (isLondon : Bool) (p : Params) : Except ParamFault (Option ℤ) :=
  if !isLondon then .ok none
  else if p.noBaseFee then .ok (some 0)
  else match p.baseFee with
    | none => .error .nilDecimal
    | some baseFee =>
      if baseFee.raw = 0 then .ok (some 0)
      else .ok (some (baseFee.mulInt cfg.conversionFactor).truncateInt)

theorem refuseIf_ok {bad : Prop} [Decidable bad] {text : String} (passed : refuseIf bad text = .ok ()) : ¬ bad := by
  intro failed
  rw [refuseIf, if_pos failed] at passed
  cases passed

/-- What validation knows of the parameters. -/
structure Params.Valid (p : Params) (baseFee minGasPrice minGasMultiplier : Decimal) : Prop where
  denominator_pos : 0 < p.baseFeeChangeDenominator.toNat
  elasticity_ne : p.elasticityMultiplier ≠ 0
  baseFee_eq : p.baseFee = some baseFee
  baseFee_nonneg : 0 ≤ baseFee.raw
  minGasPrice_eq : p.minGasPrice = some minGasPrice
  minGasPrice_nonneg : 0 ≤ minGasPrice.raw
  minGasMultiplier_eq : p.minGasMultiplier = some minGasMultiplier

theorem Params.validate_facts {p : Params} (valid : p.validate = .ok ()) :
    ∃ baseFee minGasPrice minGasMultiplier, p.Valid baseFee minGasPrice minGasMultiplier := by
  obtain ⟨_, denominator, valid⟩ := bind_ok valid
  obtain ⟨_, fee, valid⟩ := bind_ok valid
  obtain ⟨_, -, valid⟩ := bind_ok valid
  obtain ⟨_, elasticity, valid⟩ := bind_ok valid
  obtain ⟨_, multiplier, price⟩ := bind_ok valid
  have positive : 0 < p.baseFeeChangeDenominator.toNat :=
    Nat.pos_of_ne_zero fun zero => refuseIf_ok denominator (UInt32.toNat_inj.mp zero)
  unfold validateBaseFee at fee
  unfold validateMinGasMultiplier at multiplier
  unfold validateMinGasPrice at price
  split at fee
  · cases fee
  · rename_i baseFee feeSet
    split at multiplier
    · cases multiplier
    · rename_i minGasMultiplier multiplierSet
      split at price
      · cases price
      · rename_i minGasPrice priceSet
        exact ⟨baseFee, minGasPrice, minGasMultiplier, positive, refuseIf_ok elasticity, feeSet,
          not_lt.mp (refuseIf_ok fee), priceSet, not_lt.mp (refuseIf_ok price), multiplierSet⟩

/-- Parameters that were validated have a base fee, and the two readers agree on it. -/
theorem anteBaseFee_eq {p : Params} (valid : p.validate = .ok ()) (cfg : Config) (isLondon : Bool) :
    anteBaseFee cfg isLondon p = .ok (executionBaseFee cfg isLondon p) := by
  obtain ⟨baseFee, _, _, known⟩ := Params.validate_facts valid
  have decimals : validDecimals cfg.decimals = true := by
    simp only [validDecimals, cfg.decimals_valid.1, cfg.decimals_valid.2, decide_true, Bool.and_self]
  unfold anteBaseFee executionBaseFee wrappedBaseFee getBaseFee
  rw [known.baseFee_eq]
  cases isLondon with
  | false => rfl
  | true =>
    cases p.noBaseFee with
    | true => rfl
    | false =>
      simp only [Bool.not_true, Bool.false_eq_true, if_false, if_true, decimals]
      split
      · rename_i zero
        have scaled : (baseFee.mulInt cfg.conversionFactor).truncateInt = 0 := by
          simp [Decimal.mulInt, Decimal.truncateInt, zero]
        rw [scaled]
      · rfl

end OgEvm.FeeMarket
