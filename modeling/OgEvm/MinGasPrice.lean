import OgEvm.BaseFee
import OgEvm.TxReplay

/- The minimum gas price in the two ante handlers. That of Ethereum transactions compares
an eighteen-decimals fee with the stored price as it is; that of Cosmos transactions looks
at the fee that is offered, and charges another. -/
namespace OgEvm.Ante

open Vm Decimals ExceptFacts

/-! Ethereum transactions. -/

/-- The step of AnteHandle that compares with the minimum gas price. -/
def globalFeeCheck (e : AnteEnv) (msg : MsgEthereumTx) (baseFee : Option ℤ) : Except AnteFault Unit :=
  checkGlobalFee (Decimal.ofInt (offeredFee msg baseFee)) e.feemarketParams.minGasPrice
    (Decimal.ofInt msg.raw.gas.toNat)

/-- A fee is a whole price for each unit of gas. -/
theorem offeredFee_price (msg : MsgEthereumTx) (baseFee : Option ℤ) :
    ∃ price, offeredFee msg baseFee = price * msg.raw.gas.toNat ∧
      (0 ≤ msg.raw.gasTipCap → 0 ≤ msg.raw.gasFeeCap → (∀ fee ∈ baseFee, 0 ≤ fee) → 0 ≤ price) := by
  have effective (fee : ℤ) (held : fee ∈ baseFee) : ∃ price, getEffectiveFee msg fee = price * msg.raw.gas.toNat ∧
      (0 ≤ msg.raw.gasTipCap → 0 ≤ msg.raw.gasFeeCap → (∀ fee ∈ baseFee, 0 ≤ fee) → 0 ≤ price) := by
    refine ⟨_, mul_comm _ _, fun tip cap nonneg => ?_⟩
    have base := nonneg fee held
    simp only [Transaction.effectiveGasTip]
    omega
  have single : ∃ price, getFee msg = price * msg.raw.gas.toNat ∧
      (0 ≤ msg.raw.gasTipCap → 0 ≤ msg.raw.gasFeeCap → (∀ fee ∈ baseFee, 0 ≤ fee) → 0 ≤ price) :=
    ⟨_, mul_comm _ _, fun _ cap _ => cap⟩
  unfold offeredFee
  split
  · exact effective _ rfl
  · exact effective _ rfl
  · exact single

theorem globalFeeCheck_ok {e : AnteEnv} {m : Decimal} (price : e.feemarketParams.minGasPrice = some m)
    (msg : MsgEthereumTx) (baseFee : Option ℤ) : globalFeeCheck e msg baseFee = .ok () ↔
      m.raw = 0 ∨ m.raw * msg.raw.gas.toNat ≤ offeredFee msg baseFee * Decimal.precision := by
  have required : (m.mul (Decimal.ofInt msg.raw.gas.toNat)).raw = m.raw * msg.raw.gas.toNat := by
    rw [Decimal.mul_comm, Decimal.mul_ofInt, mul_comm]
  unfold globalFeeCheck checkGlobalFee
  rw [price]
  dsimp only
  split
  · rename_i zero
    exact ⟨fun _ => Or.inl zero, fun _ => rfl⟩
  · rename_i positive
    rw [or_iff_right positive, ← required, ← not_lt]
    exact ⟨check_ok, fun enough => if_pos enough⟩

/-- The base fee of validated parameters is not negative. -/
theorem baseFeeOf_nonneg {e : AnteEnv} {baseFee : Option ℤ} (valid : e.feemarketParams.validate = .ok ())
    (known : baseFeeOf e = .ok baseFee) : ∀ fee ∈ baseFee, 0 ≤ fee := by
  obtain ⟨b, _, _, facts⟩ := FeeMarket.Params.validate_facts valid
  have scaled : 0 ≤ (b.mulInt e.env.bank.conversionFactor).truncateInt :=
    Int.tdiv_nonneg (mul_nonneg facts.baseFee_nonneg e.env.bank.conversionFactor_pos.le) (by decide)
  unfold baseFeeOf FeeMarket.anteBaseFee at known
  rw [facts.baseFee_eq] at known
  intro fee held
  grind [Except.mapError]

def legacyTx (price : ℤ) : MsgEthereumTx where
  sender := (bytesToAddress [7]).toList
  raw :=
    { txType := .legacy, nonce := 3, gas := 21000, gasTipCap := price, gasFeeCap := price
      recipient := some (bytesToAddress [9]), value := 0, data := [], accessList := [], setCodeAuthorizations := []
      hash := zeroHash, single_price := fun _ => rfl }

/-- The stored price is compared as if it had eighteen decimals: that is right for every
transaction just when no whole price lies from the stored one up to the scaled one. -/
theorem globalFee_scaled_iff {e : AnteEnv} {m : Decimal} {baseFee : Option ℤ}
    (valid : e.feemarketParams.validate = .ok ()) (price : e.feemarketParams.minGasPrice = some m)
    (known : baseFeeOf e = .ok baseFee) :
    (∀ msg : MsgEthereumTx, 0 ≤ msg.raw.gasTipCap → 0 ≤ msg.raw.gasFeeCap →
      (globalFeeCheck e msg baseFee = .ok () ↔
        m.raw * e.env.bank.conversionFactor * msg.raw.gas.toNat ≤ offeredFee msg baseFee * Decimal.precision)) ↔
    m.raw * e.env.bank.conversionFactor ≤ m.ceil.raw := by
  obtain ⟨_, _, _, facts⟩ := FeeMarket.Params.validate_facts valid
  cases price.symm.trans facts.minGasPrice_eq
  have nonneg := facts.minGasPrice_nonneg
  have scale := e.env.bank.conversionFactor_pos
  have scaled : m.raw ≤ m.raw * e.env.bank.conversionFactor := le_mul_of_one_le_right nonneg scale
  constructor
  · intro right
    have least := (Decimal.ceilInt_le_iff m _).mp le_rfl
    have whole : 0 ≤ m.ceilInt := by
      unfold Decimal.precision at least
      omega
    have accepted := (right (legacyTx m.ceilInt) whole whole).mp
      ((globalFeeCheck_ok price _ _).mpr (Or.inr ?_))
    · change _ * ((21000 : ℕ) : ℤ) ≤ ((21000 : ℕ) : ℤ) * m.ceilInt * _ at accepted
      simp only [Decimal.ceil, Decimal.ofInt]
      push_cast at accepted
      linarith
    · change _ * ((21000 : ℕ) : ℤ) ≤ ((21000 : ℕ) : ℤ) * m.ceilInt * _
      push_cast
      linarith
  · intro apart msg tip cap
    obtain ⟨each, paid, positive⟩ := offeredFee_price msg baseFee
    have paying := positive tip cap (baseFeeOf_nonneg valid known)
    rw [globalFeeCheck_ok price, paid, mul_right_comm each]
    rcases (Int.natCast_nonneg msg.raw.gas.toNat).eq_or_lt with zero | positive
    · simp [← zero]
    · rw [mul_le_mul_iff_left₀ positive, mul_le_mul_iff_left₀ positive]
      have unit : (0 : ℤ) ≤ Decimal.precision := by decide
      constructor
      · rintro (free | enough)
        · rw [free, zero_mul]
          exact mul_nonneg paying unit
        · exact apart.trans (mul_le_mul_of_nonneg_right ((Decimal.ceilInt_le_iff m each).mpr enough) unit)
      · exact fun enough => Or.inr (scaled.trans enough)

/-- Six decimals, a minimum gas price of one and no base fee. -/
def unitPriceAnte : AnteEnv :=
  { marketKeeper.ante with
    feemarketParams := { marketParams with noBaseFee := true, minGasPrice := some (.ofInt 1) } }

def oneWeiEnvelope : SdkTx :=
  { marketEnvelope with
    fee := some ⟨[⟨"atest", 21000⟩], 21000, "", ""⟩
    msgs := [.ethereum (legacyTx 1)] }

theorem globalFee_scaled_iff_unitPrice :
    unitPriceAnte.feemarketParams.validate = .ok () ∧
    ((∀ msg : MsgEthereumTx, 0 ≤ msg.raw.gasTipCap → 0 ≤ msg.raw.gasFeeCap →
      (globalFeeCheck unitPriceAnte msg (some 0) = .ok () ↔
        (Decimal.ofInt 1).raw * unitPriceAnte.env.bank.conversionFactor * msg.raw.gas.toNat ≤
          offeredFee msg (some 0) * Decimal.precision)) ↔
    (Decimal.ofInt 1).raw * unitPriceAnte.env.bank.conversionFactor ≤ (Decimal.ofInt 1).ceil.raw) := by
  have valid : unitPriceAnte.feemarketParams.validate = .ok () := by decide
  exact ⟨valid, globalFee_scaled_iff valid rfl rfl⟩

/-- A price of one wei is a trillionth of the minimum and passes every check. -/
theorem one_wei_accepted :
    (anteHandle unitPriceAnte marketContext oneWeiEnvelope false).2.toOption.isSome = true ∧
    globalFeeCheck unitPriceAnte (legacyTx 1) (some 0) = .ok () ∧
    ¬ (Decimal.ofInt 1).raw * unitPriceAnte.env.bank.conversionFactor * (legacyTx 1).raw.gas.toNat ≤
      offeredFee (legacyTx 1) (some 0) * Decimal.precision := by
  refine ⟨by decide +kernel, rfl, by decide⟩

/-! Cosmos transactions. -/

/-- A tip that was never set is nil. -/
inductive ExtensionOption where
  | dynamicFee (maxPriorityPrice : Option Decimal)
  | other

/-- A transaction with a fee; its coins may be nil. -/
structure FeeTx where
  gas : UInt64
  fee : Option Coins
  extensionOptions : List ExtensionOption

structure DecCoin where
  denom : Denom
  amount : Decimal

inductive FeeFault where
  | error (err : AnteError)
  | nilDecimal
  | divisionByZero

def refuse {α : Type} (code : AnteCode) (text : String) : Except FeeFault α := .error (.error ⟨code, text⟩)

/-- `Coins.IsAnyGTE`. -/
def isAnyGTE (coins required : Coins) : Bool :=
  coins.any fun coin =>
    decide (Coins.amountOf required coin.denom ≤ coin.amount) && Coins.amountOf required coin.denom != 0

/-- The fee for some gas at a price, rounded up. -/
def requiredFee (price : Decimal) (gas : ℤ) : ℤ := (price.mul (Decimal.ofInt gas)).ceil.roundInt

/-- `MinGasPriceDecorator.AnteHandle` up to the next handler. -/
def minGasPriceDecorator (cfg : Config) (p : FeeMarket.Params) (tx : FeeTx) (simulate : Bool) :
    Except FeeFault Unit :=
  let feeCoins := tx.fee.getD []
  let validFees := feeCoins.length = 0 ∨
    (feeCoins.length = 1 ∧ ∀ coin ∈ feeCoins, coin.denom = cfg.denom ∨ coin.denom = "stake")
  if ¬ validFees ∧ simulate = false then
    refuse .other ("expected only native token " ++ cfg.denom ++ " for fee, but got " ++ Coins.toText feeCoins)
  else match p.minGasPrice with
    | none => .error .nilDecimal
    | some minGasPrice =>
      if minGasPrice.raw = 0 ∨ simulate = true then .ok ()
      else
        let fee := requiredFee minGasPrice tx.gas.toNat
        let requiredFees : Coins := if 0 < fee then [⟨cfg.denom, fee⟩] else []
        if tx.fee = none then
          refuse .insufficientFee ("fee not provided. Please use the --fees flag or the --gas-price flag " ++
            "along with the --gas flag to estimate the fee. The minimum global fee for this tx is: " ++
            Coins.toText requiredFees)
        else if isAnyGTE feeCoins requiredFees then .ok ()
        else refuse .insufficientFee ("provided fee < minimum global fee (" ++ Coins.toText feeCoins ++ " < " ++
          Coins.toText requiredFees ++ "). Please increase the gas price.")

def maxInt64 : ℤ := 2 ^ 63 - 1

/-- `sdk.DefaultPowerReduction`. -/
def defaultPriorityReduction : ℤ := 1000000

/-- An amount as a priority; one that does not fit is the largest. -/
def priorityOf (amount : ℤ) : ℤ := if -2 ^ 63 ≤ amount ∧ amount ≤ maxInt64 then amount else maxInt64

def getTxPriority (fees : Coins) (gas : ℤ) : ℤ :=
  fees.foldl (fun priority fee =>
    let p := priorityOf ((fee.amount.tdiv gas).tdiv defaultPriorityReduction)
    if priority = 0 ∨ p < priority then p else priority) 0

/-- The fallback before London. A fee divided by no gas panics. -/
def checkTxFeeWithValidatorMinGasPrices (minGasPrices : List DecCoin) (isCheckTx : Bool) (tx : FeeTx) :
    Except FeeFault (Coins × ℤ) :=
  let feeCoins := tx.fee.getD []
  let gas := tx.gas.toInt64.toInt
  let requiredFees := minGasPrices.map fun price => ⟨price.denom, requiredFee price.amount gas⟩
  if isCheckTx = true ∧ ¬ (minGasPrices.all fun price => price.amount.raw == 0) ∧
      isAnyGTE feeCoins requiredFees = false then
    refuse .insufficientFee ("insufficient fees; got: " ++ Coins.toText feeCoins ++ " required: " ++
      Coins.toText requiredFees)
  else if gas = 0 ∧ feeCoins ≠ [] then .error .divisionByZero
  else .ok (feeCoins, getTxPriority feeCoins gas)

/-- The base fee a Cosmos transaction pays; zero while it is not enabled. -/
def feeCheckerBaseFee (p : FeeMarket.Params) (height : ℤ) : Decimal :=
  match p.baseFee with
  | none => Decimal.zero
  | some baseFee => if p.isBaseFeeEnabled height then baseFee else Decimal.zero

/-- The tip of the first dynamic-fee option. -/
def maxPriorityPrice (tx : FeeTx) : Decimal :=
  (tx.extensionOptions.findSome? fun option => match option with
    | .dynamicFee price => some (price.getD Decimal.zero)
    | .other => none).getD (Decimal.ofInt maxInt64)

def effectiveGasPriceLegacyDec (baseFee feeCap tipCap : Decimal) : Decimal := (tipCap.add baseFee).min feeCap

/-- `FeeChecker`: the fee to deduct and the priority. -/
def feeChecker (cfg : Config) (p : FeeMarket.Params) (isLondon isCheckTx : Bool) (height : ℤ)
    (minGasPrices : List DecCoin) (tx : FeeTx) : Except FeeFault (Coins × ℤ) :=
  if !isLondon then checkTxFeeWithValidatorMinGasPrices minGasPrices isCheckTx tx
  else if (maxPriorityPrice tx).raw < 0 then refuse .insufficientFee "max priority price cannot be negative"
  else if tx.gas = 0 then refuse .invalidRequest "gas cannot be zero"
  else
    let baseFee := feeCheckerBaseFee p height
    let feeCap := (Decimal.ofInt (Coins.amountOf (tx.fee.getD []) cfg.denom)).quoInt tx.gas.toNat
    if feeCap.raw < baseFee.raw then
      refuse .insufficientFee ("gas prices too low, got: " ++ feeCap.toText ++ cfg.denom ++ " required: " ++
        baseFee.toText ++ cfg.denom ++ ". Please retry using a higher gas price or a higher fee")
    else
      let effectivePrice := effectiveGasPriceLegacyDec baseFee feeCap (maxPriorityPrice tx)
      .ok ([⟨cfg.denom, (effectivePrice.mulInt tx.gas.toNat).ceil.roundInt⟩],
        priorityOf ((effectivePrice.sub baseFee).quoInt defaultPriorityReduction).truncateInt)

/-- The fee that is charged, by the base fee, the tip, the offer and the gas. -/
def charged (base tip offer gas : ℤ) : ℤ :=
  Decimal.ceilInt ⟨min (tip + base) (offer * Decimal.precision / gas) * gas⟩

theorem feeChecker_ok {cfg : Config} {p : FeeMarket.Params} {isCheckTx : Bool} {height : ℤ}
    {minGasPrices : List DecCoin} {tx : FeeTx} {deducted : Coins} {priority : ℤ}
    (offered : 0 ≤ Coins.amountOf (tx.fee.getD []) cfg.denom)
    (checked : feeChecker cfg p true isCheckTx height minGasPrices tx = .ok (deducted, priority)) :
    0 < tx.gas.toNat ∧ 0 ≤ (maxPriorityPrice tx).raw ∧ (feeCheckerBaseFee p height).raw ≤
      Coins.amountOf (tx.fee.getD []) cfg.denom * Decimal.precision / tx.gas.toNat ∧
    deducted = [⟨cfg.denom, charged (feeCheckerBaseFee p height).raw (maxPriorityPrice tx).raw
      (Coins.amountOf (tx.fee.getD []) cfg.denom) tx.gas.toNat⟩] := by
  have cap : ((Decimal.ofInt (Coins.amountOf (tx.fee.getD []) cfg.denom)).quoInt tx.gas.toNat).raw =
      Coins.amountOf (tx.fee.getD []) cfg.denom * Decimal.precision / tx.gas.toNat :=
    Decimal.quoInt_nonneg (mul_nonneg offered (by decide)) _
  have number : (effectiveGasPriceLegacyDec (feeCheckerBaseFee p height)
      ((Decimal.ofInt (Coins.amountOf (tx.fee.getD []) cfg.denom)).quoInt tx.gas.toNat) (maxPriorityPrice tx)).raw =
      min ((maxPriorityPrice tx).raw + (feeCheckerBaseFee p height).raw)
        (Coins.amountOf (tx.fee.getD []) cfg.denom * Decimal.precision / tx.gas.toNat) := by
    rw [effectiveGasPriceLegacyDec, Decimal.min_raw, cap]
    rfl
  unfold feeChecker at checked
  obtain ⟨tip, checked⟩ := ite_error_ok checked
  obtain ⟨gas, checked⟩ := ite_error_ok checked
  obtain ⟨enough, checked⟩ := ite_error_ok checked
  cases checked
  rw [cap] at enough
  refine ⟨Nat.pos_of_ne_zero fun zero => gas (UInt64.toNat_inj.mp zero), not_lt.mp tip, not_lt.mp enough, ?_⟩
  rw [Decimal.roundInt_ceil, Decimal.mulInt, number, charged]

section

variable {base tip offer gas : ℤ} (positive : 0 < gas)

include positive

theorem charged_le : charged base tip offer gas ≤ offer := by
  have cap : min (tip + base) (offer * Decimal.precision / gas) * gas ≤ offer * Decimal.precision / gas * gas :=
    mul_le_mul_of_nonneg_right (min_le_right _ _) positive.le
  exact (Decimal.ceilInt_le_iff _ _).mpr (cap.trans (Int.ediv_mul_le _ positive.ne'))

/-- A price that both bounds of the effective price reach is paid. -/
theorem le_charged {price : ℤ} (tipped : price ≤ tip + base) (capped : price ≤ offer * Decimal.precision / gas) :
    price * gas ≤ charged base tip offer gas * Decimal.precision :=
  (mul_le_mul_of_nonneg_right (le_min tipped capped) positive.le).trans
    ((Decimal.ceilInt_le_iff _ _).mp le_rfl)

theorem charged_mono {more : ℤ} (higher : tip ≤ more) : charged base tip offer gas ≤ charged base more offer gas :=
  Decimal.ceilInt_mono (mul_le_mul_of_nonneg_right (min_le_min_right _ (by omega)) positive.le)

/-- An offer that reaches a price is charged it just when the tip over the base fee does. -/
theorem charged_reaches_iff {price : ℤ} (enough : price * gas ≤ offer * Decimal.precision) :
    price * gas ≤ charged base tip offer gas * Decimal.precision ↔
      price * gas ≤ Decimal.ceilInt ⟨(tip + base) * gas⟩ * Decimal.precision := by
  have capped : price ≤ offer * Decimal.precision / gas := (Int.le_ediv_iff_mul_le positive).mpr enough
  have most : charged base tip offer gas ≤ Decimal.ceilInt ⟨(tip + base) * gas⟩ :=
    Decimal.ceilInt_mono (mul_le_mul_of_nonneg_right (min_le_left _ _) positive.le)
  constructor
  · intro reaches
    exact reaches.trans (mul_le_mul_of_nonneg_right most (by decide))
  · intro reaches
    rcases le_total (tip + base) (offer * Decimal.precision / gas) with small | large
    · rwa [charged, min_eq_left small]
    · exact le_charged positive (capped.trans large) capped

end

theorem isAnyGTE_single {coins : Coins} {denom : Denom} {fee : ℤ}
    (enough : isAnyGTE coins (if 0 < fee then [⟨denom, fee⟩] else []) = true) :
    ∃ coin ∈ coins, coin.denom = denom ∧ fee ≤ coin.amount := by
  obtain ⟨coin, member, holds⟩ := List.any_eq_true.mp enough
  refine ⟨coin, member, ?_⟩
  by_cases positive : 0 < fee
  · rw [if_pos positive, Coins.amountOf_singleton] at holds
    by_cases same : denom = coin.denom
    · rw [if_pos same] at holds
      exact ⟨same.symm, of_decide_eq_true (Bool.and_eq_true_iff.mp holds).1⟩
    · simp [same] at holds
  · simp [positive] at holds

theorem minGasPriceDecorator_ok {cfg : Config} {p : FeeMarket.Params} {m : Decimal} {tx : FeeTx}
    (price : p.minGasPrice = some m) (offered : 0 ≤ Coins.amountOf (tx.fee.getD []) cfg.denom)
    (passed : minGasPriceDecorator cfg p tx false = .ok ()) :
    m.raw * tx.gas.toNat ≤ Coins.amountOf (tx.fee.getD []) cfg.denom * Decimal.precision := by
  have required : requiredFee m tx.gas.toNat = Decimal.ceilInt ⟨m.raw * tx.gas.toNat⟩ := by
    rw [requiredFee, Decimal.roundInt_ceil, Decimal.mul_comm, Decimal.mul_ofInt, mul_comm]
  by_cases free : m.raw = 0
  · rw [free, zero_mul]
    exact mul_nonneg offered (by decide)
  unfold minGasPriceDecorator at passed
  obtain ⟨validFees, passed⟩ := ite_error_ok passed
  rw [price] at passed
  dsimp only at passed
  rw [if_neg (by simp [free])] at passed
  obtain ⟨-, passed⟩ := ite_error_ok passed
  have enough : isAnyGTE (tx.fee.getD []) (if 0 < requiredFee m tx.gas.toNat then
      [⟨cfg.denom, requiredFee m tx.gas.toNat⟩] else []) = true := by
    by_contra short
    rw [if_neg short] at passed
    cases passed
  obtain ⟨coin, member, same, reaches⟩ := isAnyGTE_single enough
  have only : tx.fee.getD [] = [coin] := by
    have single : (tx.fee.getD []).length = 1 := by
      have nonempty := List.length_pos_of_mem member
      by_contra more
      exact validFees ⟨fun known => known.elim (by omega) fun known => more known.1, rfl⟩
    obtain ⟨held, eq⟩ := List.length_eq_one_iff.mp single
    rw [eq] at member ⊢
    rw [List.mem_singleton.mp member]
  rw [only, ← same, Coins.amountOf_cons, if_pos rfl]
  exact (Decimal.ceilInt_le_iff _ _).mp (required ▸ reaches)

/-- What a Cosmos transaction pays lies between the base fee and its offer, and grows
with the tip; it reaches the minimum gas price just when the tip over the base fee does. -/
theorem cosmosFee_floor_iff {cfg : Config} {p : FeeMarket.Params} {m : Decimal} {isCheckTx : Bool} {height : ℤ}
    {minGasPrices : List DecCoin} {tx : FeeTx} {deducted : Coins} {priority : ℤ}
    (price : p.minGasPrice = some m) (offered : 0 ≤ Coins.amountOf (tx.fee.getD []) cfg.denom)
    (passed : minGasPriceDecorator cfg p tx false = .ok ())
    (checked : feeChecker cfg p true isCheckTx height minGasPrices tx = .ok (deducted, priority)) :
    ∃ amount, deducted = [⟨cfg.denom, amount⟩] ∧
      amount ≤ Coins.amountOf (tx.fee.getD []) cfg.denom ∧
      (feeCheckerBaseFee p height).raw * tx.gas.toNat ≤ amount * Decimal.precision ∧
      (∀ (other : FeeTx) (more priority : ℤ), other.gas = tx.gas → other.fee = tx.fee →
        (maxPriorityPrice tx).raw ≤ (maxPriorityPrice other).raw →
        feeChecker cfg p true isCheckTx height minGasPrices other = .ok ([⟨cfg.denom, more⟩], priority) →
        amount ≤ more) ∧
      (max (feeCheckerBaseFee p height).raw m.raw * tx.gas.toNat ≤ amount * Decimal.precision ↔
        m.raw * tx.gas.toNat ≤
          Decimal.ceilInt ⟨((maxPriorityPrice tx).raw + (feeCheckerBaseFee p height).raw) * tx.gas.toNat⟩ *
            Decimal.precision) := by
  obtain ⟨positive, tip, capped, rfl⟩ := feeChecker_ok offered checked
  have gas : (0 : ℤ) < tx.gas.toNat := by exact_mod_cast positive
  have reached := minGasPriceDecorator_ok price offered passed
  have floor := le_charged gas (le_add_of_nonneg_left tip) capped
  refine ⟨_, rfl, charged_le gas, floor, ?_, ?_⟩
  · intro other more priority sameGas sameFee higher charged
    obtain ⟨-, -, -, eq⟩ := feeChecker_ok (by rwa [sameFee]) charged
    rw [sameGas, sameFee] at eq
    cases eq
    exact charged_mono gas higher
  · rw [max_mul_of_nonneg _ _ gas.le, max_le_iff, charged_reaches_iff gas reached]
    exact and_iff_right floor

/-- A thousand coins for a hundred gas, of which the signer tips nothing. -/
def tiplessTx : FeeTx := ⟨100, some [⟨"utest", 1000⟩], [.dynamicFee (some Decimal.zero)]⟩

/-- Without a base fee it pays nothing, whatever the minimum gas price. -/
theorem tipless_pays_nothing :
    unitPriceAnte.feemarketParams.validate = .ok () ∧
    minGasPriceDecorator Precisebank.sixDecimals unitPriceAnte.feemarketParams tiplessTx false = .ok () ∧
    feeChecker Precisebank.sixDecimals unitPriceAnte.feemarketParams true false 1 [] tiplessTx =
      .ok ([⟨"utest", 0⟩], 0) ∧
    ¬ (Decimal.ofInt 1).raw * tiplessTx.gas.toNat ≤ 0 * Decimal.precision :=
  ⟨by decide, rfl, rfl, by decide⟩

theorem cosmosFee_floor_iff_tipless :
    minGasPriceDecorator Precisebank.sixDecimals unitPriceAnte.feemarketParams tiplessTx false = .ok () ∧
    ∃ amount, ([⟨"utest", 0⟩] : Coins) = [⟨"utest", amount⟩] ∧ amount ≤ 1000 := by
  have passed : minGasPriceDecorator Precisebank.sixDecimals unitPriceAnte.feemarketParams tiplessTx false =
      .ok () := rfl
  have checked : feeChecker Precisebank.sixDecimals unitPriceAnte.feemarketParams true false 1 [] tiplessTx =
      .ok ([⟨"utest", 0⟩], 0) := rfl
  have price : unitPriceAnte.feemarketParams.minGasPrice = some (.ofInt 1) := rfl
  obtain ⟨amount, deducted, most, -⟩ := cosmosFee_floor_iff price (by decide) passed checked
  exact ⟨passed, amount, deducted, most⟩

end OgEvm.Ante
