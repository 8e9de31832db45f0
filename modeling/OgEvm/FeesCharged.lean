import OgEvm.TxReplay

/- What a transaction costs its sender. The ante handler takes the price for the whole gas
limit and the execution gives back what was not used, each at its own reading of the base
fee; what is left is the gas used at the effective price. -/
namespace OgEvm.Ante

open ExceptFacts Vm

section

variable {e : AnteEnv} {ctx after : Context} {tx : Transaction} {sender : Address}

/-- The tip over the base fee and the base fee make up the price of the message. -/
theorem feeAmount_eq (tx : Transaction) (sender : Address) (baseFee : ℤ) :
    feeAmount tx baseFee = tx.gas.toNat * (tx.toMessage sender (some baseFee)).gasPrice := by
  have price : tx.effectiveGasTip (some baseFee) + baseFee =
      (tx.toMessage sender (some baseFee)).gasPrice := by
    change min tx.gasTipCap (tx.gasFeeCap - baseFee) + baseFee = min (tx.gasTipCap + baseFee) tx.gasFeeCap
    omega
  rw [feeAmount, price]

theorem feeCoins_amount {cfg : Config} {amount : ℤ} {fees : Coins} (made : feeCoins cfg amount = .ok fees) :
    Coins.amountOf fees cfg.denom = amount ∧ (amount ≠ 0 → fees = [⟨cfg.denom, amount⟩]) := by
  unfold feeCoins at made
  split at made
  · rename_i zero
    cases made
    exact ⟨zero.symm, fun positive => absurd zero positive⟩
  split at made
  · cases made
  · cases made
    exact ⟨by rw [Coins.amountOf_singleton, if_pos rfl], fun _ => rfl⟩

theorem verifyFee_amount {baseFee : Option ℤ} {fees : Coins} (verified : verifyFee e tx baseFee = .ok fees) :
    ∃ fee, baseFee = some fee ∧ feeCoins e.env.bank (feeAmount tx fee) = .ok fees := by
  obtain ⟨_, -, verified⟩ := bind_ok verified
  obtain ⟨_, -, verified⟩ := bind_ok verified
  cases baseFee with
  | none => cases verified
  | some fee =>
    obtain ⟨_, -, made⟩ := bind_ok verified
    exact ⟨fee, rfl, made⟩

/-- A fee that was paid is not negative: such coins are not valid. -/
theorem consumeFees_nonneg {amount : ℤ} {fees : Coins} (made : feeCoins e.env.bank amount = .ok fees)
    (consumed : consumeFeesAndEmitEvent e ctx fees sender = .ok after) : 0 ≤ amount := by
  by_cases zero : amount = 0
  · exact zero.ge
  · have single := (feeCoins_amount made).2 zero
    obtain ⟨_, taken, -⟩ := map_ok consumed
    have nonzero : ¬ isZero fees = true := by
      simp [isZero, single, zero]
    rw [if_neg nonzero] at taken
    unfold deductTxCosts at taken
    split at taken
    · cases taken
    · obtain ⟨_, checked, -⟩ := bind_ok taken
      have valid := check_ok checked
      rw [single] at valid
      exact (valid.2 _ List.mem_cons_self).le

end

section

variable {e : TxEnv} {ctx after : Context}

theorem applyMessage_gasUsed_le {env : Env} {cfg : EvmConfig} {evm : Evm} {txConfig : TxConfig}
    {commit internal : Bool} {msg : Message} {res : Response}
    (applied : applyMessageWithConfig env cfg evm txConfig commit internal ctx msg = (after, .ok res)) :
    res.gasUsed ≤ msg.gasLimit := by
  have responded : ∃ executed logs, executeMessage env cfg evm txConfig ctx msg = .ok executed ∧
      .ok res = respond cfg msg internal executed logs := by
    obtain ⟨halt, -, -, same⟩ | ⟨executed, ran, ending⟩ := applyMessage_cases applied
    · cases same
    · obtain ⟨-, cause, -, -, same⟩ | ⟨-, committed, err, -, -, same⟩ | ⟨-, committed, -, -, same⟩ | ⟨-, -, same⟩ :=
        ending
      · cases same
      · cases same
      · exact ⟨executed, _, ran, same⟩
      · exact ⟨executed, _, ran, same⟩
  obtain ⟨executed, logs, ran, answered⟩ := responded
  obtain ⟨intrinsic, floor, state, value, required, -, -, -, billed⟩ := executeMessage_ok ran
  obtain ⟨gasUsed, charged, final⟩ := bind_ok answered.symm
  cases final
  exact chargedGas_le (billGas_balance billed (requiredGas_le required).2) charged

/-- Neither the branch that is kept nor a failed hook changes the gas used. -/
theorem settleBranch_gasUsed (e : TxEnv) (ctx branch : Context) (tx : Transaction) (msg : Message)
    (res : Response) : (settleBranch e ctx branch tx msg res).2.gasUsed = res.gasUsed := by
  unfold settleBranch
  split
  · rfl
  · split <;> rfl

theorem leftoverGas_eq {msg : Message} {res : Response} (within : res.gasUsed ≤ msg.gasLimit) :
    (leftoverGas msg res).toNat = msg.gasLimit.toNat - res.gasUsed.toNat := by
  unfold leftoverGas
  split
  · exact UInt64.toNat_sub_of_le _ _ within
  · rename_i full
    have above := UInt64.le_iff_toNat_le.mp (UInt64.not_lt.mp full)
    rw [Nat.sub_eq_zero_of_le above]
    rfl

/-- The fee for the limit and the refund of the rest leave the gas used at the price. -/
theorem refund_balance (msg : Message) {res : Response} (within : res.gasUsed ≤ msg.gasLimit)
    (nonneg : 0 ≤ msg.gasLimit.toNat * msg.gasPrice) :
    refundAmount msg (leftoverGas msg res) ≤ msg.gasLimit.toNat * msg.gasPrice ∧
      msg.gasLimit.toNat * msg.gasPrice - refundAmount msg (leftoverGas msg res) =
        res.gasUsed.toNat * msg.gasPrice := by
  have below := UInt64.le_iff_toNat_le.mp within
  have exactly : refundAmount msg (leftoverGas msg res) =
      msg.gasLimit.toNat * msg.gasPrice - res.gasUsed.toNat * msg.gasPrice := by
    rw [refundAmount, leftoverGas_eq within, Int.natCast_sub below, sub_mul]
  have used : 0 ≤ res.gasUsed.toNat * msg.gasPrice := by
    by_cases free : msg.gasPrice < 0
    · have zero : msg.gasLimit.toNat = 0 := by
        by_contra positive
        have scaled : (msg.gasLimit.toNat : ℤ) * msg.gasPrice < 0 :=
          mul_neg_of_pos_of_neg (by omega) free
        omega
      have unused : res.gasUsed.toNat = 0 := by omega
      rw [unused]
      simp
    · exact mul_nonneg (Int.natCast_nonneg _) (not_lt.mp free)
  rw [exactly]
  constructor <;> omega

end

/-- Whatever the transaction and the outcome of its execution: the sender pays the gas
used at the effective price, and the two base fees are one. -/
theorem fees_charged {e : TxEnv} {cfg : EvmConfig} {ctx counted after : Context} {tx : SdkTx}
    {msg : MsgEthereumTx} {res : Response} {simulate : Bool}
    (valid : e.ante.feemarketParams.validate = .ok ()) (config : e.evmConfig = .ok cfg)
    (london : e.ante.cfg.isLondon = true ∧ cfg.isLondon = true)
    (accepted : anteHandle e.ante ctx tx simulate = (counted, .ok ())) (only : onlyMessage tx = .ok msg)
    (applied : applyTransaction e counted msg.raw = (after, .ok res)) :
    ∃ v found fees paid kept baseFee,
      -- the ante handler: what is verified, and the fee it takes
      verifyTx e.ante tx simulate = .ok v ∧ v.msg = msg ∧
      verifyAccountBalance e.ante ctx v = (found, .ok ()) ∧
      verifyFee e.ante msg.raw v.baseFee = .ok fees ∧
      consumeFeesAndEmitEvent e.ante found fees v.sender = .ok paid ∧
      countNonce e.ante paid v = .ok counted ∧
      -- the execution: what it gives back
      refundGas e.ante kept (msg.raw.toMessage v.sender (some baseFee))
        (leftoverGas (msg.raw.toMessage v.sender (some baseFee)) res) = .ok after ∧
      -- one base fee
      FeeMarket.anteBaseFee e.ante.env.bank e.ante.cfg.isLondon e.ante.feemarketParams =
        .ok (some baseFee) ∧
      FeeMarket.executionBaseFee e.ante.env.bank cfg.isLondon e.ante.feemarketParams = some baseFee ∧
      -- and the balance of the two
      refundAmount (msg.raw.toMessage v.sender (some baseFee))
          (leftoverGas (msg.raw.toMessage v.sender (some baseFee)) res) ≤
        Coins.amountOf fees e.ante.env.bank.denom ∧
      Coins.amountOf fees e.ante.env.bank.denom - refundAmount (msg.raw.toMessage v.sender (some baseFee))
          (leftoverGas (msg.raw.toMessage v.sender (some baseFee)) res) =
        res.gasUsed.toNat * min msg.raw.gasFeeCap (baseFee + msg.raw.gasTipCap) := by
  obtain ⟨v, found, paid, verified, balance, charged, raised⟩ := anteHandle_ok accepted
  obtain ⟨same, recovered, read⟩ := verifyTx_ok verified
  obtain rfl : v.msg = msg := Except.ok.inj (same.symm.trans only)
  obtain ⟨_, -, charged⟩ := bind_ok charged
  obtain ⟨fees, fee, taken⟩ := bind_ok charged
  obtain ⟨baseFee, present, made⟩ := verifyFee_amount fee
  -- the readers agree
  have ante : FeeMarket.anteBaseFee e.ante.env.bank e.ante.cfg.isLondon e.ante.feemarketParams =
      .ok (some baseFee) := by
    rw [← present]
    exact mapError_ok read
  have execution : FeeMarket.executionBaseFee e.ante.env.bank cfg.isLondon e.ante.feemarketParams =
      some baseFee := by
    rw [london.2, ← london.1]
    exact Except.ok.inj ((FeeMarket.anteBaseFee_eq valid _ _).symm.trans ante)
  -- the message that was run is the one of this base fee
  obtain ⟨cfg', core, branch, inner, kept, config', built, ran, settled, refunded⟩ :=
    applyTransaction_ok applied
  obtain rfl : cfg' = cfg := Except.ok.inj (config'.symm.trans config)
  obtain ⟨sender, recovered', shape⟩ := coreMessage_ok built
  obtain rfl : sender = v.sender := Except.ok.inj (recovered'.symm.trans recovered)
  rw [execution] at shape
  subst shape
  have within : res.gasUsed ≤ v.msg.raw.gas := by
    have unchanged := settleBranch_gasUsed e counted branch v.msg.raw
      (v.msg.raw.toMessage v.sender (some baseFee)) inner
    rw [settled] at unchanged
    rw [unchanged]
    exact applyMessage_gasUsed_le ran
  have amount := (feeCoins_amount made).1
  have nonneg := consumeFees_nonneg made taken
  rw [feeAmount_eq _ v.sender] at amount nonneg
  obtain ⟨less, net⟩ := refund_balance (v.msg.raw.toMessage v.sender (some baseFee)) within nonneg
  refine ⟨v, found, fees, paid, kept, baseFee, verified, rfl, balance, fee, taken, raised, refunded, ante,
    execution, ?_, ?_⟩
  · rw [amount]
    exact less
  · rw [amount, min_comm, add_comm]
    exact net

/-- The market's transaction buys 60,000 gas and uses 50,000 of it. -/
theorem fees_charged_market :
    ∃ counted after res v fees, anteHandle marketKeeper.ante marketContext marketEnvelope false =
        (counted, .ok ()) ∧
      applyTransaction marketKeeper counted marketTx = (after, .ok res) ∧ res.gasUsed = 50000 ∧
      verifyTx marketKeeper.ante marketEnvelope false = .ok v ∧
      verifyFee marketKeeper.ante marketTx v.baseFee = .ok fees ∧
      Coins.amountOf fees "utest" - refundAmount (marketTx.toMessage v.sender (some (10 ^ 12)))
          (leftoverGas (marketTx.toMessage v.sender (some (10 ^ 12))) res) =
        50000 * min marketTx.gasFeeCap (10 ^ 12 + marketTx.gasTipCap) := by
  have accepted : (anteHandle marketKeeper.ante marketContext marketEnvelope false).2 = .ok () :=
    toOption_some (by decide +kernel)
  have ran : (applyTransaction marketKeeper (anteHandle marketKeeper.ante marketContext marketEnvelope
      false).1 marketTx).2.toOption.map (·.gasUsed) = some 50000 := by decide +kernel
  obtain ⟨res, completed, used⟩ := Option.map_eq_some_iff.mp ran
  generalize handled : anteHandle marketKeeper.ante marketContext marketEnvelope false = ante at *
  obtain ⟨counted, verdict⟩ := ante
  subst accepted
  generalize delivered : applyTransaction marketKeeper counted marketTx = execution at *
  obtain ⟨after, outcome⟩ := execution
  obtain rfl : outcome = .ok res := toOption_some completed
  obtain ⟨v, found, fees, paid, kept, baseFee, verified, -, -, fee, -, -, -, -, read, -, net⟩ :=
    fees_charged (toOption_some (by decide +kernel)) (show marketKeeper.evmConfig = .ok blockConfig from rfl)
      ⟨rfl, rfl⟩ handled (show onlyMessage marketEnvelope = .ok ⟨_, marketTx⟩ from rfl) delivered
  have baseFeeRead : FeeMarket.executionBaseFee marketBank true marketParams = some (10 ^ 12) := by
    decide +kernel
  obtain rfl : baseFee = 10 ^ 12 := Option.some.inj (read.symm.trans baseFeeRead)
  rw [used] at net
  exact ⟨counted, after, res, v, fees, rfl, delivered, used, verified, fee, net⟩

end OgEvm.Ante
