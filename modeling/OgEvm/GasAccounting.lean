import OgEvm.TxReplay

/- The gas accounts of a message. The intrinsic gas, what the EVM leaves, the refund, the
floor for the data and the minimum for the limit follow one another, and each is taken
from what covers it. -/
namespace OgEvm.Vm

open ExceptFacts Decimals

/-- The EVM returns at most the gas it was given. -/
structure Frugal (evm : Evm) : Prop where
  create : ∀ {state sender data gas value result},
    evm.create state sender data gas value = .ok result → result.leftoverGas ≤ gas
  call : ∀ {state sender recipient data gas value result},
    evm.call state sender recipient data gas value = .ok result → result.leftoverGas ≤ gas

section

variable {env : Env} {cfg : EvmConfig} {evm : Evm} {txConfig : TxConfig} {ctx : Context} {msg : Message}

theorem runMessage_frugal (frugal : Frugal evm) {gas : UInt64} {value : BitVec 256} {state : StateDb}
    {result : EvmResult} (ran : runMessage env cfg evm msg gas value state = .ok result) :
    result.leftoverGas ≤ gas := by
  unfold runMessage at ran
  split at ran
  · obtain ⟨created, run, rest⟩ := bind_ok ran
    have least := frugal.create run
    cases rest
    exact least
  · exact frugal.call ran

theorem billGas_ok (cfg : EvmConfig) {gasLimit leftoverGas : UInt64} (floor availableRefund : UInt64)
    (within : leftoverGas ≤ gasLimit) :
    ∃ bill, billGas cfg gasLimit floor leftoverGas availableRefund = .ok bill := by
  unfold billGas
  rw [if_neg (UInt64.not_lt.mpr within)]
  dsimp only
  split <;> exact ⟨_, rfl⟩

/-- The parts of the bill against the floor and each other. -/
theorem billGas_bounds {gasLimit floor leftoverGas availableRefund : UInt64} {bill : GasBill}
    (billed : billGas cfg gasLimit floor leftoverGas availableRefund = .ok bill) :
    (cfg.isPrague = true → floor ≤ bill.temporaryGasUsed) ∧ bill.temporaryGasUsed ≤ bill.maxUsedGas := by
  unfold billGas at billed
  split at billed
  · cases billed
  · have refunded := gasToRefund_le availableRefund (gasLimit - leftoverGas) (refundQuotient cfg)
    dsimp only at billed
    generalize gasToRefund availableRefund (gasLimit - leftoverGas) (refundQuotient cfg) = refund
      at billed refunded
    have temporary := UInt64.toNat_sub_of_le _ _ refunded
    rw [UInt64.le_iff_toNat_le] at refunded
    split at billed
    · cases billed
      dsimp only
      simp only [UInt64.le_iff_toNat_le, UInt64.lt_iff_toNat_lt]
      refine ⟨fun _ => ?_, ?_⟩
      · split <;> omega
      · split <;> split <;> omega
    · rename_i before
      cases billed
      refine ⟨fun prague => absurd prague before, ?_⟩
      dsimp only
      rw [UInt64.le_iff_toNat_le]
      omega

/-- The refund is capped by its share of what was consumed. -/
theorem gasToRefund_cap (availableRefund gasConsumed quotient : UInt64) :
    (gasToRefund availableRefund gasConsumed quotient).toNat ≤ gasConsumed.toNat / quotient.toNat := by
  unfold gasToRefund
  dsimp only
  split
  · rename_i less
    rw [UInt64.lt_iff_toNat_lt, UInt64.toNat_div] at less
    omega
  · rw [UInt64.toNat_div]

/-- Where a transition stops other than by its gas: before the EVM runs, in the StateDB, or
at the commit. -/
inductive StopsElsewhere (env : Env) (cfg : EvmConfig) (msg : Message) : Halt → Prop
  | limit {halt : Halt} (refused : requiredGas cfg msg = .error halt) : StopsElsewhere env cfg msg halt
  | value {reason : String} (refused : BalanceHandler.uint256FromBigInt msg.value = .error reason) :
      StopsElsewhere env cfg msg (.error (.other, reason))
  | stateDb (cause : DbPanic) : StopsElsewhere env cfg msg (.panic (.stateDb cause))
  | commit {state committed : StateDb} {err : GoError}
      (refused : StateDb.commit env state = .ok (committed, some err)) :
      StopsElsewhere env cfg msg (.error (Erc20.wrapError err "failed to commit stateDB"))

theorem onStateDb_stops {α : Type} (run : Except DbPanic α) :
    Avoids (fun halt => ¬ StopsElsewhere env cfg msg halt) (onStateDb run) := by
  cases run with
  | error cause => exact Avoids.error (not_not_intro (.stateDb cause))
  | ok value => exact Avoids.ok value

/-- The bill is never refused. -/
theorem executeMessage_stops (frugal : Frugal evm) (env : Env) (cfg : EvmConfig) (txConfig : TxConfig)
    (ctx : Context) (msg : Message) :
    Avoids (fun halt => ¬ StopsElsewhere env cfg msg halt) (executeMessage env cfg evm txConfig ctx msg) := by
  unfold executeMessage
  refine Avoids.bind ?_ fun gas required => ?_
  · intro halt refused
    exact not_not_intro (.limit refused)
  obtain ⟨intrinsic, floor⟩ := gas
  refine Avoids.bind (onStateDb_stops _) fun state prepared => Avoids.bind ?_ fun value converted => ?_
  · cases refused : BalanceHandler.uint256FromBigInt msg.value with
    | error reason => exact Avoids.error (not_not_intro (.value refused))
    | ok value => exact Avoids.ok value
  refine Avoids.bind (onStateDb_stops _) fun result ran => ?_
  have least := runMessage_frugal frugal (mapError_ok ran)
  have covered := (requiredGas_le required).1
  have within : result.leftoverGas ≤ msg.gasLimit := by
    rw [UInt64.le_iff_toNat_le, UInt64.toNat_sub_of_le _ _ covered] at least
    rw [UInt64.le_iff_toNat_le]
    omega
  obtain ⟨bill, billed⟩ := billGas_ok cfg floor result.state.refund within
  rw [billed]
  exact Avoids.ok _

/-- The gas of an answered message: every subtraction and the one addition stay in range, and
what is reported is within its bounds. -/
structure Accounted (cfg : EvmConfig) (msg : Message) (internal : Bool)
    (intrinsic floor leftoverGas refund : UInt64) (res : Response) : Prop where
  intrinsic_le : intrinsic ≤ msg.gasLimit
  leftover_le : leftoverGas ≤ msg.gasLimit - intrinsic
  refund_le : refund ≤ msg.gasLimit - leftoverGas
  refund_cap : refund.toNat ≤ (msg.gasLimit - leftoverGas).toNat / (refundQuotient cfg).toNat
  refund_fits : leftoverGas.toNat + refund.toNat ≤ msg.gasLimit.toNat
  floor_le : floor ≤ msg.gasLimit
  floor_paid : cfg.isPrague = true → floor ≤ res.gasUsed
  gasUsed_le : res.gasUsed ≤ msg.gasLimit
  minimum : internal = false → (msg.gasLimit.toNat : ℤ) * (cfg.minGasMultiplier.getD Decimal.zero).raw / 10 ^ 18 ≤
    res.gasUsed.toNat
  capped : internal = true → res.gasUsed ≤ res.maxUsedGas
  balance : (msg.gasLimit - res.gasUsed).toNat + res.gasUsed.toNat = msg.gasLimit.toNat

/-- The minimum is the share of the limit, rounded down. -/
theorem minimumGasUsed_truncate (cfg : EvmConfig) (gasLimit : UInt64) : (minimumGasUsed cfg gasLimit).truncateInt =
      (gasLimit.toNat : ℤ) * (cfg.minGasMultiplier.getD Decimal.zero).raw / 10 ^ 18 := by
  have product : minimumGasUsed cfg gasLimit =
      ⟨gasLimit.toNat * (cfg.minGasMultiplier.getD Decimal.zero).raw⟩ := Decimal.mul_ofInt _ _
  rw [Decimal.truncateInt_nonneg (minimumGasUsed_range cfg gasLimit).1, product]
  rfl

/-- A message that is run to its bill is answered, within its accounts. -/
theorem respond_accounted (frugal : Frugal evm) (small : msg.gasLimit.toNat ≤ 2 ^ 63 - 1)
    {executed : Executed} (ran : executeMessage env cfg evm txConfig ctx msg = .ok executed)
    (internal : Bool) (logs : List Log) : ∃ intrinsic floor res, respond cfg msg internal executed logs = .ok res ∧
      cfg.intrinsicGas msg.data msg.accessList msg.setCodeAuthorizations msg.recipient.isNone = .ok intrinsic ∧
      (cfg.isPrague = true → cfg.floorDataGas msg.data = .ok floor) ∧
      Accounted cfg msg internal intrinsic floor executed.result.leftoverGas
        (gasToRefund executed.result.state.refund (msg.gasLimit - executed.result.leftoverGas)
          (refundQuotient cfg)) res := by
  obtain ⟨intrinsic, floor, state, value, required, -, -, ended, billed⟩ := executeMessage_ok ran
  obtain ⟨counted, covered, enough, floored⟩ := requiredGas_ok required
  have least := runMessage_frugal frugal ended
  have balance := billGas_balance billed enough
  obtain ⟨paid, capped⟩ := billGas_bounds billed
  have charged := chargedGas_eq cfg (by omega) internal balance
  obtain ⟨-, -, most⟩ := minimumGasUsed_range cfg msg.gasLimit
  have share := minimumGasUsed_truncate cfg msg.gasLimit
  have refunded := gasToRefund_le executed.result.state.refund (msg.gasLimit - executed.result.leftoverGas)
    (refundQuotient cfg)
  have cap := gasToRefund_cap executed.result.state.refund (msg.gasLimit - executed.result.leftoverGas)
    (refundQuotient cfg)
  generalize gasToRefund executed.result.state.refund (msg.gasLimit - executed.result.leftoverGas)
    (refundQuotient cfg) = refund at *
  have within : executed.result.leftoverGas ≤ msg.gasLimit := by
    rw [UInt64.le_iff_toNat_le, UInt64.toNat_sub_of_le _ _ covered] at least
    rw [UInt64.le_iff_toNat_le]
    omega
  have consumed := UInt64.toNat_sub_of_le _ _ within
  generalize selected : (if internal then executed.bill.temporaryGasUsed.toNat
    else max executed.bill.temporaryGasUsed.toNat (minimumGasUsed cfg msg.gasLimit).truncateInt.toNat) = used
    at charged
  have used_le : used ≤ msg.gasLimit.toNat := by
    rw [← selected]
    split <;> omega
  have used_ge : executed.bill.temporaryGasUsed.toNat ≤ used := by
    rw [← selected]
    split <;> omega
  have reported : (UInt64.ofNat used).toNat = used := UInt64.toNat_ofNat_of_lt' (by
    change used < 2 ^ 64
    omega)
  have final : UInt64.ofNat used ≤ msg.gasLimit := by
    rw [UInt64.le_iff_toNat_le, reported]
    exact used_le
  have answered : respond cfg msg internal executed logs = .ok
      { gasUsed := UInt64.ofNat used
        maxUsedGas := executed.bill.maxUsedGas
        vmError := executed.result.vmErr.getD ""
        ret := if executed.result.vmErr.getD "" = "execution reverted" then executed.result.returnData
          else executed.result.ret
        logs := logs } := by
    unfold respond
    rw [charged]
    rfl
  refine ⟨intrinsic, floor, _, answered, counted, floored, ?_⟩
  exact
    { intrinsic_le := covered
      leftover_le := least
      refund_le := refunded
      refund_cap := cap
      refund_fits := by
        rw [UInt64.le_iff_toNat_le] at refunded within
        omega
      floor_le := enough
      floor_paid := by
        intro prague
        have floored := paid prague
        rw [UInt64.le_iff_toNat_le] at floored ⊢
        rw [reported]
        omega
      gasUsed_le := final
      minimum := by
        intro outside
        rw [← share, reported, ← selected, outside]
        simp only [Bool.false_eq_true, if_false]
        omega
      capped := by
        intro inside
        rw [inside] at selected
        rw [UInt64.le_iff_toNat_le] at capped ⊢
        rw [reported, ← selected]
        exact capped
      balance := by
        rw [UInt64.toNat_sub_of_le _ _ final, reported]
        omega }

/-- The gas accounting of `ApplyMessageWithConfig`: no message is stopped by it, and every answer
is accounted for. -/
theorem gas_accounting (env : Env) (cfg : EvmConfig) {evm : Evm} (txConfig : TxConfig) (commit internal : Bool)
    (ctx : Context) {msg : Message} (small : msg.gasLimit.toNat ≤ 2 ^ 63 - 1) (frugal : Frugal evm) :
    (∀ halt, (applyMessageWithConfig env cfg evm txConfig commit internal ctx msg).2 = .error halt →
      StopsElsewhere env cfg msg halt) ∧
    ∀ res, (applyMessageWithConfig env cfg evm txConfig commit internal ctx msg).2 = .ok res →
      ∃ intrinsic floor executed, executeMessage env cfg evm txConfig ctx msg = .ok executed ∧
        cfg.intrinsicGas msg.data msg.accessList msg.setCodeAuthorizations msg.recipient.isNone = .ok intrinsic ∧
        (cfg.isPrague = true → cfg.floorDataGas msg.data = .ok floor) ∧
        Accounted cfg msg internal intrinsic floor executed.result.leftoverGas
          (gasToRefund executed.result.state.refund (msg.gasLimit - executed.result.leftoverGas)
            (refundQuotient cfg)) res := by
  generalize applied : applyMessageWithConfig env cfg evm txConfig commit internal ctx msg = outcome
  obtain ⟨after, answer⟩ := outcome
  dsimp only
  obtain ⟨halt, stopped, -, rfl⟩ | ⟨executed, ran, ending⟩ := applyMessage_cases applied
  · refine ⟨?_, fun res same => by cases same⟩
    intro other same
    cases same
    exact not_not.mp (executeMessage_stops frugal env cfg txConfig ctx msg halt stopped)
  · obtain ⟨-, cause, -, -, rfl⟩ | ⟨-, committed, err, refused, -, rfl⟩ | ended :=
      ending
    · refine ⟨?_, fun res same => by cases same⟩
      intro other same
      cases same
      exact .stateDb cause
    · refine ⟨?_, fun res same => by cases same⟩
      intro other same
      cases same
      exact .commit refused
    · obtain ⟨logs, same⟩ : ∃ logs, answer = respond cfg msg internal executed logs := by
        obtain ⟨-, committed, -, -, same⟩ | ⟨-, -, same⟩ := ended
        · exact ⟨_, same⟩
        · exact ⟨_, same⟩
      obtain ⟨intrinsic, floor, res, answered, counted, floored, accounted⟩ :=
        respond_accounted frugal small ran internal logs
      rw [same, answered]
      refine ⟨fun halt other => (by cases other), ?_⟩
      intro other equal
      cases equal
      exact ⟨intrinsic, floor, executed, ran, counted, floored, accounted⟩

end

/-- An EVM that does nothing. -/
def idleEvm : Evm where
  create state _ _ gas _ := .ok ⟨state, [], gas, none, []⟩
  call state _ _ _ gas _ := .ok ⟨state, [], gas, none, []⟩

theorem idleEvm_frugal : Frugal idleEvm where
  create := by
    intro state sender data gas value result created
    cases created
    exact UInt64.le_refl gas
  call := by
    intro state sender recipient data gas value result called
    cases called
    exact UInt64.le_refl gas

open Ante in
theorem gas_accounting_market :
    ∃ res, (applyMessageWithConfig ⟨marketBank, bytesToHash⟩ blockConfig idleEvm ⟨zeroHash, 0⟩ true false
        marketContext (marketTx.toMessage (bytesToAddress [7]) none)).2 = .ok res ∧
      21000 ≤ res.gasUsed ∧ res.gasUsed ≤ 60000 ∧ (30000 : ℤ) ≤ res.gasUsed.toNat := by
  have answered : (applyMessageWithConfig ⟨marketBank, bytesToHash⟩ blockConfig idleEvm ⟨zeroHash, 0⟩ true
      false marketContext (marketTx.toMessage (bytesToAddress [7]) none)).2.toOption.isSome = true := by
    decide +kernel
  obtain ⟨res, held⟩ := Option.isSome_iff_exists.mp answered
  obtain ⟨-, accounts⟩ := gas_accounting ⟨marketBank, bytesToHash⟩ blockConfig ⟨zeroHash, 0⟩ true false
    marketContext (show (marketTx.toMessage (bytesToAddress [7]) none).gasLimit.toNat ≤ 2 ^ 63 - 1 by decide)
    idleEvm_frugal
  obtain ⟨intrinsic, floor, executed, -, -, floored, accounted⟩ := accounts res (toOption_some held)
  have least : floor = 21000 := (Except.ok.inj (floored rfl)).symm
  refine ⟨res, toOption_some held, ?_, accounted.gasUsed_le, ?_⟩
  · rw [← least]
    exact accounted.floor_paid rfl
  · exact accounted.minimum rfl

end OgEvm.Vm
