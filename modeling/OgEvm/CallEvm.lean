import OgEvm.StateDbAside
import OgEvm.StateTransition

/- CallEVM: the calls that other modules make to contracts, and the gas meters they
are charged to. -/
namespace OgEvm.Vm

open ExceptFacts

inductive MeterPanic where
  | outOfGas
  | overflow
deriving DecidableEq

/-- The gas meter of a context: the store package's, or x/vm's `infiniteGasMeterWithLimit`,
whose limit is never enforced. -/
structure Meter where
  infinite : Bool
  limit : UInt64
  consumed : UInt64
deriving DecidableEq

namespace Meter

def newInfiniteGasMeterWithLimit (limit : UInt64) : Meter := ⟨true, limit, 0⟩

/-- An overflow leaves zero in the one meter and the largest amount in the other. -/
def consumeGas (meter : Meter) (amount : UInt64) : Meter × Option MeterPanic :=
  if 2 ^ 64 ≤ meter.consumed.toNat + amount.toNat then
    ({ meter with consumed := if meter.infinite then 0 else -1 }, some .overflow)
  else
    let meter := { meter with consumed := meter.consumed + amount }
    (meter, if !meter.infinite && meter.limit < meter.consumed then some .outOfGas else none)

def gasRemaining (meter : Meter) : UInt64 :=
  if meter.limit < meter.consumed then 0 else meter.limit - meter.consumed

def isOutOfGas (meter : Meter) : Bool := !meter.infinite && meter.limit ≤ meter.consumed

/-- `ResetGasMeterAndConsumeGas`. -/
def resetAndConsumeGas (meter : Meter) (gasUsed : UInt64) : Meter × Option MeterPanic :=
  consumeGas { meter with consumed := 0 } gasUsed

end Meter

/-- An sdk.Context with its gas meter. -/
structure CallContext where
  ctx : Context
  meter : Meter

inductive CallHalt where
  | error (err : GoError)
  | panic (cause : TransitionPanic)
  | gas (cause : MeterPanic)
  /-- A method of a nil big.Int. -/
  | nilBalance

/-- What the calling modules are assembled with, and the configuration of the block. -/
structure CallKeeper where
  env : Env
  evmConfig : Except GoError EvmConfig

/-- How a call ends. `gas` is what the EVM used for it, also when nothing of it could be
committed; it is kept for reference only. -/
structure CallReport where
  after : CallContext
  gas : ℕ
  outcome : Except CallHalt Response

/-- `config.DefaultGasCap`. -/
def defaultGasCap : UInt64 := 25000000

def emptyTxConfig : TxConfig := ⟨zeroHash, 0⟩

def callMessage (sender : Address) (contract : Option Address) (nonce : UInt64) (data : Bytes) :
    Message where
  sender := sender
  recipient := contract
  nonce := nonce
  value := 0
  gasLimit := defaultGasCap
  gasPrice := 0
  gasFeeCap := 0
  gasTipCap := 0
  data := data
  accessList := []
  setCodeAuthorizations := []

def errUnknownAddress : GoError := (.other, "account does not exist: unknown address")

def errVMExecution (vmError : String) : GoError :=
  Erc20.wrapError (.other, "evm transaction execution failed") vmError

/-- The gas of a message that the EVM ran. -/
def executedGas (run : Except Halt Executed) : ℕ :=
  match run with
  | .ok executed => executed.bill.temporaryGasUsed.toNat
  | .error _ => 0

/-- The end of CallEVMWithData: the meter of the context is charged. -/
def chargeCall (call : CallContext) (ctx : Context) (gas : ℕ) : Except Halt Response → CallReport
  | .error (.error err) => ⟨⟨ctx, call.meter⟩, gas, .error (.error err)⟩
  | .error (.panic cause) => ⟨⟨ctx, call.meter⟩, gas, .error (.panic cause)⟩
  | .ok res =>
    if res.failed then
      match call.meter.resetAndConsumeGas call.meter.limit with
      | (meter, some cause) => ⟨⟨ctx, meter⟩, gas, .error (.gas cause)⟩
      | (meter, none) => ⟨⟨ctx, meter⟩, gas, .error (.error (errVMExecution res.vmError))⟩
    else
      match call.meter.consumeGas res.gasUsed with
      | (meter, some cause) => ⟨⟨ctx, meter⟩, gas, .error (.gas cause)⟩
      | (meter, none) => ⟨⟨ctx, meter⟩, gas, .ok res⟩

/-- `CallEVMWithData`. The gas cap is not read. -/
def callEVMWithData (k : CallKeeper) (evm : Evm) (call : CallContext) (sender : Address)
    (contract : Option Address) (data : Bytes) (commit : Bool) (_gasCap : Option ℤ) : CallReport :=
  match call.ctx.store.accounts sender.toList with
  | none => ⟨call, 0, .error (.error errUnknownAddress)⟩
  | some account =>
    match k.evmConfig with
    | .error err => ⟨call, 0, .error (.error (Erc20.wrapError err "failed to load evm config"))⟩
    | .ok cfg =>
      let msg := callMessage sender contract account.sequence data
      let (ctx, applied) :=
        applyMessageWithConfig k.env cfg evm emptyTxConfig commit true call.ctx msg
      chargeCall call ctx (executedGas (executeMessage k.env cfg evm emptyTxConfig call.ctx msg))
        applied

/-- `CallEVM`, on arguments that are packed or cannot be. -/
def callEVM (k : CallKeeper) (evm : Evm) (call : CallContext) (sender contract : Address)
    (commit : Bool) (gasCap : Option ℤ) (method : String) (packed : Except GoError Bytes) : CallReport :=
  match packed with
  | .error err =>
    ⟨call, 0, .error (.error (Erc20.wrapError (.other, "contract ABI pack failed")
      (Erc20.wrapError err "failed to create transaction data").2))⟩
  | .ok data =>
    let report := callEVMWithData k evm call sender (some contract) data commit gasCap
    match report.outcome with
    | .error (.error err) => { report with outcome := .error (.error (Erc20.wrapError err
        ("contract call failed: method '" ++ method ++ "', contract '" ++ addressHex k.env contract ++ "'"))) }
    | _ => report

/-! The gas of one call. -/

section

variable {env : Env} {cfg : EvmConfig} {evm : Evm} {txConfig : TxConfig} {ctx : Context} {msg : Message}

/-- The floor grows with the data. -/
theorem requiredGas_floor {required : UInt64 × UInt64} (enough : requiredGas cfg msg = .ok required) :
    required.2.toNat ≤ 21000 + 40 * msg.data.length := by
  unfold requiredGas at enough
  split at enough
  · cases enough
  · split at enough
    · cases enough
    · split at enough
      · split at enough
        · cases enough
        · rename_i floor computed
          split at enough
          · cases enough
          · cases enough
            exact cfg.floor_le computed
      · cases enough
        exact Nat.zero_le _

theorem executeMessage_ok {executed : Executed} (ran : executeMessage env cfg evm txConfig ctx msg = .ok executed) :
    ∃ intrinsic floor state value, requiredGas cfg msg = .ok (intrinsic, floor) ∧
      StateDb.begin ctx txConfig (some ⟨cfg.rules, msg.sender, Vector.replicate 20 0, msg.recipient,
        cfg.activePrecompiles, msg.accessList⟩) = .ok state ∧ BalanceHandler.uint256FromBigInt msg.value = .ok value ∧
      runMessage env cfg evm msg (msg.gasLimit - intrinsic) value state = .ok executed.result ∧
      billGas cfg msg.gasLimit floor executed.result.leftoverGas executed.result.state.refund =
        .ok executed.bill := by
  obtain ⟨⟨intrinsic, floor⟩, required, ran⟩ := bind_ok ran
  obtain ⟨state, prepared, ran⟩ := bind_ok ran
  obtain ⟨value, converted, ran⟩ := bind_ok ran
  obtain ⟨result, ended, ran⟩ := bind_ok ran
  obtain ⟨bill, billed, final⟩ := bind_ok ran
  cases final
  exact ⟨intrinsic, floor, state, value, required, mapError_ok prepared, mapError_ok converted,
    mapError_ok ended, billed⟩

theorem executedGas_le (env : Env) (cfg : EvmConfig) (evm : Evm) (txConfig : TxConfig) (ctx : Context)
    (msg : Message) : executedGas (executeMessage env cfg evm txConfig ctx msg) ≤ msg.gasLimit.toNat := by
  cases ran : executeMessage env cfg evm txConfig ctx msg with
  | error halt => exact Nat.zero_le _
  | ok executed =>
    obtain ⟨intrinsic, floor, state, value, required, -, -, -, billed⟩ := executeMessage_ok ran
    exact UInt64.le_iff_toNat_le.mp (billGas_le billed (requiredGas_le required).2)

end

/-- The message reaches the EVM: its sender and the block's configuration are found, and
the default cap covers what its data costs. -/
def Admitted (k : CallKeeper) (ctx : Context) (sender : Address) (contract : Option Address)
    (data : Bytes) : Prop :=
  ∃ account cfg required, ctx.store.accounts sender.toList = some account ∧
    k.evmConfig = .ok cfg ∧
    requiredGas cfg (callMessage sender contract account.sequence data) = .ok required

section

variable {k : CallKeeper} {evm : Evm} {call : CallContext} {sender : Address} {contract : Option Address}
  {data : Bytes} {commit : Bool} {gasCap : Option ℤ}

theorem chargeCall_gas (call : CallContext) (ctx : Context) (gas : ℕ) (applied : Except Halt Response) :
    (chargeCall call ctx gas applied).gas = gas := by
  unfold chargeCall
  split
  · rfl
  · rfl
  · split
    · split <;> rfl
    · split <;> rfl

theorem callEVMWithData_gas_le : (callEVMWithData k evm call sender contract data commit gasCap).gas ≤ 25000000 := by
  unfold callEVMWithData
  cases call.ctx.store.accounts sender.toList with
  | none => exact Nat.zero_le _
  | some account =>
    cases k.evmConfig with
    | error err => exact Nat.zero_le _
    | ok cfg =>
      dsimp only
      rw [chargeCall_gas]
      exact executedGas_le _ _ _ _ _ _

theorem callEVMWithData_refused (evm : Evm) (commit : Bool) (gasCap : Option ℤ)
    (refused : ¬ Admitted k call.ctx sender contract data) :
    (callEVMWithData k evm call sender contract data commit gasCap).gas = 0 ∧
      ∀ res, (callEVMWithData k evm call sender contract data commit gasCap).outcome ≠ .ok res := by
  unfold callEVMWithData
  cases found : call.ctx.store.accounts sender.toList with
  | none => exact ⟨rfl, fun res wrong => by cases wrong⟩
  | some account =>
    cases configured : k.evmConfig with
    | error err => exact ⟨rfl, fun res wrong => by cases wrong⟩
    | ok cfg =>
      dsimp only
      unfold applyMessageWithConfig
      cases ran : executeMessage k.env cfg evm emptyTxConfig call.ctx
          (callMessage sender contract account.sequence data) with
      | error halt =>
        refine ⟨chargeCall_gas _ _ _ _, ?_⟩
        cases halt <;> exact fun res wrong => by cases wrong
      | ok executed =>
        obtain ⟨intrinsic, floor, -, -, required, -⟩ := executeMessage_ok ran
        exact absurd ⟨account, cfg, _, found, configured, required⟩ refused

end

/-! A contract that only burns gas. -/

/-- It returns the given data and leaves the given gas, and writes nothing. -/
def burner (leftover : UInt64) (ret : Bytes) : Evm where
  create state _ _ _ _ := .ok ⟨state, ret, leftover, none, []⟩
  call state _ _ _ _ _ := .ok ⟨state, ret, leftover, none, []⟩

/-- Nothing that a commit writes or a bill reads has changed. -/
structure Idle (s t : StateDb) : Prop where
  ctx : t.ctx = s.ctx
  cacheCtx : t.cacheCtx = s.cacheCtx
  dirties : t.journal.dirties = s.journal.dirties
  refund : t.refund = s.refund
  logs : t.logs = s.logs

section

variable {env : Env} {cfg : EvmConfig} {s t u : StateDb}

theorem Idle.trans (first : Idle s t) (second : Idle t u) : Idle s u where
  ctx := second.ctx.trans first.ctx
  cacheCtx := second.cacheCtx.trans first.cacheCtx
  dirties := second.dirties.trans first.dirties
  refund := second.refund.trans first.refund
  logs := second.logs.trans first.logs

theorem getCode_idle (env : Env) (addressed : StateDb.Addressed s) (addr : Address) :
    Idle s (StateDb.getCode env s addr).2 := by
  have cached : StateDb.Cached env StateDb.noSlot s (StateDb.getCode env s addr).2 :=
    StateDb.ask_cached addressed (.getCode addr)
  refine ⟨?_, ?_, ?_, ?_, ?_⟩ <;> rw [cached.rest]

theorem addAddressToAccessList_idle (s : StateDb) (addr : Address) :
    Idle s (StateDb.addAddressToAccessList s addr) := by
  unfold StateDb.addAddressToAccessList
  split
  · exact ⟨rfl, rfl, rfl, rfl, rfl⟩
  · exact ⟨rfl, rfl, rfl, rfl, rfl⟩

theorem getStateObject_refund {addr : Address} {found : Option StateObject}
    (loading : StateDb.getStateObject env s addr = (found, t)) : t.refund = s.refund := by
  rw [(StateDb.loading_cached StateDb.noSlot loading).rest]

theorem setNonce_refund (env : Env) (s : StateDb) (addr : Address) (nonce : UInt64) :
    (StateDb.setNonce env s addr nonce).refund = s.refund := by
  unfold StateDb.setNonce StateDb.getOrNewStateObject StateDb.createObject
  rcases loading : StateDb.getStateObject env s addr with ⟨_ | found, t⟩
  · dsimp only
    rcases again : StateDb.getStateObject env t addr with ⟨_ | found, u⟩
    · exact (getStateObject_refund again).trans (getStateObject_refund loading)
    · exact (getStateObject_refund again).trans (getStateObject_refund loading)
  · have same := getStateObject_refund loading
    exact same

/-- The burner leaves the state it is called with, up to what the keeper warms before. -/
theorem runCall_burner (env : Env) (cfg : EvmConfig) (addressed : StateDb.Addressed s) {msg : Message}
    (plain : msg.setCodeAuthorizations = [])
    (leftover gas : UInt64) (ret : Bytes) (value : BitVec 256) (recipient : Address) :
    ∃ t, runCall env cfg (burner leftover ret) msg recipient gas value s =
      .ok ⟨t, ret, leftover, none, []⟩ ∧ Idle s t := by
  have read := getCode_idle env addressed recipient
  unfold runCall
  rw [plain]
  dsimp only [List.foldl_nil, burner]
  refine ⟨_, rfl, ?_⟩
  split
  · exact read.trans (addAddressToAccessList_idle _ _)
  · exact read

theorem runCreate_burner (env : Env) (s : StateDb) (msg : Message) (leftover gas : UInt64) (ret : Bytes)
    (value : BitVec 256) :
    ∃ t, runCreate env (burner leftover ret) msg gas value s = .ok ⟨t, ret, leftover, none, []⟩ ∧
      t.refund = s.refund := by
  have reset := setNonce_refund env s msg.sender msg.nonce
  have read : (StateDb.getNonce env (StateDb.setNonce env s msg.sender msg.nonce) msg.sender).2.refund =
      s.refund := by
    unfold StateDb.getNonce
    rcases loading : StateDb.getStateObject env (StateDb.setNonce env s msg.sender msg.nonce) msg.sender
      with ⟨found, t⟩
    exact (getStateObject_refund loading).trans reset
  refine ⟨_, rfl, ?_⟩
  dsimp only
  split
  · exact (setNonce_refund env _ _ _).trans read
  · exact read

/-- Every message with a plain access list finds a prepared StateDB. -/
theorem begin_exists (cfg : EvmConfig) (ctx : Context) (sender : Address) (recipient : Option Address) :
    ∃ state, StateDb.begin ctx emptyTxConfig (some ⟨cfg.rules, sender, Vector.replicate 20 0, recipient,
        cfg.activePrecompiles, []⟩) = .ok state ∧ state.ctx = ctx ∧ state.cacheCtx = none ∧
      state.journal = Journal.newJournal ∧ state.refund = 0 ∧ state.logs = [] := by
  unfold StateDb.begin StateDb.prepare
  dsimp only
  rw [cfg.compatible]
  cases cfg.rules.isEIP2929 with
  | false => exact ⟨_, rfl, rfl, rfl, rfl, rfl, rfl⟩
  | true => exact ⟨_, rfl, rfl, rfl, rfl, rfl, rfl⟩

/-- What is not left over is billed, or the floor. -/
theorem billGas_burnt (cfg : EvmConfig) {gasLimit leftover : UInt64} (floor : UInt64) (fits : leftover ≤ gasLimit) :
    ∃ bill, billGas cfg gasLimit floor leftover 0 = .ok bill ∧
      gasLimit.toNat - leftover.toNat ≤ bill.temporaryGasUsed.toNat ∧
      bill.temporaryGasUsed.toNat ≤ max (gasLimit.toNat - leftover.toNat) floor.toNat := by
  have none_refunded : gasToRefund 0 (gasLimit - leftover) (refundQuotient cfg) = 0 := by
    unfold gasToRefund
    dsimp only
    split
    · rfl
    · rename_i zero
      exact UInt64.le_antisymm (UInt64.not_lt.mp zero) (UInt64.le_iff_toNat_le.mpr (Nat.zero_le _))
  have used : (gasLimit - leftover).toNat = gasLimit.toNat - leftover.toNat :=
    UInt64.toNat_sub_of_le _ _ fits
  unfold billGas
  rw [if_neg (UInt64.not_lt.mpr fits)]
  dsimp only
  rw [none_refunded, UInt64.sub_zero]
  cases cfg.isPrague with
  | false =>
    refine ⟨_, rfl, ?_⟩
    dsimp only
    omega
  | true =>
    refine ⟨_, rfl, ?_⟩
    dsimp only
    split
    · rename_i below
      have below := UInt64.lt_iff_toNat_lt.mp below
      omega
    · omega

/-- What a burner leaves: the data, and after a call nothing to commit. -/
structure Burnt (ctx : Context) (contract : Option Address) (leftover : UInt64) (ret : Bytes)
    (result : EvmResult) : Prop where
  returned : result.ret = ret ∧ result.vmErr = none ∧ result.leftoverGas = leftover
  refund : result.state.refund = 0
  clean : contract.isSome = true → result.state.ctx = ctx ∧ result.state.cacheCtx = none ∧
    result.state.journal.dirties = ∅

theorem runMessage_burner (env : Env) (cfg : EvmConfig) {ctx : Context} {contract : Option Address}
    (msg : Message) (plain : msg.setCodeAuthorizations = []) (target : msg.recipient = contract)
    (addressed : StateDb.Addressed s) (context : s.ctx = ctx) (uncached : s.cacheCtx = none)
    (fresh : s.journal = Journal.newJournal) (refund : s.refund = 0)
    (leftover gas : UInt64) (ret : Bytes) (value : BitVec 256) :
    ∃ result, runMessage env cfg (burner leftover ret) msg gas value s = .ok result ∧
      Burnt ctx contract leftover ret result := by
  unfold runMessage
  rw [target]
  cases contract with
  | none =>
    obtain ⟨t, ran, same⟩ := runCreate_burner env s msg leftover gas ret value
    refine ⟨_, ran, ⟨rfl, rfl, rfl⟩, same.trans refund, ?_⟩
    intro wrong
    cases wrong
  | some recipient =>
    obtain ⟨t, ran, idle⟩ := runCall_burner env cfg addressed plain leftover gas ret
      value recipient
    refine ⟨_, ran, ⟨rfl, rfl, rfl⟩, idle.refund.trans refund, fun _ => ⟨?_, ?_, ?_⟩⟩
    · exact idle.ctx.trans context
    · exact idle.cacheCtx.trans uncached
    · rw [idle.dirties, fresh]
      rfl

/-- A message that is let in is run on a new StateDB and billed. -/
theorem executeMessage_runs {evm : Evm} {Left : EvmResult → Prop} {env : Env} {ctx : Context} {sender : Address}
    {contract : Option Address} {nonce leftover : UInt64} {data : Bytes} {required : UInt64 × UInt64}
    (admitted : requiredGas cfg (callMessage sender contract nonce data) = .ok required)
    (runs : ∀ state gas, StateDb.Addressed state → state.ctx = ctx → state.cacheCtx = none →
      state.journal = Journal.newJournal → state.refund = 0 →
      ∃ result, runMessage env cfg evm (callMessage sender contract nonce data) gas 0 state = .ok result ∧
        Left result) (unbilled : ∀ result, Left result → result.leftoverGas = leftover ∧ result.state.refund = 0)
    (fits : leftover ≤ defaultGasCap) :
    ∃ executed, executeMessage env cfg evm emptyTxConfig ctx (callMessage sender contract nonce data) =
        .ok executed ∧ Left executed.result ∧ 25000000 - leftover.toNat ≤ executed.bill.temporaryGasUsed.toNat ∧
      executed.bill.temporaryGasUsed.toNat ≤ max (25000000 - leftover.toNat) required.2.toNat := by
  obtain ⟨state, started, context, uncached, journal, refund, -⟩ :=
    begin_exists cfg ctx sender contract
  have prepared : onStateDb (StateDb.prepare (StateDb.new ctx emptyTxConfig) cfg.rules sender
      (Vector.replicate 20 0) contract cfg.activePrecompiles []) = .ok state :=
    congrArg onStateDb started
  have addressed : StateDb.Addressed state :=
    (StateDb.prepare_sound (StateDb.new_sound ctx emptyTxConfig) started).1.addressed
  obtain ⟨result, ran, left⟩ := runs state (defaultGasCap - required.1) addressed context uncached
    journal refund
  obtain ⟨bill, billed, used⟩ := billGas_burnt cfg required.2 fits
  refine ⟨⟨result, bill⟩, ?_, left, used⟩
  have value : (BalanceHandler.uint256FromBigInt 0).mapError
      (fun reason => Halt.error (.other, reason)) = .ok 0 := rfl
  have ran : onStateDb (runMessage env cfg evm (callMessage sender contract nonce data)
      (defaultGasCap - required.1) 0 state) = .ok result := congrArg onStateDb ran
  rw [← (unbilled result left).1, ← (unbilled result left).2] at billed
  refine (bind_of_ok admitted _).trans ?_
  refine (bind_of_ok prepared _).trans ?_
  refine (bind_of_ok value _).trans ?_
  refine (bind_of_ok ran _).trans ?_
  exact bind_of_ok billed _

/-- A message that is let in burns what the burner does not leave over. -/
theorem executeMessage_burner (env : Env) (ctx : Context) (ret : Bytes) {sender : Address}
    {contract : Option Address} {nonce leftover : UInt64} {data : Bytes} {required : UInt64 × UInt64}
    (admitted : requiredGas cfg (callMessage sender contract nonce data) = .ok required)
    (fits : leftover ≤ defaultGasCap) : ∃ executed, executeMessage env cfg (burner leftover ret) emptyTxConfig ctx
        (callMessage sender contract nonce data) = .ok executed ∧ Burnt ctx contract leftover ret executed.result ∧
      25000000 - leftover.toNat ≤ executed.bill.temporaryGasUsed.toNat ∧
      executed.bill.temporaryGasUsed.toNat ≤ max (25000000 - leftover.toNat) required.2.toNat := by
  refine executeMessage_runs admitted ?_ ?_ fits
  · intro state gas addressed context uncached journal refund
    exact runMessage_burner env cfg (callMessage sender contract nonce data) rfl rfl addressed context
      uncached journal refund leftover gas ret 0
  · intro result burnt
    exact ⟨burnt.returned.2.2, burnt.refund⟩

theorem sortedDirties_clean {j : Journal} (clean : j.dirties = ∅) : j.sortedDirties = [] := by
  unfold Journal.sortedDirties
  rw [clean]
  rfl

/-- A commit with nothing dirty changes nothing. -/
theorem commit_clean (uncached : s.cacheCtx = none) (clean : s.journal.dirties = ∅) :
    StateDb.commit env s = .ok (s, none) := by
  unfold StateDb.commit StateDb.commitWithCtx
  rw [uncached]
  dsimp only
  rw [sortedDirties_clean clean]
  rfl

end

section

variable {k : CallKeeper} {call : CallContext} {sender contract : Address} {data ret : Bytes}
  {leftover : UInt64} {gasCap : Option ℤ}

theorem callEVMWithData_admitted {evm : Evm} {target : Option Address} {commit : Bool}
    {account : AuthAccount} {cfg : EvmConfig} (found : call.ctx.store.accounts sender.toList = some account)
    (configured : k.evmConfig = .ok cfg) : callEVMWithData k evm call sender target data commit gasCap =
      chargeCall call (applyMessageWithConfig k.env cfg evm emptyTxConfig commit true call.ctx
          (callMessage sender target account.sequence data)).1
        (executedGas (executeMessage k.env cfg evm emptyTxConfig call.ctx
          (callMessage sender target account.sequence data)))
        (applyMessageWithConfig k.env cfg evm emptyTxConfig commit true call.ctx
          (callMessage sender target account.sequence data)).2 := by
  unfold callEVMWithData
  rw [found]
  dsimp only
  rw [configured]

section

variable {target : Option Address} (ret : Bytes) (commit : Bool) (gasCap : Option ℤ)
  (admitted : Admitted k call.ctx sender target data) (fits : leftover ≤ defaultGasCap)

include admitted fits

/-- A call that is let in can use the whole default cap, whatever its own cap is. -/
theorem callEVMWithData_burner : 25000000 - leftover.toNat ≤
      (callEVMWithData k (burner leftover ret) call sender target data commit gasCap).gas := by
  obtain ⟨account, cfg, required, found, configured, enough⟩ := admitted
  obtain ⟨executed, ran, -, used⟩ := executeMessage_burner k.env call.ctx ret
    enough fits
  rw [callEVMWithData_admitted found configured, chargeCall_gas, ran]
  exact used.1

/-- With little data, it uses exactly what is not left over. -/
theorem callEVMWithData_burner_eq (cheap : 21000 + 40 * data.length ≤ 25000000 - leftover.toNat) :
    (callEVMWithData k (burner leftover ret) call sender target data commit gasCap).gas =
      25000000 - leftover.toNat := by
  obtain ⟨account, cfg, required, found, configured, enough⟩ := admitted
  obtain ⟨executed, ran, -, least, most⟩ := executeMessage_burner k.env call.ctx
    ret enough fits
  have floor : required.2.toNat ≤ 21000 + 40 * data.length := requiredGas_floor enough
  rw [callEVMWithData_admitted found configured, chargeCall_gas, ran]
  change executed.bill.temporaryGasUsed.toNat = 25000000 - leftover.toNat
  omega

end

theorem applyMessage_burner (k : CallKeeper) (ret : Bytes) {cfg : EvmConfig} {nonce : UInt64}
    {required : UInt64 × UInt64}
    (enough : requiredGas cfg (callMessage sender (some contract) nonce data) = .ok required)
    (fits : leftover ≤ defaultGasCap) (ctx : Context) :
    ∃ res, applyMessageWithConfig k.env cfg (burner leftover ret) emptyTxConfig true true ctx
        (callMessage sender (some contract) nonce data) = (ctx, .ok res) ∧
      res.vmError = "" ∧ res.ret = ret ∧ res.gasUsed.toNat ≤ 25000000 ∧
      res.gasUsed.toNat = executedGas (executeMessage k.env cfg (burner leftover ret) emptyTxConfig ctx
        (callMessage sender (some contract) nonce data)) := by
  obtain ⟨executed, ran, burnt, -⟩ := executeMessage_burner k.env ctx ret
    enough fits
  obtain ⟨context, uncached, clean⟩ := burnt.clean rfl
  obtain ⟨intrinsic, floor, -, -, need, -, -, -, billed⟩ := executeMessage_ok ran
  have balance := billGas_balance billed (requiredGas_le need).2
  have limit : (callMessage sender (some contract) nonce data).gasLimit.toNat = 25000000 := rfl
  have small : executed.bill.temporaryGasUsed.toNat ≤ 25000000 := by omega
  have charged := chargedGas_eq cfg (by omega) true balance
  rw [if_pos rfl, UInt64.ofNat_toNat] at charged
  have applied : applyMessageWithConfig k.env cfg (burner leftover ret) emptyTxConfig true true ctx
      (callMessage sender (some contract) nonce data) =
      (executed.result.state.ctx, respond cfg (callMessage sender (some contract) nonce data) true executed
        executed.result.state.logs) := by
    unfold applyMessageWithConfig
    rw [ran]
    dsimp only
    rw [if_pos rfl, commit_clean uncached clean]
  rw [applied, context, respond, bind_of_ok charged, burnt.returned.2.1]
  refine ⟨_, rfl, rfl, ?_, small, ?_⟩
  · exact burnt.returned.1
  · rw [ran]
    rfl

/-- On an unlimited meter such a call succeeds, and changes nothing in the stores. -/
theorem callEVMWithData_burner_ok (ret : Bytes) (gasCap : Option ℤ)
    (admitted : Admitted k call.ctx sender (some contract) data)
    (fits : leftover ≤ defaultGasCap) (unlimited : call.meter.infinite = true)
    (room : call.meter.consumed.toNat + 25000000 < 2 ^ 64) :
    ∃ res, (callEVMWithData k (burner leftover ret) call sender (some contract) data true gasCap).outcome =
        .ok res ∧ res.ret = ret ∧ res.gasUsed.toNat =
        (callEVMWithData k (burner leftover ret) call sender (some contract) data true gasCap).gas ∧
      (callEVMWithData k (burner leftover ret) call sender (some contract) data true gasCap).after.ctx =
        call.ctx := by
  obtain ⟨account, cfg, required, found, configured, enough⟩ := admitted
  obtain ⟨res, applied, succeeded, returned, small, used⟩ := applyMessage_burner k ret
    enough fits call.ctx
  have passed : res.failed = false := by
    unfold Response.failed
    rw [succeeded]
    rfl
  have metered : (call.meter.consumeGas res.gasUsed).2 = none := by
    unfold Meter.consumeGas
    rw [if_neg (by omega)]
    dsimp only
    rw [unlimited]
    rfl
  rw [callEVMWithData_admitted found configured, applied]
  dsimp only
  rw [← used]
  unfold chargeCall
  dsimp only
  rw [passed]
  rcases consumed : call.meter.consumeGas res.gasUsed with ⟨meter, _ | cause⟩
  · exact ⟨res, rfl, returned, rfl, rfl⟩
  · rw [consumed] at metered
    cases metered

end

/-- A configuration with every fork the gas rules look at, where the data costs nothing. -/
def blockConfig : EvmConfig where
  chainID := 1
  rules := ⟨true, false, true⟩
  isLondon := true
  isPrague := true
  activePrecompiles := []
  minGasMultiplier := some ⟨5 * 10 ^ 17⟩
  authority _ := .error "unsigned"
  intrinsicGas _ _ _ isContractCreation := .ok (if isContractCreation then 53000 else 21000)
  floorDataGas _ := .ok 21000
  floor_le counted := by
    cases counted
    exact Nat.le_add_right _ _
  multiplier_range := by
    intro multiplier held
    cases held
    norm_num
  compatible := rfl

end OgEvm.Vm
