import OgEvm.CallbackGas

/- Whether the callbacks on the sending side are all or nothing. The acknowledgement makes
its call on a cached context; the timeout makes it on the context it was given, whose meter
CallEVM has charged already and whose stores the EVM has written already. -/
namespace OgEvm.IbcCallbacks

open ExceptFacts Vm

/-- The EVM call that the packet's acknowledgement makes, if it makes one. -/
def acknowledgementEvmCall (e : CallbackEnv) (evm : Evm) (ctx : CallContext) (packet : Packet)
    (acknowledgement : Bytes) (contractAddress packetSenderAddress version : String) : Option CallReport :=
  match acknowledgementChecks e ctx packet contractAddress packetSenderAddress version with
  | .ok (some request) =>
    some (acknowledgementCall e evm ctx (e.packAcknowledgement packet acknowledgement) request)
  | _ => none

def timeoutEvmCall (e : CallbackEnv) (evm : Evm) (ctx : CallContext) (packet : Packet)
    (contractAddress packetSenderAddress version : String) : Option CallReport :=
  match timeoutChecks e ctx packet contractAddress packetSenderAddress version with
  | .ok (some request) => some (timeoutCall e evm ctx (e.packTimeout packet) request)
  | _ => none

/-- The `GasUsed` of a call that returned. -/
def evmGasUsed (call : CallReport) : ℕ :=
  match call.outcome with
  | .ok res => res.gasUsed.toNat
  | .error _ => 0

/-- A callback that succeeds has charged its call once; one that returns an error has
left the stores and events as they were. -/
structure Atomic (ctx : CallContext) (call : Option CallReport) (report : CallbackReport) : Prop where
  once : report.outcome = .ok () →
    report.after.meter.consumed.toNat = ctx.meter.consumed.toNat + (call.map evmGasUsed).getD 0
  undone : ∀ err, report.outcome = .error (.error err) → report.after.ctx = ctx.ctx

theorem Atomic.idle (ctx : CallContext) (outcome : Except CallHalt Unit) :
    Atomic ctx none ⟨ctx, 0, outcome⟩ := ⟨fun _ => rfl, fun _ _ => rfl⟩

/-- A meter that does not refuse an amount has counted it. -/
theorem consumeGas_counted {meter after : Meter} {amount : UInt64}
    (consumed : meter.consumeGas amount = (after, none)) :
    after.consumed.toNat = meter.consumed.toNat + amount.toNat := by
  unfold Meter.consumeGas at consumed
  split at consumed
  · cases consumed
  · rename_i room
    have after_eq := congrArg Prod.fst consumed
    subst after_eq
    change (meter.consumed + amount).toNat = _
    rw [UInt64.toNat_add]
    exact Nat.mod_eq_of_lt (not_le.mp room)

section

variable {ctx : CallContext} {call : CallReport} {finish : CallContext → CallContext}

/-- The callback's own charge is the one of its call. -/
theorem settleCall_charged (kept : ∀ after, (finish after).meter = after.meter)
    (ended : (settleCall ctx call finish).outcome = .ok ()) :
    (settleCall ctx call finish).after.meter.consumed.toNat = ctx.meter.consumed.toNat + evmGasUsed call := by
  unfold evmGasUsed
  unfold settleCall at ended ⊢
  cases returned : call.outcome with
  | error halt =>
    rw [returned] at ended
    cases halt <;> cases ended
  | ok res =>
    rw [returned] at ended
    dsimp only at ended ⊢
    rcases consumed : ctx.meter.consumeGas res.gasUsed with ⟨meter, _ | cause⟩
    · rw [consumed] at ended
      dsimp only at ended ⊢
      split at ended
      · cases ended
      · rename_i running
        rw [if_neg running, kept]
        exact consumeGas_counted consumed
    · rw [consumed] at ended
      cases ended

theorem settleCall_refused {halt : CallHalt} (ended : (settleCall ctx call finish).outcome = .error halt) :
    (settleCall ctx call finish).after.ctx = ctx.ctx := by
  unfold settleCall at ended ⊢
  cases returned : call.outcome with
  | error halt => cases halt <;> rfl
  | ok res =>
    rw [returned] at ended
    dsimp only at ended ⊢
    rcases consumed : ctx.meter.consumeGas res.gasUsed with ⟨meter, _ | cause⟩
    · rw [consumed] at ended
      dsimp only at ended ⊢
      split at ended
      · rename_i out
        rw [if_pos out]
      · cases ended
    · rfl

end

/-! A call that fails and leaves something behind. -/

/-- With nothing dirty, a commit writes the cache context. -/
theorem commit_cached {env : Env} {s : StateDb} {cache : CacheCtx} (cached : s.cacheCtx = some cache)
    (clean : s.journal.dirties = ∅) : StateDb.commit env s = .ok (StateDb.writeCache s cache, none) := by
  unfold StateDb.commit StateDb.commitWithCtx
  rw [cached]
  change StateDb.commitObjects env false s.journal.sortedDirties _ _ >>= _ = _
  rw [sortedDirties_clean clean]
  rfl

/-- The store with one code added or removed. -/
def spoiled (store : VmStore) : VmStore :=
  { store with
    codes := Function.update store.codes zeroHash
      (if (store.codes zeroHash).isSome then none else some []) }

theorem spoiled_ne (store : VmStore) : spoiled store ≠ store := by
  intro same
  have codes : (spoiled store).codes zeroHash = store.codes zeroHash := by rw [same]
  unfold spoiled at codes
  dsimp only at codes
  rw [Function.update_self] at codes
  cases found : store.codes zeroHash with
  | none =>
    rw [found] at codes
    cases codes
  | some code =>
    rw [found] at codes
    cases codes

/-- It writes as a precompile does, in the cache context of the StateDB. -/
def writer (leftover : UInt64) (vmErr : Option String) : Evm where
  create state _ _ _ _ := .ok ⟨state, [], leftover, vmErr, []⟩
  call state _ _ _ _ _ :=
    let cached := (StateDb.getCacheContext state).2
    let ctx := StateDb.cacheContext cached
    .ok ⟨StateDb.withCacheContext cached { ctx with store := spoiled ctx.store }, [], leftover, vmErr, []⟩

/-- It writes, uses all its gas and fails. -/
def spoiler : Evm := writer 0 (some "out of gas")

structure Spoilt (ctx : Context) (result : EvmResult) : Prop where
  failed : result.vmErr = some "out of gas"
  leftover : result.leftoverGas = 0
  refund : result.state.refund = 0
  clean : result.state.journal.dirties = ∅
  cached : result.state.cacheCtx = some ⟨⟨spoiled ctx.store, []⟩, [], .cacheEvents⟩

section

variable {k : CallKeeper} {cfg : EvmConfig} {sender contract : Address} {nonce : UInt64} {data : Bytes}
  {required : UInt64 × UInt64}

theorem runMessage_spoiler (env : Env) (cfg : EvmConfig) {s : StateDb} {ctx : Context}
    (addressed : StateDb.Addressed s) (context : s.ctx = ctx) (uncached : s.cacheCtx = none)
    (fresh : s.journal = Journal.newJournal) (refund : s.refund = 0) (gas : UInt64) :
    ∃ result, runMessage env cfg spoiler (callMessage sender (some contract) nonce data) gas 0 s =
        .ok result ∧ Spoilt ctx result := by
  have read := getCode_idle env addressed contract
  have idle : ∃ t, runMessage env cfg spoiler (callMessage sender (some contract) nonce data) gas 0 s =
      spoiler.call t sender contract data gas 0 ∧ Idle s t := by
    refine ⟨_, rfl, ?_⟩
    split
    · exact read.trans (addAddressToAccessList_idle _ _)
    · exact read
  obtain ⟨t, ran, idle⟩ := idle
  have cached : (StateDb.getCacheContext t).2 = StateDb.cache t := by
    rw [StateDb.getCacheContext, idle.cacheCtx, uncached]
  refine ⟨_, ran, rfl, rfl, ?_, ?_, ?_⟩ <;> dsimp only <;> rw [cached]
  · exact idle.refund.trans refund
  · exact idle.dirties.trans (by rw [fresh]; rfl)
  · rw [← context, ← idle.ctx]
    rfl

/-- The message fails, and what it left behind is committed. -/
theorem applyMessage_spoiler (env : Env) (ctx : Context)
    (enough : requiredGas cfg (callMessage sender (some contract) nonce data) = .ok required) :
    ∃ after res, applyMessageWithConfig env cfg spoiler emptyTxConfig true true ctx
        (callMessage sender (some contract) nonce data) = (after, .ok res) ∧
      after.store = spoiled ctx.store ∧ res.failed = true := by
  obtain ⟨executed, ran, spoilt, -⟩ := executeMessage_runs enough
    (fun state gas addressed context uncached journal refund =>
      runMessage_spoiler env cfg addressed context uncached journal refund gas)
    (fun _ spoilt => ⟨spoilt.leftover, spoilt.refund⟩) (by decide)
  obtain ⟨intrinsic, floor, -, -, need, -, -, -, billed⟩ := executeMessage_ok ran
  have balance := billGas_balance billed (requiredGas_le need).2
  have limit : (callMessage sender (some contract) nonce data).gasLimit.toNat = 25000000 := rfl
  have charged := chargedGas_eq cfg (by omega) true balance
  rw [if_pos rfl] at charged
  unfold applyMessageWithConfig
  rw [ran]
  dsimp only
  rw [if_pos rfl, commit_cached spoilt.cached spoilt.clean]
  dsimp only
  rw [respond, bind_of_ok charged, spoilt.failed]
  exact ⟨_, _, rfl, rfl, by simp [Response.failed]⟩

/-- The whole limit can always be consumed on an empty meter. -/
theorem resetAndConsumeGas_limit (meter : Meter) : (meter.resetAndConsumeGas meter.limit).2 = none := by
  have bound := meter.limit.toNat_lt
  have zero : (0 : UInt64).toNat = 0 := rfl
  unfold Meter.resetAndConsumeGas Meter.consumeGas
  dsimp only
  rw [if_neg (by omega)]
  dsimp only
  rw [UInt64.zero_add, decide_eq_false (UInt64.lt_irrefl _), Bool.and_false]
  rfl

/-- A call that reaches the EVM can return an error and leave the stores changed. -/
theorem callEVM_spoiler {call : CallContext} {packed : Except GoError Bytes} (gasCap : Option ℤ)
    (method : String) (called : Called k call.ctx sender contract packed) :
    ∃ err, (callEVM k spoiler call sender contract true gasCap method packed).outcome = .error (.error err) ∧
      (callEVM k spoiler call sender contract true gasCap method packed).after.ctx ≠ call.ctx := by
  obtain ⟨data, rfl, account, cfg, required, found, configured, enough⟩ := called
  obtain ⟨after, res, applied, written, failed⟩ := applyMessage_spoiler k.env call.ctx enough
  have changed : after ≠ call.ctx := by
    intro same
    rw [same] at written
    exact spoiled_ne _ written.symm
  have reset := resetAndConsumeGas_limit call.meter
  unfold callEVM
  dsimp only
  rw [callEVMWithData_admitted found configured, applied]
  unfold chargeCall
  dsimp only
  rw [if_pos failed]
  rcases consumed : call.meter.resetAndConsumeGas call.meter.limit with ⟨meter, _ | cause⟩
  · exact ⟨_, rfl, changed⟩
  · rw [consumed] at reset
    cases reset

theorem chargeCall_charged {call : CallContext} {ctx : Context} {gas : ℕ} {applied : Except Halt Response}
    {res : Response} (ended : (chargeCall call ctx gas applied).outcome = .ok res) :
    (chargeCall call ctx gas applied).after.meter.consumed.toNat = call.meter.consumed.toNat + res.gasUsed.toNat := by
  rcases applied with halt | applied
  · cases halt <;> cases ended
  · unfold chargeCall at ended ⊢
    dsimp only at ended ⊢
    split at ended
    · split at ended <;> cases ended
    · rename_i passed
      rw [if_neg passed]
      rcases consumed : call.meter.consumeGas applied.gasUsed with ⟨meter, _ | cause⟩
      · rw [consumed] at ended
        cases ended
        exact consumeGas_counted consumed
      · rw [consumed] at ended
        cases ended

/-- A call that returns has charged its context. -/
theorem callEVM_charged {evm : Evm} {call : CallContext} {packed : Except GoError Bytes}
    {gasCap : Option ℤ} {method : String} {res : Response}
    (ended : (callEVM k evm call sender contract true gasCap method packed).outcome = .ok res) :
    (callEVM k evm call sender contract true gasCap method packed).after.meter.consumed.toNat =
      call.meter.consumed.toNat + res.gasUsed.toNat := by
  cases packed with
  | error err => cases ended
  | ok data =>
    obtain ⟨-, same, outcome⟩ := callEVM_ok k evm call sender contract true gasCap method data
    have ended := (outcome res).mp ended
    rw [same]
    unfold callEVMWithData at ended ⊢
    cases found : call.ctx.store.accounts sender.toList with
    | none =>
      rw [found] at ended
      cases ended
    | some account =>
      rw [found] at ended
      cases configured : k.evmConfig with
      | error err =>
        rw [configured] at ended
        cases ended
      | ok cfg =>
        rw [configured] at ended
        exact chargeCall_charged ended

theorem callEVM_refused_after {evm : Evm} {call : CallContext} {packed : Except GoError Bytes}
    {gasCap : Option ℤ} {method : String} (refused : ¬ Called k call.ctx sender contract packed) :
    (callEVM k evm call sender contract true gasCap method packed).after = call := by
  cases packed with
  | error err => rfl
  | ok data =>
    rw [(callEVM_ok k evm call sender contract true gasCap method data).2.1]
    unfold callEVMWithData
    cases found : call.ctx.store.accounts sender.toList with
    | none => rfl
    | some account =>
      cases configured : k.evmConfig with
      | error err => rfl
      | ok cfg =>
        dsimp only
        unfold applyMessageWithConfig
        cases ran : executeMessage k.env cfg evm emptyTxConfig call.ctx
            (callMessage sender (some contract) account.sequence data) with
        | error halt => cases halt <;> rfl
        | ok executed =>
          obtain ⟨intrinsic, floor, -, -, need, -⟩ := executeMessage_ok ran
          exact absurd ⟨data, rfl, account, cfg, _, found, configured, need⟩ refused

end

/-- The timeout's meter is charged by CallEVM and once more by the callback. -/
theorem timeout_charged {e : CallbackEnv} {ctx : CallContext} {packet : Packet}
    {contractAddress packetSenderAddress version : String} (evm : Evm)
    (ended : (ibcOnTimeoutPacketCallback e evm ctx packet contractAddress packetSenderAddress
      version).outcome = .ok ()) : (ibcOnTimeoutPacketCallback e evm ctx packet contractAddress packetSenderAddress
      version).after.meter.consumed.toNat = ctx.meter.consumed.toNat +
      2 * ((timeoutEvmCall e evm ctx packet contractAddress packetSenderAddress version).map evmGasUsed).getD 0 := by
  unfold timeoutEvmCall
  unfold ibcOnTimeoutPacketCallback at ended ⊢
  rcases checked : timeoutChecks e ctx packet contractAddress packetSenderAddress version with
    err | _ | request <;> rw [checked] at ended
  · cases ended
  · rfl
  · have second := settleCall_charged (fun _ => rfl) ended
    dsimp only at second ⊢
    rw [second]
    cases returned : (timeoutCall e evm ctx (e.packTimeout packet) request).outcome with
    | error halt =>
      dsimp only at ended
      unfold settleCall at ended
      rw [returned] at ended
      cases halt <;> cases ended
    | ok res =>
      have first : (timeoutCall e evm ctx (e.packTimeout packet) request).after.meter.consumed.toNat =
          ctx.meter.consumed.toNat + res.gasUsed.toNat := callEVM_charged returned
      have used : evmGasUsed (timeoutCall e evm ctx (e.packTimeout packet) request) =
          res.gasUsed.toNat := by
        unfold evmGasUsed
        rw [returned]
      rw [first, used]
      change _ = _ + 2 * evmGasUsed _
      omega

/-- The acknowledgement is all or nothing for every contract; the timeout is so only if
its message never reaches the EVM, and what it calls is charged twice. -/
theorem callbacks_atomic_iff (e : CallbackEnv) (ctx : CallContext) (packet : Packet)
    (acknowledgement : Bytes) (contractAddress packetSenderAddress version : String) :
    (∀ evm, Atomic ctx
      (acknowledgementEvmCall e evm ctx packet acknowledgement contractAddress packetSenderAddress version)
      (ibcOnAcknowledgementPacketCallback e evm ctx packet acknowledgement contractAddress
        packetSenderAddress version)) ∧
    ((∀ evm, Atomic ctx
        (timeoutEvmCall e evm ctx packet contractAddress packetSenderAddress version)
        (ibcOnTimeoutPacketCallback e evm ctx packet contractAddress packetSenderAddress version)) ↔
      ¬ ∃ request, timeoutChecks e ctx packet contractAddress packetSenderAddress version =
          .ok (some request) ∧
        Called e.keeper ctx.ctx request.sender request.contract (e.packTimeout packet)) ∧
    ∀ evm, (ibcOnTimeoutPacketCallback e evm ctx packet contractAddress packetSenderAddress
        version).outcome = .ok () →
      (ibcOnTimeoutPacketCallback e evm ctx packet contractAddress packetSenderAddress
        version).after.meter.consumed.toNat = ctx.meter.consumed.toNat +
        2 * ((timeoutEvmCall e evm ctx packet contractAddress packetSenderAddress version).map
          evmGasUsed).getD 0 := by
  refine ⟨fun evm => ?_, ⟨?_, ?_⟩, timeout_charged⟩
  · -- On the cached context nothing is lost or charged twice.
    unfold acknowledgementEvmCall ibcOnAcknowledgementPacketCallback
    rcases acknowledgementChecks e ctx packet contractAddress packetSenderAddress version with
      err | _ | request
    · exact Atomic.idle ctx _
    · exact Atomic.idle ctx _
    · exact ⟨settleCall_charged fun _ => rfl, fun _ => settleCall_refused⟩
  · rintro atomic ⟨request, checked, called⟩
    have atomic := (atomic spoiler).undone
    unfold ibcOnTimeoutPacketCallback at atomic
    rw [checked] at atomic
    obtain ⟨err, failed, changed⟩ := callEVM_spoiler
      (some ((cachedContext ctx request.limit).meter.gasRemaining.toNat : ℤ)) "onPacketTimeout" called
    have failed : (timeoutCall e spoiler ctx (e.packTimeout packet) request).outcome =
      .error (.error err) := failed
    dsimp only at atomic
    unfold settleCall at atomic
    rw [failed] at atomic
    exact changed (atomic _ rfl)
  · intro quiet evm
    unfold timeoutEvmCall ibcOnTimeoutPacketCallback
    rcases checked : timeoutChecks e ctx packet contractAddress packetSenderAddress version with
      err | _ | request
    · exact Atomic.idle ctx _
    · exact Atomic.idle ctx _
    · have refused : ¬ Called e.keeper ctx.ctx request.sender request.contract (e.packTimeout packet) :=
        fun called => quiet ⟨request, checked, called⟩
      have kept : (timeoutCall e evm ctx (e.packTimeout packet) request).after = ctx :=
        callEVM_refused_after refused
      dsimp only
      rw [kept]
      exact ⟨settleCall_charged fun _ => rfl, fun _ => settleCall_refused⟩

def returnedError : CallHalt → Option GoError
  | .error err => some err
  | _ => none

/-- A timeout with room to spare: the contract uses 100,000 gas, the meter grows by
twice that. With room for just that, an error is returned and what the contract wrote stays. -/
theorem timeout_charged_twice :
    ((ibcOnTimeoutPacketCallback (callbackEnv 1000000) (burner 24900000 []) (callbackContext 1000000)
        callbackPacket "0x09" "sender" "ics20-1").outcome.toOption = some () ∧
      (timeoutEvmCall (callbackEnv 1000000) (burner 24900000 []) (callbackContext 1000000)
        callbackPacket "0x09" "sender" "ics20-1").map evmGasUsed = some 100000 ∧
      (callbackContext 1000000).meter.consumed = 0 ∧
      (ibcOnTimeoutPacketCallback (callbackEnv 1000000) (burner 24900000 []) (callbackContext 1000000)
        callbackPacket "0x09" "sender" "ics20-1").after.meter.consumed = 200000) ∧
    (ibcOnTimeoutPacketCallback (callbackEnv 200000) (writer 24900000 none) (callbackContext 200000)
        callbackPacket "0x09" "sender" "ics20-1").outcome.mapError returnedError =
      .error (some (Erc20.wrapError errCallbackFailed "out of gas")) ∧
    ((callbackContext 200000).ctx.store.codes zeroHash).isSome = false ∧
    ((ibcOnTimeoutPacketCallback (callbackEnv 200000) (writer 24900000 none) (callbackContext 200000)
        callbackPacket "0x09" "sender" "ics20-1").after.ctx.store.codes zeroHash).isSome = true :=
  ⟨⟨by decide +kernel, by decide +kernel, rfl, by decide +kernel⟩, by decide +kernel, by decide +kernel,
    by decide +kernel⟩

end OgEvm.IbcCallbacks
