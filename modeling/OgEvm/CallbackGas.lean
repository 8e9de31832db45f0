import OgEvm.IbcCallbacks

/- The gas that a callback can use. Each of its calls is given the default cap, so the
limit of the packet is kept by every contract only if it covers that cap for each call. -/
namespace OgEvm.IbcCallbacks

open ExceptFacts Vm

section

variable {e : CallbackEnv} {k : CallKeeper} {evm : Evm} {call : CallContext} {sender contract : Address}
  {commit : Bool} {gasCap : Option ℤ} {method : String} {packed : Except GoError Bytes}

/-- The call is packed and reaches the EVM. -/
def Called (k : CallKeeper) (ctx : Context) (sender contract : Address) (packed : Except GoError Bytes) :
    Prop :=
  ∃ data, packed = .ok data ∧ Admitted k ctx sender (some contract) data

theorem callEVM_ok (k : CallKeeper) (evm : Evm) (call : CallContext) (sender contract : Address)
    (commit : Bool) (gasCap : Option ℤ) (method : String) (data : Bytes) :
    (callEVM k evm call sender contract commit gasCap method (.ok data)).gas =
        (callEVMWithData k evm call sender (some contract) data commit gasCap).gas ∧
      (callEVM k evm call sender contract commit gasCap method (.ok data)).after =
        (callEVMWithData k evm call sender (some contract) data commit gasCap).after ∧
      ∀ res, (callEVM k evm call sender contract commit gasCap method (.ok data)).outcome = .ok res ↔
        (callEVMWithData k evm call sender (some contract) data commit gasCap).outcome = .ok res := by
  unfold callEVM
  dsimp only
  split
  · rename_i err failed
    refine ⟨rfl, rfl, fun res => ⟨?_, ?_⟩⟩
    · intro wrong
      cases wrong
    · intro wrong
      rw [failed] at wrong
      cases wrong
  · exact ⟨rfl, rfl, fun res => Iff.rfl⟩

theorem callEVM_gas_le : (callEVM k evm call sender contract commit gasCap method packed).gas ≤ 25000000 := by
  cases packed with
  | error err => exact Nat.zero_le _
  | ok data =>
    rw [(callEVM_ok k evm call sender contract commit gasCap method data).1]
    exact callEVMWithData_gas_le

theorem callEVM_refused (refused : ¬ Called k call.ctx sender contract packed) :
    (callEVM k evm call sender contract commit gasCap method packed).gas = 0 ∧
      ∀ res, (callEVM k evm call sender contract commit gasCap method packed).outcome ≠ .ok res := by
  cases packed with
  | error err => exact ⟨rfl, fun res wrong => by cases wrong⟩
  | ok data =>
    have out : ¬ Admitted k call.ctx sender (some contract) data :=
      fun admitted => refused ⟨data, rfl, admitted⟩
    obtain ⟨gas, failed⟩ := callEVMWithData_refused evm commit gasCap out
    obtain ⟨same, -, outcome⟩ := callEVM_ok k evm call sender contract
      commit gasCap method data
    exact ⟨same.trans gas, fun res ended => failed res ((outcome res).mp ended)⟩

/-- Every contract stays within a cap exactly if none is reached or the default is covered. -/
theorem callEVMWithData_within_iff (k : CallKeeper) (call : CallContext) (sender : Address)
    (target : Option Address) (data : Bytes) (commit : Bool) (cap : ℕ) :
    (∀ evm, (callEVMWithData k evm call sender target data commit (some cap)).gas ≤ cap) ↔
      ¬ Admitted k call.ctx sender target data ∨ 25000000 ≤ cap := by
  constructor
  · intro within
    by_contra neither
    rw [not_or, not_not] at neither
    have burnt := callEVMWithData_burner [] commit (some (cap : ℤ)) neither.1
      (show (0 : UInt64) ≤ defaultGasCap by decide)
    have held := within (burner 0 [])
    have zero : (0 : UInt64).toNat = 0 := rfl
    omega
  · rintro (refused | covered) evm
    · rw [(callEVMWithData_refused evm commit (some (cap : ℤ)) refused).1]
      exact Nat.zero_le _
    · exact callEVMWithData_gas_le.trans covered

theorem callEVM_within_iff (limit : ℕ) :
    (∀ evm, (callEVM k evm call sender contract commit gasCap method packed).gas ≤ limit) ↔
      ¬ Called k call.ctx sender contract packed ∨ 25000000 ≤ limit := by
  constructor
  · intro within
    by_contra neither
    rw [not_or, not_not] at neither
    obtain ⟨⟨data, rfl, admitted⟩, small⟩ := neither
    have burnt := callEVMWithData_burner [] commit gasCap admitted
      (show (0 : UInt64) ≤ defaultGasCap by decide)
    have held := within (burner 0 [])
    rw [(callEVM_ok k _ call sender contract commit gasCap method data).1] at held
    have zero : (0 : UInt64).toNat = 0 := rfl
    omega
  · rintro (refused | covered) evm
    · rw [(callEVM_refused refused).1]
      exact Nat.zero_le _
    · exact callEVM_gas_le.trans covered

theorem settleCall_gas (ctx : CallContext) (report : CallReport) (finish : CallContext → CallContext) :
    (settleCall ctx report finish).gas = report.gas := by
  unfold settleCall
  split
  · rfl
  · rfl
  · split
    · rfl
    · split <;> rfl

theorem acknowledgement_gas {ctx : CallContext} {packet : Packet} {acknowledgement : Bytes}
    {contractAddress packetSenderAddress version : String} {request : SourceCall}
    (checked : acknowledgementChecks e ctx packet contractAddress packetSenderAddress version =
      .ok (some request)) (evm : Evm) :
    (ibcOnAcknowledgementPacketCallback e evm ctx packet acknowledgement contractAddress
      packetSenderAddress version).gas =
      (acknowledgementCall e evm ctx (e.packAcknowledgement packet acknowledgement) request).gas := by
  unfold ibcOnAcknowledgementPacketCallback
  rw [checked]
  exact settleCall_gas _ _ _

theorem timeout_gas {ctx : CallContext} {packet : Packet}
    {contractAddress packetSenderAddress version : String} {request : SourceCall}
    (checked : timeoutChecks e ctx packet contractAddress packetSenderAddress version =
      .ok (some request)) (evm : Evm) :
    (ibcOnTimeoutPacketCallback e evm ctx packet contractAddress packetSenderAddress version).gas =
      (timeoutCall e evm ctx (e.packTimeout packet) request).gas := by
  unfold ibcOnTimeoutPacketCallback
  rw [checked]
  exact settleCall_gas _ _ _

end

/-! Two calls. -/

section

variable {e : CallbackEnv} {approving executing querying : Evm} {ctx : CallContext} {request : ReceiveCall}

/-- The approval and the user's call reach the EVM. -/
def ApprovalCalled (e : CallbackEnv) (ctx : Context) (request : ReceiveCall) : Prop :=
  Admitted e.keeper ctx request.receiver (some request.pair.getERC20Contract)
    (packApprove e.keeper.env request.contract request.amount)

def UserCalled (e : CallbackEnv) (ctx : Context) (request : ReceiveCall) : Prop :=
  Admitted e.keeper ctx request.receiver (some request.contract) request.calldata

theorem approveCall_refused (refused : ¬ ApprovalCalled e ctx.ctx request) (approving : Evm) :
    (approveCall e approving ctx request).gas = 0 ∧
      ∀ res, (approveCall e approving ctx request).outcome ≠ .ok res := by
  refine callEVM_refused ?_
  rintro ⟨data, same, admitted⟩
  cases same
  exact refused admitted

theorem checkReceiverBalance_gas (e : CallbackEnv) (querying : Evm) (ctx : CallContext)
    (request : ReceiveCall) (gas : ℕ) : (checkReceiverBalance e querying ctx request gas).gas = gas := by
  unfold checkReceiverBalance
  dsimp only
  split
  · rfl
  · rfl
  · split
    · rfl
    · split <;> rfl

theorem finishReceive_gas (e : CallbackEnv) (querying : Evm) (ctx : CallContext) (request : ReceiveCall)
    (approved : ℕ) (user : CallReport) :
    (finishReceive e querying ctx request approved user).gas = approved + user.gas := by
  unfold finishReceive
  split
  · rfl
  · rfl
  · split
    · rfl
    · split
      · rfl
      · exact checkReceiverBalance_gas _ _ _ _ _

/-- The user's call is made only after an approval that succeeded. -/
theorem runReceive_gas (e : CallbackEnv) (approving executing querying : Evm) (ctx : CallContext)
    (request : ReceiveCall) :
    (runReceive e approving executing querying ctx request).gas = (approveCall e approving ctx request).gas ∨
      ∃ res remainingGas, (approveCall e approving ctx request).outcome = .ok res ∧
        (runReceive e approving executing querying ctx request).gas = (approveCall e approving ctx request).gas +
            (userCall e executing (approveCall e approving ctx request).after request remainingGas).gas := by
  unfold runReceive
  dsimp only
  split
  · exact Or.inl rfl
  · exact Or.inl rfl
  · rename_i res ended
    split
    · exact Or.inl rfl
    · split
      · exact Or.inl rfl
      · split
        · exact Or.inl rfl
        · exact Or.inl rfl
        · exact Or.inr ⟨res, _, ended, finishReceive_gas _ _ _ _ _ _⟩

/-- What its data costs depends on neither the context nor the nonce. -/
theorem userCalled_of_later {account : AuthAccount} {cfg : EvmConfig} {later : Context}
    (found : ctx.ctx.store.accounts request.receiver.toList = some account)
    (configured : e.keeper.evmConfig = .ok cfg) (called : UserCalled e later request) :
    UserCalled e ctx.ctx request := by
  obtain ⟨other, same, required, -, again, enough⟩ := called
  rw [configured] at again
  cases again
  exact ⟨account, cfg, required, found, configured, enough⟩

theorem packApprove_length (env : Env) (spender : Address) (amount : ℤ) :
    (packApprove env spender amount).length = 68 := by
  unfold packApprove selector abiAddress abiWord
  simp only [List.length_append, List.length_take, List.length_replicate, List.length_ofFn,
    Vector.length_toList]
  rfl

/-- `true` in the ABI encoding. -/
def abiTrue : Bytes := List.replicate 31 0 ++ [1]

theorem unpackBool_abiTrue : Erc20.unpackBool abiTrue = .ok true := by
  have long : ¬ abiTrue.length < 32 := by decide
  have one : Erc20.bytesToNat (abiTrue.take 32) = 1 := by decide
  unfold Erc20.unpackBool
  rw [if_neg long, one]
  rfl

/-- A meter with enough left takes an amount without running out. -/
theorem consumeGas_within {meter : Meter} {amount : UInt64} (enough : amount < meter.gasRemaining) :
    ∃ after, meter.consumeGas amount = (after, none) ∧ after.isOutOfGas = false := by
  have room : meter.consumed.toNat + amount.toNat < meter.limit.toNat := by
    unfold Meter.gasRemaining at enough
    split at enough
    · have none_left := UInt64.lt_iff_toNat_lt.mp enough
      exact absurd none_left (Nat.not_lt_zero _)
    · rename_i inside
      have inside := UInt64.not_lt.mp inside
      have left := UInt64.lt_iff_toNat_lt.mp enough
      rw [UInt64.toNat_sub_of_le _ _ inside] at left
      omega
  have bound := meter.limit.toNat_lt
  have sum : (meter.consumed + amount).toNat = meter.consumed.toNat + amount.toNat := by
    rw [UInt64.toNat_add]
    exact Nat.mod_eq_of_lt (by omega)
  have below : ¬ meter.limit < meter.consumed + amount := by
    rw [UInt64.lt_iff_toNat_lt]
    omega
  have strictly : ¬ meter.limit ≤ meter.consumed + amount := by
    rw [UInt64.le_iff_toNat_le]
    omega
  unfold Meter.consumeGas
  rw [if_neg (by omega)]
  dsimp only
  rw [decide_eq_false below, Bool.and_false]
  refine ⟨_, rfl, ?_⟩
  unfold Meter.isOutOfGas
  dsimp only
  rw [decide_eq_false strictly, Bool.and_false]

theorem receiveTarget_limit {packet : Packet} {contractAddress : String} {data : TransferData}
    {callback : CallbackData} {receiver : Address}
    (targeted : receiveTarget e ctx packet contractAddress data callback receiver = .ok request) :
    request.limit = callback.commitGasLimit := by
  unfold receiveTarget at targeted
  dsimp only at targeted
  split at targeted
  · cases targeted
  · split at targeted
    · cases targeted
    · split at targeted
      · cases targeted
      · split at targeted
        · cases targeted
        · cases targeted
          rfl

theorem receiveChecks_limit {packet : Packet} {contractAddress version : String} {after : CallContext}
    (checked : receiveChecks e ctx packet contractAddress version = (after, .ok (some request))) :
    request.limit ≤ after.meter.gasRemaining := by
  unfold receiveChecks at checked
  split at checked
  · cases checked
  · cases checked
  · rename_i data callback parsed
    have limit : callback.commitGasLimit ≤ ctx.meter.gasRemaining := by
      obtain ⟨read, -, parsed⟩ := bind_ok parsed
      obtain ⟨found, got, final⟩ := bind_ok parsed
      cases found with
      | none => cases final
      | some held =>
        cases final
        exact e.limit_le got
    split at checked
    · cases checked
    · obtain ⟨rfl, target⟩ := Prod.mk.inj checked
      obtain ⟨made, target, same⟩ := map_ok target
      cases same
      rw [receiveTarget_limit target]
      exact limit

theorem cachedContext_remaining (ctx : CallContext) (limit : UInt64) :
    (cachedContext ctx limit).meter.gasRemaining = limit := by
  have unused : ¬ limit < (0 : UInt64) := UInt64.not_lt.mpr (UInt64.le_iff_toNat_le.mpr (Nat.zero_le _))
  exact (if_neg unused).trans (UInt64.sub_zero limit)

/-- An approval that succeeds and burns all of the default cap but `leftover`. -/
theorem approveCall_burner {leftover : UInt64} (approval : ApprovalCalled e ctx.ctx request)
    (small : leftover.toNat ≤ 1) :
    ∃ res, (approveCall e (burner leftover abiTrue) ctx request).outcome = .ok res ∧ res.ret = abiTrue ∧
      res.gasUsed.toNat = 25000000 - leftover.toNat ∧
      (approveCall e (burner leftover abiTrue) ctx request).gas = 25000000 - leftover.toNat ∧
      (approveCall e (burner leftover abiTrue) ctx request).after.ctx = ⟨ctx.ctx.store, []⟩ := by
  have fits : leftover ≤ defaultGasCap := by
    rw [UInt64.le_iff_toNat_le]
    exact small.trans (by decide)
  have cheap : 21000 + 40 * (packApprove e.keeper.env request.contract request.amount).length ≤
      25000000 - leftover.toNat := by
    rw [packApprove_length]
    omega
  have admitted : Admitted e.keeper (cachedContext ctx request.limit).ctx request.receiver
      (some request.pair.getERC20Contract)
      (packApprove e.keeper.env request.contract request.amount) := approval
  have room : (cachedContext ctx request.limit).meter.consumed.toNat + 25000000 < 2 ^ 64 := by
    change 0 + 25000000 < 2 ^ 64
    norm_num
  obtain ⟨sameGas, sameAfter, sameOutcome⟩ := callEVM_ok e.keeper (burner leftover abiTrue)
    (cachedContext ctx request.limit) request.receiver request.pair.getERC20Contract true
    (some ((cachedContext ctx request.limit).meter.gasRemaining.toNat : ℤ)) "approve"
    (packApprove e.keeper.env request.contract request.amount)
  obtain ⟨res, ended, returned, gas, kept⟩ := callEVMWithData_burner_ok abiTrue
    (some ((cachedContext ctx request.limit).meter.gasRemaining.toNat : ℤ))
    admitted fits rfl room
  have used := callEVMWithData_burner_eq abiTrue true
    (some ((cachedContext ctx request.limit).meter.gasRemaining.toNat : ℤ)) admitted fits cheap
  refine ⟨res, (sameOutcome res).mpr ended, returned, gas.trans used, sameGas.trans used, ?_⟩
  exact (congrArg CallContext.ctx sameAfter).trans kept

/-- An approval that leaves something of the limit is followed by the call. -/
theorem runReceive_burner (executing querying : Evm) {leftover : UInt64} (approval : ApprovalCalled e ctx.ctx request)
    (small : leftover.toNat ≤ 1) (limit : request.limit ≤ ctx.meter.gasRemaining)
    (below : 25000000 - leftover.toNat < request.limit.toNat) :
    ∃ remainingGas, (runReceive e (burner leftover abiTrue) executing querying ctx request).gas =
      25000000 - leftover.toNat + (userCall e executing
        (approveCall e (burner leftover abiTrue) ctx request).after request remainingGas).gas := by
  obtain ⟨res, ended, returned, used, gas, -⟩ := approveCall_burner approval small
  have left : res.gasUsed < ctx.meter.gasRemaining := by
    rw [UInt64.le_iff_toNat_le] at limit
    rw [UInt64.lt_iff_toNat_lt]
    omega
  obtain ⟨meter, consumed, running⟩ := consumeGas_within left
  have covered : ¬ (meter.isOutOfGas = true ∨
      ((cachedContext ctx request.limit).meter.gasRemaining.toNat : ℤ) - res.gasUsed.toNat < 0) := by
    rw [cachedContext_remaining, running]
    simp only [Bool.false_eq_true, false_or]
    omega
  have accepted : Erc20.unpackBool res.ret = .ok true := by
    rw [returned]
    exact unpackBool_abiTrue
  unfold runReceive
  dsimp only
  rw [ended]
  dsimp only
  rw [consumed]
  dsimp only
  rw [if_neg covered, accepted]
  exact ⟨_, (finishReceive_gas _ _ _ _ _ _).trans (by rw [gas])⟩

/-- Every contract keeps the limit exactly if it covers the default cap for each call that
reaches the EVM. -/
theorem runReceive_within_iff (limit : request.limit ≤ ctx.meter.gasRemaining) : (∀ approving executing querying,
        (runReceive e approving executing querying ctx request).gas ≤ request.limit.toNat) ↔
      ¬ ApprovalCalled e ctx.ctx request ∨ (¬ UserCalled e ctx.ctx request ∧ 25000000 ≤ request.limit.toNat) ∨
        50000000 ≤ request.limit.toNat := by
  constructor
  · intro within
    by_contra neither
    rw [not_or, not_not, not_or, not_and_or, not_not] at neither
    obtain ⟨approval, user, small⟩ := neither
    by_cases covered : 25000000 ≤ request.limit.toNat
    · -- One unit left over lets the approval pass even if the limit is just the default cap.
      have called : UserCalled e ctx.ctx request := user.resolve_right (not_not.mpr covered)
      have second : ∀ leftover : UInt64, leftover.toNat ≤ 1 →
          25000000 - leftover.toNat < request.limit.toNat →
          25000000 - leftover.toNat + 25000000 ≤ request.limit.toNat := by
        intro leftover bit below
        obtain ⟨remainingGas, total⟩ := runReceive_burner (burner 0 [])
          (burner 0 []) approval bit limit below
        obtain ⟨-, -, -, -, -, kept⟩ := approveCall_burner approval bit
        have again : Admitted e.keeper (approveCall e (burner leftover abiTrue) ctx request).after.ctx
            request.receiver (some request.contract) request.calldata := by
          rw [kept]
          exact called
        have burnt := callEVMWithData_burner [] true (some remainingGas) again
          (show (0 : UInt64) ≤ defaultGasCap by decide)
        have held := within (burner leftover abiTrue) (burner 0 []) (burner 0 [])
        rw [total] at held
        have zero : (0 : UInt64).toNat = 0 := rfl
        have user : 25000000 ≤ (userCall e (burner 0 [])
          (approveCall e (burner leftover abiTrue) ctx request).after request remainingGas).gas := burnt
        omega
      have one := second 1 (by decide)
      have none_left := second 0 (by decide)
      have unit : (1 : UInt64).toNat = 1 := rfl
      have zero : (0 : UInt64).toNat = 0 := rfl
      omega
    · -- The approval alone is too much.
      obtain ⟨-, -, -, -, used, -⟩ := approveCall_burner approval
        (show (0 : UInt64).toNat ≤ 1 by decide)
      have held := within (burner 0 abiTrue) (burner 0 []) (burner 0 [])
      have zero : (0 : UInt64).toNat = 0 := rfl
      rcases runReceive_gas e (burner 0 abiTrue) (burner 0 []) (burner 0 []) ctx request with
        total | ⟨res, remainingGas, -, total⟩
      · omega
      · omega
  · intro condition approving executing querying
    have first : (approveCall e approving ctx request).gas ≤ 25000000 := callEVM_gas_le
    rcases runReceive_gas e approving executing querying ctx request with
      total | ⟨res, remainingGas, ended, total⟩
    · rcases condition with refused | ⟨-, covered⟩ | covered
      · have unused := (approveCall_refused refused approving).1
        omega
      · omega
      · omega
    · have second : (userCall e executing (approveCall e approving ctx request).after request
          remainingGas).gas ≤ 25000000 := callEVMWithData_gas_le
      rcases condition with refused | ⟨refused, covered⟩ | covered
      · exact absurd ended ((approveCall_refused refused approving).2 res)
      · by_cases called : UserCalled e (approveCall e approving ctx request).after.ctx request
        · by_cases approval : ApprovalCalled e ctx.ctx request
          · obtain ⟨account, cfg, required, found, configured, -⟩ := approval
            exact absurd (userCalled_of_later found configured called) refused
          · exact absurd ended ((approveCall_refused approval approving).2 res)
        · have unused : (userCall e executing (approveCall e approving ctx request).after request
              remainingGas).gas = 0 := (callEVMWithData_refused executing true (some remainingGas) called).1
          omega
      · omega

end

/-- The gas limit of a callback is kept by every contract exactly if it covers the default
cap of 25,000,000 for each of its calls that reaches the EVM; so is the cap of one call. -/
theorem callbacks_within_limit_iff (e : CallbackEnv) :
    (∀ (call : CallContext) (sender : Address) (target : Option Address) (data : Bytes) (commit : Bool)
      (gasCap : ℕ),
      (∀ evm, (callEVMWithData e.keeper evm call sender target data commit (some gasCap)).gas ≤ gasCap) ↔
        ¬ Admitted e.keeper call.ctx sender target data ∨ 25000000 ≤ gasCap) ∧
    (∀ (ctx : CallContext) (packet : Packet) (acknowledgement : Bytes)
      (contractAddress packetSenderAddress version : String) (request : SourceCall),
      acknowledgementChecks e ctx packet contractAddress packetSenderAddress version =
          .ok (some request) →
        ((∀ evm, (ibcOnAcknowledgementPacketCallback e evm ctx packet acknowledgement contractAddress
            packetSenderAddress version).gas ≤ request.limit.toNat) ↔
          ¬ Called e.keeper ctx.ctx request.sender request.contract
            (e.packAcknowledgement packet acknowledgement) ∨ 25000000 ≤ request.limit.toNat)) ∧
    (∀ (ctx : CallContext) (packet : Packet) (contractAddress packetSenderAddress version : String)
      (request : SourceCall),
      timeoutChecks e ctx packet contractAddress packetSenderAddress version = .ok (some request) →
        ((∀ evm, (ibcOnTimeoutPacketCallback e evm ctx packet contractAddress packetSenderAddress
            version).gas ≤ request.limit.toNat) ↔
          ¬ Called e.keeper ctx.ctx request.sender request.contract (e.packTimeout packet) ∨
            25000000 ≤ request.limit.toNat)) ∧
    ∀ (ctx after : CallContext) (packet : Packet) (contractAddress version : String)
      (request : ReceiveCall),
      receiveChecks e ctx packet contractAddress version = (after, .ok (some request)) →
        ((∀ approving executing querying, (ibcReceivePacketCallback e approving executing querying ctx
            packet contractAddress version).gas ≤ request.limit.toNat) ↔
          ¬ ApprovalCalled e after.ctx request ∨
            (¬ UserCalled e after.ctx request ∧ 25000000 ≤ request.limit.toNat) ∨
            50000000 ≤ request.limit.toNat) := by
  refine ⟨callEVMWithData_within_iff e.keeper, ?_, ?_, ?_⟩
  · intro ctx packet acknowledgement contractAddress packetSenderAddress version request checked
    simp only [acknowledgement_gas checked]
    exact callEVM_within_iff _
  · intro ctx packet contractAddress packetSenderAddress version request checked
    simp only [timeout_gas checked]
    exact callEVM_within_iff _
  · intro ctx after packet contractAddress version request checked
    have run : ∀ approving executing querying, ibcReceivePacketCallback e approving executing querying
        ctx packet contractAddress version = runReceive e approving executing querying after request := by
      intro approving executing querying
      unfold ibcReceivePacketCallback
      rw [checked]
    simp only [run]
    exact runReceive_within_iff (receiveChecks_limit checked)

/-! A packet and a contract. -/

/-- Packets ask for a limit, and get it unless the meter has less. -/
def callbackEnv (asked : UInt64) : CallbackEnv where
  keeper := ⟨StateDb.toyEnv, .ok blockConfig⟩
  unmarshalPacketData _ _ := .ok ⟨⟨"token", []⟩, "5", "sender", "receiver"⟩
  getCallbackData _ _ _ _ maxGas _ := .ok (some ⟨[], if asked ≤ maxGas then asked else maxGas⟩)
  limit_le := by
    intro _ _ _ _ maxGas _ callback got
    cases got
    dsimp only
    split
    · assumption
    · exact UInt64.le_refl _
  accAddressFromBech32 _ := .ok (List.replicate 20 7)
  valAddressFromBech32 _ := .error (.other, "")
  consAddressFromBech32 _ := .error (.other, "")
  isolatedAddress _ _ := Vector.replicate 20 7
  ibcDenom denom := denom.base
  newIntFromString _ := some 5
  tokenPair _ := some ⟨"0x0707070707070707070707070707070707070707", "token", true, .module⟩
  packAcknowledgement _ _ := .ok [1, 2, 3, 4]
  packTimeout _ := .ok [1, 2, 3, 4]

/-- A sender's account and a contract at the address 9, with the gas ibc-go allows. -/
def callbackContext (limit : UInt64) : CallContext where
  ctx := ⟨{ StateDb.emptyStore with
    accounts := Function.update (fun _ => none) (List.replicate 20 7) (some ⟨1⟩)
    codeHashes := Function.update (fun _ => none) (bytesToAddress [9]) (some (bytesToHash [0x60]))
    codes := Function.update (fun _ => none) (bytesToHash [0x60]) (some [0x60]) }, []⟩
  meter := ⟨false, limit, 0⟩

def callbackPacket : Packet := ⟨[], "transfer", "channel-0", "transfer", "channel-1", 1⟩

theorem callbacks_within_limit_iff_thirty :
    acknowledgementChecks (callbackEnv 30000000) (callbackContext 30000000) callbackPacket "0x09" "sender"
        "ics20-1" = .ok (some ⟨30000000, Vector.replicate 20 7, bytesToAddress [9]⟩) ∧
      ∀ evm, (ibcOnAcknowledgementPacketCallback (callbackEnv 30000000) evm (callbackContext 30000000)
        callbackPacket [] "0x09" "sender" "ics20-1").gas ≤ 30000000 := by
  have checked : acknowledgementChecks (callbackEnv 30000000) (callbackContext 30000000) callbackPacket
      "0x09" "sender" "ics20-1" = .ok (some ⟨30000000, Vector.replicate 20 7, bytesToAddress [9]⟩) :=
    toOption_some (by decide +kernel)
  refine ⟨checked, ?_⟩
  exact ((callbacks_within_limit_iff (callbackEnv 30000000)).2.1 _ _ [] _ _ _ _ checked).mpr
    (Or.inr (by decide))

/-- A packet that allows 1,000,000 gas: the contract it calls has used 25,000,000 before
the meter of the callback is asked. -/
theorem acknowledgement_exceeds_limit :
    acknowledgementChecks (callbackEnv 1000000) (callbackContext 1000000) callbackPacket "0x09" "sender"
        "ics20-1" = .ok (some ⟨1000000, Vector.replicate 20 7, bytesToAddress [9]⟩) ∧
      (ibcOnAcknowledgementPacketCallback (callbackEnv 1000000) (burner 0 []) (callbackContext 1000000)
        callbackPacket [] "0x09" "sender" "ics20-1").gas = 25000000 ∧
      (callEVMWithData (callbackEnv 1000000).keeper (burner 0 []) (callbackContext 1000000)
        (Vector.replicate 20 7) (some (bytesToAddress [9])) [1, 2, 3, 4] true (some 1000000)).gas =
        25000000 :=
  ⟨toOption_some (by decide +kernel), by decide +kernel, by decide +kernel⟩

end OgEvm.IbcCallbacks
