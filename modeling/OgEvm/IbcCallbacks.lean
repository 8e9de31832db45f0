import OgEvm.CallEvm

/- The callbacks that IBC packets make to contracts, with the gas the packet's sender
allows for them. -/
namespace OgEvm.IbcCallbacks

open Vm

structure Hop where
  port : String
  channel : String
deriving DecidableEq

/-- A token's base denomination and the channels it came through. -/
structure TokenDenom where
  base : String
  trace : List Hop
deriving DecidableEq

structure Packet where
  data : Bytes
  sourcePort : String
  sourceChannel : String
  destPort : String
  destChannel : String
  sequence : UInt64

/-- `InternalTransferRepresentation`. -/
structure TransferData where
  denom : TokenDenom
  amount : String
  sender : String
  receiver : String

structure CallbackData where
  calldata : Bytes
  commitGasLimit : UInt64

inductive CallbackKey where
  | source
  | destination

/-- What the callbacks ask of ibc-go, the SDK and the erc20 keeper. The limit that a
packet asks for is cut to the gas it is given. -/
structure CallbackEnv where
  keeper : CallKeeper
  unmarshalPacketData : Bytes → String → Except GoError TransferData
  getCallbackData : TransferData → (version port : String) → (remainingGas maxGas : UInt64) →
    CallbackKey → Except GoError (Option CallbackData)
  limit_le : ∀ {data version port remainingGas maxGas key callback},
    getCallbackData data version port remainingGas maxGas key = .ok (some callback) →
      callback.commitGasLimit ≤ maxGas
  accAddressFromBech32 : String → Except GoError AccAddress
  valAddressFromBech32 : String → Except GoError AccAddress
  consAddressFromBech32 : String → Except GoError AccAddress
  /-- `types.GenerateIsolatedAddress`. -/
  isolatedAddress : (channelID sender : String) → Address
  /-- `Denom.IBCDenom`. -/
  ibcDenom : TokenDenom → Denom
  newIntFromString : String → Option ℤ
  /-- `GetTokenPair` of `GetTokenPairID`. -/
  tokenPair : Denom → Option Erc20.TokenPair
  packAcknowledgement : Packet → Bytes → Except GoError Bytes
  packTimeout : Packet → Except GoError Bytes

variable (e : CallbackEnv) (evm : Evm) (ctx : CallContext) (packet : Packet)

/-- `utils.HexAddressFromBech32String`. -/
def hexAddressFromBech32String (addr : String) : Except GoError Address :=
  match e.accAddressFromBech32 addr with
  | .ok bytes => .ok (bytesToAddress bytes)
  | .error _ =>
    match e.valAddressFromBech32 addr with
    | .ok bytes => .ok (bytesToAddress bytes)
    | .error _ =>
      match e.consAddressFromBech32 addr with
      | .ok bytes => .ok (bytesToAddress bytes)
      | .error err =>
        .error (Erc20.wrapError err "failed to convert bech32 string to address")

/-- The denomination of `ibc.GetReceivedCoin`. -/
def receivedDenom (denom : TokenDenom) : Denom :=
  match denom.trace with
  | hop :: rest =>
    if hop = ⟨packet.sourcePort, packet.sourceChannel⟩ then e.ibcDenom { denom with trace := rest }
    else e.ibcDenom { denom with trace := ⟨packet.destPort, packet.destChannel⟩ :: hop :: rest }
  | [] => e.ibcDenom { denom with trace := [⟨packet.destPort, packet.destChannel⟩] }

def errInvalidReceiverAddress : GoError := (.other, "invalid receiver address")
def errCallbackFailed : GoError := (.other, "callback failed")
def errInvalidCalldata : GoError := (.other, "invalid calldata in callback data")
def errContractHasNoCode : GoError := (.other, "contract has no code")
def errTokenPairNotFound : GoError := (.other, "token not registered")
def errNumberOverflow : GoError := (.other, "number overflow")
def errAllowanceFailed : GoError := (.other, "allowance failed")
def errEVMCallFailed : GoError := (.other, "evm call failed")
def errOutOfGas : GoError := (.other, "out of gas")

/-- A word of the ABI encoding. -/
def abiWord (value : BitVec 256) : Bytes :=
  List.ofFn fun position : Fin 32 => UInt8.ofNat (value.toNat / 256 ^ (31 - position.val))

def abiAddress (addr : Address) : Bytes := List.replicate 12 0 ++ addr.toList

def selector (env : Env) (signature : String) : Bytes :=
  ((env.keccak signature.toUTF8.toList).toList).take 4

def packApprove (env : Env) (spender : Address) (amount : ℤ) : Bytes :=
  selector env "approve(address,uint256)" ++ abiAddress spender ++ abiWord (BitVec.ofInt 256 amount)

def packBalanceOf (env : Env) (account : Address) : Bytes :=
  selector env "balanceOf(address)" ++ abiAddress account

/-- How a callback ends. `gas` is what its EVM calls used, for reference only. -/
structure CallbackReport where
  after : CallContext
  gas : ℕ
  outcome : Except CallHalt Unit

/-- The cached context of a callback, on the meter that is never out of gas. -/
def cachedContext (limit : UInt64) : CallContext :=
  ⟨⟨ctx.ctx.store, []⟩, Meter.newInfiniteGasMeterWithLimit limit⟩

/-- `writeFn`. -/
def writeCached (cached : Context) : CallContext :=
  { ctx with ctx := ⟨cached.store, ctx.ctx.events ++ cached.events⟩ }

/-- The callback data of a packet, if it has some. -/
def callbackData (version : String)
    (key : CallbackKey) : Except GoError (Option (TransferData × CallbackData)) := do
  let data ← e.unmarshalPacketData packet.data version
  let callback ← e.getCallbackData data version packet.destPort ctx.meter.gasRemaining
    ctx.meter.gasRemaining key
  pure (callback.map fun callback => (data, callback))

/-! Acknowledgement and timeout: one call on the sending side. -/

structure SourceCall where
  limit : UInt64
  sender : Address
  contract : Address
deriving DecidableEq

/-- The checks that the two callbacks share; they read the sender in different ways. -/
def sourceChecks (kind : String) (readSender : String → Except GoError Address)
    (ctx : CallContext) (packet : Packet) (contractAddress packetSenderAddress version : String) :
    Except GoError (Option SourceCall) := do
  match ← callbackData e ctx packet version .source with
  | none => pure none
  | some (_, callback) =>
    if callback.calldata ≠ [] then
      .error (Erc20.wrapError errInvalidCalldata (kind ++ " callback data should not contain calldata"))
    else
      let sender ← (readSender packetSenderAddress).mapError fun err => Erc20.wrapError err
        ("unable to parse packet sender address " ++ packetSenderAddress)
      let contract := Erc20.hexToAddress contractAddress
      if Keeper.isContract e.keeper.env ctx.ctx.store contract = false then
        .error (Erc20.wrapError errCallbackFailed
          ("provided contract address is not a contract: " ++ addressHex e.keeper.env contract))
      else pure (some ⟨callback.commitGasLimit, sender, contract⟩)

def acknowledgementChecks : CallContext → Packet → String → String → String →
    Except GoError (Option SourceCall) :=
  sourceChecks e "acknowledgement" (hexAddressFromBech32String e)

def timeoutChecks : CallContext → Packet → String → String → String → Except GoError (Option SourceCall) :=
  sourceChecks e "timeout" fun addr => (e.accAddressFromBech32 addr).map bytesToAddress

def callbackFailed (err : GoError) : GoError :=
  Erc20.wrapError errCallbackFailed ("EVM returned error: " ++ err.2)

/-- After the call its gas is consumed on the callback's own meter; only then is what
`finish` gives written. -/
def settleCall (report : CallReport) (finish : CallContext → CallContext) : CallbackReport :=
  match report.outcome with
  | .error (.error err) => ⟨ctx, report.gas, .error (.error (callbackFailed err))⟩
  | .error halt => ⟨ctx, report.gas, .error halt⟩
  | .ok res =>
    match ctx.meter.consumeGas res.gasUsed with
    | (meter, some cause) => ⟨{ ctx with meter := meter }, report.gas, .error (.gas cause)⟩
    | (meter, none) =>
      if meter.isOutOfGas then
        ⟨{ ctx with meter := meter }, report.gas,
          .error (.error (Erc20.wrapError errCallbackFailed "out of gas"))⟩
      else ⟨finish { ctx with meter := meter }, report.gas, .ok ()⟩

def acknowledgementCall (packed : Except GoError Bytes) (request : SourceCall) : CallReport :=
  let cached := cachedContext ctx request.limit
  callEVM e.keeper evm cached request.sender request.contract true
    (some cached.meter.gasRemaining.toNat) "onPacketAcknowledgement" packed

def ibcOnAcknowledgementPacketCallback (acknowledgement : Bytes)
    (contractAddress packetSenderAddress version : String) : CallbackReport :=
  match acknowledgementChecks e ctx packet contractAddress packetSenderAddress version with
  | .error err => ⟨ctx, 0, .error (.error err)⟩
  | .ok none => ⟨ctx, 0, .ok ()⟩
  | .ok (some request) =>
    let report := acknowledgementCall e evm ctx (e.packAcknowledgement packet acknowledgement) request
    settleCall ctx report fun ctx => writeCached ctx report.after.ctx

/-- The call is made on the callback's own context, not on the cached one. -/
def timeoutCall (packed : Except GoError Bytes) (request : SourceCall) : CallReport :=
  callEVM e.keeper evm ctx request.sender request.contract true
    (some (cachedContext ctx request.limit).meter.gasRemaining.toNat) "onPacketTimeout" packed

def ibcOnTimeoutPacketCallback (contractAddress packetSenderAddress version : String) : CallbackReport :=
  match timeoutChecks e ctx packet contractAddress packetSenderAddress version with
  | .error err => ⟨ctx, 0, .error (.error err)⟩
  | .ok none => ⟨ctx, 0, .ok ()⟩
  | .ok (some request) =>
    let report := timeoutCall e evm ctx (e.packTimeout packet) request
    settleCall report.after report fun ctx => ctx

/-! Receive: the contract is allowed to take the tokens, then called. -/

structure ReceiveCall where
  limit : UInt64
  calldata : Bytes
  receiver : Address
  contract : Address
  pair : Erc20.TokenPair
  amount : ℤ

/-- The checks of the receiver, the contract and the token. -/
def receiveTarget (contractAddress : String)
    (data : TransferData) (callback : CallbackData) (receiver : Address) : Except GoError ReceiveCall := do
  let isolated := e.isolatedAddress packet.destChannel data.sender
  let contract := Erc20.hexToAddress contractAddress
  if receiver ≠ isolated then
    .error (Erc20.wrapError errInvalidReceiverAddress ("expected " ++ addressHex e.keeper.env isolated ++
      ", got " ++ addressHex e.keeper.env receiver))
  else if Keeper.isContract e.keeper.env ctx.ctx.store contract = false then
    .error (Erc20.wrapError errContractHasNoCode
      ("provided contract address is not a contract: " ++ addressHex e.keeper.env contract))
  else
    match e.tokenPair (receivedDenom e packet data.denom) with
    | none => .error (Erc20.wrapError errTokenPairNotFound
        ("token pair for denom " ++ e.ibcDenom data.denom ++ " not found"))
    | some pair =>
      match e.newIntFromString data.amount with
      | none => .error (Erc20.wrapError errNumberOverflow "amount overflow")
      | some amount =>
        .ok ⟨callback.commitGasLimit, callback.calldata, receiver, contract, pair, amount⟩

/-- The account of the receiver is set anew before it is compared with the isolated one.
An account address that was parsed prints as a string that parses back. -/
def receiveChecks (contractAddress version : String) : CallContext × Except GoError (Option ReceiveCall) :=
  match callbackData e ctx packet version .destination with
  | .error err => (ctx, .error err)
  | .ok none => (ctx, .ok none)
  | .ok (some (data, callback)) =>
    match e.accAddressFromBech32 data.receiver with
    | .error _ => (ctx, .error (Erc20.wrapError errInvalidReceiverAddress
        ("acc addr from bech32 conversion failed for receiver address: " ++ data.receiver)))
    | .ok receiver =>
      let store := { ctx.ctx.store with
        accounts := Function.update ctx.ctx.store.accounts receiver (some ⟨0⟩) }
      let ctx := { ctx with ctx := ctx.ctx.withStore store }
      (ctx, (receiveTarget e ctx packet contractAddress data callback (bytesToAddress receiver)).map some)

def approveCall (request : ReceiveCall) : CallReport :=
  let cached := cachedContext ctx request.limit
  callEVM e.keeper evm cached request.receiver request.pair.getERC20Contract true
    (some cached.meter.gasRemaining.toNat) "approve"
    (.ok (packApprove e.keeper.env request.contract request.amount))

/-- The balance that must be gone; a failed query is a nil pointer. -/
def checkReceiverBalance (querying : Evm) (ctx : CallContext) (request : ReceiveCall)
    (gas : ℕ) : CallbackReport :=
  let query := callEVM e.keeper querying ctx
    (bytesToAddress (Precisebank.moduleAddr e.keeper.env.bank Erc20.moduleName))
    request.pair.getERC20Contract false none "balanceOf"
    (.ok (packBalanceOf e.keeper.env request.receiver))
  match query.outcome with
  | .error (.error _) => ⟨query.after, gas, .error .nilBalance⟩
  | .error halt => ⟨query.after, gas, .error halt⟩
  | .ok res =>
    if res.ret.length < 32 then ⟨query.after, gas, .error .nilBalance⟩
    else
      let balance := Erc20.bytesToNat (res.ret.take 32)
      if balance ≠ 0 then
        ⟨query.after, gas, .error (.error (Erc20.wrapError Erc20.errEVMCall ("receiver has " ++
          toString balance ++ " unrecoverable tokens after callback")))⟩
      else ⟨query.after, gas, .ok ()⟩

def userCall (cached : CallContext) (request : ReceiveCall) (remainingGas : ℤ) : CallReport :=
  callEVMWithData e.keeper evm cached request.receiver (some request.contract) request.calldata true
    (some remainingGas)

/-- From the user's call on; `ctx` has paid for the approval. -/
def finishReceive (querying : Evm) (ctx : CallContext) (request : ReceiveCall)
    (approved : ℕ) (user : CallReport) : CallbackReport :=
  match user.outcome with
  | .error (.error err) => ⟨ctx, approved + user.gas, .error (.error (Erc20.wrapError errEVMCallFailed
      ("EVM returned error: " ++ err.2)))⟩
  | .error halt => ⟨ctx, approved + user.gas, .error halt⟩
  | .ok res =>
    match ctx.meter.consumeGas res.gasUsed with
    | (meter, some cause) => ⟨{ ctx with meter := meter }, approved + user.gas, .error (.gas cause)⟩
    | (meter, none) =>
      if meter.isOutOfGas then
        ⟨{ ctx with meter := meter }, approved + user.gas,
          .error (.error (Erc20.wrapError errOutOfGas "out of gas"))⟩
      else
        checkReceiverBalance e querying (writeCached { ctx with meter := meter } user.after.ctx)
          request (approved + user.gas)

/-- From the approval on. -/
def runReceive (approving executing querying : Evm) (ctx : CallContext)
    (request : ReceiveCall) : CallbackReport :=
  let remainingGas : ℤ := (cachedContext ctx request.limit).meter.gasRemaining.toNat
  let approval := approveCall e approving ctx request
  match approval.outcome with
  | .error (.error err) => ⟨ctx, approval.gas, .error (.error (Erc20.wrapError errAllowanceFailed
      ("failed to set allowance: " ++ err.2)))⟩
  | .error halt => ⟨ctx, approval.gas, .error halt⟩
  | .ok res =>
    match ctx.meter.consumeGas res.gasUsed with
    | (meter, some cause) => ⟨{ ctx with meter := meter }, approval.gas, .error (.gas cause)⟩
    | (meter, none) =>
      let ctx := { ctx with meter := meter }
      let remainingGas := remainingGas - res.gasUsed.toNat
      if meter.isOutOfGas ∨ remainingGas < 0 then
        ⟨ctx, approval.gas, .error (.error (Erc20.wrapError errOutOfGas "out of gas"))⟩
      else
        match Erc20.unpackBool res.ret with
        | .error err => ⟨ctx, approval.gas, .error (.error (Erc20.wrapError errAllowanceFailed
            ("failed to unpack approve return: " ++ err.2)))⟩
        | .ok false => ⟨ctx, approval.gas, .error (.error (Erc20.wrapError errAllowanceFailed
            "failed to set allowance"))⟩
        | .ok true =>
          finishReceive e querying ctx request approval.gas
            (userCall e executing approval.after request remainingGas)

/-- Each EVM call of the callback has a behaviour of its own. -/
def ibcReceivePacketCallback (approving executing querying : Evm) (ctx : CallContext)
    (packet : Packet) (contractAddress version : String) : CallbackReport :=
  match receiveChecks e ctx packet contractAddress version with
  | (ctx, .error err) => ⟨ctx, 0, .error (.error err)⟩
  | (ctx, .ok none) => ⟨ctx, 0, .ok ()⟩
  | (ctx, .ok (some request)) => runReceive e approving executing querying ctx request

end OgEvm.IbcCallbacks
