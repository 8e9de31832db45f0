import OgEvm.Erc20Conversion

/- IBC transfers of converted coins: the ICS-20 message that converts what the sender lacks,
the packet that arrives, the refund of one that failed, and the transaction of the EVM that
calls the ICS-20 precompile. The ICS-20 application itself acts on the bank, in a way that is
not modelled. -/
namespace OgEvm.Erc20

structure Hop where
  portId : String
  channelId : String
  deriving DecidableEq, Repr

/-- `transfertypes.Denom`. -/
structure IbcDenom where
  base : String
  trace : List Hop
  deriving DecidableEq, Repr

/-- A packet, with its data as `UnmarshalJSON` reads it. -/
structure Packet where
  sourcePort : String
  sourceChannel : String
  destinationPort : String
  destinationChannel : String
  data : Except GoError FungibleTokenPacketData

structure MsgTransfer where
  sourcePort : String
  sourceChannel : String
  token : Coin
  sender : String
  receiver : String
  memo : String

structure IbcEnv (σ : Type) extends KeeperEnv σ where
  extractDenomFromPath : String → IbcDenom
  /-- `IBCDenom`: the base, or the hash of the whole path. -/
  ibcDenom : IbcDenom → Denom
  /-- `AccAddress.String`. -/
  bech32 : AccAddress → String
  /-- The text of an error acknowledgement. -/
  errorAcknowledgement : GoError → String

/-- What the ICS-20 application does with the bank, or the error it returns. -/
abbrev Ics20 : Type := BankState → Except GoError BankState

def errInvalidType : GoError := (.other, "invalid type")

def Acknowledgement.success : Acknowledgement → Bool
  | .result _ => true
  | .error _ => false

def IbcDenom.hasPrefix (denom : IbcDenom) (portId channelId : String) : Bool :=
  denom.trace.head? = some ⟨portId, channelId⟩

variable {σ : Type}

/-- `GetReceivedCoin`. An amount that does not parse is left nil. -/
def getReceivedCoin (env : IbcEnv σ) (packet : Packet) (denom : IbcDenom) (amount : String) : Denom × Option ℤ :=
  let amountInt := env.newIntFromString amount
  if denom.hasPrefix packet.sourcePort packet.sourceChannel then
    (env.ibcDenom { denom with trace := denom.trace.drop 1 }, amountInt)
  else
    let hop : Hop := ⟨packet.destinationPort, packet.destinationChannel⟩
    (env.ibcDenom { denom with trace := hop :: denom.trace }, amountInt)

def hasTextPrefix (text start : String) : Bool := start.toUTF8.toList.isPrefixOf text.toUTF8.toList

/-- `strings.TrimPrefix` of the denominations of native ERC-20s. -/
def trimErc20Prefix (denom : Denom) : String :=
  if "erc20:".toList.isPrefixOf denom.toList then String.ofList (denom.toList.drop 6) else denom

namespace State

variable (env : IbcEnv σ) (ics20 : Ics20)

/-- The conversion of a coin that has arrived, with the acknowledgement that reports it. -/
def convertReceived (pair : TokenPair) (denom : Denom) (amount : Option ℤ)
    (recipient : AccAddress) (ack : Acknowledgement) (s : State σ) : Except Halt (State σ × Acknowledgement) :=
  if !pair.enabled then .ok (s, ack)
  else match s.mintingEnabled env.toKeeperEnv recipient denom with
    | .error err =>
      .ok (s.emit ⟨"erc20_callback_failure", [("convert_coin", "mint_failure"), ("cosmos_coin", denom),
        ("receiver", env.bech32 recipient)]⟩, .error (env.errorAcknowledgement err))
    | .ok pair =>
      match convertCoinNativeERC20 env.toErc20Env pair amount (bytesToAddress recipient) recipient s.store with
      | .error cause => .error (.panic cause)
      | .ok (t, some err) => .ok (s.withStore t, .error (env.errorAcknowledgement err))
      | .ok (t, none) => .ok (s.withStore t, ack)

/-- `OnRecvPacket` of the keeper, after the ICS-20 application has paid the coins out. -/
def onRecvPacket (bondDenom : Except GoError Denom) (packet : Packet)
    (ack : Acknowledgement) (s : State σ) : Except Halt (State σ × Acknowledgement) :=
  if !s.kv.enableErc20 then .ok (s, ack)
  else match packet.data with
    | .error _ => .ok (s, .error (env.errorAcknowledgement
        (wrapError errInvalidType "cannot unmarshal ICS-20 transfer packet data")))
    | .ok data =>
      let (denom, amount) := getReceivedCoin env packet (env.extractDenomFromPath data.denom) data.amount
      if hasTextPrefix data.denom "factory/" then .ok (s, ack)
      else match bondDenom with
        | .error err => .ok (s, .error (env.errorAcknowledgement err))
        | .ok bondDenom =>
          if denom = bondDenom then .ok (s, ack)
          else match env.addrCodec data.receiver with
            | .error err => .ok (s, .error (env.errorAcknowledgement (wrapError err "invalid recipient")))
            | .ok recipient =>
              if s.moduleAccounts recipient then .ok (s, ack)
              else match s.kv.getTokenPair (s.kv.getTokenPairID denom) with
                | none =>
                  if !hasTextPrefix denom "ibc/" then .ok (s, ack)
                  else match s.registerERC20Extension env.toKeeperEnv denom with
                    | .error err => .ok (s, .error (env.errorAcknowledgement err))
                    | .ok (t, pair) =>
                      .ok (t.emit ⟨"register_erc20_extension",
                        [("source_channel", packet.sourceChannel), ("erc20_token", pair.erc20Address),
                          ("cosmos_coin", pair.denom)]⟩, ack)
                | some pair =>
                  if pair.isNativeERC20 then convertReceived env pair denom amount recipient ack s
                  else .ok (s, ack)

/-- A packet as IBC core delivers it through the middleware: the ICS-20 application first, and
nothing is written unless the acknowledgement is a success. -/
def recvPacket (bondDenom : Except GoError Denom) (packet : Packet)
    (ack : Bytes) (s : State σ) : Except Halt (State σ) :=
  match ics20 s.bank with
  | .error err => .error (.error err)
  | .ok bank => do
    let (t, ack) ← onRecvPacket env bondDenom packet (.result ack) { s with bank := bank }
    if ack.success then pure t else pure s

/-- `OnAcknowledgementPacket` and `OnTimeoutPacket` of the middleware: the application refunds
the sender, and the keeper converts the refund. -/
def refundPacket
    (convert : FungibleTokenPacketData → Store σ → Except Erc20Panic (Store σ × Option GoError))
    (packet : Packet) (s : State σ) : Except Halt (State σ) := do
  let data ← packet.data.mapError Halt.error
  let bank ← (ics20 s.bank).mapError Halt.error
  match convert data { s with bank := bank }.store with
  | .error cause => .error (.panic cause)
  | .ok (_, some err) => .error (.error err)
  | .ok (t, none) => .ok (s.withStore t)

def acknowledgePacket (packet : Packet) (ack : Acknowledgement) (s : State σ) :
    Except Halt (State σ) :=
  s.refundPacket ics20 (fun data => onAcknowledgementPacket env.toErc20Env data ack) packet

def timeoutPacket (packet : Packet) (s : State σ) : Except Halt (State σ) :=
  s.refundPacket ics20 (onTimeoutPacket env.toErc20Env) packet

/-- The regular transfer. -/
def sendTransfer (ics20 : MsgTransfer → Ics20) (msg : MsgTransfer) (s : State σ) : Except Halt (State σ) :=
  ((ics20 msg s.bank).mapError Halt.error).map fun bank => { s with bank := bank }

/-- `Transfer`: the sender's tokens are converted for what is missing in coins. -/
def transfer (ics20 : MsgTransfer → Ics20) (msg : MsgTransfer) (s : State σ) :
    Except Halt (State σ) :=
  let pairID := s.kv.getTokenPairID (trimErc20Prefix msg.token.denom)
  match pairID.bind fun id => if id.length = 0 then none else s.kv.tokenPairs id with
  | none => s.sendTransfer ics20 msg
  | some pair =>
    if !pair.enabled then s.sendTransfer ics20 msg
    else do
      let sender ← (env.accAddressFromBech32 msg.sender).mapError Halt.badAddress
      if !s.kv.enableErc20 then s.sendTransfer ics20 msg
      else
        let msg := { msg with token := ⟨pair.denom, msg.token.amount⟩ }
        if !pair.isNativeERC20 then s.sendTransfer ics20 msg
        else
          let balance := Bank.spendableCoin s.bank sender pair.denom
          if msg.token.amount ≤ balance then s.sendTransfer ics20 msg
          else do
            let difference := msg.token.amount - balance
            let s ← s.convertERC20 env.toKeeperEnv ⟨addressHex env.vm pair.getERC20Contract, difference,
              env.bech32 sender, addressHex env.vm (bytesToAddress sender)⟩
            s.sendTransfer ics20 msg

end State

/-! A transaction of the EVM has a StateDB, which does not see what a message run inside one of
its precompile calls writes to the same slots. -/

/-- `originStorage`, filled from the context as it was at first, and `dirtyStorage`. -/
structure TxStorage (κ ν : Type) where
  origin : κ → ν
  dirty : κ → Option ν

section

variable {κ ν : Type} [DecidableEq κ] [DecidableEq ν]

namespace TxStorage

def getState (own : TxStorage κ ν) (slot : κ) : ν := (own.dirty slot).getD (own.origin slot)

def setState (own : TxStorage κ ν) (slot : κ) (value : ν) : TxStorage κ ν :=
  if own.getState slot = value then own
  else { own with dirty :=
    Function.update own.dirty slot (if value = own.origin slot then none else some value) }

/-- The dirty slots are written to a context. -/
def commit (own : TxStorage κ ν) (stored : κ → ν) : κ → ν := fun slot => (own.dirty slot).getD (stored slot)

/-- After `CommitWithCacheCtx` they are the new origin, and still dirty. -/
def flushed (own : TxStorage κ ν) : TxStorage κ ν := { own with origin := own.getState }

end TxStorage

/-- What a transaction does. Frames that revert are left out. -/
inductive TxStep (κ ν : Type) where
  | setState (slot : κ) (value : ν)
  | ics20Transfer (ics20 : MsgTransfer → Ics20) (msg : MsgTransfer)

/-- A transaction under way, with its cache context. -/
structure OpenTx (κ ν : Type) where
  own : TxStorage κ ν
  cached : State (κ → ν)

/-- `RunNativeAction` writes the dirty slots first. An error takes the cache context back. -/
def TxStep.run (env : IbcEnv (κ → ν)) (tx : OpenTx κ ν) : TxStep κ ν → Except Halt (OpenTx κ ν)
  | .setState slot value => .ok { tx with own := tx.own.setState slot value }
  | .ics20Transfer ics20 msg =>
    match { tx.cached with evm := tx.own.commit tx.cached.evm }.transfer env ics20 msg with
    | .ok cached => .ok ⟨tx.own.flushed, cached⟩
    | .error (.error _) => .ok ⟨tx.own.flushed, tx.cached⟩
    | .error halt => .error halt

def State.transaction (env : IbcEnv (κ → ν)) (steps : List (TxStep κ ν)) (s : State (κ → ν)) :
    Except Halt (State (κ → ν)) := do
  let tx ← steps.foldlM (TxStep.run env) ⟨⟨s.evm, fun _ => none⟩, s⟩
  pure { tx.cached with evm := tx.own.commit tx.cached.evm }

end

end OgEvm.Erc20
