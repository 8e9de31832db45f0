import OgEvm.StateDbCommit

/- The x/erc20 keeper on the way back from IBC: token pairs, the conversion of a
coin into the ERC-20 it stands for, and the callbacks of a failed transfer. The
contract behind a pair is arbitrary code, seen through the answers it gives. -/
namespace OgEvm.Erc20

def moduleName : ModuleName := "erc20"

inductive Owner where
  | unspecified
  | module
  | external
  deriving DecidableEq, Repr

structure TokenPair where
  erc20Address : String
  denom : Denom
  enabled : Bool
  contractOwner : Owner
  deriving DecidableEq, Repr

/-! Hex addresses, on the bytes of the string. -/

def hexValue (byte : UInt8) : Option UInt8 :=
  if 48 ≤ byte ∧ byte ≤ 57 then some (byte - 48)
  else if 97 ≤ byte ∧ byte ≤ 102 then some (byte - 87)
  else if 65 ≤ byte ∧ byte ≤ 70 then some (byte - 55)
  else none

/-- `hex.DecodeString`, whose error is dropped: what stands before a bad digit is kept. -/
def hexDecode : Bytes → Bytes
  | high :: low :: rest =>
    match hexValue high, hexValue low with
    | some high, some low => (high * 16 + low) :: hexDecode rest
    | _, _ => []
  | _ => []

def stripHexPrefix : Bytes → Bytes
  | 48 :: 120 :: rest => rest
  | 48 :: 88 :: rest => rest
  | digits => digits

def isHexAddress (text : String) : Bool :=
  let digits := stripHexPrefix text.toUTF8.toList
  digits.length = 40 && digits.all fun digit => (hexValue digit).isSome

def hexToAddress (text : String) : Address :=
  let digits := stripHexPrefix text.toUTF8.toList
  bytesToAddress (hexDecode (if digits.length % 2 = 1 then 48 :: digits else digits))

namespace TokenPair

def getERC20Contract (pair : TokenPair) : Address := hexToAddress pair.erc20Address

def isNativeCoin (pair : TokenPair) : Bool := pair.contractOwner = .module

def isNativeERC20 (pair : TokenPair) : Bool := pair.contractOwner = .external

end TokenPair

/-! The contract. -/

structure TxLog where
  address : Address
  topics : List Hash

structure Response where
  ret : Bytes
  logs : List TxLog

/-- The contracts of the EVM as the keeper calls them, over any state of theirs. A
call that fails may still leave a changed state, and a query changes nothing. -/
structure Contracts (σ : Type) where
  transfer : σ → (contract caller receiver : Address) → ℤ → Except GoError Response × σ
  balanceOf : σ → (contract account : Address) → Except GoError Bytes

/-- What the keeper is assembled with. -/
structure Erc20Env (σ : Type) where
  vm : Env
  contracts : Contracts σ
  /-- `addrCodec.StringToBytes`. -/
  addrCodec : String → Except GoError AccAddress
  /-- `math.NewIntFromString`. -/
  newIntFromString : String → Option ℤ
  /-- `ExtractDenomFromPath` followed by `IBCDenom`. -/
  extractIBCDenom : String → Denom

structure SdkEvent where
  type : String
  attributes : List (String × String)
  deriving DecidableEq, Repr

/-- The stores a callback touches. -/
structure Store (σ : Type) where
  tokenPairs : Bytes → Option TokenPair
  erc20Map : Address → Option Bytes
  denomMap : Denom → Option Bytes
  enableErc20 : Bool
  moduleAccounts : AccAddress → Bool
  bank : BankState
  evm : σ
  events : List SdkEvent

inductive Erc20Panic where
  | keeper (cause : PanicCause)
  /-- An operation on an amount that was not parsed. -/
  | nilAmount
  | indexOutOfRange
  deriving DecidableEq, Repr

variable {σ : Type} (env : Erc20Env σ)

namespace Store

def getTokenPairID (s : Store σ) (token : String) : Option Bytes :=
  if isHexAddress token then s.erc20Map (hexToAddress token) else s.denomMap token

def getTokenPair (s : Store σ) (id : Option Bytes) : Option TokenPair := id.bind s.tokenPairs

def isDenomRegistered (s : Store σ) (denom : Denom) : Bool := (s.denomMap denom).isSome

end Store

/-- `errorsmod.Wrap`. -/
def wrapError (err : GoError) (description : String) : GoError := (err.1, description ++ ": " ++ err.2)

def errNegativeToken : GoError := (.other, "token amount is negative")
def errEVMCall : GoError := (.other, "EVM call unexpected error")
def errExpectedEvent : GoError := (.other, "expected event")
def errUnexpectedEvent : GoError := (.other, "unexpected event")
def errBalanceInvariance : GoError := (.other, "post transfer balance invariant failed")
def errLogic : GoError := (.other, "internal logic error")

def bytesToNat (bytes : Bytes) : ℕ := bytes.foldl (fun value byte => value * 256 + byte.toNat) 0

def lengthInsufficient (ret : Bytes) : GoError :=
  (.other, "abi: cannot marshal in to go type: length insufficient " ++ toString ret.length ++ " require 32")

/-- `UnpackIntoInterface` of one boolean. -/
def unpackBool (ret : Bytes) : Except GoError Bool :=
  if ret.length < 32 then .error (lengthInsufficient ret)
  else match bytesToNat (ret.take 32) with
    | 0 => .ok false
    | 1 => .ok true
    | _ => .error (.other, "abi: improperly encoded boolean value")

def moduleAddress : Address := bytesToAddress (Precisebank.moduleAddr env.vm.bank moduleName)

/-- `BalanceOf`: every failure reads as no balance. -/
def balanceOf (s : Store σ) (contract account : Address) : Option ℤ :=
  match env.contracts.balanceOf s.evm contract account with
  | .error _ => none
  | .ok ret => if ret.length < 32 then none else some (bytesToNat (ret.take 32))

def logTransferSigHash : Hash := env.vm.keccak "Transfer(address,address,uint256)".toUTF8.toList

/-- The loop of `validateTransferEventExists`; a log without topics is indexed all the same. -/
def scanTransferLogs (env : Erc20Env σ) (tokenAddress : Address) :
    List TxLog → Bool → Except Erc20Panic (Bool × Option GoError)
  | [], found => .ok (found, none)
  | log :: rest, found =>
    match log.topics with
    | [] => .error .indexOutOfRange
    | topic :: _ =>
      if topic = logTransferSigHash env then
        if log.address ≠ tokenAddress then
          .ok (found, some (wrapError errUnexpectedEvent "Transfer event from unexpected address"))
        else if found then .ok (found, some (wrapError errUnexpectedEvent "duplicate Transfer event"))
        else scanTransferLogs env tokenAddress rest true
      else scanTransferLogs env tokenAddress rest found

def validateTransferEventExists (logs : List TxLog) (tokenAddress : Address) :
    Except Erc20Panic (Option GoError) :=
  if logs = [] then .ok (some (wrapError errExpectedEvent "expected Transfer event"))
  else do
    match ← scanTransferLogs env tokenAddress logs false with
    | (_, some err) => pure (some err)
    | (true, none) => pure none
    | (false, none) => pure (some (wrapError errExpectedEvent "expected Transfer event"))

/-- The check of what `transfer` returned. -/
def checkResponse (contract : Address) (res : Response) : Except Erc20Panic (Option GoError) :=
  if res.ret.length = 0 then validateTransferEventExists env res.logs contract
  else match unpackBool res.ret with
    | .error err => .ok (some err)
    | .ok true => .ok none
    | .ok false => .ok (some (wrapError errLogic "failed to execute unescrow tokens from user"))

/-- `CallEVM` of `transfer` from the module account, with the state it leaves. -/
def callTransfer (s : Store σ) (contract receiver : Address) (amount : ℤ) :
    Except GoError Response × Store σ :=
  let (answer, evm) := env.contracts.transfer s.evm contract (moduleAddress env) receiver amount
  (answer.mapError fun err => wrapError err ("contract call failed: method 'transfer', contract '" ++
    addressHex env.vm contract ++ "'"), { s with evm := evm })

/-- The last step: the balance check and the burn of the escrowed coins. -/
def burnEscrow (pair : TokenPair) (amount balanceToken : ℤ) (receiver : Address)
    (s : Store σ) : Except Erc20Panic (Store σ × Option GoError) :=
  match balanceOf env s pair.getERC20Contract receiver with
  | none => .ok (s, some (wrapError errEVMCall "failed to retrieve balance"))
  | some balanceTokenAfter =>
    let exp := balanceToken + amount
    if balanceTokenAfter ≠ exp then
      .ok (s, some (wrapError errBalanceInvariance ("invalid token balance - expected: " ++
        toString exp ++ ", actual: " ++ toString balanceTokenAfter)))
    else match Bank.burnCoins env.vm.bank s.bank moduleName [⟨pair.denom, amount⟩] with
      | .error (.panic cause) => .error (.keeper cause)
      | .error (.error code text) => .ok (s, some (wrapError (code, text) "failed to burn coins"))
      | .ok bank => .ok ({ s with bank := bank }, none)

/-- What `ConvertCoinNativeERC20` does once the coins are in escrow. -/
def unescrowTokens (pair : TokenPair) (amount balanceToken : ℤ) (receiver : Address)
    (s : Store σ) : Except Erc20Panic (Store σ × Option GoError) :=
  match callTransfer env s pair.getERC20Contract receiver amount with
  | (.error err, s) => .ok (s, some err)
  | (.ok res, s) => do
    match ← checkResponse env pair.getERC20Contract res with
    | some err => pure (s, some err)
    | none => burnEscrow env pair amount balanceToken receiver s

def convertCoinNativeERC20 (pair : TokenPair) (amount : Option ℤ)
    (receiver : Address) (sender : AccAddress) (s : Store σ) :
    Except Erc20Panic (Store σ × Option GoError) :=
  match amount with
  | none => .error .nilAmount
  | some amount =>
    if amount ≤ 0 then
      .ok (s, some (wrapError errNegativeToken "converted coin amount must be positive"))
    else match balanceOf env s pair.getERC20Contract receiver with
      | none => .ok (s, some (wrapError errEVMCall "failed to retrieve balance"))
      | some balanceToken =>
        match Bank.sendCoinsFromAccountToModule env.vm.bank s.bank sender moduleName
            [⟨pair.denom, amount⟩] with
        | .error (.panic cause) => .error (.keeper cause)
        | .error (.error code text) =>
          .ok (s, some (wrapError (code, text) "failed to escrow coins"))
        | .ok bank => unescrowTokens env pair amount balanceToken receiver { s with bank := bank }

structure FungibleTokenPacketData where
  denom : String
  amount : String
  sender : String
  receiver : String
  memo : String

/-- A conversion that fails is reported by an event, and its error is dropped. -/
def reportFailure (pair : TokenPair) (s : Store σ) (err : GoError) : Store σ :=
  { s with events := s.events ++ [⟨"failed_convert_erc20",
    [("source_channel", pair.denom), ("erc20_token", pair.erc20Address), ("error", err.2)]⟩] }

def convertCoinToERC20FromPacket (data : FungibleTokenPacketData) (s : Store σ) :
    Except Erc20Panic (Store σ × Option GoError) :=
  match env.addrCodec data.sender with
  | .error err => .ok (s, some err)
  | .ok sender =>
    match s.getTokenPair (s.getTokenPairID data.denom) with
    | none => .ok (s, none)
    | some pair =>
      let coinDenom := env.extractIBCDenom data.denom
      let amount := env.newIntFromString data.amount
      if pair.isNativeCoin then .ok (s, none)
      else if pair.isNativeERC20 then
        if !s.enableErc20 || !s.isDenomRegistered coinDenom then .ok (s, none)
        else if s.moduleAccounts sender then .ok (s, none)
        else do
          match ← convertCoinNativeERC20 env pair amount (bytesToAddress sender) sender s with
          | (s, some err) => pure (reportFailure pair s err, none)
          | (s, none) => pure (s, none)
      else .ok (s, none)

inductive Acknowledgement where
  | result (bytes : Bytes)
  | error (text : String)

def onAcknowledgementPacket (data : FungibleTokenPacketData) (ack : Acknowledgement)
    (s : Store σ) : Except Erc20Panic (Store σ × Option GoError) :=
  match ack with
  | .error _ => convertCoinToERC20FromPacket env data s
  | .result _ => .ok (s, none)

def onTimeoutPacket (data : FungibleTokenPacketData) (s : Store σ) :
    Except Erc20Panic (Store σ × Option GoError) :=
  convertCoinToERC20FromPacket env data s

end OgEvm.Erc20
