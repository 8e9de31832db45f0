import OgEvm.HexText

/- The store of x/erc20: token pairs under a hash of their strings, the two maps that lead
to them, allowances under raw addresses, and the addresses that answer as precompiles. -/
namespace OgEvm.Erc20

structure Allowance where
  erc20Address : String
  owner : String
  spender : String
  value : ℤ
  deriving DecidableEq, Repr

/-- The prefix stores of the module. A precompile is kept under the text of its address. -/
@[ext] structure KVStore where
  enableErc20 : Bool
  permissionlessRegistration : Bool
  tokenPairs : Bytes → Option TokenPair
  erc20Map : Address → Option Bytes
  denomMap : Denom → Option Bytes
  allowances : Bytes → Option Allowance
  nativePrecompiles : String → Bool
  dynamicPrecompiles : String → Bool

def KVStore.empty : KVStore where
  enableErc20 := false
  permissionlessRegistration := false
  tokenPairs := fun _ => none
  erc20Map := fun _ => none
  denomMap := fun _ => none
  allowances := fun _ => none
  nativePrecompiles := fun _ => false
  dynamicPrecompiles := fun _ => false

structure ERC20Data where
  name : String
  symbol : String
  decimals : UInt8

structure DenomUnit where
  denom : Denom
  exponent : ℕ
  deriving DecidableEq, Repr

/-- `banktypes.Metadata`. -/
structure Metadata where
  description : String
  denomUnits : List DenomUnit
  base : Denom
  display : Denom
  name : String
  symbol : String
  deriving DecidableEq, Repr

/-- The keepers around the module, over any state of the EVM. A contract answers a
query about itself as it likes. -/
structure KeeperEnv (σ : Type) extends Erc20Env σ where
  /-- `tmhash.Sum`. -/
  sum : Bytes → Bytes
  authority : String
  /-- `sdk.AccAddressFromBech32`. -/
  accAddressFromBech32 : String → Except GoError AccAddress
  getAccount : σ → Address → Option Account
  setAccount : σ → Address → Account → Except GoError σ
  getCode : σ → Hash → Bytes
  setCode : σ → Hash → Bytes → σ
  /-- The bytecode behind every ERC-20 precompile. -/
  erc20Bytecode : Bytes
  /-- `QueryERC20`: name, symbol and decimals of a contract. -/
  queryERC20 : σ → Address → Except GoError ERC20Data
  /-- `Metadata.Validate`. -/
  validateMetadata : Metadata → Except GoError Unit

/-- The stores that an operation of the keeper touches. -/
structure State (σ : Type) where
  kv : KVStore
  moduleAccounts : AccAddress → Bool
  denomMetadata : Denom → Option Metadata
  /-- `IsSendEnabledCoin`. -/
  sendEnabled : Denom → Bool
  bank : BankState
  evm : σ
  events : List SdkEvent

def errERC20Disabled : GoError := (.other, "erc20 module is disabled")
def errInternalTokenPair : GoError := (.other, "internal ethereum token mapping error")
def errTokenPairNotFound : GoError := (.other, "token pair not found")
def errTokenPairAlreadyExists : GoError := (.other, "token pair already exists")
def errUndefinedOwner : GoError := (.other, "undefined owner of contract pair")
def errERC20TokenPairDisabled : GoError := (.other, "erc20 token pair is disabled")
def errNativeConversionDisabled : GoError := (.other, "native coins manual conversion is disabled")
def errInvalidAllowance : GoError := (.other, "invalid allowance")
def errInvalidAddress : GoError := (.other, "invalid address")
def errInvalidSigner : GoError := (.other, "expected gov account as only signer for proposal message")
def errInvalidDenomForTransfer : GoError := (.other, "invalid denomination for cross-chain transfer")

variable {σ : Type}

def TokenPair.getID (env : KeeperEnv σ) (pair : TokenPair) : Bytes :=
  env.sum (pair.erc20Address ++ "|" ++ pair.denom).toUTF8.toList

def newTokenPair (env : KeeperEnv σ) (erc20Address : Address) (denom : Denom) (contractOwner : Owner) :
    TokenPair where
  erc20Address := addressHex env.vm erc20Address
  denom := denom
  enabled := true
  contractOwner := contractOwner

def newAllowance (env : KeeperEnv σ) (erc20 owner spender : Address) (value : ℤ) : Allowance where
  erc20Address := addressHex env.vm erc20
  owner := addressHex env.vm owner
  spender := addressHex env.vm spender
  value := value

def allowanceKey (erc20 owner spender : Address) : Bytes :=
  erc20.toList ++ owner.toList ++ spender.toList

namespace KVStore

variable (env : KeeperEnv σ) (kv : KVStore)

/-! Reading. -/

def getTokenPairID (token : String) : Option Bytes :=
  if isHexAddress token then kv.erc20Map (hexToAddress token) else kv.denomMap token

def getTokenPair (id : Option Bytes) : Option TokenPair := id.bind kv.tokenPairs

def isERC20Registered (erc20 : Address) : Bool := (kv.erc20Map erc20).isSome

def isDenomRegistered (denom : Denom) : Bool := (kv.denomMap denom).isSome

def getAllowance (erc20 owner spender : Address) : ℤ :=
  ((kv.allowances (allowanceKey erc20 owner spender)).map Allowance.value).getD 0

def isNativePrecompileAvailable (precompile : Address) : Bool :=
  kv.nativePrecompiles (addressHex env.vm precompile)

def isDynamicPrecompileAvailable (precompile : Address) : Bool :=
  kv.dynamicPrecompiles (addressHex env.vm precompile)

/-! Writing. -/

def setTokenPair (pair : TokenPair) : KVStore :=
  { kv with tokenPairs := Function.update kv.tokenPairs (pair.getID env) (some pair) }

def setDenomMap (denom : Denom) (id : Bytes) : KVStore :=
  { kv with denomMap := Function.update kv.denomMap denom (some id) }

def setERC20Map (erc20 : Address) (id : Bytes) : KVStore :=
  { kv with erc20Map := Function.update kv.erc20Map erc20 (some id) }

def setToken (pair : TokenPair) : Except GoError KVStore :=
  if kv.isDenomRegistered pair.denom then
    .error (wrapError errTokenPairAlreadyExists ("token already exists for denom " ++ pair.denom))
  else if kv.isERC20Registered pair.getERC20Contract then
    .error (wrapError errTokenPairAlreadyExists ("token already exists for token " ++ pair.erc20Address))
  else
    let kv := kv.setTokenPair env pair
    let kv := kv.setDenomMap pair.denom (pair.getID env)
    .ok (kv.setERC20Map pair.getERC20Contract (pair.getID env))

/-- The keys that start with the contract are collected first and then deleted. -/
def deleteAllowances (erc20 : Address) : KVStore :=
  { kv with allowances := fun key => if erc20.toList.isPrefixOf key then none else kv.allowances key }

def deleteTokenPair (pair : TokenPair) : KVStore :=
  let kv := { kv with tokenPairs := Function.update kv.tokenPairs (pair.getID env) none }
  let kv := { kv with erc20Map := Function.update kv.erc20Map pair.getERC20Contract none }
  let kv := { kv with denomMap := Function.update kv.denomMap pair.denom none }
  kv.deleteAllowances pair.getERC20Contract

/-- `setAllowance`: a zero is stored as no entry. -/
def putAllowance (erc20 owner spender : Address) (value : Option ℤ)
    (allowDisabledTokenPair : Bool) : Except GoError KVStore :=
  match kv.getTokenPair (kv.erc20Map erc20) with
  | none => .error (wrapError errTokenPairNotFound ("token pair for address '" ++
      addressHex env.vm erc20 ++ "' not registered"))
  | some tokenPair =>
    if !allowDisabledTokenPair && !tokenPair.enabled then
      .error (wrapError errERC20TokenPairDisabled ("token pair for address '" ++
        addressHex env.vm erc20 ++ "' is disabled"))
    else if owner = Vector.replicate 20 0 then
      .error (wrapError errInvalidAddress "owner address is empty")
    else if spender = Vector.replicate 20 0 then
      .error (wrapError errInvalidAddress "spender address is empty")
    else match value with
      | none => .error (wrapError errInvalidAllowance "value is nil")
      | some value =>
        if value < 0 then
          .error (wrapError errInvalidAllowance ("value '" ++ toString value ++ "' is less than zero"))
        else if 2 ^ 256 ≤ value then
          .error (wrapError errInvalidAllowance ("value '" ++ toString value ++
            "' is greater than max value of uint256"))
        else
          let entry := if value = 0 then none else some (newAllowance env erc20 owner spender value)
          .ok { kv with
            allowances := Function.update kv.allowances (allowanceKey erc20 owner spender) entry }

def setAllowance (erc20 owner spender : Address) (value : Option ℤ) :
    Except GoError KVStore := kv.putAllowance env erc20 owner spender value false

def deleteAllowance (erc20 owner spender : Address) :
    Except GoError KVStore := kv.putAllowance env erc20 owner spender (some 0) false

def unsafeSetAllowance (erc20 owner spender : Address)
    (value : Option ℤ) : Except GoError KVStore := kv.putAllowance env erc20 owner spender value true

def setNativePrecompile (precompile : Address) : KVStore :=
  { kv with nativePrecompiles := Function.update kv.nativePrecompiles (addressHex env.vm precompile) true }

def setDynamicPrecompile (precompile : Address) : KVStore :=
  { kv with dynamicPrecompiles := Function.update kv.dynamicPrecompiles (addressHex env.vm precompile) true }

/-- `ToggleConversion` of the keeper. -/
def toggleConversion (token : String) : Except GoError (KVStore × TokenPair) :=
  match kv.getTokenPairID token with
  | none => .error (wrapError errTokenPairNotFound ("token '" ++ token ++ "' not registered by id"))
  | some id =>
    if id.length = 0 then
      .error (wrapError errTokenPairNotFound ("token '" ++ token ++ "' not registered by id"))
    else match kv.getTokenPair (some id) with
      | none => .error (wrapError errTokenPairNotFound ("token '" ++ token ++ "' not registered"))
      | some pair =>
        let pair := { pair with enabled := !pair.enabled }
        .ok (kv.setTokenPair env pair, pair)

end KVStore

/-! The name of a denomination unit. -/

/-- Digits at the start of a line are dropped. -/
def removeLeadingNumbers (lineStart : Bool) : List Char → List Char
  | [] => []
  | letter :: rest =>
    if lineStart && letter.isDigit then removeLeadingNumbers true rest
    else letter :: removeLeadingNumbers (letter == '\n') rest

def isAsciiLetter (letter : Char) : Bool :=
  ('a' ≤ letter && letter ≤ 'z') || ('A' ≤ letter && letter ≤ 'Z')

def isDenomChar (letter : Char) : Bool :=
  isAsciiLetter letter || letter.isDigit || letter == '/' || letter == ':' || letter == '-'

def removeSpecialChars : List Char → List Char
  | [] => []
  | first :: rest => (if isAsciiLetter first then [first] else []) ++ rest.filter isDenomChar

def removeInvalidPrefixes : List Char → List Char
  | 'i' :: 'b' :: 'c' :: '/' :: rest => removeInvalidPrefixes rest
  | 'e' :: 'r' :: 'c' :: '2' :: '0' :: '/' :: rest => removeInvalidPrefixes rest
  | 'e' :: 'r' :: 'c' :: '2' :: '0' :: ':' :: rest => removeInvalidPrefixes rest
  | name => name

def sanitizeERC20Name (name : String) : String :=
  let name := removeSpecialChars (removeLeadingNumbers true name.toList)
  -- only ASCII is left, one byte for each character
  let name := if 128 < name.length then name.take 128 else name
  String.ofList (removeInvalidPrefixes name)

/-! The address of an IBC voucher. -/

/-- `hex.InvalidByteError`. -/
def invalidByte (byte : UInt8) : GoError :=
  let digit := fun value => (hexDigit value).toUpper
  let code := String.ofList ['U', '+', '0', '0', digit (byte.toNat / 16), digit (byte.toNat % 16)]
  let printed := 32 ≤ byte && byte ≤ 126 || 161 ≤ byte && byte != 173
  (.other, "encoding/hex: invalid byte: " ++ code ++
    if printed then " '" ++ String.ofList [Char.ofNat byte.toNat] ++ "'" else "")

/-- `hex.DecodeString`. -/
def hexDecodeString : Bytes → Except GoError Bytes
  | [] => .ok []
  | [last] =>
    match hexValue last with
    | none => .error (invalidByte last)
    | some _ => .error (.other, "encoding/hex: odd length hex string")
  | high :: low :: rest =>
    match hexValue high, hexValue low with
    | none, _ => .error (invalidByte high)
    | some _, none => .error (invalidByte low)
    | some high, some low => (hexDecodeString rest).map ((high * 16 + low) :: ·)

/-- `ParseHexHash`: the hash of a denomination, or nothing at all. -/
def parseHexHash (text : Bytes) : Except GoError Bytes :=
  match hexDecodeString text with
  | .error err => .error err
  | .ok hash =>
    if 0 < hash.length ∧ hash.length ≠ 32 then
      .error (.other, "expected size to be 32 bytes, got " ++ toString hash.length ++ " bytes")
    else .ok hash

/-- `unicode.IsSpace`. -/
def isSpace (letter : Char) : Bool :=
  [9, 10, 11, 12, 13, 32, 0x85, 0xa0, 0x1680, 0x2028, 0x2029, 0x202f, 0x205f, 0x3000].contains letter.toNat ||
    (0x2000 ≤ letter.toNat && letter.toNat ≤ 0x200a)

def getIBCDenomAddress (denom : Denom) : Except GoError Address :=
  let bytes := denom.toUTF8.toList
  if !("ibc/".toUTF8.toList.isPrefixOf bytes) then
    .error (wrapError errInvalidDenomForTransfer ("coin " ++ denom ++ " does not have 'ibc/' prefix"))
  -- the four bytes of the prefix are four characters
  else if bytes.length < 5 ∨ (denom.toList.drop 4).all isSpace then
    .error (wrapError errInvalidDenomForTransfer ("coin " ++ denom ++ " is not a valid IBC voucher hash"))
  else match parseHexHash (bytes.drop 4) with
    | .error err => .error (wrapError errInvalidDenomForTransfer err.2)
    | .ok hash => .ok (bytesToAddress hash)

def newTokenPairSTRv2 (env : KeeperEnv σ) (denom : Denom) : Except GoError TokenPair :=
  (getIBCDenomAddress denom).map fun address => newTokenPair env address denom .module

/-- `Account.HasCodeHash`. -/
def hasCodeHash (env : KeeperEnv σ) (account : Account) : Bool := account.codeHash ≠ env.vm.emptyCodeHash

namespace State

variable (env : KeeperEnv σ) (s : State σ)

/-! Precompiles. -/

/-- The code hash of the ERC-20 bytecode, on an account that keeps its nonce and balance. -/
def registerERC20CodeHash (erc20Addr : Address) : Except GoError (State σ) :=
  let codeHash := env.vm.keccak env.erc20Bytecode
  let evm := if (env.getCode s.evm codeHash).length = 0 then env.setCode s.evm codeHash env.erc20Bytecode
    else s.evm
  let account : Account := match env.getAccount evm erc20Addr with
    | none => ⟨0, 0, codeHash⟩
    | some acc => ⟨acc.nonce, acc.balance, codeHash⟩
  (env.setAccount evm erc20Addr account).map fun evm => { s with evm := evm }

def enableNativePrecompile (addr : Address) : Except GoError (State σ) := do
  let s ← (if s.kv.isNativePrecompileAvailable env addr then pure s else s.registerERC20CodeHash env addr)
  pure { s with kv := s.kv.setNativePrecompile env addr }

def enableDynamicPrecompile (addr : Address) : Except GoError (State σ) := do
  let s ← (if s.kv.isDynamicPrecompileAvailable env addr then pure s else s.registerERC20CodeHash env addr)
  pure { s with kv := s.kv.setDynamicPrecompile env addr }

/-! Registration. -/

def createNewTokenPair (denom : Denom) : Except GoError (State σ × TokenPair) := do
  let pair ← newTokenPairSTRv2 env denom
  if (env.getAccount s.evm pair.getERC20Contract).any (hasCodeHash env) then
    .error (wrapError errTokenPairAlreadyExists ("token already exists for token " ++ pair.erc20Address))
  else
    let kv ← s.kv.setToken env pair
    pure ({ s with kv := kv }, pair)

def registerERC20Extension (denom : Denom) : Except GoError (State σ × TokenPair) := do
  let (s, pair) ← s.createNewTokenPair env denom
  let s ← s.enableDynamicPrecompile env pair.getERC20Contract
  pure (s, pair)

def createDenom (address : String) : Denom := "erc20:" ++ address

def createCoinMetadata (contract : Address) : Except GoError (State σ × Metadata) := do
  let strContract := addressHex env.vm contract
  let erc20Data ← env.queryERC20 s.evm contract
  if (s.denomMetadata (createDenom strContract)).isSome then
    .error (wrapError errInternalTokenPair "denom metadata already registered")
  else if s.kv.isDenomRegistered (createDenom strContract) then
    .error (wrapError errInternalTokenPair ("coin denomination already registered: " ++ erc20Data.name))
  else
    let base := createDenom strContract
    let nameSanitized := sanitizeERC20Name erc20Data.name
    let metadata : Metadata := {
      description := "Cosmos coin token representation of " ++ strContract
      base := base
      denomUnits := ⟨base, 0⟩ ::
        (if 0 < erc20Data.decimals then [⟨nameSanitized, erc20Data.decimals.toNat⟩] else [])
      name := createDenom strContract
      symbol := erc20Data.symbol
      display := if 0 < erc20Data.decimals then nameSanitized else base }
    (env.validateMetadata metadata).mapError
      (wrapError · ("ERC20 token data is invalid for contract " ++ strContract))
    pure ({ s with denomMetadata := Function.update s.denomMetadata metadata.base (some metadata) }, metadata)

/-- `registerERC20` of the keeper. -/
def registerContract (contract : Address) : Except GoError (State σ × TokenPair) :=
  if s.kv.isERC20Registered contract then
    .error (wrapError errTokenPairAlreadyExists ("token ERC20 contract already registered: " ++
      addressHex env.vm contract))
  else do
    let (s, metadata) ← (s.createCoinMetadata env contract).mapError
      (wrapError · "failed to create wrapped coin denom metadata for ERC20")
    let pair := newTokenPair env contract metadata.name .external
    let kv ← s.kv.setToken env pair
    pure ({ s with kv := kv }, pair)

/-! Messages. -/

def validateAuthority (authority : String) : Except GoError Unit :=
  match env.addrCodec authority with
  | .error err => .error (wrapError errInvalidAddress ("invalid authority address: " ++ err.2))
  | .ok _ =>
    if env.authority ≠ authority then
      .error (wrapError errInvalidSigner ("invalid authority; expected " ++ env.authority ++
        ", got " ++ authority))
    else .ok ()

def emit (event : SdkEvent) : State σ := { s with events := s.events ++ [event] }

/-- One address of a registration. -/
def registerAddress (addr : String) : Except GoError (State σ) :=
  if !isHexAddress addr then
    .error (wrapError errInvalidAddress ("invalid ERC20 contract address: " ++ addr))
  else do
    let (s, pair) ← s.registerContract env (hexToAddress addr)
    pure (s.emit ⟨"register_erc20", [("cosmos_coin", pair.denom), ("erc20_token", pair.erc20Address)]⟩)

def registerERC20 (signer : String) (erc20Addresses : List String) : Except GoError (State σ) := do
  let _ ← (if s.kv.permissionlessRegistration then pure () else validateAuthority env signer)
  if !s.kv.enableErc20 then
    .error (wrapError errERC20Disabled "registration is currently disabled by governance")
  else erc20Addresses.foldlM (registerAddress env) s

def toggleConversion (authority token : String) : Except GoError (State σ) :=
  if !s.kv.enableErc20 then
    .error (wrapError errERC20Disabled "toggle conversion is currently disabled by governance")
  else do
    validateAuthority env authority
    let (kv, pair) ← s.kv.toggleConversion env token
    pure ({ s with kv := kv }.emit ⟨"toggle_token_conversion",
      [("cosmos_coin", pair.denom), ("erc20_token", pair.erc20Address)]⟩)

structure Params where
  enableErc20 : Bool
  permissionlessRegistration : Bool

def setParams (params : Params) : State σ :=
  { s with kv := { s.kv with
    enableErc20 := params.enableErc20
    permissionlessRegistration := params.permissionlessRegistration } }

def updateParams (authority : String) (params : Params) : Except GoError (State σ) :=
  if env.authority ≠ authority then
    .error (wrapError errInvalidSigner ("invalid authority; expected " ++ env.authority ++
      ", got " ++ authority))
  else .ok (s.setParams params)

end State

end OgEvm.Erc20
