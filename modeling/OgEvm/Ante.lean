import OgEvm.FeeMarket
import OgEvm.StateTransition
import OgEvm.VmParams

/- The ante handler of Ethereum transactions. It writes to the context it is given as it
goes on: an account that was missing, the fee, the sequence. A check that fails later
takes none of that back. -/
namespace OgEvm.Ante

open Vm Decimals

/-- The accepted types. -/
inductive TxType where
  | legacy
  | accessList
  | dynamicFee
  | setCode
deriving DecidableEq, Repr

/-- An Ethereum transaction. The types with a single price have it as both caps. -/
structure Transaction where
  txType : TxType
  nonce : UInt64
  gas : UInt64
  gasTipCap : ℤ
  gasFeeCap : ℤ
  recipient : Option Address
  value : ℤ
  data : Bytes
  accessList : List StateDb.AccessTuple
  setCodeAuthorizations : List SetCodeAuthorization
  hash : Hash
  single_price : txType = .legacy ∨ txType = .accessList → gasTipCap = gasFeeCap

namespace Transaction

/-- `GasPrice` of a transaction with two caps is its fee cap. -/
def gasPrice (tx : Transaction) : ℤ := tx.gasFeeCap

def cost (tx : Transaction) : ℤ := tx.gas.toNat * tx.gasPrice + tx.value

/-- The tip over a base fee; it may be negative, which the callers do not look at. -/
def effectiveGasTip (tx : Transaction) : Option ℤ → ℤ
  | none => tx.gasTipCap
  | some baseFee => min tx.gasTipCap (tx.gasFeeCap - baseFee)

/-- `core.TransactionToMessage`, and `AsMessage` which is made after it. -/
def toMessage (tx : Transaction) (sender : Address) (baseFee : Option ℤ) : Message where
  sender := sender
  recipient := tx.recipient
  nonce := tx.nonce
  value := tx.value
  gasLimit := tx.gas
  gasPrice := match baseFee with
    | none => tx.gasPrice
    | some baseFee => min (tx.gasTipCap + baseFee) tx.gasFeeCap
  gasFeeCap := tx.gasFeeCap
  gasTipCap := tx.gasTipCap
  data := tx.data
  accessList := tx.accessList
  setCodeAuthorizations := tx.setCodeAuthorizations

end Transaction

structure MsgEthereumTx where
  /-- `From`. -/
  sender : AccAddress
  raw : Transaction

inductive SdkMsg where
  | ethereum (msg : MsgEthereumTx)
  | other (typeName : String)

/-- The registered error at the root of what is returned. -/
inductive AnteCode where
  | noSignatures
  | invalidRequest
  | unknownRequest
  | insufficientFee
  | insufficientFunds
  | invalidCoins
  | createDisabled
  | callDisabled
  | invalidSigner
  | invalidType
  | unknownAddress
  | nonceGap
  | nonceLow
  | invalidSequence
  | outOfGas
  | other
deriving DecidableEq, Repr

/-- The text is what the handler puts before the text of the code. -/
structure AnteError where
  code : AnteCode
  text : String
deriving DecidableEq, Repr

inductive AntePanic where
  | nilDecimal
  /-- The price is added to a base fee that is nil. -/
  | nilBaseFee
  /-- `NewIntFromBigInt` of more than 256 bits. -/
  | intOverflow
  | displayDenom (text : String)
  | bank (cause : PanicCause)
deriving DecidableEq, Repr

inductive AnteFault where
  | error (err : AnteError)
  | panic (cause : AntePanic)
deriving DecidableEq, Repr

def fail {α : Type} (code : AnteCode) (text : String) : Except AnteFault α := .error (.error ⟨code, text⟩)

def check (good : Prop) [Decidable good] (code : AnteCode) (text : String) : Except AnteFault Unit :=
  if good then .ok () else fail code text

/-- `tx.Fee` of the Cosmos envelope. -/
structure Fee where
  amount : Coins
  gasLimit : UInt64
  payer : String
  granter : String

/-- The Cosmos envelope of an Ethereum transaction, lists that must be empty by their length. -/
structure SdkTx where
  validateBasic : Except AnteError Unit
  memo : String
  timeoutHeight : UInt64
  nonCriticalExtensionOptions : ℕ
  extensionOptions : ℕ
  signerInfos : ℕ
  fee : Option Fee
  hasTip : Bool
  signatures : ℕ
  msgs : List SdkMsg

/-- x/bank's virtual transfers, if the keeper was told to use them. -/
structure VirtualBank where
  sendCoinsFromAccountToModule : BankState → AccAddress → ModuleName → Coins → Except Fault BankState
  sendCoinsFromModuleToAccount : BankState → ModuleName → AccAddress → Coins → Except Fault BankState
  /-- The units of a denomination's metadata, with their exponents. -/
  denomUnits : Denom → Option (List (Denom × ℕ))
  displayDenom : Denom

/-- The decorator with the keepers and the block it runs in. Signature recovery and the
checks of go-ethereum's transaction pool are given. -/
structure AnteEnv where
  env : Env
  cfg : EvmConfig
  evmParams : Vm.Params
  feemarketParams : FeeMarket.Params
  /-- The node's minimum gas price in the EVM denomination. -/
  minGasPrice : Decimal
  maxGasWanted : UInt64
  blockGasLimit : UInt64
  isCheckTx : Bool
  isReCheckTx : Bool
  virtualFeeCollection : Option VirtualBank
  validateTransaction : Transaction → Option ℤ → Except AnteError Unit
  recoverSender : Transaction → Except String Address

/-! Checks of the envelope. -/

/-- Missing signatures are fine here. -/
def validateBasic (tx : SdkTx) : Except AnteFault Unit :=
  match tx.validateBasic with
  | .ok () => .ok ()
  | .error err => check (err.code = .noSignatures) err.code ("tx basic validation failed: " ++ err.text)

def validateTx (tx : SdkTx) : Except AnteFault Fee := do
  validateBasic tx
  check (tx.memo = "" ∧ tx.timeoutHeight = 0 ∧ tx.nonCriticalExtensionOptions = 0) .invalidRequest
    "for eth tx body Memo TimeoutHeight NonCriticalExtensionOptions should be empty"
  check (tx.extensionOptions = 1) .invalidRequest "for eth tx length of ExtensionOptions should be 1"
  check (tx.signerInfos = 0) .invalidRequest "for eth tx AuthInfo SignerInfos should be empty"
  match tx.fee with
  | none => fail .invalidRequest "authInfo.Fee should not be nil"
  | some fee =>
    check (fee.payer = "" ∧ fee.granter = "") .invalidRequest
      "for eth tx AuthInfo Fee payer and granter should be empty"
    check (tx.hasTip = false) .invalidRequest "authInfo.Tip must be nil"
    check (tx.signatures = 0) .invalidRequest "for eth tx Signatures should be empty"
    pure fee

def unpackEthMsg : SdkMsg → Except AnteFault MsgEthereumTx
  | .ethereum msg => .ok msg
  | .other typeName => fail .unknownRequest
      ("invalid message type " ++ typeName ++ ", expected *types.MsgEthereumTx")

def getFee (msg : MsgEthereumTx) : ℤ := msg.raw.gas.toNat * msg.raw.gasPrice

def getEffectiveFee (msg : MsgEthereumTx) (baseFee : ℤ) : ℤ :=
  msg.raw.gas.toNat * (msg.raw.effectiveGasTip (some baseFee) + baseFee)

def checkMempoolFee (fee mempoolMinGasPrice gasLimit : Decimal) (isLondon : Bool) : Except AnteFault Unit :=
  if isLondon then .ok ()
  else check (¬ fee.raw < (mempoolMinGasPrice.mul gasLimit).raw) .insufficientFee
    ("got: " ++ fee.toText ++ ", minimum required: " ++ (mempoolMinGasPrice.mul gasLimit).toText)

def checkGlobalFee (fee : Decimal) (globalMinGasPrice : Option Decimal) (gasLimit : Decimal) :
    Except AnteFault Unit :=
  match globalMinGasPrice with
  | none => .error (.panic .nilDecimal)
  | some price =>
    if price.raw = 0 then .ok ()
    else check (¬ fee.raw < (price.mul gasLimit).raw) .insufficientFee
      ("provided fee < minimum global fee (" ++ toString fee.truncateInt ++ " < " ++
        toString (price.mul gasLimit).truncateInt ++ "). Please increase the priority tip (for " ++
        "EIP-1559 txs) or the gas prices (for access list or legacy txs)")

def checkDisabledCreateCall (tx : Transaction) (permissions : AccessControl) : Except AnteFault Unit := do
  check (¬ (permissions.create.accessType = .restricted ∧ tx.recipient = none)) .createDisabled
    "failed to create new contract"
  check (¬ (permissions.call.accessType = .restricted ∧ tx.recipient ≠ none)) .callDisabled
    "failed to perform a call"

variable (e : AnteEnv) (ctx : Context)

def signatureVerification (msg : MsgEthereumTx) : Except AnteFault Address :=
  match e.recoverSender msg.raw with
  | .error reason => fail .invalidSigner ("signature verification failed: " ++ reason)
  | .ok sender =>
    if msg.sender = sender.toList then .ok sender
    else fail .invalidSigner "signature verification failed: sender verification failed"

/-- The fee of the envelope is not looked at again in a recheck. -/
def feeInfoOf (tx : SdkTx) : Except AnteFault (Option Fee) :=
  if e.isReCheckTx then .ok none else (validateTx tx).map some

def onlyMessage (tx : SdkTx) : Except AnteFault MsgEthereumTx :=
  match tx.msgs with
  | [msg] => unpackEthMsg msg
  | msgs => fail .invalidRequest ("expected 1 message, got " ++ toString msgs.length)

def checkInclusionFee (msg : MsgEthereumTx) (simulate : Bool) : Except AnteFault Unit :=
  if e.isCheckTx && !simulate then
    checkMempoolFee (Decimal.ofInt (getFee msg)) (e.minGasPrice.mulInt e.env.bank.conversionFactor)
      (Decimal.ofInt msg.raw.gas.toNat) e.cfg.isLondon
  else .ok ()

/-- What the checks that read no account have found. -/
structure Verified where
  feeInfo : Option Fee
  baseFee : Option ℤ
  msg : MsgEthereumTx
  sender : Address

def baseFeeOf : Except AnteFault (Option ℤ) :=
  (FeeMarket.anteBaseFee e.env.bank e.cfg.isLondon e.feemarketParams).mapError fun _ => .panic .nilDecimal

/-- The fee the global minimum is compared with. -/
def offeredFee (msg : MsgEthereumTx) (baseFee : Option ℤ) : ℤ :=
  match msg.raw.txType, baseFee with
  | .dynamicFee, some baseFee => getEffectiveFee msg baseFee
  | .setCode, some baseFee => getEffectiveFee msg baseFee
  | _, _ => getFee msg

/-- AnteHandle up to the signature: nothing is read from or written to the stores. -/
def verifyTx (tx : SdkTx) (simulate : Bool) : Except AnteFault Verified := do
  let feeInfo ← feeInfoOf e tx
  let baseFee ← baseFeeOf e
  let msg ← onlyMessage tx
  (e.validateTransaction msg.raw baseFee).mapError AnteFault.error
  checkInclusionFee e msg simulate
  checkGlobalFee (Decimal.ofInt (offeredFee msg baseFee)) e.feemarketParams.minGasPrice
    (Decimal.ofInt msg.raw.gas.toNat)
  checkDisabledCreateCall msg.raw e.evmParams.accessControl
  let sender ← signatureVerification e msg
  pure ⟨feeInfo, baseFee, msg, sender⟩

/-! Checks of the account. -/

def checkSenderBalance (balance : ℤ) (tx : Transaction) : Except AnteFault Unit := do
  check (0 ≤ tx.cost) .invalidCoins ("failed to check sender balance: tx cost (" ++ toString tx.cost ++
    ") is negative and invalid")
  check (0 ≤ balance ∧ tx.cost ≤ balance) .insufficientFunds
    ("failed to check sender balance: sender balance < tx cost (" ++ toString balance ++ " < " ++
      toString tx.cost ++ ")")

/-- Code other than a delegation is for contracts. -/
def checkSenderCode (env : Env) (store : VmStore) (sender : Address) (account : Account) :
    Except AnteFault Unit :=
  if account.codeHash = env.emptyCodeHash then .ok ()
  else
    let code := (Keeper.getCode store account.codeHash).getD []
    check (code = [] ∨ Keeper.isDelegation code) .invalidType
      ("the sender is not EOA: address " ++ addressHex env sender)

/-- `NewAccountWithAddress` and `SetAccount`. -/
def newAccount (addr : Address) : Context :=
  ctx.withStore { ctx.store with
    accounts := Function.update ctx.store.accounts addr.toList (some ⟨0⟩) }

variable (v : Verified)

/-- An account that is missing is created before its balance is found too low. -/
def verifyAccountBalance : Context × Except AnteFault Unit :=
  match Keeper.getAccount e.env ctx.store v.sender with
  | none => (newAccount ctx v.sender, checkSenderBalance 0 v.msg.raw)
  | some account => (ctx, do
      checkSenderCode e.env ctx.store v.sender account
      checkSenderBalance account.balance.toNat v.msg.raw)

def checkFeeCap : Except AnteFault Unit :=
  match e.cfg.isLondon, v.baseFee with
  | true, some baseFee =>
    check (¬ v.msg.raw.gasFeeCap < baseFee) .insufficientFee
      ("max fee per gas less than block base fee (" ++ toString v.msg.raw.gasFeeCap ++ " < " ++
        toString baseFee ++ ")")
  | _, _ => .ok ()

def canTransfer (store : VmStore) (v : Verified) : Except AnteFault Unit := do
  checkFeeCap e v
  let value ← (BalanceHandler.uint256FromBigInt v.msg.raw.value).mapError fun reason =>
    AnteFault.error ⟨.other, reason⟩
  let balance := ((Keeper.getAccount e.env store v.sender).map Account.balance).getD 0
  check (¬ (0 < v.msg.raw.value ∧ balance.toNat < value.toNat)) .insufficientFunds
    ("failed to transfer " ++ toString v.msg.raw.value ++ " from address " ++ addressHex e.env v.sender ++
      " using the EVM block context transfer function")

/-! The fee. -/

/-- The price times the gas limit, over a base fee. -/
def feeAmount (tx : Transaction) (baseFee : ℤ) : ℤ :=
  tx.gas.toNat * (tx.effectiveGasTip (some baseFee) + baseFee)

/-- The fee in the EVM denomination; nothing if it is zero. -/
def feeCoins (cfg : Config) (amount : ℤ) : Except AnteFault Coins :=
  if amount = 0 then .ok []
  else if 2 ^ 256 ≤ amount.natAbs then .error (.panic .intOverflow)
  else .ok [⟨cfg.denom, amount⟩]

def verifyFee (tx : Transaction) (baseFee : Option ℤ) : Except AnteFault Coins := do
  let intrinsic ← (e.cfg.intrinsicGas tx.data tx.accessList tx.setCodeAuthorizations
    tx.recipient.isNone).mapError fun err => AnteFault.error ⟨.other, "failed to retrieve intrinsic gas: " ++ err.2⟩
  check (¬ (e.isCheckTx = true ∧ tx.gas < intrinsic)) .outOfGas
    ("gas limit too low: " ++ toString tx.gas.toNat ++ " (gas limit) < " ++ toString intrinsic.toNat ++
      " (intrinsic gas)")
  match baseFee with
  | none => .error (.panic .nilBaseFee)
  | some baseFee => do
    check (¬ tx.gasFeeCap < baseFee) .insufficientFee
      ("the tx gasfeecap is lower than the tx baseFee: " ++ toString tx.gasFeeCap ++ " (gasfeecap), " ++
        toString baseFee ++ " (basefee) ")
    feeCoins e.env.bank (feeAmount tx baseFee)

def feeCollectorName : ModuleName := "fee_collector"

/-- The coins of the EVM denomination as coins of the extended one. -/
def convertCoinsDenomToExtendedDenom (cfg : Config) (coins : Coins) : Coins :=
  (coins.map fun coin =>
    if coin.denom = cfg.denom then { coin with denom := cfg.extendedDenom } else coin).insertionSort
    fun first second => first.denom ≤ second.denom

def isZero (coins : Coins) : Bool := coins.all fun coin => coin.amount = 0

/-- A bank call of the handler: its errors are insufficient funds, its panics go on. -/
def onBank (wrapped : String) (run : Except Fault BankState) : Except AnteFault BankState :=
  run.mapError fun fault => match fault with
    | .error _ text => .error ⟨.insufficientFunds, wrapped ++ text⟩
    | .panic cause => .panic (.bank cause)

/-- `DeductFees` of this repository, for virtual transfers. -/
def checkDisplayDenom (bank : VirtualBank) (fees : Coins) : Except AnteFault Unit :=
  fees.forM fun coin => ((bank.denomUnits coin.denom).getD []).forM fun unit =>
    if unit.1 = bank.displayDenom ∧ unit.2 ≠ 18 then
      .error (.panic (.displayDenom ("Cannot use virtual fee collection for denom " ++ unit.1 ++
        ", which has a display denom that has " ++ toString unit.2 ++ " exponent")))
    else .ok ()

/-- The transfer of the fee, to the fee collector or to its virtual account. -/
def collectFees (fees : Coins) (sender : Address) : Except AnteFault Context :=
  let wrapped := "failed to deduct full gas cost " ++ Coins.toText fees ++ " from the user " ++
    addressHex e.env sender ++ " balance: "
  match e.virtualFeeCollection with
  | some bank => do
    checkDisplayDenom bank fees
    (onBank wrapped (bank.sendCoinsFromAccountToModule ctx.bank sender.toList feeCollectorName
      fees)).map ctx.withBank
  | none =>
    let coins := convertCoinsDenomToExtendedDenom e.env.bank fees
    if isZero coins then .ok ctx
    else (onBank wrapped (Precisebank.sendCoinsFromAccountToModule e.env.bank ctx.bank sender.toList
      feeCollectorName coins)).map ctx.withBank

/-- `DeductTxCostsFromUserBalance`. -/
def deductTxCosts (fees : Coins) (sender : Address) : Except AnteFault Context :=
  match ctx.store.accounts sender.toList with
  | none => fail .unknownAddress ("account not found for sender " ++ addressHex e.env sender)
  | some _ => do
    check (Coins.IsValid fees) .insufficientFee ("invalid fee amount: " ++ Coins.toText fees)
    collectFees e ctx fees sender

def emit (type : String) : Context := { ctx with events := ctx.events ++ [.other type] }

def consumeFeesAndEmitEvent (fees : Coins) (sender : Address) : Except AnteFault Context :=
  (if isZero fees then .ok ctx else deductTxCosts e ctx fees sender).map (emit · "tx")

/-! The sequence. -/

def incrementNonce (sender : Address) (account : AuthAccount) (txNonce : UInt64) :
    Except AnteFault Context := do
  check (¬ account.sequence < txNonce) .nonceGap
    ("tx nonce: " ++ toString txNonce.toNat ++ ", account accountNonce: " ++ toString account.sequence.toNat)
  check (¬ txNonce < account.sequence) .nonceLow
    ("invalid nonce; got " ++ toString txNonce.toNat ++ ", expected " ++ toString account.sequence.toNat)
  check (account.sequence ≠ 18446744073709551615) .invalidSequence
    "nonce overflow: increment beyond 2^64-1 violates EIP-2681"
  pure (ctx.withStore { ctx.store with
    accounts := Function.update ctx.store.accounts sender.toList (some ⟨account.sequence + 1⟩) })

/-- `GetAccount` of x/auth, then the increment and the event of the hash. -/
def countNonce : Except AnteFault Context :=
  match ctx.store.accounts v.sender.toList with
  | none => fail .unknownAddress ("account " ++ addressHex e.env v.sender ++ " does not exist")
  | some account => (incrementNonce ctx v.sender account v.msg.raw.nonce).map (emit · "ethereum_tx")

def checkTxFee (cfg : Config) (feeInfo : Option Fee) (txFee : ℤ) (txGasLimit : UInt64) :
    Except AnteFault Unit :=
  match feeInfo with
  | none => .ok ()
  | some fee => do
    check (Coins.amountOf fee.amount cfg.extendedDenom = txFee) .invalidRequest
      ("invalid AuthInfo Fee Amount (" ++ Coins.toText fee.amount ++ " != " ++ toString txFee ++ ")")
    check (fee.gasLimit = txGasLimit) .invalidRequest
      ("invalid AuthInfo Fee GasLimit (" ++ toString fee.gasLimit.toNat ++ " != " ++
        toString txGasLimit.toNat ++ ")")

/-- `UpdateCumulativeGasWanted` of the only message. -/
def gasWanted (gas : UInt64) : UInt64 :=
  if e.isCheckTx && e.maxGasWanted ≠ 0 && e.maxGasWanted < gas then e.maxGasWanted else gas

def checkBlockGasLimit (wanted : UInt64) : Except AnteFault Unit :=
  check (¬ e.blockGasLimit < wanted) .outOfGas ("tx gas (" ++ toString wanted.toNat ++
    ") exceeds block gas limit (" ++ toString e.blockGasLimit.toNat ++ ")")

/-- The checks before the fee is taken, and the fee. -/
def payFee : Except AnteFault Context := do
  canTransfer e ctx.store v
  let fees ← verifyFee e v.msg.raw v.baseFee
  consumeFeesAndEmitEvent e ctx fees v.sender

def checkLimits : Except AnteFault Unit := do
  checkTxFee e.env.bank v.feeInfo (getFee v.msg) v.msg.raw.gas
  checkBlockGasLimit e (gasWanted e v.msg.raw.gas)

/-- The fee and the sequence, once the account can pay. -/
def payAndCount : Context × Except AnteFault Unit :=
  match payFee e ctx v with
  | .error fault => (ctx, .error fault)
  | .ok paid =>
    match countNonce e paid v with
    | .error fault => (paid, .error fault)
    | .ok counted => (counted, checkLimits e v)

/-- AnteHandle: the context as it leaves it, and what it returns. -/
def anteHandle (tx : SdkTx) (simulate : Bool) : Context × Except AnteFault Unit :=
  match verifyTx e tx simulate with
  | .error fault => (ctx, .error fault)
  | .ok v =>
    match verifyAccountBalance e ctx v with
    | (ctx, .error fault) => (ctx, .error fault)
    | (ctx, .ok ()) => payAndCount e ctx v

end OgEvm.Ante
