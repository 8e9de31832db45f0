import OgEvm.Erc20Keeper

/- Conversions between a coin and the ERC-20 behind it, as messages and as what IBC does on
the way. An error ends a message, and what it wrote is discarded. -/
namespace OgEvm

/-- `SendCoinsFromModuleToAccount` of x/bank. -/
def Bank.sendCoinsFromModuleToAccount (cfg : Config) (s : BankState) (senderModule : ModuleName)
    (recipientAddr : AccAddress) (amt : Coins) : Except Fault BankState :=
  match cfg.moduleAddress senderModule with
  | none => .error (missingModule senderModule)
  | some senderAddr =>
    if cfg.blockedAddr recipientAddr then
      .error (.error .unauthorized (toString recipientAddr ++ " is not allowed to receive funds"))
    else sendCoins s senderAddr recipientAddr amt

namespace Erc20

/-- How a message ends without effect. -/
inductive Halt where
  | error (err : GoError)
  | panic (cause : Erc20Panic)
  /-- `MustAccAddressFromBech32`. -/
  | badAddress (err : GoError)

def haltOfFault : Fault → Halt
  | .error code text => .error (code, text)
  | .panic cause => .panic (.keeper cause)

structure MsgConvertERC20 where
  contractAddress : String
  amount : ℤ
  receiver : String
  sender : String

structure MsgConvertCoin where
  coin : Coin
  receiver : String
  sender : String

def errUnauthorized : GoError := (.unauthorized, "unauthorized")
def errSendDisabled : GoError := (.other, "send transactions are disabled")

section

variable {σ : Type}

/-- The check of what `transfer` returned, with the error for a plain false. -/
def checkReturned (env : Erc20Env σ) (contract : Address) (refused : String) (res : Response) :
    Except Erc20Panic (Option GoError) :=
  if res.ret.length = 0 then validateTransferEventExists env res.logs contract
  else match unpackBool res.ret with
    | .error err => .ok (some err)
    | .ok true => .ok none
    | .ok false => .ok (some (wrapError errLogic refused))

/-- An error that is returned, or a panic, ends the message. -/
def checked : Except Erc20Panic (Option GoError) → Except Halt Unit
  | .error cause => .error (.panic cause)
  | .ok (some err) => .error (.error err)
  | .ok none => .ok ()

namespace State

variable (env : KeeperEnv σ) (s : State σ)

/-- The stores as the callbacks of a failed transfer see them. -/
def store : Store σ where
  tokenPairs := s.kv.tokenPairs
  erc20Map := s.kv.erc20Map
  denomMap := s.kv.denomMap
  enableErc20 := s.kv.enableErc20
  moduleAccounts := s.moduleAccounts
  bank := s.bank
  evm := s.evm
  events := s.events

def withStore (t : Store σ) : State σ :=
  { s with
    kv := { s.kv with
      tokenPairs := t.tokenPairs
      erc20Map := t.erc20Map
      denomMap := t.denomMap
      enableErc20 := t.enableErc20 }
    moduleAccounts := t.moduleAccounts
    bank := t.bank
    evm := t.evm
    events := t.events }

def mintingEnabled (receiver : AccAddress) (token : String) : Except GoError TokenPair :=
  if !s.kv.enableErc20 then
    .error (wrapError errERC20Disabled "module is currently disabled by governance")
  else match s.kv.getTokenPairID token with
    | none => .error (wrapError errTokenPairNotFound ("token '" ++ token ++ "' not registered by id"))
    | some id =>
      if id.length = 0 then
        .error (wrapError errTokenPairNotFound ("token '" ++ token ++ "' not registered by id"))
      else match s.kv.getTokenPair (some id) with
        | none => .error (wrapError errTokenPairNotFound ("token '" ++ token ++ "' not registered"))
        | some pair =>
          if !pair.enabled then
            .error (wrapError errERC20TokenPairDisabled ("minting token '" ++ token ++
              "' is not enabled by governance"))
          else if env.vm.bank.blockedAddr receiver then
            .error (wrapError errUnauthorized (toString receiver ++ " is not allowed to receive transactions"))
          else if !s.sendEnabled pair.denom then
            .error (wrapError errSendDisabled ("minting '" ++ token ++
              "' coins to an external address is currently disabled"))
          else .ok pair

/-- `BalanceOf`, with the error for a balance that cannot be read. -/
def retrieveBalance (contract account : Address) : Except Halt ℤ :=
  match balanceOf env.toErc20Env s.store contract account with
  | none => .error (.error (wrapError errEVMCall "failed to retrieve balance"))
  | some balance => .ok balance

/-- The tokens go to the module account, which must have exactly that many more of them. -/
def escrowTokens (contract sender : Address) (amount : ℤ) : Except Halt (State σ) := do
  let escrow := moduleAddress env.toErc20Env
  let balanceToken ← s.retrieveBalance env contract escrow
  let (answer, evm) := env.contracts.transfer s.evm contract sender escrow amount
  let s := { s with evm := evm }
  let res ← answer.mapError Halt.error
  checked (checkReturned env.toErc20Env contract "failed to execute transfer" res)
  let balanceTokenAfter ← s.retrieveBalance env contract escrow
  let expToken := balanceToken + amount
  if balanceTokenAfter ≠ expToken then
    .error (.error (wrapError errBalanceInvariance ("invalid token balance - expected: " ++
      toString expToken ++ ", actual: " ++ toString balanceTokenAfter)))
  else pure s

/-- The coins are minted and sent to the receiver, who must have exactly that many more. -/
def mintConverted (denom : Denom) (amount balanceCoin : ℤ)
    (receiver : AccAddress) : Except Halt (State σ) := do
  let coins : Coins := [⟨denom, amount⟩]
  let bank ← (Bank.mintCoins env.vm.bank s.bank moduleName coins).mapError haltOfFault
  let bank ← (Bank.sendCoinsFromModuleToAccount env.vm.bank bank moduleName receiver coins).mapError haltOfFault
  let balanceCoinAfter := bank.balances denom receiver
  let expCoin := balanceCoin + amount
  if balanceCoinAfter ≠ expCoin then
    .error (.error (wrapError errBalanceInvariance ("invalid coin balance - expected: " ++
      toString expCoin ++ denom ++ ", actual: " ++ toString balanceCoinAfter ++ denom)))
  else pure { s with bank := bank }

def convertERC20IntoCoinsForNativeToken (pair : TokenPair)
    (msg : MsgConvertERC20) (receiver : AccAddress) (sender : Address) : Except Halt (State σ) := do
  let balanceCoin := s.bank.balances pair.denom receiver
  let s ← s.escrowTokens env pair.getERC20Contract sender msg.amount
  let s ← s.mintConverted env pair.denom msg.amount balanceCoin receiver
  pure (s.emit ⟨"convert_erc20", [("sender", msg.sender), ("receiver", msg.receiver),
    ("amount", toString msg.amount), ("cosmos_coin", pair.denom), ("erc20_token", msg.contractAddress)]⟩)

/-- Nothing stands at the contract's address any more. -/
def selfDestructed (pair : TokenPair) : Bool :=
  !(env.getAccount s.evm pair.getERC20Contract).any (hasCodeHash env)

/-- A pair whose contract is gone is deleted, and the conversion ends there without error. -/
def convertERC20 (msg : MsgConvertERC20) : Except Halt (State σ) := do
  let receiver ← (env.accAddressFromBech32 msg.receiver).mapError Halt.badAddress
  let sender := hexToAddress msg.sender
  let pair ← (s.mintingEnabled env receiver msg.contractAddress).mapError Halt.error
  if pair.isNativeERC20 then
    if s.selfDestructed env pair then pure { s with kv := s.kv.deleteTokenPair env pair }
    else s.convertERC20IntoCoinsForNativeToken env pair msg receiver sender
  else if pair.isNativeCoin then .error (.error errNativeConversionDisabled)
  else .error (.error errUndefinedOwner)

/-- `ConvertCoinNativeERC20` where its error is passed on. -/
def convertCoinNative (pair : TokenPair) (amount : Option ℤ)
    (receiver : Address) (sender : AccAddress) : Except Halt (State σ) :=
  match convertCoinNativeERC20 env.toErc20Env pair amount receiver sender s.store with
  | .error cause => .error (.panic cause)
  | .ok (_, some err) => .error (.error err)
  | .ok (t, none) => .ok (s.withStore t)

def convertCoin (msg : MsgConvertCoin) : Except Halt (State σ) := do
  let sender ← (env.accAddressFromBech32 msg.sender).mapError Halt.badAddress
  let receiver := hexToAddress msg.receiver
  let pair ← (s.mintingEnabled env receiver.toList msg.coin.denom).mapError Halt.error
  if pair.isNativeERC20 then
    if s.selfDestructed env pair then pure { s with kv := s.kv.deleteTokenPair env pair }
    else s.convertCoinNative env pair (some msg.coin.amount) receiver sender
  else if pair.isNativeCoin then .error (.error errNativeConversionDisabled)
  else .error (.error errUndefinedOwner)

end State

end

end Erc20

end OgEvm
