import OgEvm.NativeSends
import OgEvm.TokenPairs

/- The precompile that answers as the ERC-20 contract of a native coin: transfers are bank
messages, and allowances are entries of the x/erc20 store. -/
namespace OgEvm

/-! The bank keepers a message may be sent to. -/

inductive BankKeeper where
  | base
  | precisebank
  deriving DecidableEq, Repr

namespace BankKeeper

def getBalance (keeper : BankKeeper) (cfg : Config) (s : BankState) (addr : AccAddress) (denom : Denom) : ℤ :=
  match keeper with
  | base => s.balances denom addr
  | precisebank => Precisebank.getBalance cfg s addr denom

def spendableCoin (keeper : BankKeeper) (cfg : Config) (s : BankState) (addr : AccAddress) (denom : Denom) : ℤ :=
  match keeper with
  | base => Bank.spendableCoin s addr denom
  | precisebank => Precisebank.spendableCoin cfg s addr denom

def sendCoins (keeper : BankKeeper) (cfg : Config) (s : BankState) (fromAddr toAddr : AccAddress)
    (amt : Coins) : Except Fault BankState :=
  match keeper with
  | base => Bank.sendCoins s fromAddr toAddr amt
  | precisebank => Precisebank.sendCoins cfg s fromAddr toAddr amt

end BankKeeper

namespace Erc20

/-- `banktypes.MsgSend`, with the addresses its strings stand for. -/
structure MsgSend where
  fromAddress : AccAddress
  toAddress : AccAddress
  amount : Coins

/-- The events of the contract. -/
inductive TokenEvent where
  | transfer (sender receiver : Address) (value : ℤ)
  | approval (owner spender : Address) (value : ℤ)
  deriving DecidableEq

structure Precompile where
  tokenPair : TokenPair

/-- The transactions of the contract, with the arguments the ABI decodes. -/
inductive Method where
  | transfer (receiver : Address) (amount : BitVec 256)
  | transferFrom (sender receiver : Address) (amount : BitVec 256)
  | approve (spender : Address) (amount : BitVec 256)
  deriving DecidableEq

structure Call where
  caller : Address
  method : Method
  deriving DecidableEq

def errNegativeAmount : Fault := .error .other "cannot approve negative values"
def errDecreasedAllowanceBelowZero : Fault := .error .other "ERC20: decreased allowance below zero"
def errInsufficientAllowance : Fault := .error .other "ERC20: insufficient allowance"
def errTransferAmountExceedsBalance : Fault := .error .other "ERC20: transfer amount exceeds balance"
def errExecutionReverted : Fault := .error .other "execution reverted"

def Precompile.address (p : Precompile) : Address := p.tokenPair.getERC20Contract

/-- `strings.Contains`. -/
def containsText (text part : String) : Bool := part.toList <:+: text.toList

/-- `ConvertErrToERC20Error`. The errors of a metadata query are not raised by a transaction. -/
def convertErrToERC20Error : Fault → Fault
  | .panic cause => .panic cause
  | .error code text =>
    if containsText text "spendable balance" then errTransferAmountExceedsBalance
    else if containsText text "requested amount is more than spend limit" then errInsufficientAllowance
    else if containsText text "subtracted value cannot be greater than existing allowance" then
      errDecreasedAllowanceBelowZero
    else if containsText text "integer overflow when increasing allowance" then errExecutionReverted
    else .error code text

/-- `Coins.Validate` of one coin. -/
def Coin.validate (coin : Coin) : Except GoError Unit :=
  match validateDenom coin.denom with
  | .error err => .error err
  | .ok () =>
    if coin.amount ≤ 0 then
      .error (.other, "coin " ++ toString coin.amount ++ coin.denom ++ " amount is not positive")
    else .ok ()

def faultOfError (err : GoError) : Fault := .error err.1 err.2

section

variable {σ : Type}

/-- `Send` of the bank's message server, the same for both keepers. -/
def send (env : KeeperEnv σ) (keeper : BankKeeper) (s : State σ) (msg : MsgSend) : Except Fault BankState :=
  if ¬ Coins.IsValid msg.amount then .error (.error .invalidCoins (Coins.toText msg.amount))
  else if ¬ Coins.IsAllPositive msg.amount then .error (.error .invalidCoins (Coins.toText msg.amount))
  else match msg.amount.find? fun coin => !s.sendEnabled coin.denom with
    | some coin => .error (.error .other (coin.denom ++ " transfers are currently disabled: " ++ errSendDisabled.2))
    | none =>
      if env.vm.bank.blockedAddr msg.toAddress then
        .error (.error .unauthorized (toString msg.toAddress ++ " is not allowed to receive funds"))
      else keeper.sendCoins env.vm.bank s.bank msg.fromAddress msg.toAddress msg.amount

/-- `MsgServer.Send` of the precompile. -/
def msgServerSend (env : KeeperEnv σ) (keeper : BankKeeper) (s : State σ) (msg : MsgSend) :
    Except Fault BankState := (send env keeper s msg).mapError convertErrToERC20Error

namespace Precompile

variable (env : KeeperEnv σ) (keeper : BankKeeper) (p : Precompile)

/-- What `transferFrom` does before the transfer: the amount is taken from the allowance of the
caller, and an allowance that is used up is deleted. -/
def spendAllowance (caller sender : Address) (amount : ℤ) (s : State σ) : Except Fault (State σ × ℤ) := do
  let prevAllowance := s.kv.getAllowance p.address sender caller
  let newAllowance := prevAllowance - amount
  if newAllowance < 0 then .error errInsufficientAllowance
  else
    let written := if newAllowance = 0 then s.kv.deleteAllowance env p.address sender caller
      else s.kv.setAllowance env p.address sender caller (some newAllowance)
    let kv ← written.mapError fun err => convertErrToERC20Error (faultOfError err)
    pure ({ s with kv := kv }, newAllowance)

def transfer (isTransferFrom : Bool)
    (caller sender receiver : Address) (amount : ℤ) (s : State σ) : Except Fault (State σ × List TokenEvent) := do
  let coin : Coin := ⟨p.tokenPair.denom, amount⟩
  let _ ← (Coin.validate coin).mapError faultOfError
  let (s, newAllowance) ← (if isTransferFrom then p.spendAllowance env caller sender amount s else pure (s, 0))
  let bank ← (msgServerSend env keeper s ⟨sender.toList, receiver.toList, [coin]⟩).mapError
    convertErrToERC20Error
  let approvals := if isTransferFrom then [TokenEvent.approval sender caller newAllowance] else []
  pure ({ s with bank := bank }, .transfer sender receiver amount :: approvals)

def setAllowance (owner spender : Address) (allowance : ℤ) (s : State σ) : Except Fault KVStore :=
  if 2 ^ 256 ≤ allowance.natAbs then
    .error (.error .other ("amount " ++ toString allowance ++ " causes integer overflow"))
  else (s.kv.setAllowance env p.address owner spender (some allowance)).mapError faultOfError

def approve (owner spender : Address) (amount : ℤ) (s : State σ) :
    Except Fault (State σ × List TokenEvent) := do
  let allowance := s.kv.getAllowance p.address owner spender
  let kv ←
    (if allowance = 0 ∧ amount < 0 then .error errNegativeAmount
     else if allowance = 0 ∧ 0 < amount then p.setAllowance env owner spender amount s
     else if 0 < allowance ∧ amount ≤ 0 then
       (s.kv.deleteAllowance env p.address owner spender).mapError faultOfError
     else if 0 < allowance ∧ 0 < amount then p.setAllowance env owner spender amount s
     else pure s.kv)
  pure ({ s with kv := kv }, [.approval owner spender amount])

/-- `HandleMethod`, on the transactions. -/
def handleMethod (call : Call) (s : State σ) : Except Fault (State σ × List TokenEvent) :=
  match call.method with
  | .transfer receiver amount =>
    p.transfer env keeper false call.caller call.caller receiver amount.toNat s
  | .transferFrom sender receiver amount =>
    p.transfer env keeper true call.caller sender receiver amount.toNat s
  | .approve spender amount => p.approve env call.caller spender amount.toNat s

def balanceOf (s : State σ) (account : AccAddress) : ℤ :=
  keeper.spendableCoin env.vm.bank s.bank account p.tokenPair.denom

def allowance (s : State σ) (owner spender : Address) : ℤ :=
  s.kv.getAllowance p.address owner spender

/-- A call that fails is rolled back. -/
def apply (s : State σ) (call : Call) : State σ :=
  match p.handleMethod env keeper call s with
  | .ok (t, _) => t
  | .error _ => s

end Precompile

end

end Erc20

end OgEvm
