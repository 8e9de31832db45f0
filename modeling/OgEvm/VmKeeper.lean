import OgEvm.PrecisebankMint

/- The x/vm keeper as the StateDB sees it: accounts split over x/auth, the code
hash, code and storage prefixes, and the balance kept by precisebank. -/
namespace OgEvm

abbrev Bytes : Type := List UInt8
abbrev Address : Type := Vector UInt8 20
abbrev Hash : Type := Vector UInt8 32

/-- `common.BytesToAddress` and `common.BytesToHash` keep the rightmost bytes and
pad on the left. -/
def fitBytes (size : ℕ) (bytes : Bytes) : Vector UInt8 size :=
  Vector.ofFn fun index => ((bytes.reverse)[size - 1 - index.val]?).getD 0

def bytesToAddress (bytes : Bytes) : Address := fitBytes 20 bytes

def bytesToHash (bytes : Bytes) : Hash := fitBytes 32 bytes

def zeroHash : Hash := Vector.replicate 32 0

/-- The bank configuration and the hash function fixed for a chain. -/
structure Env where
  bank : Config
  keccak : Bytes → Hash

/-- `types.EmptyCodeHash`. -/
def Env.emptyCodeHash (env : Env) : Hash := env.keccak []

/-- The Ethereum view of an account. -/
structure Account where
  nonce : UInt64
  balance : BitVec 256
  codeHash : Hash

/-- The part of an x/auth account the keeper reads. -/
structure AuthAccount where
  sequence : UInt64

/-- Contents of the stores the keeper reads and writes. -/
structure VmStore where
  accounts : AccAddress → Option AuthAccount
  codeHashes : Address → Option Hash
  codes : Hash → Option Bytes
  storage : Address → Hash → Option Bytes
  bank : BankState

/-- An sdk.Context: the stores it reads and the events its manager has collected. -/
structure Context where
  store : VmStore
  events : List Event

/-- The bank as a keeper call finds it, its events going to the context's manager. -/
def Context.bank (ctx : Context) : BankState := { ctx.store.bank with events := ctx.events }

def Context.withBank (ctx : Context) (bank : BankState) : Context where
  store := { ctx.store with bank := { bank with events := [] } }
  events := bank.events

def Context.withStore (ctx : Context) (store : VmStore) : Context := { ctx with store := store }

def evmModule : ModuleName := "evm"

namespace BankWrapper

def spendableCoin (env : Env) (bank : BankState) (addr : AccAddress) : ℤ :=
  Precisebank.spendableCoin env.bank bank addr env.bank.extendedDenom

def mintAmountToAccount (env : Env) (bank : BankState) (recipientAddr : AccAddress) (amt : ℤ) :
    Except Fault BankState := do
  let coinsToMint : Coins := [⟨env.bank.extendedDenom, amt⟩]
  let bank ← (Precisebank.mintCoins env.bank bank evmModule coinsToMint).mapError
    (Precisebank.wrapFault "failed to mint coins to account in bank wrapper")
  Precisebank.sendCoinsFromModuleToAccount env.bank bank evmModule recipientAddr coinsToMint

def burnAmountFromAccount (env : Env) (bank : BankState) (account : AccAddress) (amt : ℤ) :
    Except Fault BankState := do
  let coinsToBurn : Coins := [⟨env.bank.extendedDenom, amt⟩]
  let bank ← (Precisebank.sendCoinsFromAccountToModule env.bank bank account evmModule coinsToBurn).mapError
      (Precisebank.wrapFault "failed to burn coins from account in bank wrapper")
  Precisebank.burnCoins env.bank bank evmModule coinsToBurn

end BankWrapper

namespace Keeper

variable (env : Env) (store : VmStore) (addr : Address)

def getCodeHash : Hash := (store.codeHashes addr).getD env.emptyCodeHash

/-- `SpendableCoin` gives no amount outside the 256-bit range, which a new state
object takes for zero. -/
def spendableCoin : BitVec 256 :=
  let amount := BankWrapper.spendableCoin env store.bank addr.toList
  if amount < 2 ^ 256 then BitVec.ofInt 256 amount else 0

def getAccount : Option Account :=
  (store.accounts addr.toList).map fun acct =>
    ⟨acct.sequence, spendableCoin env store addr, getCodeHash env store addr⟩

def getState (key : Hash) : Hash :=
  match store.storage addr key with
  | none => zeroHash
  | some [] => zeroHash
  | some value => bytesToHash value

def getCode (codeHash : Hash) : Option Bytes := store.codes codeHash

def setState (key : Hash) (value : Bytes) : VmStore :=
  { store with
    storage := Function.update store.storage addr
      (Function.update (store.storage addr) key (some value)) }

def deleteState (key : Hash) : VmStore :=
  { store with
    storage := Function.update store.storage addr (Function.update (store.storage addr) key none) }

def setCodeHash (codeHash : Hash) : VmStore :=
  { store with codeHashes := Function.update store.codeHashes addr (some codeHash) }

def deleteCodeHash : VmStore :=
  { store with codeHashes := Function.update store.codeHashes addr none }

def setCode (codeHash : Hash) (code : Bytes) : VmStore :=
  { store with codes := Function.update store.codes codeHash (some code) }

def deleteCode (codeHash : Hash) : VmStore :=
  { store with codes := Function.update store.codes codeHash none }

/-- Mint or burn the difference to the balance the bank reports. -/
def setBalance (ctx : Context) (addr : Address) (amount : BitVec 256) : Except Fault Context :=
  let delta := (amount.toNat : ℤ) - BankWrapper.spendableCoin env ctx.bank addr.toList
  if 0 < delta then
    (BankWrapper.mintAmountToAccount env ctx.bank addr.toList delta).map ctx.withBank
  else if delta < 0 then
    (BankWrapper.burnAmountFromAccount env ctx.bank addr.toList (-delta)).map ctx.withBank
  else .ok ctx

def setAccount (ctx : Context) (addr : Address) (account : Account) : Except Fault Context :=
  let store :=
    if account.codeHash = env.emptyCodeHash then deleteCodeHash ctx.store addr
    else setCodeHash ctx.store addr account.codeHash
  let store := { store with
    accounts := Function.update store.accounts addr.toList (some ⟨account.nonce⟩) }
  setBalance env (ctx.withStore store) addr account.balance

/-- `ethtypes.ParseDelegation`: 23 bytes starting with 0xef0100. -/
def isDelegation (code : Bytes) : Bool := code.length = 23 && code.take 3 = [0xef, 0x01, 0x00]

def isContract : Bool :=
  match getCode store (getCodeHash env store addr) with
  | none => false
  | some code => code ≠ [] && !isDelegation code

/-- A deleted account becomes a base account first, so that nothing of its balance
is locked, then loses its balance, storage, code hash and auth account. -/
def deleteAccount (ctx : Context) (addr : Address) : Except Fault Context :=
  match ctx.store.accounts addr.toList with
  | none => .ok ctx
  | some _ =>
    if isContract env ctx.store addr = false then
      .error (.error .other "only smart contracts can be self-destructed")
    else do
      let bank := { ctx.store.bank with locked := Function.update ctx.store.bank.locked addr.toList 0 }
      let ctx ← setBalance env (ctx.withStore { ctx.store with bank := bank }) addr 0
      let store := { ctx.store with storage := Function.update ctx.store.storage addr fun _ => none }
      let store := deleteCodeHash store addr
      pure (ctx.withStore { store with accounts := Function.update store.accounts addr.toList none })

end Keeper

end OgEvm
