import OgEvm.Coins
import OgEvm.LibTotals

/- The x/bank keeper as the exact ledger the wrapping modules assume: it lives
outside the repository, so only its documented effect on balances, supply and
events is represented. The precisebank store shares the record with it. -/
namespace OgEvm

open Totals

/-- Registered SDK error codes the modelled keepers return. -/
inductive ErrCode where
  | invalidCoins
  | unauthorized
  | insufficientFunds
  | other
  deriving DecidableEq, Repr

inductive PanicCause where
  | emptyAddress
  | invalidFractionalAmount (reason : String)
  | invalidRemainderAmount (reason : String)
  | notFractional (message : String)
  | carryFailed (message : String)
  | unknownAddress (message : String)
  | unauthorized (message : String)
  deriving DecidableEq, Repr

/-- A keeper call either returns an error value or panics. -/
inductive Fault where
  | error (code : ErrCode) (message : String)
  | panic (cause : PanicCause)
  deriving DecidableEq, Repr

/-- Typed ABCI events; address and coin attributes are read back by the
bech32 and coin parsers, which invert the printers that wrote them. -/
inductive Event where
  | coinSpent (spender : AccAddress) (amount : Coins)
  | coinReceived (receiver : AccAddress) (amount : Coins)
  | fractionalBalanceChange (address : AccAddress) (delta : ℤ)
  | other (type : String)
  deriving DecidableEq, Repr

inductive Permission where
  | minter
  | burner
  deriving DecidableEq, Repr

def precisebankModule : ModuleName := "precisebank"

/-- The coin configuration fixed by `setEVMCoinInfo` and the module accounts
and blocked addresses fixed when the application is assembled. -/
structure Config where
  denom : Denom
  extendedDenom : Denom
  decimals : ℕ
  decimals_valid : 0 < decimals ∧ decimals ≤ 18
  same_denom : decimals = 18 → denom = extendedDenom
  moduleAddress : ModuleName → Option AccAddress
  hasPermission : ModuleName → Permission → Bool
  blockedAddr : AccAddress → Bool
  reserve : AccAddress
  reserve_registered : moduleAddress precisebankModule = some reserve

/-- `Decimals.ConversionFactor`, the table entry of a validated decimals value. -/
def Config.conversionFactor (cfg : Config) : ℤ := 10 ^ (18 - cfg.decimals)

theorem Config.conversionFactor_pos (cfg : Config) : 0 < cfg.conversionFactor :=
  pow_pos (by decide) _

/-- x/bank and precisebank stores, with the events of the current context. -/
structure BankState where
  balances : Denom → Table AccAddress
  supply : Denom → ℤ
  /-- `LockedCoins`: the part of a balance a vesting account cannot spend. -/
  locked : AccAddress → Denom → ℕ
  fractionalBalances : Table AccAddress
  remainder : ℤ
  events : List Event

namespace Bank

variable (cfg : Config) (s : BankState) (addr : AccAddress)

def addBalance (denom : Denom) (delta : ℤ) : BankState :=
  { s with
    balances := Function.update s.balances denom
      ((s.balances denom).update addr (s.balances denom addr + delta)) }

def emit (event : Event) : BankState := { s with events := s.events ++ [event] }

/-- Add `sign` times every coin of the set to one account. -/
def shiftCoins (sign : ℤ) (addr : AccAddress) (coins : Coins) (s : BankState) : BankState :=
  coins.foldl (fun s coin => addBalance s addr coin.denom (sign * coin.amount)) s

def spendableAmount (denom : Denom) : ℤ := s.balances denom addr - s.locked addr denom

def spendableCoin (denom : Denom) : ℤ := max 0 (spendableAmount s addr denom)

def spendLoop (addr : AccAddress) : Coins → BankState → Except Fault BankState
  | [], s => .ok s
  | coin :: rest, s =>
    if spendableAmount s addr coin.denom < coin.amount then
      .error (.error .insufficientFunds ("spendable balance " ++
        toString (spendableCoin s addr coin.denom) ++ coin.denom ++ " is smaller than " ++
        toString coin.amount ++ coin.denom))
    else spendLoop addr rest (addBalance s addr coin.denom (-1 * coin.amount))

def subUnlockedCoins (amt : Coins) : Except Fault BankState :=
  if ¬ Coins.IsValid amt then .error (.error .invalidCoins (Coins.toText amt))
  else (spendLoop addr amt s).map fun s => emit s (.coinSpent addr amt)

def addCoins (amt : Coins) : Except Fault BankState :=
  if ¬ Coins.IsValid amt then .error (.error .invalidCoins (Coins.toText amt))
  else .ok (emit (shiftCoins 1 addr amt s) (.coinReceived addr amt))

def sendCoins (fromAddr toAddr : AccAddress) (amt : Coins) : Except Fault BankState := do
  let s ← subUnlockedCoins s fromAddr amt
  addCoins s toAddr amt

def missingModule (name : ModuleName) : Fault :=
  .panic (.unknownAddress ("module account " ++ name ++ " does not exist"))

def sendCoinsFromAccountToModule (senderAddr : AccAddress)
    (recipientModule : ModuleName) (amt : Coins) : Except Fault BankState :=
  match cfg.moduleAddress recipientModule with
  | none => .error (missingModule recipientModule)
  | some recipientAddr => sendCoins s senderAddr recipientAddr amt

def sendCoinsFromModuleToModule
    (senderModule recipientModule : ModuleName) (amt : Coins) : Except Fault BankState :=
  match cfg.moduleAddress senderModule, cfg.moduleAddress recipientModule with
  | none, _ => .error (missingModule senderModule)
  | some _, none => .error (missingModule recipientModule)
  | some senderAddr, some recipientAddr => sendCoins s senderAddr recipientAddr amt

def mintCoins (moduleName : ModuleName) (amt : Coins) : Except Fault BankState :=
  match cfg.moduleAddress moduleName with
  | none => .error (missingModule moduleName)
  | some addr =>
    if ¬ cfg.hasPermission moduleName .minter then
      .error (.panic (.unauthorized ("module account " ++ moduleName ++
        " does not have permissions to mint tokens")))
    else (addCoins s addr amt).map fun s =>
      { s with supply := fun denom => s.supply denom + Coins.amountOf amt denom }

def burnCoins (moduleName : ModuleName) (amt : Coins) : Except Fault BankState :=
  match cfg.moduleAddress moduleName with
  | none => .error (missingModule moduleName)
  | some addr =>
    if ¬ cfg.hasPermission moduleName .burner then
      .error (.panic (.unauthorized ("module account " ++ moduleName ++
        " does not have permissions to burn tokens")))
    else (subUnlockedCoins s addr amt).map fun s =>
      { s with supply := fun denom => s.supply denom - Coins.amountOf amt denom }

end Bank

end OgEvm
