import OgEvm.Bank

/- The precisebank keeper: 18-decimal balances split into an x/bank integer part
and a stored fractional part, with a module account as reserve. -/
namespace OgEvm.Precisebank

variable (cfg : Config) (s : BankState)

/-- `ValidateFractionalAmount`: stored amounts are strictly between 0 and the factor. -/
def validateFractionalAmount (amt : ℤ) : Except String Unit :=
  if ¬ 0 < amt then .error ("non-positive amount " ++ toString amt)
  else if cfg.conversionFactor ≤ amt then
    .error ("amount " ++ toString amt ++ " exceeds max of " ++ toString (cfg.conversionFactor - 1))
  else .ok ()

def getFractionalBalance (address : AccAddress) : ℤ := s.fractionalBalances address

def deleteFractionalBalance (address : AccAddress) : BankState :=
  { s with fractionalBalances := s.fractionalBalances.erase address }

def setFractionalBalance (address : AccAddress) (amount : ℤ) : Except Fault BankState :=
  if address = [] then .error (.panic .emptyAddress)
  else if amount = 0 then .ok (deleteFractionalBalance s address)
  else match validateFractionalAmount cfg amount with
    | .error reason => .error (.panic (.invalidFractionalAmount reason))
    | .ok () => .ok { s with fractionalBalances := s.fractionalBalances.update address amount }

def getRemainderAmount : ℤ := s.remainder

def setRemainderAmount (amount : ℤ) : Except Fault BankState :=
  if amount = 0 then .ok { s with remainder := 0 }
  else match validateFractionalAmount cfg amount with
    | .error reason => .error (.panic (.invalidRemainderAmount reason))
    | .ok () => .ok { s with remainder := amount }

/-- `GetBalance`: the reserve shows as empty in the extended denomination, so
that the backing of the fractional balances is not counted twice. -/
def getBalance (addr : AccAddress) (denom : Denom) : ℤ :=
  if denom = cfg.extendedDenom ∧ addr = cfg.reserve then 0
  else if denom ≠ cfg.extendedDenom then s.balances denom addr
  else s.balances cfg.denom addr * cfg.conversionFactor + getFractionalBalance s addr

def spendableCoin (addr : AccAddress) (denom : Denom) : ℤ :=
  if denom = cfg.extendedDenom ∧ addr = cfg.reserve then 0
  else if denom ≠ cfg.extendedDenom then Bank.spendableCoin s addr denom
  else Bank.spendableCoin s addr cfg.denom * cfg.conversionFactor + getFractionalBalance s addr

/-- Rewrites an x/bank funds error so that it reports the extended balance. -/
def updateInsufficientFundsError (addr : AccAddress) (amt : ℤ) : Fault → Fault
  | .error .insufficientFunds _ =>
    .error .insufficientFunds ("spendable balance " ++
      toString (spendableCoin cfg s addr cfg.extendedDenom) ++ cfg.extendedDenom ++
      " is smaller than " ++ toString amt ++ cfg.extendedDenom)
  | fault => fault

def emitFractionalBalanceChange (address : AccAddress) (before after : ℤ) : BankState :=
  Bank.emit s (.fractionalBalanceChange address (after - before))

/-- New fractional balance and whether an integer borrow is required. -/
def subFromFractionalBalance (current amountToSub : ℤ) : Except Fault (ℤ × Bool) :=
  if cfg.conversionFactor ≤ current then
    .error (.panic (.notFractional "currentFractionalBalance must be less than ConversionFactor"))
  else if cfg.conversionFactor ≤ amountToSub then
    .error (.panic (.notFractional "amountToSub must be less than ConversionFactor"))
  else
    let newFractionalBalance := current - amountToSub
    if newFractionalBalance < 0 then .ok (newFractionalBalance + cfg.conversionFactor, true)
    else .ok (newFractionalBalance, false)

/-- New fractional balance and whether a carry is required. -/
def addToFractionalBalance (current amountToAdd : ℤ) : Except Fault (ℤ × Bool) :=
  if cfg.conversionFactor ≤ current then
    .error (.panic (.notFractional "currentFractionalBalance must be less than ConversionFactor"))
  else if cfg.conversionFactor ≤ amountToAdd then
    .error (.panic (.notFractional "amountToAdd must be less than ConversionFactor"))
  else
    let newFractionalBalance := current + amountToAdd
    if cfg.conversionFactor ≤ newFractionalBalance then
      .ok (newFractionalBalance - cfg.conversionFactor, true)
    else .ok (newFractionalBalance, false)

/-- A one-denomination x/bank coin set of the integer denomination. -/
def integerCoins (amount : ℤ) : Coins := [⟨cfg.denom, amount⟩]

/-- The stateful half of `sendExtendedCoins`: the reserve is paid and drawn on
only when borrow and carry do not cancel each other. -/
def settleSend (fromAddr toAddr : AccAddress) (amt integerAmt : ℤ)
    (senderNeedsBorrow recipientNeedsCarry : Bool) : Except Fault BankState := do
  let s ←
    (if 0 < integerAmt then
       (Bank.sendCoins s fromAddr toAddr (integerCoins cfg integerAmt)).mapError
         (updateInsufficientFundsError cfg s fromAddr amt)
     else pure s)
  let s ←
    (if senderNeedsBorrow && !recipientNeedsCarry then
       (Bank.sendCoinsFromAccountToModule cfg s fromAddr precisebankModule
         (integerCoins cfg 1)).mapError (updateInsufficientFundsError cfg s fromAddr amt)
     else pure s)
  if !senderNeedsBorrow && recipientNeedsCarry then
    (Bank.sendCoins s cfg.reserve toAddr (integerCoins cfg 1)).mapError fun _ =>
      .panic (.carryFailed ("failed to carry fractional coins to " ++ toString toAddr))
  else pure s

/-- Transfers that name the reserve move whole integer coins only, since the
reserve has no fractional balance; a transfer to oneself does nothing. -/
def sendExtendedCoins (fromAddr toAddr : AccAddress) (amt : ℤ) : Except Fault BankState :=
  if fromAddr = cfg.reserve ∨ toAddr = cfg.reserve then
    let integerAmt := amt.tdiv cfg.conversionFactor
    if 0 < integerAmt then
      (Bank.sendCoins s fromAddr toAddr (integerCoins cfg integerAmt)).mapError
        (updateInsufficientFundsError cfg s fromAddr amt)
    else pure s
  else if fromAddr = toAddr then pure s
  else do
    let senderFracBal := getFractionalBalance s fromAddr
    let recipientFracBal := getFractionalBalance s toAddr
    let integerAmt := amt.tdiv cfg.conversionFactor
    let fractionalAmt := amt % cfg.conversionFactor
    let (senderNewFracBal, senderNeedsBorrow) ←
      subFromFractionalBalance cfg senderFracBal fractionalAmt
    let (recipientNewFracBal, recipientNeedsCarry) ←
      addToFractionalBalance cfg recipientFracBal fractionalAmt
    let integerAmt := if senderNeedsBorrow && recipientNeedsCarry then integerAmt + 1 else integerAmt
    let s ← settleSend cfg s fromAddr toAddr amt integerAmt senderNeedsBorrow recipientNeedsCarry
    let s ← setFractionalBalance cfg s fromAddr senderNewFracBal
    let s ← setFractionalBalance cfg s toAddr recipientNewFracBal
    let s := emitFractionalBalanceChange s fromAddr senderFracBal senderNewFracBal
    pure (emitFractionalBalanceChange s toAddr recipientFracBal recipientNewFracBal)

def sendCoins (fromAddr toAddr : AccAddress) (amt : Coins) : Except Fault BankState :=
  if ¬ Coins.IsValid amt then .error (.error .invalidCoins (Coins.toText amt))
  else do
    let extendedCoinAmount := Coins.amountOf amt cfg.extendedDenom
    let passthroughCoins :=
      if 0 < extendedCoinAmount then Coins.sub amt ⟨cfg.extendedDenom, extendedCoinAmount⟩ else amt
    let s ←
      (if Coins.IsAllPositive passthroughCoins then Bank.sendCoins s fromAddr toAddr passthroughCoins
       else pure s)
    if 0 < extendedCoinAmount then sendExtendedCoins cfg s fromAddr toAddr extendedCoinAmount
    else pure s

def sendCoinsFromAccountToModule (senderAddr : AccAddress)
    (recipientModule : ModuleName) (amt : Coins) : Except Fault BankState :=
  match cfg.moduleAddress recipientModule with
  | none => .error (Bank.missingModule recipientModule)
  | some recipientAddr =>
    if recipientModule = precisebankModule then
      .error (.error .unauthorized ("module account " ++ precisebankModule ++
        " is not allowed to receive funds"))
    else sendCoins cfg s senderAddr recipientAddr amt

def sendCoinsFromModuleToAccount (senderModule : ModuleName)
    (recipientAddr : AccAddress) (amt : Coins) : Except Fault BankState :=
  match cfg.moduleAddress senderModule with
  | none => .error (Bank.missingModule senderModule)
  | some senderAddr =>
    if senderModule = precisebankModule then
      .error (.error .unauthorized ("module account " ++ precisebankModule ++ " is not allowed to send funds"))
    else if cfg.blockedAddr recipientAddr then
      .error (.error .unauthorized (toString recipientAddr ++ " is not allowed to receive funds"))
    else sendCoins cfg s senderAddr recipientAddr amt

def sendCoinsFromModuleToModule
    (senderModule recipientModule : ModuleName) (amt : Coins) : Except Fault BankState :=
  match cfg.moduleAddress senderModule, cfg.moduleAddress recipientModule with
  | none, _ => .error (Bank.missingModule senderModule)
  | some _, none => .error (Bank.missingModule recipientModule)
  | some senderAddr, some recipientAddr =>
    if recipientModule = precisebankModule then
      .error (.error .unauthorized ("module account " ++ precisebankModule ++
        " is not allowed to receive funds"))
    else sendCoins cfg s senderAddr recipientAddr amt

end OgEvm.Precisebank
