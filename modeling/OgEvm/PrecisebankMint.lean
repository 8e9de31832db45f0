import OgEvm.Precisebank

namespace OgEvm.Precisebank

/-- `fmt.Errorf` with a wrapped error keeps the code and extends the message. -/
def wrapFault (text : String) : Fault → Fault
  | .error code message => .error code (text ++ ": " ++ message)
  | .panic cause => .panic cause

def moduleAddr (cfg : Config) (name : ModuleName) : AccAddress := (cfg.moduleAddress name).getD []

variable (cfg : Config) (s : BankState)

/-- Minting keeps the reserve exact in four cases. A carry backed by the
remainder is paid by the reserve; a carry that is not is minted directly, one
coin more; without a carry the reserve gets a coin when the remainder is short. -/
def mintExtendedCoin (recipientModuleName : ModuleName) (amt : ℤ) : Except Fault BankState :=
  if recipientModuleName = precisebankModule then
    let integerMintAmount := amt.tdiv cfg.conversionFactor
    if 0 < integerMintAmount then
      Bank.mintCoins cfg s recipientModuleName (integerCoins cfg integerMintAmount)
    else pure s
  else do
    let addr := moduleAddr cfg recipientModuleName
    let fractionalAmount := getFractionalBalance s addr
    let integerMintAmount := amt.tdiv cfg.conversionFactor
    let fractionalMintAmount := amt % cfg.conversionFactor
    let prevRemainder := getRemainderAmount s
    let newRemainder := prevRemainder - fractionalMintAmount
    let newFractionalBalance := fractionalAmount + fractionalMintAmount
    let s ←
      (if cfg.conversionFactor ≤ newFractionalBalance ∧ 0 ≤ newRemainder then
         Bank.sendCoinsFromModuleToModule cfg s precisebankModule recipientModuleName
           (integerCoins cfg 1)
       else pure s)
    let integerMintAmount :=
      if cfg.conversionFactor ≤ newFractionalBalance ∧ newRemainder < 0 then integerMintAmount + 1
      else integerMintAmount
    let newFractionalBalance :=
      if cfg.conversionFactor ≤ newFractionalBalance then
        newFractionalBalance - cfg.conversionFactor
      else newFractionalBalance
    let s ←
      (if 0 < integerMintAmount then
         Bank.mintCoins cfg s recipientModuleName (integerCoins cfg integerMintAmount)
       else pure s)
    let s ← setFractionalBalance cfg s addr newFractionalBalance
    let wasCarried := decide (cfg.conversionFactor ≤ fractionalAmount + fractionalMintAmount)
    let s ←
      (if prevRemainder < fractionalMintAmount ∧ !wasCarried then
         (Bank.mintCoins cfg s precisebankModule (integerCoins cfg 1)).mapError
           (wrapFault ("failed to mint " ++ Coins.toText (integerCoins cfg 1) ++ " for reserve"))
       else pure s)
    let newRemainder := if newRemainder < 0 then newRemainder + cfg.conversionFactor else newRemainder
    let s ← setRemainderAmount cfg s newRemainder
    pure (emitFractionalBalanceChange s addr fractionalAmount newFractionalBalance)

def mintCoins (moduleName : ModuleName) (amt : Coins) : Except Fault BankState :=
  if moduleName = precisebankModule then
    .error (.panic (.unauthorized ("module account " ++ moduleName ++ " cannot be minted to")))
  else match cfg.moduleAddress moduleName with
  | none => .error (Bank.missingModule moduleName)
  | some _ =>
    if ¬ cfg.hasPermission moduleName .minter then
      .error (.panic (.unauthorized ("module account " ++ moduleName ++
        " does not have permissions to mint tokens")))
    else if ¬ Coins.IsValid amt then .error (.error .invalidCoins (Coins.toText amt))
    else do
      let extendedAmount := Coins.amountOf amt cfg.extendedDenom
      let passthroughCoins :=
        if 0 < extendedAmount then Coins.sub amt ⟨cfg.extendedDenom, extendedAmount⟩ else amt
      let s ←
        (if passthroughCoins ≠ [] then Bank.mintCoins cfg s moduleName passthroughCoins
         else pure s)
      if 0 < extendedAmount then mintExtendedCoin cfg s moduleName extendedAmount
      else pure s

/-- A borrow moves one coin to the reserve and an overflowing remainder burns
one from it; when both happen, the account burns one coin more instead. -/
def burnExtendedCoin (moduleName : ModuleName) (amt : ℤ) : Except Fault BankState :=
  if moduleName = precisebankModule then
    let integerBurnAmount := amt.tdiv cfg.conversionFactor
    if 0 < integerBurnAmount then
      Bank.burnCoins cfg s moduleName (integerCoins cfg integerBurnAmount)
    else pure s
  else do
    let addr := moduleAddr cfg moduleName
    let prevFractionalBalance := getFractionalBalance s addr
    let prevRemainder := getRemainderAmount s
    let integerBurnAmount := amt.tdiv cfg.conversionFactor
    let fractionalBurnAmount := amt % cfg.conversionFactor
    let newFractionalBalance := prevFractionalBalance - fractionalBurnAmount
    let requiresBorrow := decide (newFractionalBalance < 0)
    let newRemainder := prevRemainder + fractionalBurnAmount
    let overflowingRemainder := decide (cfg.conversionFactor ≤ newRemainder)
    let integerBurnAmount :=
      if requiresBorrow && overflowingRemainder then integerBurnAmount + 1 else integerBurnAmount
    let s ←
      (if requiresBorrow && !overflowingRemainder then
         (Bank.sendCoinsFromModuleToModule cfg s moduleName precisebankModule
           (integerCoins cfg 1)).mapError (updateInsufficientFundsError cfg s addr amt)
       else pure s)
    let s ←
      (if !requiresBorrow && overflowingRemainder then
         (Bank.burnCoins cfg s precisebankModule (integerCoins cfg 1)).mapError
           (wrapFault ("failed to burn " ++ Coins.toText (integerCoins cfg 1) ++ " for reserve"))
       else pure s)
    let newFractionalBalance :=
      if requiresBorrow then newFractionalBalance + cfg.conversionFactor else newFractionalBalance
    let newRemainder :=
      if overflowingRemainder then newRemainder - cfg.conversionFactor else newRemainder
    let s ←
      (if integerBurnAmount ≠ 0 then
         (Bank.burnCoins cfg s moduleName (integerCoins cfg integerBurnAmount)).mapError
           (updateInsufficientFundsError cfg s addr amt)
       else pure s)
    let s ← setFractionalBalance cfg s addr newFractionalBalance
    let s ← setRemainderAmount cfg s newRemainder
    pure (emitFractionalBalanceChange s addr prevFractionalBalance newFractionalBalance)

def burnCoins (moduleName : ModuleName) (amt : Coins) : Except Fault BankState :=
  if moduleName = precisebankModule then
    .error (.panic (.unauthorized ("module account " ++ moduleName ++ " cannot be burned from")))
  else match cfg.moduleAddress moduleName with
  | none => .error (Bank.missingModule moduleName)
  | some _ =>
    if ¬ cfg.hasPermission moduleName .burner then
      .error (.panic (.unauthorized ("module account " ++ moduleName ++
        " does not have permissions to burn tokens")))
    else if ¬ Coins.IsValid amt then .error (.error .invalidCoins (Coins.toText amt))
    else do
      let extendedAmount := Coins.amountOf amt cfg.extendedDenom
      let passthroughCoins :=
        if 0 < extendedAmount then Coins.sub amt ⟨cfg.extendedDenom, extendedAmount⟩ else amt
      let s ←
        (if passthroughCoins ≠ [] then Bank.burnCoins cfg s moduleName passthroughCoins
         else pure s)
      if 0 < extendedAmount then burnExtendedCoin cfg s moduleName extendedAmount
      else pure s

end OgEvm.Precisebank
