import OgEvm.Ante

/- ApplyTransaction and its delivery. The message is run on a branch of the context; a
failed execution or a failed hook throws the branch away, and an error of the whole
throws away everything but what the ante handler wrote. -/
namespace OgEvm.Ante

open Vm

/-- What a hook sees of the receipt, and may change of it. -/
structure Receipt where
  txType : TxType
  succeeded : Bool
  logs : List Log
  txHash : Hash
  contractAddress : Option Address
  gasUsed : UInt64

/-- `PostTxProcessing` of the hooks that are set. -/
abbrev Hooks : Type := Context → Address → Message → Receipt → Except GoError (Context × Receipt)

/-- The keeper as it meets one transaction. -/
structure TxEnv where
  ante : AnteEnv
  evmConfig : Except GoError EvmConfig
  evm : Evm
  txConfig : TxConfig
  hooks : Option Hooks
  createAddress : Address → UInt64 → Address
  /-- The gas of earlier messages of the same Cosmos transaction. -/
  transientGasUsed : UInt64

def bankHalt (wrapped : String) (run : Except Fault BankState) : Except Halt BankState :=
  run.mapError fun fault => match fault with
    | .error _ text => .error (.insufficientFunds, wrapped ++ text)
    | .panic cause => .panic (.stateDb (.keeper cause))

/-- What is not used, at the price of the message. -/
def refundAmount (msg : Message) (leftoverGas : UInt64) : ℤ := leftoverGas.toNat * msg.gasPrice

def refundGas (e : AnteEnv) (ctx : Context) (msg : Message) (leftoverGas : UInt64) : Except Halt Context :=
  let remaining := refundAmount msg leftoverGas
  if remaining < 0 then
    failWith (.other, "refunded amount value cannot be negative " ++ toString remaining)
  else if remaining = 0 then .ok ctx
  else
    let refundedCoins : Coins := [⟨e.env.bank.denom, remaining⟩]
    let wrapped := "failed to refund " ++ toString leftoverGas.toNat ++ " leftover gas (" ++
      Coins.toText refundedCoins ++ "): fee collector account failed to refund fees: "
    match e.virtualFeeCollection with
    | some bank => (bankHalt wrapped (bank.sendCoinsFromModuleToAccount ctx.bank feeCollectorName
        msg.sender.toList refundedCoins)).map ctx.withBank
    | none =>
      let coins := convertCoinsDenomToExtendedDenom e.env.bank refundedCoins
      if isZero coins then .ok ctx
      else (bankHalt wrapped (Precisebank.sendCoinsFromModuleToAccount e.env.bank ctx.bank
        feeCollectorName msg.sender.toList coins)).map ctx.withBank

variable (e : TxEnv) (ctx : Context)

def receiptOf (tx : Transaction) (msg : Message) (res : Response) : Receipt where
  txType := tx.txType
  succeeded := !res.failed
  logs := res.logs
  txHash := tx.hash
  contractAddress := if msg.recipient.isNone then some (e.createAddress msg.sender msg.nonce) else none
  gasUsed := res.gasUsed

/-- What of the branch is kept: without hooks a successful execution; with hooks what they
leave, of the execution or of a fresh branch if it failed. -/
def settleBranch (ctx branch : Context) (tx : Transaction) (msg : Message) (res : Response) :
    Context × Response :=
  match e.hooks with
  | none => (if res.failed then ctx else branch, res)
  | some hooks =>
    match hooks (if res.failed then ctx else branch) msg.sender msg (receiptOf e tx msg res) with
    | .error err =>
      (ctx, { res with
        vmError := (Erc20.wrapError err "failed to execute post transaction processing").2
        logs := [] })
    | .ok (kept, receipt) =>
      (kept, { res with logs := if res.failed then [] else receipt.logs })

def leftoverGas (msg : Message) (res : Response) : UInt64 :=
  if res.gasUsed < msg.gasLimit then msg.gasLimit - res.gasUsed else 0

/-- The refund and the count of the gas, after the branch is settled. -/
def finishTx (msg : Message) (res : Response) : Context × Except Halt Response :=
  match refundGas e.ante ctx msg (leftoverGas msg res) with
  | .error halt => (ctx, .error halt)
  | .ok refunded =>
    if e.transientGasUsed + res.gasUsed < res.gasUsed then
      (refunded, failWith (Erc20.wrapError errGasOverflow "failed to add transient gas used"))
    else (refunded, .ok res)

/-- The message of a transaction, with the base fee of the keeper. -/
def coreMessage (cfg : EvmConfig) (tx : Transaction) : Except Halt Message :=
  match e.ante.recoverSender tx with
  | .error reason => failWith (.other, "failed to return ethereum transaction as core message: " ++ reason)
  | .ok sender => .ok (tx.toMessage sender
      (FeeMarket.executionBaseFee e.ante.env.bank cfg.isLondon e.ante.feemarketParams))

def applyTransaction (tx : Transaction) : Context × Except Halt Response :=
  match e.evmConfig with
  | .error err => (ctx, failWith (Erc20.wrapError err "failed to load evm config"))
  | .ok cfg =>
    match coreMessage e cfg tx with
    | .error halt => (ctx, .error halt)
    | .ok msg =>
      match applyMessageWithConfig e.ante.env cfg e.evm e.txConfig true false ctx msg with
      | (_, .error halt) => (ctx, .error halt)
      | (branch, .ok res) =>
        let (kept, res) := settleBranch e ctx branch tx msg res
        finishTx e kept msg res

/-- A transaction in a block: the ante handler on a branch that is written if it accepts,
then the message on another that is written if it returns no error. -/
def deliverTx (tx : SdkTx) : Context :=
  match anteHandle e.ante ctx tx false with
  | (_, .error _) => ctx
  | (counted, .ok ()) =>
    match onlyMessage tx with
    | .error _ => counted
    | .ok msg =>
      match applyTransaction e counted msg.raw with
      | (_, .error _) => counted
      | (after, .ok _) => after

variable {e : TxEnv} {ctx after : Context} {msg : Message} {res : Response}

theorem coreMessage_ok {cfg : EvmConfig} {tx : Transaction} (built : coreMessage e cfg tx = .ok msg) :
    ∃ sender, e.ante.recoverSender tx = .ok sender ∧ msg = tx.toMessage sender
      (FeeMarket.executionBaseFee e.ante.env.bank cfg.isLondon e.ante.feemarketParams) := by
  unfold coreMessage at built
  split at built
  · cases built
  · rename_i sender recovered
    exact ⟨sender, recovered, (Except.ok.inj built).symm⟩

theorem finishTx_ok {out : Response} (finished : finishTx e ctx msg res = (after, .ok out)) :
    out = res ∧ refundGas e.ante ctx msg (leftoverGas msg res) = .ok after := by
  unfold finishTx at finished
  split at finished
  · cases finished
  · rename_i refunded paid
    split at finished
    · cases finished
    · obtain ⟨rfl, answered⟩ := Prod.mk.inj finished
      exact ⟨(Except.ok.inj answered).symm, paid⟩

/-- A transaction that completes: its message is run, the branch settled, the gas refunded. -/
theorem applyTransaction_ok {tx : Transaction} (applied : applyTransaction e ctx tx = (after, .ok res)) :
    ∃ cfg msg branch inner kept, e.evmConfig = .ok cfg ∧ coreMessage e cfg tx = .ok msg ∧
      applyMessageWithConfig e.ante.env cfg e.evm e.txConfig true false ctx msg = (branch, .ok inner) ∧
      settleBranch e ctx branch tx msg inner = (kept, res) ∧
      refundGas e.ante kept msg (leftoverGas msg res) = .ok after := by
  unfold applyTransaction at applied
  split at applied
  · cases applied
  rename_i cfg config
  split at applied
  · cases applied
  rename_i msg built
  split at applied
  · cases applied
  rename_i branch inner ran
  obtain ⟨same, refunded⟩ := finishTx_ok applied
  rw [← same] at refunded
  exact ⟨cfg, msg, branch, inner, _, config, built, ran, Prod.ext rfl same.symm, refunded⟩

end OgEvm.Ante
