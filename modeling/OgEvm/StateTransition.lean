import OgEvm.Erc20
import OgEvm.LibDecimal
import OgEvm.Precompile

/- ApplyMessageWithConfig: a message is checked against its gas limit, run by the EVM
over a StateDB, charged and committed. go-ethereum's interpreter is a parameter. -/
namespace OgEvm.Vm

open Decimals

/-- An EIP-7702 authorization. -/
structure SetCodeAuthorization where
  chainID : BitVec 256
  address : Address
  nonce : UInt64
  v : UInt8
  r : BitVec 256
  s : BitVec 256
deriving DecidableEq

/-- `core.Message`. -/
structure Message where
  sender : Address
  recipient : Option Address
  nonce : UInt64
  value : ℤ
  gasLimit : UInt64
  gasPrice : ℤ
  gasFeeCap : ℤ
  gasTipCap : ℤ
  data : Bytes
  accessList : List StateDb.AccessTuple
  setCodeAuthorizations : List SetCodeAuthorization

/-- What one call or creation of the interpreter leaves. `returnData` is the return
data of the last frame. -/
structure EvmResult where
  state : StateDb
  ret : Bytes
  leftoverGas : UInt64
  vmErr : Option String
  returnData : Bytes

/-- `evm.Create` and `evm.Call`, on a caller, data, gas and value. -/
structure Evm where
  create : StateDb → Address → Bytes → UInt64 → BitVec 256 → Except DbPanic EvmResult
  call : StateDb → Address → Address → Bytes → UInt64 → BitVec 256 → Except DbPanic EvmResult

/-- The rules and parameters in force at a block. The multiplier has passed the fee
market's validation, and no block has both of the access rules `Prepare` refuses. -/
structure EvmConfig where
  chainID : ℤ
  rules : StateDb.Rules
  isLondon : Bool
  isPrague : Bool
  activePrecompiles : List Address
  minGasMultiplier : Option Decimal
  /-- `SetCodeAuthorization.Authority`. -/
  authority : SetCodeAuthorization → Except String Address
  /-- `core.IntrinsicGas`. -/
  intrinsicGas : Bytes → List StateDb.AccessTuple → List SetCodeAuthorization → (isContractCreation : Bool) →
    Except GoError UInt64
  /-- `core.FloorDataGas`: at most forty for a byte. -/
  floorDataGas : Bytes → Except GoError UInt64
  floor_le : ∀ {data floor}, floorDataGas data = .ok floor → floor.toNat ≤ 21000 + 40 * data.length
  multiplier_range : ∀ multiplier ∈ minGasMultiplier, 0 ≤ multiplier.raw ∧ multiplier.raw ≤ 10 ^ 18
  compatible : (rules.isEIP2929 && rules.isEIP4762) = false

inductive TransitionPanic where
  | stateDb (cause : DbPanic)
  /-- `math.Int.Uint64` of a value out of range. -/
  | uint64OutOfBounds

/-- How a transition stops: with an error value, or by a panic. -/
inductive Halt where
  | error (err : GoError)
  | panic (cause : TransitionPanic)

def failWith {α : Type} (err : GoError) : Except Halt α := .error (.error err)

def onStateDb {α : Type} (run : Except DbPanic α) : Except Halt α :=
  run.mapError fun cause => .panic (.stateDb cause)

def errGasOverflow : GoError := (.other, "gas computation overflow/underflow")

def errIntrinsicGas : GoError := (.other, "intrinsic gas too low")

/-! Authorizations. -/

inductive AuthorizationError where
  | wrongChainID
  | nonceOverflow
  | invalidSignature (reason : String)
  | destinationHasCode
  | nonceMismatch
deriving DecidableEq

variable (env : Env) (cfg : EvmConfig) (evm : Evm) (msg : Message)

/-- `ethtypes.AddressToDelegation`. -/
def addressToDelegation (addr : Address) : Bytes := [0xef, 0x01, 0x00] ++ addr.toList

/-- `ethtypes.ParseDelegation`. -/
def parseDelegation (code : Bytes) : Option Address :=
  if Keeper.isDelegation code then some (bytesToAddress (code.drop 3)) else none

/-- The authority is put on the access list even if its authorization is refused. -/
def validateAuthorization (auth : SetCodeAuthorization) (state : StateDb) :
    Except AuthorizationError Address × StateDb :=
  if auth.chainID ≠ 0 ∧ (auth.chainID.toNat : ℤ) ≠ cfg.chainID then (.error .wrongChainID, state)
  else if auth.nonce + 1 < auth.nonce then (.error .nonceOverflow, state)
  else
    match cfg.authority auth with
    | .error reason => (.error (.invalidSignature reason), state)
    | .ok authority =>
      let state := StateDb.addAddressToAccessList state authority
      let (code, state) := StateDb.getCode env state authority
      let code := code.getD []
      if code ≠ [] ∧ (parseDelegation code).isNone then (.error .destinationHasCode, state)
      else
        let (current, state) := StateDb.getNonce env state authority
        if current ≠ auth.nonce then (.error .nonceMismatch, state)
        else (.ok authority, state)

def callNewAccountGas : UInt64 := 25000
def txAuthTupleGas : UInt64 := 12500

/-- What an accepted authorization changes. -/
def installDelegation (auth : SetCodeAuthorization) (authority : Address) (state : StateDb) : StateDb :=
  let (found, state) := StateDb.exist env state authority
  let state := if found then StateDb.addRefund state (callNewAccountGas - txAuthTupleGas) else state
  let state := StateDb.setNonce env state authority (auth.nonce + 1)
  if auth.address = Vector.replicate 20 0 then StateDb.setCode env state authority none
  else StateDb.setCode env state authority (some (addressToDelegation auth.address))

def applyAuthorization (state : StateDb) (auth : SetCodeAuthorization) : StateDb :=
  match validateAuthorization env cfg auth state with
  | (.error _, state) => state
  | (.ok authority, state) => installDelegation env auth authority state

/-! Execution. -/

/-- The checks of the gas limit before anything is run: the intrinsic gas and the floor. -/
def requiredGas : Except Halt (UInt64 × UInt64) :=
  match cfg.intrinsicGas msg.data msg.accessList msg.setCodeAuthorizations msg.recipient.isNone with
  | .error err => failWith (Erc20.wrapError err "intrinsic gas failed")
  | .ok intrinsic =>
    if msg.gasLimit < intrinsic then failWith (Erc20.wrapError errIntrinsicGas "apply message")
    else if cfg.isPrague then
      match cfg.floorDataGas msg.data with
      | .error err => failWith err
      | .ok floor =>
        if msg.gasLimit < floor then
          failWith (.other, "insufficient gas for floor data gas cost: have " ++
            toString msg.gasLimit.toNat ++ ", want " ++ toString floor.toNat)
        else .ok (intrinsic, floor)
    else .ok (intrinsic, 0)

/-- A creation: the nonce is reset for the EVM and raised afterwards if the EVM did not. -/
def runCreate (leftoverGas : UInt64) (value : BitVec 256) (state : StateDb) : Except DbPanic EvmResult := do
  let state := StateDb.setNonce env state msg.sender msg.nonce
  let result ← evm.create state msg.sender msg.data leftoverGas value
  let (nonce, state) := StateDb.getNonce env result.state msg.sender
  let state := if nonce = msg.nonce then StateDb.setNonce env state msg.sender (msg.nonce + 1) else state
  pure { result with state := state }

/-- A call: authorizations first, then the delegation of the called account is warmed. -/
def runCall (recipient : Address)
    (leftoverGas : UInt64) (value : BitVec 256) (state : StateDb) : Except DbPanic EvmResult :=
  let state := msg.setCodeAuthorizations.foldl (applyAuthorization env cfg) state
  let (code, state) := StateDb.getCode env state recipient
  let state := match parseDelegation (code.getD []) with
    | some addr => StateDb.addAddressToAccessList state addr
    | none => state
  evm.call state msg.sender recipient msg.data leftoverGas value

def runMessage (leftoverGas : UInt64) (value : BitVec 256) (state : StateDb) : Except DbPanic EvmResult :=
  match msg.recipient with
  | none => runCreate env evm msg leftoverGas value state
  | some recipient => runCall env cfg evm msg recipient leftoverGas value state

/-! Gas. -/

def gasToRefund (availableRefund gasConsumed refundQuotient : UInt64) : UInt64 :=
  let refund := gasConsumed / refundQuotient
  if availableRefund < refund then availableRefund else refund

def refundQuotient : UInt64 := if cfg.isLondon then 5 else 2

structure GasBill where
  leftoverGas : UInt64
  maxUsedGas : UInt64
  temporaryGasUsed : UInt64

/-- The refund, and from Prague on the floor for the data. -/
def billGas (gasLimit floor leftoverGas availableRefund : UInt64) : Except Halt GasBill :=
  if gasLimit < leftoverGas then failWith (Erc20.wrapError errGasOverflow "apply message")
  else
    let maxUsedGas := gasLimit - leftoverGas
    let refund := gasToRefund availableRefund maxUsedGas (refundQuotient cfg)
    let leftoverGas := leftoverGas + refund
    let temporaryGasUsed := maxUsedGas - refund
    if cfg.isPrague then
      .ok ⟨if temporaryGasUsed < floor then gasLimit - floor else leftoverGas,
        if maxUsedGas < floor then floor else maxUsedGas,
        if temporaryGasUsed < floor then floor else temporaryGasUsed⟩
    else .ok ⟨leftoverGas, maxUsedGas, temporaryGasUsed⟩

/-- A message after the EVM ran it, before anything is committed. -/
structure Executed where
  result : EvmResult
  bill : GasBill

/-- ApplyMessageWithConfig up to the point where the dirty state is committed. -/
def executeMessage (txConfig : TxConfig) (ctx : Context) (msg : Message) : Except Halt Executed := do
  let (intrinsic, floor) ← requiredGas cfg msg
  let state ← onStateDb (StateDb.prepare (StateDb.new ctx txConfig) cfg.rules msg.sender
    (Vector.replicate 20 0) msg.recipient cfg.activePrecompiles msg.accessList)
  let value ← (BalanceHandler.uint256FromBigInt msg.value).mapError fun reason => Halt.error (.other, reason)
  let result ← onStateDb (runMessage env cfg evm msg (msg.gasLimit - intrinsic) value state)
  let bill ← billGas cfg msg.gasLimit floor result.leftoverGas result.state.refund
  pure ⟨result, bill⟩

/-- `MsgEthereumTxResponse`. -/
structure Response where
  gasUsed : UInt64
  maxUsedGas : UInt64
  vmError : String
  ret : Bytes
  logs : List Log

def Response.failed (res : Response) : Bool := res.vmError ≠ ""

/-- The share of the limit that a transaction pays for at least. -/
def minimumGasUsed (gasLimit : UInt64) : Decimal :=
  (Decimal.ofInt gasLimit.toNat).mul (cfg.minGasMultiplier.getD Decimal.zero)

/-- The gas charged: at least a share of the limit, unless a module made the call. -/
def chargedGas (gasLimit : UInt64) (internal : Bool) (bill : GasBill) : Except Halt UInt64 :=
  let minimum := (minimumGasUsed cfg gasLimit).truncateInt
  if minimum < 0 ∨ 2 ^ 64 ≤ minimum then
    failWith (Erc20.wrapError errGasOverflow ("minimumGasUsed(" ++ toString minimum ++ ") is not a uint64"))
  else if gasLimit < bill.leftoverGas then
    failWith (Erc20.wrapError errGasOverflow ("message gas limit < leftover gas (" ++
      toString gasLimit.toNat ++ " < " ++ toString bill.leftoverGas.toNat ++ ")"))
  else
    -- `int64` of the gas used
    let gasUsed := Decimal.ofInt bill.temporaryGasUsed.toBitVec.toInt
    let gasUsed := if internal then gasUsed else gasUsed.max (minimumGasUsed cfg gasLimit)
    if gasUsed.truncateInt < 0 ∨ 2 ^ 64 ≤ gasUsed.truncateInt then .error (.panic .uint64OutOfBounds)
    else .ok (UInt64.ofNat gasUsed.truncateInt.toNat)

def respond (internal : Bool) (executed : Executed) (logs : List Log) : Except Halt Response := do
  let gasUsed ← chargedGas cfg msg.gasLimit internal executed.bill
  let vmError := executed.result.vmErr.getD ""
  pure { gasUsed := gasUsed
         maxUsedGas := executed.bill.maxUsedGas
         vmError := vmError
         ret := if vmError = "execution reverted" then executed.result.returnData
           else executed.result.ret
         logs := logs }

/-- The context it leaves and what it returns. -/
def applyMessageWithConfig (txConfig : TxConfig)
    (commit internal : Bool) (ctx : Context) (msg : Message) : Context × Except Halt Response :=
  match executeMessage env cfg evm txConfig ctx msg with
  | .error halt => (ctx, .error halt)
  | .ok executed =>
    let state := executed.result.state
    if commit then
      match StateDb.commit env state with
      | .error cause => (ctx, .error (.panic (.stateDb cause)))
      | .ok (state, some err) =>
        (state.ctx, failWith (Erc20.wrapError err "failed to commit stateDB"))
      | .ok (state, none) => (state.ctx, respond cfg msg internal executed state.logs)
    else (ctx, respond cfg msg internal executed state.logs)

/-! Gas facts. -/

section

variable {cfg : EvmConfig} {gasLimit floor leftoverGas availableRefund : UInt64} {bill : GasBill}

theorem gasToRefund_le (availableRefund gasConsumed refundQuotient : UInt64) :
    gasToRefund availableRefund gasConsumed refundQuotient ≤ gasConsumed := by
  have bound : gasConsumed / refundQuotient ≤ gasConsumed := by
    rw [UInt64.le_iff_toNat_le, UInt64.toNat_div]
    exact Nat.div_le_self _ _
  unfold gasToRefund
  dsimp only
  split
  · rename_i less
    exact UInt64.le_trans (UInt64.le_of_lt less) bound
  · exact bound

/-- What is billed and what is left over are the limit together. -/
theorem billGas_balance (billed : billGas cfg gasLimit floor leftoverGas availableRefund = .ok bill)
    (covered : floor ≤ gasLimit) : bill.leftoverGas.toNat + bill.temporaryGasUsed.toNat = gasLimit.toNat := by
  unfold billGas at billed
  split at billed
  · cases billed
  · rename_i within
    have within : leftoverGas ≤ gasLimit := UInt64.not_lt.mp within
    have refunded := gasToRefund_le availableRefund (gasLimit - leftoverGas) (refundQuotient cfg)
    dsimp only at billed
    generalize gasToRefund availableRefund (gasLimit - leftoverGas) (refundQuotient cfg) = refund
      at billed refunded
    have used := UInt64.toNat_sub_of_le _ _ within
    have temporary := UInt64.toNat_sub_of_le _ _ refunded
    have least := UInt64.toNat_sub_of_le _ _ covered
    rw [UInt64.le_iff_toNat_le] at within refunded covered
    have bound := gasLimit.toNat_lt
    have leftover : (leftoverGas + refund).toNat = leftoverGas.toNat + refund.toNat := by
      rw [UInt64.toNat_add]
      exact Nat.mod_eq_of_lt (by omega)
    have plain : (leftoverGas + refund).toNat + (gasLimit - leftoverGas - refund).toNat =
        gasLimit.toNat := by omega
    split at billed
    · cases billed
      dsimp only
      split
      · omega
      · exact plain
    · cases billed
      exact plain

/-- No message is billed for more than its limit. -/
theorem billGas_le (billed : billGas cfg gasLimit floor leftoverGas availableRefund = .ok bill)
    (covered : floor ≤ gasLimit) : bill.temporaryGasUsed ≤ gasLimit := by
  have balance := billGas_balance billed covered
  rw [UInt64.le_iff_toNat_le]
  omega

theorem minimumGasUsed_range (cfg : EvmConfig) (gasLimit : UInt64) :
    0 ≤ (minimumGasUsed cfg gasLimit).raw ∧ 0 ≤ (minimumGasUsed cfg gasLimit).truncateInt ∧
      (minimumGasUsed cfg gasLimit).truncateInt ≤ gasLimit.toNat := by
  have range : 0 ≤ (cfg.minGasMultiplier.getD Decimal.zero).raw ∧
      (cfg.minGasMultiplier.getD Decimal.zero).raw ≤ 10 ^ 18 := by
    cases held : cfg.minGasMultiplier with
    | none => exact ⟨le_rfl, by norm_num [Decimal.zero]⟩
    | some multiplier => exact cfg.multiplier_range multiplier held
  have product : minimumGasUsed cfg gasLimit =
      ⟨gasLimit.toNat * (cfg.minGasMultiplier.getD Decimal.zero).raw⟩ := Decimal.mul_ofInt _ _
  have nonneg : 0 ≤ (gasLimit.toNat : ℤ) * (cfg.minGasMultiplier.getD Decimal.zero).raw :=
    mul_nonneg (Int.natCast_nonneg _) range.1
  have share : (gasLimit.toNat : ℤ) * (cfg.minGasMultiplier.getD Decimal.zero).raw ≤
      gasLimit.toNat * 10 ^ 18 := mul_le_mul_of_nonneg_left range.2 (Int.natCast_nonneg _)
  have positive : (0 : ℤ) < Decimal.precision := by norm_num [Decimal.precision]
  rw [product, Decimal.truncateInt_nonneg nonneg]
  exact ⟨nonneg, Int.ediv_nonneg nonneg positive.le, Int.ediv_le_of_le_mul positive share⟩

/-- A module's call is charged what it is billed, a transaction at least the minimum. -/
theorem chargedGas_eq (cfg : EvmConfig) (small : gasLimit.toNat < 2 ^ 63) (internal : Bool)
    (balance : bill.leftoverGas.toNat + bill.temporaryGasUsed.toNat = gasLimit.toNat) :
    chargedGas cfg gasLimit internal bill = .ok (UInt64.ofNat (if internal then bill.temporaryGasUsed.toNat
      else max bill.temporaryGasUsed.toNat (minimumGasUsed cfg gasLimit).truncateInt.toNat)) := by
  obtain ⟨raw, least, most⟩ := minimumGasUsed_range cfg gasLimit
  have inside : ¬ ((minimumGasUsed cfg gasLimit).truncateInt < 0 ∨
      2 ^ 64 ≤ (minimumGasUsed cfg gasLimit).truncateInt) := by omega
  have leftover : ¬ gasLimit < bill.leftoverGas := by
    rw [UInt64.lt_iff_toNat_lt]
    omega
  have signed : bill.temporaryGasUsed.toBitVec.toInt = bill.temporaryGasUsed.toNat := by
    rw [BitVec.toInt_eq_toNat_of_lt]
    · rfl
    · change 2 * bill.temporaryGasUsed.toNat < 2 ^ 64
      omega
  unfold chargedGas
  dsimp only
  rw [if_neg inside, if_neg leftover, signed]
  cases internal with
  | true =>
    simp only [if_true, Decimal.truncateInt_ofInt]
    rw [if_neg (by omega), Int.toNat_natCast]
  | false =>
    simp only [Bool.false_eq_true, if_false]
    have larger : (max (bill.temporaryGasUsed.toNat : ℤ) (minimumGasUsed cfg gasLimit).truncateInt).toNat =
        max bill.temporaryGasUsed.toNat (minimumGasUsed cfg gasLimit).truncateInt.toNat := by omega
    rw [Decimal.truncateInt_max raw, if_neg (by omega), larger]

/-- Nobody is charged for more than the limit, also where the count of the gas used
does not fit a signed word. -/
theorem chargedGas_le {internal : Bool} {gasUsed : UInt64}
    (balance : bill.leftoverGas.toNat + bill.temporaryGasUsed.toNat = gasLimit.toNat)
    (charged : chargedGas cfg gasLimit internal bill = .ok gasUsed) : gasUsed ≤ gasLimit := by
  obtain ⟨raw, least, most⟩ := minimumGasUsed_range cfg gasLimit
  have signed : bill.temporaryGasUsed.toBitVec.toInt ≤ gasLimit.toNat := by
    have same : bill.temporaryGasUsed.toBitVec.toNat = bill.temporaryGasUsed.toNat := rfl
    rw [BitVec.toInt_eq_toNat_cond]
    split <;> omega
  unfold chargedGas at charged
  dsimp only at charged
  split at charged
  · cases charged
  split at charged
  · cases charged
  generalize selected : (if internal then Decimal.ofInt bill.temporaryGasUsed.toBitVec.toInt
    else (Decimal.ofInt bill.temporaryGasUsed.toBitVec.toInt).max (minimumGasUsed cfg gasLimit)) = used
    at charged
  have bound : used.truncateInt ≤ gasLimit.toNat := by
    rw [← selected]
    split
    · rw [Decimal.truncateInt_ofInt]
      exact signed
    · rw [Decimal.truncateInt_max raw]
      exact max_le signed most
  split at charged
  · cases charged
  · rename_i fits
    cases charged
    rw [UInt64.le_iff_toNat_le, UInt64.toNat_ofNat_of_lt' (by change _ < 2 ^ 64; omega)]
    omega

end

/-! What a transition has done. -/

variable {env : Env} {cfg : EvmConfig} {evm : Evm} {txConfig : TxConfig} {ctx after : Context}
  {commit internal : Bool} {msg : Message} {answer : Except Halt Response}

theorem requiredGas_ok {intrinsic floor : UInt64} (required : requiredGas cfg msg = .ok (intrinsic, floor)) :
    cfg.intrinsicGas msg.data msg.accessList msg.setCodeAuthorizations msg.recipient.isNone = .ok intrinsic ∧
      intrinsic ≤ msg.gasLimit ∧ floor ≤ msg.gasLimit ∧
        (cfg.isPrague = true → cfg.floorDataGas msg.data = .ok floor) := by
  unfold requiredGas at required
  split at required
  · cases required
  · rename_i gas counted
    split at required
    · cases required
    · rename_i covered
      have covered : gas ≤ msg.gasLimit := UInt64.not_lt.mp covered
      split at required
      · split at required
        · cases required
        · rename_i least computed
          split at required
          · cases required
          · rename_i enough
            cases required
            exact ⟨counted, covered, UInt64.not_lt.mp enough, fun _ => computed⟩
      · rename_i before
        cases required
        exact ⟨counted, covered, UInt64.le_iff_toNat_le.mpr (Nat.zero_le _), fun prague => absurd prague before⟩

theorem requiredGas_le {intrinsic floor : UInt64} (required : requiredGas cfg msg = .ok (intrinsic, floor)) :
    intrinsic ≤ msg.gasLimit ∧ floor ≤ msg.gasLimit := by
  obtain ⟨-, covered, enough, -⟩ := requiredGas_ok required
  exact ⟨covered, enough⟩

/-- Every way a message ends: it is not run to its bill, its state cannot be committed, or it is
answered. -/
theorem applyMessage_cases
    (applied : applyMessageWithConfig env cfg evm txConfig commit internal ctx msg = (after, answer)) :
    (∃ halt, executeMessage env cfg evm txConfig ctx msg = .error halt ∧ after = ctx ∧ answer = .error halt) ∨
      ∃ executed, executeMessage env cfg evm txConfig ctx msg = .ok executed ∧
        ((commit = true ∧ ∃ cause, StateDb.commit env executed.result.state = .error cause ∧ after = ctx ∧
            answer = .error (.panic (.stateDb cause))) ∨ (commit = true ∧ ∃ committed err,
            StateDb.commit env executed.result.state = .ok (committed, some err) ∧ after = committed.ctx ∧
            answer = failWith (Erc20.wrapError err "failed to commit stateDB")) ∨ (commit = true ∧ ∃ committed,
            StateDb.commit env executed.result.state = .ok (committed, none) ∧ after = committed.ctx ∧
            answer = respond cfg msg internal executed committed.logs) ∨ (commit = false ∧ after = ctx ∧
            answer = respond cfg msg internal executed executed.result.state.logs)) := by
  unfold applyMessageWithConfig at applied
  split at applied
  · rename_i halt ran
    cases applied
    exact Or.inl ⟨halt, ran, rfl, rfl⟩
  · rename_i executed ran
    refine Or.inr ⟨executed, ran, ?_⟩
    dsimp only at applied
    split at applied
    · rename_i commits
      split at applied
      · rename_i cause done
        cases applied
        exact Or.inl ⟨commits, cause, done, rfl, rfl⟩
      · rename_i committed err done
        cases applied
        exact Or.inr (Or.inl ⟨commits, committed, err, done, rfl, rfl⟩)
      · rename_i committed done
        cases applied
        exact Or.inr (Or.inr (Or.inl ⟨commits, committed, done, rfl, rfl⟩))
    · rename_i keeps
      cases applied
      exact Or.inr (Or.inr (Or.inr ⟨by simpa using keeps, rfl, rfl⟩))

end OgEvm.Vm
