import OgEvm.ApplyTransaction
import OgEvm.NonceFloor

/- No Ethereum transaction is executed twice: an accepted one leaves a sequence above its
nonce, whatever its execution comes to, and no delivery lowers a sequence again. -/
namespace OgEvm.Ante

open ExceptFacts Vm

section

variable {e : AnteEnv} {ctx after : Context} {tx : SdkTx} {v : Verified} {simulate : Bool}

theorem check_ok {good : Prop} [Decidable good] {code : AnteCode} {text : String} {u : Unit}
    (checked : check good code text = .ok u) : good := by
  unfold check at checked
  split at checked
  · rename_i held
    exact held
  · cases checked

theorem withBank_accounts (ctx : Context) (bank : BankState) :
    (ctx.withBank bank).store.accounts = ctx.store.accounts := rfl

theorem collectFees_accounts {fees : Coins} {sender : Address}
    (collected : collectFees e ctx fees sender = .ok after) : after.store.accounts = ctx.store.accounts := by
  unfold collectFees at collected
  dsimp only at collected
  split at collected
  · obtain ⟨_, -, collected⟩ := bind_ok collected
    obtain ⟨bank, -, rfl⟩ := map_ok collected
    exact withBank_accounts ctx bank
  · split at collected
    · cases collected
      rfl
    · obtain ⟨bank, -, rfl⟩ := map_ok collected
      exact withBank_accounts ctx bank

/-- The fee moves coins only. -/
theorem payFee_accounts (paid : payFee e ctx v = .ok after) : after.store.accounts = ctx.store.accounts := by
  obtain ⟨_, -, paid⟩ := bind_ok paid
  obtain ⟨fees, -, paid⟩ := bind_ok paid
  obtain ⟨collected, taken, rfl⟩ := map_ok paid
  change collected.store.accounts = ctx.store.accounts
  split at taken
  · cases taken
    rfl
  · unfold deductTxCosts at taken
    split at taken
    · cases taken
    · obtain ⟨_, -, taken⟩ := bind_ok taken
      exact collectFees_accounts taken

theorem verifyTx_ok (verified : verifyTx e tx simulate = .ok v) :
    onlyMessage tx = .ok v.msg ∧ e.recoverSender v.msg.raw = .ok v.sender ∧ baseFeeOf e = .ok v.baseFee := by
  obtain ⟨feeInfo, -, verified⟩ := bind_ok verified
  obtain ⟨baseFee, read, verified⟩ := bind_ok verified
  obtain ⟨msg, only, verified⟩ := bind_ok verified
  obtain ⟨_, -, verified⟩ := bind_ok verified
  obtain ⟨_, -, verified⟩ := bind_ok verified
  obtain ⟨_, -, verified⟩ := bind_ok verified
  obtain ⟨_, -, verified⟩ := bind_ok verified
  obtain ⟨sender, signed, final⟩ := bind_ok verified
  cases final
  refine ⟨only, ?_, read⟩
  unfold signatureVerification at signed
  split at signed
  · cases signed
  · rename_i recovered
    split at signed
    · cases signed
      exact recovered
    · cases signed

/-- The sequence is the nonce of the transaction, and then one more. -/
theorem countNonce_ok (counted : countNonce e ctx v = .ok after) :
    ctx.store.accounts v.sender.toList = some ⟨v.msg.raw.nonce⟩ ∧ v.msg.raw.nonce.toNat + 1 < 2 ^ 64 ∧
      after.store.accounts = Function.update ctx.store.accounts v.sender.toList (some ⟨v.msg.raw.nonce + 1⟩) := by
  unfold countNonce at counted
  split at counted
  · cases counted
  · rename_i account held
    obtain ⟨raised, increment, rfl⟩ := map_ok counted
    obtain ⟨_, gap, increment⟩ := bind_ok increment
    obtain ⟨_, low, increment⟩ := bind_ok increment
    obtain ⟨_, last, final⟩ := bind_ok increment
    have equal : account.sequence = v.msg.raw.nonce := by
      have above := UInt64.not_lt.mp (check_ok gap)
      have below := UInt64.not_lt.mp (check_ok low)
      exact UInt64.le_antisymm below above
    have room : account.sequence.toNat ≠ 2 ^ 64 - 1 := by
      intro full
      exact check_ok last (UInt64.toNat_inj.mp full)
    have bound := account.sequence.toNat_lt
    cases final
    rw [← equal]
    refine ⟨held, by omega, rfl⟩

/-- What an accepted transaction has passed, and what is left of its sender. -/
theorem anteHandle_ok (accepted : anteHandle e ctx tx simulate = (after, .ok ())) :
    ∃ v found paid, verifyTx e tx simulate = .ok v ∧ verifyAccountBalance e ctx v = (found, .ok ()) ∧
      payFee e found v = .ok paid ∧ countNonce e paid v = .ok after := by
  unfold anteHandle at accepted
  split at accepted
  · cases accepted
  · rename_i v verified
    split at accepted
    · cases accepted
    · rename_i found balance
      unfold payAndCount at accepted
      split at accepted
      · cases accepted
      · rename_i paid charged
        split at accepted
        · cases accepted
        · rename_i counted raised
          obtain ⟨rfl, -⟩ := Prod.mk.inj accepted
          exact ⟨v, found, paid, verified, balance, charged, raised⟩

theorem verifyAccountBalance_accounts {found : Context} {result : Except AnteFault Unit}
    (checked : verifyAccountBalance e ctx v = (found, result)) : found.store.accounts = ctx.store.accounts ∨
      (ctx.store.accounts v.sender.toList = none ∧
        found.store.accounts = Function.update ctx.store.accounts v.sender.toList (some ⟨0⟩)) := by
  unfold verifyAccountBalance at checked
  split at checked
  · rename_i absent
    cases checked
    exact Or.inr ⟨Option.map_eq_none_iff.mp absent, rfl⟩
  · cases checked
    exact Or.inl rfl

/-- The accounts after an accepted transaction: its sender's sequence went from the nonce
to the next number, or from nothing to one. -/
theorem anteHandle_accounts (accepted : anteHandle e ctx tx simulate = (after, .ok ())) :
    ∃ v, verifyTx e tx simulate = .ok v ∧ v.msg.raw.nonce.toNat + 1 < 2 ^ 64 ∧
      (∀ account, ctx.store.accounts v.sender.toList = some account → account.sequence = v.msg.raw.nonce) ∧
      after.store.accounts = Function.update ctx.store.accounts v.sender.toList (some ⟨v.msg.raw.nonce + 1⟩) := by
  obtain ⟨v, found, paid, verified, balance, charged, raised⟩ := anteHandle_ok accepted
  obtain ⟨held, room, updated⟩ := countNonce_ok raised
  rw [payFee_accounts charged] at held updated
  refine ⟨v, verified, room, ?_, ?_⟩
  · intro account there
    rcases verifyAccountBalance_accounts balance with same | ⟨absent, -⟩
    · rw [same, there] at held
      rw [Option.some.inj held]
    · rw [absent] at there
      cases there
  · rcases verifyAccountBalance_accounts balance with same | ⟨-, made⟩
    · rw [updated, same]
    · rw [updated, made, Function.update_idem]

theorem anteHandle_sequences (accepted : anteHandle e ctx tx simulate = (after, .ok ())) :
    SequencesKept ctx.store after.store := by
  obtain ⟨v, -, room, equal, updated⟩ := anteHandle_accounts accepted
  intro addr nonce ⟨account, held, least⟩
  by_cases here : addr = v.sender
  · subst here
    refine ⟨⟨v.msg.raw.nonce + 1⟩, by rw [updated, Function.update_self], ?_⟩
    rw [equal account held] at least
    have next : (v.msg.raw.nonce + 1).toNat = v.msg.raw.nonce.toNat + 1 := by
      rw [UInt64.toNat_add]
      exact Nat.mod_eq_of_lt room
    rw [UInt64.le_iff_toNat_le] at least ⊢
    rw [next]
    omega
  · refine ⟨account, ?_, least⟩
    rw [updated, Function.update_of_ne (toList_ne here)]
    exact held

end

/-- What is taken of geth, of the hooks and of the signatures. -/
structure Lawful (signs : Address → Prop) (e : TxEnv) : Prop where
  geth : Geth e.ante.env signs e.evm
  hooks : ∀ hooks ∈ e.hooks, ∀ ctx sender msg receipt kept changed,
    hooks ctx sender msg receipt = .ok (kept, changed) → SequencesKept ctx.store kept.store
  signer : ∀ tx sender, e.ante.recoverSender tx = .ok sender → signs sender

section

variable {signs : Address → Prop} {e : TxEnv} {ctx after : Context} {addr : Address} {nonce : UInt64}

/-- The refund moves coins only. -/
theorem refundGas_store {a : AnteEnv} {msg : Message} {gas : UInt64}
    (refunded : refundGas a ctx msg gas = .ok after) : after.store = { ctx.store with bank := after.store.bank } := by
  unfold refundGas at refunded
  dsimp only at refunded
  split at refunded
  · cases refunded
  split at refunded
  · cases refunded
    rfl
  split at refunded
  · obtain ⟨bank, -, rfl⟩ := map_ok refunded
    rfl
  split at refunded
  · cases refunded
    rfl
  · obtain ⟨bank, -, rfl⟩ := map_ok refunded
    rfl

theorem finishTx_accounts {msg : Message} {res : Response} {outcome : Except Halt Response}
    (finished : finishTx e ctx msg res = (after, outcome)) : after.store.accounts = ctx.store.accounts := by
  unfold finishTx at finished
  split at finished
  · cases finished
    rfl
  · rename_i refunded paid
    split at finished <;>
    · cases finished
      rw [refundGas_store paid]

/-- Of the branch and of the context before it, what is kept has the sequences of one. -/
theorem settleBranch_sequence (lawful : Lawful signs e) (tx : Transaction) (msg : Message)
    (res : Response) {branch : Context} (before : SequenceAtLeast ctx.store addr nonce)
    (ran : SequenceAtLeast branch.store addr nonce) :
    SequenceAtLeast (settleBranch e ctx branch tx msg res).1.store addr nonce := by
  have chosen : SequenceAtLeast (if res.failed then ctx else branch).store addr nonce := by
    split
    · exact before
    · exact ran
  unfold settleBranch
  split
  · exact chosen
  · rename_i hooks set
    split
    · exact before
    · rename_i kept receipt processed
      exact lawful.hooks hooks set _ _ _ _ _ _ processed addr nonce chosen

/-- Execution lowers no sequence, once the ante handler has counted the transaction. -/
theorem applyTransaction_sequence (lawful : Lawful signs e) {tx : Transaction}
    {outcome : Except Halt Response} (positive : 0 < nonce) (signer : signs addr)
    (counted : ∀ sender, e.ante.recoverSender tx = .ok sender → addr = sender → nonce ≤ tx.nonce + 1)
    (stored : SequenceAtLeast ctx.store addr nonce) (applied : applyTransaction e ctx tx = (after, outcome)) :
    SequenceAtLeast after.store addr nonce := by
  unfold applyTransaction at applied
  split at applied
  · cases applied
    exact stored
  split at applied
  · cases applied
    exact stored
  rename_i msg built
  split at applied
  · cases applied
    exact stored
  rename_i branch res ran
  have own : addr = msg.sender → nonce ≤ msg.nonce + 1 := by
    unfold coreMessage at built
    split at built
    · cases built
    · rename_i sender recovered
      cases built
      exact counted sender recovered
  have kept := settleBranch_sequence lawful tx msg res stored
    (applyMessage_sequence lawful.geth positive signer stored own ran)
  obtain ⟨account, held, least⟩ := kept
  exact ⟨account, by rw [finishTx_accounts applied]; exact held, least⟩

end

/-- A transaction in a block, with the keeper as it is at that point. -/
structure Delivery where
  keeper : TxEnv
  tx : SdkTx

def Delivery.run (d : Delivery) (ctx : Context) : Context := deliverTx d.keeper ctx d.tx

def deliverAll (ctx : Context) (deliveries : List Delivery) : Context :=
  deliveries.foldl (fun ctx d => d.run ctx) ctx

/-- The ante handler accepts the transaction of this sender with this nonce. -/
def Delivery.Accepts (d : Delivery) (ctx : Context) (sender : Address) (nonce : UInt64) : Prop :=
  (anteHandle d.keeper.ante ctx d.tx false).2 = .ok () ∧
    ∃ msg, onlyMessage d.tx = .ok msg ∧ msg.raw.nonce = nonce ∧
      d.keeper.ante.recoverSender msg.raw = .ok sender

section

variable {signs : Address → Prop} {d : Delivery} {ctx : Context} {sender : Address} {nonce : UInt64}

/-- After acceptance the sequence is one more than the nonce, and it was no other than it. -/
theorem Delivery.Accepts.counted (accepts : d.Accepts ctx sender nonce) : nonce.toNat + 1 < 2 ^ 64 ∧
      (∀ account, ctx.store.accounts sender.toList = some account → account.sequence = nonce) ∧
      SequenceAtLeast (anteHandle d.keeper.ante ctx d.tx false).1.store sender (nonce + 1) := by
  obtain ⟨accepted, msg, only, rfl, recovered⟩ := accepts
  obtain ⟨v, verified, room, equal, updated⟩ := anteHandle_accounts (Prod.ext rfl accepted)
  obtain ⟨same, signed, -⟩ := verifyTx_ok verified
  obtain rfl : msg = v.msg := Except.ok.inj (only.symm.trans same)
  obtain rfl : sender = v.sender := Except.ok.inj (recovered.symm.trans signed)
  exact ⟨room, equal, _, by rw [updated, Function.update_self], UInt64.le_refl _⟩

/-- After its acceptance the execution of a transaction, failed or not, lowers nothing. -/
theorem Delivery.run_accepted {counted : Context} (lawful : Lawful signs d.keeper) (positive : 0 < nonce)
    (signer : signs sender) (accepted : anteHandle d.keeper.ante ctx d.tx false = (counted, .ok ()))
    (raised : SequenceAtLeast counted.store sender nonce) : SequenceAtLeast (d.run ctx).store sender nonce := by
  unfold Delivery.run deliverTx
  split
  · rename_i refused
    cases accepted.symm.trans refused
  · rename_i counted' accepted'
    obtain rfl : counted' = counted := congrArg Prod.fst (accepted'.symm.trans accepted)
    split
    · exact raised
    · rename_i msg only
      split
      · exact raised
      · rename_i after res applied
        refine applyTransaction_sequence lawful positive signer ?_ raised applied
        rintro other recovered rfl
        obtain ⟨v, verified, room, -, updated⟩ := anteHandle_accounts accepted
        obtain ⟨same, signed, -⟩ := verifyTx_ok verified
        obtain rfl : msg = v.msg := Except.ok.inj (only.symm.trans same)
        obtain rfl : sender = v.sender := Except.ok.inj (recovered.symm.trans signed)
        obtain ⟨account, held, least⟩ := raised
        rw [updated, Function.update_self] at held
        rw [← Option.some.inj held] at least
        exact least

/-- A delivery of any transaction lowers no sequence of an account that signs. -/
theorem Delivery.run_sequence (lawful : Lawful signs d.keeper) (positive : 0 < nonce)
    (signer : signs sender) (stored : SequenceAtLeast ctx.store sender nonce) :
    SequenceAtLeast (d.run ctx).store sender nonce := by
  cases outcome : anteHandle d.keeper.ante ctx d.tx false with
  | mk counted result =>
    cases result with
    | error fault =>
      have unchanged : d.run ctx = ctx := by
        unfold Delivery.run deliverTx
        rw [outcome]
      rw [unchanged]
      exact stored
    | ok value =>
      exact Delivery.run_accepted lawful positive signer outcome
        (anteHandle_sequences outcome sender nonce stored)

theorem deliverAll_sequence {deliveries : List Delivery}
    (lawful : ∀ d ∈ deliveries, Lawful signs d.keeper) (positive : 0 < nonce) (signer : signs sender)
    (stored : SequenceAtLeast ctx.store sender nonce) :
    SequenceAtLeast (deliverAll ctx deliveries).store sender nonce := by
  induction deliveries generalizing ctx with
  | nil => exact stored
  | cons d rest ih =>
    apply ih (fun d' member => lawful d' (List.mem_cons_of_mem _ member))
    exact Delivery.run_sequence (lawful d List.mem_cons_self) positive signer stored

/-- In every run of deliveries an accepted transaction leaves its sender's sequence above
its nonce, for good; no delivery is accepted with the same sender and nonce again. -/
theorem accepted_once {start : Context} {before after : List Delivery}
    (lawful : ∀ d' ∈ d :: after, Lawful signs d'.keeper)
    (accepts : d.Accepts (deliverAll start before) sender nonce) :
    nonce.toNat + 1 < 2 ^ 64 ∧
      SequenceAtLeast (deliverAll start (before ++ d :: after)).store sender (nonce + 1) ∧
      ∀ again : Delivery, ¬ again.Accepts (deliverAll start (before ++ d :: after)) sender nonce := by
  obtain ⟨room, -, counted⟩ := accepts.counted
  have next : (nonce + 1).toNat = nonce.toNat + 1 := by
    rw [UInt64.toNat_add]
    exact Nat.mod_eq_of_lt room
  have positive : 0 < nonce + 1 := by
    rw [UInt64.lt_iff_toNat_lt, next]
    exact Nat.succ_pos _
  have signer : signs sender := by
    obtain ⟨-, msg, -, -, recovered⟩ := accepts
    exact (lawful d List.mem_cons_self).signer _ _ recovered
  have executed : SequenceAtLeast (d.run (deliverAll start before)).store sender (nonce + 1) :=
    Delivery.run_accepted (lawful d List.mem_cons_self) positive signer
      (Prod.ext rfl accepts.1) counted
  have last : SequenceAtLeast (deliverAll start (before ++ d :: after)).store sender (nonce + 1) := by
    have split : deliverAll start (before ++ d :: after) =
        deliverAll (d.run (deliverAll start before)) after := by
      unfold deliverAll
      rw [List.foldl_append, List.foldl_cons]
    rw [split]
    exact deliverAll_sequence (fun d' member => lawful d' (List.mem_cons_of_mem _ member))
      positive signer executed
  refine ⟨room, last, ?_⟩
  intro again repeated
  obtain ⟨account, held, least⟩ := last
  obtain ⟨-, equal, -⟩ := repeated.counted
  rw [equal account held, UInt64.le_iff_toNat_le, next] at least
  omega

end

/-! A call with a tip, on a six-decimals chain. -/

def marketParams : FeeMarket.Params where
  noBaseFee := false
  baseFeeChangeDenominator := 8
  elasticityMultiplier := 2
  enableHeight := 0
  baseFee := some ⟨10 ^ 18⟩
  minGasPrice := some ⟨0⟩
  minGasMultiplier := some ⟨5 * 10 ^ 17⟩

def marketBank : Config :=
  { Precisebank.sixDecimals with
    moduleAddress := fun name =>
      if name = precisebankModule then some [1] else if name = feeCollectorName then some [3] else none
    reserve_registered := rfl }

/-- Every transaction is signed by the address 7, and the EVM returns 10,000 gas. -/
def marketKeeper : TxEnv where
  ante :=
    { env := ⟨marketBank, bytesToHash⟩
      cfg := blockConfig
      evmParams := ⟨[], [], [], ⟨⟨.permissionless, []⟩, ⟨.permissionless, []⟩⟩, 8192⟩
      feemarketParams := marketParams
      minGasPrice := ⟨0⟩
      maxGasWanted := 0
      blockGasLimit := 30000000
      isCheckTx := false
      isReCheckTx := false
      virtualFeeCollection := none
      validateTransaction := fun _ _ => .ok ()
      recoverSender := fun _ => .ok (bytesToAddress [7]) }
  evmConfig := .ok blockConfig
  evm := burner 10000 []
  txConfig := ⟨zeroHash, 0⟩
  hooks := none
  createAddress _ _ := bytesToAddress [8]
  transientGasUsed := 0

def marketTx : Transaction where
  txType := .dynamicFee
  nonce := 3
  gas := 60000
  gasTipCap := 5 * 10 ^ 11
  gasFeeCap := 2 * 10 ^ 12
  recipient := some (bytesToAddress [9])
  value := 0
  data := []
  accessList := []
  setCodeAuthorizations := []
  hash := zeroHash
  single_price := by decide

def marketEnvelope : SdkTx where
  validateBasic := .ok ()
  memo := ""
  timeoutHeight := 0
  nonCriticalExtensionOptions := 0
  extensionOptions := 1
  signerInfos := 0
  fee := some ⟨[⟨"atest", 60000 * (2 * 10 ^ 12)⟩], 60000, "", ""⟩
  hasTip := false
  signatures := 0
  msgs := [.ethereum ⟨(bytesToAddress [7]).toList, marketTx⟩]

/-- The sender has sent three transactions and holds one million of the integer coin. -/
def marketContext : Context where
  store := { StateDb.emptyStore with
    accounts := Function.update (fun _ => none) (bytesToAddress [7]).toList (some ⟨3⟩)
    bank := Bank.addBalance Precisebank.emptyBank (bytesToAddress [7]).toList "utest" 1000000 }
  events := []

theorem marketKeeper_lawful : Lawful (· = bytesToAddress [7]) marketKeeper where
  geth :=
    { call := by
        intro s _ _ _ _ _ result called
        cases called
        exact EvmRun.done s
      create := by
        intro s _ _ _ _ result created
        cases created
        exact ⟨s, ⟨[], rfl⟩, Or.inl rfl⟩ }
  hooks := by
    intro hooks set
    cases set
  signer := by
    intro tx sender recovered
    cases recovered
    rfl

theorem accepted_once_market :
    SequenceAtLeast (deliverAll marketContext [⟨marketKeeper, marketEnvelope⟩]).store (bytesToAddress [7]) 4 ∧
      ∀ again : Delivery, ¬ again.Accepts (deliverAll marketContext [⟨marketKeeper, marketEnvelope⟩])
        (bytesToAddress [7]) 3 := by
  have accepts : Delivery.Accepts ⟨marketKeeper, marketEnvelope⟩ (deliverAll marketContext [])
      (bytesToAddress [7]) 3 :=
    ⟨toOption_some (by decide +kernel), _, rfl, rfl, rfl⟩
  have lawful : ∀ d ∈ [(⟨marketKeeper, marketEnvelope⟩ : Delivery)],
      Lawful (· = bytesToAddress [7]) d.keeper := by
    intro d member
    rw [List.mem_singleton.mp member]
    exact marketKeeper_lawful
  exact (accepted_once lawful accepts).2

end OgEvm.Ante
