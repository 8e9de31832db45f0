import OgEvm.TxReplay

/- `Remove` of the pool. It asks the ante handler about the transaction on the context that
`NotifyNewBlock` stored, and what the handler writes stays there until the next block. -/
namespace OgEvm.Mempool

open ExceptFacts Vm Ante Decimals

/-- A context of the application and its height. -/
structure LatestContext where
  height : ℤ
  ctx : Context

structure Blockchain where
  /-- The application's answer for the latest height. -/
  getCtxCallback : Except String LatestContext
  /-- Not set before the first block. -/
  latestCtx : Option LatestContext

namespace Blockchain

def newLatestContext (b : Blockchain) : Except String LatestContext :=
  b.getCtxCallback.mapError ("failed to get latest context: " ++ ·)

def getLatestContext (b : Blockchain) : Except String LatestContext :=
  match b.latestCtx with
  | some latest => .ok latest
  | none => b.newLatestContext

/-- `NotifyNewBlock`, without the header for the pool. -/
def notifyNewBlock (b : Blockchain) : Blockchain := { b with latestCtx := b.newLatestContext.toOption }

/-- `latestCtx.BlockHeight()`. -/
def blockHeight (b : Blockchain) : ℤ := (b.latestCtx.map LatestContext.height).getD 0

/-- The stored context after a write through it. A context that was only made for the call is
dropped with its writes. -/
def written (b : Blockchain) (ctx : Context) : Blockchain :=
  { b with latestCtx := b.latestCtx.map fun latest => { latest with ctx := ctx } }

def stateAt (env : Env) (b : Blockchain) (hash : Hash) : Except String (Option StateDb) :=
  if hash = zeroHash ∨ hash = env.emptyCodeHash then .ok none
  else
    match b.getLatestContext with
    | .error reason => .error ("failed to get latest context for StateAt: " ++ reason)
    | .ok latest => .ok (some (StateDb.new latest.ctx ⟨zeroHash, 0⟩))

end Blockchain

inductive MempoolError where
  | noMessages
  | expectedOneMessage (count : ℕ)
  | notEvmTransaction
  | cosmosPool (text : String)
deriving DecidableEq, Repr

inductive RemoveFault where
  | error (err : MempoolError)
  | panic (cause : AntePanic)
deriving DecidableEq, Repr

/-- The two pools with their removals. -/
structure Pools (EvmPool CosmosPool : Type) where
  removeTx : EvmPool → Hash → EvmPool
  remove : CosmosPool → SdkTx → Except String CosmosPool

structure ExperimentalEvmMempool (EvmPool CosmosPool : Type) where
  blockchain : Blockchain
  anteHandler : Option AnteEnv
  evmPool : EvmPool
  cosmosPool : CosmosPool

def getEvmMessage (tx : SdkTx) : Except MempoolError MsgEthereumTx :=
  match tx.msgs with
  | [] => .error .noMessages
  | [.ethereum msg] => .ok msg
  | [.other _] => .error .notEvmTransaction
  | msgs => .error (.expectedOneMessage msgs.length)

/-- The errors that `shouldRemoveFromEVMPool` asks for by name. -/
def isKept (code : AnteCode) : Bool := code = .nonceGap || code = .invalidSequence || code = .outOfGas

section

variable {EvmPool CosmosPool : Type} (pools : Pools EvmPool CosmosPool)
  (m : ExperimentalEvmMempool EvmPool CosmosPool)

def shouldRemoveFromEvmPool (tx : SdkTx) : Blockchain × Except AntePanic Bool :=
  match m.anteHandler with
  | none => (m.blockchain, .ok false)
  | some ante =>
    match m.blockchain.getLatestContext with
    | .error _ => (m.blockchain, .ok false)
    | .ok latest =>
      let (ctx, checked) := anteHandle ante latest.ctx tx true
      (m.blockchain.written ctx, match checked with
        | .ok () => .ok false
        | .error (.error err) => .ok (!isKept err.code)
        | .error (.panic cause) => .error cause)

def removeEvm (tx : SdkTx) (msg : MsgEthereumTx) :
    ExperimentalEvmMempool EvmPool CosmosPool × Except RemoveFault Unit :=
  match shouldRemoveFromEvmPool m tx with
  | (blockchain, .error cause) => ({ m with blockchain := blockchain }, .error (.panic cause))
  | (blockchain, .ok false) => ({ m with blockchain := blockchain }, .ok ())
  | (blockchain, .ok true) =>
    ({ m with blockchain := blockchain, evmPool := pools.removeTx m.evmPool msg.raw.hash }, .ok ())

def remove (tx : SdkTx) : ExperimentalEvmMempool EvmPool CosmosPool × Except RemoveFault Unit :=
  if m.blockchain.blockHeight = 0 then (m, .ok ())
  else
    match getEvmMessage tx with
    | .ok msg => removeEvm pools m tx msg
    | .error .noMessages => (m, .error (.error .noMessages))
    | .error _ =>
      match pools.remove m.cosmosPool tx with
      | .error text => (m, .error (.error (.cosmosPool text)))
      | .ok rest => ({ m with cosmosPool := rest }, .ok ())

/-- The pool after removals, whatever each of them returned. -/
def removeAll (txs : List SdkTx) : ExperimentalEvmMempool EvmPool CosmosPool :=
  txs.foldl (fun m tx => (remove pools m tx).1) m

end

/-! What the ante handler finds before it takes the fee. -/

/-- The checks between the signature and the fee, which read only. -/
def affordable (e : AnteEnv) (store : VmStore) (v : Verified) (account : Account) :
    Except AnteFault Coins := do
  checkSenderCode e.env store v.sender account
  checkSenderBalance account.balance.toNat v.msg.raw
  canTransfer e store v
  verifyFee e v.msg.raw v.baseFee

/-- A transaction of an existing account that the checks before the fee refuse, or that pays
no fee and has a nonce gap. -/
def Harmless (e : AnteEnv) (store : VmStore) (tx : SdkTx) : Prop :=
  ∀ v, verifyTx e tx true = .ok v →
    ∃ account, Keeper.getAccount e.env store v.sender = some account ∧
      ∀ fees, affordable e store v account = .ok fees →
        isZero fees = true ∧ account.nonce < v.msg.raw.nonce

/-- `ErrNonceLow` is an error of the mempool: neither the envelope's own check nor
go-ethereum's validation returns it. -/
structure Foreign (e : AnteEnv) (tx : SdkTx) : Prop where
  basic : ∀ err, tx.validateBasic = .error err → err.code ≠ .nonceLow
  validation : ∀ raw baseFee err, e.validateTransaction raw baseFee = .error err → err.code ≠ .nonceLow

section

variable {e : AnteEnv} {ctx : Context} {tx : SdkTx} {v : Verified} {account : Account}

theorem anteHandle_refused {fault : AnteFault} (verified : verifyTx e tx true = .ok v)
    (there : Keeper.getAccount e.env ctx.store v.sender = some account)
    (refused : affordable e ctx.store v account = .error fault) : anteHandle e ctx tx true = (ctx, .error fault) := by
  unfold affordable at refused
  unfold anteHandle verifyAccountBalance
  simp only [verified, there]
  cases coded : checkSenderCode e.env ctx.store v.sender account with
  | error other =>
    rw [coded] at refused
    cases refused
    rfl
  | ok =>
    cases balanced : checkSenderBalance account.balance.toNat v.msg.raw with
    | error other =>
      rw [coded, balanced] at refused
      cases refused
      rfl
    | ok =>
      rw [coded, balanced] at refused
      have unpaid : payFee e ctx v = .error fault := by
        unfold payFee
        cases transferable : canTransfer e ctx.store v with
        | error other =>
          rw [transferable] at refused
          cases refused
          rfl
        | ok =>
          rw [transferable] at refused
          change verifyFee e v.msg.raw v.baseFee = .error fault at refused
          change (verifyFee e v.msg.raw v.baseFee >>= _) = _
          rw [refused]
          rfl
      change payAndCount e ctx v = _
      unfold payAndCount
      rw [unpaid]

theorem incrementNonce_gap (ctx : Context) (sender : Address) {stored : AuthAccount} {txNonce : UInt64}
    (gap : stored.sequence < txNonce) : incrementNonce ctx sender stored txNonce = fail .nonceGap ("tx nonce: " ++
      toString txNonce.toNat ++ ", account accountNonce: " ++ toString stored.sequence.toNat) := by
  unfold incrementNonce check
  rw [if_neg (not_not_intro gap)]
  rfl

theorem anteHandle_gap {fees : Coins} (verified : verifyTx e tx true = .ok v)
    (there : Keeper.getAccount e.env ctx.store v.sender = some account)
    (paid : affordable e ctx.store v account = .ok fees) (free : isZero fees = true)
    (gap : account.nonce < v.msg.raw.nonce) :
    anteHandle e ctx tx true = (emit ctx "tx", fail .nonceGap ("tx nonce: " ++
      toString v.msg.raw.nonce.toNat ++ ", account accountNonce: " ++ toString account.nonce.toNat)) := by
  obtain ⟨_, coded, paid⟩ := bind_ok paid
  obtain ⟨_, balanced, paid⟩ := bind_ok paid
  obtain ⟨_, transferable, paid⟩ := bind_ok paid
  have fee : payFee e ctx v = .ok (emit ctx "tx") := by
    unfold payFee consumeFeesAndEmitEvent
    rw [transferable]
    change (verifyFee e v.msg.raw v.baseFee >>= _) = _
    rw [paid]
    change Except.map _ (if isZero fees = true then _ else _) = _
    rw [if_pos free]
    rfl
  obtain ⟨stored, held, rfl⟩ := Option.map_eq_some_iff.mp there
  have counted : countNonce e (emit ctx "tx") v = fail .nonceGap ("tx nonce: " ++
      toString v.msg.raw.nonce.toNat ++ ", account accountNonce: " ++ toString stored.sequence.toNat) := by
    unfold countNonce
    have unchanged : (emit ctx "tx").store.accounts v.sender.toList = some stored := held
    simp only [unchanged, incrementNonce_gap _ _ gap]
    rfl
  unfold anteHandle verifyAccountBalance payAndCount
  simp only [verified, there]
  rw [bind_of_ok coded, balanced]
  simp only [fee, counted]
  rfl

end

/-! Only the increment of the nonce finds it too low. -/

/-- No error that a computation returns is `ErrNonceLow`. -/
def NeverLow {α : Type} (run : Except AnteFault α) : Prop :=
  ∀ err, run = .error (.error err) → err.code ≠ .nonceLow

section

variable {α β : Type} {run : Except AnteFault α}

theorem neverLow_ok (value : α) : NeverLow (.ok value) := by
  intro err failed
  cases failed

theorem neverLow_panic (cause : AntePanic) : NeverLow (.error (.panic cause) : Except AnteFault α) := by
  intro err failed
  cases failed

theorem neverLow_fail {code : AnteCode} {text : String} (other : code ≠ .nonceLow) :
    NeverLow (fail code text : Except AnteFault α) := by
  intro err failed
  cases failed
  exact other

theorem neverLow_check {good : Prop} [Decidable good] {code : AnteCode} {text : String}
    (other : code ≠ .nonceLow) : NeverLow (check good code text) := by
  unfold check
  split
  · exact neverLow_ok ()
  · exact neverLow_fail other

theorem NeverLow.bind {next : α → Except AnteFault β} (first : NeverLow run)
    (rest : ∀ value, NeverLow (next value)) : NeverLow (run >>= next) := by
  cases run with
  | error fault =>
    intro err failed
    cases failed
    exact first err rfl
  | ok value => exact rest value

theorem NeverLow.map (first : NeverLow run) (convert : α → β) : NeverLow (run.map convert) := by
  cases run with
  | error fault =>
    intro err failed
    cases failed
    exact first err rfl
  | ok value => exact neverLow_ok _

theorem neverLow_mapError {ε : Type} {run : Except ε α} {convert : ε → AnteFault}
    (other : ∀ reason err, run = .error reason → convert reason = .error err → err.code ≠ .nonceLow) :
    NeverLow (run.mapError convert) := by
  cases run with
  | error reason =>
    intro err failed
    exact other reason err rfl (Except.error.inj failed)
  | ok value => exact neverLow_ok value

end

section

variable {e : AnteEnv} {tx : SdkTx}

theorem validateTx_neverLow (foreign : Foreign e tx) : NeverLow (validateTx tx) := by
  have basic : NeverLow (validateBasic tx) := by
    unfold validateBasic
    split
    · exact neverLow_ok ()
    · rename_i err failed
      exact neverLow_check (foreign.basic err failed)
  unfold validateTx
  refine basic.bind fun _ => (neverLow_check (by decide)).bind fun _ =>
    (neverLow_check (by decide)).bind fun _ => (neverLow_check (by decide)).bind fun _ => ?_
  split
  · exact neverLow_fail (by decide)
  · exact (neverLow_check (by decide)).bind fun _ => (neverLow_check (by decide)).bind fun _ =>
      (neverLow_check (by decide)).bind fun _ => neverLow_ok _

theorem onlyMessage_neverLow (tx : SdkTx) : NeverLow (onlyMessage tx) := by
  unfold onlyMessage
  split
  · unfold unpackEthMsg
    split
    · exact neverLow_ok _
    · exact neverLow_fail (by decide)
  · exact neverLow_fail (by decide)

theorem checkInclusionFee_neverLow (e : AnteEnv) (msg : MsgEthereumTx) (simulate : Bool) :
    NeverLow (checkInclusionFee e msg simulate) := by
  unfold checkInclusionFee checkMempoolFee
  split
  · split
    · exact neverLow_ok ()
    · exact neverLow_check (by decide)
  · exact neverLow_ok ()

theorem checkGlobalFee_neverLow (fee : Decimal) (price : Option Decimal) (gasLimit : Decimal) :
    NeverLow (checkGlobalFee fee price gasLimit) := by
  unfold checkGlobalFee
  split
  · exact neverLow_panic _
  · split
    · exact neverLow_ok ()
    · exact neverLow_check (by decide)

theorem signatureVerification_neverLow (e : AnteEnv) (msg : MsgEthereumTx) :
    NeverLow (signatureVerification e msg) := by
  unfold signatureVerification
  split
  · exact neverLow_fail (by decide)
  · split
    · exact neverLow_ok _
    · exact neverLow_fail (by decide)

theorem verifyTx_neverLow (foreign : Foreign e tx) (simulate : Bool) : NeverLow (verifyTx e tx simulate) := by
  have feeInfo : NeverLow (feeInfoOf e tx) := by
    unfold feeInfoOf
    split
    · exact neverLow_ok none
    · exact (validateTx_neverLow foreign).map some
  have baseFee : NeverLow (baseFeeOf e) := by
    refine neverLow_mapError ?_
    intro reason err failed panicked
    cases panicked
  unfold verifyTx
  refine feeInfo.bind fun _ => baseFee.bind fun fee => (onlyMessage_neverLow tx).bind fun msg => ?_
  refine NeverLow.bind (neverLow_mapError ?_) fun _ => ?_
  · intro reason err failed same
    cases same
    exact foreign.validation msg.raw fee _ failed
  refine (checkInclusionFee_neverLow e msg simulate).bind fun _ =>
    (checkGlobalFee_neverLow _ _ _).bind fun _ => ?_
  have permitted : NeverLow (checkDisabledCreateCall msg.raw e.evmParams.accessControl) :=
    (neverLow_check (by decide)).bind fun _ => neverLow_check (by decide)
  exact permitted.bind fun _ => (signatureVerification_neverLow e msg).bind fun _ => neverLow_ok _

theorem affordable_neverLow (e : AnteEnv) (store : VmStore) (v : Verified) (account : Account) :
    NeverLow (affordable e store v account) := by
  have coded : NeverLow (checkSenderCode e.env store v.sender account) := by
    unfold checkSenderCode
    split
    · exact neverLow_ok ()
    · exact neverLow_check (by decide)
  have balanced : NeverLow (checkSenderBalance account.balance.toNat v.msg.raw) :=
    (neverLow_check (by decide)).bind fun _ => neverLow_check (by decide)
  have transferable : NeverLow (canTransfer e store v) := by
    have capped : NeverLow (checkFeeCap e v) := by
      unfold checkFeeCap
      split
      · exact neverLow_check (by decide)
      · exact neverLow_ok ()
    refine capped.bind fun _ => NeverLow.bind (neverLow_mapError ?_) fun _ => neverLow_check (by decide)
    intro reason err failed same
    cases same
    simp
  have fee : NeverLow (verifyFee e v.msg.raw v.baseFee) := by
    refine NeverLow.bind (neverLow_mapError ?_) fun _ => (neverLow_check (by decide)).bind fun _ => ?_
    · intro reason err failed same
      cases same
      simp
    split
    · exact neverLow_panic _
    · refine (neverLow_check (by decide)).bind fun _ => ?_
      unfold feeCoins
      split
      · exact neverLow_ok []
      · split
        · exact neverLow_panic _
        · exact neverLow_ok _
  exact coded.bind fun _ => balanced.bind fun _ => transferable.bind fun _ => fee

end

/-! Removals between two blocks. -/

section

variable {e : AnteEnv} {tx : SdkTx}

theorem anteHandle_unverified {fault : AnteFault} (ctx : Context)
    (refused : verifyTx e tx true = .error fault) : anteHandle e ctx tx true = (ctx, .error fault) := by
  unfold anteHandle
  simp only [refused]

/-- On contexts with the same stores, a harmless transaction is judged alike, and the stores
stay as they are. -/
theorem anteHandle_harmless {ctx other : Context} (harmless : Harmless e ctx.store tx)
    (foreign : Foreign e tx) (same : other.store = ctx.store) : (anteHandle e other tx true).1.store = ctx.store ∧
      (anteHandle e other tx true).2 = (anteHandle e ctx tx true).2 ∧ NeverLow (anteHandle e ctx tx true).2 := by
  cases verified : verifyTx e tx true with
  | error fault =>
    rw [anteHandle_unverified other verified, anteHandle_unverified ctx verified]
    refine ⟨same, rfl, ?_⟩
    intro err failed
    exact verifyTx_neverLow foreign true err (by rw [verified, Except.error.inj failed])
  | ok v =>
    obtain ⟨account, there, gapped⟩ := harmless v verified
    have there' : Keeper.getAccount e.env other.store v.sender = some account := by rw [same, there]
    cases afforded : affordable e ctx.store v account with
    | error fault =>
      have afforded' : affordable e other.store v account = .error fault := by rw [same, afforded]
      rw [anteHandle_refused verified there afforded, anteHandle_refused verified there' afforded']
      refine ⟨same, rfl, ?_⟩
      intro err failed
      exact affordable_neverLow e ctx.store v account err (by rw [afforded, Except.error.inj failed])
    | ok fees =>
      have afforded' : affordable e other.store v account = .ok fees := by rw [same, afforded]
      obtain ⟨free, gap⟩ := gapped fees afforded
      rw [anteHandle_gap verified there afforded free gap, anteHandle_gap verified there' afforded' free gap]
      exact ⟨same, rfl, neverLow_fail (by decide)⟩

end

/-- The ante handler refuses a transaction on a state, for another reason than its nonce or gas. -/
def Condemned (e : AnteEnv) (committed : Context) (tx : SdkTx) : Prop :=
  ∃ err, (anteHandle e committed tx true).2 = .error (.error err) ∧
    err.code ∉ [.nonceGap, .nonceLow, .invalidSequence, .outOfGas]

/-- Nonces and balances are read as a state has them, through the latest context and through
`StateAt`. -/
structure Reads (env : Env) (committed : VmStore) (b : Blockchain) : Prop where
  latest : ∀ latest addr, b.getLatestContext = .ok latest →
    Keeper.getAccount env latest.ctx.store addr = Keeper.getAccount env committed addr
  stateAt : ∀ hash s addr, b.stateAt env hash = .ok (some s) →
    (StateDb.getNonce env s addr).1 =
        ((Keeper.getAccount env committed addr).map Account.nonce).getD 0 ∧
      (StateDb.getBalance env s addr).1 =
        ((Keeper.getAccount env committed addr).map Account.balance).getD 0

/-- A StateDB that nothing was done with shows its context. -/
theorem reads_new (env : Env) (ctx : Context) (txConfig : TxConfig) (addr : Address) :
    (StateDb.getNonce env (StateDb.new ctx txConfig) addr).1 =
        ((Keeper.getAccount env ctx.store addr).map Account.nonce).getD 0 ∧
      (StateDb.getBalance env (StateDb.new ctx txConfig) addr).1 =
        ((Keeper.getAccount env ctx.store addr).map Account.balance).getD 0 := by
  have shown : (StateDb.getStateObject env (StateDb.new ctx txConfig) addr).1 =
      (Keeper.getAccount env ctx.store addr).map (StateDb.newObject addr) := by
    rw [StateDb.getStateObject_fst]
    cases found : Keeper.getAccount env ctx.store addr <;>
      simp [StateDb.loaded, StateDb.new, found]
  unfold StateDb.getNonce StateDb.getBalance
  simp only [shown, Option.map_map]
  exact ⟨rfl, rfl⟩

section

variable {EvmPool CosmosPool : Type} {e : AnteEnv} {committed : Context}
  {m : ExperimentalEvmMempool EvmPool CosmosPool} {tx : SdkTx}

/-- The latest context has the committed stores. -/
structure Synced (e : AnteEnv) (committed : Context)
    (m : ExperimentalEvmMempool EvmPool CosmosPool) : Prop where
  handler : m.anteHandler = some e
  latest : ∃ latest, m.blockchain.latestCtx = some latest ∧ latest.ctx.store = committed.store

theorem Synced.reads (synced : Synced e committed m) : Reads e.env committed.store m.blockchain := by
  obtain ⟨latest, stored, same⟩ := synced.latest
  have got : m.blockchain.getLatestContext = .ok latest := by
    unfold Blockchain.getLatestContext
    rw [stored]
  refine ⟨?_, ?_⟩
  · intro other addr found
    obtain rfl : latest = other := Except.ok.inj (got.symm.trans found)
    rw [same]
  · intro hash s addr found
    unfold Blockchain.stateAt at found
    rw [got] at found
    split at found
    · cases found
    · cases found
      rw [← same]
      exact reads_new e.env latest.ctx _ addr

theorem remove_synced (pools : Pools EvmPool CosmosPool) (synced : Synced e committed m)
    (harmless : Harmless e committed.store tx) (foreign : Foreign e tx) : Synced e committed (remove pools m tx).1 ∧
      ((remove pools m tx).1.evmPool ≠ m.evmPool → Condemned e committed tx) := by
  obtain ⟨latest, stored, same⟩ := synced.latest
  obtain ⟨kept, alike, never⟩ := anteHandle_harmless harmless foreign same
  have unmoved : Synced e committed m ∧ (m.evmPool ≠ m.evmPool → Condemned e committed tx) :=
    ⟨synced, fun changed => absurd rfl changed⟩
  have asked : shouldRemoveFromEvmPool m tx =
      (m.blockchain.written (anteHandle e latest.ctx tx true).1, match (anteHandle e committed tx true).2 with
        | .ok () => .ok false
        | .error (.error err) => .ok (!isKept err.code)
        | .error (.panic cause) => .error cause) := by
    unfold shouldRemoveFromEvmPool Blockchain.getLatestContext
    simp only [synced.handler, stored, alike]
  have rewritten : Synced e committed
      { m with blockchain := m.blockchain.written (anteHandle e latest.ctx tx true).1 } := by
    refine ⟨synced.handler, ⟨latest.height, (anteHandle e latest.ctx tx true).1⟩, ?_, kept⟩
    unfold Blockchain.written
    simp only [stored, Option.map_some]
  unfold remove
  split
  · exact unmoved
  split
  · unfold removeEvm
    rw [asked]
    cases result : (anteHandle e committed tx true).2 with
    | ok value => exact ⟨rewritten, fun changed => absurd rfl changed⟩
    | error fault =>
      cases fault with
      | panic cause => exact ⟨rewritten, fun changed => absurd rfl changed⟩
      | error err =>
        cases named : isKept err.code with
        | true =>
          simp only [named]
          exact ⟨rewritten, fun changed => absurd rfl changed⟩
        | false =>
          simp only [named]
          refine ⟨⟨rewritten.handler, rewritten.latest⟩, fun _ => ⟨err, result, ?_⟩⟩
          have other := never err result
          simp [isKept] at named
          simp [named, other]
  · exact unmoved
  · split
    · exact unmoved
    · exact ⟨⟨synced.handler, synced.latest⟩, fun changed => absurd rfl changed⟩

theorem removeAll_synced (pools : Pools EvmPool CosmosPool) (synced : Synced e committed m)
    {txs : List SdkTx} (harmless : ∀ tx ∈ txs, Harmless e committed.store tx ∧ Foreign e tx) :
    Synced e committed (removeAll pools m txs) := by
  induction txs generalizing m with
  | nil => exact synced
  | cons tx txs ih =>
    obtain ⟨first, rest⟩ := List.forall_mem_cons.mp harmless
    exact ih (remove_synced pools synced first.1 first.2).1 rest

/-- Removals of harmless transactions after a block are decided on the committed state, and
leave it to be read. -/
theorem removal_on_committed (pools : Pools EvmPool CosmosPool) {b : Blockchain} {height : ℤ}
    {txs earlier later : List SdkTx} (handler : m.anteHandler = some e)
    (notified : m.blockchain = b.notifyNewBlock) (answered : b.getCtxCallback = .ok ⟨height, committed⟩)
    (harmless : ∀ tx ∈ txs, Harmless e committed.store tx ∧ Foreign e tx)
    (run : txs = earlier ++ tx :: later) :
    ((remove pools (removeAll pools m earlier) tx).1.evmPool ≠ (removeAll pools m earlier).evmPool →
        Condemned e committed tx) ∧
      Reads e.env committed.store (remove pools (removeAll pools m earlier) tx).1.blockchain := by
  have synced : Synced e committed m := by
    refine ⟨handler, ⟨height, committed⟩, ?_, rfl⟩
    rw [notified]
    unfold Blockchain.notifyNewBlock Blockchain.newLatestContext
    rw [answered]
    rfl
  have before : Synced e committed (removeAll pools m earlier) :=
    removeAll_synced pools synced fun other member =>
      harmless other (by rw [run]; exact List.mem_append_left _ member)
  obtain ⟨safe, foreign⟩ := harmless tx (by rw [run]; simp)
  obtain ⟨after, decided⟩ := remove_synced pools before safe foreign
  exact ⟨decided, after.reads⟩

end

/-! Pools with one transaction and with two. -/

def hashPools : Pools (List Hash) Unit where
  removeTx pool hash := pool.filter (· ≠ hash)
  remove pool _ := .ok pool

def poolAnte : AnteEnv := { marketKeeper.ante with isCheckTx := true }

def poolOn (committed : Context) : ExperimentalEvmMempool (List Hash) Unit where
  blockchain := Blockchain.notifyNewBlock ⟨.ok ⟨5, committed⟩, none⟩
  anteHandler := some poolAnte
  evmPool := [zeroHash]
  cosmosPool := ()

/-- The sender's account, without a coin. -/
def poorContext : Context :=
  { marketContext with store := { marketContext.store with bank := Precisebank.emptyBank } }

def envelopeOf (tx : Transaction) : SdkTx :=
  { marketEnvelope with msgs := [.ethereum ⟨(bytesToAddress [7]).toList, tx⟩] }

theorem envelopeOf_harmless {tx : Transaction} (costs : 0 < tx.cost) :
    Harmless poolAnte poorContext.store (envelopeOf tx) := by
  intro v verified
  obtain ⟨only, recovered, -⟩ := verifyTx_ok verified
  have sender : bytesToAddress [7] = v.sender := Except.ok.inj recovered
  have msg : (⟨(bytesToAddress [7]).toList, tx⟩ : MsgEthereumTx) = v.msg := Except.ok.inj only
  rw [← sender]
  refine ⟨_, rfl, ?_⟩
  intro fees afforded
  obtain ⟨_, -, afforded⟩ := bind_ok afforded
  obtain ⟨_, balanced, -⟩ := bind_ok afforded
  obtain ⟨_, -, enough⟩ := bind_ok balanced
  have covered := (check_ok enough).2
  rw [← msg] at covered
  have free : tx.cost ≤ 0 := covered.trans (by decide +kernel)
  exact absurd costs (not_lt.mpr free)

def earlierTx : Transaction := { marketTx with nonce := 2, hash := bytesToHash [1], single_price := by decide }

def twoTxs : ExperimentalEvmMempool (List Hash) Unit :=
  { poolOn poorContext with evmPool := [bytesToHash [1], zeroHash] }

theorem removal_on_committed_poor :
    (removeAll hashPools twoTxs [envelopeOf earlierTx]).evmPool = [zeroHash] ∧
      (remove hashPools (removeAll hashPools twoTxs [envelopeOf earlierTx]) marketEnvelope).1.evmPool = [] ∧
      Condemned poolAnte poorContext marketEnvelope ∧
      Reads poolAnte.env poorContext.store
        (remove hashPools (removeAll hashPools twoTxs [envelopeOf earlierTx]) marketEnvelope).1.blockchain := by
  have foreign (tx : Transaction) : Foreign poolAnte (envelopeOf tx) := by
    refine ⟨?_, ?_⟩
    · intro err failed
      cases failed
    · intro raw baseFee err failed
      cases failed
  have earlier : (removeAll hashPools twoTxs [envelopeOf earlierTx]).evmPool = [zeroHash] := by decide +kernel
  have removed : (remove hashPools
    (removeAll hashPools twoTxs [envelopeOf earlierTx]) marketEnvelope).1.evmPool = [] := by
    decide +kernel
  have notified : twoTxs.blockchain = Blockchain.notifyNewBlock ⟨.ok ⟨5, poorContext⟩, none⟩ := rfl
  have harmless : ∀ tx ∈ [envelopeOf earlierTx, envelopeOf marketTx],
      Harmless poolAnte poorContext.store tx ∧ Foreign poolAnte tx := by
    simp only [List.forall_mem_cons, List.not_mem_nil, false_imp_iff, implies_true, and_true]
    exact ⟨⟨envelopeOf_harmless (by decide), foreign _⟩, envelopeOf_harmless (by decide), foreign _⟩
  obtain ⟨condemned, reads⟩ := removal_on_committed hashPools rfl notified rfl harmless
    (show [envelopeOf earlierTx, envelopeOf marketTx] = [envelopeOf earlierTx] ++ marketEnvelope :: [] from rfl)
  exact ⟨earlier, removed, condemned (by rw [removed, earlier]; decide), reads⟩

/-- The transaction after the sender's next one was executed. -/
def staleEnvelope : SdkTx := envelopeOf { marketTx with nonce := 2, single_price := by decide }

/-- A stale transaction is deleted. A valid one is kept, but leaves its fee and its nonce in
the latest context, where the same transaction is stale when it is removed again. -/
theorem removal_off_committed :
    ((∃ text, (anteHandle poolAnte marketContext staleEnvelope true).2 = fail .nonceLow text) ∧
      (remove hashPools (poolOn marketContext) staleEnvelope).1.evmPool = []) ∧
    ((anteHandle poolAnte marketContext marketEnvelope true).2 = .ok () ∧
      (removeAll hashPools (poolOn marketContext) [marketEnvelope]).evmPool = [zeroHash] ∧
      (removeAll hashPools (poolOn marketContext) [marketEnvelope, marketEnvelope]).evmPool = []) ∧
    ¬ Reads poolAnte.env marketContext.store
      (remove hashPools (poolOn marketContext) marketEnvelope).1.blockchain := by
  refine ⟨⟨⟨"invalid nonce; got 2, expected 3", by decide +kernel⟩, by decide +kernel⟩,
    ⟨by decide +kernel, by decide +kernel, by decide +kernel⟩, ?_⟩
  intro reads
  have changed := reads.latest _ (bytesToAddress [7]) rfl
  exact absurd (congrArg (Option.map Account.nonce) changed) (by decide +kernel)

end OgEvm.Mempool
