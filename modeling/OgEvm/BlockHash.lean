import OgEvm.StateDbHistory
import OgEvm.VmParams

/- The block hash history: BeginBlock writes each header hash into a ring of the
history contract's storage, and the BLOCKHASH opcode reads that ring. Writer and
reader take the ring's length from the parameters in force when they run. -/
namespace OgEvm.BlockHash

open Vm

/-- `ethparams.HistoryStorageAddress`. -/
def historyStorageAddress : Address :=
  #v[0x00, 0x00, 0xF9, 0x08, 0x27, 0xF1, 0xC5, 0x3a, 0x10, 0xcb,
    0x7A, 0x02, 0x33, 0x5B, 0x17, 0x53, 0x20, 0x00, 0x29, 0x35]

/-- The parts of an sdk.Context read here. The height is an int64 and never negative;
`blockHeader` is the hash of the context's header, absent when the header is malformed. -/
structure BlockContext where
  store : VmStore
  params : Params
  height : ℕ
  headerHash : Bytes
  blockHeader : Option Bytes

/-- `binary.BigEndian.PutUint64(key[24:], ringIndex)`. -/
def ringKey (ringIndex : UInt64) : Hash :=
  Vector.ofFn fun position =>
    if position.val < 24 then 0
    else UInt8.ofNat (ringIndex.toNat / 256 ^ (31 - position.val))

def setHeaderHash (env : Env) (ctx : BlockContext) : VmStore :=
  let window := historyWindow ctx.params
  if (Keeper.getAccount env ctx.store historyStorageAddress).isSome &&
      Keeper.isContract env ctx.store historyStorageAddress then
    let ringIndex := UInt64.ofNat ctx.height % window
    Keeper.setState ctx.store historyStorageAddress (ringKey ringIndex) ctx.headerHash
  else ctx.store

def getHeaderHash (ctx : BlockContext) (height : UInt64) : Hash :=
  let ringIndex := height % historyWindow ctx.params
  Keeper.getState ctx.store historyStorageAddress (ringKey ringIndex)

/-- `utils.SafeInt64`. -/
def safeInt64 (value : UInt64) : Option ℕ :=
  if value.toNat < 2 ^ 63 then some value.toNat else none

def getHashFn (ctx : BlockContext) (height : UInt64) : Hash :=
  match safeInt64 height with
  | none => zeroHash
  | some h =>
    if ctx.height = h then
      if ctx.headerHash ≠ [] then bytesToHash ctx.headerHash
      else (ctx.blockHeader.map bytesToHash).getD zeroHash
    else if h < ctx.height then getHeaderHash ctx height
    else zeroHash

/-- The chain between two messages. `hashes` records the header hash of every block
so far, for reference only. -/
structure Chain where
  store : VmStore
  params : Params
  height : ℕ
  hashes : ℕ → Option Bytes

def Chain.context (chain : Chain) (headerHash : Bytes) (blockHeader : Option Bytes) : BlockContext :=
  ⟨chain.store, chain.params, chain.height, headerHash, blockHeader⟩

/-- The context in which the transactions of the current block run. -/
def Chain.current (chain : Chain) : BlockContext :=
  chain.context ((chain.hashes chain.height).getD []) (chain.hashes chain.height)

/-- BeginBlock of the next block. -/
def Chain.beginBlock (env : Env) (chain : Chain) (headerHash : Bytes) : Chain :=
  let next := { chain with
    height := chain.height + 1
    hashes := Function.update chain.hashes (chain.height + 1) (some headerHash) }
  { next with store := setHeaderHash env (next.context headerHash (some headerHash)) }

/-- The history account exists and has the contract's code. -/
structure Deployed (env : Env) (store : VmStore) : Prop where
  account : (Keeper.getAccount env store historyStorageAddress).isSome = true
  contract : Keeper.isContract env store historyStorageAddress = true

inductive Change where
  | beginBlock (headerHash : Bytes)
  | updateParams (params : Params)
  | execute (store : VmStore)

/-- A change the chain makes. The contract stores only for the system caller, so other
execution leaves its storage and its code as they are. -/
inductive Step (env : Env) (checks : Validators) (chain : Chain) : Change → Chain → Prop where
  | beginBlock (headerHash : Bytes) (fits : chain.height + 1 < 2 ^ 63) :
      Step env checks chain (.beginBlock headerHash) (chain.beginBlock env headerHash)
  | updateParams (params stored : Params) (accepted : setParams checks params = .ok stored) :
      Step env checks chain (.updateParams params) { chain with params := stored }
  | execute (store : VmStore) (deployed : Deployed env store)
      (kept : store.storage historyStorageAddress = chain.store.storage historyStorageAddress) :
      Step env checks chain (.execute store) { chain with store := store }

/-- The chains reached by steps that all meet a condition. -/
inductive Reaches (env : Env) (checks : Validators) (allowed : Chain → Change → Prop) (start : Chain) :
    Chain → Prop where
  | start : Reaches env checks allowed start start
  | step {chain next : Chain} (change : Change) (run : Reaches env checks allowed start chain)
      (meets : allowed chain change) (steps : Step env checks chain change next) :
      Reaches env checks allowed start next

/-- A chain before its first block, with the history account in its genesis. -/
structure Genesis (env : Env) (chain : Chain) : Prop where
  deployed : Deployed env chain.store
  fits : chain.height < 2 ^ 63
  unwritten : ∀ key, chain.store.storage historyStorageAddress key = none
  blockless : ∀ height, chain.hashes height = none

/-- What BLOCKHASH gives for the last 256 blocks is the block's hash or nothing. -/
def Truthful (chain : Chain) : Prop :=
  ∀ height : UInt64, height.toNat < chain.height → chain.height ≤ height.toNat + 256 →
    getHashFn chain.current height = zeroHash ∨
      (chain.hashes height.toNat).map bytesToHash = some (getHashFn chain.current height)

/-- The bytes stored at an index of the ring. -/
def Chain.slot (chain : Chain) (ringIndex : UInt64) : Option Bytes :=
  chain.store.storage historyStorageAddress (ringKey ringIndex)

/-- The index at which the window in force looks a height up. -/
def Chain.indexOf (chain : Chain) (height : ℕ) : UInt64 :=
  UInt64.ofNat height % historyWindow chain.params

/-- A window longer than the opcode's reach, that looks each of the last 256 blocks up
where it was looked up before, at its own number, or at an index still unwritten. -/
def KeepsReach (chain : Chain) : Change → Prop
  | .updateParams params =>
    256 < (historyWindow params).toNat ∧
      ∀ height ≤ chain.height, chain.height ≤ height + 256 →
        UInt64.ofNat height % historyWindow params = chain.indexOf height ∨
          height < (historyWindow params).toNat ∨
          chain.slot (UInt64.ofNat height % historyWindow params) = none
  | _ => True

section

variable {env : Env} {checks : Validators} {chain next : Chain}

theorem ringKey_digit (ringIndex : UInt64) (place : ℕ) (position : 31 - place < 32) (small : place < 8) :
    ((ringKey ringIndex)[31 - place]).toNat = ringIndex.toNat / 256 ^ place % 256 := by
  have outside : ¬ 31 - place < 24 := by omega
  have back : 31 - (31 - place) = place := by omega
  simp only [ringKey, Vector.getElem_ofFn, if_neg outside, back]
  exact UInt8.toNat_ofNat'

theorem mod_of_digits {base first second : ℕ} (places : ℕ)
    (digit : ∀ place < places, first / base ^ place % base = second / base ^ place % base) :
    first % base ^ places = second % base ^ places := by
  induction places with
  | zero => simp only [pow_zero, Nat.mod_one]
  | succ places ih =>
    have lower := ih fun place small => digit place (by omega)
    rw [Nat.mod_pow_succ, Nat.mod_pow_succ, lower, digit places (by omega)]

theorem ringKey_injective : Function.Injective ringKey := by
  intro first second same
  have digit : ∀ place < 8, first.toNat / 256 ^ place % 256 = second.toNat / 256 ^ place % 256 := by
    intro place small
    have position : 31 - place < 32 := by omega
    rw [← ringKey_digit first place position small, ← ringKey_digit second place position small, same]
  have whole := mod_of_digits 8 digit
  have width : 256 ^ 8 = 2 ^ 64 := by norm_num
  rw [width, Nat.mod_eq_of_lt first.toNat_lt, Nat.mod_eq_of_lt second.toNat_lt] at whole
  exact UInt64.toNat_inj.mp whole

theorem index_toNat (chain : Chain) {height : ℕ} (fits : height < 2 ^ 63) :
    (chain.indexOf height).toNat = height % (historyWindow chain.params).toNat := by
  unfold Chain.indexOf
  rw [UInt64.toNat_mod, UInt64.toNat_ofNat_of_lt' (show height < 2 ^ 64 by omega)]

/-- Heights less than a window apart have different indices. -/
theorem mod_ne_of_near {window height later : ℕ} (after : height < later)
    (near : later < height + window) : height % window ≠ later % window := by
  intro same
  have divides : window ∣ later - height := (Nat.modEq_iff_dvd' after.le).mp same
  have bound := Nat.le_of_dvd (by omega) divides
  omega

/-- A height is its own index until the ring wraps, and then at least a window above it. -/
theorem mod_self_or_far (height window : ℕ) : height % window = height ∨ height % window + window ≤ height := by
  by_cases small : height < window
  · exact Or.inl (Nat.mod_eq_of_lt small)
  · have wrapped : height % window = (height - window) % window :=
      Nat.mod_eq_sub_mod (by omega)
    have bound := Nat.mod_le (height - window) window
    omega

theorem beginBlock_store (deployed : Deployed env chain.store) (headerHash : Bytes) :
    (chain.beginBlock env headerHash).store = Keeper.setState chain.store historyStorageAddress
      (ringKey (chain.indexOf (chain.height + 1))) headerHash := by
  have ready : ((Keeper.getAccount env chain.store historyStorageAddress).isSome &&
      Keeper.isContract env chain.store historyStorageAddress) = true := by
    rw [deployed.account, deployed.contract]
    rfl
  exact if_pos ready

theorem beginBlock_slot (deployed : Deployed env chain.store) (headerHash : Bytes) (ringIndex : UInt64) :
    (chain.beginBlock env headerHash).slot ringIndex =
      if ringIndex = chain.indexOf (chain.height + 1) then some headerHash else chain.slot ringIndex := by
  have written : (chain.beginBlock env headerHash).slot ringIndex =
      Function.update (chain.store.storage historyStorageAddress)
        (ringKey (chain.indexOf (chain.height + 1))) (some headerHash) (ringKey ringIndex) := by
    rw [Chain.slot, beginBlock_store deployed]
    unfold Keeper.setState
    dsimp only
    rw [Function.update_self]
  rw [written]
  by_cases same : ringIndex = chain.indexOf (chain.height + 1)
  · rw [if_pos same, same, Function.update_self]
  · rw [if_neg same, Function.update_of_ne fun equal => same (ringKey_injective equal)]
    rfl

theorem beginBlock_hash (headerHash : Bytes) (height : ℕ) : (chain.beginBlock env headerHash).hashes height =
      if height = chain.height + 1 then some headerHash else chain.hashes height :=
  Function.update_apply _ _ _ _

theorem Deployed.beginBlock (deployed : Deployed env chain.store) (headerHash : Bytes) :
    Deployed env (chain.beginBlock env headerHash).store := by
  rw [beginBlock_store deployed]
  exact ⟨deployed.account, deployed.contract⟩

/-- What holds between the steps of an honest run. Every index holds the block of its
own number or one out of the reach of whoever looks for that number. -/
structure Honest (env : Env) (chain : Chain) : Prop where
  deployed : Deployed env chain.store
  fits : chain.height < 2 ^ 63
  wide : 256 < (historyWindow chain.params).toNat
  placed : ∀ ringIndex bytes, chain.slot ringIndex = some bytes →
    ∃ block ≤ chain.height, chain.hashes block = some bytes ∧
      (block = ringIndex.toNat ∨ ringIndex.toNat + 256 < block)
  found : ∀ height ≤ chain.height, chain.height ≤ height + 256 →
    chain.slot (chain.indexOf height) = none ∨
      chain.slot (chain.indexOf height) = chain.hashes height

theorem Genesis.honest (genesis : Genesis env chain) (wide : 256 < (historyWindow chain.params).toNat) :
    Honest env chain where
  deployed := genesis.deployed
  fits := genesis.fits
  wide := wide
  placed ringIndex bytes held := by
    rw [Chain.slot, genesis.unwritten] at held
    cases held
  found height _ _ := Or.inl (genesis.unwritten _)

theorem Honest.beginBlock (honest : Honest env chain) (headerHash : Bytes)
    (fits : chain.height + 1 < 2 ^ 63) : Honest env (chain.beginBlock env headerHash) where
  deployed := honest.deployed.beginBlock headerHash
  fits := fits
  wide := honest.wide
  placed ringIndex bytes held := by
    rw [beginBlock_slot honest.deployed] at held
    split at held
    · rename_i same
      refine ⟨chain.height + 1, le_rfl, ?_, ?_⟩
      · rw [beginBlock_hash, if_pos rfl, held]
      · have index := index_toNat chain fits
        rw [← same] at index
        have wide := honest.wide
        have apart := mod_self_or_far (chain.height + 1) (historyWindow chain.params).toNat
        omega
    · obtain ⟨block, past, hash, place⟩ := honest.placed ringIndex bytes held
      refine ⟨block, Nat.le_succ_of_le past, ?_, place⟩
      rw [beginBlock_hash, if_neg (by omega), hash]
  found height past near := by
    change height ≤ chain.height + 1 at past
    change chain.height + 1 ≤ height + 256 at near
    change (chain.beginBlock env headerHash).slot (chain.indexOf height) = none ∨
      (chain.beginBlock env headerHash).slot (chain.indexOf height) = _
    rw [beginBlock_slot honest.deployed, beginBlock_hash]
    by_cases latest : height = chain.height + 1
    · rw [if_pos latest, latest, if_pos rfl]
      exact Or.inr rfl
    · -- An older block within reach is not the one overwritten: the window is longer.
      have other : chain.indexOf height ≠ chain.indexOf (chain.height + 1) := by
        intro same
        have equal := congrArg UInt64.toNat same
        rw [index_toNat chain (by omega), index_toNat chain fits] at equal
        have wide := honest.wide
        exact mod_ne_of_near (by omega) (by omega) equal
      rw [if_neg other, if_neg latest]
      exact honest.found height (by omega) (by omega)

theorem Honest.updateParams (honest : Honest env chain) {params stored : Params}
    (accepted : setParams checks params = .ok stored) (keeps : KeepsReach chain (.updateParams params)) :
    Honest env { chain with params := stored } := by
  obtain ⟨wide, keeps⟩ := keeps
  rw [← setParams_historyWindow accepted] at wide keeps
  refine ⟨honest.deployed, honest.fits, wide, honest.placed, ?_⟩
  intro height past near
  change height ≤ chain.height at past
  change chain.height ≤ height + 256 at near
  change chain.slot (UInt64.ofNat height % historyWindow stored) = none ∨
    chain.slot (UInt64.ofNat height % historyWindow stored) = chain.hashes height
  obtain same | covered | empty := keeps height past near
  · rw [same]
    exact honest.found height past near
  · -- The height is its own index, where only its own block can be within reach.
    have fits := honest.fits
    have number : (UInt64.ofNat height % historyWindow stored).toNat = height := by
      rw [UInt64.toNat_mod, UInt64.toNat_ofNat_of_lt' (show height < 2 ^ 64 by omega),
        Nat.mod_eq_of_lt covered]
    cases held : chain.slot (UInt64.ofNat height % historyWindow stored) with
    | none => exact Or.inl rfl
    | some bytes =>
      obtain ⟨block, produced, hash, place⟩ := honest.placed _ bytes held
      rw [number] at place
      have own : block = height := by omega
      exact Or.inr (own ▸ hash.symm)
  · exact Or.inl empty

theorem Honest.execute (honest : Honest env chain) {store : VmStore} (deployed : Deployed env store)
    (kept : store.storage historyStorageAddress = chain.store.storage historyStorageAddress) :
    Honest env { chain with store := store } := by
  have slots : ∀ ringIndex, ({ chain with store := store } : Chain).slot ringIndex =
      chain.slot ringIndex := fun ringIndex => congrFun kept (ringKey ringIndex)
  refine ⟨deployed, honest.fits, honest.wide, ?_, ?_⟩
  · intro ringIndex bytes held
    rw [slots] at held
    exact honest.placed ringIndex bytes held
  · intro height past near
    rw [slots]
    exact honest.found height past near

theorem Honest.step (honest : Honest env chain) {change : Change} (keeps : KeepsReach chain change)
    (steps : Step env checks chain change next) : Honest env next := by
  cases steps with
  | beginBlock headerHash fits => exact honest.beginBlock headerHash fits
  | updateParams params stored accepted => exact honest.updateParams accepted keeps
  | execute store deployed kept => exact honest.execute deployed kept

theorem Honest.run {start : Chain} (honest : Honest env start)
    (run : Reaches env checks KeepsReach start chain) : Honest env chain := by
  induction run with
  | start => exact honest
  | step change run meets steps ih => exact ih.step meets steps

theorem getHashFn_past {ctx : BlockContext} {height : UInt64} (fits : ctx.height < 2 ^ 63)
    (past : height.toNat < ctx.height) : getHashFn ctx height = getHeaderHash ctx height := by
  have safe : safeInt64 height = some height.toNat := if_pos (by omega)
  have earlier : ¬ ctx.height = height.toNat := by omega
  unfold getHashFn
  rw [safe]
  dsimp only
  rw [if_neg earlier, if_pos past]

/-- A slot without bytes, as a slot never written, is read as the zero hash. -/
theorem getHeaderHash_slot (height : UInt64) : getHeaderHash chain.current height =
      ((chain.slot (chain.indexOf height.toNat)).map bytesToHash).getD zeroHash := by
  have number : UInt64.ofNat height.toNat = height := UInt64.ofNat_toNat
  have blank : bytesToHash [] = zeroHash := by decide
  unfold Chain.slot Chain.indexOf
  rw [number]
  unfold getHeaderHash Keeper.getState
  dsimp only [Chain.current, Chain.context]
  cases chain.store.storage historyStorageAddress (ringKey (height % historyWindow chain.params)) with
  | none => rfl
  | some value =>
    cases value with
    | nil => exact blank.symm
    | cons byte bytes => rfl

theorem Honest.truthful (honest : Honest env chain) : Truthful chain := by
  intro height past near
  rw [getHashFn_past honest.fits past, getHeaderHash_slot]
  obtain empty | held := honest.found height.toNat past.le near
  · rw [empty]
    exact Or.inl rfl
  · rw [held]
    cases chain.hashes height.toNat with
    | none => exact Or.inl rfl
    | some bytes => exact Or.inr rfl

/-- In a run whose windows all reach past 256 blocks and whose changes keep the last 256
blocks where they are looked up, BLOCKHASH never gives another block's hash. -/
theorem blockHash_truthful {genesis : Chain} (first : Genesis env genesis)
    (wide : 256 < (historyWindow genesis.params).toNat)
    (run : Reaches env checks KeepsReach genesis chain) : Truthful chain :=
  ((first.honest wide).run run).truthful

end

/-- The chain before its first block, with some code at the history account. -/
def genesisChain : Chain where
  store := { StateDb.emptyStore with
    accounts := Function.update (fun _ => none) historyStorageAddress.toList (some ⟨1⟩)
    codeHashes := Function.update (fun _ => none) historyStorageAddress (some (bytesToHash [0x60]))
    codes := Function.update (fun _ => none) (bytesToHash [0x60]) (some [0x60]) }
  params := defaultParams
  height := 0
  hashes := fun _ => none

def anyEip : Validators := ⟨fun _ => true, [], fun _ => .ok ()⟩

theorem genesisChain_genesis : Genesis StateDb.toyEnv genesisChain where
  deployed := ⟨by decide +kernel, by decide +kernel⟩
  fits := by decide
  unwritten _ := rfl
  blockless _ := rfl

/-- Two blocks, with the window raised after the first. -/
theorem blockHash_truthful_two :
    Truthful ({ genesisChain.beginBlock StateDb.toyEnv [7] with
      params := { defaultParams with historyServeWindow := 10000 } }.beginBlock StateDb.toyEnv [8]) :=
  blockHash_truthful genesisChain_genesis (by decide)
    (.step (.beginBlock [8])
      (.step (.updateParams { defaultParams with historyServeWindow := 10000 })
        (.step (.beginBlock [7]) .start trivial (.beginBlock [7] (by decide)))
        ⟨by decide, fun height past _ => Or.inr (Or.inl (Nat.lt_of_le_of_lt past (by decide)))⟩
        (.updateParams _ _ (setParams_accepts anyEip 10000)))
      trivial (.beginBlock [8] (by decide)))

/-- Governance sets the window to one block after block 1. In block 2 the hash of
block 1 is read as that of block 2. -/
theorem shortWindow_lies :
    ∃ chain, Reaches StateDb.toyEnv anyEip (fun _ _ => True) genesisChain chain ∧
      Genesis StateDb.toyEnv genesisChain ∧ chain.height = 2 ∧
      chain.hashes 1 = some [7] ∧ getHashFn chain.current 1 = bytesToHash [8] ∧ ¬ Truthful chain := by
  refine ⟨{ genesisChain.beginBlock StateDb.toyEnv [7] with
      params := { defaultParams with historyServeWindow := 1 } }.beginBlock StateDb.toyEnv [8],
    ?_, genesisChain_genesis, rfl, rfl, by decide +kernel, ?_⟩
  · exact .step (.beginBlock [8])
      (.step (.updateParams { defaultParams with historyServeWindow := 1 })
        (.step (.beginBlock [7]) .start trivial (.beginBlock [7] (by decide)))
        trivial (.updateParams _ _ (setParams_accepts anyEip 1)))
      trivial (.beginBlock [8] (by decide))
  · intro truthful
    have wrong := truthful 1 (by decide) (by decide)
    revert wrong
    decide +kernel

end OgEvm.BlockHash
