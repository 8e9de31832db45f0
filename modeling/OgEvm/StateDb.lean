import OgEvm.AccessList
import Mathlib.Data.List.AList

/- The StateDB of one transaction: state objects cached over the keeper, the
journal of changes with the undo of every kind of entry, and the snapshots. -/
namespace OgEvm

open Layers

/-- The Go type is a map from slot to value. -/
abbrev Storage : Type := AList fun _ : Hash => Hash

structure StateObject where
  account : Account
  code : Option Bytes
  originStorage : Storage
  dirtyStorage : Storage
  overrideStorage : Option Storage
  address : Address
  dirtyCode : Bool
  selfDestructed : Bool
  newContract : Bool

structure Log where
  address : Address
  topics : List Hash
  data : Bytes
  txIndex : ℕ
  index : ℕ

inductive JournalEntry where
  | createObjectChange (account : Address)
  | resetObjectChange (prev : StateObject)
  | selfDestructChange (account : Address) (prev : Bool) (prevbalance : BitVec 256)
  | balanceChange (account : Address) (prev : BitVec 256)
  | nonceChange (account : Address) (prev : UInt64)
  | storageChange (account : Address) (key preValue origValue : Hash)
  | transientStorageChange (account : Address) (key prevalue : Hash)
  | codeChange (account : Address) (prevcode : Option Bytes) (prevhash : Hash)
  | refundChange (prev : UInt64)
  | addLogChange
  | accessListAddAccountChange (address : Address)
  | accessListAddSlotChange (address : Address) (slot : Hash)
  | precompileCallChange (snapshot : ℤ) (events : List Event)
  | createContractChange (account : Address)

/-- The address an entry marks dirty, if it marks one. -/
def JournalEntry.dirtied : JournalEntry → Option Address
  | .createObjectChange account => some account
  | .selfDestructChange account _ _ => some account
  | .balanceChange account _ => some account
  | .nonceChange account _ => some account
  | .storageChange account _ _ _ => some account
  | .codeChange account _ _ => some account
  | .resetObjectChange _ => none
  | .transientStorageChange _ _ _ => none
  | .refundChange _ => none
  | .addLogChange => none
  | .accessListAddAccountChange _ => none
  | .accessListAddSlotChange _ _ => none
  | .precompileCallChange _ _ => none
  | .createContractChange _ => none

structure Journal where
  entries : List JournalEntry
  dirties : AList fun _ : Address => ℤ

namespace Journal

def newJournal : Journal := ⟨[], ∅⟩

def countUp (dirties : AList fun _ : Address => ℤ) (addr : Address) : AList fun _ : Address => ℤ :=
  dirties.insert addr ((dirties.lookup addr).getD 0 + 1)

def countDown (dirties : AList fun _ : Address => ℤ) (addr : Address) : AList fun _ : Address => ℤ :=
  let count := (dirties.lookup addr).getD 0 - 1
  if count = 0 then dirties.erase addr else dirties.insert addr count

def append (j : Journal) (entry : JournalEntry) : Journal where
  entries := j.entries ++ [entry]
  dirties := match entry.dirtied with
    | none => j.dirties
    | some addr => countUp j.dirties addr

/-- The last entry is dropped and its dirty count taken back. -/
def undoLast (j : Journal) (entry : JournalEntry) : Journal where
  entries := j.entries.dropLast
  dirties := match entry.dirtied with
    | none => j.dirties
    | some addr => countDown j.dirties addr

/-- Addresses in ascending byte order. -/
def sortedDirties (j : Journal) : List Address :=
  j.dirties.keys.insertionSort fun first second => first.toList ≤ second.toList

end Journal

structure Revision where
  id : ℤ
  journalIndex : ℕ
  events : List Event

/-- What the `writeCache` closure emits before it writes the cache context out:
the events of the cache context at that time, or those captured by the last
revert of a precompile call. -/
inductive WriteCache where
  | cacheEvents
  | captured (events : List Event)

/-- The cache context of precompile calls. Its multistore is the snapshot store,
represented by the copies it stands for. -/
structure CacheCtx where
  copies : Copies VmStore
  events : List Event
  writeCache : WriteCache

structure TxConfig where
  txHash : Hash
  txIndex : ℕ

structure StateDb where
  ctx : Context
  cacheCtx : Option CacheCtx
  transientStorage : Address → Hash → Hash
  journal : Journal
  validRevisions : List Revision
  nextRevisionID : ℤ
  stateObjects : Address → Option StateObject
  txConfig : TxConfig
  refund : UInt64
  logs : List Log
  accessList : AccessList
  precompileCallsCounter : UInt8

namespace StateDb

variable (env : Env) (s : StateDb) (addr : Address)

def new (ctx : Context) (txConfig : TxConfig) : StateDb where
  ctx := ctx
  cacheCtx := none
  transientStorage _ _ := zeroHash
  journal := Journal.newJournal
  validRevisions := []
  nextRevisionID := 0
  stateObjects _ := none
  txConfig := txConfig
  refund := 0
  logs := []
  accessList := AccessList.newAccessList
  precompileCallsCounter := 0

def newObject (address : Address) (account : Account) : StateObject where
  account := account
  code := none
  originStorage := ∅
  dirtyStorage := ∅
  overrideStorage := none
  address := address
  dirtyCode := false
  selfDestructed := false
  newContract := false

/-- The zero Account with the defaults `newObject` fills in. -/
def emptyAccount : Account := ⟨0, 0, env.emptyCodeHash⟩

def setStateObject (object : StateObject) : StateDb :=
  { s with stateObjects := Function.update s.stateObjects object.address (some object) }

def append (entry : JournalEntry) : StateDb := { s with journal := s.journal.append entry }

def getStateObject : Option StateObject × StateDb :=
  match s.stateObjects addr with
  | some obj => (some obj, s)
  | none =>
    match Keeper.getAccount env s.ctx.store addr with
    | none => (none, s)
    | some account =>
      (some (newObject addr account), setStateObject s (newObject addr account))

/-- The new object and the one it replaces. -/
def createObject : StateObject × Option StateObject × StateDb :=
  let newobj := newObject addr (emptyAccount env)
  match getStateObject env s addr with
  | (none, s) => (newobj, none, setStateObject (append s (.createObjectChange addr)) newobj)
  | (some prev, s) => (newobj, some prev, setStateObject (append s (.resetObjectChange prev)) newobj)

def getOrNewStateObject : StateObject × StateDb :=
  match getStateObject env s addr with
  | (some obj, s) => (obj, s)
  | (none, s) =>
    let (newobj, _, s) := createObject env s addr
    (newobj, s)

/-! State objects. Methods that journal take the StateDB and write the object back. -/

/-- `Code`, with the object after it has cached the code. -/
def objectCode (store : VmStore) (obj : StateObject) : Option Bytes × StateObject :=
  match obj.code with
  | some code => (some code, obj)
  | none =>
    if obj.account.codeHash = env.emptyCodeHash then (none, obj)
    else
      let code := Keeper.getCode store obj.account.codeHash
      (code, { obj with code := code })

/-- `GetCommittedState`, with the object after it has cached the slot. -/
def objectCommittedState (store : VmStore) (obj : StateObject) (key : Hash) : Hash × StateObject :=
  match obj.overrideStorage with
  | some overridden => ((overridden.lookup key).getD zeroHash, obj)
  | none =>
    match obj.originStorage.lookup key with
    | some value => (value, obj)
    | none =>
      let value := Keeper.getState store obj.address key
      (value, { obj with originStorage := obj.originStorage.insert key value })

def objectState (store : VmStore) (obj : StateObject) (key : Hash) : Hash × StateObject :=
  match obj.dirtyStorage.lookup key with
  | some value => (value, obj)
  | none => objectCommittedState store obj key

def withBalance (obj : StateObject) (amount : BitVec 256) : StateObject :=
  { obj with account := { obj.account with balance := amount } }

def withNonce (obj : StateObject) (nonce : UInt64) : StateObject :=
  { obj with account := { obj.account with nonce := nonce } }

/-- `setCode`. -/
def withCode (obj : StateObject) (codeHash : Hash) (code : Option Bytes) : StateObject :=
  { obj with code := code, account := { obj.account with codeHash := codeHash }, dirtyCode := true }

/-- `setState`: a slot set back to its original value is no longer dirty. -/
def withState (obj : StateObject) (key value origin : Hash) : StateObject :=
  if value = origin then { obj with dirtyStorage := obj.dirtyStorage.erase key }
  else { obj with dirtyStorage := obj.dirtyStorage.insert key value }

def objectSetBalance (obj : StateObject) (amount : BitVec 256) : StateDb :=
  setStateObject (append s (.balanceChange obj.address obj.account.balance)) (withBalance obj amount)

def objectSetState (obj : StateObject) (key value : Hash) : Hash × StateDb :=
  let (prev, obj) := objectState s.ctx.store obj key
  if prev = value then (prev, setStateObject s obj)
  else
    let (origin, obj) := objectCommittedState s.ctx.store obj key
    (prev, setStateObject (append s (.storageChange obj.address key prev origin))
      (withState obj key value origin))

/-! Queries; a query may cache what it loads. -/

def exist : Bool × StateDb :=
  let (obj, s) := getStateObject env s addr
  (obj.isSome, s)

def getBalance : BitVec 256 × StateDb :=
  let (obj, s) := getStateObject env s addr
  ((obj.map fun obj => obj.account.balance).getD 0, s)

def getNonce : UInt64 × StateDb :=
  let (obj, s) := getStateObject env s addr
  ((obj.map fun obj => obj.account.nonce).getD 0, s)

def getCode : Option Bytes × StateDb :=
  match getStateObject env s addr with
  | (none, s) => (none, s)
  | (some obj, s) =>
    let (code, obj) := objectCode env s.ctx.store obj
    (code, setStateObject s obj)

def getCodeHash : Hash × StateDb :=
  let (obj, s) := getStateObject env s addr
  ((obj.map fun obj => obj.account.codeHash).getD zeroHash, s)

def getState (key : Hash) : Hash × StateDb :=
  match getStateObject env s addr with
  | (none, s) => (zeroHash, s)
  | (some obj, s) =>
    let (value, obj) := objectState s.ctx.store obj key
    (value, setStateObject s obj)

def getCommittedState (key : Hash) : Hash × StateDb :=
  match getStateObject env s addr with
  | (none, s) => (zeroHash, s)
  | (some obj, s) =>
    let (value, obj) := objectCommittedState s.ctx.store obj key
    (value, setStateObject s obj)

def hasSelfDestructed : Bool × StateDb :=
  let (obj, s) := getStateObject env s addr
  ((obj.map fun obj => obj.selfDestructed).getD false, s)

/-- The `newContract` flag `SelfDestruct6780` reads. -/
def isNewContract : Bool × StateDb :=
  let (obj, s) := getStateObject env s addr
  ((obj.map fun obj => obj.newContract).getD false, s)

def getTransientState (key : Hash) : Hash := s.transientStorage addr key

def addressInAccessList : Bool := s.accessList.containsAddress addr

def slotInAccessList (slot : Hash) : Except DbPanic (Bool × Bool) := s.accessList.contains addr slot

/-! Setters. -/

def createContract (address : Address) : Except DbPanic StateDb :=
  match getStateObject env s address with
  | (none, _) => .error .nilObject
  | (some obj, s) =>
    if obj.newContract then .ok s
    else .ok (append (setStateObject s { obj with newContract := true }) (.createContractChange address))

/-- An existing balance is carried over to the new object. -/
def createAccount : StateDb :=
  match createObject env s addr with
  | (_, none, s) => s
  | (newObj, some prev, s) => setStateObject s (withBalance newObj prev.account.balance)

def addBalance (amount : BitVec 256) : StateDb :=
  let (obj, s) := getOrNewStateObject env s addr
  if amount = 0 then s else objectSetBalance s obj (obj.account.balance + amount)

def subBalance (amount : BitVec 256) : StateDb :=
  let (obj, s) := getOrNewStateObject env s addr
  if amount = 0 then s else objectSetBalance s obj (obj.account.balance - amount)

def setBalance (amount : BitVec 256) : StateDb :=
  let (obj, s) := getOrNewStateObject env s addr
  objectSetBalance s obj amount

def setNonce (nonce : UInt64) : StateDb :=
  let (obj, s) := getOrNewStateObject env s addr
  setStateObject (append s (.nonceChange obj.address obj.account.nonce)) (withNonce obj nonce)

def setCode (code : Option Bytes) : StateDb :=
  let (obj, s) := getOrNewStateObject env s addr
  let (prevcode, obj) := objectCode env s.ctx.store obj
  setStateObject (append s (.codeChange obj.address prevcode obj.account.codeHash))
    (withCode obj (env.keccak (code.getD [])) code)

def setState (key value : Hash) : Hash × StateDb :=
  let (obj, s) := getOrNewStateObject env s addr
  objectSetState s obj key value

def selfDestruct : StateDb :=
  match getStateObject env s addr with
  | (none, s) => s
  | (some obj, s) =>
    setStateObject (append s (.selfDestructChange addr obj.selfDestructed obj.account.balance))
      (withBalance { obj with selfDestructed := true } 0)

/-- Only a contract created in this transaction is destructed. -/
def selfDestruct6780 : StateDb :=
  match getStateObject env s addr with
  | (none, s) => s
  | (some obj, s) => if obj.newContract then selfDestruct env s addr else s

def setTransientState (key value : Hash) : StateDb :=
  let prev := getTransientState s addr key
  if prev = value then s
  else
    { append s (.transientStorageChange addr key prev) with
      transientStorage := Function.update s.transientStorage addr
        (Function.update (s.transientStorage addr) key value) }

def addLog (log : Log) : StateDb :=
  { append s .addLogChange with
    logs := s.logs ++ [{ log with txIndex := s.txConfig.txIndex, index := s.logs.length }] }

def addRefund (gas : UInt64) : StateDb :=
  { append s (.refundChange s.refund) with refund := s.refund + gas }

def subRefund (gas : UInt64) : Except DbPanic StateDb :=
  if s.refund < gas then .error (.refundBelowZero gas s.refund)
  else .ok { append s (.refundChange s.refund) with refund := s.refund - gas }

def addAddressToAccessList : StateDb :=
  match s.accessList.addAddress addr with
  | (al, true) => append { s with accessList := al } (.accessListAddAccountChange addr)
  | (al, false) => { s with accessList := al }

def addSlotToAccessList (slot : Hash) : Except DbPanic StateDb := do
  let (al, addrMod, slotMod) ← s.accessList.addSlot addr slot
  let s := { s with accessList := al }
  let s := if addrMod then append s (.accessListAddAccountChange addr) else s
  pure (if slotMod then append s (.accessListAddSlotChange addr slot) else s)

/-- The transaction's rules `Prepare` looks at. -/
structure Rules where
  isEIP2929 : Bool
  isEIP4762 : Bool
  isShanghai : Bool

/-- An entry of a transaction's access list. -/
structure AccessTuple where
  address : Address
  storageKeys : List Hash

/-- The access list of a transaction before its first step. -/
def warmAccessList (rules : Rules) (sender coinbase : Address) (dst : Option Address)
    (precompiles : List Address) (list : List AccessTuple) : Except DbPanic AccessList := do
  let al := (AccessList.newAccessList.addAddress sender).1
  let al := match dst with
    | none => al
    | some dst => (al.addAddress dst).1
  let al := precompiles.foldl (fun al addr => (al.addAddress addr).1) al
  let al ← list.foldlM (fun al el => el.storageKeys.foldlM
    (fun al key => (al.addSlot el.address key).map Prod.fst) (al.addAddress el.address).1) al
  pure (if rules.isShanghai then (al.addAddress coinbase).1 else al)

def prepare (rules : Rules) (sender coinbase : Address) (dst : Option Address)
    (precompiles : List Address) (list : List AccessTuple) : Except DbPanic StateDb :=
  if rules.isEIP2929 && rules.isEIP4762 then .error .conflictingRules
  else do
    let al ← (if rules.isEIP2929 then warmAccessList rules sender coinbase dst precompiles list
      else pure s.accessList)
    pure { s with accessList := al, transientStorage := fun _ _ => zeroHash }

/-! Snapshots. -/

def snapshot : ℤ × StateDb :=
  (s.nextRevisionID, { s with
      nextRevisionID := s.nextRevisionID + 1
      validRevisions := s.validRevisions ++
        [⟨s.nextRevisionID, s.journal.entries.length, s.ctx.events⟩] })

/-- The snapshot store goes back to the copy, and the events the final write emits
become those the call had found. -/
def revertMultiStore (snapshot : ℤ) (events : List Event) : Except DbPanic StateDb :=
  match s.cacheCtx with
  | none => .error .nilSnapshotter
  | some cache =>
    if snapshot < 0 then .error (.store (.snapshotIndex snapshot cache.copies.saved.length))
    else match cache.copies.truncate snapshot.toNat with
      | none => .error (.store (.snapshotIndex snapshot cache.copies.saved.length))
      | some copies =>
        .ok { s with cacheCtx := some { cache with copies := copies, writeCache := .captured events } }

/-- An entry that changes an object finds it again through `getStateObject`. -/
def revertObject (undo : StateObject → StateObject) : Except DbPanic StateDb :=
  match getStateObject env s addr with
  | (none, _) => .error .nilObject
  | (some obj, s) => .ok (setStateObject s (undo obj))

/-- `JournalEntry.Revert`. -/
def revertEntry : JournalEntry → Except DbPanic StateDb
  | .createObjectChange account =>
    .ok { s with stateObjects := Function.update s.stateObjects account none }
  | .resetObjectChange prev => .ok (setStateObject s prev)
  | .selfDestructChange account prev prevbalance =>
    match getStateObject env s account with
    | (none, s) => .ok s
    | (some obj, s) => .ok (setStateObject s (withBalance { obj with selfDestructed := prev } prevbalance))
  | .balanceChange account prev => revertObject env s account fun obj => withBalance obj prev
  | .nonceChange account prev => revertObject env s account fun obj => withNonce obj prev
  | .storageChange account key preValue origValue =>
    revertObject env s account fun obj => withState obj key preValue origValue
  | .transientStorageChange account key prevalue =>
    .ok { s with
      transientStorage := Function.update s.transientStorage account
        (Function.update (s.transientStorage account) key prevalue) }
  | .codeChange account prevcode prevhash =>
    revertObject env s account fun obj => withCode obj prevhash prevcode
  | .refundChange prev => .ok { s with refund := prev }
  | .addLogChange =>
    if s.logs = [] then .error .indexOutOfRange else .ok { s with logs := s.logs.dropLast }
  | .accessListAddAccountChange address =>
    .ok { s with accessList := s.accessList.deleteAddress address }
  | .accessListAddSlotChange address slot =>
    (s.accessList.deleteSlot address slot).map fun al => { s with accessList := al }
  | .precompileCallChange snapshot events => revertMultiStore s snapshot events
  | .createContractChange account =>
    revertObject env s account fun obj => { obj with newContract := false }

/-- One turn of `journal.Revert`: undo the last entry and its dirty count. -/
def revertLast (entry : JournalEntry) : Except DbPanic StateDb := do
  let s ← revertEntry env s entry
  pure { s with journal := s.journal.undoLast entry }

/-- `journal.Revert`: the entries from the snapshot on, last first. -/
def revertJournal (snapshot : ℕ) : Except DbPanic StateDb :=
  (s.journal.entries.drop snapshot).reverse.foldlM (revertLast env) s

/-- The binary search returns the first revision whose id is not below the given one. -/
def revertToSnapshot (revid : ℤ) : Except DbPanic StateDb :=
  let idx := s.validRevisions.findIdx fun revision => revid ≤ revision.id
  match s.validRevisions[idx]? with
  | none => .error (.revision revid)
  | some revision =>
    if revision.id ≠ revid then .error (.revision revid)
    else do
      let s := { s with ctx := { s.ctx with events := revision.events } }
      let s ← revertJournal env s revision.journalIndex
      pure { s with validRevisions := s.validRevisions.take idx }

end StateDb

end OgEvm
