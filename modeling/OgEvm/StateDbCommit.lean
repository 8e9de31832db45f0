import OgEvm.StateDb

/- Writing the StateDB out: `Commit` to the transaction's context, and the flush of
the pending state into the cache context that precedes every precompile call. -/
namespace OgEvm

open Layers

/-- An error value with its registered code and its text. -/
abbrev GoError : Type := ErrCode × String

def hexDigit (nibble : ℕ) : Char := (("0123456789abcdef".toList)[nibble]?).getD '0'

def nibbles (bytes : Bytes) : List ℕ := bytes.flatMap fun byte => [byte.toNat / 16, byte.toNat % 16]

/-- `Address.Hex`, with the letters of the checksum in upper case. -/
def addressHex (env : Env) (addr : Address) : String :=
  let digits := (nibbles addr.toList).map hexDigit
  let checks := nibbles (env.keccak (digits.map fun digit => digit.val.toUInt8)).toList
  "0x" ++ String.ofList ((digits.zip checks).map fun (digit, check) =>
    if '9' < digit ∧ 7 < check then digit.toUpper else digit)

def sortedKeys (storage : Storage) : List Hash :=
  storage.keys.insertionSort fun first second => first.toList ≤ second.toList

def CacheCtx.context (cache : CacheCtx) : Context := ⟨cache.copies.current, cache.events⟩

def CacheCtx.withContext (cache : CacheCtx) (ctx : Context) : CacheCtx :=
  { cache with copies := { cache.copies with current := ctx.store }, events := ctx.events }

namespace StateDb

variable (env : Env) (s : StateDb)

/-- One dirty slot: written to the keeper and kept as the new origin. The value has
32 bytes, so the branches for an empty one are never taken. -/
def flushSlot (keepDirty : Bool) (flushed : VmStore × StateObject) (key : Hash) : VmStore × StateObject :=
  let (store, obj) := flushed
  let value := (obj.dirtyStorage.lookup key).getD zeroHash
  let valueBytes := value.toList
  let store :=
    if valueBytes.length = 0 then Keeper.deleteState store obj.address key
    else Keeper.setState store obj.address key valueBytes
  let obj := { obj with originStorage :=
    if valueBytes.length = 0 then obj.originStorage.erase key
    else obj.originStorage.insert key value }
  (store, if keepDirty then obj else { obj with dirtyStorage := obj.dirtyStorage.erase key })

def flushCode (store : VmStore) (obj : StateObject) : VmStore :=
  match obj.code with
  | none => store
  | some code =>
    if obj.dirtyCode then
      if code.length = 0 then Keeper.deleteCode store obj.account.codeHash
      else Keeper.setCode store obj.account.codeHash code
    else store

/-- The body of the loop of `commitWithCtx`. -/
def commitObject (keepDirty : Bool) (ctx : Context) (obj : StateObject) :
    Except Fault (Context × StateObject) :=
  if obj.selfDestructed then
    ((Keeper.deleteAccount env ctx obj.address).mapError (Precisebank.wrapFault
      ("failed to delete account " ++ addressHex env obj.address))).map fun ctx => (ctx, obj)
  else do
    let ctx ← (Keeper.setAccount env (ctx.withStore (flushCode ctx.store obj)) obj.address
      obj.account).mapError (Precisebank.wrapFault "failed to set account")
    let (store, obj) := (sortedKeys obj.dirtyStorage).foldl (flushSlot keepDirty) (ctx.store, obj)
    pure (ctx.withStore store, obj)

/-- The loop of `commitWithCtx`; an error returns with what is written so far. -/
def commitObjects (env : Env) (keepDirty : Bool) :
    List Address → StateDb → Context → Except DbPanic (StateDb × Context × Option GoError)
  | [], s, ctx => .ok (s, ctx, none)
  | addr :: rest, s, ctx =>
    match s.stateObjects addr with
    | none => .error .nilObject
    | some obj =>
      match commitObject env keepDirty ctx obj with
      | .error (.panic cause) => .error (.keeper cause)
      | .error (.error code text) => .ok (s, ctx, some (code, text))
      | .ok (ctx, obj) => commitObjects env keepDirty rest (setStateObject s obj) ctx

def commitWithCtx (ctx : Context) (keepDirty : Bool) :
    Except DbPanic (StateDb × Context × Option GoError) :=
  commitObjects env keepDirty s.journal.sortedDirties s ctx

/-! The cache context. -/

/-- `cache`: a branch of the transaction's context with an event manager of its own. -/
def cache : StateDb := { s with cacheCtx := some ⟨⟨s.ctx.store, []⟩, [], .cacheEvents⟩ }

def getCacheContext : CacheCtx × StateDb :=
  match s.cacheCtx with
  | some cache => (cache, s)
  | none => (⟨⟨s.ctx.store, []⟩, [], .cacheEvents⟩, cache s)

def multiStoreSnapshot : Except DbPanic (ℤ × StateDb) :=
  match s.cacheCtx with
  | none => .error .nilSnapshotter
  | some cache =>
    .ok (cache.copies.saved.length, { s with cacheCtx := some { cache with copies := cache.copies.push } })

def maxPrecompileCalls : UInt8 := 20

def addPrecompileFn (snapshot : ℤ) (events : List Event) : StateDb × Option GoError :=
  let s := append s (.precompileCallChange snapshot events)
  let s := { s with precompileCallsCounter := s.precompileCallsCounter + 1 }
  if s.precompileCallsCounter > maxPrecompileCalls then
    (s, some (.other, "max calls to precompiles (20) reached"))
  else (s, none)

def commitWithCacheCtx : Except DbPanic (StateDb × Option GoError) :=
  match s.cacheCtx with
  | none => .error .nilSnapshotter
  | some cache => do
    let (s, ctx, err) ← commitWithCtx env s cache.context true
    pure ({ s with cacheCtx := some (cache.withContext ctx) }, err)

/-- The `writeCache` closure. -/
def writeCache (cache : CacheCtx) : StateDb :=
  let events := match cache.writeCache with
    | .cacheEvents => cache.events
    | .captured events => events
  { s with
    ctx := ⟨cache.copies.current, s.ctx.events ++ events⟩
    cacheCtx := some { cache with copies := cache.copies.commit } }

def commit : Except DbPanic (StateDb × Option GoError) := do
  let s := match s.cacheCtx with
    | none => s
    | some cache => writeCache s cache
  let (s, ctx, err) ← commitWithCtx env s s.ctx false
  pure ({ s with ctx := ctx }, err)

end StateDb

end OgEvm
