import OgEvm.LibLayers
import Mathlib.Data.List.AList
import Mathlib.Data.List.Sort

/- snapshotkv.Store and snapshotmulti.Store. The cache-wrap layers come from the
store library, which is not part of the repository: a layer is a change set read
through to its parent and flushed into it by Write. -/
namespace OgEvm

open Layers

inductive StorePanic where
  | snapshotIndex (target : ℤ) (bound : ℕ)
  | notRegistered
  | nilStore
  deriving DecidableEq, Repr

/-- A cache-wrap over a store of the surrounding multistore. -/
structure CacheWrap (κ ν : Type) where
  parent : κ → Option ν
  cache : Overlay κ ν

namespace Snapshotkv

variable {κ ν : Type}

/-- `cacheStores` is bottom first, as in the slice: each layer wraps the one before. -/
structure Store (κ ν : Type) where
  initialStore : CacheWrap κ ν
  cacheStores : List (Overlay κ ν)

def newStore (store : CacheWrap κ ν) : Store κ ν := ⟨store, []⟩

/-- What the initial store shows, which the layers are read over. -/
def initialView (s : Store κ ν) : κ → Option ν := through s.initialStore.cache s.initialStore.parent

/-- `CurrentStore().Get`. -/
def get (s : Store κ ν) (key : κ) : Option ν :=
  s.cacheStores.foldl (fun view layer => through layer view) (initialView s) key

/-- `CurrentStore().Set` and `.Delete`: the topmost layer records the change. -/
def put [DecidableEq κ] (s : Store κ ν) (key : κ) (value : Option ν) : Store κ ν :=
  match s.cacheStores.getLast? with
  | none => { s with initialStore := { s.initialStore with cache := record s.initialStore.cache key value } }
  | some top => { s with cacheStores := s.cacheStores.dropLast ++ [record top key value] }

/-- Layers are written from the top down, then the initial store into its parent. -/
def commit (s : Store κ ν) : Store κ ν where
  initialStore := ⟨through (collapse s.initialStore.cache s.cacheStores) s.initialStore.parent, untouched⟩
  cacheStores := []

def snapshot (s : Store κ ν) : Store κ ν × ℤ :=
  ({ s with cacheStores := s.cacheStores ++ [untouched] }, (s.cacheStores.length + 1 : ℕ) - 1)

def revertToSnapshot (s : Store κ ν) (target : ℤ) : Except StorePanic (Store κ ν) :=
  if target < 0 ∨ (s.cacheStores.length : ℤ) ≤ target then
    .error (.snapshotIndex target s.cacheStores.length)
  else .ok { s with cacheStores := s.cacheStores.take target.toNat }

end Snapshotkv

namespace Snapshotmulti

variable {σ κ ν : Type} [DecidableEq σ]

/-- `head` is a Go int of its own, not derived from the stacks. -/
structure Store (σ κ ν : Type) where
  stores : AList fun _ : σ => Snapshotkv.Store κ ν
  storeKeys : List σ
  head : ℤ

def initialHead : ℤ := 0

/-- `NewStoreWithKVStores`: one snapshot store per key of the given map, the keys
ordered by name. -/
def newStoreWithKVStores (name : σ → String) (stores : AList fun _ : σ => CacheWrap κ ν) :
    Store σ κ ν where
  stores := stores.keys.foldr (fun key built =>
    match stores.lookup key with
    | none => built
    | some store => built.insert key (Snapshotkv.newStore store)) ∅
  storeKeys := stores.keys.insertionSort fun first second => name first ≤ name second
  head := initialHead

/-- The loops over `storeKeys`; a nil map entry would be dereferenced. -/
def eachStore (act : Snapshotkv.Store κ ν → Except StorePanic (Snapshotkv.Store κ ν)) :
    List σ → (AList fun _ : σ => Snapshotkv.Store κ ν) →
      Except StorePanic (AList fun _ : σ => Snapshotkv.Store κ ν)
  | [], stores => .ok stores
  | key :: rest, stores =>
    match stores.lookup key with
    | none => .error .nilStore
    | some store => do
      let changed ← act store
      eachStore act rest (stores.insert key changed)

def snapshot (s : Store σ κ ν) : Except StorePanic (Store σ κ ν × ℤ) := do
  let stores ← eachStore (fun store => .ok (Snapshotkv.snapshot store).1) s.storeKeys s.stores
  let head := s.head + 1
  pure ({ s with stores := stores, head := head }, head - 1)

def revertToSnapshot (s : Store σ κ ν) (target : ℤ) : Except StorePanic (Store σ κ ν) := do
  let stores ← eachStore (fun store => Snapshotkv.revertToSnapshot store target) s.storeKeys s.stores
  pure { s with stores := stores, head := target }

def write (s : Store σ κ ν) : Except StorePanic (Store σ κ ν) := do
  let stores ← eachStore (fun store => .ok (Snapshotkv.commit store)) s.storeKeys s.stores
  pure { s with stores := stores, head := initialHead }

/-- `GetKVStore(key).Get(k)`. -/
def get (s : Store σ κ ν) (key : σ) (k : κ) : Except StorePanic (Option ν) :=
  match s.stores.lookup key with
  | none => .error .notRegistered
  | some store => .ok (Snapshotkv.get store k)

/-- `GetKVStore(key).Set(k, v)`, or `.Delete(k)` for no value. -/
def put [DecidableEq κ] (s : Store σ κ ν) (key : σ) (k : κ) (value : Option ν) :
    Except StorePanic (Store σ κ ν) :=
  match s.stores.lookup key with
  | none => .error .notRegistered
  | some store => .ok { s with stores := s.stores.insert key (Snapshotkv.put store k value) }

/-- Contents of the store a registered cache-wrap writes into. -/
def underlying (s : Store σ κ ν) (key : σ) : Option (κ → Option ν) :=
  (s.stores.lookup key).map fun store => store.initialStore.parent

/-- Stores live behind pointers: a method changes the object its receiver points to. -/
abbrev Heap (σ κ ν : Type) : Type := ℕ → Store σ κ ν

/-- `CacheMultiStore` pushes a layer and returns its own receiver; `CacheWrap` and
`CacheWrapWithTrace` are the same call. -/
def cacheMultiStore (heap : Heap σ κ ν) (s : ℕ) : Except StorePanic (Heap σ κ ν × ℕ) := do
  let (pushed, _) ← snapshot (heap s)
  pure (Function.update heap s pushed, s)

end Snapshotmulti

end OgEvm
