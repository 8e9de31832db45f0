import OgEvm.NoLostWrite

/- Transactions whose precompile calls run further messages: every message has a
StateDB of its own over the context it is given and commits to it. -/
namespace OgEvm.StateDb

/-- An operation that neither goes back nor resets or destructs an account. -/
structure DirectOp where
  op : Op
  plain : op.Plain
  onward : ∀ revid, op ≠ .revertToSnapshot revid

mutual

/-- What a message does: operations, and calls of precompiles whose native action runs
committed messages; the flag says whether the precompile has a balance handler. -/
inductive Script where
  | done
  | op (direct : DirectOp) (rest : Script)
  | call (balanceHandler : Bool) (nested : Messages) (rest : Script)

inductive Messages where
  | none
  | next (preparation : Option Preparation) (message : Script) (rest : Messages)

end

mutual

def Script.run (env : Env) : Script → StateDb → Except DbPanic (StateDb × Option GoError)
  | .done, s => .ok (s, .none)
  | .op direct rest, s => do
    let s ← direct.op.run env s
    rest.run env s
  | .call balanceHandler nested rest, s => do
    let (s, err) ← runNativeAction env ⟨fun ctx => nested.run env ctx, balanceHandler⟩ s
    match err with
    | some err => pure (s, some err)
    | .none => rest.run env s

/-- `CallEVM` with commit, message after message. -/
def Messages.run (env : Env) : Messages → Context → Except DbPanic (Context × Option GoError)
  | .none, ctx => .ok (ctx, .none)
  | .next preparation message rest, ctx => do
    let start ← begin ctx ⟨zeroHash, 0⟩ preparation
    let (s, err) ← message.run env start
    match err with
    | some err => pure (ctx, some err)
    | .none => do
      let (s, err) ← commit env s
      match err with
      | some err => pure (s.ctx, some err)
      | .none => rest.run env s.ctx

end

/-! The same writes in program order on one storage. -/

abbrev OneStorage : Type := Address → Hash → Hash

def Op.exec (storage : OneStorage) : Op → OneStorage
  | .setState addr key value => Function.update storage addr (Function.update (storage addr) key value)
  | _ => storage

mutual

def Script.exec : Script → OneStorage → OneStorage
  | .done, storage => storage
  | .op direct rest, storage => rest.exec (direct.op.exec storage)
  | .call _ nested rest, storage => rest.exec (nested.exec storage)

def Messages.exec : Messages → OneStorage → OneStorage
  | .none, storage => storage
  | .next _ message rest, storage => rest.exec (message.exec storage)

end

def Op.writes : Op → List (Address × Hash)
  | .setState addr key _ => [(addr, key)]
  | _ => []

mutual

def Script.writes : Script → List (Address × Hash)
  | .done => []
  | .op direct rest => direct.op.writes ++ rest.writes
  | .call _ nested rest => nested.writes ++ rest.writes

def Messages.writes : Messages → List (Address × Hash)
  | .none => []
  | .next _ message rest => message.writes ++ rest.writes

end

/-! What the StateDBs of a run show after each call, at every level. -/

/-- After a call `GetState` returns what its messages left in the slots they wrote. -/
def ShowsWritten (env : Env) (t : StateDb) (written : List (Address × Hash)) : Prop :=
  ∀ slot ∈ written, (getState env t slot.1 slot.2).1 =
    Keeper.getState (cacheCopies t).current slot.1 slot.2

mutual

def Script.Shown (env : Env) : Script → StateDb → Prop
  | .done, _ => True
  | .op direct rest, s => ∀ t, direct.op.run env s = .ok t → rest.Shown env t
  | .call balanceHandler nested rest, s =>
    (∀ u, enterPrecompile env s = .ok (u, .none) → nested.Shown env (cacheContext u)) ∧
    ∀ t, runNativeAction env ⟨fun ctx => nested.run env ctx, balanceHandler⟩ s = .ok (t, .none) →
      ShowsWritten env t nested.writes ∧ rest.Shown env t

def Messages.Shown (env : Env) : Messages → Context → Prop
  | .none, _ => True
  | .next preparation message rest, ctx =>
    ∀ start, begin ctx ⟨zeroHash, 0⟩ preparation = .ok start →
      message.Shown env start ∧
      ∀ s, message.run env start = .ok (s, .none) → ∀ t, commit env s = .ok (t, .none) →
        rest.Shown env t.ctx

end

/-! Every call, at every level, finds a storage that its messages leave as it is. -/

mutual

def Script.Restores : Script → OneStorage → Prop
  | .done, _ => True
  | .op direct rest, storage => rest.Restores (direct.op.exec storage)
  | .call _ nested rest, storage =>
    nested.Restores storage ∧ nested.exec storage = storage ∧ rest.Restores storage

def Messages.Restores : Messages → OneStorage → Prop
  | .none, _ => True
  | .next _ message rest, storage => message.Restores storage ∧ rest.Restores (message.exec storage)

end

/-- An account that does not exist has no storage. -/
def NoOrphans (env : Env) (store : VmStore) : Prop :=
  ∀ addr, Keeper.getAccount env store addr = none → ∀ key, Keeper.getState store addr key = zeroHash

end OgEvm.StateDb
