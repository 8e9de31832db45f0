import OgEvm.AccountStanding
import OgEvm.StateDbPersist
import OgEvm.StateTransition

/- Runs of go-ethereum's interpreter over the StateDB. Before an operation that could
harm an account the interpreter has asked for its nonce or its mark; that is all that is
assumed of it. A property that every permitted step keeps is kept by a whole run, with
every frame that is reverted on the way. -/
namespace OgEvm.Vm

open ExceptFacts StateDb

/-- The account is there, with at least the sequence. -/
def SequenceAtLeast (store : VmStore) (addr : Address) (nonce : UInt64) : Prop :=
  ∃ account, store.accounts addr.toList = some account ∧ nonce ≤ account.sequence

/-- No sequence is lowered and no account removed. -/
def SequencesKept (before after : VmStore) : Prop :=
  ∀ addr nonce, SequenceAtLeast before addr nonce → SequenceAtLeast after addr nonce

def KeepsSequences (action : NativeAction) : Prop :=
  ∀ ctx after err, action ctx = .ok (after, err) → SequencesKept ctx.store after.store

/-- What holds when the interpreter takes a step. A nonce is raised; an account is created
where none exists and a contract where the nonce is zero; code is set for a new contract.
Before EIP-6780 a contract destructs itself at any time, but an account that signs
transactions is none. -/
def Permitted (env : Env) (signs : Address → Prop) (s : StateDb) : Step → Prop
  | .op (.setNonce addr nonce) => (getNonce env s addr).1 ≤ nonce
  | .op (.createAccount addr) => (exist env s addr).1 = false
  | .op (.createContract addr) => (getNonce env s addr).1 = 0
  | .op (.setCode addr _) => (isNewContract env s addr).1 = true
  | .op (.selfDestruct addr) => ¬ signs addr
  | .op _ => True
  | .precompile p => KeepsSequences p.action

inductive EvmRun (env : Env) (signs : Address → Prop) : StateDb → StateDb → Prop where
  | done (s : StateDb) : EvmRun env signs s s
  | step {s t u : StateDb} {step : Step} (permitted : Permitted env signs s step)
      (success : step.run env s = .ok t) (rest : EvmRun env signs t u) : EvmRun env signs s u

def Reads (env : Env) (s t : StateDb) : Prop :=
  ∃ queries : List Query, t = queries.foldl (fun s query => (ask env s query).2) s

/-- A creation is refused after some reads, or it first raises the nonce of its sender. -/
def Creates (env : Env) (signs : Address → Prop) (sender : Address) (s t : StateDb) : Prop :=
  ∃ read, Reads env s read ∧ (t = read ∨ ((getNonce env read sender).1 < (getNonce env read sender).1 + 1 ∧
      EvmRun env signs (setNonce env read sender ((getNonce env read sender).1 + 1)) t))

/-- `Create` and `Call` change the state through operations of the StateDB only. -/
structure Geth (env : Env) (signs : Address → Prop) (evm : Evm) : Prop where
  call : ∀ {s sender recipient data gas value result},
    evm.call s sender recipient data gas value = .ok result → EvmRun env signs s result.state
  create : ∀ {s sender data gas value result},
    evm.create s sender data gas value = .ok result → Creates env signs sender s result.state

section

variable {env : Env} {signs : Address → Prop} {s t : StateDb}

/-- The interpreter's rule: what every permitted step forward keeps, a run keeps. -/
theorem EvmRun.tracked {extra : View → Prop} {marks : ℤ → View}
    (stable : ∀ {s t : StateDb} {step : Step}, Sound s → extra (view env noSlot s) →
      Permitted env signs s step → step.run env s = .ok t →
      (∀ revid, step ≠ .op (.revertToSnapshot revid)) → extra (view env noSlot t))
    (run : EvmRun env signs s t) (tracked : Tracked env noSlot extra (fun _ => True) marks s) :
    ∃ later, Tracked env noSlot extra (fun _ => True) later t := by
  induction run generalizing marks with
  | done s => exact ⟨marks, tracked⟩
  | step permitted success rest ih =>
    obtain ⟨later, kept, -⟩ := tracked.advance success (admissible_noSlot env _ _)
      fun forward => stable tracked.sound tracked.history.present.2 permitted success forward
    exact ih kept

theorem EvmRun.keeps {extra : View → Prop}
    (stable : ∀ {s t : StateDb} {step : Step}, Sound s → extra (view env noSlot s) →
      Permitted env signs s step → step.run env s = .ok t →
      (∀ revid, step ≠ .op (.revertToSnapshot revid)) → extra (view env noSlot t))
    (run : EvmRun env signs s t) (sound : Sound s) (empty : s.validRevisions = [])
    (start : extra (view env noSlot s)) : Sound t ∧ extra (view env noSlot t) := by
  have tracked : Tracked env noSlot extra (fun _ => True) (fun _ => view env noSlot s) s :=
    tracked_fresh sound empty start
  obtain ⟨later, kept⟩ := run.tracked stable tracked
  exact ⟨kept.sound, kept.history.present.2⟩

theorem Reads.cached (addressed : Addressed s) (reads : Reads env s t) : Cached env noSlot s t := by
  obtain ⟨queries, rfl⟩ := reads
  induction queries generalizing s with
  | nil => exact Cached.refl env noSlot s
  | cons query rest ih =>
    have first : Cached env noSlot s (ask env s query).2 := ask_cached addressed query
    exact first.trans (ih (first.addressed addressed))

end

/-! Guarded accounts. -/

/-- An account with a positive nonce that no run may lower, and its code. -/
structure Guard where
  address : Address
  nonce : UInt64
  codeHash : Hash
  code : Option Bytes
  positive : 0 < nonce

/-- The account is there, is no contract of this transaction and has what it had. -/
structure Guard.Holds (guard : Guard) (account : Standing) : Prop where
  nonce : guard.nonce ≤ account.nonce
  codeHash : account.codeHash = guard.codeHash
  code : account.code = guard.code
  alive : account.selfDestructed = false
  old : account.newContract = false

def Guard.On (guard : Guard) (accounts : Standings) : Prop :=
  ∃ account, accounts guard.address = some account ∧ guard.Holds account

variable {env : Env} {signs : Address → Prop} {s t : StateDb} {guard : Guard} {accounts : Standings}
  {addr : Address} {change : Standing → Standing}

/-- Accounts of which one is changed. -/
theorem Guard.On.changed {value : Option Standing} (on : guard.On accounts)
    (changed : ∀ account, accounts addr = some account → value = some (change account))
    (kept : ∀ account, addr = guard.address → accounts addr = some account → guard.Holds account →
      guard.Holds (change account)) : guard.On (Function.update accounts addr value) := by
  obtain ⟨account, held, holds⟩ := on
  by_cases here : addr = guard.address
  · rw [← here] at held
    refine ⟨change account, ?_, kept account here held holds⟩
    rw [← here, Function.update_self, changed account held]
  · exact ⟨account, (Function.update_of_ne (Ne.symm here) _ _).trans held, holds⟩

section

variable (on : guard.On accounts)
  (kept : ∀ account, addr = guard.address → accounts addr = some account → guard.Holds account →
    guard.Holds (change account))

include on kept

theorem Guard.On.touch : guard.On (touch env accounts addr change) :=
  on.changed (fun account held => by rw [held, Option.getD_some]) kept

theorem Guard.On.amend : guard.On (amend accounts addr change) :=
  on.changed (fun account held => by rw [held, Option.map_some]) kept

end

/-- Every permitted operation leaves a guarded account as it is, or raises its nonce. -/
theorem Guard.On.op (on : guard.On (standings env s)) (signer : signs guard.address)
    (addressed : Addressed s) {op : Op} (permitted : Permitted env signs s (.op op))
    (success : op.run env s = .ok t) (forward : ∀ revid, op ≠ .revertToSnapshot revid) :
    guard.On (standings env t) := by
  rw [run_effect addressed success forward]
  unfold Op.effect
  cases op with
  | createAccount addr =>
    have absent : (exist env s addr).1 = false := permitted
    obtain ⟨account, held, holds⟩ := on
    refine ⟨account, ?_, holds⟩
    have apart : guard.address ≠ addr := by
      rintro rfl
      rw [exist_standing, held] at absent
      cases absent
    exact (Function.update_of_ne apart _ _).trans held
  | createContract addr =>
    have unused : (getNonce env s addr).1 = 0 := permitted
    refine on.amend fun account _ held holds => ?_
    rw [getNonce_standing, held] at unused
    have positive := UInt64.lt_of_lt_of_le guard.positive holds.nonce
    rw [show account.nonce = 0 from unused] at positive
    exact absurd positive (UInt64.lt_irrefl 0)
  | addBalance addr amount => exact on.touch fun _ _ _ holds => holds
  | subBalance addr amount => exact on.touch fun _ _ _ holds => holds
  | setBalance addr amount => exact on.touch fun _ _ _ holds => holds
  | setState addr key value => exact on.touch fun _ _ _ holds => holds
  | setNonce addr nonce =>
    have raised : (getNonce env s addr).1 ≤ nonce := permitted
    refine on.touch fun account _ held holds => ?_
    rw [getNonce_standing, held] at raised
    exact { holds with nonce := UInt64.le_trans holds.nonce raised }
  | setCode addr code =>
    have created : (isNewContract env s addr).1 = true := permitted
    refine on.touch fun account _ held holds => ?_
    rw [isNewContract_standing, held] at created
    exact absurd (holds.old.symm.trans created) Bool.false_ne_true
  | selfDestruct addr =>
    have unsigned : ¬ signs addr := permitted
    refine on.amend fun account here _ _ => ?_
    rw [here] at unsigned
    exact absurd signer unsigned
  | selfDestruct6780 addr =>
    refine on.amend fun account _ _ holds => ?_
    rw [if_neg (by rw [holds.old]; exact Bool.false_ne_true)]
    exact holds
  | revertToSnapshot revid => exact absurd rfl (forward revid)
  | _ => exact on

theorem Guard.On.touched (on : guard.On accounts) {after : Standings} (touched : Touched env accounts after) :
    guard.On after := by
  obtain ⟨account, held, holds⟩ := on
  rcases touched guard.address with same | ⟨absent, -⟩
  · exact ⟨account, same.trans held, holds⟩
  · rw [absent] at held
    cases held

theorem Guard.On.step (on : guard.On (standings env s)) (signer : signs guard.address) (sound : Sound s)
    {step : Step} (permitted : Permitted env signs s step) (success : step.run env s = .ok t)
    (forward : ∀ revid, step ≠ .op (.revertToSnapshot revid)) : guard.On (standings env t) := by
  cases step with
  | op op =>
    exact on.op signer sound.addressed permitted success fun revid same =>
      forward revid (congrArg Step.op same)
  | precompile p =>
    obtain ⟨⟨after, err⟩, ran, rfl⟩ := map_ok success
    exact on.touched (runNativeAction_touched sound ran)

/-- The object of a guarded account has its nonce and is not destructed. -/
theorem Guard.On.object (on : guard.On (standings env s)) {obj : StateObject}
    (found : s.stateObjects guard.address = some obj) : guard.Holds (objStanding env s.ctx.store obj) := by
  obtain ⟨account, held, holds⟩ := on
  have shown : standings env s guard.address = some (objStanding env s.ctx.store obj) := by
    unfold standings View.standings
    rw [view_objects, found]
    rfl
  rw [← Option.some.inj (held.symm.trans shown)]
  exact holds

/-! What is written of a guarded account. -/

theorem toList_ne {addr other : Address} (apart : other ≠ addr) : other.toList ≠ addr.toList :=
  fun same => apart (Vector.toList_inj.mp same)

theorem commitObject_sequence {keepDirty : Bool} {ctx after : Context} {obj changed : StateObject}
    {nonce : UInt64} (success : commitObject env keepDirty ctx obj = .ok (after, changed))
    (kept : obj.address = addr → nonce ≤ obj.account.nonce ∧ obj.selfDestructed = false)
    (stored : SequenceAtLeast ctx.store addr nonce) : SequenceAtLeast after.store addr nonce := by
  obtain ⟨account, held, least⟩ := stored
  by_cases here : obj.address = addr
  · obtain ⟨raised, alive⟩ := kept here
    refine ⟨⟨obj.account.nonce⟩, ?_, raised⟩
    rw [commitObject_store success alive, here]
    exact Function.update_self ..
  · refine ⟨account, ?_, least⟩
    rw [← held]
    by_cases alive : obj.selfDestructed = false
    · rw [commitObject_store success alive]
      exact Function.update_of_ne (toList_ne (Ne.symm here)) _ _
    · have deleted := (commitObject_deleted success (by simpa using alive)).1
      exact (Keeper.deleteAccount_spares deleted).account addr (Ne.symm here)

/-- A flush, also one that stops with an error, lowers no guarded sequence. -/
theorem commitObjects_sequence {keepDirty : Bool} {addrs : List Address} {ctx after : Context}
    {err : Option GoError} {nonce : UInt64} (addressed : Addressed s)
    (kept : ∀ obj, s.stateObjects addr = some obj → nonce ≤ obj.account.nonce ∧ obj.selfDestructed = false)
    (success : commitObjects env keepDirty addrs s ctx = .ok (t, after, err))
    (stored : SequenceAtLeast ctx.store addr nonce) : SequenceAtLeast after.store addr nonce := by
  have whole : ∀ account obj, s.stateObjects account = some obj →
      account = addr → nonce ≤ obj.account.nonce ∧ obj.selfDestructed = false := by
    rintro account obj held rfl
    exact kept obj held
  refine (commitObjects_invariant (fun u ctx => Addressed u ∧ (∀ account obj, u.stateObjects account = some obj →
    account = addr → nonce ≤ obj.account.nonce ∧ obj.selfDestructed = false) ∧
      SequenceAtLeast ctx.store addr nonce) success ⟨addressed, whole, stored⟩ ?_).2.2
  rintro u ctx first obj middle changed ⟨home, all, least⟩ found written
  obtain rfl := home first obj found
  have own := all obj.address obj found
  refine ⟨addressed_setStateObject home changed, ?_, commitObject_sequence written own least⟩
  obtain ⟨origins, dirty, rfl⟩ := commitObject_frame written
  exact PartialMaps.forall_update all own

end OgEvm.Vm
