import OgEvm.EventLog
import OgEvm.StateDbAside

/- The Cosmos events of precompile calls. They are collected by the event manager of the
cache context and handed over by `Commit`, to the manager the StateDB holds by then: a
revert has replaced the one it was created with. -/
namespace OgEvm.StateDb

open ExceptFacts

/-- A native action emits events and takes none back. -/
def Emits (action : NativeAction) : Prop :=
  ∀ ctx after err, action ctx = .ok (after, err) → ctx.events <+: after.events

def cacheEvents (s : StateDb) : List Event := (s.cacheCtx.map CacheCtx.events).getD []

/-- A precompile call: its place in the journal and the events it added to the cache context. -/
structure CallEvents where
  place : ℕ
  events : List Event

/-- The StateDB of a run, whether its context still has the event manager it was created
with, and the calls that were not undone. -/
structure Observed where
  db : StateDb
  attached : Bool
  calls : List CallEvents

namespace Observed

def survivingEvents (o : Observed) : List Event := o.calls.flatMap CallEvents.events

/-- A revert replaces the event manager and undoes the calls above its journal index. -/
def step (env : Env) (o : Observed) (taken : Step) : Except DbPanic Observed :=
  (taken.run env o.db).map fun t =>
    match taken with
    | .precompile _ =>
      { o with
        db := t
        calls := o.calls ++ [⟨o.db.journal.entries.length, (cacheEvents t).drop (cacheEvents o.db).length⟩] }
    | .op (.revertToSnapshot _) =>
      { db := t
        attached := false
        calls := o.calls.filter fun call => call.place < t.journal.entries.length }
    | .op _ => { o with db := t }

def steps (env : Env) (o : Observed) (taken : List Step) : Except DbPanic Observed :=
  taken.foldlM (step env) o

/-- What `writeCache` emits when `Commit` calls it, as far as the event manager of the
creating context sees it. -/
def handedEvents (o : Observed) : List Event :=
  match o.attached, o.db.cacheCtx with
  | true, some cache => (writeCache o.db cache).ctx.events.drop o.db.ctx.events.length
  | _, _ => []

end Observed

section

variable {env : Env} {s t : StateDb}

theorem enterPrecompile_cache {err : Option GoError} (success : enterPrecompile env s = .ok (t, err)) :
    ∃ cache, t.cacheCtx = some cache ∧ cache.writeCache = (getCacheContext s).1.writeCache ∧
      (getCacheContext s).1.events <+: cache.events := by
  rcases enterPrecompile_cases success with ⟨rfl, -⟩ | ⟨cache, u, ctx, held, flushed, rfl⟩
  · exact ⟨_, rfl, rfl, List.prefix_refl _⟩
  · cases held
    exact ⟨_, rfl, rfl, commitObjects_logged flushed⟩

/-- A call keeps the events that were there and the closure that will write them. -/
theorem runNativeAction_cache {p : Precompile} (emits : Emits p.action) {err : Option GoError}
    (success : runNativeAction env p s = .ok (t, err)) :
    ∃ cache, t.cacheCtx = some cache ∧ cache.writeCache = (getCacheContext s).1.writeCache ∧
      (getCacheContext s).1.events <+: cache.events := by
  rcases runNativeAction_cases success with ⟨-, began⟩ | ⟨u, ctx, failed, events, began, acted, -, rfl⟩
  · exact enterPrecompile_cache began
  · obtain ⟨cache, held, closure, logged⟩ := enterPrecompile_cache began
    refine ⟨cache.withContext ctx, ?_, closure, ?_⟩
    · rw [(afterEvents_aside env events _).cacheCtx]
      simp only [withCacheContext, held, Option.map_some]
    · have added := emits _ _ _ acted
      simp only [cacheContext, held] at added
      exact logged.trans added

theorem getCacheContext_events (s : StateDb) : (getCacheContext s).1.events = cacheEvents s := by
  unfold getCacheContext cacheEvents
  cases s.cacheCtx <;> rfl

/-- Without a revert the cache context holds the events of all calls. -/
structure Undisturbed (o : Observed) : Prop where
  attached : o.attached = true
  events : cacheEvents o.db = o.survivingEvents
  closure : (getCacheContext o.db).1.writeCache = .cacheEvents

theorem Undisturbed.aside {o : Observed} (undisturbed : Undisturbed o) (aside : Aside o.db t) :
    Undisturbed { o with db := t } := by
  refine ⟨undisturbed.attached, ?_, ?_⟩
  · unfold cacheEvents
    rw [aside.cacheCtx]
    exact undisturbed.events
  · have closure := undisturbed.closure
    unfold getCacheContext at closure ⊢
    rw [aside.cacheCtx]
    cases held : o.db.cacheCtx with
    | none => rfl
    | some cache =>
      rw [held] at closure
      exact closure

/-- Step: a call adds its events behind the others. -/
theorem Undisturbed.step {o after : Observed} {taken : Step} (undisturbed : Undisturbed o)
    (emits : ∀ p, taken = .precompile p → Emits p.action)
    (forward : ∀ revid, taken ≠ .op (.revertToSnapshot revid)) (success : o.step env taken = .ok after) :
    Undisturbed after := by
  obtain ⟨t, ran, rfl⟩ := map_ok success
  cases taken with
  | precompile p =>
    obtain ⟨⟨u, err⟩, called, rfl⟩ := map_ok ran
    obtain ⟨cache, held, closure, logged⟩ := runNativeAction_cache (emits p rfl) called
    rw [getCacheContext_events] at logged
    have now : cacheEvents u = cache.events := by
      unfold cacheEvents
      rw [held]
      rfl
    refine ⟨undisturbed.attached, ?_, ?_⟩
    · change cacheEvents u = (o.calls ++ [_]).flatMap CallEvents.events
      rw [List.flatMap_append, List.flatMap_singleton]
      change cacheEvents u = o.survivingEvents ++ (cacheEvents u).drop (cacheEvents o.db).length
      rw [← undisturbed.events, now]
      exact (List.prefix_iff_eq_append.mp logged).symm
    · unfold getCacheContext
      rw [held]
      exact closure.trans undisturbed.closure
  | op op =>
    have aside := Op.run_aside ran fun revid same => forward revid (congrArg Step.op same)
    cases op with
    | revertToSnapshot revid => exact absurd rfl (forward revid)
    | _ => exact undisturbed.aside aside

/-- Run: without reverts the events of all calls are kept in order. -/
theorem Undisturbed.steps {o after : Observed} {taken : List Step} (undisturbed : Undisturbed o)
    (emits : ∀ p, Step.precompile p ∈ taken → Emits p.action)
    (forward : ∀ revid, Step.op (.revertToSnapshot revid) ∉ taken) (success : o.steps env taken = .ok after) :
    Undisturbed after := by
  refine foldlM_invariant Undisturbed ?_ undisturbed success
  intro step member before after holds stepped
  refine holds.step ?_ ?_ stepped
  · intro p same
    exact emits p (same ▸ member)
  · intro revid same
    exact forward revid (same ▸ member)

theorem step_attached {o after : Observed} {taken : Step} (success : o.step env taken = .ok after) :
    after.attached = true → o.attached = true ∧ ∀ revid, taken ≠ .op (.revertToSnapshot revid) := by
  obtain ⟨t, -, rfl⟩ := map_ok success
  intro attached
  cases taken with
  | precompile p => exact ⟨attached, nofun⟩
  | op op =>
    cases op with
    | revertToSnapshot revid => cases attached
    | _ => exact ⟨attached, nofun⟩

/-- A manager that is still in place has seen no revert. -/
theorem steps_attached {o after : Observed} {taken : List Step} (success : o.steps env taken = .ok after)
    (attached : after.attached = true) : ∀ revid, Step.op (.revertToSnapshot revid) ∉ taken := by
  have run : ∀ (rest : List Step) (o : Observed), o.steps env rest = .ok after →
      o.attached = true ∧ ∀ revid, Step.op (.revertToSnapshot revid) ∉ rest := by
    intro rest
    induction rest with
    | nil =>
      intro o success
      cases success
      exact ⟨attached, nofun⟩
    | cons step rest ih =>
      intro o success
      unfold Observed.steps at success
      rw [List.foldlM_cons] at success
      obtain ⟨next, stepped, success⟩ := bind_ok success
      obtain ⟨still, clear⟩ := ih next success
      obtain ⟨before, here⟩ := step_attached stepped still
      refine ⟨before, ?_⟩
      intro revid member
      rcases List.mem_cons.mp member with same | later
      · exact here revid same.symm
      · exact clear revid later
  exact (run taken o success).2

theorem Undisturbed.handed {o : Observed} (undisturbed : Undisturbed o) : o.handedEvents = o.survivingEvents := by
  have events := undisturbed.events
  have closure := undisturbed.closure
  unfold Observed.handedEvents
  rw [undisturbed.attached, ← events]
  unfold cacheEvents
  unfold getCacheContext at closure
  cases held : o.db.cacheCtx with
  | none => rfl
  | some cache =>
    rw [held] at closure
    dsimp only at closure
    simp only [writeCache, closure, List.drop_left, Option.map_some, Option.getD_some]

/-- `Commit` hands the events of the surviving calls to the event manager of the creating
context exactly when the transaction has not reverted to a snapshot, unless there are none. -/
theorem handedEvents_iff {ctx : Context} {txConfig : TxConfig} {preparation : Option Preparation}
    (started : begin ctx txConfig preparation = .ok s) {taken : List Step}
    (emits : ∀ p, Step.precompile p ∈ taken → Emits p.action) {o : Observed}
    (ran : Observed.steps env ⟨s, true, []⟩ taken = .ok o) :
    o.handedEvents = o.survivingEvents ↔
      (∀ revid, Step.op (.revertToSnapshot revid) ∉ taken) ∨ o.survivingEvents = [] := by
  have absent : s.cacheCtx = none := (begin_aside started).cacheCtx
  have fresh : Undisturbed ⟨s, true, []⟩ := by
    refine ⟨rfl, ?_, ?_⟩
    · unfold cacheEvents
      rw [absent]
      rfl
    · unfold getCacheContext
      rw [absent]
  constructor
  · intro handed
    cases attached : o.attached with
    | true => exact Or.inl (steps_attached ran attached)
    | false =>
      apply Or.inr
      rw [← handed]
      unfold Observed.handedEvents
      rw [attached]
  · rintro (forward | nothing)
    · exact (fresh.steps emits forward ran).handed
    · cases attached : o.attached with
      | true => exact (fresh.steps emits (steps_attached ran attached) ran).handed
      | false =>
        rw [nothing]
        unfold Observed.handedEvents
        rw [attached]

end

/-! A transaction with a frame that reverts. -/

/-- A precompile that emits one event. -/
def pinging : Precompile := ⟨fun ctx => .ok ({ ctx with events := ctx.events ++ [.other "ping"] }, none), false⟩

theorem pinging_emits : Emits pinging.action := by
  intro ctx after err acted
  cases acted
  exact List.prefix_append _ _

def pingStart : StateDb := new ⟨emptyStore, []⟩ ⟨zeroHash, 0⟩

theorem pingStart_begin : begin ⟨emptyStore, []⟩ ⟨zeroHash, 0⟩ none = .ok pingStart := rfl

def pingRun (taken : List Step) : Except DbPanic Observed := Observed.steps toyEnv ⟨pingStart, true, []⟩ taken

theorem handedEvents_iff_pinging :
    (pingRun [.precompile pinging, .precompile pinging]).toOption.map Observed.handedEvents =
      some [.other "ping", .other "ping"] := by
  have survived : (pingRun [.precompile pinging, .precompile pinging]).toOption.map Observed.survivingEvents =
      some [.other "ping", .other "ping"] := by
    decide +kernel
  obtain ⟨o, ran, events⟩ := Option.map_eq_some_iff.mp survived
  have emits : ∀ p, Step.precompile p ∈ [Step.precompile pinging, .precompile pinging] → Emits p.action := by
    intro p member
    have same : p = pinging := by simpa using member
    rw [same]
    exact pinging_emits
  have handed := (handedEvents_iff pingStart_begin emits (toOption_some ran)).mpr (Or.inl (by simp))
  rw [ran, Option.map_some, handed, events]

/-- An inner frame reverts after the call, and the call's event is gone. -/
theorem pinging_lost :
    (pingRun [.precompile pinging, .op .snapshot, .op (.revertToSnapshot 0)]).toOption.map
        (fun o => (o.survivingEvents, o.handedEvents)) =
      some ([.other "ping"], []) := by
  decide +kernel

end OgEvm.StateDb
