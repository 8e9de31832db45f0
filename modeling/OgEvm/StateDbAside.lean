import OgEvm.StateDbHistory

/- What the operations of the EVM leave alone: the two contexts and the counter of
precompile calls. Only calls, reverts and commits touch them. -/
namespace OgEvm.StateDb

open ExceptFacts

variable {env : Env} {s t u : StateDb}

theorem Aside.refl (s : StateDb) : Aside s s := ⟨rfl, rfl, rfl⟩

theorem Aside.trans (first : Aside s t) (second : Aside t u) : Aside s u :=
  ⟨second.ctx.trans first.ctx, second.cacheCtx.trans first.cacheCtx, second.counter.trans first.counter⟩

theorem Aside.set (aside : Aside s t) (obj : StateObject) : Aside s (setStateObject t obj) :=
  ⟨aside.ctx, aside.cacheCtx, aside.counter⟩

theorem Aside.cacheCopies (aside : Aside s t) : cacheCopies t = cacheCopies s := by
  unfold StateDb.cacheCopies
  rw [aside.ctx, aside.cacheCtx]

theorem Edits.leaves {allow : Address → WriteKind → Prop} (edits : Edits env allow s t) : Aside s t := by
  refine edits.keeps (Aside s) (fun u v aside edit => aside.trans ?_) (Aside.refl s)
  cases edit with
  | load load => cases load <;> exact ⟨rfl, rfl, rfl⟩
  | _ => exact ⟨rfl, rfl, rfl⟩

/-- The operations of the EVM apart from reverts. -/
theorem Op.run_aside {op : Op} (success : op.run env s = .ok t) (forward : ∀ revid, op ≠ .revertToSnapshot revid) :
    Aside s t := by
  rcases Op.run_cases success forward fun _ _ _ => trivial with edits | beside
  · exact edits.leaves
  · exact beside.aside

theorem setNonce_aside (env : Env) (s : StateDb) (addr : Address) (nonce : UInt64) :
    Aside s (setNonce env s addr nonce) :=
  Op.run_aside (show (Op.setNonce addr nonce).run env s = .ok _ from rfl) (by simp)

theorem ask_aside (env : Env) (s : StateDb) (query : Query) : Aside s (ask env s query).2 :=
  ((ask_loads env s query).edits : Edits env (fun _ _ => True) s _).leaves

theorem loading_aside {addr : Address} {found : Option StateObject}
    (loading : getStateObject env s addr = (found, t)) : Aside s t :=
  (loading_edits loading : Edits env (fun _ _ => True) s t ∧ _).1.leaves

/-- Preparing a transaction does not touch them either. -/
theorem begin_aside {ctx : Context} {txConfig : TxConfig} {preparation : Option Preparation}
    (started : begin ctx txConfig preparation = .ok s) : Aside (new ctx txConfig) s := by
  cases preparation with
  | none =>
    cases started
    exact Aside.refl _
  | some p =>
    change prepare _ _ _ _ _ _ _ = .ok s at started
    unfold prepare at started
    split at started
    · cases started
    · obtain ⟨al, -, started⟩ := bind_ok started
      cases started
      exact ⟨rfl, rfl, rfl⟩

/-! Flushes and the balance handler. -/

theorem commitObjects_aside {keepDirty : Bool} {addrs : List Address} {ctx after : Context}
    {err : Option GoError} (success : commitObjects env keepDirty addrs s ctx = .ok (t, after, err)) : Aside s t :=
  commitObjects_invariant (fun u _ => Aside s u) success (Aside.refl s)
    fun _ _ _ _ _ changed aside _ _ => aside.set changed

theorem afterEvents_aside (env : Env) (events : List Event) (s : StateDb) :
    Aside s (BalanceHandler.afterEvents env events s).1 :=
  (afterEvents_edits env events s fun _ => trivial : Edits env (fun _ _ => True) s _).leaves

end OgEvm.StateDb
