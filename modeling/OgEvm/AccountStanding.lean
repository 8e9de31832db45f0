import OgEvm.StateDbAside

/- The StateDB reduced to what decides who can sign and which code runs: nonce, code
and the two marks of each account. Every operation acts on that as a function of it,
whatever is cached, journaled or pending. -/
namespace OgEvm.StateDb

open Function

structure Standing where
  nonce : UInt64
  codeHash : Hash
  code : Option Bytes
  selfDestructed : Bool
  newContract : Bool

/-- The standing of every account that exists. -/
abbrev Standings : Type := Address → Option Standing

def ObjView.standing (obj : ObjView) : Standing :=
  ⟨obj.account.nonce, obj.account.codeHash, obj.code, obj.selfDestructed, obj.newContract⟩

def View.standings (v : View) : Standings := fun addr => (v.objects addr).map ObjView.standing

def standings (env : Env) (s : StateDb) : Standings := (view env noSlot s).standings

def freshStanding (env : Env) : Standing := ⟨0, env.emptyCodeHash, none, false, false⟩

/-- An account that an operation finds or creates. -/
def touch (env : Env) (accounts : Standings) (addr : Address) (change : Standing → Standing) :
    Standings :=
  update accounts addr (some (change ((accounts addr).getD (freshStanding env))))

/-- An account that an operation changes only if it is there. -/
def amend (accounts : Standings) (addr : Address) (change : Standing → Standing) : Standings :=
  update accounts addr ((accounts addr).map change)

def Op.effect (env : Env) (accounts : Standings) : Op → Standings
  | .createAccount addr => update accounts addr (some (freshStanding env))
  | .createContract addr => amend accounts addr fun account => { account with newContract := true }
  | .addBalance addr _ => touch env accounts addr id
  | .subBalance addr _ => touch env accounts addr id
  | .setBalance addr _ => touch env accounts addr id
  | .setNonce addr nonce => touch env accounts addr fun account => { account with nonce := nonce }
  | .setCode addr code => touch env accounts addr fun account =>
    { account with codeHash := env.keccak (code.getD []), code := code }
  | .setState addr _ _ => touch env accounts addr id
  | .selfDestruct addr => amend accounts addr fun account => { account with selfDestructed := true }
  | .selfDestruct6780 addr => amend accounts addr fun account =>
    if account.newContract then { account with selfDestructed := true } else account
  | _ => accounts

variable {env : Env} {s t u : StateDb} {addr : Address} {obj : StateObject}

/-- The standing an object shows. -/
def objStanding (env : Env) (base : VmStore) (obj : StateObject) : Standing :=
  (objView env noSlot base obj).standing

theorem Cached.standings (cached : Cached env noSlot s t) : standings env t = standings env s := by
  unfold StateDb.standings
  rw [cached.view]

theorem standings_set (env : Env) (s : StateDb) (obj : StateObject) : standings env (setStateObject s obj) =
      update (standings env s) obj.address (some (objStanding env s.ctx.store obj)) := by
  unfold standings
  rw [view_setStateObject]
  funext addr
  by_cases here : addr = obj.address
  · subst here
    simp [View.standings, View.setObject, objStanding]
  · simp [View.standings, View.setObject, here]

theorem standings_append (env : Env) (s : StateDb) (entry : JournalEntry) :
    standings env (append s entry) = standings env s := rfl

theorem standings_found (addressed : Addressed s) (found : getStateObject env s addr = (some obj, t)) :
    standings env t = standings env s ∧ t.ctx = s.ctx ∧ obj.address = addr ∧
      standings env s addr = some (objStanding env s.ctx.store obj) := by
  obtain ⟨address, -, cached, held⟩ :
      obj.address = addr ∧ t.stateObjects addr = some obj ∧ Cached env noSlot s t ∧
        (view env noSlot s).objects addr = some (objView env noSlot s.ctx.store obj) :=
    getStateObject_some addressed found
  refine ⟨cached.standings, cached.store, address, ?_⟩
  unfold standings View.standings
  rw [held]
  rfl

theorem standings_absent (found : getStateObject env s addr = (none, t)) : t = s ∧ standings env s addr = none := by
  obtain ⟨rfl, absent, unloaded⟩ := getStateObject_none found
  refine ⟨rfl, ?_⟩
  unfold standings View.standings
  rw [view_objects, absent, unloaded]
  rfl

section

variable (addressed : Addressed s)

include addressed

theorem standings_getOrNew (found : getOrNewStateObject env s addr = (obj, t)) :
    standings env t = touch env (standings env s) addr id ∧ t.ctx = s.ctx ∧ obj.address = addr ∧
      objStanding env s.ctx.store obj = (standings env s addr).getD (freshStanding env) := by
  unfold getOrNewStateObject at found
  rcases looked : getStateObject env s addr with ⟨_ | held, u⟩
  · obtain ⟨rfl, absent⟩ := standings_absent looked
    simp only [looked, createObject] at found
    obtain ⟨rfl, rfl⟩ := Prod.mk.inj found
    have fresh : objStanding env u.ctx.store (newObject addr (emptyAccount env)) = freshStanding env := by
      simp [objStanding, objView, ObjView.standing, newObject, emptyAccount, freshStanding, codeOf]
    refine ⟨?_, rfl, rfl, ?_⟩
    · rw [standings_set, standings_append]
      unfold touch
      rw [absent]
      exact congrArg (fun standing => update (standings env u) addr (some standing)) fresh
    · rw [absent, fresh]
      rfl
  · simp only [looked] at found
    obtain ⟨rfl, rfl⟩ := Prod.mk.inj found
    obtain ⟨same, ctx, address, held⟩ := standings_found addressed looked
    refine ⟨?_, ctx, address, ?_⟩
    · unfold touch
      rw [same, held]
      exact (update_eq_self_iff.mpr held.symm).symm
    · rw [held]
      rfl

/-- Touching an account and then writing a change of what was found there. -/
theorem standings_write (found : getOrNewStateObject env s addr = (obj, t)) {changed : StateObject}
    {change : Standing → Standing} (entry : JournalEntry) (address : changed.address = obj.address)
    (effect : objStanding env s.ctx.store changed = change (objStanding env s.ctx.store obj)) :
    standings env (setStateObject (append t entry) changed) = touch env (standings env s) addr change := by
  obtain ⟨touched, ctx, home, held⟩ := standings_getOrNew addressed found
  rw [standings_set, standings_append, touched, address, home]
  change update (touch env (standings env s) addr id) addr
    (some (objStanding env t.ctx.store changed)) = _
  rw [ctx, effect, held]
  unfold touch
  rw [update_idem]

theorem addBalance_standings (addr : Address) (amount : BitVec 256) :
    standings env (addBalance env s addr amount) = touch env (standings env s) addr id := by
  unfold addBalance
  rcases found : getOrNewStateObject env s addr with ⟨obj, t⟩
  dsimp only
  split
  · exact (standings_getOrNew addressed found).1
  · exact standings_write addressed found _ rfl rfl

theorem setNonce_standings (addr : Address) (nonce : UInt64) : standings env (setNonce env s addr nonce) =
      touch env (standings env s) addr fun account => { account with nonce := nonce } := by
  unfold setNonce
  rcases found : getOrNewStateObject env s addr with ⟨obj, t⟩
  exact standings_write addressed found _ rfl rfl

theorem setCode_standings (addr : Address) (code : Option Bytes) :
    standings env (setCode env s addr code) = touch env (standings env s) addr fun account =>
      { account with codeHash := env.keccak (code.getD []), code := code } := by
  unfold setCode
  rcases found : getOrNewStateObject env s addr with ⟨obj, t⟩
  obtain ⟨-, ctx, -, -⟩ := standings_getOrNew addressed found
  dsimp only
  rw [ctx]
  have read := (objectCode_rereads env s.ctx.store obj).1.recached
  refine standings_write addressed found _ read.address ?_
  have shown : codeOf env s.ctx.store code (env.keccak (code.getD [])) = code := by
    cases code with
    | some code => rfl
    | none => exact if_pos rfl
  simp only [objStanding, objView, ObjView.standing, withCode, shown]
  rw [read.rest]

end

theorem Recached.standing {base : VmStore} {changed : StateObject}
    (same : Recached env base obj changed) : objStanding env base changed = objStanding env base obj := by
  unfold objStanding
  rw [same.objView]

theorem setState_standings (addressed : Addressed s) (addr : Address) (key value : Hash) :
    standings env (setState env s addr key value).2 = touch env (standings env s) addr id := by
  unfold setState
  rcases found : getOrNewStateObject env s addr with ⟨obj, t⟩
  obtain ⟨touched, ctx, home, held⟩ := standings_getOrNew addressed found
  have first := objectState_rereads env t.ctx.store obj key
  have both : Rereads .. := first.trans (objectCommittedState_rereads env t.ctx.store _ key)
  have read := first.recached
  have reread := both.recached
  unfold objectSetState
  dsimp only
  split
  · rw [standings_set, read.standing, read.address, touched, home, ctx, held]
    unfold touch
    rw [update_idem]
    rfl
  · refine standings_write addressed found _ ?_ ?_
    · rw [withState_rest]
      exact reread.address
    · rw [← ctx, withState_rest]
      exact reread.standing

theorem createAccount_standings (addressed : Addressed s) (addr : Address) :
    standings env (createAccount env s addr) = update (standings env s) addr (some (freshStanding env)) := by
  have fresh : ∀ base balance, objStanding env base
      (withBalance (newObject addr (emptyAccount env)) balance) = freshStanding env := by
    intro base balance
    simp [objStanding, objView, ObjView.standing, newObject, emptyAccount, freshStanding, codeOf, withBalance]
  unfold createAccount createObject
  rcases looked : getStateObject env s addr with ⟨_ | prev, t⟩
  · obtain ⟨rfl, -⟩ := standings_absent looked
    dsimp only
    rw [standings_set, standings_append]
    exact congrArg (fun standing => update (standings env t) addr (some standing))
      (fresh t.ctx.store 0)
  · obtain ⟨same, -, -, -⟩ := standings_found addressed looked
    dsimp only
    rw [standings_set, standings_set, standings_append, same]
    change update (update (standings env s) addr _) addr
      (some (objStanding env t.ctx.store (withBalance (newObject addr (emptyAccount env)) _))) = _
    rw [fresh, update_idem]

/-- Writing a change of an account that is there. -/
theorem standings_amend (addressed : Addressed s) (found : getStateObject env s addr = (some obj, t))
    {changed : StateObject} {change : Standing → Standing} (address : changed.address = obj.address)
    (effect : objStanding env s.ctx.store changed = change (objStanding env s.ctx.store obj)) :
    standings env (setStateObject t changed) = amend (standings env s) addr change := by
  obtain ⟨same, ctx, home, held⟩ := standings_found addressed found
  unfold amend
  rw [standings_set, same, address, home, ctx, effect, held]
  rfl

theorem amend_absent {accounts : Standings} (absent : accounts addr = none)
    (change : Standing → Standing) : amend accounts addr change = accounts := by
  unfold amend
  rw [absent]
  exact update_eq_self_iff.mpr absent.symm

theorem createContract_standings (addressed : Addressed s) (success : createContract env s addr = .ok t) :
    standings env t = amend (standings env s) addr fun account => { account with newContract := true } := by
  unfold createContract at success
  rcases found : getStateObject env s addr with ⟨_ | obj, u⟩ <;> rw [found] at success
  · cases success
  · dsimp only at success
    split at success
    · rename_i marked
      cases success
      obtain ⟨same, -, -, held⟩ := standings_found addressed found
      rw [same]
      refine (update_eq_self_iff.mpr ?_).symm
      rw [held]
      refine congrArg some ?_
      change { objStanding env s.ctx.store obj with newContract := true } = objStanding env s.ctx.store obj
      rw [← marked]
      rfl
    · cases success
      rw [standings_append]
      exact standings_amend addressed found rfl rfl

theorem selfDestruct_standings (addressed : Addressed s) (addr : Address) : standings env (selfDestruct env s addr) =
      amend (standings env s) addr fun account => { account with selfDestructed := true } := by
  unfold selfDestruct
  rcases found : getStateObject env s addr with ⟨_ | obj, t⟩
  · obtain ⟨rfl, absent⟩ := standings_absent found
    exact (amend_absent absent _).symm
  · have written : standings env (setStateObject t (withBalance { obj with selfDestructed := true } 0)) =
        amend (standings env s) addr fun account => { account with selfDestructed := true } :=
      standings_amend addressed found rfl rfl
    exact written

theorem selfDestruct6780_standings (addressed : Addressed s) (addr : Address) :
    standings env (selfDestruct6780 env s addr) = amend (standings env s) addr fun account =>
      if account.newContract then { account with selfDestructed := true } else account := by
  unfold selfDestruct6780
  rcases found : getStateObject env s addr with ⟨_ | obj, t⟩
  · obtain ⟨rfl, absent⟩ := standings_absent found
    exact (amend_absent absent _).symm
  · obtain ⟨same, -, -, held⟩ := standings_found addressed found
    have cached := loading_cached noSlot found
    have mark : (objStanding env s.ctx.store obj).newContract = obj.newContract := rfl
    dsimp only
    split
    · rename_i created
      rw [selfDestruct_standings (cached.addressed addressed), same]
      unfold amend
      rw [held, Option.map_some, Option.map_some, mark, if_pos created]
    · rename_i created
      rw [same]
      refine (update_eq_self_iff.mpr ?_).symm
      rw [held, Option.map_some, mark, if_neg created]

theorem Beside.standings (beside : Beside s t) : standings env t = standings env s := by
  funext addr
  simp only [StateDb.standings, View.standings, view_objects, beside.objects, beside.aside.ctx]

/-- What an operation does to the accounts; a revert is the business of the journal. -/
theorem run_effect (addressed : Addressed s) {op : Op} (success : op.run env s = .ok t)
    (forward : ∀ revid, op ≠ .revertToSnapshot revid) : standings env t = op.effect env (standings env s) := by
  cases op with
  | createAccount addr => cases success; exact createAccount_standings addressed addr
  | createContract addr => exact createContract_standings addressed success
  | addBalance addr amount => cases success; exact addBalance_standings addressed addr amount
  | subBalance addr amount =>
    cases success
    rw [subBalance_eq]
    exact addBalance_standings addressed addr (-amount)
  | setBalance addr amount =>
    cases success
    rcases found : getOrNewStateObject env s addr with ⟨obj, u⟩
    simp only [StateDb.setBalance, found]
    exact standings_write addressed found _ rfl rfl
  | setNonce addr nonce => cases success; exact setNonce_standings addressed addr nonce
  | setCode addr code => cases success; exact setCode_standings addressed addr code
  | setState addr key value => cases success; exact setState_standings addressed addr key value
  | selfDestruct addr => cases success; exact selfDestruct_standings addressed addr
  | selfDestruct6780 addr => cases success; exact selfDestruct6780_standings addressed addr
  | ask query => cases success; exact (ask_cached addressed query).standings
  | revertToSnapshot revid => exact absurd rfl (forward revid)
  | _ => exact (Op.run_beside success rfl forward).standings

/-- Every account is as it was, or it is new and empty. -/
def Touched (env : Env) (before after : Standings) : Prop :=
  ∀ addr, after addr = before addr ∨ (before addr = none ∧ after addr = some (freshStanding env))

theorem Touched.refl (env : Env) (accounts : Standings) : Touched env accounts accounts :=
  fun _ => Or.inl rfl

theorem Touched.trans {first second third : Standings} (one : Touched env first second)
    (two : Touched env second third) : Touched env first third := by
  intro addr
  rcases two addr with same | ⟨absent, fresh⟩
  · rw [same]
    exact one addr
  · rcases one addr with same | ⟨-, made⟩
    · rw [same] at absent
      exact Or.inr ⟨absent, fresh⟩
    · rw [made] at absent
      cases absent

theorem touch_touched (env : Env) (accounts : Standings) (addr : Address) :
    Touched env accounts (touch env accounts addr id) := by
  intro other
  unfold touch
  by_cases here : other = addr
  · subst here
    rw [update_self]
    cases held : accounts other with
    | none => exact Or.inr ⟨rfl, rfl⟩
    | some standing => exact Or.inl rfl
  · exact Or.inl (update_of_ne here _ _)

theorem afterEvents_touched (sound : Sound s) (events : List Event) :
    Touched env (standings env s) (standings env (BalanceHandler.afterEvents env events s).1) := by
  refine (afterEvents_invariant (fun u => Edits env (fun _ _ => True) s u ∧
    Touched env (standings env s) (standings env u)) events ⟨.refl, Touched.refl env _⟩ ?_).2
  rintro u addr amount ⟨edits, touched⟩
  refine ⟨edits.trans (addBalance_edits env u addr amount trivial), touched.trans ?_⟩
  rw [addBalance_standings (edits.addressed sound.addressed)]
  exact touch_touched env _ addr

theorem Entered.standings (entered : Entered env noSlot s t) : standings env t = standings env s := by
  have equal := congrArg View.objects entered.view
  have objects : (StateDb.view env noSlot t).objects = (StateDb.view env noSlot s).objects := equal
  unfold StateDb.standings View.standings
  rw [objects]

/-- A precompile call changes no account but by balances. -/
theorem runNativeAction_touched (sound : Sound s) {p : Precompile} {err : Option GoError}
    (success : runNativeAction env p s = .ok (t, err)) : Touched env (standings env s) (standings env t) := by
  rcases runNativeAction_cases success with ⟨-, began⟩ | ⟨u, ctx, -, events, began, -, -, rfl⟩
  · rw [(enterPrecompile_entered sound (calm_noSlot env s) began).standings]
    exact Touched.refl env _
  · have entered := (enterPrecompile_entered sound (calm_noSlot env s) began).withCacheContext ctx
    rw [← entered.standings]
    exact afterEvents_touched (entered.sound sound) events

/-! Queries. -/

theorem standings_loaded {found : Option StateObject} (loading : getStateObject env s addr = (found, t)) :
    standings env s addr = found.map (objStanding env s.ctx.store) := by
  obtain ⟨-, shown⟩ := view_objects_found noSlot loading
  unfold standings View.standings
  rw [shown]
  cases found <;> rfl

theorem getNonce_standing (env : Env) (s : StateDb) (addr : Address) :
    (getNonce env s addr).1 = ((standings env s addr).map Standing.nonce).getD 0 := by
  unfold getNonce
  rcases loading : getStateObject env s addr with ⟨found, t⟩
  rw [standings_loaded loading]
  cases found <;> rfl

theorem exist_standing (env : Env) (s : StateDb) (addr : Address) :
    (exist env s addr).1 = (standings env s addr).isSome := by
  unfold exist
  rcases loading : getStateObject env s addr with ⟨found, t⟩
  rw [standings_loaded loading, Option.isSome_map]

theorem isNewContract_standing (env : Env) (s : StateDb) (addr : Address) :
    (isNewContract env s addr).1 = ((standings env s addr).map Standing.newContract).getD false := by
  unfold isNewContract
  rcases loading : getStateObject env s addr with ⟨found, t⟩
  rw [standings_loaded loading]
  cases found <;> rfl

end OgEvm.StateDb
