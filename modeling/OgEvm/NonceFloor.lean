import OgEvm.CallEvm
import OgEvm.EvmRuns

/- A stored sequence is not lowered by a message: not by the authorizations, not by the
interpreter with its precompile calls and reverts, not by the reset of the nonce before
a creation, and not by the commit. -/
namespace OgEvm.Vm

open ExceptFacts StateDb

/-! What the cache context holds during a run. -/

/-- A guarded account in the StateDB and in the store that the cache context stands for. -/
def Guard.Secured (guard : Guard) (v : View) : Prop :=
  guard.On v.standings ∧ SequenceAtLeast v.copies.current guard.address guard.nonce

section

variable {env : Env} {signs : Address → Prop} {s t : StateDb} {guard : Guard}

theorem Guard.On.written (on : guard.On (standings env s)) {obj : StateObject}
    (found : s.stateObjects guard.address = some obj) :
    guard.nonce ≤ obj.account.nonce ∧ obj.selfDestructed = false :=
  ⟨(on.object found).nonce, (on.object found).alive⟩

theorem enterPrecompile_stored (sound : Sound s) (on : guard.On (standings env s))
    {err : Option GoError} (success : enterPrecompile env s = .ok (t, err))
    (stored : SequenceAtLeast (cacheCopies s).current guard.address guard.nonce) :
    SequenceAtLeast (cacheCopies t).current guard.address guard.nonce := by
  rcases enterPrecompile_cases success with ⟨rfl, -⟩ | ⟨cache, u, ctx, held, flushed, rfl⟩
  · exact stored
  · have same : cache.copies = (cacheCopies s).push :=
      congrArg CacheCtx.copies (Option.some.inj held).symm
    have before : SequenceAtLeast cache.context.store guard.address guard.nonce := by
      change SequenceAtLeast cache.copies.current guard.address guard.nonce
      rw [same]
      exact stored
    have addressed : Addressed (journalCall s) := sound.addressed
    exact commitObjects_sequence addressed (fun obj found => on.written found) flushed before

theorem runNativeAction_stored (sound : Sound s) (on : guard.On (standings env s)) {p : Precompile}
    (keeps : KeepsSequences p.action) {err : Option GoError} (success : runNativeAction env p s = .ok (t, err))
    (stored : SequenceAtLeast (cacheCopies s).current guard.address guard.nonce) :
    SequenceAtLeast (cacheCopies t).current guard.address guard.nonce := by
  rcases runNativeAction_cases success with ⟨-, began⟩ | ⟨u, ctx, failed, events, began, acted, -, rfl⟩
  · exact enterPrecompile_stored sound on began stored
  · have entered := enterPrecompile_stored sound on began stored
    obtain ⟨cache, held, -⟩ := (enterPrecompile_entered sound (calm_noSlot env s) began).saved
    have given : (cacheContext u).store = (cacheCopies u).current := by
      unfold cacheContext cacheCopies
      rw [held]
      rfl
    have after := keeps _ _ _ acted guard.address guard.nonce (by rw [given]; exact entered)
    have left : (cacheCopies (withCacheContext u ctx)).current = ctx.store := by
      unfold cacheCopies withCacheContext
      rw [held]
      rfl
    rw [(afterEvents_aside env events _).cacheCopies, left]
    exact after

/-- Every permitted step keeps a guarded account secured. -/
theorem Guard.Secured.step (secured : guard.Secured (view env noSlot s)) (signer : signs guard.address)
    (sound : Sound s) {step : Step} (permitted : Permitted env signs s step)
    (success : step.run env s = .ok t) (forward : ∀ revid, step ≠ .op (.revertToSnapshot revid)) :
    guard.Secured (view env noSlot t) := by
  obtain ⟨on, stored⟩ := secured
  refine ⟨on.step signer sound permitted success forward, ?_⟩
  cases step with
  | op op =>
    have aside : Aside s t := Op.run_aside success fun revid same => forward revid (congrArg Step.op same)
    change SequenceAtLeast (cacheCopies t).current guard.address guard.nonce
    rw [aside.cacheCopies]
    exact stored
  | precompile p =>
    obtain ⟨⟨after, err⟩, ran, rfl⟩ := map_ok success
    exact runNativeAction_stored sound on permitted ran stored

theorem Guard.Secured.commit (secured : guard.Secured (view env noSlot s)) (addressed : Addressed s)
    {err : Option GoError} (success : StateDb.commit env s = .ok (t, err)) :
    SequenceAtLeast t.ctx.store guard.address guard.nonce := by
  obtain ⟨on, stored⟩ := secured
  obtain ⟨store, objects, -⟩ := written_eq s
  obtain ⟨u, ctx, done, rfl⟩ := commit_ok success
  have home : Addressed (written s) := by
    intro other obj found
    rw [objects] at found
    exact addressed other obj found
  refine commitObjects_sequence home ?_ done ?_
  · intro obj found
    rw [objects] at found
    exact on.written found
  · rw [store]
    exact stored

end

/-! A floor for the nonce of one account, whatever its code. -/

structure Floor (env : Env) (addr : Address) (nonce : UInt64) (s : StateDb) : Prop where
  standing : ∃ account, standings env s addr = some account ∧ nonce ≤ account.nonce ∧
    account.selfDestructed = false ∧ account.newContract = false
  stored : SequenceAtLeast (cacheCopies s).current addr nonce

/-- No snapshot has been taken: what is done now is not undone by the interpreter. -/
structure Unmarked (s : StateDb) : Prop where
  sound : Sound s
  revisions : s.validRevisions = []

section

variable {env : Env} {signs : Address → Prop} {s t : StateDb} {addr : Address} {nonce : UInt64}

theorem Floor.guard (floor : Floor env addr nonce s) (positive : 0 < nonce) :
    ∃ guard : Guard, guard.address = addr ∧ guard.nonce = nonce ∧ guard.Secured (view env noSlot s) := by
  obtain ⟨⟨account, held, least, alive, old⟩, stored⟩ := floor
  exact ⟨⟨addr, nonce, account.codeHash, account.code, positive⟩, rfl, rfl,
    ⟨account, held, least, rfl, rfl, alive, old⟩, stored⟩

theorem Guard.Secured.floor {guard : Guard} (secured : guard.Secured (view env noSlot s)) :
    Floor env guard.address guard.nonce s := by
  obtain ⟨⟨account, held, holds⟩, stored⟩ := secured
  exact ⟨⟨account, held, holds.nonce, holds.alive, holds.old⟩, stored⟩

/-- A run of the interpreter keeps the floor. -/
theorem Floor.run (floor : Floor env addr nonce s) (positive : 0 < nonce) (signer : signs addr)
    (unmarked : Unmarked s) (run : EvmRun env signs s t) : Floor env addr nonce t ∧ Sound t := by
  obtain ⟨guard, rfl, rfl, secured⟩ := floor.guard positive
  have stable : ∀ {s t : StateDb} {step : Step}, Sound s → guard.Secured (view env noSlot s) →
      Permitted env signs s step → step.run env s = .ok t →
      (∀ revid, step ≠ .op (.revertToSnapshot revid)) → guard.Secured (view env noSlot t) :=
    fun sound secured permitted success forward => secured.step signer sound permitted success forward
  obtain ⟨sound, kept⟩ := run.keeps stable unmarked.sound unmarked.revisions secured
  exact ⟨kept.floor, sound⟩

theorem Floor.commit (floor : Floor env addr nonce s) (positive : 0 < nonce) (addressed : Addressed s)
    {err : Option GoError} (success : StateDb.commit env s = .ok (t, err)) :
    SequenceAtLeast t.ctx.store addr nonce := by
  obtain ⟨guard, rfl, rfl, secured⟩ := floor.guard positive
  exact secured.commit addressed success

theorem Floor.congr (floor : Floor env addr nonce s) (same : standings env t = standings env s)
    (aside : Aside s t) : Floor env addr nonce t where
  standing := by
    rw [same]
    exact floor.standing
  stored := by
    rw [aside.cacheCopies]
    exact floor.stored

theorem Unmarked.op (unmarked : Unmarked s) {op : Op} (success : op.run env s = .ok t)
    (plain : op ≠ .snapshot ∧ ∀ revid, op ≠ .revertToSnapshot revid) : Unmarked t := by
  have change : Journaled env noSlot s t := run_journaled unmarked.sound success plain
  exact ⟨change.sound, change.validRevisions.trans unmarked.revisions⟩

theorem Unmarked.ask (unmarked : Unmarked s) (query : Query) : Unmarked (ask env s query).2 := by
  have ran : (Op.ask query).run env s = .ok (StateDb.ask env s query).2 := rfl
  exact unmarked.op ran (by simp)

theorem Unmarked.setNonce (unmarked : Unmarked s) (other : Address) (value : UInt64) :
    Unmarked (setNonce env s other value) := by
  have ran : (Op.setNonce other value).run env s = .ok (StateDb.setNonce env s other value) := rfl
  exact unmarked.op ran (by simp)

/-- A nonce that is set for another account, or not below the floor. -/
theorem Floor.setNonce (floor : Floor env addr nonce s) (addressed : Addressed s) {other : Address}
    {value : UInt64} (raised : other = addr → nonce ≤ value) : Floor env addr nonce (setNonce env s other value) where
  standing := by
    obtain ⟨⟨account, held, least, alive, old⟩, -⟩ := floor
    rw [setNonce_standings addressed]
    by_cases here : other = addr
    · refine ⟨{ account with nonce := value }, ?_, raised here, alive, old⟩
      unfold touch
      rw [here, Function.update_self, held]
      rfl
    · refine ⟨account, ?_, least, alive, old⟩
      unfold touch
      rw [Function.update_of_ne (Ne.symm here)]
      exact held
  stored := by
    rw [(setNonce_aside env s other value).cacheCopies]
    exact floor.stored

end

/-! Authorizations. -/

section

variable {env : Env} {cfg : EvmConfig} {s t : StateDb} {addr : Address} {nonce : UInt64}

theorem Floor.ask (floor : Floor env addr nonce s) (addressed : Addressed s) (query : Query) :
    Floor env addr nonce (ask env s query).2 :=
  floor.congr (ask_cached addressed query).standings (ask_aside env s query)

/-- A step of the keeper that takes no snapshot and moves no floor. -/
structure Steady (env : Env) (s t : StateDb) : Prop where
  unmarked : Unmarked s → Unmarked t
  floor : ∀ {addr nonce}, Unmarked s → Floor env addr nonce s → Floor env addr nonce t

theorem Steady.refl (env : Env) (s : StateDb) : Steady env s s := ⟨id, fun _ floor => floor⟩

theorem Steady.trans {u : StateDb} (first : Steady env s t) (second : Steady env t u) : Steady env s u :=
  ⟨fun unmarked => second.unmarked (first.unmarked unmarked),
    fun unmarked floor => second.floor (first.unmarked unmarked) (first.floor unmarked floor)⟩

theorem steady_op {op : Op} (success : op.run env s = .ok t)
    (plain : op ≠ .snapshot ∧ ∀ revid, op ≠ .revertToSnapshot revid)
    (kept : Addressed s → ∀ {addr nonce}, Floor env addr nonce s →
      ∃ account, standings env t addr = some account ∧ nonce ≤ account.nonce ∧
        account.selfDestructed = false ∧ account.newContract = false) : Steady env s t where
  unmarked := fun unmarked => unmarked.op success plain
  floor := fun unmarked floor => ⟨kept unmarked.sound.addressed floor, by
    rw [(Op.run_aside success plain.2).cacheCopies]
    exact floor.stored⟩

section

variable (env : Env) (s : StateDb)

theorem steady_ask (query : Query) : Steady env s (ask env s query).2 :=
  ⟨fun unmarked => unmarked.ask query, fun unmarked floor => floor.ask unmarked.sound.addressed query⟩

theorem steady_accessList (addr : Address) : Steady env s (addAddressToAccessList s addr) := by
  have ran : (Op.addAddressToAccessList addr).run env s = .ok (addAddressToAccessList s addr) := rfl
  refine steady_op ran (by simp) fun addressed _ _ floor => ?_
  rw [run_effect addressed ran (by simp)]
  exact floor.standing

theorem steady_addRefund (gas : UInt64) : Steady env s (addRefund s gas) := by
  have ran : (Op.addRefund gas).run env s = .ok (addRefund s gas) := rfl
  refine steady_op ran (by simp) fun addressed _ _ floor => ?_
  rw [run_effect addressed ran (by simp)]
  exact floor.standing

theorem steady_setCode (addr : Address) (code : Option Bytes) : Steady env s (setCode env s addr code) := by
  have ran : (Op.setCode addr code).run env s = .ok (setCode env s addr code) := rfl
  refine steady_op ran (by simp) fun addressed other _ floor => ?_
  obtain ⟨account, held, rest⟩ := floor.standing
  rw [setCode_standings addressed]
  unfold touch
  by_cases here : other = addr
  · subst here
    exact ⟨{ account with codeHash := env.keccak (code.getD []), code := code },
      by rw [Function.update_self, held]; rfl, rest⟩
  · exact ⟨account, by rw [Function.update_of_ne here]; exact held, rest⟩

/-- A nonce that goes up by one. -/
theorem steady_raise {addr : Address} {value : UInt64} (current : (getNonce env s addr).1 ≤ value) :
    Steady env s (setNonce env s addr value) := by
  refine ⟨fun unmarked => unmarked.setNonce addr value, fun unmarked floor => ?_⟩
  refine floor.setNonce unmarked.sound.addressed fun here => ?_
  subst here
  obtain ⟨account, held, least, -⟩ := floor.standing
  rw [getNonce_standing, held] at current
  exact UInt64.le_trans least current

end

theorem validateAuthorization_steady (env : Env) (cfg : EvmConfig) (auth : SetCodeAuthorization)
    (s : StateDb) : Steady env s (validateAuthorization env cfg auth s).2 := by
  unfold validateAuthorization
  split
  · exact Steady.refl env s
  · split
    · exact Steady.refl env s
    · split
      · exact Steady.refl env s
      · rename_i authority recovered
        have warmed := steady_accessList env s authority
        have coded := warmed.trans (steady_ask env (addAddressToAccessList s authority) (.getCode authority))
        have counted := coded.trans (steady_ask env
          (StateDb.getCode env (addAddressToAccessList s authority) authority).2 (.getNonce authority))
        dsimp only
        split
        · exact coded
        · split
          · exact counted
          · exact counted

/-- An accepted authorization: the checks it passed, in the state it leaves. -/
theorem validateAuthorization_ok {auth : SetCodeAuthorization} {authority : Address}
    (accepted : validateAuthorization env cfg auth s = (.ok authority, t)) :
    cfg.authority auth = .ok authority ∧ ¬ auth.nonce + 1 < auth.nonce ∧
      (getNonce env t authority).1 = auth.nonce := by
  unfold validateAuthorization at accepted
  split at accepted
  · cases accepted
  · split at accepted
    · cases accepted
    · rename_i fits
      split at accepted
      · cases accepted
      · rename_i recovered
        dsimp only at accepted
        split at accepted
        · cases accepted
        · split at accepted
          · cases accepted
          · rename_i equal
            cases accepted
            refine ⟨recovered, fits, ?_⟩
            rw [not_not] at equal
            rw [← equal, getNonce_standing, getNonce_standing]
            have same : standings env (StateDb.getNonce env (StateDb.getCode env
                (addAddressToAccessList s authority) authority).2 authority).2 =
              standings env (StateDb.getCode env (addAddressToAccessList s authority) authority).2 := by
              rcases loading : getStateObject env (StateDb.getCode env (addAddressToAccessList s authority)
                authority).2 authority with ⟨found, u⟩
              simp only [StateDb.getNonce, loading]
              exact (loading_cached noSlot loading).standings
            rw [same]

/-- What is done before the nonce is raised shows no account in another light. -/
def prepareDelegation (env : Env) (authority : Address) (s : StateDb) : StateDb :=
  if (StateDb.exist env s authority).1 then
    addRefund (StateDb.exist env s authority).2 (callNewAccountGas - txAuthTupleGas)
  else (StateDb.exist env s authority).2

theorem installDelegation_eq (env : Env) (auth : SetCodeAuthorization) (authority : Address) (s : StateDb) :
    installDelegation env auth authority s =
      setCode env (StateDb.setNonce env (prepareDelegation env authority s) authority (auth.nonce + 1))
        authority (if auth.address = Vector.replicate 20 0 then none
          else some (addressToDelegation auth.address)) := by
  unfold installDelegation prepareDelegation
  dsimp only
  by_cases cleared : auth.address = Vector.replicate 20 0
  · rw [if_pos cleared, if_pos cleared]
  · rw [if_neg cleared, if_neg cleared]

theorem prepareDelegation_steady (env : Env) (authority : Address) (s : StateDb) :
    Steady env s (prepareDelegation env authority s) := by
  have looked : Steady env s (StateDb.exist env s authority).2 := steady_ask env s (.exist authority)
  unfold prepareDelegation
  split
  · exact looked.trans (steady_addRefund env _ _)
  · exact looked

theorem prepareDelegation_standings (env : Env) (authority : Address) (s : StateDb) :
    standings env (prepareDelegation env authority s) = standings env s := by
  have looked : standings env (StateDb.exist env s authority).2 = standings env s := by
    rcases loading : getStateObject env s authority with ⟨found, u⟩
    simp only [StateDb.exist, loading]
    exact (loading_cached noSlot loading).standings
  have refunded : ∀ (u : StateDb) (gas : UInt64), standings env (addRefund u gas) = standings env u :=
    fun _ _ => rfl
  unfold prepareDelegation
  split
  · rw [refunded, looked]
  · exact looked

theorem applyAuthorization_steady (env : Env) (cfg : EvmConfig) (s : StateDb) (auth : SetCodeAuthorization) :
    Steady env s (applyAuthorization env cfg s auth) := by
  have validated := validateAuthorization_steady env cfg auth s
  unfold applyAuthorization
  rcases checked : validateAuthorization env cfg auth s with ⟨reason | authority, t⟩
  · rw [checked] at validated
    exact validated
  · rw [checked] at validated
    obtain ⟨-, fits, current⟩ := validateAuthorization_ok checked
    have raised : (StateDb.getNonce env (prepareDelegation env authority t) authority).1 ≤
        auth.nonce + 1 := by
      rw [getNonce_standing, prepareDelegation_standings, ← getNonce_standing, current]
      exact UInt64.not_lt.mp fits
    dsimp only
    rw [installDelegation_eq]
    exact ((validated.trans (prepareDelegation_steady env authority t)).trans (steady_raise env _ raised)).trans
      (steady_setCode env _ authority _)

theorem applyAuthorizations_steady (env : Env) (cfg : EvmConfig) (auths : List SetCodeAuthorization)
    (s : StateDb) : Steady env s (auths.foldl (applyAuthorization env cfg) s) := by
  induction auths generalizing s with
  | nil => exact Steady.refl env s
  | cons auth rest ih => exact (applyAuthorization_steady env cfg s auth).trans (ih _)

end

/-! Messages. -/

variable {env : Env} {signs : Address → Prop} {cfg : EvmConfig} {evm : Evm} {msg : Message}
  {s : StateDb} {addr : Address} {nonce gas : UInt64} {value : BitVec 256} {result : EvmResult}

/-- The state a call starts from: the authorizations are applied and the delegation of the
called account is warm. -/
def callState (env : Env) (cfg : EvmConfig) (msg : Message) (recipient : Address) (s : StateDb) : StateDb :=
  let s := msg.setCodeAuthorizations.foldl (applyAuthorization env cfg) s
  match parseDelegation ((StateDb.getCode env s recipient).1.getD []) with
  | some addr => addAddressToAccessList (StateDb.getCode env s recipient).2 addr
  | none => (StateDb.getCode env s recipient).2

theorem runCall_eq (env : Env) (cfg : EvmConfig) (evm : Evm) (msg : Message) (recipient : Address)
    (gas : UInt64) (value : BitVec 256) (s : StateDb) : runCall env cfg evm msg recipient gas value s =
      evm.call (callState env cfg msg recipient s) msg.sender recipient msg.data gas value := by
  cases found : parseDelegation ((StateDb.getCode env
    (msg.setCodeAuthorizations.foldl (applyAuthorization env cfg) s) recipient).1.getD []) <;>
    simp only [runCall, callState, found]

theorem callState_steady (env : Env) (cfg : EvmConfig) (msg : Message) (recipient : Address) (s : StateDb) :
    Steady env s (callState env cfg msg recipient s) := by
  have applied := applyAuthorizations_steady env cfg msg.setCodeAuthorizations s
  have read := applied.trans (steady_ask env (msg.setCodeAuthorizations.foldl (applyAuthorization env cfg) s)
    (.getCode recipient))
  unfold callState
  dsimp only
  split
  · exact read.trans (steady_accessList env _ _)
  · exact read

theorem runCall_floor (geth : Geth env signs evm) (positive : 0 < nonce) (signer : signs addr)
    (unmarked : Unmarked s) (floor : Floor env addr nonce s) {recipient : Address}
    (ran : runCall env cfg evm msg recipient gas value s = .ok result) :
    Floor env addr nonce result.state ∧ Sound result.state := by
  rw [runCall_eq] at ran
  have steady := callState_steady env cfg msg recipient s
  exact (steady.floor unmarked floor).run positive signer (steady.unmarked unmarked) (geth.call ran)

/-- The nonce after a creation: raised here if the interpreter did not raise it. -/
def settleNonce (env : Env) (msg : Message) (s : StateDb) : StateDb :=
  if (StateDb.getNonce env s msg.sender).1 = msg.nonce then
    StateDb.setNonce env (StateDb.getNonce env s msg.sender).2 msg.sender (msg.nonce + 1)
  else (StateDb.getNonce env s msg.sender).2

theorem runCreate_ok (ran : runCreate env evm msg gas value s = .ok result) :
    ∃ created, evm.create (StateDb.setNonce env s msg.sender msg.nonce) msg.sender msg.data gas value =
      .ok created ∧ result.state = settleNonce env msg created.state := by
  obtain ⟨created, made, final⟩ := bind_ok ran
  cases final
  exact ⟨created, made, rfl⟩

/-- The account has a standing that can be raised to the floor. -/
structure Footing (env : Env) (addr : Address) (nonce : UInt64) (s : StateDb) : Prop where
  standing : ∃ account, standings env s addr = some account ∧
    account.selfDestructed = false ∧ account.newContract = false
  stored : SequenceAtLeast (cacheCopies s).current addr nonce

theorem Floor.footing (floor : Floor env addr nonce s) : Footing env addr nonce s := by
  obtain ⟨⟨account, held, -, alive, old⟩, stored⟩ := floor
  exact ⟨⟨account, held, alive, old⟩, stored⟩

theorem Footing.congr {t : StateDb} (footing : Footing env addr nonce s)
    (same : standings env t = standings env s) (aside : Aside s t) : Footing env addr nonce t where
  standing := by
    rw [same]
    exact footing.standing
  stored := by
    rw [aside.cacheCopies]
    exact footing.stored

theorem Footing.setNonce (footing : Footing env addr nonce s) (addressed : Addressed s) (value : UInt64) :
    ∃ account, standings env (StateDb.setNonce env s addr value) addr = some account ∧
      account.nonce = value ∧ account.selfDestructed = false ∧ account.newContract = false := by
  obtain ⟨⟨account, held, alive, old⟩, -⟩ := footing
  refine ⟨{ account with nonce := value }, ?_, rfl, alive, old⟩
  rw [setNonce_standings addressed]
  unfold touch
  rw [Function.update_self, held]
  rfl

theorem Footing.raise (footing : Footing env addr nonce s) (addressed : Addressed s) {value : UInt64}
    (least : nonce ≤ value) : Floor env addr nonce (StateDb.setNonce env s addr value) where
  standing := by
    obtain ⟨account, held, equal, marks⟩ := footing.setNonce addressed value
    exact ⟨account, held, by rw [equal]; exact least, marks⟩
  stored := by
    rw [(setNonce_aside env s addr value).cacheCopies]
    exact footing.stored

theorem settleNonce_sound (sound : Sound s) : Sound (settleNonce env msg s) := by
  have read : Cached env noSlot s (StateDb.getNonce env s msg.sender).2 :=
    ask_cached sound.addressed (.getNonce msg.sender)
  unfold settleNonce
  split
  · have change : Journaled env noSlot (StateDb.getNonce env s msg.sender).2 _ :=
      run_journaled (read.sound sound)
        (show (Op.setNonce msg.sender (msg.nonce + 1)).run env _ = .ok _ from rfl) (by simp)
    exact change.sound
  · exact read.sound sound

/-- The floor after a creation: it held before, or the nonce is still the message's. -/
theorem settleNonce_floor (sound : Sound s) (footing : Footing env addr nonce s)
    (sender : addr = msg.sender → nonce ≤ msg.nonce + 1) (held : Floor env addr nonce s ∨
      (addr = msg.sender ∧ (StateDb.getNonce env s msg.sender).1 = msg.nonce)) :
    Floor env addr nonce (settleNonce env msg s) := by
  have read : Cached env noSlot s (StateDb.getNonce env s msg.sender).2 :=
    ask_cached sound.addressed (.getNonce msg.sender)
  have aside : Aside s (StateDb.getNonce env s msg.sender).2 := ask_aside env s (.getNonce msg.sender)
  have addressed := read.addressed sound.addressed
  unfold settleNonce
  split
  · by_cases here : addr = msg.sender
    · rw [← here]
      rw [← here] at read aside addressed
      exact (footing.congr read.standings aside).raise addressed (sender here)
    · rcases held with floor | ⟨wrong, -⟩
      · exact (floor.congr read.standings aside).setNonce addressed fun same => absurd same.symm here
      · exact absurd wrong here
  · rename_i moved
    rcases held with floor | ⟨-, same⟩
    · exact floor.congr read.standings aside
    · exact absurd same moved

theorem getNonce_setNonce (addressed : Addressed s) (other : Address) (value : UInt64) :
    (StateDb.getNonce env (StateDb.setNonce env s other value) other).1 = value := by
  rw [getNonce_standing, setNonce_standings addressed]
  unfold touch
  rw [Function.update_self]
  rfl

/-- Setting a nonce, also to a lower one, leaves a footing. -/
theorem Footing.reset (footing : Footing env addr nonce s) (addressed : Addressed s) (other : Address)
    (value : UInt64) : Footing env addr nonce (StateDb.setNonce env s other value) where
  standing := by
    by_cases here : other = addr
    · subst here
      obtain ⟨account, held, -, marks⟩ := footing.setNonce addressed value
      exact ⟨account, held, marks⟩
    · obtain ⟨account, held, marks⟩ := footing.standing
      refine ⟨account, ?_, marks⟩
      rw [setNonce_standings addressed]
      unfold touch
      rw [Function.update_of_ne (Ne.symm here)]
      exact held
  stored := by
    rw [(setNonce_aside env s other value).cacheCopies]
    exact footing.stored

theorem runCreate_floor (geth : Geth env signs evm) (positive : 0 < nonce) (signer : signs addr)
    (unmarked : Unmarked s) (floor : Floor env addr nonce s) (sender : addr = msg.sender → nonce ≤ msg.nonce + 1)
    (ran : runCreate env evm msg gas value s = .ok result) :
    Floor env addr nonce result.state ∧ Sound result.state := by
  obtain ⟨created, made, final⟩ := runCreate_ok ran
  obtain ⟨read, reads, outcome⟩ := geth.create made
  have reset : Unmarked (StateDb.setNonce env s msg.sender msg.nonce) := unmarked.setNonce msg.sender msg.nonce
  have cached := reads.cached reset.sound.addressed
  have quiet : Unmarked read := ⟨cached.sound reset.sound, by rw [cached.rest]; exact reset.revisions⟩
  have aside : Aside (StateDb.setNonce env s msg.sender msg.nonce) read := by
    refine ⟨?_, ?_, ?_⟩ <;> rw [cached.rest]
  have footing : Footing env addr nonce read :=
    (floor.footing.reset unmarked.sound.addressed msg.sender msg.nonce).congr cached.standings aside
  have other : addr ≠ msg.sender → Floor env addr nonce read := fun apart =>
    (floor.setNonce unmarked.sound.addressed fun same => absurd same.symm apart).congr cached.standings aside
  have lowered : (StateDb.getNonce env read msg.sender).1 = msg.nonce := by
    rw [getNonce_standing, cached.standings, ← getNonce_standing]
    exact getNonce_setNonce unmarked.sound.addressed msg.sender msg.nonce
  rw [final]
  rcases outcome with refused | ⟨-, run⟩
  · rw [refused]
    refine ⟨settleNonce_floor quiet.sound footing sender ?_, settleNonce_sound quiet.sound⟩
    by_cases here : addr = msg.sender
    · exact Or.inr ⟨here, lowered⟩
    · exact Or.inl (other here)
  · rw [lowered] at run
    have raised : Floor env addr nonce (StateDb.setNonce env read msg.sender (msg.nonce + 1)) := by
      by_cases here : addr = msg.sender
      · rw [← here]
        exact footing.raise quiet.sound.addressed (sender here)
      · exact (other here).setNonce quiet.sound.addressed fun same => absurd same.symm here
    obtain ⟨kept, sound⟩ := raised.run positive signer (quiet.setNonce msg.sender (msg.nonce + 1)) run
    exact ⟨settleNonce_floor sound kept.footing sender (Or.inl kept), settleNonce_sound sound⟩

theorem begin_floor {ctx : Context} {txConfig : TxConfig} {preparation : Option Preparation}
    (started : StateDb.begin ctx txConfig preparation = .ok s) (stored : SequenceAtLeast ctx.store addr nonce) :
    Unmarked s ∧ Floor env addr nonce s := by
  obtain ⟨sound, revisions⟩ := begin_sound started
  obtain ⟨context, uncached, empty, -⟩ := begin_empty started
  refine ⟨⟨sound, revisions⟩, ?_, ?_⟩
  · obtain ⟨account, held, least⟩ := stored
    have loading : Keeper.getAccount env ctx.store addr = some ⟨account.sequence,
        Keeper.spendableCoin env ctx.store addr, Keeper.getCodeHash env ctx.store addr⟩ := by
      unfold Keeper.getAccount
      rw [held]
      rfl
    have shown : standings env s addr = some (objStanding env ctx.store (newObject addr ⟨account.sequence,
        Keeper.spendableCoin env ctx.store addr, Keeper.getCodeHash env ctx.store addr⟩)) := by
      unfold standings View.standings
      rw [view_objects, empty, context, loaded, loading]
      rfl
    exact ⟨_, shown, least, rfl, rfl⟩
  · unfold cacheCopies
    rw [uncached, context]
    exact stored

theorem runMessage_floor (geth : Geth env signs evm) (positive : 0 < nonce) (signer : signs addr)
    (unmarked : Unmarked s) (floor : Floor env addr nonce s) (sender : addr = msg.sender → nonce ≤ msg.nonce + 1)
    (ran : runMessage env cfg evm msg gas value s = .ok result) :
    Floor env addr nonce result.state ∧ Sound result.state := by
  unfold runMessage at ran
  split at ran
  · exact runCreate_floor geth positive signer unmarked floor sender ran
  · exact runCall_floor geth positive signer unmarked floor ran

/-- A message lowers no sequence, whatever becomes of it. -/
theorem applyMessage_sequence (geth : Geth env signs evm) (positive : 0 < nonce) (signer : signs addr)
    {ctx after : Context} {txConfig : TxConfig} {commit internal : Bool} {outcome : Except Halt Response}
    (stored : SequenceAtLeast ctx.store addr nonce) (sender : addr = msg.sender → nonce ≤ msg.nonce + 1)
    (applied : applyMessageWithConfig env cfg evm txConfig commit internal ctx msg = (after, outcome)) :
    SequenceAtLeast after.store addr nonce := by
  obtain ⟨halt, -, rfl, -⟩ | ⟨executed, ran, ending⟩ := applyMessage_cases applied
  · exact stored
  · obtain ⟨intrinsic, least, state, value, -, started, -, ended, -⟩ := executeMessage_ok ran
    obtain ⟨unmarked, begun⟩ : Unmarked state ∧ Floor env addr nonce state := begin_floor started stored
    obtain ⟨kept, sound⟩ := runMessage_floor geth positive signer unmarked begun sender ended
    obtain ⟨-, cause, -, rfl, -⟩ | ⟨-, committed, err, done, rfl, -⟩ | ⟨-, committed, done, rfl, -⟩ | ⟨-, rfl, -⟩ :=
      ending
    · exact stored
    · exact kept.commit positive sound.addressed done
    · exact kept.commit positive sound.addressed done
    · exact stored

end OgEvm.Vm
