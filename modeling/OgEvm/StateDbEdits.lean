import OgEvm.LibExcept
import OgEvm.StateDbQueries

/- What the operations of the EVM are made of: objects are loaded, created, cached in and
written with an entry in the journal. What every such edit keeps, every operation forward
keeps. -/
namespace OgEvm

/-- Entries that are about no object. -/
def JournalEntry.objectless : JournalEntry → Bool
  | .transientStorageChange .. => true
  | .refundChange _ => true
  | .addLogChange => true
  | .accessListAddAccountChange _ => true
  | .accessListAddSlotChange .. => true
  | _ => false

namespace StateDb

open ExceptFacts

inductive Op where
  | createAccount (addr : Address)
  | createContract (addr : Address)
  | addBalance (addr : Address) (amount : BitVec 256)
  | subBalance (addr : Address) (amount : BitVec 256)
  | setBalance (addr : Address) (amount : BitVec 256)
  | setNonce (addr : Address) (nonce : UInt64)
  | setCode (addr : Address) (code : Option Bytes)
  | setState (addr : Address) (key value : Hash)
  | setTransientState (addr : Address) (key value : Hash)
  | selfDestruct (addr : Address)
  | selfDestruct6780 (addr : Address)
  | addLog (log : Log)
  | addRefund (gas : UInt64)
  | subRefund (gas : UInt64)
  | addAddressToAccessList (addr : Address)
  | addSlotToAccessList (addr : Address) (slot : Hash)
  | ask (query : Query)
  | snapshot
  | revertToSnapshot (revid : ℤ)

def Op.run (env : Env) (s : StateDb) : Op → Except DbPanic StateDb
  | .createAccount addr => .ok (StateDb.createAccount env s addr)
  | .createContract addr => StateDb.createContract env s addr
  | .addBalance addr amount => .ok (StateDb.addBalance env s addr amount)
  | .subBalance addr amount => .ok (StateDb.subBalance env s addr amount)
  | .setBalance addr amount => .ok (StateDb.setBalance env s addr amount)
  | .setNonce addr nonce => .ok (StateDb.setNonce env s addr nonce)
  | .setCode addr code => .ok (StateDb.setCode env s addr code)
  | .setState addr key value => .ok (StateDb.setState env s addr key value).2
  | .setTransientState addr key value => .ok (StateDb.setTransientState s addr key value)
  | .selfDestruct addr => .ok (StateDb.selfDestruct env s addr)
  | .selfDestruct6780 addr => .ok (StateDb.selfDestruct6780 env s addr)
  | .addLog log => .ok (StateDb.addLog s log)
  | .addRefund gas => .ok (StateDb.addRefund s gas)
  | .subRefund gas => StateDb.subRefund s gas
  | .addAddressToAccessList addr => .ok (StateDb.addAddressToAccessList s addr)
  | .addSlotToAccessList addr slot => StateDb.addSlotToAccessList s addr slot
  | .ask query => .ok (StateDb.ask env s query).2
  | .snapshot => .ok (StateDb.snapshot s).2
  | .revertToSnapshot revid => StateDb.revertToSnapshot env s revid

/-- The two contexts and the counter of precompile calls, which only calls, reverts and commits touch. -/
structure Aside (s t : StateDb) : Prop where
  ctx : t.ctx = s.ctx
  cacheCtx : t.cacheCtx = s.cacheCtx
  counter : t.precompileCallsCounter = s.precompileCallsCounter

/-- What a query caches in an object. -/
inductive Reread (env : Env) (store : VmStore) (obj : StateObject) : StateObject → Prop
  | code (uncached : obj.code = none) (coded : obj.account.codeHash ≠ env.emptyCodeHash) :
      Reread env store obj { obj with code := Keeper.getCode store obj.account.codeHash }
  | slot (key : Hash) (plain : obj.overrideStorage = none) (uncached : obj.originStorage.lookup key = none) :
      Reread env store obj
        { obj with originStorage := obj.originStorage.insert key (Keeper.getState store obj.address key) }

def Rereads (env : Env) (store : VmStore) : StateObject → StateObject → Prop :=
  Relation.ReflTransGen (Reread env store)

inductive WriteKind where
  | balance | nonce | code | state | selfDestruct | newContract | reset

/-- How the object of an account is written, with the entry that is journaled for it. -/
inductive Rewrite (env : Env) (store : VmStore) (addr : Address) (obj : StateObject) :
    WriteKind → JournalEntry → StateObject → Prop
  | balance (amount : BitVec 256) :
      Rewrite env store addr obj .balance (.balanceChange obj.address obj.account.balance) (withBalance obj amount)
  | nonce (nonce : UInt64) :
      Rewrite env store addr obj .nonce (.nonceChange obj.address obj.account.nonce) (withNonce obj nonce)
  | code (code : Option Bytes) :
      Rewrite env store addr obj .code (.codeChange obj.address obj.code obj.account.codeHash)
        (withCode obj (env.keccak (code.getD [])) code)
  | state (key value : Hash) :
      Rewrite env store addr obj .state
        (.storageChange obj.address key (stateOf store obj key) (committedOf store obj key))
        (withState obj key value (committedOf store obj key))
  | selfDestruct :
      Rewrite env store addr obj .selfDestruct (.selfDestructChange addr obj.selfDestructed obj.account.balance)
        (withBalance { obj with selfDestructed := true } 0)
  | newContract (fresh : obj.newContract = false) :
      Rewrite env store addr obj .newContract (.createContractChange addr) { obj with newContract := true }
  | reset : Rewrite env store addr obj .reset (.resetObjectChange obj)
      (withBalance (newObject addr (emptyAccount env)) obj.account.balance)

/-- An object is loaded, or something is cached in it. -/
inductive Load (env : Env) (s : StateDb) : StateDb → Prop
  | account {addr : Address} {account : Account} (absent : s.stateObjects addr = none)
      (stored : Keeper.getAccount env s.ctx.store addr = some account) :
      Load env s (setStateObject s (newObject addr account))
  | reread {addr : Address} {obj read : StateObject} (held : s.stateObjects addr = some obj)
      (cached : Rereads env s.ctx.store obj read) : Load env s (setStateObject s read)

def Loads (env : Env) : StateDb → StateDb → Prop := Relation.ReflTransGen (Load env)

/-- One edit of an object; `allow` says which objects may be written, and how. -/
inductive Edit (env : Env) (allow : Address → WriteKind → Prop) (s : StateDb) : StateDb → Prop
  | load {t : StateDb} (load : Load env s t) : Edit env allow s t
  | create {addr : Address} (absent : s.stateObjects addr = none)
      (missing : Keeper.getAccount env s.ctx.store addr = none) :
      Edit env allow s (setStateObject (append s (.createObjectChange addr)) (newObject addr (emptyAccount env)))
  | write {addr : Address} {obj read changed : StateObject} {kind : WriteKind} {entry : JournalEntry}
      (held : s.stateObjects addr = some obj) (cached : Rereads env s.ctx.store obj read)
      (written : Rewrite env s.ctx.store addr read kind entry changed) (allowed : allow addr kind) :
      Edit env allow s (setStateObject (append s entry) changed)

def Edits (env : Env) (allow : Address → WriteKind → Prop) : StateDb → StateDb → Prop :=
  Relation.ReflTransGen (Edit env allow)

/-- No object is touched, and nothing is journaled about one. -/
structure Beside (s t : StateDb) : Prop where
  aside : Aside s t
  objects : t.stateObjects = s.stateObjects
  journal : ∃ added : List JournalEntry, (∀ entry ∈ added, entry.objectless = true) ∧
    t.journal = added.foldl Journal.append s.journal

/-- The operations that are about no object, and reverts. -/
def Op.beside : Op → Bool
  | .setTransientState .. => true
  | .addLog _ => true
  | .addRefund _ => true
  | .subRefund _ => true
  | .addAddressToAccessList _ => true
  | .addSlotToAccessList .. => true
  | .snapshot => true
  | .revertToSnapshot _ => true
  | _ => false

/-- What an operation writes of an object that is there. -/
def Op.rewrites : Op → Option (Address × WriteKind)
  | .createAccount addr => some (addr, .reset)
  | .createContract addr => some (addr, .newContract)
  | .addBalance addr _ => some (addr, .balance)
  | .subBalance addr _ => some (addr, .balance)
  | .setBalance addr _ => some (addr, .balance)
  | .setNonce addr _ => some (addr, .nonce)
  | .setCode addr _ => some (addr, .code)
  | .setState addr _ _ => some (addr, .state)
  | .selfDestruct addr => some (addr, .selfDestruct)
  | .selfDestruct6780 addr => some (addr, .selfDestruct)
  | _ => none

section

variable {env : Env} {allow : Address → WriteKind → Prop} {s t u : StateDb} {addr : Address}
  {obj : StateObject}

/-- What one edit keeps, any number of them keep. -/
theorem Edits.keeps (inv : StateDb → Prop) (edits : Edits env allow s t)
    (edit : ∀ s t, inv s → Edit env allow s t → inv t) (start : inv s) : inv t := by
  induction edits with
  | refl => exact start
  | tail _ last ih => exact edit _ _ ih last

theorem Edit.addressed (edit : Edit env allow s t) (addressed : Addressed s) : Addressed t := by
  cases edit with
  | load load => cases load <;> exact addressed_setStateObject addressed _
  | _ => exact addressed_setStateObject addressed _

theorem Edits.addressed (edits : Edits env allow s t) (addressed : Addressed s) : Addressed t :=
  edits.keeps Addressed (fun _ _ home edit => edit.addressed home) addressed

theorem setStateObject_setStateObject (s : StateDb) {obj changed : StateObject}
    (address : changed.address = obj.address) :
    setStateObject (setStateObject s obj) changed = setStateObject s changed := by
  unfold setStateObject
  rw [address]
  simp only [Function.update_idem]

theorem Loads.edits (loads : Loads env s t) : Edits env allow s t :=
  Relation.ReflTransGen.mono (fun _ _ => Edit.load) _ _ loads

/-! Caching a code or a slot leaves what an object shows as it was. -/

/-- An object that differs in what is cached only. -/
structure Recached (env : Env) (store : VmStore) (obj read : StateObject) : Prop where
  rest : read = { obj with code := read.code, originStorage := read.originStorage }
  committed : committedOf store read = committedOf store obj
  code : codeOf env store read.code obj.account.codeHash = codeOf env store obj.code obj.account.codeHash

theorem Rereads.recached {store : VmStore} {read : StateObject} (cached : Rereads env store obj read) :
    Recached env store obj read := by
  induction cached with
  | refl => exact ⟨rfl, rfl, rfl⟩
  | @tail middle _ _ last ih =>
    have account : middle.account = obj.account := by rw [ih.rest]
    cases last with
    | code uncached coded =>
      refine ⟨by rw [ih.rest], ih.committed, ?_⟩
      rw [← ih.code, uncached, account]
      rw [account] at coded
      unfold codeOf
      cases Keeper.getCode store obj.account.codeHash <;> simp [coded]
    | slot key plain uncached =>
      refine ⟨by rw [ih.rest], ?_, ih.code⟩
      rw [← ih.committed]
      funext slot
      simp only [committedOf, plain]
      by_cases here : slot = key
      · subst here
        rw [AList.lookup_insert, uncached]
        rfl
      · rw [AList.lookup_insert_ne here]

section

variable {store : VmStore} {read : StateObject} (same : Recached env store obj read)

include same

theorem Recached.address : read.address = obj.address := by
  rw [same.rest]

theorem Recached.account : read.account = obj.account := by
  rw [same.rest]

theorem Recached.state : stateOf store read = stateOf store obj := by
  have dirty : read.dirtyStorage = obj.dirtyStorage := by rw [same.rest]
  unfold stateOf
  rw [same.committed, dirty]

theorem Recached.objView {mask : Mask} : objView env mask store read = objView env mask store obj := by
  unfold StateDb.objView
  rw [same.committed, same.state, same.account, same.code, same.rest]

end

theorem Load.cached {mask : Mask} (load : Load env s t) (addressed : Addressed s) : Cached env mask s t := by
  cases load with
  | @account addr _ absent stored =>
    refine cached_setStateObject _ _ ?_ rfl
    change (view env mask s).objects addr = _
    rw [view_objects, absent, loaded, stored]
    rfl
  | reread held cached =>
    refine cached_setStateObject _ _ ?_ cached.recached.objView
    rw [cached.recached.address, addressed _ _ held, view_objects, held]
    rfl

theorem Loads.cached {mask : Mask} (loads : Loads env s t) (addressed : Addressed s) : Cached env mask s t := by
  induction loads with
  | refl => exact Cached.refl env mask s
  | tail _ last ih => exact ih.trans (last.cached (ih.addressed addressed))

theorem objectCode_rereads (env : Env) (store : VmStore) (obj : StateObject) :
    Rereads env store obj (objectCode env store obj).2 ∧
      (objectCode env store obj).1 = (objectCode env store obj).2.code := by
  unfold objectCode
  split
  · rename_i code cached
    exact ⟨.refl, cached.symm⟩
  · rename_i uncached
    split
    · exact ⟨.refl, uncached.symm⟩
    · rename_i coded
      exact ⟨.single (.code uncached coded), rfl⟩

theorem objectCommittedState_rereads (env : Env) (store : VmStore) (obj : StateObject) (key : Hash) :
    Rereads env store obj (objectCommittedState store obj key).2 := by
  unfold objectCommittedState
  split
  · exact .refl
  · rename_i plain
    split
    · exact .refl
    · rename_i uncached
      exact .single (.slot key plain uncached)

theorem objectState_rereads (env : Env) (store : VmStore) (obj : StateObject) (key : Hash) :
    Rereads env store obj (objectState store obj key).2 := by
  unfold objectState
  split
  · exact .refl
  · exact objectCommittedState_rereads env store obj key

theorem loading_loads {found : Option StateObject} (loading : getStateObject env s addr = (found, t)) :
    Loads env s t ∧ t.stateObjects addr = found := by
  unfold getStateObject at loading
  split at loading
  · rename_i present
    cases loading
    exact ⟨.refl, present⟩
  · rename_i absent
    split at loading
    · cases loading
      exact ⟨.refl, absent⟩
    · rename_i stored
      cases loading
      exact ⟨.single (.account absent stored), Function.update_self ..⟩

theorem loading_edits {found : Option StateObject} (loading : getStateObject env s addr = (found, t)) :
    Edits env allow s t ∧ t.stateObjects addr = found :=
  (loading_loads loading).imp_left Loads.edits

theorem missing_create (looked : getStateObject env s addr = (none, t)) :
    Edit env allow s (setStateObject (append t (.createObjectChange addr)) (newObject addr (emptyAccount env))) := by
  obtain ⟨rfl, absent, missing⟩ := getStateObject_none looked
  exact .create absent (Option.map_eq_none_iff.mp missing)

theorem getOrNewStateObject_edits (loading : getOrNewStateObject env s addr = (obj, t)) :
    Edits env allow s t ∧ t.stateObjects addr = some obj := by
  unfold getOrNewStateObject at loading
  rcases looked : getStateObject env s addr with ⟨_ | found, u⟩
  · obtain ⟨rfl, -⟩ := getStateObject_none looked
    simp only [looked, createObject] at loading
    cases loading
    exact ⟨.single (missing_create looked), Function.update_self ..⟩
  · simp only [looked] at loading
    cases loading
    exact loading_edits looked

/-- An object that is loaded or created, and written. -/
theorem writing_edits {changed : StateObject} {kind : WriteKind} {entry : JournalEntry}
    (loading : getOrNewStateObject env s addr = (obj, t))
    (written : Rewrite env t.ctx.store addr obj kind entry changed)
    (allowed : allow addr kind) : Edits env allow s (setStateObject (append t entry) changed) := by
  obtain ⟨loaded, held⟩ := getOrNewStateObject_edits loading
  exact loaded.tail (.write held .refl written allowed)

/-! The operations. -/

section

variable (env : Env) (s : StateDb) (addr : Address)

theorem addBalance_edits (amount : BitVec 256) (allowed : allow addr .balance) :
    Edits env allow s (addBalance env s addr amount) := by
  rcases loading : getOrNewStateObject env s addr with ⟨obj, u⟩
  simp only [addBalance, loading]
  split
  · exact (getOrNewStateObject_edits loading).1
  · exact writing_edits loading (.balance _) allowed

/-- A debit is the credit of the opposite word. -/
theorem subBalance_eq (amount : BitVec 256) : subBalance env s addr amount = addBalance env s addr (-amount) := by
  have zero : -amount = 0 ↔ amount = 0 := BitVec.neg_eq_zero_iff
  simp only [subBalance, addBalance, zero, BitVec.sub_eq_add_neg]

theorem subBalance_edits (amount : BitVec 256) (allowed : allow addr .balance) :
    Edits env allow s (subBalance env s addr amount) := by
  rw [subBalance_eq]
  exact addBalance_edits env s addr (-amount) allowed

theorem createAccount_edits (allowed : allow addr .reset) : Edits env allow s (createAccount env s addr) := by
  rcases looked : getStateObject env s addr with ⟨_ | prev, u⟩ <;>
    simp only [createAccount, createObject, looked]
  · exact .single (missing_create looked)
  · obtain ⟨loaded, held⟩ := loading_edits looked
    rw [setStateObject_setStateObject _ (show (withBalance _ _).address = (newObject addr _).address from rfl)]
    exact loaded.tail (.write held .refl .reset allowed)

theorem setCode_edits (code : Option Bytes) (allowed : allow addr .code) :
    Edits env allow s (setCode env s addr code) := by
  rcases loading : getOrNewStateObject env s addr with ⟨obj, u⟩
  obtain ⟨loaded, held⟩ := getOrNewStateObject_edits loading
  obtain ⟨cached, read⟩ := objectCode_rereads env u.ctx.store obj
  simp only [setCode, loading]
  rw [read]
  exact loaded.tail (.write held cached (.code code) allowed)

theorem setState_edits (key value : Hash) (allowed : allow addr .state) :
    Edits env allow s (setState env s addr key value).2 := by
  rcases loading : getOrNewStateObject env s addr with ⟨obj, u⟩
  obtain ⟨loaded, held⟩ := getOrNewStateObject_edits loading
  have first := objectState_rereads env u.ctx.store obj key
  simp only [setState, loading, objectSetState]
  split
  · exact loaded.tail (.load (.reread held first))
  · have both : Rereads .. := first.trans (objectCommittedState_rereads env u.ctx.store _ key)
    rw [objectState_fst, objectCommittedState_fst, first.recached.committed, ← both.recached.committed,
      ← both.recached.state]
    exact loaded.tail (.write held both (.state key value) allowed)

theorem selfDestruct_edits (allowed : allow addr .selfDestruct) : Edits env allow s (selfDestruct env s addr) := by
  unfold selfDestruct
  rcases looked : getStateObject env s addr with ⟨_ | obj, u⟩ <;> obtain ⟨loaded, held⟩ := loading_edits looked
  · exact loaded
  · exact loaded.tail (.write held .refl .selfDestruct allowed)

theorem selfDestruct6780_edits (allowed : allow addr .selfDestruct) :
    Edits env allow s (selfDestruct6780 env s addr) := by
  unfold selfDestruct6780
  rcases looked : getStateObject env s addr with ⟨_ | obj, u⟩ <;> obtain ⟨loaded, -⟩ := loading_edits looked
  · exact loaded
  · dsimp only
    split
    · exact loaded.trans (selfDestruct_edits env u addr allowed)
    · exact loaded

end

theorem createContract_edits (success : createContract env s addr = .ok t) (allowed : allow addr .newContract) :
    Edits env allow s t := by
  unfold createContract at success
  rcases looked : getStateObject env s addr with ⟨_ | obj, u⟩ <;> rw [looked] at success
  · cases success
  · obtain ⟨loaded, held⟩ := loading_edits looked
    dsimp only at success
    split at success
    · cases success
      exact loaded
    · rename_i fresh
      obtain rfl := Except.ok.inj success
      exact loaded.tail (.write held .refl (.newContract (Bool.eq_false_of_not_eq_true fresh)) allowed)

/-! Operations about no object. -/

theorem Beside.noted {entry : JournalEntry} (aside : Aside s t) (objects : t.stateObjects = s.stateObjects)
    (objectless : entry.objectless = true) (journal : t.journal = s.journal.append entry) : Beside s t :=
  ⟨aside, objects, [entry], by simpa using objectless, journal⟩

theorem Op.run_beside {op : Op} (success : op.run env s = .ok t) (about : op.beside = true)
    (forward : ∀ revid, op ≠ .revertToSnapshot revid) : Beside s t := by
  cases op with
  | subRefund gas =>
    obtain ⟨-, success⟩ := ite_error_ok success
    cases success
    exact .noted ⟨rfl, rfl, rfl⟩ rfl rfl rfl
  | addSlotToAccessList addr slot =>
    obtain ⟨⟨al, addrMod, slotMod⟩, -, success⟩ := bind_ok success
    cases success
    refine ⟨⟨?_, ?_, ?_⟩, ?_, (if addrMod then [.accessListAddAccountChange addr] else []) ++
      if slotMod then [.accessListAddSlotChange addr slot] else [], ?_, ?_⟩ <;>
      cases addrMod <;> cases slotMod <;> first | rfl | simp [JournalEntry.objectless]
  | revertToSnapshot revid => exact absurd rfl (forward revid)
  | setTransientState addr key value =>
    cases success
    unfold StateDb.setTransientState
    dsimp only
    split
    · exact ⟨⟨rfl, rfl, rfl⟩, rfl, [], by simp, rfl⟩
    · exact .noted ⟨rfl, rfl, rfl⟩ rfl rfl rfl
  | addLog log => cases success; exact .noted ⟨rfl, rfl, rfl⟩ rfl rfl rfl
  | addRefund gas => cases success; exact .noted ⟨rfl, rfl, rfl⟩ rfl rfl rfl
  | addAddressToAccessList addr =>
    cases success
    unfold StateDb.addAddressToAccessList
    split
    · exact .noted ⟨rfl, rfl, rfl⟩ rfl rfl rfl
    · exact ⟨⟨rfl, rfl, rfl⟩, rfl, [], by simp, rfl⟩
  | snapshot => cases success; exact ⟨⟨rfl, rfl, rfl⟩, rfl, [], by simp, rfl⟩
  | _ => cases about

/-! Operations on objects. -/

theorem ask_loads (env : Env) (s : StateDb) (query : Query) : Loads env s (ask env s query).2 := by
  have loads (addr : Address) : Loads env s (getStateObject env s addr).2 := (loading_loads (Prod.eta _).symm).1
  cases query with
  | getCode addr =>
    rcases looked : getStateObject env s addr with ⟨_ | obj, u⟩ <;>
      simp only [ask, getCode, looked, Prod.map_snd, id] <;> obtain ⟨loaded, held⟩ := loading_loads looked
    · exact loaded
    · exact loaded.tail (.reread held (objectCode_rereads ..).1)
  | getState addr key =>
    rcases looked : getStateObject env s addr with ⟨_ | obj, u⟩ <;>
      simp only [ask, getState, looked, Prod.map_snd, id] <;> obtain ⟨loaded, held⟩ := loading_loads looked
    · exact loaded
    · exact loaded.tail (.reread held (objectState_rereads ..))
  | getCommittedState addr key =>
    rcases looked : getStateObject env s addr with ⟨_ | obj, u⟩ <;>
      simp only [ask, getCommittedState, looked, Prod.map_snd, id] <;> obtain ⟨loaded, held⟩ := loading_loads looked
    · exact loaded
    · exact loaded.tail (.reread held (objectCommittedState_rereads ..))
  | exist addr => exact loads addr
  | getBalance addr => exact loads addr
  | getNonce addr => exact loads addr
  | getCodeHash addr => exact loads addr
  | hasSelfDestructed addr => exact loads addr
  | isNewContract addr => exact loads addr
  | _ => exact .refl

theorem ask_cached {mask : Mask} (addressed : Addressed s) (query : Query) : Cached env mask s (ask env s query).2 :=
  (ask_loads env s query).cached addressed

/-- The other operations are sequences of edits, with writes of their own kind. -/
theorem Op.run_edits {op : Op} (success : op.run env s = .ok t) (about : op.beside = false)
    (allowed : ∀ addr kind, op.rewrites = some (addr, kind) → allow addr kind) : Edits env allow s t := by
  cases op with
  | createContract addr => exact createContract_edits success (allowed _ _ rfl)
  | createAccount addr => cases success; exact createAccount_edits env s addr (allowed _ _ rfl)
  | addBalance addr amount => cases success; exact addBalance_edits env s addr amount (allowed _ _ rfl)
  | subBalance addr amount => cases success; exact subBalance_edits env s addr amount (allowed _ _ rfl)
  | setBalance addr amount =>
    cases success; exact writing_edits (Prod.eta _).symm (.balance amount) (allowed _ _ rfl)
  | setNonce addr nonce => cases success; exact writing_edits (Prod.eta _).symm (.nonce nonce) (allowed _ _ rfl)
  | setCode addr code => cases success; exact setCode_edits env s addr code (allowed _ _ rfl)
  | setState addr key value => cases success; exact setState_edits env s addr key value (allowed _ _ rfl)
  | selfDestruct addr => cases success; exact selfDestruct_edits env s addr (allowed _ _ rfl)
  | selfDestruct6780 addr => cases success; exact selfDestruct6780_edits env s addr (allowed _ _ rfl)
  | ask query => cases success; exact (ask_loads env s query).edits
  | _ => cases about

theorem Op.run_cases {op : Op} (success : op.run env s = .ok t) (forward : ∀ revid, op ≠ .revertToSnapshot revid)
    (allowed : ∀ addr kind, op.rewrites = some (addr, kind) → allow addr kind) :
    Edits env allow s t ∨ Beside s t := by
  cases about : op.beside with
  | false => exact Or.inl (Op.run_edits success about allowed)
  | true => exact Or.inr (Op.run_beside success about forward)

end

end StateDb

end OgEvm
