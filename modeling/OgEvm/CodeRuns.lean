import OgEvm.StateDbStores
import OgEvm.StateTransition
import OgEvm.StorageJournal
import OgEvm.VmGenesis

/- The code index over whole transactions. Every object carries the hash of its code, and
the code of a hash that is not empty is pending in the object or stored since before the
transaction; so the writes of a flush or a commit keep the index complete. -/
namespace OgEvm.StateDb

open ExceptFacts Function Layers PartialMaps
open Keeper (CodeIndex)

/-- The code of an object is the one of its hash, and is there to be written or stored. -/
structure CodeFine (env : Env) (base : VmStore) (obj : StateObject) : Prop where
  hashed : ∀ code, obj.code = some code → env.keccak code = obj.account.codeHash
  present : obj.account.codeHash = env.emptyCodeHash ∨ (base.codes obj.account.codeHash).isSome ∨
    obj.dirtyCode = true ∧ obj.code.isSome

/-- The same of what an entry of the journal would bring back. -/
def CodeEntry (env : Env) (base : VmStore) : JournalEntry → Prop
  | .resetObjectChange prev => CodeFine env base prev
  | .codeChange _ prevcode prevhash => (∀ code, prevcode = some code → env.keccak code = prevhash) ∧
      (prevhash = env.emptyCodeHash ∨ (base.codes prevhash).isSome ∨ prevcode.isSome)
  | _ => True

structure Coded (env : Env) (base : VmStore) (s : StateDb) : Prop where
  store : s.ctx.store = base
  objects : ∀ addr obj, s.stateObjects addr = some obj → CodeFine env base obj
  entries : ∀ entry ∈ s.journal.entries, CodeEntry env base entry

section

variable {env : Env} {base : VmStore} {s t u : StateDb} {obj changed : StateObject} {addr : Address}

/-- Only the code, its hash and the mark of a change matter. -/
theorem CodeFine.congr (fine : CodeFine env base obj) (code : changed.code = obj.code)
    (hash : changed.account.codeHash = obj.account.codeHash) (dirty : changed.dirtyCode = obj.dirtyCode) :
    CodeFine env base changed := by
  refine ⟨?_, ?_⟩
  · rw [code, hash]
    exact fine.hashed
  · rw [code, hash, dirty]
    exact fine.present

theorem Coded.congr (coded : Coded env base s) (store : t.ctx.store = s.ctx.store)
    (objects : t.stateObjects = s.stateObjects) (entries : t.journal.entries = s.journal.entries) :
    Coded env base t :=
  ⟨store.trans coded.store, by rw [objects]; exact coded.objects, by rw [entries]; exact coded.entries⟩

theorem Coded.set (coded : Coded env base s) (fine : CodeFine env base obj) : Coded env base (setStateObject s obj) :=
  ⟨coded.store, forall_update coded.objects fine, coded.entries⟩

theorem Coded.append (coded : Coded env base s) (entry : JournalEntry) (fine : CodeEntry env base entry) :
    Coded env base (append s entry) := by
  refine ⟨coded.store, coded.objects, ?_⟩
  intro other member
  rcases List.mem_append.mp member with old | new
  · exact coded.entries other old
  · rw [List.mem_singleton.mp new]
    exact fine

/-- A loaded account has its code in the store. -/
theorem codeFine_loaded (index : CodeIndex env base) {account : Account}
    (found : Keeper.getAccount env base addr = some account) : CodeFine env base (newObject addr account) := by
  unfold Keeper.getAccount at found
  obtain ⟨acct, -, rfl⟩ := Option.map_eq_some_iff.mp found
  refine ⟨by simp [newObject], ?_⟩
  change Keeper.getCodeHash env base addr = _ ∨ (base.codes (Keeper.getCodeHash env base addr)).isSome ∨ _
  unfold Keeper.getCodeHash
  cases entry : base.codeHashes addr with
  | none => exact Or.inl rfl
  | some hash =>
    obtain ⟨code, stored⟩ := index.indexed addr hash entry
    exact Or.inr (Or.inl (by rw [Option.getD_some, stored]; rfl))

theorem codeFine_fresh (env : Env) (base : VmStore) (addr : Address) :
    CodeFine env base (newObject addr (emptyAccount env)) :=
  ⟨by simp [newObject], Or.inl rfl⟩

/-! The operations. -/

/-- The code an object caches is the stored one of its hash. -/
theorem Rereads.fine {read : StateObject} (cached : Rereads env base obj read) (index : CodeIndex env base)
    (fine : CodeFine env base obj) : CodeFine env base read := by
  induction cached with
  | refl => exact fine
  | tail _ last ih =>
    cases last with
    | slot => exact ih.congr rfl rfl rfl
    | code uncached coded =>
      refine ⟨fun code found => (index.hashed _ code found).1, ?_⟩
      rcases ih.present with empty | stored | ⟨-, has⟩
      · exact absurd empty coded
      · exact Or.inr (Or.inl stored)
      · rw [uncached] at has
        cases has

theorem CodeFine.withState (fine : CodeFine env base obj) (key value origin : Hash) :
    CodeFine env base (withState obj key value origin) := by
  unfold StateDb.withState
  split <;> exact fine.congr rfl rfl rfl

theorem Rewrite.fine {kind : WriteKind} {entry : JournalEntry} {store : VmStore}
    (written : Rewrite env store addr obj kind entry changed)
    (fine : CodeFine env base obj) : CodeEntry env base entry ∧ CodeFine env base changed := by
  cases written with
  | reset => exact ⟨fine, (codeFine_fresh env base addr).congr rfl rfl rfl⟩
  | state key value => exact ⟨trivial, fine.withState key value _⟩
  | code code =>
    refine ⟨⟨fine.hashed, fine.present.imp_right (Or.imp_right And.right)⟩, ?_, ?_⟩
    · rintro held rfl
      rfl
    · cases code with
      | none => exact Or.inl rfl
      | some held => exact Or.inr (Or.inr ⟨rfl, rfl⟩)
  | _ => exact ⟨trivial, fine.congr rfl rfl rfl⟩

section

variable (coded : Coded env base s) (index : CodeIndex env base)

include coded index

theorem Coded.edit {allow : Address → WriteKind → Prop} (edit : Edit env allow s t) : Coded env base t := by
  cases edit with
  | load load =>
    cases load with
    | account absent stored =>
      rw [coded.store] at stored
      exact coded.set (codeFine_loaded index stored)
    | reread held cached =>
      rw [coded.store] at cached
      exact coded.set (cached.fine index (coded.objects _ _ held))
  | create => exact (coded.append (.createObjectChange _) trivial).set (codeFine_fresh env base _)
  | write held cached written =>
    rw [coded.store] at cached
    obtain ⟨entry, fine⟩ := written.fine (cached.fine index (coded.objects _ _ held))
    exact (coded.append _ entry).set fine

theorem Coded.edits {allow : Address → WriteKind → Prop} (edits : Edits env allow s t) : Coded env base t :=
  edits.keeps (Coded env base) (fun _ _ still edit => still.edit index edit) coded

omit index in
theorem Coded.beside (beside : Beside s t) : Coded env base t := by
  obtain ⟨aside, objects, added, objectless, journal⟩ := beside
  refine ⟨by rw [aside.ctx]; exact coded.store, by rw [objects]; exact coded.objects, fun entry member => ?_⟩
  rw [journal, foldl_append_entries] at member
  rcases List.mem_append.mp member with old | new
  · exact coded.entries entry old
  · have about := objectless entry new
    cases entry <;> trivial

theorem Coded.loading {found : Option StateObject} (loading : getStateObject env s addr = (found, t)) :
    Coded env base t ∧ ∀ obj, found = some obj → CodeFine env base obj := by
  obtain ⟨loaded, there⟩ : Edits env (fun _ _ => True) s t ∧ _ := loading_edits loading
  have after := coded.edits index loaded
  exact ⟨after, fun obj same => after.objects addr obj (there.trans same)⟩

/-! Reverts. -/

theorem Coded.revertObject {undo : StateObject → StateObject} (success : revertObject env s addr undo = .ok t)
    (keeps : ∀ obj, CodeFine env base obj → CodeFine env base (undo obj)) : Coded env base t := by
  obtain ⟨obj, u, loading, rfl⟩ := revertObject_ok success
  obtain ⟨loaded, fine⟩ := coded.loading index loading
  exact loaded.set (keeps obj (fine obj rfl))

theorem Coded.revertEntry {entry : JournalEntry} (kept : CodeEntry env base entry)
    (success : revertEntry env s entry = .ok t) : Coded env base t := by
  cases entry with
  | createObjectChange account =>
    cases success
    exact ⟨coded.store, forall_erase coded.objects, coded.entries⟩
  | resetObjectChange prev =>
    cases success
    exact coded.set kept
  | balanceChange account prev =>
    exact coded.revertObject index success fun obj fine => fine.congr rfl rfl rfl
  | nonceChange account prev =>
    exact coded.revertObject index success fun obj fine => fine.congr rfl rfl rfl
  | storageChange account key preValue origValue =>
    exact coded.revertObject index success fun obj fine => fine.withState _ _ _
  | codeChange account prevcode prevhash =>
    refine coded.revertObject index success fun obj _ => ⟨kept.1, ?_⟩
    exact kept.2.imp_right (Or.imp_right fun has => ⟨rfl, has⟩)
  | createContractChange account =>
    exact coded.revertObject index success fun obj fine => fine.congr rfl rfl rfl
  | selfDestructChange account prev prevbalance =>
    unfold StateDb.revertEntry at success
    rcases loading : getStateObject env s account with ⟨_ | obj, u⟩ <;>
      simp only [loading] at success <;> cases success
    · exact (coded.loading index loading).1
    · obtain ⟨loaded, fine⟩ := coded.loading index loading
      exact loaded.set ((fine obj rfl).congr rfl rfl rfl)
  | addLogChange =>
    unfold StateDb.revertEntry at success
    dsimp only at success
    obtain ⟨-, success⟩ := ite_error_ok success
    cases success
    exact coded.congr rfl rfl rfl
  | accessListAddSlotChange address slot =>
    obtain ⟨al, -, rfl⟩ := map_ok success
    exact coded.congr rfl rfl rfl
  | precompileCallChange snapshot events =>
    obtain ⟨cache, rfl⟩ := revertMultiStore_ok success
    exact coded.congr rfl rfl rfl
  | _ =>
    cases success
    exact coded.congr rfl rfl rfl

theorem Coded.revertToSnapshot {revid : ℤ} (success : revertToSnapshot env s revid = .ok t) : Coded env base t := by
  refine revertToSnapshot_invariant (Coded env base) ?_ (fun _ => coded.congr rfl rfl rfl)
    (fun _ _ held => held.congr rfl rfl rfl) success
  intro x y rest entry held entries reverted
  obtain ⟨z, back, rfl⟩ := revertLast_ok reverted
  have member : entry ∈ x.journal.entries := by
    rw [entries]
    simp
  have undo := held.revertEntry index (held.entries entry member) back
  refine ⟨undo.store, undo.objects, ?_⟩
  intro other inside
  exact held.entries other (List.mem_of_mem_dropLast inside)

end

/-! Flushes and commits. -/

/-- The index with every code that was there before the transaction. -/
structure CodeGrown (env : Env) (base store : VmStore) : Prop where
  index : CodeIndex env store
  grown : ∀ hash, (base.codes hash).isSome → (store.codes hash).isSome

variable (only : ∀ code, env.keccak code = env.emptyCodeHash → code = [])

include only in
/-- Codes are written under their hash and none is removed. -/
theorem flushCode_grown {store : VmStore} (grown : CodeGrown env base store) (fine : CodeFine env base obj) :
    (∀ hash code, (flushCode store obj).codes hash = some code → env.keccak code = hash ∧ code ≠ []) ∧
      (flushCode store obj).codes env.emptyCodeHash = none ∧
      (∀ hash, (store.codes hash).isSome → ((flushCode store obj).codes hash).isSome) ∧
      (obj.account.codeHash ≠ env.emptyCodeHash → ((flushCode store obj).codes obj.account.codeHash).isSome) := by
  have index := grown.index
  have stored (clean : obj.dirtyCode = false ∨ obj.code = none) (proper : obj.account.codeHash ≠ env.emptyCodeHash) :
      (store.codes obj.account.codeHash).isSome := by
    rcases fine.present with empty | before | ⟨dirty, has⟩
    · contradiction
    · exact grown.grown _ before
    · rcases clean with clean | missing
      · rw [clean] at dirty
        cases dirty
      · rw [missing] at has
        cases has
  unfold flushCode
  cases has : obj.code with
  | none => exact ⟨index.hashed, index.nonempty, fun _ there => there, stored (Or.inr has)⟩
  | some code =>
    have digest := fine.hashed code has
    cases dirty : obj.dirtyCode with
    | false => exact ⟨index.hashed, index.nonempty, fun _ there => there, stored (Or.inl dirty)⟩
    | true =>
      simp only [if_true]
      by_cases empty : code.length = 0
      -- a deleted code is the one of the empty hash, which is not stored
      · rw [if_pos empty]
        have nothing : obj.account.codeHash = env.emptyCodeHash := by
          rw [← digest, List.length_eq_zero_iff.mp empty]
          rfl
        have same : (Keeper.deleteCode store obj.account.codeHash).codes = store.codes := by
          rw [nothing]
          exact update_eq_self_iff.mpr index.nonempty.symm
        rw [same]
        exact ⟨index.hashed, index.nonempty, fun _ there => there, fun proper => absurd nothing proper⟩
      · rw [if_neg empty]
        have filled : code ≠ [] := fun same => empty (by rw [same]; rfl)
        have proper : obj.account.codeHash ≠ env.emptyCodeHash :=
          fun same => filled (only code (digest.trans same))
        simp only [Keeper.setCode]
        refine ⟨?_, ?_, ?_, fun _ => by rw [update_self]; rfl⟩
        · exact forall_update index.hashed ⟨digest, filled⟩
        · rw [update_of_ne proper.symm]
          exact index.nonempty
        · intro hash there
          by_cases here : hash = obj.account.codeHash
          · subst here
            rw [update_self]
            rfl
          · rw [update_of_ne here]
            exact there

theorem deleteAccount_cases {ctx after : Context} (success : Keeper.deleteAccount env ctx addr = .ok after) :
    after = ctx ∨ after.store.codeHashes = update ctx.store.codeHashes addr none ∧
      after.store.accounts = update ctx.store.accounts addr.toList none ∧
      after.store.codes = ctx.store.codes := by
  unfold Keeper.deleteAccount at success
  split at success
  · cases success
    exact Or.inl rfl
  · obtain ⟨-, success⟩ := ite_error_ok success
    obtain ⟨emptied, cleared, final⟩ := bind_ok success
    cases final
    simp only [Context.withStore, Keeper.deleteCodeHash]
    rw [Keeper.setBalance_rest cleared]
    exact Or.inr ⟨rfl, rfl, rfl⟩

theorem deleteAccount_index {ctx after : Context} (index : CodeIndex env ctx.store)
    (success : Keeper.deleteAccount env ctx addr = .ok after) : CodeIndex env after.store := by
  rcases deleteAccount_cases success with rfl | ⟨hashes, accounts, codes⟩
  · exact index
  · have elsewhere {other : Address} {hash : Hash} (entry : after.store.codeHashes other = some hash) :
        other ≠ addr ∧ ctx.store.codeHashes other = some hash := update_none (hashes ▸ entry)
    refine ⟨by rw [codes]; exact index.hashed, by rw [codes]; exact index.nonempty, ?_, ?_⟩
    · intro other hash entry
      rw [codes]
      exact index.indexed other hash (elsewhere entry).2
    · intro other hash entry
      obtain ⟨here, before⟩ := elsewhere entry
      rw [accounts, update_of_ne fun same => here (Vector.toList_inj.mp same)]
      exact index.account other hash before

include only in
/-- Writing an object keeps the index. -/
theorem CodeFine.writes (fine : CodeFine env base obj) (keepDirty : Bool) :
    WriteKeeps (CodeGrown env base) env keepDirty obj := by
  intro ctx after changed grown success
  cases alive : obj.selfDestructed with
  | true =>
    have deleted := (commitObject_deleted success alive).1
    refine ⟨deleteAccount_index grown.index deleted, ?_⟩
    rw [(Keeper.deleteAccount_spares deleted).codes]
    exact grown.grown
  | false =>
    have store := commitObject_store success alive
    have hashes := congrArg VmStore.codeHashes store
    have codes := congrArg VmStore.codes store
    have accounts := congrArg VmStore.accounts store
    dsimp only at hashes codes accounts
    obtain ⟨hashed, nonempty, kept, own⟩ := flushCode_grown only grown fine
    rw [← codes] at hashed nonempty kept own
    refine ⟨⟨hashed, nonempty, ?_, ?_⟩, fun hash there => kept hash (grown.grown hash there)⟩
    · intro other hash entry
      rw [hashes] at entry
      by_cases here : other = obj.address
      · rw [here, update_self] at entry
        split at entry
        · cases entry
        · rename_i proper
          cases entry
          exact Option.isSome_iff_exists.mp (own proper)
      · rw [update_of_ne here] at entry
        obtain ⟨code, stored⟩ := grown.index.indexed other hash entry
        exact Option.isSome_iff_exists.mp (kept hash (by rw [stored]; rfl))
    · intro other hash entry
      rw [accounts]
      by_cases here : other = obj.address
      · rw [here, update_self]
        exact ⟨_, rfl⟩
      · have apart : other.toList ≠ obj.address.toList := fun same => here (Vector.toList_inj.mp same)
        rw [hashes, update_of_ne here] at entry
        rw [update_of_ne apart]
        exact grown.index.account other hash entry

theorem Coded.commitObjects {keepDirty : Bool} {addrs : List Address} {ctx after : Context}
    {err : Option GoError} (coded : Coded env base s)
    (success : commitObjects env keepDirty addrs s ctx = .ok (t, after, err)) : Coded env base t := by
  refine commitObjects_invariant (fun u _ => Coded env base u) success coded ?_
  intro u ctx addr obj middle changed still found written
  obtain ⟨origins, dirty, rfl⟩ := commitObject_frame written
  exact still.set ((still.objects addr obj found).congr rfl rfl rfl)

theorem Coded.enterPrecompile (coded : Coded env base s) {err : Option GoError}
    (success : enterPrecompile env s = .ok (t, err)) : Coded env base t := by
  have called : Coded env base (journalCall s) :=
    (coded.append (.precompileCallChange _ _) trivial).congr rfl rfl rfl
  rcases enterPrecompile_cases success with ⟨rfl, -⟩ | ⟨cache, u, ctx, -, flushed, rfl⟩
  · exact called
  · exact (called.commitObjects flushed).congr rfl rfl rfl

/-- Step. -/
theorem Coded.step (coded : Coded env base s) (index : CodeIndex env base) {step : Step}
    (success : step.run env s = .ok t) : Coded env base t := by
  cases step with
  | precompile p =>
    obtain ⟨⟨u, err⟩, ran, rfl⟩ := map_ok success
    rcases runNativeAction_cases ran with ⟨-, began⟩ | ⟨v, ctx, failed, events, began, -, -, rfl⟩
    · exact coded.enterPrecompile began
    · have acted : Coded env base (withCacheContext v ctx) := (coded.enterPrecompile began).congr rfl rfl rfl
      have credited : Edits env (fun _ _ => True) (withCacheContext v ctx) _ :=
        afterEvents_edits env events _ fun _ => trivial
      exact acted.edits index credited
  | op op =>
    by_cases back : ∃ revid, op = .revertToSnapshot revid
    · obtain ⟨revid, rfl⟩ := back
      exact coded.revertToSnapshot index success
    · rcases Op.run_cases success (not_exists.mp back) fun _ _ _ => trivial with edits | beside
      · exact coded.edits index edits
      · exact coded.beside beside

/-- A precompile's own writes keep the index and every stored code. -/
def KeepsCode (env : Env) (p : Precompile) : Prop := ∀ base, ActionKeeps (CodeGrown env base) p

include only in
theorem Coded.dirtyKeeps (coded : Coded env base s) (keepDirty : Bool) :
    DirtyKeeps (CodeGrown env base) env keepDirty s :=
  fun addr _ obj found => (coded.objects addr obj found).writes only keepDirty

/-- Run. -/
theorem Coded.runSteps (coded : Coded env base s) (index : CodeIndex env base) {steps : List Step}
    (ran : runSteps env s steps = .ok t) : Coded env base t := by
  induction steps generalizing s with
  | nil =>
    cases ran
    exact coded
  | cons step rest ih =>
    rw [StateDb.runSteps, List.foldlM_cons] at ran
    obtain ⟨middle, stepped, remaining⟩ := bind_ok ran
    exact ih (coded.step index stepped) remaining

include only in
theorem Coded.runKeeps (coded : Coded env base s) (index : CodeIndex env base) {steps : List Step}
    (calls : ∀ p, Step.precompile p ∈ steps → KeepsCode env p) : RunKeeps (CodeGrown env base) env s steps := by
  induction steps generalizing s with
  | nil => trivial
  | cons step rest ih =>
    refine ⟨?_, fun t stepped => ?_⟩
    · rintro p rfl
      exact ⟨coded.dirtyKeeps only true, calls p List.mem_cons_self base⟩
    · exact ih (coded.step index stepped) fun p member => calls p (List.mem_cons_of_mem _ member)

include only in
/-- A transaction keeps the index. -/
theorem transaction_index {ctx : Context} {txConfig : TxConfig} {preparation : Option Preparation}
    {start final : StateDb} {steps : List Step} (index : CodeIndex env ctx.store)
    (started : begin ctx txConfig preparation = .ok start)
    (calls : ∀ p, Step.precompile p ∈ steps → KeepsCode env p) (ran : runSteps env start steps = .ok s)
    (committed : commit env s = .ok (final, none)) : CodeIndex env final.ctx.store := by
  have begun : Everywhere env (fun _ => view env noSlot start) start := begin_tracked started trivial
  obtain ⟨all, everywhere⟩ := everywhere_runSteps begun ran
  obtain ⟨context, -, objects, journal⟩ := begin_empty started
  have coded : Coded env ctx.store start := by
    refine ⟨by rw [context], ?_, ?_⟩
    · rw [objects]
      simp
    · rw [journal]
      simp [Journal.newJournal]
  have grown : CodeGrown env ctx.store ctx.store := ⟨index, fun _ there => there⟩
  have copies := runSteps_copies begun (begin_copies started grown) (coded.runKeeps only index calls) ran
  have kept := (coded.runSteps index ran).dirtyKeeps only false
  exact (commit_keeps everywhere.addressed copies.current kept committed).index

end

/-- The keeper states that Ethereum transactions lead to, from a store without contracts.
Between them coins move and accounts are created. -/
inductive Reachable (env : Env) : VmStore → Prop
  | start (store : VmStore) : Reachable env (Keeper.withoutContracts store)
  | native {store : VmStore} (accounts : AccAddress → Option AuthAccount) (bank : BankState)
      (reached : Reachable env store)
      (kept : ∀ account, (store.accounts account).isSome → (accounts account).isSome) :
      Reachable env { store with accounts := accounts, bank := bank }
  | transaction {ctx : Context} {txConfig : TxConfig} {preparation : Option Preparation}
      {start s final : StateDb} {steps : List Step} (reached : Reachable env ctx.store)
      (started : begin ctx txConfig preparation = .ok start)
      (calls : ∀ p, Step.precompile p ∈ steps → KeepsCode env p) (ran : runSteps env start steps = .ok s)
      (committed : commit env s = .ok (final, none)) : Reachable env final.ctx.store

theorem Reachable.index {env : Env} {store : VmStore}
    (only : ∀ code, env.keccak code = env.emptyCodeHash → code = []) (reached : Reachable env store) :
    CodeIndex env store := by
  induction reached with
  | start store => exact ⟨by simp [Keeper.withoutContracts], rfl, by simp [Keeper.withoutContracts],
      by simp [Keeper.withoutContracts]⟩
  | native accounts bank reached kept ih =>
    refine ⟨ih.hashed, ih.nonempty, ih.indexed, fun addr hash entry => ?_⟩
    obtain ⟨acct, held⟩ := ih.account addr hash entry
    exact Option.isSome_iff_exists.mp (kept addr.toList (by rw [held]; rfl))
  | transaction reached started calls ran committed ih =>
    exact transaction_index only ih started calls ran committed

/-- In every reachable state, export and import preserve the contract state exactly if no
address without a code hash has a slot that is not zero. -/
theorem genesis_round_trip_iff {env : Env} {store : VmStore}
    (only : ∀ code, env.keccak code = env.emptyCodeHash → code = []) (reached : Reachable env store)
    (iterators : Iterators store) :
    (∃ imported, Keeper.initGenesis env (Keeper.withoutContracts store)
        (Keeper.exportGenesis env store iterators) = .ok imported ∧ Keeper.Restores env store imported) ↔
      ∀ addr, store.codeHashes addr = none → ∀ slot, Keeper.getState store addr slot = zeroHash :=
  Keeper.export_import_iff (reached.index only) iterators

/-! A delegation is set and used to write a slot, and cleared by a later transaction. -/

/-- A digest that is zero for the empty code only. -/
def markedKeccak (bytes : Bytes) : Hash := if bytes = [] then zeroHash else (bytesToHash bytes).set 0 1

def markedEnv : Env := ⟨Precisebank.sixDecimals, markedKeccak⟩

theorem markedKeccak_only : ∀ code, markedEnv.keccak code = markedEnv.emptyCodeHash → code = [] := by
  intro code same
  by_contra filled
  have first := congrArg (fun hash : Hash => hash[0]) same
  simp [markedEnv, Env.emptyCodeHash, markedKeccak, filled, zeroHash] at first

def authority : Address := bytesToAddress [7]

def delegation : Bytes := Vm.addressToDelegation (bytesToAddress [9])

/-- The authorization, and the write of the code it delegates to. -/
def delegateSteps : List Step :=
  [.op (.setNonce authority 1), .op (.setCode authority (some delegation)),
    .op (.setState authority zeroHash (bytesToHash [1]))]

def clearSteps : List Step := [.op (.setNonce authority 2), .op (.setCode authority none)]

def delegatedStore : VmStore :=
  { emptyStore with
    accounts := update emptyStore.accounts authority.toList (some ⟨1⟩)
    codeHashes := update emptyStore.codeHashes authority (some (markedKeccak delegation))
    codes := update emptyStore.codes (markedKeccak delegation) (some delegation)
    storage := update emptyStore.storage authority
      (update (emptyStore.storage authority) zeroHash (some (bytesToHash [1]).toList)) }

def clearedStore : VmStore :=
  { delegatedStore with
    accounts := update delegatedStore.accounts authority.toList (some ⟨2⟩)
    codeHashes := update delegatedStore.codeHashes authority none }

theorem Reachable.run {env : Env} {store after : VmStore} (reached : Reachable env store) (txIndex : ℕ)
    (steps : List Step) (calls : ∀ p, Step.precompile p ∈ steps → KeepsCode env p)
    (ran : ∃ s final, runSteps env (new ⟨store, []⟩ ⟨zeroHash, txIndex⟩) steps = .ok s ∧
      commit env s = .ok (final, none) ∧ final.ctx.store = after) : Reachable env after := by
  obtain ⟨s, final, ran, committed, rfl⟩ := ran
  have started : begin ⟨store, []⟩ ⟨zeroHash, txIndex⟩ none = .ok (new ⟨store, []⟩ ⟨zeroHash, txIndex⟩) := rfl
  exact .transaction reached started calls ran committed

theorem delegated_reachable : Reachable markedEnv delegatedStore :=
  (Reachable.start emptyStore).run 0 delegateSteps (by simp [delegateSteps]) ⟨_, _, rfl, rfl, rfl⟩

theorem cleared_reachable : Reachable markedEnv clearedStore :=
  delegated_reachable.run 1 clearSteps (by simp [clearSteps]) ⟨_, _, rfl, rfl, rfl⟩

/-- The slot of the authority is the only one stored. -/
theorem delegatedStore_slots (addr : Address) (key : Hash) :
    key ∈ (if addr = authority then [zeroHash] else []) ↔ (delegatedStore.storage addr key).isSome := by
  unfold delegatedStore
  by_cases here : addr = authority
  · subst here
    by_cases slot : key = zeroHash <;> simp [slot, emptyStore]
  · simp [here, emptyStore]

def delegatedIterators : Iterators delegatedStore where
  contracts := [authority]
  slots addr := if addr = authority then [zeroHash] else []
  mem_contracts addr := by
    unfold delegatedStore
    by_cases here : addr = authority <;> simp [here, emptyStore]
  mem_slots := delegatedStore_slots

def clearedIterators : Iterators clearedStore where
  contracts := []
  slots addr := if addr = authority then [zeroHash] else []
  mem_contracts addr := by
    unfold clearedStore delegatedStore
    by_cases here : addr = authority <;> simp [here, emptyStore]
  mem_slots := delegatedStore_slots

theorem genesis_round_trip_iff_delegated :
    ∃ imported, Keeper.initGenesis markedEnv (Keeper.withoutContracts delegatedStore)
        (Keeper.exportGenesis markedEnv delegatedStore delegatedIterators) = .ok imported ∧
      Keeper.Restores markedEnv delegatedStore imported := by
  rw [genesis_round_trip_iff markedKeccak_only delegated_reachable]
  intro addr missing slot
  have apart : addr ≠ authority := by
    rintro rfl
    simp [delegatedStore] at missing
  simp [Keeper.getState, delegatedStore, apart, emptyStore]

/-- After the delegation is cleared the slot still reads one, but the export is empty and the
imported store reads zero. -/
theorem cleared_storage_lost :
    Reachable markedEnv clearedStore ∧
      Keeper.getState clearedStore authority zeroHash = bytesToHash [1] ∧
      Keeper.exportGenesis markedEnv clearedStore clearedIterators = [] ∧
      Keeper.initGenesis markedEnv (Keeper.withoutContracts clearedStore) [] =
        .ok (Keeper.withoutContracts clearedStore) ∧
      Keeper.getState (Keeper.withoutContracts clearedStore) authority zeroHash = zeroHash :=
  ⟨cleared_reachable, by decide, rfl, rfl, rfl⟩

end OgEvm.StateDb
