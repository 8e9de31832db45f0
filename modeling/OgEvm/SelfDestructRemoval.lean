import OgEvm.CoinMoves
import OgEvm.KeeperSucceeds
import OgEvm.StateDbStores

/- What a commit does to a contract that was created and destructed in the transaction.
`DeleteAccount` asks the stored code hash whether the account is a contract, so an address
that had an account before and was not flushed with its code fails the whole commit, and an
address without an account keeps whatever balance and storage it has. -/
namespace OgEvm

open ExceptFacts Function Precisebank

namespace Keeper

/-- The address has no code, no storage and no balance. -/
structure Removed (env : Env) (store : VmStore) (addr : Address) : Prop where
  code : getCodeHash env store addr = env.emptyCodeHash
  storage : ∀ key, store.storage addr key = none
  balance : Precisebank.getBalance env.bank store.bank addr.toList env.bank.extendedDenom = 0

/-- The stored account is a contract, or there is none and nothing else of it either. -/
def Deletable (env : Env) (store : VmStore) (addr : Address) : Prop :=
  match store.accounts addr.toList with
  | none => Removed env store addr
  | some _ => isContract env store addr = true

section

variable {env : Env} {ctx after : Context} {addr : Address}

theorem healthy_unlock {cfg : Config} {s : BankState} (healthy : Healthy cfg s) (account : AccAddress) :
    Healthy cfg { s with locked := update s.locked account 0 } := by
  have free : ∀ other, update s.locked account 0 other cfg.denom = 0 := by
    intro other
    by_cases here : other = account
    · rw [here, update_self]
      rfl
    · rw [update_of_ne here]
      exact healthy.unlocked other
  exact ⟨healthy.backed.of_same rfl rfl rfl, ⟨healthy.ledger.supply, free _⟩, free, healthy.funds⟩

theorem deleteAccount_contract (ready : BankReady env) (healthy : Healthy env.bank ctx.bank)
    (apart : addr.toList ≠ env.bank.reserve) {acct : AuthAccount}
    (account : ctx.store.accounts addr.toList = some acct) (contract : isContract env ctx.store addr = true) :
    ∃ after, deleteAccount env ctx addr = .ok after ∧ Healthy env.bank after.bank ∧ Removed env after.store addr := by
  let unlocked : Context := ctx.withStore { ctx.store with
    bank := { ctx.store.bank with locked := update ctx.store.bank.locked addr.toList 0 } }
  have well : Healthy env.bank unlocked.bank := healthy_unlock healthy addr.toList
  obtain ⟨emptied, cleared⟩ : ∃ emptied, setBalance env unlocked addr 0 = .ok emptied :=
    setBalance_succeeds ready well apart (Or.inr rfl)
  have pays := setBalance_pays well ready.apart apart cleared
  refine ⟨emptied.withStore { deleteCodeHash
      { emptied.store with storage := update emptied.store.storage addr fun _ => none } addr with
      accounts := update emptied.store.accounts addr.toList none }, ?_, pays.healthy, ?_⟩
  · unfold deleteAccount
    rw [account]
    simp only [contract, Bool.true_eq_false, if_false]
    exact bind_of_ok cleared _
  · refine ⟨by simp [getCodeHash, Context.withStore, deleteCodeHash], ?_, ?_⟩
    · intro key
      simp [Context.withStore, deleteCodeHash]
    · have balance := pays.balance addr.toList
      rw [booked_self] at balance
      change Precisebank.getBalance env.bank emptied.bank addr.toList env.bank.extendedDenom = 0
      rw [balance]
      simp

/-- What the commit of another account leaves of an address. -/
structure Unmoved (env : Env) (addr : Address) (ctx after : Context) : Prop where
  healthy : Healthy env.bank after.bank
  account : after.store.accounts addr.toList = ctx.store.accounts addr.toList
  codeHash : after.store.codeHashes addr = ctx.store.codeHashes addr
  storage : after.store.storage addr = ctx.store.storage addr
  balance : Precisebank.getBalance env.bank after.store.bank addr.toList env.bank.extendedDenom =
    Precisebank.getBalance env.bank ctx.store.bank addr.toList env.bank.extendedDenom

theorem Unmoved.getCodeHash (unmoved : Unmoved env addr ctx after) :
    getCodeHash env after.store addr = getCodeHash env ctx.store addr := by
  unfold Keeper.getCodeHash
  rw [unmoved.codeHash]

theorem Unmoved.removed (unmoved : Unmoved env addr ctx after) :
    Removed env after.store addr ↔ Removed env ctx.store addr := by
  have code := unmoved.getCodeHash
  have storage := unmoved.storage
  have balance := unmoved.balance
  constructor
  · intro gone
    exact ⟨code ▸ gone.code, storage ▸ gone.storage, balance ▸ gone.balance⟩
  · intro gone
    exact ⟨code.trans gone.code, fun key => by rw [storage]; exact gone.storage key,
      balance.trans gone.balance⟩

theorem Unmoved.trans {last : Context} (first : Unmoved env addr ctx after) (second : Unmoved env addr after last) :
    Unmoved env addr ctx last where
  healthy := second.healthy
  account := second.account.trans first.account
  codeHash := second.codeHash.trans first.codeHash
  storage := second.storage.trans first.storage
  balance := second.balance.trans first.balance

theorem Unmoved.deletable (unmoved : Unmoved env addr ctx after)
    (contract : isContract env after.store addr = isContract env ctx.store addr) :
    Deletable env after.store addr ↔ Deletable env ctx.store addr := by
  have removed := unmoved.removed
  unfold Deletable
  rw [unmoved.account]
  cases ctx.store.accounts addr.toList with
  | none => exact removed
  | some acct =>
    simp only
    rw [contract]

end

end Keeper

namespace StateDb

open Keeper (Removed Deletable Unmoved)

/-- Another account of the transaction that can be written, and that writes no other kind of
code under the given hash. -/
structure OtherAccount (env : Env) (codeHash : Hash) (contract : Bool) (obj : StateObject) : Prop where
  alive : obj.selfDestructed = false
  ordinary : obj.address.toList ≠ env.bank.reserve
  allowed : env.bank.blockedAddr obj.address.toList = false
  code : ∀ code, obj.dirtyCode = true → obj.code = some code → obj.account.codeHash = codeHash →
    (code ≠ [] && !Keeper.isDelegation code) = contract

section

variable {env : Env} {keepDirty : Bool} {ctx after : Context} {s t : StateDb} {addr : Address}
  {obj changed : StateObject} {codeHash : Hash} {contract : Bool}

theorem commitObject_unmoved (ready : BankReady env) (healthy : Healthy env.bank ctx.bank)
    (other : OtherAccount env codeHash contract obj) (apart : addr ≠ obj.address)
    (success : commitObject env keepDirty ctx obj = .ok (after, changed)) : Unmoved env addr ctx after := by
  have pays := commitObject_pays healthy ready.apart other.ordinary other.alive success
  have elsewhere : addr.toList ≠ obj.address.toList := fun same => apart (Vector.toList_inj.mp same)
  refine ⟨pays.healthy, ?_, ?_, commitObject_untouched success apart, ?_⟩
  · rw [commitObject_store success other.alive]
    exact update_of_ne elsewhere _ _
  · rw [commitObject_store success other.alive]
    exact update_of_ne apart _ _
  · have balance := pays.balance addr.toList
    rw [booked_ne _ elsewhere, add_zero] at balance
    exact balance

/-- Whether the address is a contract stays as it is, since its code is not rewritten. -/
theorem commitObject_contract
    (other : OtherAccount env (Keeper.getCodeHash env ctx.store addr) (Keeper.isContract env ctx.store addr) obj)
    (unmoved : Unmoved env addr ctx after) (success : commitObject env keepDirty ctx obj = .ok (after, changed)) :
    Keeper.isContract env after.store addr = Keeper.isContract env ctx.store addr := by
  have codes := congrArg VmStore.codes (commitObject_store success other.alive)
  have same := unmoved.getCodeHash
  have code := other.code
  unfold Keeper.isContract Keeper.getCode at *
  rw [same, codes]
  unfold flushCode
  cases has : obj.code with
  | none => rfl
  | some written =>
    cases dirty : obj.dirtyCode with
    | false => rfl
    | true =>
      by_cases here : obj.account.codeHash = Keeper.getCodeHash env ctx.store addr
      · rw [← code written dirty has here]
        by_cases empty : written = []
        · simp [empty, Keeper.deleteCode, here]
        · simp [empty, Keeper.setCode, here]
      · have away := Ne.symm here
        by_cases empty : written = []
        · simp [empty, Keeper.deleteCode, away]
        · simp [empty, Keeper.setCode, away]

theorem commitObjects_next {rest : List Address} {middle : Context} (found : s.stateObjects addr = some obj)
    (written : commitObject env keepDirty ctx obj = .ok (middle, changed)) :
    commitObjects env keepDirty (addr :: rest) s ctx =
      commitObjects env keepDirty rest (setStateObject s changed) middle := by
  rw [commitObjects]
  simp only [found, written]

/-- Every account of the list can be written. -/
def OtherAccounts (env : Env) (codeHash : Hash) (contract : Bool) (addrs : List Address) (s : StateDb) : Prop :=
  ∀ other ∈ addrs, ∃ obj, s.stateObjects other = some obj ∧ OtherAccount env codeHash contract obj

theorem OtherAccounts.next {first : Address} {rest : List Address}
    (others : OtherAccounts env codeHash contract rest s) (fresh : first ∉ rest)
    (place : changed.address = first) : OtherAccounts env codeHash contract rest (setStateObject s changed) := by
  intro other member
  obtain ⟨held, found, fine⟩ := others other member
  refine ⟨held, ?_, fine⟩
  have apart : other ≠ changed.address := by
    rw [place]
    rintro rfl
    exact fresh member
  simp only [setStateObject, update_of_ne apart]
  exact found

theorem commitObjects_others (ready : BankReady env) {addrs : List Address}
    (healthy : Healthy env.bank ctx.bank) (addressed : Addressed s) (distinct : addrs.Nodup)
    (outside : addr ∉ addrs) (others : OtherAccounts env codeHash contract addrs s) :
    ∃ t after, commitObjects env keepDirty addrs s ctx = .ok (t, after, none) ∧ Unmoved env addr ctx after := by
  induction addrs generalizing s ctx with
  | nil => exact ⟨s, ctx, rfl, healthy, rfl, rfl, rfl, rfl⟩
  | cons first rest ih =>
    obtain ⟨fresh, distinct⟩ := List.nodup_cons.mp distinct
    obtain ⟨apart, outside⟩ := not_or.mp fun member => outside (List.mem_cons.mpr member)
    obtain ⟨head, tail⟩ := List.forall_mem_cons.mp others
    obtain ⟨obj, found, fine⟩ := head
    have home := addressed first obj found
    obtain ⟨middle, changed, written⟩ : ∃ middle changed,
        commitObject env keepDirty ctx obj = .ok (middle, changed) :=
      commitObject_succeeds ready healthy fine.ordinary fine.allowed fine.alive
    have place := (commitObject_rest written).1.trans home
    have unmoved := commitObject_unmoved ready healthy fine (by rw [home]; exact apart) written
    rw [commitObjects_next found written]
    obtain ⟨t, after, done, still⟩ := ih unmoved.healthy (addressed_setStateObject addressed changed)
      distinct outside (OtherAccounts.next tail fresh place)
    exact ⟨t, after, done, unmoved.trans still⟩

/-- The turn of a destructed account: it is deleted, or passed over if it is not stored, or
its deletion is refused. -/
theorem commitObject_destructed (keepDirty : Bool) (ready : BankReady env) (healthy : Healthy env.bank ctx.bank)
    (ordinary : obj.address.toList ≠ env.bank.reserve) (destructed : obj.selfDestructed = true) :
    (Deletable env ctx.store obj.address ∧ ∃ after, commitObject env keepDirty ctx obj = .ok (after, obj) ∧
        Healthy env.bank after.bank ∧ Removed env after.store obj.address) ∨ (¬Deletable env ctx.store obj.address ∧
        (commitObject env keepDirty ctx obj = .ok (ctx, obj) ∧ ¬Removed env ctx.store obj.address ∨
          ∃ code text, commitObject env keepDirty ctx obj = .error (.error code text))) := by
  unfold commitObject Deletable
  rw [if_pos destructed]
  cases account : ctx.store.accounts obj.address.toList with
  | none =>
    have passed : Keeper.deleteAccount env ctx obj.address = .ok ctx := by
      unfold Keeper.deleteAccount
      rw [account]
    simp only
    rw [passed]
    by_cases gone : Removed env ctx.store obj.address
    · exact Or.inl ⟨gone, ctx, rfl, healthy, gone⟩
    · exact Or.inr ⟨gone, Or.inl ⟨rfl, gone⟩⟩
  | some acct =>
    simp only
    cases contract : Keeper.isContract env ctx.store obj.address with
    | true =>
      obtain ⟨after, deleted, well, gone⟩ :=
        Keeper.deleteAccount_contract ready healthy ordinary account contract
      rw [deleted]
      exact Or.inl ⟨rfl, after, rfl, well, gone⟩
    | false =>
      have refused : Keeper.deleteAccount env ctx obj.address =
          .error (.error .other "only smart contracts can be self-destructed") := by
        unfold Keeper.deleteAccount
        rw [account]
        simp only [contract, if_true]
      rw [refused]
      exact Or.inr ⟨by simp, Or.inr ⟨_, _, rfl⟩⟩

/-- The commit goes through and leaves nothing of the destructed account exactly if the
account could be deleted in the store the commit starts from. -/
theorem commitObjects_removes_iff (keepDirty : Bool) (ready : BankReady env) {addrs : List Address}
    (healthy : Healthy env.bank ctx.bank) (addressed : Addressed s) (distinct : addrs.Nodup)
    (member : addr ∈ addrs) (found : s.stateObjects addr = some obj) (destructed : obj.selfDestructed = true)
    (ordinary : addr.toList ≠ env.bank.reserve) (others : OtherAccounts env (Keeper.getCodeHash env ctx.store addr)
      (Keeper.isContract env ctx.store addr) (addrs.erase addr) s) :
    (∃ t after, commitObjects env keepDirty addrs s ctx = .ok (t, after, none) ∧
      Removed env after.store addr) ↔ Deletable env ctx.store addr := by
  induction addrs generalizing s ctx with
  | nil => cases member
  | cons first rest ih =>
    obtain ⟨fresh, distinct⟩ := List.nodup_cons.mp distinct
    by_cases here : first = addr
    -- the account's own turn; the rest leaves its outcome alone
    · subst here
      rw [List.erase_cons_head] at others
      have home := addressed first obj found
      have own : obj.address.toList ≠ env.bank.reserve := by
        rw [home]
        exact ordinary
      have written := commitObject_destructed keepDirty ready healthy own destructed
      rw [home] at written
      have remaining := others.next fresh home
      have kept := addressed_setStateObject addressed obj
      rcases written with ⟨deletable, after, written, well, gone⟩ | ⟨not, ⟨written, left⟩ | ⟨_, _, refused⟩⟩
      · rw [commitObjects_next found written]
        obtain ⟨t, last, done, unmoved⟩ := commitObjects_others ready well kept distinct fresh remaining
        exact ⟨fun _ => deletable, fun _ => ⟨t, last, done, unmoved.removed.mpr gone⟩⟩
      · rw [commitObjects_next found written]
        obtain ⟨t, last, done, unmoved⟩ := commitObjects_others ready healthy kept distinct fresh remaining
        refine ⟨fun outcome => ?_, fun deletable => absurd deletable not⟩
        obtain ⟨_, _, same, gone⟩ := outcome
        rw [done] at same
        cases same
        exact absurd (unmoved.removed.mp gone) left
      · refine ⟨fun outcome => ?_, fun deletable => absurd deletable not⟩
        obtain ⟨_, _, same, -⟩ := outcome
        rw [commitObjects] at same
        simp only [found, refused] at same
        cases same
    -- another account's turn
    · rw [List.erase_cons_tail (by simpa using here)] at others
      obtain ⟨head, tail⟩ := List.forall_mem_cons.mp others
      obtain ⟨held, present, fine⟩ := head
      have home := addressed first held present
      obtain ⟨middle, changed, written⟩ : ∃ middle changed,
          commitObject env keepDirty ctx held = .ok (middle, changed) :=
        commitObject_succeeds ready healthy fine.ordinary fine.allowed fine.alive
      have place := (commitObject_rest written).1.trans home
      have unmoved := commitObject_unmoved ready healthy fine (by rw [home]; exact Ne.symm here) written
      have contract := commitObject_contract fine unmoved written
      rw [commitObjects_next present written, ← unmoved.deletable contract]
      refine ih unmoved.healthy (addressed_setStateObject addressed changed) distinct
        ((List.mem_cons.mp member).resolve_left (Ne.symm here)) ?_ ?_
      · simp only [setStateObject]
        rw [update_of_ne (by rw [place]; exact Ne.symm here)]
        exact found
      · rw [unmoved.getCodeHash, contract]
        exact OtherAccounts.next tail (fun inside => fresh (List.mem_of_mem_erase inside)) place

/-- `SelfDestruct6780` on a contract of this transaction. -/
theorem selfDestruct6780_created (sound : Sound s) (created : (isNewContract env s addr).1 = true) :
    (∃ obj, (selfDestruct6780 env s addr).stateObjects addr = some obj ∧ obj.selfDestructed = true) ∧
      addr ∈ (selfDestruct6780 env s addr).journal.dirties := by
  unfold isNewContract at created
  unfold selfDestruct6780
  rcases loading : getStateObject env s addr with ⟨_ | obj, u⟩
  · rw [loading] at created
    cases created
  · rw [loading] at created
    obtain ⟨loaded, held⟩ : Edits env (fun _ _ => True) s u ∧ _ := loading_edits loading
    have home := loaded.addressed sound.addressed addr obj held
    have again : getStateObject env u addr = (some obj, u) := by
      unfold getStateObject
      rw [held]
    have fresh : obj.newContract = true := created
    simp only [fresh, if_true, selfDestruct, again]
    refine ⟨⟨withBalance { obj with selfDestructed := true } 0, ?_, rfl⟩, ?_⟩
    · simp [setStateObject, withBalance, home, fresh]
    · simp [setStateObject, append, Journal.append, JournalEntry.dirtied, Journal.countUp]

/-- Without a precompile call the commit starts from the store of the transaction. -/
theorem runSteps_store {ctx : Context} {txConfig : TxConfig} {preparation : Option Preparation}
    {start : StateDb} {steps : List Step} (started : begin ctx txConfig preparation = .ok start)
    (ran : runSteps env start steps = .ok s) (uncalled : ∀ p, Step.precompile p ∉ steps) :
    (cacheCopies s).current = ctx.store := by
  have begun : Everywhere env (fun _ => view env noSlot start) start := begin_tracked started trivial
  have keeps : ∀ state, RunKeeps (fun store => store = ctx.store) env state steps := by
    clear ran
    induction steps with
    | nil => exact fun _ => trivial
    | cons step rest ih =>
      intro state
      refine ⟨fun p same => absurd List.mem_cons_self (same ▸ uncalled p), fun t _ => ?_⟩
      exact ih (fun p member => uncalled p (List.mem_cons_of_mem _ member)) t
  have same : (cacheCopies start).All fun store => store = ctx.store := begin_copies started rfl
  exact (runSteps_copies begun same (keeps start) ran).current

/-- The other accounts of the transaction can be written. -/
def Companions (env : Env) (addr : Address) (s : StateDb) : Prop :=
  OtherAccounts env (Keeper.getCodeHash env (cacheCopies s).current addr)
    (Keeper.isContract env (cacheCopies s).current addr) (s.journal.sortedDirties.erase addr) s

/-- A contract created and destructed in one transaction is removed by the commit exactly if
the store that the precompile calls have left has a contract's code for its account, or no
account and nothing else. Without a precompile call that is the store before the
transaction, where the address has no code: it must have had no account either. -/
theorem created_removed_iff {ctx : Context} {txConfig : TxConfig} {preparation : Option Preparation}
    {start : StateDb} {steps : List Step} (ready : BankReady env)
    (started : begin ctx txConfig preparation = .ok start) (ran : runSteps env start steps = .ok s)
    (created : (isNewContract env s addr).1 = true) (ordinary : addr.toList ≠ env.bank.reserve)
    (healthy : Healthy env.bank (cacheCopies s).current.bank)
    (companions : Companions env addr (selfDestruct6780 env s addr)) :
    ((∃ final, commit env (selfDestruct6780 env s addr) = .ok (final, none) ∧
        Removed env final.ctx.store addr) ↔ Deletable env (cacheCopies s).current addr) ∧
      ((∀ p, Step.precompile p ∉ steps) → Keeper.isContract env ctx.store addr = false →
        (Deletable env (cacheCopies s).current addr ↔
          ctx.store.accounts addr.toList = none ∧ Removed env ctx.store addr)) := by
  have begun : Everywhere env (fun _ => view env noSlot start) start := begin_tracked started trivial
  obtain ⟨all, everywhere⟩ := everywhere_runSteps begun ran
  refine ⟨?_, fun uncalled empty => ?_⟩
  · obtain ⟨⟨obj, found, destructed⟩, dirty⟩ := selfDestruct6780_created everywhere.sound created
    have copies := (Op.run_aside (show (Op.selfDestruct6780 addr).run env s = .ok _ from rfl) (by simp)).cacheCopies
    have change : Journaled env noSlot s (selfDestruct6780 env s addr) :=
      run_journaled everywhere.sound (show (Op.selfDestruct6780 addr).run env s = .ok _ from rfl) (by simp)
    have addressed := change.sound.addressed
    generalize selfDestruct6780 env s addr = t at *
    obtain ⟨store, objects, journal⟩ := written_eq t
    rw [copies] at store
    unfold Companions at companions
    rw [copies, ← store] at companions
    rw [← store] at healthy ⊢
    rw [← objects] at found
    have kept : Addressed (written t) := by
      intro other held there
      rw [objects] at there
      exact addressed other held there
    have exactly := commitObjects_removes_iff false ready (healthy.of_events _) kept
      (sortedDirties_nodup t.journal) ((mem_sortedDirties _ _).mpr dirty) found destructed ordinary
      (by
        intro other member
        rw [objects]
        exact companions other member)
    rw [← exactly]
    constructor
    · rintro ⟨final, committed, gone⟩
      obtain ⟨u, after, done, rfl⟩ := commit_ok committed
      exact ⟨u, after, done, gone⟩
    · rintro ⟨u, after, done, gone⟩
      exact ⟨{ u with ctx := after }, commit_of_written done, gone⟩
  · rw [runSteps_store started ran uncalled]
    unfold Deletable
    cases ctx.store.accounts addr.toList with
    | none => simp
    | some acct => simp [empty]

end

/-! A contract is created, given code and destructed. -/

theorem emptyBank_getBalance (account : AccAddress) :
    Precisebank.getBalance sixDecimals emptyBank account "atest" = 0 := by
  by_cases reserve : account = [1]
  · subst reserve
    exact getBalance_reserve
  · have extended := @getBalance_extended sixDecimals emptyBank account reserve
    exact extended.trans (by simp [emptyBank])

theorem emptyBank_healthy : Healthy toyEnv.bank emptyBank where
  backed := emptyBank_backed
  ledger := ⟨by decide, rfl⟩
  unlocked := fun _ => rfl
  funds := fun account => (emptyBank_getBalance account).ge

theorem toyEnv_ready : BankReady toyEnv :=
  ⟨⟨[2], by decide⟩, by decide, by decide, by decide, by decide, by decide, by decide⟩

/-- What a creation does at an address that has an account, and the code it deploys. -/
def deploySteps (addr : Address) : List Step :=
  [.op (.createContract addr), .op (.setNonce addr 1), .op (.setCode addr (some [0x60]))]

def freshDeploy : List Step := .op (.createAccount (bytesToAddress [7])) :: deploySteps (bytesToAddress [7])

theorem created_removed_iff_freshDeploy :
    ∃ s final, runSteps toyEnv (new ⟨emptyStore, []⟩ ⟨zeroHash, 0⟩) freshDeploy = .ok s ∧
      (isNewContract toyEnv s (bytesToAddress [7])).1 = true ∧
      commit toyEnv (selfDestruct6780 toyEnv s (bytesToAddress [7])) = .ok (final, none) ∧
      Removed toyEnv final.ctx.store (bytesToAddress [7]) := by
  have runs : ((runSteps toyEnv (new ⟨emptyStore, []⟩ ⟨zeroHash, 0⟩) freshDeploy).map fun s =>
      ((isNewContract toyEnv s (bytesToAddress [7])).1,
        (selfDestruct6780 toyEnv s (bytesToAddress [7])).journal.sortedDirties.erase
          (bytesToAddress [7]))).toOption = some (true, []) := by
    decide +kernel
  obtain ⟨s, ran, shown⟩ := map_ok (toOption_some runs)
  obtain ⟨created, alone⟩ := Prod.mk.inj shown
  have started : begin ⟨emptyStore, []⟩ ⟨zeroHash, 0⟩ none = .ok (new ⟨emptyStore, []⟩ ⟨zeroHash, 0⟩) := rfl
  have uncalled : ∀ p, Step.precompile p ∉ freshDeploy := by simp [freshDeploy, deploySteps]
  have store := runSteps_store started ran uncalled
  have companions : Companions toyEnv (bytesToAddress [7]) (selfDestruct6780 toyEnv s (bytesToAddress [7])) := by
    unfold Companions
    rw [alone]
    intro other member
    cases member
  have exactly := created_removed_iff toyEnv_ready started ran created (toList_ne_singleton _ 1)
    (by rw [store]; exact emptyBank_healthy) companions
  have absent : Removed toyEnv emptyStore (bytesToAddress [7]) := ⟨rfl, fun _ => rfl, emptyBank_getBalance _⟩
  obtain ⟨final, committed, gone⟩ := exactly.1.mpr ((exactly.2 uncalled rfl).mpr ⟨rfl, absent⟩)
  exact ⟨s, final, ran, created, committed, gone⟩

/-- The address has an account and coins but no code before the transaction. The contract
created there is destructed, and the commit fails. -/
theorem destructed_commit_refused :
    ∃ s final text, runSteps toyEnv coinStart (deploySteps holder) = .ok s ∧
      Keeper.getCodeHash toyEnv coinStart.ctx.store holder = toyEnv.emptyCodeHash ∧
      (isNewContract toyEnv s holder).1 = true ∧
      commit toyEnv (selfDestruct6780 toyEnv s holder) = .ok (final, some (.other, text)) := by
  have runs : ((runSteps toyEnv coinStart (deploySteps holder)).bind fun s =>
      (commit toyEnv (selfDestruct6780 toyEnv s holder)).map fun done =>
        ((isNewContract toyEnv s holder).1, done.2.map Prod.fst)).toOption = some (true, some .other) := by
    decide +kernel
  obtain ⟨s, ran, rest⟩ := bind_ok (toOption_some runs)
  obtain ⟨⟨final, err⟩, committed, shown⟩ := map_ok rest
  obtain ⟨created, failed⟩ := Prod.mk.inj shown
  obtain ⟨⟨code, text⟩, rfl, rfl⟩ := Option.map_eq_some_iff.mp failed
  exact ⟨s, final, text, ran, rfl, created, committed⟩

end StateDb

end OgEvm
