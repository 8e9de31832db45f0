import OgEvm.CoinSteps
import OgEvm.KeeperBalances
import OgEvm.NoLostWrite
import OgEvm.StateDbFunds

/- The sends of a native action reach the store twice, directly and through the events the
balance handler replays. The two agree account by account as long as no account is cut
down to another address and none is both bypassed and written. -/
namespace OgEvm.StateDb

open ExceptFacts Layers Totals Precisebank

/-! What the steps add up to, as tables. -/

def moveTable (sender recipient : AccAddress) (amount : ℤ) : Table AccAddress :=
  DFinsupp.single recipient amount + DFinsupp.single sender (-amount)

theorem moveTable_apply (sender recipient : AccAddress) (amount : ℤ) (account : AccAddress) :
    moveTable sender recipient amount account = booked recipient amount account - booked sender amount account := by
  unfold moveTable booked
  rw [DFinsupp.add_apply, DFinsupp.single_eq_pi_single, DFinsupp.single_eq_pi_single, Pi.single_apply,
    Pi.single_apply]
  split <;> split <;> ring

theorem moveTable_total (sender recipient : AccAddress) (amount : ℤ) :
    total (moveTable sender recipient amount) = 0 := by
  rw [moveTable, total_add, total_single, total_single]
  ring

def sendsTable (cfg : Config) (sends : List NativeSend) : Table AccAddress :=
  (sends.map fun send => moveTable send.sender send.recipient (send.value cfg)).sum

theorem sendsTable_apply (cfg : Config) (sends : List NativeSend) (account : AccAddress) :
    sendsTable cfg sends account = sendsNet cfg sends account := by
  induction sends with
  | nil => rfl
  | cons send rest ih =>
    rw [sendsTable, List.map_cons, List.sum_cons, DFinsupp.add_apply, sendsNet_cons, moveTable_apply]
    exact congrArg _ ih

theorem sendsTable_total (cfg : Config) (sends : List NativeSend) : total (sendsTable cfg sends) = 0 := by
  induction sends with
  | nil => rfl
  | cons send rest ih =>
    rw [sendsTable, List.map_cons, List.sum_cons, total_add, moveTable_total, zero_add]
    exact ih

/-- The extended balances of a bank as one table. -/
def extendedTable (cfg : Config) (bank : BankState) : Table AccAddress :=
  cfg.conversionFactor • (bank.balances cfg.denom).erase cfg.reserve + bank.fractionalBalances

theorem extendedTable_apply {cfg : Config} {bank : BankState} (healthy : Healthy cfg bank) (account : AccAddress) :
    extendedTable cfg bank account = Precisebank.getBalance cfg bank account cfg.extendedDenom := by
  unfold extendedTable
  rw [DFinsupp.add_apply, DFinsupp.smul_apply, DFinsupp.erase_apply]
  by_cases reserve : account = cfg.reserve
  · subst reserve
    rw [if_pos rfl, healthy.backed.reserve_fractional, getBalance_reserve]
    simp
  · rw [if_neg reserve, getBalance_extended reserve, smul_eq_mul, mul_comm]

theorem total_extended {cfg : Config} {bank : BankState} (healthy : Healthy cfg bank) {expected : Table AccAddress}
    (same : ∀ account, expected account = Precisebank.getBalance cfg bank account cfg.extendedDenom) :
    total expected = bank.supply cfg.denom * cfg.conversionFactor - bank.remainder := by
  rw [supply_sum healthy.backed healthy.ledger.supply, total_eq_finsum]
  exact finsum_congr same

/-! The invariant of a run. -/

/-- The addresses whose balance the StateDB keeps: a blocked account that sends name is
left to the store. -/
def Watched (env : Env) (native : List AccAddress) (addr : Address) : Prop :=
  env.bank.blockedAddr addr.toList = true → addr.toList ∉ native

/-- Every account is to have its expected balance: a dirty one will be written from what
the StateDB shows, and the others have it in the cache context already. -/
structure Balanced (env : Env) (native : List AccAddress) (expected : Table AccAddress)
    (s : StateDb) : Prop where
  coherent : ∃ marks, Coherent env marks s
  healthy : Healthy env.bank (cacheCopies s).current.bank
  shown : ∀ addr, Watched env native addr →
    shownBalance env s addr = BitVec.ofInt 256 (expected addr.toList)
  synced : ∀ account, (∀ addr ∈ s.journal.dirties, addr.toList ≠ account) →
    Precisebank.getBalance env.bank (cacheCopies s).current.bank account env.bank.extendedDenom =
      expected account
  dirty : ∀ addr ∈ s.journal.dirties, Watched env native addr ∧ addr.toList ≠ env.bank.reserve
  funds : ∀ account, 0 ≤ expected account
  bounded : total expected < 2 ^ 256

section

variable {env : Env} {native : List AccAddress} {expected : Table AccAddress} {s t u : StateDb}

/-- The balance shown for a watched address is the expected one, without overflow. -/
theorem Balanced.shown_toNat (balanced : Balanced env native expected s) {addr : Address}
    (watched : Watched env native addr) : ((shownBalance env s addr).toNat : ℤ) = expected addr.toList := by
  rw [balanced.shown addr watched]
  exact toNat_ofInt_of_lt (balanced.funds _)
    ((apply_le_total expected balanced.funds addr.toList).trans_lt balanced.bounded)

theorem Balanced.addressed (balanced : Balanced env native expected s) : Addressed s := by
  obtain ⟨marks, coherent⟩ := balanced.coherent
  exact coherent.tracked.addressed

/-- A write of the dirty objects leaves every account with its expected balance. -/
theorem Balanced.written (balanced : Balanced env native expected s)
    (evmApart : moduleAddr env.bank evmModule ≠ env.bank.reserve) {j : Journal}
    (objects : u.stateObjects = s.stateObjects) (dirties : j.dirties = s.journal.dirties)
    {ctx after : Context} (bank : ctx.store.bank = (cacheCopies s).current.bank) {keepDirty : Bool}
    (success : commitObjects env keepDirty j.sortedDirties u ctx = .ok (t, after, none)) :
    Healthy env.bank after.bank ∧ ∀ account,
      Precisebank.getBalance env.bank after.bank account env.bank.extendedDenom = expected account := by
  obtain ⟨marks, coherent⟩ := balanced.coherent
  have home : Addressed u := by
    intro addr obj found
    rw [objects] at found
    exact coherent.tracked.addressed addr obj found
  have alive : Alive u := by
    intro addr obj found
    rw [objects] at found
    exact coherent.booked.alive found
  have listed : ∀ addr, addr ∈ j.sortedDirties ↔ addr ∈ s.journal.dirties := by
    intro addr
    rw [mem_sortedDirties, dirties]
  have start : Healthy env.bank ctx.bank := by
    have healthy := balanced.healthy
    rw [← bank] at healthy
    exact healthy.of_events ctx.events
  have before : ∀ account, Precisebank.getBalance env.bank ctx.bank account env.bank.extendedDenom =
      Precisebank.getBalance env.bank (cacheCopies s).current.bank account env.bank.extendedDenom := by
    intro account
    rw [← bank]
    rfl
  obtain ⟨healthy, own, others⟩ := commitObjects_pays (sortedDirties_nodup j) evmApart home alive
    (fun addr member => (balanced.dirty addr ((listed addr).mp member)).2) start success
  refine ⟨healthy, fun account => ?_⟩
  by_cases written : ∃ addr ∈ j.sortedDirties, addr.toList = account
  · obtain ⟨addr, member, rfl⟩ := written
    obtain ⟨obj, found⟩ := commitObjects_present home success member
    rw [own addr member obj found, ← balanced.shown_toNat (balanced.dirty addr ((listed addr).mp member)).1]
    rw [objects] at found
    rw [shown_live found]
  · have outside : ∀ addr ∈ j.sortedDirties, addr.toList ≠ account :=
      fun addr member same => written ⟨addr, member, same⟩
    rw [others account outside, before]
    exact balanced.synced account fun addr dirty => outside addr ((listed addr).mpr dirty)

theorem shownBalance_view (env : Env) (s : StateDb) (addr : Address) : shownBalance env s addr =
      (((view env noSlot s).objects addr).map fun obj => obj.account.balance).getD 0 := by
  rw [shownBalance, view_objects, Option.map_map]
  rfl

theorem Balanced.enter (balanced : Balanced env native expected s)
    (evmApart : moduleAddr env.bank evmModule ≠ env.bank.reserve) (success : enterPrecompile env s = .ok (u, none)) :
    shownBalance env u = shownBalance env s ∧ u.journal.dirties = s.journal.dirties ∧
      Addressed u ∧ Healthy env.bank (cacheContext u).bank ∧ ∀ account,
        Precisebank.getBalance env.bank (cacheContext u).bank account env.bank.extendedDenom = expected account := by
  obtain ⟨marks, coherent⟩ := balanced.coherent
  have sound := coherent.tracked.sound
  have entered := enterPrecompile_entered sound (calm_noSlot env s) success
  have shown : shownBalance env u = shownBalance env s := by
    funext addr
    rw [shownBalance_view, shownBalance_view, ← entered.view]
  refine ⟨shown, ?_⟩
  obtain ⟨cache, v, ctx, held, committed, rfl⟩ := enterPrecompile_flushed success
  cases held
  have home : Addressed (journalCall s) := sound.addressed
  have cached := commitObjects_cached home (calm_noSlot env (journalCall s)) committed
  have journal : v.journal = (journalCall s).journal := by rw [cached.rest]
  have objects : (journalCall s).stateObjects = s.stateObjects := rfl
  have dirties : (journalCall s).journal.dirties = s.journal.dirties := rfl
  obtain ⟨healthy, balances⟩ := balanced.written evmApart objects dirties (by rfl) committed
  refine ⟨?_, cached.addressed home, healthy, balances⟩
  change v.journal.dirties = _
  rw [journal]
  rfl

/-! One step. -/

theorem Coherent.plainOp {marks : ℤ → View} (coherent : Coherent env marks s) {op : Op}
    (plain : op.Plain) (onward : ∀ revid, op ≠ .revertToSnapshot revid)
    (success : op.run env s = .ok t) : ∃ later, Coherent env later t := by
  have plainStep : (Step.op op).Plain := plain
  refine coherent.step plainStep success ?_
  intro revid same
  exact absurd (Step.op.inj same) (onward revid)

theorem transfer_ok {sender recipient : Address} {amount : BitVec 256}
    (success : transfer env s sender recipient amount = (t, none)) :
    amount.toNat ≤ (getBalance env s sender).1.toNat ∧
      t = addBalance env (subBalance env (getBalance env s sender).2 sender amount) recipient amount := by
  unfold transfer at success
  rcases read : getBalance env s sender with ⟨balance, v⟩
  simp only [read] at success ⊢
  split at success
  · cases (Prod.mk.inj success).2
  · rename_i enough
    exact ⟨by omega, (Prod.mk.inj success).1.symm⟩

theorem ofInt_booked (addr read : Address) (amount : ℤ) :
    BitVec.ofInt 256 (booked addr.toList amount read.toList) = credit addr (BitVec.ofInt 256 amount) read := by
  unfold booked credit
  by_cases here : read = addr
  · subst here
    rw [if_pos rfl, if_pos rfl]
  · rw [if_neg fun same => here (Vector.toList_inj.mp same), if_neg here]
    rfl

theorem credit_neg (addr : Address) (amount : BitVec 256) (read : Address) :
    credit addr (-amount) read = -credit addr amount read := by
  unfold credit
  split
  · rfl
  · exact neg_zero.symm

/-- Moving an amount the sender is expected to have overdraws nobody. -/
theorem moveTable_covered {sender recipient : AccAddress} {amount : ℤ} (nonneg : 0 ≤ amount)
    (funds : ∀ account, 0 ≤ expected account) (enough : amount ≤ expected sender)
    (account : AccAddress) : 0 ≤ (expected + moveTable sender recipient amount) account := by
  rw [DFinsupp.add_apply, moveTable_apply]
  have held := funds account
  unfold booked
  by_cases isSender : account = sender
  · subst isSender
    rw [if_pos rfl]
    split <;> omega
  · rw [if_neg isSender]
    split <;> omega

theorem Balanced.transfer (balanced : Balanced env native expected s) {sender recipient : Address}
    {amount : BitVec 256} (senderFine : sender.toList ≠ env.bank.reserve ∧ Watched env native sender)
    (recipientFine : recipient.toList ≠ env.bank.reserve ∧ Watched env native recipient)
    (success : StateDb.transfer env s sender recipient amount = (t, none)) :
    Balanced env native (expected + moveTable sender.toList recipient.toList amount.toNat) t := by
  obtain ⟨enough, rfl⟩ := transfer_ok success
  obtain ⟨marks, coherent⟩ := balanced.coherent
  have home := balanced.addressed
  obtain ⟨reads, loading⟩ := getBalance_credited env s sender (fun _ => False)
  have readHome := loading.addressed home
  have debited := @subBalance_credited env _ readHome sender amount
  have debitHome := debited.1.addressed readHome
  have deposited := @addBalance_credited env _ debitHome recipient amount
  have credited := (loading.trans debited.1).trans deposited.1
  have quiet : Quiet env s (addBalance env
      (subBalance env (getBalance env s sender).2 sender amount) recipient amount) :=
    Edits.quiet (((ask_loads env s (.getBalance sender)).edits.trans (subBalance_edits env _ sender amount rfl)).trans
      (addBalance_edits env _ recipient amount rfl)) home
  have still : ∃ later, Coherent env later (addBalance env
      (subBalance env (getBalance env s sender).2 sender amount) recipient amount) := by
    have reading : (Op.ask (.getBalance sender)).run env s = .ok (getBalance env s sender).2 := rfl
    obtain ⟨early, afterRead⟩ := coherent.plainOp (by trivial) (by simp) reading
    have spending : (Op.subBalance sender amount).run env (getBalance env s sender).2 =
      .ok (subBalance env (getBalance env s sender).2 sender amount) := rfl
    obtain ⟨middle, afterDebit⟩ := afterRead.plainOp (by trivial) (by simp) spending
    have receiving : (Op.addBalance recipient amount).run env
        (subBalance env (getBalance env s sender).2 sender amount) =
      .ok (addBalance env (subBalance env (getBalance env s sender).2 sender amount) recipient amount) := rfl
    exact afterDebit.plainOp (by trivial) (by simp) receiving
  have copies := quiet.cacheCopies
  refine ⟨still, ?_, ?_, ?_, ?_, ?_, ?_⟩
  · rw [show cacheCopies _ = cacheCopies s from copies]
    exact balanced.healthy
  · intro addr watched
    rw [credited.shown, balanced.shown addr watched, DFinsupp.add_apply, moveTable_apply,
      BitVec.ofInt_add, sub_eq_add_neg, BitVec.ofInt_add, BitVec.ofInt_neg, ofInt_booked, ofInt_booked,
      BitVec.ofInt_natCast, BitVec.ofNat_toNat, BitVec.setWidth_eq, credit_neg]
    ring
  · intro account outside
    rw [show cacheCopies _ = cacheCopies s from copies, DFinsupp.add_apply, moveTable_apply,
      balanced.synced account fun addr dirty => outside addr (credited.kept addr dirty)]
    by_cases zero : amount = 0
    · simp [zero, booked]
    · have notSender : account ≠ sender.toList :=
        (outside sender (deposited.1.kept sender (debited.2 zero))).symm
      have notRecipient : account ≠ recipient.toList := (outside recipient (deposited.2 zero)).symm
      rw [booked_ne _ notSender, booked_ne _ notRecipient]
      ring
  · intro addr dirty
    rcases credited.dirtied addr dirty with before | (never | rfl) | rfl
    · exact balanced.dirty addr before
    · exact never.elim
    · exact senderFine.symm
    · exact recipientFine.symm
  · refine moveTable_covered (by omega) balanced.funds ?_
    rw [← balanced.shown_toNat senderFine.2, ← reads]
    exact_mod_cast enough
  · rw [total_add, moveTable_total, add_zero]
    exact balanced.bounded

theorem sendsAction_ok {sends : List NativeSend} {ctx after : Context}
    (success : sendsAction env sends ctx = .ok (after, none)) :
    ∃ bank, runSends env.bank ctx.bank sends = .ok bank ∧ after = ctx.withBank bank := by
  unfold sendsAction at success
  split at success
  · rename_i bank ran
    exact ⟨bank, ran, (Prod.mk.inj (Except.ok.inj success)).1.symm⟩
  · cases success
  · cases (Prod.mk.inj (Except.ok.inj success)).2

theorem sendsAction_keepsStorage (env : Env) (sends : List NativeSend) : KeepsStorage (sendsAction env sends) := by
  intro ctx after err success addr key
  unfold sendsAction at success
  split at success
  · cases success
    rfl
  · cases success
  · cases success
    rfl

/-- A call with a balance handler that goes through. -/
theorem runNativeAction_handled {action : NativeAction}
    (success : runNativeAction env ⟨action, true⟩ s = .ok (t, none)) :
    ∃ u ctx, enterPrecompile env s = .ok (u, none) ∧ action (cacheContext u) = .ok (ctx, none) ∧
      BalanceHandler.afterEvents env (ctx.events.drop (cacheContext u).events.length)
        (withCacheContext u ctx) = (t, none) := by
  unfold runNativeAction at success
  obtain ⟨⟨u, stopped⟩, began, success⟩ := bind_ok success
  cases stopped with
  | some fault => cases success
  | none =>
    obtain ⟨⟨ctx, failed⟩, acted, final⟩ := bind_ok success
    cases failed with
    | some fault => cases final
    | none => exact ⟨u, ctx, began, acted, Except.ok.inj final⟩

/-- The replay of events leaves the bank of the cache context as the native action left it. -/
theorem handled_bank (sound : Sound s) (began : enterPrecompile env s = .ok (u, none)) {bank : BankState}
    {events : List Event} (handled : BalanceHandler.afterEvents env events
      (withCacheContext u ((cacheContext u).withBank bank)) = (t, none)) :
    Addressed (withCacheContext u ((cacheContext u).withBank bank)) ∧
      (cacheCopies t).current.bank = { bank with events := [] } := by
  have entered := enterPrecompile_entered sound (calm_noSlot env s) began
  obtain ⟨cache, held, -⟩ := entered.saved
  have inner := ((entered.withCacheContext ((cacheContext u).withBank bank)).journaled sound).sound
  have quiet := @afterEvents_quiet env _ inner events
  rw [handled] at quiet
  refine ⟨inner.addressed, ?_⟩
  rw [quiet.cacheCopies, cacheCopies_withCacheContext held]
  rfl

/-- The handler gives every watched address what the sends name it for. -/
theorem sends_credit {sends : List NativeSend} {bank after : BankState} {added : List Event}
    (reserveBlocked : env.bank.blockedAddr env.bank.reserve = true)
    (inside : ∀ account ∈ sendsParties sends, account ∈ native)
    (pays : Pays env.bank bank after (sendsNet env.bank sends))
    (explained : Explained env.bank (env.bank.reserve :: native) bank after added)
    (sized : ∀ account ∈ native, env.bank.blockedAddr account = false → account.length = 20)
    {addr : Address} (watched : Watched env native addr) : (added.map fun event => eventCredit env event addr).sum =
      BitVec.ofInt 256 (sendsNet env.bank sends addr.toList) := by
  have fits : ∀ event ∈ added, ∀ account ∈ eventAccount event,
      env.bank.blockedAddr account = false → account.length = 20 := by
    intro event member account named free
    rcases List.mem_cons.mp (explained.named event member account named) with rfl | party
    · rw [reserveBlocked] at free
      cases free
    · exact sized account party free
  rw [eventCredits_sized fits]
  by_cases blocked : env.bank.blockedAddr addr.toList = true
  · have quiet : addr.toList ∉ sendsParties sends := fun named => watched blocked (inside _ named)
    rw [if_pos blocked, sendsNet_outside quiet]
    rfl
  · rw [if_neg blocked]
    have ordinary : addr.toList ≠ env.bank.reserve := by
      intro same
      rw [same, reserveBlocked] at blocked
      exact blocked rfl
    congr 1
    have moved := explained.worth addr.toList
    have paid := pays.balance addr.toList
    rw [getBalance_extended ordinary, getBalance_extended ordinary] at paid
    unfold worth at moved
    omega

theorem Balanced.call (balanced : Balanced env native expected s) {sends : List NativeSend}
    (evmApart : moduleAddr env.bank evmModule ≠ env.bank.reserve)
    (reserveBlocked : env.bank.blockedAddr env.bank.reserve = true) (apart : env.bank.reserve ∉ native)
    (sized : ∀ account ∈ native, env.bank.blockedAddr account = false → account.length = 20)
    (inside : ∀ account ∈ sendsParties sends, account ∈ native)
    (success : runNativeAction env ⟨sendsAction env sends, true⟩ s = .ok (t, none)) :
    Balanced env native (expected + sendsTable env.bank sends) t := by
  obtain ⟨marks, coherent⟩ := balanced.coherent
  have sound := coherent.tracked.sound
  have still : ∃ later, Coherent env later t := by
    have plain : (Step.precompile ⟨sendsAction env sends, true⟩).Plain :=
      sendsAction_keepsStorage env sends
    refine coherent.step plain ?_ (by simp)
    rw [Step.run, success]
    rfl
  obtain ⟨u, ctx, began, acted, handled⟩ := runNativeAction_handled success
  obtain ⟨bank, ran, rfl⟩ := sendsAction_ok acted
  obtain ⟨same, dirties, home, healthy, balances⟩ := balanced.enter evmApart began
  have pays := runSends_pays healthy (fun named => apart (inside _ named)) ran
  obtain ⟨added, writes⟩ := runSends_writes (fun named => apart (inside _ named))
    List.mem_cons_self (fun account named => List.mem_cons_of_mem env.bank.reserve (inside account named)) ran
  have explained := writes.explained
  have events : ((cacheContext u).withBank bank).events.drop (cacheContext u).events.length = added := by
    change bank.events.drop _ = added
    rw [explained.events]
    exact List.drop_left
  rw [events] at handled
  have credited := afterEvents_credited (show Addressed (withCacheContext u _) from home) handled
  have current := (handled_bank sound began handled).2
  have reached : ∀ account, Precisebank.getBalance env.bank bank account env.bank.extendedDenom =
      (expected + sendsTable env.bank sends) account := by
    intro account
    rw [pays.balance, balances, DFinsupp.add_apply, sendsTable_apply]
  refine ⟨still, ?_, ?_, ?_, ?_, ?_, ?_⟩
  · rw [current]
    exact pays.healthy.of_events []
  · intro addr watched
    rw [credited.shown, sends_credit reserveBlocked inside pays explained sized watched,
      DFinsupp.add_apply, sendsTable_apply, BitVec.ofInt_add, ← balanced.shown addr watched, ← same]
    rfl
  · intro account _
    rw [current, ← reached]
    rfl
  · intro addr dirty
    rcases credited.dirtied addr dirty with before | ⟨event, member, account, named, free, rfl⟩
    · change addr ∈ u.journal.dirties at before
      rw [dirties] at before
      exact balanced.dirty addr before
    · rcases List.mem_cons.mp (explained.named event member account named) with rfl | party
      · rw [reserveBlocked] at free
        cases free
      · unfold Watched
        rw [toList_bytesToAddress (sized account party free)]
        refine ⟨fun blocked => ?_, fun reserve => ?_⟩
        · rw [free] at blocked
          cases blocked
        · rw [reserve] at party
          exact apart party
  · intro account
    rw [← reached]
    exact pays.healthy.funds account
  · rw [total_add, sendsTable_total, add_zero]
    exact balanced.bounded

/-! Whole transactions. -/

theorem begin_balanced {ctx : Context} {txConfig : TxConfig} {preparation : Option Preparation}
    (healthy : Healthy env.bank ctx.store.bank) (funded : ∀ addr, Keeper.getAccount env ctx.store addr = none →
      Precisebank.getBalance env.bank ctx.store.bank addr.toList env.bank.extendedDenom = 0)
    (bounded : ctx.store.bank.supply env.bank.denom * env.bank.conversionFactor -
      ctx.store.bank.remainder < 2 ^ 256) (started : begin ctx txConfig preparation = .ok s) :
    Balanced env native (extendedTable env.bank ctx.store.bank) s := by
  obtain ⟨same, cacheCtx, objects, journal⟩ := begin_empty started
  have table := extendedTable_apply healthy
  have funds : ∀ account, 0 ≤ extendedTable env.bank ctx.store.bank account := by
    intro account
    rw [table]
    exact healthy.funds account
  have limit : total (extendedTable env.bank ctx.store.bank) < 2 ^ 256 := by
    rw [total_extended healthy table]
    exact bounded
  have current : (cacheCopies s).current = ctx.store := by
    simp [cacheCopies, cacheCtx, same]
  have clean : ∀ addr, addr ∉ s.journal.dirties := by
    intro addr
    rw [journal]
    exact AList.notMem_empty addr
  refine ⟨⟨fun _ => view env noSlot s, begin_coherent started⟩, ?_, ?_, ?_, ?_, funds, limit⟩
  · rw [current]
    exact healthy
  · intro addr _
    rw [shownBalance, objects, same, Option.none_or, loaded, Option.map_map, table]
    cases account : Keeper.getAccount env ctx.store addr with
    | none =>
      rw [funded addr account]
      rfl
    | some held =>
      obtain ⟨auth, -, rfl⟩ := Option.map_eq_some_iff.mp account
      have small := (apply_le_total _ funds addr.toList).trans_lt limit
      rw [table] at small
      have spendable : BankWrapper.spendableCoin env ctx.store.bank addr.toList =
        Precisebank.getBalance env.bank ctx.store.bank addr.toList env.bank.extendedDenom :=
          healthy.spendable addr.toList
      change Keeper.spendableCoin env ctx.store addr = _
      simp only [Keeper.spendableCoin]
      rw [spendable, if_pos small]
  · intro account _
    rw [current, table]
  · intro addr dirty
    exact absurd dirty (clean addr)

theorem stepsNet_cons (cfg : Config) (step : CoinStep) (rest : List CoinStep) (account : AccAddress) :
    stepsNet cfg (step :: rest) account = step.net cfg account + stepsNet cfg rest account := by
  simp [stepsNet]

section

variable (balanced : Balanced env native expected s)
  (evmApart : moduleAddr env.bank evmModule ≠ env.bank.reserve)
  (reserveBlocked : env.bank.blockedAddr env.bank.reserve = true) (apart : env.bank.reserve ∉ native)
  (sized : ∀ account ∈ native, env.bank.blockedAddr account = false → account.length = 20)

include balanced evmApart reserveBlocked apart sized

/-- One step of a transaction keeps the accounts at their expected balances. -/
theorem Balanced.step {step : CoinStep}
    (transfers : ∀ addr ∈ step.evmParties, addr.toList ≠ env.bank.reserve ∧ Watched env native addr)
    (sends : ∀ account ∈ step.nativeParties, account ∈ native) (success : step.run env s = .ok (t, none)) :
    ∃ later, Balanced env native later t ∧ total later = total expected ∧
      ∀ account, later account = expected account + step.net env.bank account := by
  cases step with
  | transfer sender recipient amount =>
    refine ⟨_, balanced.transfer (transfers sender List.mem_cons_self)
      (transfers recipient (List.mem_cons_of_mem _ List.mem_cons_self)) (Except.ok.inj success), ?_, ?_⟩
    · rw [total_add, moveTable_total, add_zero]
    · intro account
      rw [DFinsupp.add_apply, moveTable_apply]
      rfl
  | call sent =>
    refine ⟨_, balanced.call evmApart reserveBlocked apart sized sends success, ?_, ?_⟩
    · rw [total_add, sendsTable_total, add_zero]
    · intro account
      rw [DFinsupp.add_apply, sendsTable_apply]
      rfl

theorem Balanced.run {steps : List CoinStep}
    (transfers : ∀ addr ∈ evmParties steps, addr.toList ≠ env.bank.reserve ∧ Watched env native addr)
    (sends : ∀ account ∈ nativeParties steps, account ∈ native) (success : runCoinSteps env steps s = .ok (t, none)) :
    ∃ later, Balanced env native later t ∧ total later = total expected ∧
      ∀ account, later account = expected account + stepsNet env.bank steps account := by
  induction steps generalizing s expected with
  | nil =>
    cases success
    exact ⟨expected, balanced, rfl, fun account => (add_zero _).symm⟩
  | cons step rest ih =>
    rw [runCoinSteps] at success
    obtain ⟨⟨middle, err⟩, ran, success⟩ := bind_ok success
    cases err with
    | some err => cases success
    | none =>
      simp only [evmParties, nativeParties, List.flatMap_cons, List.mem_append] at transfers sends
      obtain ⟨next, kept, sum, moved⟩ := balanced.step evmApart reserveBlocked apart sized
        (fun addr member => transfers addr (Or.inl member))
        (fun account member => sends account (Or.inl member)) ran
      obtain ⟨later, final, total, rest⟩ := ih kept (fun addr member => transfers addr (Or.inr member))
        (fun account member => sends account (Or.inr member)) success
      refine ⟨later, final, total.trans sum, ?_⟩
      intro account
      rw [rest, moved, stepsNet_cons]
      ring

end

/-- Supply and remainder follow from what all accounts hold together. -/
theorem supply_unique {cfg : Config} {first second : BankState} (before : Backed cfg first)
    (after : Backed cfg second) (same : second.supply cfg.denom * cfg.conversionFactor - second.remainder =
      first.supply cfg.denom * cfg.conversionFactor - first.remainder) :
    second.supply cfg.denom = first.supply cfg.denom ∧ second.remainder = first.remainder := by
  have factor := cfg.conversionFactor_pos
  have low := before.remainder_nonneg
  have high := before.remainder_lt
  have low' := after.remainder_nonneg
  have high' := after.remainder_lt
  have supply : second.supply cfg.denom = first.supply cfg.denom := by
    by_contra apart
    rcases lt_or_gt_of_ne apart with less | more
    · have bound : second.supply cfg.denom * cfg.conversionFactor ≤
          (first.supply cfg.denom - 1) * cfg.conversionFactor :=
        mul_le_mul_of_nonneg_right (by omega) factor.le
      rw [sub_mul, one_mul] at bound
      omega
    · have bound : first.supply cfg.denom * cfg.conversionFactor ≤
          (second.supply cfg.denom - 1) * cfg.conversionFactor :=
        mul_le_mul_of_nonneg_right (by omega) factor.le
      rw [sub_mul, one_mul] at bound
      omega
  rw [supply] at same
  exact ⟨supply, by omega⟩

/-- In a transaction whose steps keep the accounts apart, the supply stays and every
account ends with what the transfers and sends that name it leave it. -/
theorem coinSteps_conserve {ctx : Context} {txConfig : TxConfig} {preparation : Option Preparation}
    {steps : List CoinStep} {start final : StateDb}
    (evmApart : moduleAddr env.bank evmModule ≠ env.bank.reserve)
    (reserveBlocked : env.bank.blockedAddr env.bank.reserve = true)
    (healthy : Healthy env.bank ctx.store.bank)
    (funded : ∀ addr, Keeper.getAccount env ctx.store addr = none →
      Precisebank.getBalance env.bank ctx.store.bank addr.toList env.bank.extendedDenom = 0)
    (bounded : ctx.store.bank.supply env.bank.denom * env.bank.conversionFactor -
      ctx.store.bank.remainder < 2 ^ 256)
    (started : begin ctx txConfig preparation = .ok start) (separate : Separate env steps)
    (ran : runCoinSteps env steps start = .ok (s, none))
    (committed : commit env s = .ok (final, none)) :
    final.ctx.store.bank.supply env.bank.denom = ctx.store.bank.supply env.bank.denom ∧
      final.ctx.store.bank.remainder = ctx.store.bank.remainder ∧
      ∀ account, Precisebank.getBalance env.bank final.ctx.store.bank account env.bank.extendedDenom =
        Precisebank.getBalance env.bank ctx.store.bank account env.bank.extendedDenom +
          stepsNet env.bank steps account := by
  have begun : Balanced env (nativeParties steps) (extendedTable env.bank ctx.store.bank) start :=
    begin_balanced healthy funded bounded started
  obtain ⟨expected, balanced, same, moved⟩ := begun.run evmApart reserveBlocked
    separate.reserve_sends separate.sized
    (fun addr member => ⟨separate.reserve_transfers addr member, separate.blocked addr member⟩)
    (fun _ member => member) ran
  obtain ⟨store, objects, -⟩ := written_eq s
  obtain ⟨u, last, done, rfl⟩ := commit_ok committed
  obtain ⟨well, balances⟩ := balanced.written evmApart objects rfl (by rw [store]) done
  have table := extendedTable_apply healthy
  have total : last.bank.supply env.bank.denom * env.bank.conversionFactor - last.bank.remainder =
      ctx.store.bank.supply env.bank.denom * env.bank.conversionFactor - ctx.store.bank.remainder := by
    rw [← total_extended well fun account => (balances account).symm, same, total_extended healthy table]
  obtain ⟨supply, remainder⟩ := supply_unique healthy.backed well.backed total
  refine ⟨supply, remainder, ?_⟩
  intro account
  rw [← table, ← moved]
  exact balances account

end

/-- Five integer coins on one account. -/
def coinBank (holder : AccAddress) : BankState where
  balances denom := if denom = "utest" then DFinsupp.single holder 5 else 0
  supply denom := if denom = "utest" then 5 else 0
  locked _ _ := 0
  fractionalBalances := 0
  remainder := 0
  events := []

theorem coinBank_balance (holder account : AccAddress) :
    (coinBank holder).balances "utest" account = if account = holder then 5 else 0 := by
  simp only [coinBank, if_true]
  rw [DFinsupp.single_eq_pi_single, Pi.single_apply]

theorem coinBank_getBalance {holder account : AccAddress} (apart : account ≠ [1]) :
    Precisebank.getBalance sixDecimals (coinBank holder) account "atest" =
      if account = holder then 5000000000000 else 0 := by
  have extended := @getBalance_extended sixDecimals (coinBank holder) account apart
  change _ = (coinBank holder).balances "utest" account * 10 ^ 12 + 0 at extended
  rw [coinBank_balance] at extended
  refine extended.trans ?_
  split <;> norm_num

theorem coinBank_healthy {holder : AccAddress} (ordinary : holder ≠ [1]) : Healthy sixDecimals (coinBank holder) where
  backed :=
    { reserve := by
        change (coinBank holder).balances "utest" [1] * _ = 0
        rw [coinBank_balance, if_neg ordinary.symm, zero_mul]
      fractional_nonneg := fun _ => le_refl 0
      fractional_lt := fun _ => sixDecimals.conversionFactor_pos
      reserve_fractional := rfl
      remainder_nonneg := le_refl 0
      remainder_lt := sixDecimals.conversionFactor_pos }
  ledger :=
    { supply := (total_single holder 5).symm
      reserve_unlocked := rfl }
  unlocked := fun _ => rfl
  funds := by
    intro account
    by_cases reserve : account = [1]
    · subst reserve
      exact le_of_eq getBalance_reserve.symm
    · change 0 ≤ Precisebank.getBalance sixDecimals (coinBank holder) account "atest"
      rw [coinBank_getBalance reserve]
      split <;> norm_num

/-- The holder exists and has all the coins. -/
def holder : Address := bytesToAddress [3]

def coinStore : VmStore :=
  { oneAccountStore holder with bank := coinBank holder.toList }

def coinStart : StateDb := new ⟨coinStore, []⟩ ⟨zeroHash, 0⟩

theorem toList_ne_singleton (addr : Address) (byte : UInt8) : addr.toList ≠ [byte] := by
  intro same
  have size := congrArg List.length same
  rw [Vector.length_toList] at size
  cases size

theorem coinStore_funded : ∀ addr, Keeper.getAccount toyEnv coinStore addr = none →
    Precisebank.getBalance toyEnv.bank coinStore.bank addr.toList toyEnv.bank.extendedDenom = 0 := by
  intro addr missing
  have absent := Option.map_eq_none_iff.mp missing
  have other : addr.toList ≠ holder.toList := by
    intro same
    change (if addr.toList = holder.toList then _ else none) = none at absent
    rw [if_pos same] at absent
    cases absent
  exact (coinBank_getBalance (toList_ne_singleton addr 1)).trans (if_neg other)

/-- A transfer between two sends with fractional amounts. -/
def separateSteps : List CoinStep :=
  [.call [.precisebank holder.toList (bytesToAddress [4]).toList [⟨"atest", 1700000000000⟩]],
    .transfer holder (bytesToAddress [5]) 900000000000#256,
    .call [.bank holder.toList [2] [⟨"utest", 1⟩]]]

theorem separateSteps_separate : Separate toyEnv separateSteps where
  reserve_sends := by decide +kernel
  reserve_transfers := fun addr _ => toList_ne_singleton addr 1
  sized := by decide +kernel
  blocked := by
    intro addr _ blocked
    simp only [toyEnv, sixDecimals, Bool.or_eq_true, decide_eq_true_eq] at blocked
    exact absurd blocked (not_or.mpr ⟨toList_ne_singleton addr 1, toList_ne_singleton addr 2⟩)

theorem coinSteps_conserve_separateSteps :
    ∃ s final, runCoinSteps toyEnv separateSteps coinStart = .ok (s, none) ∧
      commit toyEnv s = .ok (final, none) ∧ final.ctx.store.bank.supply "utest" = 5 ∧
      Precisebank.getBalance sixDecimals final.ctx.store.bank (bytesToAddress [4]).toList "atest" =
        1700000000000 := by
  obtain ⟨s, final, ran, committed, -⟩ := committed_run toyEnv
    (runCoinSteps toyEnv separateSteps coinStart) (fun _ _ => ()) () (by decide +kernel)
  have healthy : Healthy toyEnv.bank (Context.mk coinStore []).store.bank :=
    coinBank_healthy (by decide)
  have started : begin ⟨coinStore, []⟩ ⟨zeroHash, 0⟩ none = .ok coinStart := rfl
  obtain ⟨supply, -, balance⟩ := coinSteps_conserve (by decide) rfl healthy coinStore_funded
    (by decide +kernel) started separateSteps_separate ran committed
  refine ⟨s, final, ran, committed, supply, ?_⟩
  exact (balance (bytesToAddress [4]).toList).trans (by decide +kernel)

/-- A send to a 32-byte account. -/
def longAccount : AccAddress := List.replicate 12 9 ++ (bytesToAddress [4]).toList

def cutSteps : List CoinStep := [.call [.bank holder.toList longAccount [⟨"utest", 2⟩]]]

theorem coinSteps_mint_to_cut_address :
    ∃ s final, runCoinSteps toyEnv cutSteps coinStart = .ok (s, none) ∧
      commit toyEnv s = .ok (final, none) ∧
      coinStart.ctx.store.bank.supply "utest" = 5 ∧ final.ctx.store.bank.supply "utest" = 7 ∧
      stepsNet sixDecimals cutSteps (bytesToAddress [4]).toList = 0 ∧
      Precisebank.getBalance sixDecimals coinStore.bank (bytesToAddress [4]).toList "atest" = 0 ∧
      Precisebank.getBalance sixDecimals final.ctx.store.bank (bytesToAddress [4]).toList "atest" =
        2000000000000 := by
  obtain ⟨s, final, ran, committed, shown⟩ := committed_run toyEnv
    (runCoinSteps toyEnv cutSteps coinStart) (fun _ final => (final.ctx.store.bank.supply "utest",
      Precisebank.getBalance sixDecimals final.ctx.store.bank (bytesToAddress [4]).toList "atest"))
    (7, 2000000000000) (by decide +kernel)
  obtain ⟨supply, balance⟩ := Prod.mk.inj shown
  exact ⟨s, final, ran, committed, rfl, supply, by decide +kernel, by decide +kernel, balance⟩

end OgEvm.StateDb
