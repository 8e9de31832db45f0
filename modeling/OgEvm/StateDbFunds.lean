import OgEvm.PrecisebankEvents
import OgEvm.StateDbPersist
import Mathlib.Data.BitVec

/- The balances the StateDB shows, and how the balance handler moves them: each event
credits the 20-byte address its account is cut down to. -/
namespace OgEvm.StateDb

open ExceptFacts Precisebank

/-- The balance `GetBalance` shows. -/
def shownBalance (env : Env) (s : StateDb) (addr : Address) : BitVec 256 :=
  (((s.stateObjects addr).or (loaded env s.ctx.store addr)).map fun obj => obj.account.balance).getD 0

/-- An amount on one address. -/
def credit (addr : Address) (amount : BitVec 256) (read : Address) : BitVec 256 :=
  if read = addr then amount else 0

/-- A change of balances only: every account gets its amount, and only the named ones
may become dirty. -/
structure Credited (env : Env) (s t : StateDb) (amounts : Address → BitVec 256)
    (named : Address → Prop) : Prop where
  shown : ∀ addr, shownBalance env t addr = shownBalance env s addr + amounts addr
  dirtied : ∀ addr ∈ t.journal.dirties, addr ∈ s.journal.dirties ∨ named addr
  kept : ∀ addr ∈ s.journal.dirties, addr ∈ t.journal.dirties
  addressed : Addressed s → Addressed t

variable {env : Env} {s t u : StateDb}

theorem Credited.refl (env : Env) (s : StateDb) (named : Address → Prop) : Credited env s s (fun _ => 0) named :=
  ⟨fun _ => (add_zero _).symm, fun _ dirty => Or.inl dirty, fun _ dirty => dirty, id⟩

theorem Credited.trans {first second : Address → BitVec 256} {early late : Address → Prop}
    (left : Credited env s t first early) (right : Credited env t u second late) :
    Credited env s u (fun addr => first addr + second addr) fun addr => early addr ∨ late addr := by
  refine ⟨?_, ?_, fun addr dirty => right.kept addr (left.kept addr dirty),
    fun home => right.addressed (left.addressed home)⟩
  · intro addr
    rw [right.shown, left.shown, add_assoc]
  · intro addr dirty
    rcases right.dirtied addr dirty with before | named
    · exact (left.dirtied addr before).imp_right Or.inl
    · exact Or.inr (Or.inr named)

theorem mem_append_dirties (j : Journal) (entry : JournalEntry) (addr : Address) :
    addr ∈ (j.append entry).dirties ↔ addr ∈ j.dirties ∨ entry.dirtied = some addr := by
  unfold Journal.append
  cases dirtied : entry.dirtied with
  | none => simp
  | some target =>
    simp only [Journal.countUp, AList.mem_insert, Option.some.injEq]
    rw [or_comm, eq_comm]

theorem shown_live {addr : Address} {obj : StateObject} (found : s.stateObjects addr = some obj) :
    shownBalance env s addr = obj.account.balance := by
  simp [shownBalance, found]

theorem shown_setStateObject (env : Env) (s : StateDb) (obj : StateObject) : shownBalance env (setStateObject s obj) =
      Function.update (shownBalance env s) obj.address obj.account.balance := by
  funext addr
  by_cases here : addr = obj.address
  · subst here
    simp [shownBalance, setStateObject]
  · simp [shownBalance, setStateObject, here]

theorem getStateObject_shown {addr : Address} {found : Option StateObject}
    (loading : getStateObject env s addr = (found, t)) : shownBalance env t = shownBalance env s ∧
      shownBalance env s addr = (found.map fun obj => obj.account.balance).getD 0 := by
  have first := getStateObject_fst env s addr
  rw [loading] at first
  have value : shownBalance env s addr = (found.map fun obj => obj.account.balance).getD 0 := by
    rw [shownBalance, ← first]
  refine ⟨?_, value⟩
  unfold getStateObject at loading
  split at loading
  · cases loading
    rfl
  · split at loading
    · cases loading
      rfl
    · obtain ⟨rfl, rfl⟩ := Prod.mk.inj loading
      rw [shown_setStateObject]
      change Function.update _ addr _ = _
      rw [Option.map_some, Option.getD_some] at value
      rw [← value, Function.update_eq_self]

theorem getBalance_credited (env : Env) (s : StateDb) (addr : Address) (named : Address → Prop) :
    (getBalance env s addr).1 = shownBalance env s addr ∧
      Credited env s (getBalance env s addr).2 (fun _ => 0) named := by
  rcases loading : getStateObject env s addr with ⟨found, v⟩
  obtain ⟨same, value⟩ := getStateObject_shown loading
  have cached := loading_cached noSlot loading
  have journal : v.journal = s.journal := by rw [cached.rest]
  simp only [getBalance, loading]
  refine ⟨value.symm, ?_, ?_, ?_, cached.addressed⟩
  · intro other
    rw [same, add_zero]
  · intro other dirty
    rw [journal] at dirty
    exact Or.inl dirty
  · intro other dirty
    rw [journal]
    exact dirty

/-- A created account shows nothing, as it did before. -/
theorem getOrNewStateObject_credited (addressed : Addressed s) {addr : Address} {obj : StateObject}
    (found : getOrNewStateObject env s addr = (obj, t)) :
    Credited env s t (fun _ => 0) (· = addr) ∧ obj.address = addr ∧
      shownBalance env t addr = obj.account.balance := by
  unfold getOrNewStateObject at found
  rcases loading : getStateObject env s addr with ⟨_ | held, v⟩
  · obtain ⟨rfl, -, -⟩ := getStateObject_none loading
    obtain ⟨-, nothing⟩ := getStateObject_shown loading
    simp only [loading, createObject] at found
    obtain ⟨rfl, rfl⟩ := Prod.mk.inj found
    refine ⟨⟨?_, ?_, ?_, fun home => addressed_setStateObject home _⟩, rfl,
      shown_live (by simp [setStateObject, newObject])⟩
    · intro other
      rw [shown_setStateObject, add_zero]
      change Function.update (shownBalance env v) addr 0 other = _
      rw [show (0 : BitVec 256) = shownBalance env v addr from nothing.symm, Function.update_eq_self]
    · intro other dirty
      have either := (mem_append_dirties v.journal (.createObjectChange addr) other).mp dirty
      exact either.imp_right fun same => (Option.some.inj same).symm
    · intro other dirty
      exact (mem_append_dirties v.journal (.createObjectChange addr) other).mpr (Or.inl dirty)
  · obtain ⟨same, value⟩ := getStateObject_shown loading
    have cached := loading_cached noSlot loading
    have journal : v.journal = s.journal := by rw [cached.rest]
    simp only [loading] at found
    obtain ⟨rfl, rfl⟩ := Prod.mk.inj found
    refine ⟨⟨?_, ?_, ?_, cached.addressed⟩, getStateObject_address addressed loading, ?_⟩
    · intro other
      rw [same, add_zero]
    · intro other dirty
      rw [journal] at dirty
      exact Or.inl dirty
    · intro other dirty
      rw [journal]
      exact dirty
    · rw [same, value]
      rfl

theorem objectSetBalance_credited {obj : StateObject} {addr : Address}
    (home : obj.address = addr) (held : shownBalance env s addr = obj.account.balance) (amount : BitVec 256) :
    Credited env s (objectSetBalance s obj (obj.account.balance + amount)) (credit addr amount) (· = addr) ∧
      addr ∈ (objectSetBalance s obj (obj.account.balance + amount)).journal.dirties := by
  subst home
  have mem := mem_append_dirties s.journal (.balanceChange obj.address obj.account.balance)
  refine ⟨⟨?_, ?_, ?_, fun home => addressed_setStateObject home _⟩, (mem obj.address).mpr (Or.inr rfl)⟩
  · intro other
    rw [objectSetBalance, shown_setStateObject]
    change Function.update (shownBalance env s) obj.address (obj.account.balance + amount) other = _
    by_cases here : other = obj.address
    · subst here
      rw [Function.update_self, held, credit, if_pos rfl]
    · rw [Function.update_of_ne here, credit, if_neg here, add_zero]
  · intro other dirty
    exact ((mem other).mp dirty).imp_right fun same => (Option.some.inj same).symm
  · intro other dirty
    exact (mem other).mpr (Or.inl dirty)

theorem credit_zero (addr : Address) : credit addr 0 = fun _ => 0 :=
  funext fun _ => ite_self 0

theorem addBalance_credited (addressed : Addressed s) (addr : Address) (amount : BitVec 256) :
    Credited env s (addBalance env s addr amount) (credit addr amount) (· = addr) ∧
      (amount ≠ 0 → addr ∈ (addBalance env s addr amount).journal.dirties) := by
  rcases found : getOrNewStateObject env s addr with ⟨obj, v⟩
  obtain ⟨loading, home, held⟩ := getOrNewStateObject_credited addressed found
  simp only [addBalance, found]
  by_cases zero : amount = 0
  · rw [if_pos zero, zero, credit_zero]
    exact ⟨loading, fun nonzero => absurd rfl nonzero⟩
  · rw [if_neg zero]
    obtain ⟨credited, dirty⟩ := objectSetBalance_credited home held amount
    have both := loading.trans credited
    simp only [zero_add, or_self] at both
    exact ⟨both, fun _ => dirty⟩

theorem subBalance_credited (addressed : Addressed s) (addr : Address) (amount : BitVec 256) :
    Credited env s (subBalance env s addr amount) (credit addr (-amount)) (· = addr) ∧
      (amount ≠ 0 → addr ∈ (subBalance env s addr amount).journal.dirties) := by
  rw [subBalance_eq, ← neg_ne_zero]
  exact addBalance_credited addressed addr (-amount)

/-! The balance handler. -/

/-- What the handler makes of an event: nothing for a blocked account, and otherwise the
reported change for the address the account is cut down to. -/
def eventCredit (env : Env) (event : Event) : Address → BitVec 256 :=
  match eventAccount event with
  | none => fun _ => 0
  | some account =>
    if env.bank.blockedAddr account then fun _ => 0
    else credit (bytesToAddress account) (BitVec.ofInt 256 (eventWorth env.bank event account))

/-- The addresses the handler touches for an event. -/
def EventTouches (env : Env) (event : Event) (addr : Address) : Prop :=
  ∃ account ∈ eventAccount event, env.bank.blockedAddr account = false ∧ bytesToAddress account = addr

theorem toNat_ofInt_of_lt {amount : ℤ} (nonneg : 0 ≤ amount) (small : amount < 2 ^ 256) :
    ((BitVec.ofInt 256 amount).toNat : ℤ) = amount := by
  rw [BitVec.toNat_ofInt, Int.toNat_of_nonneg (Int.emod_nonneg _ (by norm_num))]
  exact Int.emod_eq_of_lt nonneg (by exact_mod_cast small)

theorem uint256FromBigInt_ok {i : ℤ} {amount : BitVec 256}
    (success : BalanceHandler.uint256FromBigInt i = .ok amount) : amount = BitVec.ofInt 256 i := by
  unfold BalanceHandler.uint256FromBigInt at success
  split at success
  · cases success
  · split at success
    · cases success
    · exact (Except.ok.inj success).symm

theorem parseAmount_ok {coins : Coins} {amount : BitVec 256}
    (success : BalanceHandler.parseAmount env coins = .ok amount) :
    amount = BitVec.ofInt 256 (Coins.amountOf coins env.bank.denom * env.bank.conversionFactor) :=
  uint256FromBigInt_ok (mapError_ok success)

/-- An event with an account is bypassed or handled for the account's address. -/
theorem unlessBlocked_credited {what event : String} {named : AccAddress} {reported : Event}
    {change : AccAddress → Except String StateDb} (account : eventAccount reported = some named)
    (success : BalanceHandler.unlessBlocked env s what event named change = .ok t)
    (handled : change named = .ok t → Credited env s t (credit (bytesToAddress named)
      (BitVec.ofInt 256 (eventWorth env.bank reported named))) (· = bytesToAddress named)) :
    Credited env s t (eventCredit env reported) (EventTouches env reported) := by
  unfold BalanceHandler.unlessBlocked BalanceHandler.parseAddress at success
  unfold eventCredit EventTouches
  rw [account]
  obtain ⟨parsed, parse, success⟩ := bind_ok success
  obtain rfl : named = parsed := by
    have same := mapError_ok parse
    split at same
    · cases same
    · exact Except.ok.inj same
  by_cases blocked : env.bank.blockedAddr named = true
  · rw [if_pos blocked] at success
    cases success
    simp only [blocked, if_true]
    exact Credited.refl env s _
  · rw [if_neg blocked] at success
    have credited := handled success
    simp only [blocked]
    refine ⟨credited.shown, ?_, credited.kept, credited.addressed⟩
    intro addr dirty
    refine (credited.dirtied addr dirty).imp_right fun same => ?_
    exact ⟨named, rfl, by simpa using blocked, same.symm⟩

theorem afterEvent_credited (addressed : Addressed s) {event : Event}
    (success : BalanceHandler.afterEvent env s event = .ok t) :
    Credited env s t (eventCredit env event) (EventTouches env event) := by
  cases event with
  | coinSpent spender coins =>
    refine unlessBlocked_credited rfl success fun handled => ?_
    obtain ⟨amount, parsed, final⟩ := bind_ok handled
    cases final
    rw [eventWorth, booked_self, BitVec.ofInt_neg, ← parseAmount_ok (mapError_ok parsed)]
    exact (subBalance_credited addressed _ amount).1
  | coinReceived receiver coins =>
    refine unlessBlocked_credited rfl success fun handled => ?_
    obtain ⟨amount, parsed, final⟩ := bind_ok handled
    cases final
    rw [eventWorth, booked_self, ← parseAmount_ok (mapError_ok parsed)]
    exact (addBalance_credited addressed _ amount).1
  | fractionalBalanceChange address delta =>
    refine unlessBlocked_credited rfl success fun handled => ?_
    obtain ⟨amount, parsed, final⟩ := bind_ok handled
    cases final
    have amountIs := uint256FromBigInt_ok (mapError_ok parsed)
    rw [eventWorth, booked_self]
    split
    · rename_i positive
      rw [abs_of_pos positive] at amountIs
      rw [← amountIs]
      exact (addBalance_credited addressed _ amount).1
    · split
      · rename_i negative
        rw [abs_of_neg negative] at amountIs
        rw [← neg_neg delta, BitVec.ofInt_neg, ← amountIs]
        exact (subBalance_credited addressed _ amount).1
      · rename_i low high
        obtain rfl : delta = 0 := by omega
        change Credited env s s (credit _ 0) _
        rw [credit_zero]
        exact Credited.refl env s _
  | other type =>
    cases success
    exact Credited.refl env s _

theorem afterEvents_credited (addressed : Addressed s) {events : List Event}
    (success : BalanceHandler.afterEvents env events s = (t, none)) :
    Credited env s t (fun addr => (events.map fun event => eventCredit env event addr).sum)
      fun addr => ∃ event ∈ events, EventTouches env event addr := by
  induction events generalizing s with
  | nil =>
    cases success
    exact Credited.refl env _ _
  | cons event rest ih =>
    unfold BalanceHandler.afterEvents at success
    cases stepped : BalanceHandler.afterEvent env s event with
    | error text =>
      rw [stepped] at success
      cases success
    | ok next =>
      rw [stepped] at success
      have first := afterEvent_credited addressed stepped
      have both := first.trans (ih (first.addressed addressed) success)
      simpa using both

/-- Where every account that is not blocked has 20 bytes, the handler gives each address
what the events report for it. -/
theorem eventCredit_sized {event : Event} (sized : ∀ account ∈ eventAccount event,
      env.bank.blockedAddr account = false → account.length = 20) (addr : Address) :
    eventCredit env event addr = if env.bank.blockedAddr addr.toList then 0
      else BitVec.ofInt 256 (eventWorth env.bank event addr.toList) := by
  have elsewhere : addr.toList ∉ eventAccount event →
      (if env.bank.blockedAddr addr.toList then 0
        else BitVec.ofInt 256 (eventWorth env.bank event addr.toList)) = (0 : BitVec 256) := by
    intro outside
    rw [eventWorth_outside outside]
    exact ite_self 0
  unfold eventCredit
  cases named : eventAccount event with
  | none =>
    rw [named] at elsewhere
    exact (elsewhere (by simp)).symm
  | some account =>
    rw [named] at elsewhere sized
    by_cases here : addr.toList = account
    · subst here
      by_cases blocked : env.bank.blockedAddr addr.toList = true
      · simp [blocked]
      · simp [blocked, credit, bytesToAddress_toList]
    · rw [elsewhere fun same => here (Option.some.inj same).symm]
      by_cases blocked : env.bank.blockedAddr account = true
      · simp [blocked]
      · have apart : addr ≠ bytesToAddress account := by
          intro same
          rw [same] at here
          exact here (toList_bytesToAddress (sized account rfl (by simpa using blocked)))
        simp [blocked, credit, apart]

/-- The credits of a list of events add up to the change they report. -/
theorem eventCredits_sized {events : List Event} (sized : ∀ event ∈ events,
      ∀ account ∈ eventAccount event, env.bank.blockedAddr account = false → account.length = 20)
    (addr : Address) : (events.map fun event => eventCredit env event addr).sum =
      if env.bank.blockedAddr addr.toList then 0 else BitVec.ofInt 256 (eventsWorth env.bank events addr.toList) := by
  induction events with
  | nil => exact (ite_self 0).symm
  | cons event rest ih =>
    have first := eventCredit_sized (sized event List.mem_cons_self) addr
    have others := ih fun later member => sized later (List.mem_cons_of_mem _ member)
    rw [List.map_cons, List.sum_cons, first, others]
    simp only [eventsWorth, List.map_cons, List.sum_cons, BitVec.ofInt_add]
    split
    · exact add_zero 0
    · rfl

end OgEvm.StateDb
