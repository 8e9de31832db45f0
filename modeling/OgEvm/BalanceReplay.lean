import OgEvm.StateDbFunds

/- Subtractions of the balance handler that wrap around. A replay has none when the
amounts its events report stay within the range of a word, account by account. -/
namespace OgEvm.StateDb

open Precisebank

/-- What the handler subtracts for an event, and from which account. -/
def eventDebit (env : Env) : Event → Option (AccAddress × ℤ)
  | .coinSpent spender coins =>
    some (spender, Coins.amountOf coins env.bank.denom * env.bank.conversionFactor)
  | .coinReceived _ _ => none
  | .fractionalBalanceChange address delta => if delta < 0 then some (address, -delta) else none
  | .other _ => none

/-- Whether the `SubBalance` of an event takes more than `GetBalance` shows. -/
def underflows (env : Env) (s : StateDb) (event : Event) : Bool :=
  match eventDebit env event with
  | none => false
  | some (account, amount) =>
    !env.bank.blockedAddr account &&
      decide (((getBalance env s (bytesToAddress account)).1.toNat : ℤ) < amount)

/-- Whether some `SubBalance` of a replay does. -/
def replayUnderflows (env : Env) : List Event → StateDb → Bool
  | [], _ => false
  | event :: rest, s =>
    underflows env s event ||
      match BalanceHandler.afterEvent env s event with
      | .error _ => false
      | .ok s => replayUnderflows env rest s

/-- The amounts of all accounts, before and after each event, are in range. -/
def StaysWithin (cfg : Config) (limit : ℤ) : (AccAddress → ℤ) → List Event → Prop
  | book, [] => ∀ account, 0 ≤ book account ∧ book account < limit
  | book, event :: rest =>
    (∀ account, 0 ≤ book account ∧ book account < limit) ∧
      StaysWithin cfg limit (fun account => book account + eventWorth cfg event account) rest

/-- The coins of an event are not negative. -/
def CoinsNonneg (cfg : Config) : Event → Prop
  | .coinSpent _ coins => 0 ≤ Coins.amountOf coins cfg.denom
  | .coinReceived _ coins => 0 ≤ Coins.amountOf coins cfg.denom
  | .fractionalBalanceChange _ _ => True
  | .other _ => True

section

variable {cfg : Config} {limit : ℤ} {book : AccAddress → ℤ}

theorem StaysWithin.start {events : List Event} (stays : StaysWithin cfg limit book events)
    (account : AccAddress) : 0 ≤ book account ∧ book account < limit := by
  cases events with
  | nil => exact stays account
  | cons event rest => exact stays.1 account

theorem StaysWithin.mono {wider : ℤ} (above : limit ≤ wider) {events : List Event}
    (stays : StaysWithin cfg limit book events) : StaysWithin cfg wider book events := by
  induction events generalizing book with
  | nil =>
    intro account
    exact ⟨(stays account).1, (stays account).2.trans_le above⟩
  | cons event rest ih =>
    refine ⟨?_, ih stays.2⟩
    intro account
    exact ⟨(stays.1 account).1, (stays.1 account).2.trans_le above⟩

theorem StaysWithin.pair {first second : Event} (start : ∀ account, 0 ≤ book account ∧ book account < limit)
    (middle : ∀ account, 0 ≤ book account + eventWorth cfg first account ∧
      book account + eventWorth cfg first account < limit)
    (final : ∀ account, 0 ≤ book account + eventsWorth cfg [first, second] account ∧
      book account + eventsWorth cfg [first, second] account < limit) :
    StaysWithin cfg limit book [first, second] := by
  refine ⟨start, middle, ?_⟩
  intro account
  have last := final account
  simp only [eventsWorth, List.map_cons, List.map_nil, List.sum_cons, List.sum_nil, add_zero,
    ← add_assoc] at last
  exact last

theorem StaysWithin.append {first second : List Event} (left : StaysWithin cfg limit book first)
    (right : StaysWithin cfg limit (fun account => book account + eventsWorth cfg first account) second) :
    StaysWithin cfg limit book (first ++ second) := by
  induction first generalizing book with
  | nil =>
    have same : (fun account => book account + eventsWorth cfg [] account) = book := by
      funext account
      exact add_zero _
    rw [same] at right
    exact right
  | cons event rest ih =>
    refine ⟨left.1, ih left.2 ?_⟩
    have same : (fun account => book account + eventWorth cfg event account + eventsWorth cfg rest account) =
        fun account => book account + eventsWorth cfg (event :: rest) account := by
      funext account
      simp only [eventsWorth, List.map_cons, List.sum_cons]
      ring
    rw [same]
    exact right

end

variable {env : Env} {s t : StateDb}

theorem uint256FromBigInt_fits {i : ℤ} (nonneg : 0 ≤ i) (small : i < 2 ^ 256) :
    BalanceHandler.uint256FromBigInt i = .ok (BitVec.ofInt 256 i) := by
  unfold BalanceHandler.uint256FromBigInt
  rw [if_neg (by omega), if_neg (by omega)]

theorem unlessBlocked_succeeds {what event : String} {named : AccAddress}
    {change : AccAddress → Except String StateDb} (nonempty : named ≠ []) (handled : ∃ t, change named = .ok t) :
    ∃ t, BalanceHandler.unlessBlocked env s what event named change = .ok t := by
  have parsed : BalanceHandler.parseAddress named = .ok named := if_neg nonempty
  unfold BalanceHandler.unlessBlocked
  rw [parsed]
  by_cases blocked : env.bank.blockedAddr named = true
  · exact ⟨s, if_pos blocked⟩
  · obtain ⟨t, run⟩ := handled
    exact ⟨t, (if_neg blocked).trans run⟩

theorem parseAmount_fits {coins : Coins} (nonneg : 0 ≤ Coins.amountOf coins env.bank.denom)
    (small : Coins.amountOf coins env.bank.denom * env.bank.conversionFactor < 2 ^ 256) :
    ∃ amount, BalanceHandler.parseAmount env coins = .ok amount := by
  have product := mul_nonneg nonneg env.bank.conversionFactor_pos.le
  unfold BalanceHandler.parseAmount
  rw [uint256FromBigInt_fits product small]
  exact ⟨_, rfl⟩

/-- An event is handled if its account has a name and its change fits a word. -/
theorem afterEvent_succeeds {event : Event} (nonneg : CoinsNonneg env.bank event)
    (nonempty : ∀ account ∈ eventAccount event, account ≠ [])
    (small : ∀ account ∈ eventAccount event, |eventWorth env.bank event account| < 2 ^ 256) :
    ∃ t, BalanceHandler.afterEvent env s event = .ok t := by
  cases event with
  | coinSpent spender coins =>
    have bound := small spender rfl
    rw [eventWorth, booked_self, abs_neg] at bound
    obtain ⟨amount, parsed⟩ := parseAmount_fits nonneg ((le_abs_self _).trans_lt bound)
    apply unlessBlocked_succeeds (nonempty spender rfl)
    rw [parsed]
    exact ⟨_, rfl⟩
  | coinReceived receiver coins =>
    have bound := small receiver rfl
    rw [eventWorth, booked_self] at bound
    obtain ⟨amount, parsed⟩ := parseAmount_fits nonneg ((le_abs_self _).trans_lt bound)
    apply unlessBlocked_succeeds (nonempty receiver rfl)
    rw [parsed]
    exact ⟨_, rfl⟩
  | fractionalBalanceChange address delta =>
    have bound := small address rfl
    rw [eventWorth, booked_self] at bound
    apply unlessBlocked_succeeds (nonempty address rfl)
    rw [uint256FromBigInt_fits (abs_nonneg delta) bound]
    exact ⟨_, rfl⟩
  | other type => exact ⟨s, rfl⟩

/-- The change an event reports for the account it debits. -/
theorem eventWorth_debit {event : Event} {account : AccAddress} {amount : ℤ}
    (debits : eventDebit env event = some (account, amount)) :
    account ∈ eventAccount event ∧ eventWorth env.bank event account = -amount := by
  cases event with
  | coinSpent spender coins =>
    obtain ⟨rfl, rfl⟩ := Prod.mk.inj (Option.some.inj debits)
    exact ⟨rfl, booked_self _ _⟩
  | coinReceived receiver coins => cases debits
  | fractionalBalanceChange address delta =>
    simp only [eventDebit] at debits
    split at debits
    · obtain ⟨rfl, rfl⟩ := Prod.mk.inj (Option.some.inj debits)
      refine ⟨rfl, ?_⟩
      rw [eventWorth, booked_self, neg_neg]
    · cases debits
  | other type => cases debits

/-- A subtraction is covered if the amount shown before and the one after it are in range. -/
theorem underflows_covered {event : Event} {book : AccAddress → ℤ}
    (shown : ∀ account ∈ eventAccount event, env.bank.blockedAddr account = false →
      shownBalance env s (bytesToAddress account) = BitVec.ofInt 256 (book account))
    (before : ∀ account, 0 ≤ book account ∧ book account < 2 ^ 256)
    (after : ∀ account, 0 ≤ book account + eventWorth env.bank event account) : underflows env s event = false := by
  unfold underflows
  cases debits : eventDebit env event with
  | none => rfl
  | some debit =>
    obtain ⟨account, amount⟩ := debit
    obtain ⟨named, worth⟩ := eventWorth_debit debits
    show (!env.bank.blockedAddr account && decide (_ < amount)) = false
    cases blocked : env.bank.blockedAddr account with
    | true => rfl
    | false =>
      have left := after account
      rw [(getBalance_credited env s (bytesToAddress account) fun _ => False).1,
        shown account named blocked, toNat_ofInt_of_lt (before account).1 (before account).2]
      have enough : ¬ book account < amount := by
        rw [worth] at left
        omega
      simpa using enough

/-- A replay that stays in range goes through, without a subtraction that wraps around. -/
theorem replay_within {events : List Event} {book : AccAddress → ℤ} (addressed : Addressed s)
    (nonneg : ∀ event ∈ events, CoinsNonneg env.bank event)
    (named : ∀ event ∈ events, ∀ account ∈ eventAccount event, account.length = 20)
    (shown : ∀ event ∈ events, ∀ account ∈ eventAccount event, env.bank.blockedAddr account = false →
      shownBalance env s (bytesToAddress account) = BitVec.ofInt 256 (book account))
    (stays : StaysWithin env.bank (2 ^ 256) book events) :
    (∃ t, BalanceHandler.afterEvents env events s = (t, none)) ∧ replayUnderflows env events s = false := by
  induction events generalizing s book with
  | nil => exact ⟨⟨s, rfl⟩, rfl⟩
  | cons event rest ih =>
    obtain ⟨range, later⟩ := stays
    have next := later.start
    have nonempty : ∀ account ∈ eventAccount event, account ≠ [] := by
      intro account member same
      have size := named event List.mem_cons_self account member
      rw [same] at size
      cases size
    have small : ∀ account ∈ eventAccount event, |eventWorth env.bank event account| < 2 ^ 256 := by
      intro account _
      have old := range account
      have new := next account
      rw [abs_lt]
      omega
    obtain ⟨u, handled⟩ := @afterEvent_succeeds env s event (nonneg event List.mem_cons_self) nonempty small
    have covered := underflows_covered (shown event List.mem_cons_self) range fun account => (next account).1
    have credited := afterEvent_credited addressed handled
    have sized : ∀ account ∈ eventAccount event, env.bank.blockedAddr account = false →
        account.length = 20 := fun account member _ => named event List.mem_cons_self account member
    have moved : ∀ later ∈ rest, ∀ account ∈ eventAccount later, env.bank.blockedAddr account = false →
        shownBalance env u (bytesToAddress account) =
          BitVec.ofInt 256 (book account + eventWorth env.bank event account) := by
      intro later member account reads free
      have home := toList_bytesToAddress (named later (List.mem_cons_of_mem _ member) account reads)
      rw [credited.shown, eventCredit_sized sized, home, free,
        shown later (List.mem_cons_of_mem _ member) account reads free, BitVec.ofInt_add]
      rfl
    obtain ⟨done, clean⟩ := ih (credited.addressed addressed)
      (fun later member => nonneg later (List.mem_cons_of_mem _ member))
      (fun later member => named later (List.mem_cons_of_mem _ member)) moved later
    refine ⟨?_, ?_⟩
    · show ∃ t, (match BalanceHandler.afterEvent env s event with
        | .error text => (s, some (.other, text))
        | .ok s => BalanceHandler.afterEvents env rest s) = (t, none)
      rw [handled]
      exact done
    · show (underflows env s event || match BalanceHandler.afterEvent env s event with
        | .error _ => false
        | .ok s => replayUnderflows env rest s) = false
      rw [handled, covered]
      exact clean

end OgEvm.StateDb
