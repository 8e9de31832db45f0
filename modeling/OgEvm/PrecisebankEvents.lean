import OgEvm.PrecisebankExact

/- The events of a transfer say what it did: read back, they add up to the change
of every account, the fractional change being reported beside the integer moves. -/
namespace OgEvm.Precisebank

open ExceptFacts

/-- What an account holds in the two stores, the reserve included. -/
def worth (cfg : Config) (s : BankState) (account : AccAddress) : ℤ :=
  s.balances cfg.denom account * cfg.conversionFactor + s.fractionalBalances account

/-- The change an event reports. -/
def eventWorth (cfg : Config) : Event → AccAddress → ℤ
  | .coinSpent spender coins => booked spender (-(Coins.amountOf coins cfg.denom * cfg.conversionFactor))
  | .coinReceived receiver coins => booked receiver (Coins.amountOf coins cfg.denom * cfg.conversionFactor)
  | .fractionalBalanceChange address delta => booked address delta
  | .other _ => fun _ => 0

def eventsWorth (cfg : Config) (events : List Event) (account : AccAddress) : ℤ :=
  (events.map fun event => eventWorth cfg event account).sum

/-- The account an event names. -/
def eventAccount : Event → Option AccAddress
  | .coinSpent spender _ => some spender
  | .coinReceived receiver _ => some receiver
  | .fractionalBalanceChange address _ => some address
  | .other _ => none

/-- The events of a change report it, and name the given parties only. -/
structure Explained (cfg : Config) (parties : List AccAddress) (s t : BankState)
    (added : List Event) : Prop where
  events : t.events = s.events ++ added
  worth : ∀ account, worth cfg t account = worth cfg s account + eventsWorth cfg added account
  named : ∀ event ∈ added, ∀ account ∈ eventAccount event, account ∈ parties

variable {cfg : Config} {parties : List AccAddress} {s t u : BankState}

theorem eventsWorth_append (first second : List Event) (account : AccAddress) :
    eventsWorth cfg (first ++ second) account = eventsWorth cfg first account + eventsWorth cfg second account := by
  simp [eventsWorth]

theorem eventWorth_outside {event : Event} {account : AccAddress}
    (outside : account ∉ eventAccount event) : eventWorth cfg event account = 0 := by
  cases event with
  | other type => rfl
  | _ =>
    simp only [eventAccount, Option.mem_def, Option.some.injEq] at outside
    exact booked_ne _ fun same => outside same.symm

theorem Explained.refl (cfg : Config) (parties : List AccAddress) (s : BankState) : Explained cfg parties s s [] := by
  refine ⟨(List.append_nil _).symm, fun account => (add_zero _).symm, ?_⟩
  intro event member
  cases member

theorem Explained.trans {first second : List Event} (left : Explained cfg parties s t first)
    (right : Explained cfg parties t u second) : Explained cfg parties s u (first ++ second) := by
  refine ⟨?_, ?_, ?_⟩
  · rw [right.events, left.events, List.append_assoc]
  · intro account
    rw [right.worth, left.worth, eventsWorth_append]
    ring
  · intro event member
    rcases List.mem_append.mp member with early | late
    · exact left.named event early
    · exact right.named event late

/-- An account the parties do not include is not touched. -/
theorem Explained.outside {added : List Event} (explained : Explained cfg parties s t added)
    {account : AccAddress} (outside : account ∉ parties) : eventsWorth cfg added account = 0 := by
  refine List.sum_eq_zero ?_
  intro amount member
  obtain ⟨event, inside, rfl⟩ := List.mem_map.mp member
  exact eventWorth_outside fun named => outside (explained.named event inside account named)

/-! The writes of a transfer. -/

/-- The writes a transfer is made of, in their order, with the events of each: x/bank sends, and
the two fractional balances written together before either change is reported. -/
inductive Writes (cfg : Config) (parties : List AccAddress) : BankState → BankState → List Event → Prop where
  | refl (s : BankState) : Writes cfg parties s s []
  | send {s t : BankState} {fromAddr toAddr : AccAddress} {amt : Coins} (fromParty : fromAddr ∈ parties)
      (toParty : toAddr ∈ parties) (success : Bank.sendCoins s fromAddr toAddr amt = .ok t) :
      Writes cfg parties s t [.coinSpent fromAddr amt, .coinReceived toAddr amt]
  | fractions {s sent received : BankState} {fromAddr toAddr : AccAddress} {newFrom newTo : ℤ}
      (apart : fromAddr ≠ toAddr) (fromParty : fromAddr ∈ parties) (toParty : toAddr ∈ parties)
      (senderSet : setFractionalBalance cfg s fromAddr newFrom = .ok sent)
      (recipientSet : setFractionalBalance cfg sent toAddr newTo = .ok received) :
      Writes cfg parties s (Bank.emit (Bank.emit received (.fractionalBalanceChange fromAddr
          (newFrom - s.fractionalBalances fromAddr)))
        (.fractionalBalanceChange toAddr (newTo - s.fractionalBalances toAddr)))
        [.fractionalBalanceChange fromAddr (newFrom - s.fractionalBalances fromAddr),
          .fractionalBalanceChange toAddr (newTo - s.fractionalBalances toAddr)]
  | trans {s t u : BankState} {first second : List Event} (left : Writes cfg parties s t first)
      (right : Writes cfg parties t u second) : Writes cfg parties s u (first ++ second)

section

variable {fromAddr toAddr : AccAddress}

theorem Writes.ite (cfg : Config) {condition : Prop} [Decidable condition] {step : Except Fault BankState}
    (success : (if condition then step else pure s) = .ok t)
    (taken : condition → step = .ok t → ∃ added, Writes cfg parties s t added) :
    ∃ added, Writes cfg parties s t added := by
  rcases ite_pure_ok success with ⟨holds, run⟩ | ⟨-, rfl⟩
  · exact taken holds run
  · exact ⟨[], Writes.refl t⟩

theorem settleSend_writes {amt integerAmt : ℤ} {borrow carry : Bool} (fromParty : fromAddr ∈ parties)
    (toParty : toAddr ∈ parties) (reserveParty : cfg.reserve ∈ parties)
    (success : settleSend cfg s fromAddr toAddr amt integerAmt borrow carry = .ok t) :
    ∃ added, Writes cfg parties s t added := by
  simp only [settleSend] at success
  obtain ⟨paid, pay, success⟩ := bind_ok success
  obtain ⟨lent, lend, draw⟩ := bind_ok success
  obtain ⟨first, payment⟩ := Writes.ite cfg pay fun _ run =>
    ⟨_, Writes.send fromParty toParty (mapError_ok run)⟩
  obtain ⟨second, loan⟩ := Writes.ite cfg lend fun _ run => by
    have sent := mapError_ok run
    rw [Bank.sendCoinsFromAccountToModule, cfg.reserve_registered] at sent
    exact ⟨_, Writes.send fromParty reserveParty sent⟩
  obtain ⟨third, carried⟩ := Writes.ite cfg draw fun _ run =>
    ⟨_, Writes.send reserveParty toParty (mapError_ok run)⟩
  exact ⟨_, (payment.trans loan).trans carried⟩

theorem sendExtendedCoins_writes {amt : ℤ} (positive : 0 < amt) (fromApart : fromAddr ≠ cfg.reserve)
    (toApart : toAddr ≠ cfg.reserve) (fromParty : fromAddr ∈ parties) (toParty : toAddr ∈ parties)
    (reserveParty : cfg.reserve ∈ parties) (success : sendExtendedCoins cfg s fromAddr toAddr amt = .ok t) :
    ∃ added, Writes cfg parties s t added := by
  by_cases apart : fromAddr = toAddr
  · rw [sendExtendedCoins, if_neg (by tauto), if_pos apart] at success
    cases success
    exact ⟨[], Writes.refl s⟩
  · obtain ⟨settled, sent, received, settle, senderSet, recipientSet, rfl⟩ :=
      sendExtendedCoins_ok fromApart toApart apart rfl rfl success
    obtain ⟨moves, settlement⟩ := settleSend_writes fromParty toParty reserveParty settle
    have fractional : ∀ account, settled.fractionalBalances account = s.fractionalBalances account := by
      intro account
      rw [(settleSend_moves (quotient_nonneg cfg positive) settle).fractional]
      exact add_zero _
    have written := Writes.fractions apart fromParty toParty senderSet recipientSet
    rw [fractional, fractional] at written
    exact ⟨_, settlement.trans written⟩

theorem sendCoins_writes {amt : Coins} (fromApart : fromAddr ≠ cfg.reserve) (toApart : toAddr ≠ cfg.reserve)
    (fromParty : fromAddr ∈ parties) (toParty : toAddr ∈ parties) (reserveParty : cfg.reserve ∈ parties)
    (success : sendCoins cfg s fromAddr toAddr amt = .ok t) : ∃ added, Writes cfg parties s t added := by
  obtain ⟨-, passed, pass, extended⟩ := sendCoins_ok success
  obtain ⟨first, passing⟩ := Writes.ite cfg pass fun _ run =>
    ⟨_, Writes.send fromParty toParty run⟩
  obtain ⟨second, rest⟩ := Writes.ite cfg extended fun positive run =>
    sendExtendedCoins_writes positive fromApart toApart fromParty toParty reserveParty run
  exact ⟨_, passing.trans rest⟩

/-! What the writes report. -/

theorem named_pair {first second : Event} (one : eventAccount first = some fromAddr)
    (other : eventAccount second = some toAddr) (fromParty : fromAddr ∈ parties) (toParty : toAddr ∈ parties) :
    ∀ event ∈ [first, second], ∀ account ∈ eventAccount event, account ∈ parties := by
  simp [one, other, fromParty, toParty]

theorem bankSend_explained (cfg : Config) {amt : Coins} (fromParty : fromAddr ∈ parties)
    (toParty : toAddr ∈ parties) (success : Bank.sendCoins s fromAddr toAddr amt = .ok t) :
    Explained cfg parties s t [.coinSpent fromAddr amt, .coinReceived toAddr amt] := by
  obtain ⟨valid, rfl⟩ := Bank.sendCoins_ok success
  refine ⟨Bank.moved_events s fromAddr toAddr amt, ?_, ?_⟩
  · intro account
    have frame := Bank.moved_frame s fromAddr toAddr amt
    unfold worth
    rw [Bank.moved_balance s fromAddr toAddr valid, frame.fractional]
    simp only [eventsWorth, eventWorth, booked, List.map_cons, List.map_nil, List.sum_cons, List.sum_nil]
    split_ifs <;> ring
  · exact named_pair rfl rfl fromParty toParty

/-- The two fractional writes at the end of a transfer, with their events. -/
theorem fractionalWrites_explained {newFrom newTo : ℤ} {sent received : BankState} (apart : fromAddr ≠ toAddr)
    (fromParty : fromAddr ∈ parties) (toParty : toAddr ∈ parties)
    (senderSet : setFractionalBalance cfg s fromAddr newFrom = .ok sent)
    (recipientSet : setFractionalBalance cfg sent toAddr newTo = .ok received) :
    Explained cfg parties s (Bank.emit (Bank.emit received (.fractionalBalanceChange fromAddr
        (newFrom - s.fractionalBalances fromAddr)))
      (.fractionalBalanceChange toAddr (newTo - s.fractionalBalances toAddr)))
      [.fractionalBalanceChange fromAddr (newFrom - s.fractionalBalances fromAddr),
        .fractionalBalanceChange toAddr (newTo - s.fractionalBalances toAddr)] := by
  obtain ⟨senderFrame, senderRead, -⟩ := setFractionalBalance_ok senderSet
  obtain ⟨recipientFrame, recipientRead, -⟩ := setFractionalBalance_ok recipientSet
  have events : received.events = s.events := by rw [recipientFrame, senderFrame]
  have balances : received.balances = s.balances := by rw [recipientFrame, senderFrame]
  refine ⟨?_, ?_, ?_⟩
  · simp [Bank.emit, events]
  · intro account
    simp only [worth, Bank.emit, balances, recipientRead, senderRead, eventsWorth, eventWorth, booked,
      List.map_cons, List.map_nil, List.sum_cons, List.sum_nil]
    by_cases recipient : account = toAddr
    · subst recipient
      simp [apart.symm]
    · by_cases sender : account = fromAddr
      · subst sender
        simp [apart]
      · simp [recipient, sender]
  · exact named_pair rfl rfl fromParty toParty

end

theorem Writes.explained {added : List Event} (writes : Writes cfg parties s t added) :
    Explained cfg parties s t added := by
  induction writes with
  | refl s => exact Explained.refl cfg parties s
  | send fromParty toParty success => exact bankSend_explained cfg fromParty toParty success
  | fractions apart fromParty toParty senderSet recipientSet =>
    exact fractionalWrites_explained apart fromParty toParty senderSet recipientSet
  | trans left right earlier later => exact earlier.trans later

end OgEvm.Precisebank
