import OgEvm.BalanceReplay
import OgEvm.CoinMoves

/- Transfers replayed from their events. Between any two events of a transfer every account
stands at an integer balance the bank has written and a fractional part below one coin, so the
replay reaches the extended balances without ever going below zero. -/
namespace OgEvm.StateDb

open ExceptFacts Totals Precisebank

/-- Integer balances that add up to the supply, and fractional parts below one coin. -/
structure Ranged (cfg : Config) (supply : ℤ) (s : BankState) : Prop where
  integer : ∀ account, 0 ≤ s.balances cfg.denom account
  total : total (s.balances cfg.denom) = supply
  fractional : ∀ account, 0 ≤ s.fractionalBalances account ∧
    s.fractionalBalances account < cfg.conversionFactor

section

variable {cfg : Config} {parties : List AccAddress} {supply : ℤ} {s t : BankState} {added : List Event}

/-- Whole coins and a fraction of one more. -/
theorem coins_range (cfg : Config) (supply : ℤ) {whole fraction : ℤ} (low : 0 ≤ whole) (high : whole ≤ supply)
    (nonneg : 0 ≤ fraction) (small : fraction < cfg.conversionFactor) : 0 ≤ whole * cfg.conversionFactor + fraction ∧
      whole * cfg.conversionFactor + fraction < (supply + 1) * cfg.conversionFactor := by
  have factor := cfg.conversionFactor_pos
  have below := mul_nonneg low factor.le
  have above := mul_le_mul_of_nonneg_right high factor.le
  rw [add_mul, one_mul]
  omega

theorem Ranged.le_supply (ranged : Ranged cfg supply s) (account : AccAddress) :
    s.balances cfg.denom account ≤ supply := by
  have bound := apply_le_total (s.balances cfg.denom) ranged.integer account
  rw [ranged.total] at bound
  exact bound

theorem Ranged.worth (ranged : Ranged cfg supply s) (account : AccAddress) :
    0 ≤ worth cfg s account ∧ worth cfg s account < (supply + 1) * cfg.conversionFactor := by
  obtain ⟨nonneg, small⟩ := ranged.fractional account
  exact coins_range cfg supply (ranged.integer account) (ranged.le_supply account) nonneg small

theorem setFractionalBalance_range {address : AccAddress} {amount : ℤ}
    (success : setFractionalBalance cfg s address amount = .ok t) : 0 ≤ amount ∧ amount < cfg.conversionFactor := by
  have factor := cfg.conversionFactor_pos
  unfold setFractionalBalance validateFractionalAmount at success
  split at success
  · cases success
  · split at success
    · omega
    · split at success
      · cases success
      · rename_i valid
        split at valid
        · cases valid
        · split at valid
          · cases valid
          · omega

/-- An x/bank send: the sender has the coins it spends. -/
theorem bankSend_stays {fromAddr toAddr : AccAddress} {amt : Coins} (ranged : Ranged cfg supply s)
    (success : Bank.sendCoins s fromAddr toAddr amt = .ok t) : Ranged cfg supply t ∧
      StaysWithin cfg ((supply + 1) * cfg.conversionFactor) (worth cfg s)
        [.coinSpent fromAddr amt, .coinReceived toAddr amt] := by
  have explained : Explained cfg [fromAddr, toAddr] s t _ :=
    bankSend_explained cfg List.mem_cons_self (by simp) success
  have covered := Bank.sendCoins_covered success cfg.denom
  obtain ⟨valid, rfl⟩ := Bank.sendCoins_ok success
  have nonneg := Coins.amountOf_nonneg valid cfg.denom
  have held : Coins.amountOf amt cfg.denom ≤ s.balances cfg.denom fromAddr := by
    have low := ranged.integer fromAddr
    unfold Bank.spendableCoin Bank.spendableAmount at covered
    omega
  have after : Ranged cfg supply (Bank.moved s fromAddr toAddr amt) := by
    refine ⟨?_, ?_, ?_⟩
    · intro account
      have low := ranged.integer account
      rw [Bank.moved_balance s fromAddr toAddr valid]
      by_cases sender : account = fromAddr
      · subst sender
        rw [if_pos rfl]
        split <;> omega
      · rw [if_neg sender]
        split <;> omega
    · rw [Bank.moved_total s fromAddr toAddr valid, ranged.total]
    · intro account
      rw [(Bank.moved_frame s fromAddr toAddr amt).fractional]
      exact ranged.fractional account
  refine ⟨after, StaysWithin.pair ranged.worth ?_ ?_⟩
  · intro account
    by_cases sender : account = fromAddr
    · subst sender
      obtain ⟨low, small⟩ := ranged.fractional account
      have high := ranged.le_supply account
      have left := coins_range cfg supply (sub_nonneg.mpr held) (by omega) low small
      rw [sub_mul] at left
      simp only [eventWorth, booked_self, Precisebank.worth]
      omega
    · rw [eventWorth, booked_ne _ sender, add_zero]
      exact ranged.worth account
  · intro account
    rw [← explained.worth account]
    exact after.worth account

/-- The fractional balances are written together and reported one after the other. -/
theorem fractionalWrites_stays {fromAddr toAddr : AccAddress} {newFrom newTo : ℤ} {sent received : BankState}
    (ranged : Ranged cfg supply s) (apart : fromAddr ≠ toAddr)
    (senderSet : setFractionalBalance cfg s fromAddr newFrom = .ok sent)
    (recipientSet : setFractionalBalance cfg sent toAddr newTo = .ok received) : Ranged cfg supply received ∧
      StaysWithin cfg ((supply + 1) * cfg.conversionFactor) (worth cfg s)
        [.fractionalBalanceChange fromAddr (newFrom - s.fractionalBalances fromAddr),
          .fractionalBalanceChange toAddr (newTo - s.fractionalBalances toAddr)] := by
  have explained : Explained cfg [fromAddr, toAddr] s _ _ :=
    fractionalWrites_explained apart List.mem_cons_self (by simp) senderSet recipientSet
  have senderRange := setFractionalBalance_range senderSet
  have recipientRange := setFractionalBalance_range recipientSet
  obtain ⟨senderFrame, senderRead, -⟩ := setFractionalBalance_ok senderSet
  obtain ⟨recipientFrame, recipientRead, -⟩ := setFractionalBalance_ok recipientSet
  have balances : received.balances = s.balances := by rw [recipientFrame, senderFrame]
  have after : Ranged cfg supply received := by
    refine ⟨?_, ?_, ?_⟩
    · rw [balances]
      exact ranged.integer
    · rw [balances]
      exact ranged.total
    · intro account
      rw [recipientRead, senderRead]
      split
      · exact recipientRange
      · split
        · exact senderRange
        · exact ranged.fractional account
  refine ⟨after, StaysWithin.pair ranged.worth ?_ ?_⟩
  · intro account
    by_cases sender : account = fromAddr
    · subst sender
      have reported := coins_range cfg supply (ranged.integer account) (ranged.le_supply account)
        senderRange.1 senderRange.2
      simp only [eventWorth, booked_self, Precisebank.worth]
      omega
    · rw [eventWorth, booked_ne _ sender, add_zero]
      exact ranged.worth account
  · intro account
    rw [← explained.worth account]
    exact after.worth account

/-- Every write of a transfer keeps the accounts in range, and so does each of its events. -/
theorem writes_stay (writes : Writes cfg parties s t added) (ranged : Ranged cfg supply s) :
    Ranged cfg supply t ∧ StaysWithin cfg ((supply + 1) * cfg.conversionFactor) (worth cfg s) added := by
  induction writes with
  | refl s => exact ⟨ranged, ranged.worth⟩
  | send fromParty toParty success => exact bankSend_stays ranged success
  | fractions apart fromParty toParty senderSet recipientSet =>
    obtain ⟨after, stays⟩ := fractionalWrites_stays ranged apart senderSet recipientSet
    exact ⟨⟨after.integer, after.total, after.fractional⟩, stays⟩
  | trans left right earlier later =>
    obtain ⟨middle, first⟩ := earlier ranged
    obtain ⟨final, second⟩ := later middle
    refine ⟨final, first.append ?_⟩
    rw [← funext left.explained.worth]
    exact second

theorem writes_nonneg (writes : Writes cfg parties s t added) : ∀ event ∈ added, CoinsNonneg cfg event := by
  induction writes with
  | refl s => simp
  | send fromParty toParty success =>
    have nonneg := Coins.amountOf_nonneg (Bank.sendCoins_ok success).1 cfg.denom
    simp [CoinsNonneg, nonneg]
  | fractions apart fromParty toParty senderSet recipientSet => simp [CoinsNonneg]
  | trans left right earlier later =>
    intro event member
    rcases List.mem_append.mp member with early | late
    · exact earlier event early
    · exact later event late

end

/-! The replay of a sequence of sends. -/

section

variable {env : Env} {s t : BankState} {sends : List NativeSend} {db : StateDb}

/-- What an account without locked coins can spend is what it holds. -/
theorem spendable_worth {account : AccAddress} (ordinary : account ≠ env.bank.reserve)
    (nonneg : 0 ≤ s.balances env.bank.denom account) (unlocked : s.locked account env.bank.denom = 0) :
    spendableCoin env.bank s account env.bank.extendedDenom = worth env.bank s account := by
  have whole : Bank.spendableCoin s account env.bank.denom = s.balances env.bank.denom account := by
    unfold Bank.spendableCoin Bank.spendableAmount
    rw [unlocked]
    simpa using nonneg
  rw [spendableCoin_extended ordinary, whole]
  rfl

/-- Outside the parties neither the reserve, which shows as empty, nor any other account changes. -/
theorem extended_outside {parties : List AccAddress} {added : List Event}
    (explained : Explained env.bank (env.bank.reserve :: parties) s t added) {account : AccAddress}
    (outside : account ∉ parties) : Precisebank.getBalance env.bank t account env.bank.extendedDenom =
      Precisebank.getBalance env.bank s account env.bank.extendedDenom := by
  by_cases reserve : account = env.bank.reserve
  · rw [reserve, getBalance_reserve, getBalance_reserve]
  · have untouched : account ∉ env.bank.reserve :: parties := by
      rw [List.mem_cons]
      exact not_or.mpr ⟨reserve, outside⟩
    have same := explained.worth account
    rw [explained.outside untouched, add_zero] at same
    rw [getBalance_extended reserve, getBalance_extended reserve]
    exact same

theorem eventsWorth_unblocked {parties : List AccAddress} {added : List Event}
    (explained : Explained env.bank (env.bank.reserve :: parties) s t added)
    (reserveBlocked : env.bank.blockedAddr env.bank.reserve = true) {account : AccAddress}
    (outside : account ∉ parties) : (if env.bank.blockedAddr account then (0 : BitVec 256)
      else BitVec.ofInt 256 (eventsWorth env.bank added account)) = 0 := by
  by_cases blocked : env.bank.blockedAddr account = true
  · rw [if_pos blocked]
  · have untouched : account ∉ env.bank.reserve :: parties := by
      rw [List.mem_cons]
      refine not_or.mpr ⟨fun reserve => blocked ?_, outside⟩
      rw [reserve]
      exact reserveBlocked
    rw [if_neg blocked, explained.outside untouched]
    rfl

/-- The handler brings every address to its new extended balance, and no subtraction on the way
takes more than the address shows. -/
theorem sends_replay_exact (backed : Backed env.bank s) (ledger : BankLedger env.bank s)
    (nonneg : ∀ account, 0 ≤ s.balances env.bank.denom account)
    (fits : (s.supply env.bank.denom + 1) * env.bank.conversionFactor ≤ 2 ^ 256)
    (reserveBlocked : env.bank.blockedAddr env.bank.reserve = true)
    (reserveSized : env.bank.reserve.length = 20)
    (ordinary : ∀ account ∈ sendsParties sends, account.length = 20 ∧
      env.bank.blockedAddr account = false ∧ s.locked account env.bank.denom = 0)
    (addressed : Addressed db)
    (synced : ∀ addr : Address, addr.toList ∈ sendsParties sends → (getBalance env db addr).1 =
      BitVec.ofInt 256 (spendableCoin env.bank s addr.toList env.bank.extendedDenom))
    (success : runSends env.bank s sends = .ok t) :
    replayUnderflows env (t.events.drop s.events.length) db = false ∧
      ∃ after, BalanceHandler.afterEvents env (t.events.drop s.events.length) db = (after, none) ∧
        ∀ addr, ((getBalance env after addr).1.toNat : ℤ) = (getBalance env db addr).1.toNat +
          (Precisebank.getBalance env.bank t addr.toList env.bank.extendedDenom -
            Precisebank.getBalance env.bank s addr.toList env.bank.extendedDenom) := by
  have reads : ∀ (u : StateDb) addr, (getBalance env u addr).1 = shownBalance env u addr :=
    fun u addr => (getBalance_credited env u addr fun _ => False).1
  simp only [reads] at synced ⊢
  have apart : ∀ account ∈ sendsParties sends, account ≠ env.bank.reserve := by
    intro account named same
    have free := (ordinary account named).2.1
    rw [same, reserveBlocked] at free
    cases free
  obtain ⟨added, writes⟩ := runSends_writes (fun named => apart _ named rfl) List.mem_cons_self
    (fun account named => List.mem_cons_of_mem env.bank.reserve named) success
  have explained := writes.explained
  have events : t.events.drop s.events.length = added := by
    rw [explained.events]
    exact List.drop_left
  have ranged : Ranged env.bank (s.supply env.bank.denom) s := by
    refine ⟨nonneg, ledger.supply.symm, ?_⟩
    intro account
    exact backed.fractional_range account
  obtain ⟨final, stays⟩ := writes_stay writes ranged
  have held : ∀ addr : Address, addr.toList ∈ sendsParties sends →
      shownBalance env db addr = BitVec.ofInt 256 (worth env.bank s addr.toList) := by
    intro addr named
    rw [synced addr named, spendable_worth (apart _ named) (nonneg _) (ordinary _ named).2.2]
  have sized : ∀ event ∈ added, ∀ account ∈ eventAccount event, account.length = 20 := by
    intro event member account named
    rcases List.mem_cons.mp (explained.named event member account named) with rfl | party
    · exact reserveSized
    · exact (ordinary account party).1
  have shown : ∀ event ∈ added, ∀ account ∈ eventAccount event, env.bank.blockedAddr account = false →
      shownBalance env db (bytesToAddress account) = BitVec.ofInt 256 (worth env.bank s account) := by
    intro event member account named free
    have home := toList_bytesToAddress (sized event member account named)
    rcases List.mem_cons.mp (explained.named event member account named) with rfl | party
    · rw [reserveBlocked] at free
      cases free
    · have here := held (bytesToAddress account)
      rw [home] at here
      exact here party
  rw [events]
  obtain ⟨⟨after, done⟩, clean⟩ :=
    replay_within addressed (writes_nonneg writes) sized shown (stays.mono fits)
  refine ⟨clean, after, done, fun addr => ?_⟩
  have credited := (afterEvents_credited addressed done).shown addr
  rw [eventCredits_sized fun event member account named _ => sized event member account named] at credited
  by_cases party : addr.toList ∈ sendsParties sends
  · have before := ranged.worth addr.toList
    have last := final.worth addr.toList
    rw [(ordinary _ party).2.1, held addr party] at credited
    simp only [Bool.false_eq_true, if_false] at credited
    rw [← BitVec.ofInt_add, ← explained.worth] at credited
    rw [credited, held addr party, toNat_ofInt_of_lt last.1 (last.2.trans_le fits),
      toNat_ofInt_of_lt before.1 (before.2.trans_le fits), getBalance_extended (apart _ party),
      getBalance_extended (apart _ party)]
    unfold worth
    ring
  · rw [eventsWorth_unblocked explained reserveBlocked party, add_zero] at credited
    rw [credited, extended_outside explained party, sub_self, add_zero]

end

/-- The six-decimal chain with a 20-byte reserve. -/
def reserveEnv : Env :=
  { toyEnv with bank := { sixDecimals with
    moduleAddress := fun _ => some (bytesToAddress [1]).toList
    blockedAddr := fun addr => addr = (bytesToAddress [1]).toList
    reserve := (bytesToAddress [1]).toList
    reserve_registered := rfl } }

theorem coinBank_backed : Backed reserveEnv.bank (coinBank holder.toList) where
  reserve := by
    change (coinBank holder.toList).balances "utest" (bytesToAddress [1]).toList * _ = 0
    rw [coinBank_balance, if_neg (by decide), zero_mul]
  fractional_nonneg := fun _ => le_refl 0
  fractional_lt := fun _ => reserveEnv.bank.conversionFactor_pos
  reserve_fractional := rfl
  remainder_nonneg := le_refl 0
  remainder_lt := reserveEnv.bank.conversionFactor_pos

/-- A send that borrows, one that carries, and one of whole coins. -/
def fractionalSends : List NativeSend :=
  [.precisebank holder.toList (bytesToAddress [4]).toList [⟨"atest", 1700000000000⟩],
    .precisebank (bytesToAddress [4]).toList holder.toList [⟨"atest", 800000000000⟩],
    .precisebank holder.toList (bytesToAddress [4]).toList [⟨"utest", 1⟩]]

theorem sends_replay_exact_fractionalSends : ∃ t,
    runSends reserveEnv.bank (coinBank holder.toList) fractionalSends = .ok t ∧
      replayUnderflows reserveEnv t.events coinStart = false := by
  have runs : ((runSends reserveEnv.bank (coinBank holder.toList) fractionalSends).toOption.map
      fun _ => ()) = some () := by decide +kernel
  obtain ⟨t, run, -⟩ := Option.map_eq_some_iff.mp runs
  have success := toOption_some run
  have nonneg : ∀ account, 0 ≤ (coinBank holder.toList).balances "utest" account := by
    intro account
    rw [coinBank_balance]
    split <;> norm_num
  have home : Addressed coinStart := by
    intro addr obj found
    cases found
  have parties : ∀ addr : Address, addr.toList ∈ sendsParties fractionalSends →
      addr = holder ∨ addr = bytesToAddress [4] := by
    intro addr named
    simp only [fractionalSends, sendsParties, List.flatMap_cons, List.flatMap_nil, NativeSend.sender,
      NativeSend.recipient, List.mem_append, List.mem_cons, List.not_mem_nil, or_false,
      Vector.toList_inj] at named
    tauto
  have replayed := sends_replay_exact coinBank_backed ⟨(total_single holder.toList 5).symm, rfl⟩ nonneg
    (by decide +kernel) (by decide) (by decide) (by decide +kernel) home
    (by
      intro addr named
      rcases parties addr named with rfl | rfl
      · decide +kernel
      · decide +kernel) success
  exact ⟨t, success, replayed.1⟩

end OgEvm.StateDb
