import OgEvm.PrecisebankEvents

/- Sends of the EVM coin through x/bank and precisebank, on a ledger without locked
coins: what each account gains is the amount the sends name it for. -/
namespace OgEvm.Precisebank

open ExceptFacts

/-- A send of a native action, through either keeper. -/
inductive NativeSend where
  | bank (fromAddr toAddr : AccAddress) (amt : Coins)
  | precisebank (fromAddr toAddr : AccAddress) (amt : Coins)

namespace NativeSend

def run (cfg : Config) (s : BankState) : NativeSend → Except Fault BankState
  | .bank fromAddr toAddr amt => Bank.sendCoins s fromAddr toAddr amt
  | .precisebank fromAddr toAddr amt => Precisebank.sendCoins cfg s fromAddr toAddr amt

def sender : NativeSend → AccAddress
  | .bank fromAddr _ _ => fromAddr
  | .precisebank fromAddr _ _ => fromAddr

def recipient : NativeSend → AccAddress
  | .bank _ toAddr _ => toAddr
  | .precisebank _ toAddr _ => toAddr

/-- The amount of the EVM coin a send names, with 18 decimals. -/
def value (cfg : Config) : NativeSend → ℤ
  | .bank _ _ amt => Coins.amountOf amt cfg.denom * cfg.conversionFactor
  | .precisebank _ _ amt =>
    (if cfg.denom = cfg.extendedDenom then 0 else Coins.amountOf amt cfg.denom) *
      cfg.conversionFactor + Coins.amountOf amt cfg.extendedDenom

/-- What a send changes an account by. -/
def net (cfg : Config) (send : NativeSend) (account : AccAddress) : ℤ :=
  booked send.recipient (send.value cfg) account - booked send.sender (send.value cfg) account

end NativeSend

/-- A bank state in order: the fractional balances are backed, the supply is the sum of
the balances, no coins of the EVM denomination are locked and nobody is overdrawn. -/
structure Healthy (cfg : Config) (s : BankState) : Prop where
  backed : Backed cfg s
  ledger : BankLedger cfg s
  unlocked : ∀ account, s.locked account cfg.denom = 0
  funds : ∀ account, 0 ≤ getBalance cfg s account cfg.extendedDenom

/-- The bank state goes from one healthy state to another, with a given change of the
extended balances. -/
structure Pays (cfg : Config) (s t : BankState) (net : AccAddress → ℤ) : Prop where
  healthy : Healthy cfg t
  balance : ∀ account, getBalance cfg t account cfg.extendedDenom =
    getBalance cfg s account cfg.extendedDenom + net account

section

variable {cfg : Config} {s t u : BankState}

theorem Healthy.pays (healthy : Healthy cfg s) : Pays cfg s s fun _ => 0 :=
  ⟨healthy, fun _ => (add_zero _).symm⟩

/-- Only the stores matter. -/
theorem Healthy.of_events (healthy : Healthy cfg s) (events : List Event) : Healthy cfg { s with events := events } :=
  ⟨healthy.backed.of_same rfl rfl rfl, ⟨healthy.ledger.supply, healthy.ledger.reserve_unlocked⟩,
    healthy.unlocked, healthy.funds⟩

theorem Pays.trans {first second : AccAddress → ℤ} (left : Pays cfg s t first)
    (right : Pays cfg t u second) : Pays cfg s u fun account => first account + second account :=
  ⟨right.healthy, fun account => by rw [right.balance, left.balance, add_assoc]⟩

theorem Pays.congr {first second : AccAddress → ℤ} (pays : Pays cfg s t first)
    (same : first = second) : Pays cfg s t second := by
  rw [← same]
  exact pays

/-- Nobody overdrawn means that the integer balances are not negative either. -/
theorem Healthy.integer_nonneg (healthy : Healthy cfg s) {account : AccAddress}
    (apart : account ≠ cfg.reserve) : 0 ≤ s.balances cfg.denom account := by
  have funds := healthy.funds account
  rw [getBalance_extended apart] at funds
  have small := healthy.backed.fractional_lt account
  by_contra negative
  have bound : s.balances cfg.denom account * cfg.conversionFactor ≤ (-1) * cfg.conversionFactor :=
    mul_le_mul_of_nonneg_right (by omega) cfg.conversionFactor_pos.le
  omega

theorem Healthy.bankSpendable (healthy : Healthy cfg s) {account : AccAddress} (apart : account ≠ cfg.reserve) :
    Bank.spendableCoin s account cfg.denom = s.balances cfg.denom account := by
  have nonneg := healthy.integer_nonneg apart
  have free := healthy.unlocked account
  unfold Bank.spendableCoin Bank.spendableAmount
  rw [free]
  simpa using nonneg

/-- Everything an account holds can be spent. -/
theorem Healthy.spendable (healthy : Healthy cfg s) (account : AccAddress) :
    spendableCoin cfg s account cfg.extendedDenom = getBalance cfg s account cfg.extendedDenom := by
  by_cases reserve : account = cfg.reserve
  · subst reserve
    rw [getBalance_reserve]
    simp [spendableCoin]
  · rw [spendableCoin_extended reserve, getBalance_extended reserve, healthy.bankSpendable reserve]

theorem booked_add (account : AccAddress) (first second : ℤ) (read : AccAddress) :
    booked account (first + second) read = booked account first read + booked account second read := by
  unfold booked
  split
  · rfl
  · exact (add_zero 0).symm

theorem booked_mul (account : AccAddress) (amount factor : ℤ) (read : AccAddress) :
    booked account (amount * factor) read = booked account amount read * factor := by
  unfold booked
  rw [ite_mul, zero_mul]

theorem booked_reserve {account : AccAddress} (apart : account ≠ cfg.reserve) (amount : ℤ) :
    booked account amount cfg.reserve = 0 := booked_ne amount apart.symm

/-- A change of the ordinary accounts that the funds cover. -/
theorem pays_of {net : AccAddress → ℤ} (backed : Backed cfg t) (ledger : BankLedger cfg t)
    (locked : t.locked = s.locked) (healthy : Healthy cfg s) (reserve : net cfg.reserve = 0)
    (balance : ∀ account, account ≠ cfg.reserve → getBalance cfg t account cfg.extendedDenom =
      getBalance cfg s account cfg.extendedDenom + net account) (covered : ∀ account, account ≠ cfg.reserve →
      0 ≤ getBalance cfg s account cfg.extendedDenom + net account) : Pays cfg s t net := by
  have everywhere : ∀ account, getBalance cfg t account cfg.extendedDenom =
      getBalance cfg s account cfg.extendedDenom + net account := by
    intro account
    by_cases same : account = cfg.reserve
    · subst same
      rw [getBalance_reserve, getBalance_reserve, reserve, add_zero]
    · exact balance account same
  refine ⟨⟨backed, ledger, ?_, ?_⟩, everywhere⟩
  · intro account
    rw [locked]
    exact healthy.unlocked account
  · intro account
    by_cases same : account = cfg.reserve
    · subst same
      rw [getBalance_reserve]
    · rw [everywhere]
      exact covered account same

section

variable {fromAddr toAddr : AccAddress} (healthy : Healthy cfg s)

include healthy

/-- Moving an amount the sender has overdraws nobody. -/
theorem transfer_covered {amount : ℤ} (nonneg : 0 ≤ amount)
    (enough : amount ≤ getBalance cfg s fromAddr cfg.extendedDenom) (account : AccAddress) :
    0 ≤ getBalance cfg s account cfg.extendedDenom +
      (booked toAddr amount account - booked fromAddr amount account) := by
  have funds := healthy.funds account
  unfold booked
  by_cases sender : account = fromAddr
  · subst sender
    rw [if_pos rfl]
    split <;> omega
  · rw [if_neg sender]
    split <;> omega

theorem bankSend_pays {amt : Coins} (fromApart : fromAddr ≠ cfg.reserve) (toApart : toAddr ≠ cfg.reserve)
    (success : Bank.sendCoins s fromAddr toAddr amt = .ok t) :
    Pays cfg s t ((NativeSend.bank fromAddr toAddr amt).net cfg) := by
  have backed := healthy.backed.of_bank_send fromApart toApart success
  have covered := Bank.sendCoins_covered success cfg.denom
  rw [healthy.bankSpendable fromApart] at covered
  obtain ⟨valid, rfl⟩ := Bank.sendCoins_ok success
  obtain ⟨supply, locked, fractional, -⟩ := Bank.moved_frame s fromAddr toAddr amt
  have nonneg := Coins.amountOf_nonneg valid cfg.denom
  have factor := cfg.conversionFactor_pos
  have ledger : BankLedger cfg (Bank.moved s fromAddr toAddr amt) := by
    refine ⟨?_, ?_⟩
    · rw [supply, Bank.moved_total s fromAddr toAddr valid, healthy.ledger.supply]
    · rw [locked]
      exact healthy.ledger.reserve_unlocked
  refine pays_of backed ledger locked healthy ?_ ?_ ?_
  · simp only [NativeSend.net, NativeSend.recipient, NativeSend.sender, booked_reserve fromApart,
      booked_reserve toApart, sub_zero]
  · intro account apart
    rw [getBalance_extended apart, getBalance_extended apart,
      Bank.moved_balance s fromAddr toAddr valid, fractional]
    simp only [NativeSend.net, NativeSend.recipient, NativeSend.sender, NativeSend.value, booked_mul]
    simp only [booked]
    ring
  · intro account _
    refine transfer_covered healthy (mul_nonneg nonneg factor.le) ?_ account
    have low := healthy.backed.fractional_nonneg fromAddr
    have bound : Coins.amountOf amt cfg.denom * cfg.conversionFactor ≤
        s.balances cfg.denom fromAddr * cfg.conversionFactor :=
      mul_le_mul_of_nonneg_right covered factor.le
    change _ ≤ getBalance cfg s fromAddr cfg.extendedDenom
    rw [getBalance_extended fromApart]
    omega

theorem sendExtendedCoins_pays {amt : ℤ} (positive : 0 < amt) (fromApart : fromAddr ≠ cfg.reserve)
    (toApart : toAddr ≠ cfg.reserve) (success : sendExtendedCoins cfg s fromAddr toAddr amt = .ok t) :
    Pays cfg s t fun account => booked toAddr amt account - booked fromAddr amt account := by
  by_cases apart : fromAddr = toAddr
  · rw [sendExtendedCoins, if_neg (by tauto), if_pos apart] at success
    cases success
    refine healthy.pays.congr (funext fun account => ?_)
    rw [apart, sub_self]
  · have moves := sendExtendedCoins_moves positive fromApart toApart apart success
    have enough := sendExtendedCoins_enough positive fromApart toApart apart success
    rw [healthy.spendable] at enough
    refine pays_of (sendExtendedCoins_backed healthy.backed positive fromApart toApart success)
      (moves.ledger healthy.ledger) moves.locked healthy ?_ ?_ ?_
    · rw [booked_reserve fromApart, booked_reserve toApart, sub_zero]
    · intro account ordinary
      exact sendExtendedCoins_exact positive fromApart toApart apart success ordinary
    · intro account _
      exact transfer_covered healthy positive.le enough account

theorem preciseSend_pays {amt : Coins} (fromApart : fromAddr ≠ cfg.reserve) (toApart : toAddr ≠ cfg.reserve)
    (success : sendCoins cfg s fromAddr toAddr amt = .ok t) :
    Pays cfg s t ((NativeSend.precisebank fromAddr toAddr amt).net cfg) := by
  obtain ⟨valid, passed, pass, extended⟩ := sendCoins_ok success
  have first : Pays cfg s passed
      ((NativeSend.bank fromAddr toAddr (passthrough cfg amt)).net cfg) := by
    rcases ite_pure_ok pass with ⟨-, run⟩ | ⟨nothing, rfl⟩
    · exact bankSend_pays healthy fromApart toApart run
    · refine healthy.pays.congr (funext fun account => ?_)
      simp [NativeSend.net, NativeSend.value, passthrough_nil valid nothing, booked]
  have second : Pays cfg passed t fun account =>
      booked toAddr (Coins.amountOf amt cfg.extendedDenom) account -
        booked fromAddr (Coins.amountOf amt cfg.extendedDenom) account := by
    rcases ite_pure_ok extended with ⟨positive, run⟩ | ⟨nothing, rfl⟩
    · exact sendExtendedCoins_pays first.healthy positive fromApart toApart run
    · have zero : Coins.amountOf amt cfg.extendedDenom = 0 := by
        have nonneg := Coins.amountOf_nonneg valid cfg.extendedDenom
        omega
      refine first.healthy.pays.congr (funext fun account => ?_)
      simp [zero, booked]
  refine (first.trans second).congr (funext fun account => ?_)
  simp only [NativeSend.net, NativeSend.value, NativeSend.recipient, NativeSend.sender,
    amountOf_passthrough valid, booked_add]
  ring

theorem NativeSend.run_pays {send : NativeSend} (fromApart : send.sender ≠ cfg.reserve)
    (toApart : send.recipient ≠ cfg.reserve) (success : send.run cfg s = .ok t) : Pays cfg s t (send.net cfg) := by
  cases send with
  | bank fromAddr toAddr amt => exact bankSend_pays healthy fromApart toApart success
  | precisebank fromAddr toAddr amt => exact preciseSend_pays healthy fromApart toApart success

end

theorem NativeSend.run_writes {parties : List AccAddress} {send : NativeSend}
    (fromApart : send.sender ≠ cfg.reserve) (toApart : send.recipient ≠ cfg.reserve)
    (fromParty : send.sender ∈ parties) (toParty : send.recipient ∈ parties)
    (reserveParty : cfg.reserve ∈ parties) (success : send.run cfg s = .ok t) :
    ∃ added, Writes cfg parties s t added := by
  cases send with
  | bank fromAddr toAddr amt => exact ⟨_, Writes.send fromParty toParty success⟩
  | precisebank fromAddr toAddr amt =>
    exact sendCoins_writes fromApart toApart fromParty toParty reserveParty success

end

/-! The sends of one native action. -/

def runSends (cfg : Config) (s : BankState) (sends : List NativeSend) : Except Fault BankState :=
  sends.foldlM (NativeSend.run cfg) s

def sendsNet (cfg : Config) (sends : List NativeSend) (account : AccAddress) : ℤ :=
  (sends.map fun send => send.net cfg account).sum

/-- The accounts the sends name. -/
def sendsParties (sends : List NativeSend) : List AccAddress :=
  sends.flatMap fun send => [send.sender, send.recipient]

variable {cfg : Config} {s t : BankState}

section

variable {sends : List NativeSend} {amt : ℤ} {moduleName : ModuleName}

theorem sendsNet_cons (send : NativeSend) (rest : List NativeSend) (account : AccAddress) :
    sendsNet cfg (send :: rest) account = send.net cfg account + sendsNet cfg rest account := by
  simp [sendsNet]

theorem sendsParties_cons (send : NativeSend) (rest : List NativeSend) :
    sendsParties (send :: rest) = [send.sender, send.recipient] ++ sendsParties rest := rfl

theorem runSends_pays (healthy : Healthy cfg s) (apart : cfg.reserve ∉ sendsParties sends)
    (success : runSends cfg s sends = .ok t) : Pays cfg s t (sendsNet cfg sends) := by
  induction sends generalizing s with
  | nil =>
    cases success
    exact healthy.pays
  | cons send rest ih =>
    rw [runSends, List.foldlM_cons] at success
    obtain ⟨middle, ran, success⟩ := bind_ok success
    simp only [sendsParties_cons, List.mem_append, List.mem_cons, List.not_mem_nil, or_false, not_or] at apart
    have first := NativeSend.run_pays healthy (Ne.symm apart.1.1) (Ne.symm apart.1.2) ran
    refine (first.trans (ih first.healthy apart.2 success)).congr (funext fun account => ?_)
    exact (sendsNet_cons send rest account).symm

theorem runSends_writes {parties : List AccAddress} (apart : cfg.reserve ∉ sendsParties sends)
    (reserveParty : cfg.reserve ∈ parties) (inside : ∀ account ∈ sendsParties sends, account ∈ parties)
    (success : runSends cfg s sends = .ok t) : ∃ added, Writes cfg parties s t added := by
  induction sends generalizing s with
  | nil =>
    cases success
    exact ⟨[], Writes.refl _⟩
  | cons send rest ih =>
    rw [runSends, List.foldlM_cons] at success
    obtain ⟨middle, ran, success⟩ := bind_ok success
    simp only [sendsParties_cons, List.mem_append, List.mem_cons, List.not_mem_nil, or_false,
      not_or] at apart inside
    obtain ⟨early, first⟩ := NativeSend.run_writes (Ne.symm apart.1.1) (Ne.symm apart.1.2)
      (inside _ (Or.inl (Or.inl rfl))) (inside _ (Or.inl (Or.inr rfl))) reserveParty ran
    obtain ⟨late, second⟩ := ih apart.2 (fun account named => inside account (Or.inr named)) success
    exact ⟨_, first.trans second⟩

/-- Accounts the sends do not name keep what they have. -/
theorem sendsNet_outside {account : AccAddress} (outside : account ∉ sendsParties sends) :
    sendsNet cfg sends account = 0 := by
  induction sends with
  | nil => rfl
  | cons send rest ih =>
    simp only [sendsParties_cons, List.mem_append, List.mem_cons, List.not_mem_nil, or_false, not_or] at outside
    rw [sendsNet_cons, ih outside.2, NativeSend.net, booked_ne _ outside.1.1, booked_ne _ outside.1.2]
    ring

/-! Minting to and burning from an account, as the EVM's bank wrapper does. -/

theorem extendedCoin_isValid (positive : 0 < amt) : Coins.IsValid [⟨cfg.extendedDenom, amt⟩] :=
  Coins.isValid_singleton cfg.extendedDenom amt positive

theorem extendedCoin_amountOf (amt : ℤ) : Coins.amountOf [⟨cfg.extendedDenom, amt⟩] cfg.extendedDenom = amt := by
  rw [Coins.amountOf_singleton, if_pos rfl]

theorem extendedCoin_passthrough (positive : 0 < amt) : passthrough cfg [⟨cfg.extendedDenom, amt⟩] = [] := by
  unfold passthrough
  rw [extendedCoin_amountOf, if_pos positive]
  simp [Coins.sub]

/-- Coins of the extended denomination alone skip x/bank's own send, mint and burn. -/
theorem sendCoins_extendedCoin {fromAddr toAddr : AccAddress} (positive : 0 < amt) :
    sendCoins cfg s fromAddr toAddr [⟨cfg.extendedDenom, amt⟩] = sendExtendedCoins cfg s fromAddr toAddr amt := by
  refine (if_neg (not_not.mpr (Coins.isValid_singleton _ _ positive))).trans ?_
  change ((if Coins.IsAllPositive (passthrough cfg [⟨cfg.extendedDenom, amt⟩]) then _ else _) >>= _) = _
  rw [extendedCoin_passthrough positive, if_neg (by simp [Coins.IsAllPositive]), extendedCoin_amountOf]
  exact if_pos positive

theorem Issue.coins_extendedCoin (issue : Issue) (positive : 0 < amt)
    (success : issue.coins cfg s moduleName [⟨cfg.extendedDenom, amt⟩] = .ok t) :
    moduleName ≠ precisebankModule ∧ issue.extended cfg s moduleName amt = .ok t := by
  obtain ⟨other, -, passed, pass, extended⟩ := issue.coins_ok success
  rw [extendedCoin_passthrough positive, if_neg (by simp)] at pass
  rw [extendedCoin_amountOf, if_pos positive] at extended
  cases pass
  exact ⟨other, extended⟩

def Issue.permission : Issue → Permission
  | .mint => .minter
  | .burn => .burner

theorem Issue.coins_extendedCoin_eq (issue : Issue) (positive : 0 < amt) (apart : moduleName ≠ precisebankModule)
    (registered : ∃ addr, cfg.moduleAddress moduleName = some addr)
    (permitted : cfg.hasPermission moduleName issue.permission = true) :
    issue.coins cfg s moduleName [⟨cfg.extendedDenom, amt⟩] = issue.extended cfg s moduleName amt := by
  obtain ⟨addr, found⟩ := registered
  have valid : Coins.IsValid [⟨cfg.extendedDenom, amt⟩] := extendedCoin_isValid positive
  have rest : passthrough cfg [⟨cfg.extendedDenom, amt⟩] = [] := extendedCoin_passthrough positive
  unfold passthrough at rest
  rw [extendedCoin_amountOf, if_pos positive] at rest
  cases issue <;> rw [Issue.permission] at permitted <;>
    simp only [Issue.coins, Issue.extended, mintCoins, burnCoins, if_neg apart, found, permitted, not_true, if_false,
      valid, extendedCoin_amountOf, if_pos positive, rest, ne_eq, pure_bind]

theorem sendExtended_pays (healthy : Healthy cfg s) {fromAddr toAddr : AccAddress} (positive : 0 < amt)
    (fromApart : fromAddr ≠ cfg.reserve) (toApart : toAddr ≠ cfg.reserve)
    (success : sendCoins cfg s fromAddr toAddr [⟨cfg.extendedDenom, amt⟩] = .ok t) :
    Pays cfg s t fun account => booked toAddr amt account - booked fromAddr amt account :=
  sendExtendedCoins_pays healthy positive fromApart toApart (sendCoins_extendedCoin positive ▸ success)

theorem mintExtended_pays (healthy : Healthy cfg s) (positive : 0 < amt)
    (apart : moduleAddr cfg moduleName ≠ cfg.reserve)
    (success : mintCoins cfg s moduleName [⟨cfg.extendedDenom, amt⟩] = .ok t) :
    Pays cfg s t (booked (moduleAddr cfg moduleName) amt) := by
  obtain ⟨other, extended⟩ := Issue.coins_extendedCoin .mint positive success
  have moves := mintExtendedCoin_moves positive other extended
  refine pays_of (mintExtendedCoin_backed healthy.backed positive other apart extended)
    (moves.ledger healthy.ledger) moves.locked healthy (booked_reserve apart amt) ?_ ?_
  · intro account ordinary
    exact mintExtendedCoin_exact positive other extended ordinary
  · intro account _
    have funds := healthy.funds account
    unfold booked
    split <;> omega

theorem burnExtended_pays (healthy : Healthy cfg s) (positive : 0 < amt)
    (apart : moduleAddr cfg moduleName ≠ cfg.reserve)
    (held : amt ≤ getBalance cfg s (moduleAddr cfg moduleName) cfg.extendedDenom)
    (success : burnCoins cfg s moduleName [⟨cfg.extendedDenom, amt⟩] = .ok t) :
    Pays cfg s t (booked (moduleAddr cfg moduleName) (-amt)) := by
  obtain ⟨other, extended⟩ := Issue.coins_extendedCoin .burn positive success
  have moves := burnExtendedCoin_moves other extended
  refine pays_of (burnExtendedCoin_backed healthy.backed other apart extended)
    (moves.ledger healthy.ledger) moves.locked healthy (booked_reserve apart (-amt)) ?_ ?_
  · intro account ordinary
    rw [burnExtendedCoin_exact positive other extended ordinary]
    unfold booked
    split <;> ring
  · intro account _
    have funds := healthy.funds account
    unfold booked
    split
    · rename_i same
      rw [same]
      omega
    · omega

end

end OgEvm.Precisebank
