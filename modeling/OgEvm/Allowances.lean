import OgEvm.Erc20Precompile
import OgEvm.TokenPairRuns

/- What an owner approved for a spender is either still there or was moved by that spender,
after any calls of the precompile by anyone. -/
namespace OgEvm

open ExceptFacts

/-! A send takes from its sender only. -/

section

variable {s t : BankState} {fromAddr toAddr account : AccAddress} {cfg : Config} {amt : ℤ} {denom : Denom}
  {keeper : BankKeeper}

theorem Bank.sendCoins_kept {amt : Coins} (success : sendCoins s fromAddr toAddr amt = .ok t)
    (other : account ≠ fromAddr) (denom : Denom) : s.balances denom account ≤ t.balances denom account := by
  obtain ⟨valid, rfl⟩ := sendCoins_ok success
  have nonneg := Coins.amountOf_nonneg valid denom
  rw [moved_balance s fromAddr toAddr valid, if_neg other]
  split_ifs <;> linarith

/-- A transfer of extended coins does nothing, or is one send of integer coins, or has two
ordinary parties. -/
theorem Precisebank.sendExtendedCoins_cases {fromAddr toAddr : AccAddress}
    (success : sendExtendedCoins cfg s fromAddr toAddr amt = .ok t) :
    t = s ∨ Bank.sendCoins s fromAddr toAddr (integerCoins cfg (amt.tdiv cfg.conversionFactor)) = .ok t ∨
      (fromAddr ≠ cfg.reserve ∧ toAddr ≠ cfg.reserve ∧ fromAddr ≠ toAddr) := by
  by_cases named : fromAddr = cfg.reserve ∨ toAddr = cfg.reserve
  · unfold sendExtendedCoins at success
    rw [if_pos named] at success
    rcases ite_pure_ok success with ⟨-, run⟩ | ⟨-, rfl⟩
    · exact Or.inr (Or.inl (mapError_ok run))
    · exact Or.inl rfl
  · by_cases self : fromAddr = toAddr
    · unfold sendExtendedCoins at success
      rw [if_neg named, if_pos self] at success
      cases success
      exact Or.inl rfl
    · rw [not_or] at named
      exact Or.inr (Or.inr ⟨named.1, named.2, self⟩)

theorem Precisebank.sendExtendedCoins_kept (positive : 0 < amt)
    (success : sendExtendedCoins cfg s fromAddr toAddr amt = .ok t) (other : account ≠ fromAddr) :
    getBalance cfg s account cfg.extendedDenom ≤ getBalance cfg t account cfg.extendedDenom := by
  by_cases reserve : account = cfg.reserve
  · rw [reserve, getBalance_reserve, getBalance_reserve]
  rcases sendExtendedCoins_cases success with rfl | run | ⟨fromApart, toApart, apart⟩
  · exact le_rfl
  · have kept := Bank.sendCoins_kept run other cfg.denom
    obtain ⟨-, rfl⟩ := Bank.sendCoins_ok run
    rw [getBalance_extended reserve, getBalance_extended reserve, (Bank.moved_frame s fromAddr toAddr _).fractional]
    have scaled := mul_le_mul_of_nonneg_right kept cfg.conversionFactor_pos.le
    linarith
  · rw [sendExtendedCoins_exact positive fromApart toApart apart success reserve, booked_ne _ other]
    unfold booked
    split_ifs <;> linarith

theorem Precisebank.getBalance_passthrough {s : BankState} {account : AccAddress}
    (apart : denom ≠ cfg.extendedDenom) : getBalance cfg s account denom = s.balances denom account := by
  simp [getBalance, apart]

/-- A coin of another denomination goes through x/bank. -/
theorem Precisebank.sendCoins_passthrough {fromAddr toAddr : AccAddress} (positive : 0 < amt)
    (apart : denom ≠ cfg.extendedDenom) :
    sendCoins cfg s fromAddr toAddr [⟨denom, amt⟩] = Bank.sendCoins s fromAddr toAddr [⟨denom, amt⟩] := by
  have zero : Coins.amountOf [⟨denom, amt⟩] cfg.extendedDenom = 0 := by
    rw [Coins.amountOf_singleton, if_neg apart]
  have kept : passthrough cfg [⟨denom, amt⟩] = [⟨denom, amt⟩] := by
    unfold passthrough
    rw [zero, if_neg (lt_irrefl 0)]
  refine (if_neg (not_not.mpr (Coins.isValid_singleton _ _ positive))).trans ?_
  change ((if Coins.IsAllPositive (passthrough cfg [⟨denom, amt⟩]) then _ else _) >>= _) = _
  rw [kept, zero, if_pos (by simpa [Coins.IsAllPositive] using positive)]
  exact bind_pure _

theorem BankKeeper.sendCoins_kept (positive : 0 < amt)
    (success : keeper.sendCoins cfg s fromAddr toAddr [⟨denom, amt⟩] = .ok t) (other : account ≠ fromAddr) :
    keeper.getBalance cfg s account denom ≤ keeper.getBalance cfg t account denom := by
  cases keeper with
  | base => exact Bank.sendCoins_kept success other denom
  | precisebank =>
    change Precisebank.getBalance cfg s account denom ≤ Precisebank.getBalance cfg t account denom
    by_cases extended : denom = cfg.extendedDenom
    · subst extended
      exact Precisebank.sendExtendedCoins_kept positive
        ((Precisebank.sendCoins_extendedCoin positive).symm.trans success) other
    · have passed := (Precisebank.sendCoins_passthrough positive extended).symm.trans success
      rw [Precisebank.getBalance_passthrough extended, Precisebank.getBalance_passthrough extended]
      exact Bank.sendCoins_kept passed other denom

/-- A balance that does not fall can be spent as before, unless more of it is locked than is there. -/
theorem BankKeeper.spendable_kept {account : AccAddress} (locked : t.locked = s.locked)
    (within : (s.locked account cfg.denom : ℤ) ≤ s.balances cfg.denom account)
    (kept : keeper.getBalance cfg s account denom ≤ keeper.getBalance cfg t account denom) :
    keeper.spendableCoin cfg s account denom ≤ keeper.spendableCoin cfg t account denom := by
  have monotone : ∀ denom, s.balances denom account ≤ t.balances denom account →
      Bank.spendableCoin s account denom ≤ Bank.spendableCoin t account denom := by
    intro denom more
    unfold Bank.spendableCoin Bank.spendableAmount
    rw [locked]
    exact max_le_max le_rfl (by linarith)
  cases keeper with
  | base => exact monotone denom kept
  | precisebank =>
    change Precisebank.getBalance cfg s account denom ≤ Precisebank.getBalance cfg t account denom at kept
    change Precisebank.spendableCoin cfg s account denom ≤ Precisebank.spendableCoin cfg t account denom
    by_cases extended : denom = cfg.extendedDenom
    · subst extended
      by_cases reserve : account = cfg.reserve
      · simp [Precisebank.spendableCoin, reserve]
      · rw [Precisebank.getBalance_extended reserve, Precisebank.getBalance_extended reserve] at kept
        rw [Precisebank.spendableCoin_extended reserve, Precisebank.spendableCoin_extended reserve]
        unfold Bank.spendableCoin Bank.spendableAmount
        rw [locked, max_eq_right (by linarith)]
        have factor := cfg.conversionFactor_pos
        have clamped : t.balances cfg.denom account - s.locked account cfg.denom ≤
            max 0 (t.balances cfg.denom account - s.locked account cfg.denom) := le_max_right _ _
        nlinarith
    · rw [Precisebank.getBalance_passthrough extended, Precisebank.getBalance_passthrough extended] at kept
      simpa [Precisebank.spendableCoin, extended] using monotone denom kept

theorem BankKeeper.sendCoins_locked {fromAddr toAddr : AccAddress} (positive : 0 < amt)
    (success : keeper.sendCoins cfg s fromAddr toAddr [⟨denom, amt⟩] = .ok t) : t.locked = s.locked := by
  have plain : ∀ {t : BankState} {amt : Coins}, Bank.sendCoins s fromAddr toAddr amt = .ok t →
      t.locked = s.locked := by
    intro t amt success
    obtain ⟨-, rfl⟩ := Bank.sendCoins_ok success
    exact (Bank.moved_frame s fromAddr toAddr amt).locked
  cases keeper with
  | base => exact plain success
  | precisebank =>
    by_cases extended : denom = cfg.extendedDenom
    · subst extended
      have success := (Precisebank.sendCoins_extendedCoin positive).symm.trans success
      rcases Precisebank.sendExtendedCoins_cases success with rfl | run | ⟨fromApart, toApart, apart⟩
      · rfl
      · exact plain run
      · exact (Precisebank.sendExtendedCoins_moves positive fromApart toApart apart success).locked
    · exact plain ((Precisebank.sendCoins_passthrough positive extended).symm.trans success)

end

namespace Erc20

section

variable {σ : Type} {env : KeeperEnv σ} {keeper : BankKeeper} {p : Precompile} {s t : State σ} {kv kv' : KVStore}

/-! The store of allowances. -/

section

variable {erc20 owner spender : Address} {value : ℤ} {allowDisabled : Bool}
  (success : kv.putAllowance env erc20 owner spender (some value) allowDisabled = .ok kv')

include success

/-- What is written is read back, zero being the absence of an entry. -/
theorem KVStore.putAllowance_read (erc20' owner' spender' : Address) : kv'.getAllowance erc20' owner' spender' =
    if erc20' = erc20 ∧ owner' = owner ∧ spender' = spender then value
    else kv.getAllowance erc20' owner' spender' := by
  obtain ⟨-, amount, -, same, -, -, -, -, rfl⟩ := KVStore.putAllowance_ok success
  cases same
  unfold KVStore.getAllowance
  dsimp only
  by_cases hit : erc20' = erc20 ∧ owner' = owner ∧ spender' = spender
  · rw [if_pos hit, hit.1, hit.2.1, hit.2.2, Function.update_self]
    split_ifs with zero
    · rw [zero]
      rfl
    · rfl
  · have apart : allowanceKey erc20' owner' spender' ≠ allowanceKey erc20 owner spender :=
      fun same => hit (allowanceKey_injective same)
    rw [if_neg hit, Function.update_of_ne apart]

theorem KVStore.putAllowance_reads (owner' spender' : Address) : kv'.getAllowance erc20 owner' spender' =
    if owner' = owner ∧ spender' = spender then value else kv.getAllowance erc20 owner' spender' := by
  simpa only [true_and] using KVStore.putAllowance_read success erc20 owner' spender'

end

/-! One call. -/

/-- The allowance after a successful call. -/
def Call.allowanceAfter (owner spender : Address) (call : Call) (before : ℤ) : ℤ :=
  match call.method with
  | .transfer _ _ => before
  | .transferFrom sender _ amount => if owner = sender ∧ spender = call.caller then before - amount.toNat else before
  | .approve approved amount => if owner = call.caller ∧ spender = approved then amount.toNat else before

/-- The account a call takes coins from. -/
def Call.payer (call : Call) : Option Address :=
  match call.method with
  | .transfer _ _ => some call.caller
  | .transferFrom sender _ _ => some sender
  | .approve _ _ => none

/-- Whose approval a call needs, for how much. -/
def Call.Covered (p : Precompile) (s : State σ) (call : Call) : Prop :=
  ∀ sender receiver amount, call.method = .transferFrom sender receiver amount →
    (amount.toNat : ℤ) ≤ p.allowance s sender call.caller

theorem Precompile.spendAllowance_ok {caller sender : Address} {amount left : ℤ}
    (success : p.spendAllowance env caller sender amount s = .ok (t, left)) :
    amount ≤ p.allowance s sender caller ∧ t = { s with kv := t.kv } ∧
      ∀ owner spender, p.allowance t owner spender =
        if owner = sender ∧ spender = caller then p.allowance s owner spender - amount
        else p.allowance s owner spender := by
  unfold Precompile.spendAllowance at success
  dsimp only at success
  obtain ⟨enough, success⟩ := ite_error_ok success
  obtain ⟨kv, written, done⟩ := bind_ok success
  cases done
  have covered : amount ≤ p.allowance s sender caller := by
    unfold Precompile.allowance
    omega
  refine ⟨covered, rfl, ?_⟩
  have put : s.kv.putAllowance env p.address sender caller
      (some (s.kv.getAllowance p.address sender caller - amount)) false = .ok kv := by
    have written := mapError_ok written
    split at written
    · rename_i zero
      rw [zero]
      exact written
    · exact written
  intro owner spender
  unfold Precompile.allowance
  dsimp only
  rw [KVStore.putAllowance_reads put]
  split_ifs with hit
  · rw [hit.1, hit.2]
  · rfl

theorem msgServerSend_ok {msg : MsgSend} {bank : BankState} (success : msgServerSend env keeper s msg = .ok bank) :
    keeper.sendCoins env.vm.bank s.bank msg.fromAddress msg.toAddress msg.amount = .ok bank := by
  have success := mapError_ok success
  unfold send at success
  obtain ⟨-, success⟩ := ite_error_ok success
  obtain ⟨-, success⟩ := ite_error_ok success
  split at success
  · cases success
  · obtain ⟨-, success⟩ := ite_error_ok success
    exact success

theorem Coin.validate_ok {coin : Coin} (success : Coin.validate coin = .ok ()) : 0 < coin.amount := by
  unfold Coin.validate at success
  split at success
  · cases success
  · split_ifs at success with amount
    exact not_le.mp amount

/-- What a successful call did: the allowances it changed, and that only its payer has less. -/
structure Effect (env : KeeperEnv σ) (keeper : BankKeeper) (p : Precompile) (call : Call) (s t : State σ) : Prop where
  allowance : ∀ owner spender,
    p.allowance t owner spender = call.allowanceAfter owner spender (p.allowance s owner spender)
  covered : call.Covered p s
  kept : ∀ account, (∀ payer ∈ call.payer, account ≠ payer.toList) →
    keeper.getBalance env.vm.bank s.bank account p.tokenPair.denom ≤
      keeper.getBalance env.vm.bank t.bank account p.tokenPair.denom
  locked : t.bank.locked = s.bank.locked

section

variable {amount : ℤ} {events : List TokenEvent} {owner spender : Address} {call : Call}

theorem Precompile.transfer_ok {isTransferFrom : Bool} {caller sender receiver : Address}
    (success : p.transfer env keeper isTransferFrom caller sender receiver amount s = .ok (t, events)) :
    0 < amount ∧ ∃ spent left,
      (if isTransferFrom then p.spendAllowance env caller sender amount s else pure (s, 0)) = .ok (spent, left) ∧
      keeper.sendCoins env.vm.bank spent.bank sender.toList receiver.toList [⟨p.tokenPair.denom, amount⟩] =
        .ok t.bank ∧ t.kv = spent.kv := by
  unfold Precompile.transfer at success
  obtain ⟨⟨⟩, valid, success⟩ := bind_ok success
  obtain ⟨⟨spent, left⟩, spending, success⟩ := bind_ok success
  obtain ⟨bank, sending, done⟩ := bind_ok success
  cases done
  exact ⟨Coin.validate_ok (mapError_ok valid), spent, left, spending, msgServerSend_ok (mapError_ok sending), rfl⟩

theorem Precompile.setAllowance_ok (success : p.setAllowance env owner spender amount s = .ok kv) :
    s.kv.putAllowance env p.address owner spender (some amount) false = .ok kv := by
  unfold Precompile.setAllowance at success
  obtain ⟨-, success⟩ := ite_error_ok success
  exact mapError_ok success

/-- An approval of nothing where nothing was approved writes nothing, which reads the same. -/
theorem Precompile.approve_ok (unsigned : 0 ≤ amount) (nonneg : 0 ≤ p.allowance s owner spender)
    (success : p.approve env owner spender amount s = .ok (t, events)) :
    t.bank = s.bank ∧ ∀ owner' spender', p.allowance t owner' spender' =
      if owner' = owner ∧ spender' = spender then amount else p.allowance s owner' spender' := by
  unfold Precompile.approve at success
  obtain ⟨kv, written, done⟩ := bind_ok success
  cases done
  refine ⟨rfl, ?_⟩
  intro owner' spender'
  unfold Precompile.allowance at nonneg ⊢
  dsimp only
  obtain ⟨-, written⟩ := ite_error_ok written
  split at written
  · exact KVStore.putAllowance_reads (Precompile.setAllowance_ok written) owner' spender'
  · split at written
    · rename_i revoked
      have zero : amount = 0 := le_antisymm revoked.2 unsigned
      rw [zero]
      exact KVStore.putAllowance_reads (mapError_ok written) owner' spender'
    · split at written
      · exact KVStore.putAllowance_reads (Precompile.setAllowance_ok written) owner' spender'
      · cases written
        split_ifs with hit
        · rw [hit.1, hit.2]
          omega
        · rfl

theorem Precompile.handleMethod_effect (nonneg : ∀ owner spender, 0 ≤ p.allowance s owner spender)
    (success : p.handleMethod env keeper call s = .ok (t, events)) : Effect env keeper p call s t := by
  obtain ⟨caller, method⟩ := call
  cases method with
  | transfer receiver amount =>
    obtain ⟨positive, spent, left, spending, sent, sameKv⟩ := Precompile.transfer_ok success
    rw [if_neg (by simp)] at spending
    cases spending
    refine ⟨?_, ?_, ?_, BankKeeper.sendCoins_locked positive sent⟩
    · intro owner spender
      unfold Precompile.allowance
      rw [sameKv]
      rfl
    · intro sender receiver amount named
      cases named
    · intro account other
      exact BankKeeper.sendCoins_kept positive sent (other caller rfl)
  | transferFrom sender receiver amount =>
    obtain ⟨positive, spent, left, spending, sent, sameKv⟩ := Precompile.transfer_ok success
    rw [if_pos rfl] at spending
    obtain ⟨covered, frame, reads⟩ := Precompile.spendAllowance_ok spending
    rw [frame] at sent
    refine ⟨?_, ?_, ?_, BankKeeper.sendCoins_locked positive sent⟩
    · intro owner spender
      have same : p.allowance t owner spender = p.allowance spent owner spender := by
        unfold Precompile.allowance
        rw [sameKv]
      rw [same, reads]
      rfl
    · intro payer receiver amount named
      cases named
      exact covered
    · intro account other
      exact BankKeeper.sendCoins_kept positive sent (other sender rfl)
  | approve spender amount =>
    obtain ⟨sameBank, reads⟩ := Precompile.approve_ok (Int.natCast_nonneg _) (nonneg caller spender) success
    refine ⟨reads, ?_, ?_, ?_⟩
    · intro sender receiver amount named
      cases named
    · intro account other
      rw [sameBank]
    · rw [sameBank]

theorem Effect.nonneg (effect : Effect env keeper p call s t)
    (nonneg : ∀ owner spender, 0 ≤ p.allowance s owner spender) (owner spender : Address) :
    0 ≤ p.allowance t owner spender := by
  have before := nonneg owner spender
  rw [effect.allowance]
  unfold Call.allowanceAfter
  split
  · exact before
  · rename_i sender receiver amount named
    split_ifs with hit
    · have covered := effect.covered sender receiver amount named
      rw [← hit.1, ← hit.2] at covered
      omega
    · exact before
  · split_ifs
    · exact Int.natCast_nonneg _
    · exact before

/-- Only an approval of the owner raises an allowance. -/
theorem Effect.raised (effect : Effect env keeper p call s t)
    (raised : p.allowance s owner spender < p.allowance t owner spender) :
    call.caller = owner ∧ ∃ amount, call.method = .approve spender amount := by
  rw [effect.allowance] at raised
  unfold Call.allowanceAfter at raised
  split at raised
  · exact absurd raised (lt_irrefl _)
  · split_ifs at raised
    · omega
    · exact absurd raised (lt_irrefl _)
  · rename_i approved amount named
    split_ifs at raised with hit
    · rw [hit.1, hit.2]
      exact ⟨rfl, amount, named⟩
    · exact absurd raised (lt_irrefl _)

end

/-- A call by the account itself, or one its allowance covers. -/
def Call.Entitled (p : Precompile) (s : State σ) (account : AccAddress) (call : Call) : Prop :=
  (call.caller.toList = account ∧ ∃ receiver amount, call.method = .transfer receiver amount) ∨
    ∃ sender receiver amount, call.method = .transferFrom sender receiver amount ∧ sender.toList = account ∧
      (amount.toNat : ℤ) ≤ p.allowance s sender call.caller

theorem Effect.entitled {call : Call} {account : AccAddress} (effect : Effect env keeper p call s t)
    (less : keeper.getBalance env.vm.bank t.bank account p.tokenPair.denom <
      keeper.getBalance env.vm.bank s.bank account p.tokenPair.denom) : call.Entitled p s account := by
  have paid : ¬ ∀ payer ∈ call.payer, account ≠ payer.toList :=
    fun other => absurd less (not_lt.mpr (effect.kept account other))
  push Not at paid
  obtain ⟨payer, pays, rfl⟩ := paid
  unfold Call.payer at pays
  split at pays
  · rename_i receiver amount named
    cases pays
    exact Or.inl ⟨rfl, receiver, amount, named⟩
  · rename_i sender receiver amount named
    cases pays
    exact Or.inr ⟨payer, receiver, amount, named, rfl, effect.covered payer receiver amount named⟩
  · cases pays

/-! Runs. -/

/-- What an owner last approved for a spender, and what the spender has moved out since. -/
structure Grant where
  approved : ℤ
  moved : ℤ

def Grant.book (owner spender : Address) (grant : Grant) (call : Call) : Grant :=
  match call.method with
  | .transfer _ _ => grant
  | .transferFrom sender _ amount =>
    if owner = sender ∧ spender = call.caller then { grant with moved := grant.moved + amount.toNat } else grant
  | .approve approved amount => if owner = call.caller ∧ spender = approved then ⟨amount.toNat, 0⟩ else grant

/-- The grant after the calls that succeeded, in their order. -/
def grantAfter (owner spender : Address) (succeeded : List Call) : Grant :=
  succeeded.foldl (Grant.book owner spender) ⟨0, 0⟩

/-- One more call; one that fails is rolled back. -/
def Precompile.step (env : KeeperEnv σ) (keeper : BankKeeper) (p : Precompile) (run : State σ × List Call)
    (call : Call) : State σ × List Call :=
  match p.handleMethod env keeper call run.1 with
  | .ok (t, _) => (t, run.2 ++ [call])
  | .error _ => run

/-- The state after some calls, and those of them that succeeded. -/
def Precompile.runCalls (env : KeeperEnv σ) (keeper : BankKeeper) (p : Precompile) (start : State σ)
    (calls : List Call) : State σ × List Call :=
  calls.foldl (p.step env keeper) (start, [])

/-- A call changes the allowance as the grant is booked. -/
theorem Grant.book_settled {owner spender : Address} {grant : Grant} {before : ℤ} (call : Call)
    (settled : grant.moved + before = grant.approved) :
    (grant.book owner spender call).moved + call.allowanceAfter owner spender before =
      (grant.book owner spender call).approved := by
  unfold Grant.book Call.allowanceAfter
  split
  · exact settled
  · split_ifs
    · dsimp only
      omega
    · exact settled
  · split_ifs
    · exact zero_add _
    · exact settled

/-- What every state of a run satisfies. -/
structure Accounted (p : Precompile) (run : State σ × List Call) : Prop where
  nonneg : ∀ owner spender, 0 ≤ p.allowance run.1 owner spender
  settled : ∀ owner spender, (grantAfter owner spender run.2).moved + p.allowance run.1 owner spender =
    (grantAfter owner spender run.2).approved

theorem Accounted.step {run : State σ × List Call} (accounted : Accounted p run) (call : Call) :
    Accounted p (p.step env keeper run call) := by
  unfold Precompile.step
  split
  · rename_i t events success
    have effect := Precompile.handleMethod_effect accounted.nonneg success
    refine ⟨effect.nonneg accounted.nonneg, ?_⟩
    intro owner spender
    unfold grantAfter
    rw [List.foldl_concat, effect.allowance]
    exact Grant.book_settled call (accounted.settled owner spender)
  · exact accounted

theorem runCalls_accounted {start : State σ} (unset : ∀ owner spender, p.allowance start owner spender = 0)
    (calls : List Call) : Accounted p (p.runCalls env keeper start calls) := by
  have begun : Accounted p (start, []) := by
    refine ⟨fun owner spender => (unset owner spender).ge, ?_⟩
    intro owner spender
    exact (zero_add _).trans (unset owner spender)
  unfold Precompile.runCalls
  generalize (start, []) = run at begun
  induction calls generalizing run with
  | nil => exact begun
  | cons call rest ih => exact ih (p.step env keeper run call) (begun.step call)

/-- A call from a state of a run has an effect, or is rolled back. -/
theorem Accounted.apply {run : State σ × List Call} (accounted : Accounted p run) (call : Call) :
    Effect env keeper p call run.1 (p.apply env keeper run.1 call) ∨ p.apply env keeper run.1 call = run.1 := by
  unfold Precompile.apply
  split
  · rename_i t events success
    exact Or.inl (Precompile.handleMethod_effect accounted.nonneg success)
  · exact Or.inr rfl

/-- Allowances over every run of calls by anyone: what an owner approved last is what the
spender has moved since and what is left; only the owner's approval raises an allowance; and
an account has less only by its own transfer or one that its allowance covers. -/
theorem allowances_accounted (env : KeeperEnv σ) (keeper : BankKeeper) (p : Precompile) (start : State σ)
    (unset : ∀ owner spender, p.allowance start owner spender = 0) (calls : List Call) (s : State σ)
    (succeeded : List Call) (ran : p.runCalls env keeper start calls = (s, succeeded)) :
    (∀ owner spender, (grantAfter owner spender succeeded).moved + p.allowance s owner spender =
      (grantAfter owner spender succeeded).approved) ∧
    ∀ call,
      (∀ owner spender,
        p.allowance s owner spender < p.allowance (p.apply env keeper s call) owner spender →
          call.caller = owner ∧ ∃ amount, call.method = .approve spender amount) ∧
      (∀ account,
        keeper.getBalance env.vm.bank (p.apply env keeper s call).bank account p.tokenPair.denom <
          keeper.getBalance env.vm.bank s.bank account p.tokenPair.denom → call.Entitled p s account) ∧
      ∀ account, (s.bank.locked account env.vm.bank.denom : ℤ) ≤ s.bank.balances env.vm.bank.denom account →
        p.balanceOf env keeper (p.apply env keeper s call) account < p.balanceOf env keeper s account →
          call.Entitled p s account := by
  have accounted : Accounted p (s, succeeded) := by
    rw [← ran]
    exact runCalls_accounted unset calls
  refine ⟨accounted.settled, ?_⟩
  intro call
  have applied : Effect env keeper p call s (p.apply env keeper s call) ∨ p.apply env keeper s call = s :=
    accounted.apply call
  rcases applied with effect | same
  · refine ⟨fun owner spender raised => effect.raised raised, fun account less => effect.entitled less, ?_⟩
    intro account within less
    refine effect.entitled (not_le.mp fun kept => ?_)
    exact absurd less (not_lt.mpr (BankKeeper.spendable_kept effect.locked within kept))
  · rw [same]
    exact ⟨fun owner spender raised => absurd raised (lt_irrefl _),
      fun account less => absurd less (lt_irrefl _), fun account within less => absurd less (lt_irrefl _)⟩

end

/-! A run: five coins are approved, two of them are moved, and a third party gets none. -/

def atomPair : TokenPair := ⟨"0x0000000000000000000000000000000000000099", "uatom", true, .module⟩

def atomPrecompile : Precompile := ⟨atomPair⟩

def tokenHolder : Address := bytesToAddress [3]

def tokenSpender : Address := bytesToAddress [4]

def atomStart : State Unit :=
  { registryStart with
    kv := { KVStore.empty with
      tokenPairs := fun id => if id = [1] then some atomPair else none
      erc20Map := fun erc20 => if erc20 = atomPair.getERC20Contract then some [1] else none }
    bank := Bank.addBalance Precisebank.emptyBank tokenHolder.toList "uatom" 10 }

def atomCalls : List Call :=
  [⟨tokenHolder, .approve tokenSpender 5⟩, ⟨tokenSpender, .transferFrom tokenHolder tokenSpender 2⟩,
    ⟨bytesToAddress [5], .transferFrom tokenHolder (bytesToAddress [5]) 1⟩]

def atomRun : State Unit × List Call :=
  atomPrecompile.runCalls registryEnv .precisebank atomStart atomCalls

theorem allowances_accounted_atomRun :
    atomRun.2 = atomCalls.take 2 ∧ atomPrecompile.allowance atomRun.1 tokenHolder tokenSpender = 3 ∧
      (grantAfter tokenHolder tokenSpender atomRun.2).moved + 3 =
        (grantAfter tokenHolder tokenSpender atomRun.2).approved := by
  have left : atomPrecompile.allowance atomRun.1 tokenHolder tokenSpender = 3 := by decide +kernel
  refine ⟨by decide +kernel, left, ?_⟩
  have settled := (allowances_accounted registryEnv .precisebank atomPrecompile atomStart (fun _ _ => rfl) atomCalls
    atomRun.1 atomRun.2 rfl).1 tokenHolder tokenSpender
  rw [left] at settled
  exact settled

end Erc20

end OgEvm
