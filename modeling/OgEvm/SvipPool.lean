import OgEvm.SvipEffects

/- The pool of the SVIP module over whole runs: what it paid since the latest activation,
what came in, and what is left. -/
namespace OgEvm.Svip

open ExceptFacts Bank Store

/-! The transfers of a run. -/

/-- What a deposit adds to the pool; the module account cannot add to itself. -/
def deposit (env : SvipEnv) (depositor : String) (amount : Coins) : ℤ :=
  if env.accAddressFromBech32 depositor = some env.pool then 0 else Coins.amountOf amount env.cfg.denom

/-- The transfers since the latest activation of a run. -/
structure Ledger where
  opened : Bool
  rewards : ℤ
  deposits : ℤ

def blankLedger : Ledger := ⟨false, 0, 0⟩

/-- Rewards are read off the balance of the fee collector. -/
def Ledger.record (env : SvipEnv) (_now : ℤ) (step : Step) (s t : Store) (ledger : Ledger) : Ledger :=
  match step with
  | .activate _ => ⟨true, 0, 0⟩
  | .reactivate _ => ⟨true, 0, 0⟩
  | .fundPool depositor amount => { ledger with deposits := ledger.deposits + deposit env depositor amount }
  | .beginBlock =>
    { ledger with
      rewards := ledger.rewards + (t.bank.balances env.cfg.denom env.feeCollector -
        s.bank.balances env.cfg.denom env.feeCollector) }
  | .updateParams _ _ => ledger
  | .pause _ _ => ledger

/-- The pool's books: before the first activation of the run nothing may be on them. -/
structure Accounted (env : SvipEnv) (s : Store) (ledger : Ledger) : Prop where
  nonneg : 0 ≤ s.poolBalance env
  unlocked : s.bank.locked env.pool env.cfg.denom = 0
  running : ledger.opened = true → s.activated = true
  clean : ledger.opened = false → s.activated = false → s.totalDistributed = 0
  distributed : ledger.opened = true → s.totalDistributed = ledger.rewards
  pool : ledger.opened = true →
    s.poolBalance env = s.poolBalanceAtActivation + ledger.deposits - s.totalDistributed

section

variable {env : SvipEnv} {now : ℤ} {s t : Store} {ledger : Ledger}

theorem amountOf_reward (env : SvipEnv) (reward : ℤ) :
    Coins.amountOf [⟨env.cfg.denom, reward⟩] env.cfg.denom = reward := by
  simp [Coins.amountOf_singleton]

/-- Only the pool and the fee collector see a reward. -/
theorem reward_balances (bank : BankState) {reward : ℤ} (positive : 0 < reward) :
    (moved bank env.pool env.feeCollector [⟨env.cfg.denom, reward⟩]).balances env.cfg.denom env.pool =
        bank.balances env.cfg.denom env.pool - reward ∧
      (moved bank env.pool env.feeCollector [⟨env.cfg.denom, reward⟩]).balances env.cfg.denom
          env.feeCollector = bank.balances env.cfg.denom env.feeCollector + reward := by
  have valid := Coins.isValid_singleton env.cfg.denom reward positive
  have distinct := env.pool_ne_feeCollector
  constructor
  · rw [moved_balance _ _ _ valid, amountOf_reward, if_pos rfl, if_neg distinct, add_zero]
  · rw [moved_balance _ _ _ valid, amountOf_reward, if_neg distinct.symm, if_pos rfl, sub_zero]

theorem deposit_balance {depositor : String} {sender : AccAddress} {amount : Coins}
    (known : env.accAddressFromBech32 depositor = some sender) (valid : Coins.IsValid amount)
    (bank : BankState) : (moved bank sender env.pool amount).balances env.cfg.denom env.pool =
      bank.balances env.cfg.denom env.pool + deposit env depositor amount := by
  unfold deposit
  rw [moved_balance _ _ _ valid, if_pos rfl, known]
  by_cases own : env.pool = sender
  · rw [if_pos own, if_pos (congrArg some own.symm)]
    omega
  · rw [if_neg own, if_neg fun same => own (Option.some.inj same).symm]
    omega

theorem deposit_nonneg {depositor : String} {amount : Coins} (valid : Coins.IsValid amount) :
    0 ≤ deposit env depositor amount := by
  unfold deposit
  split
  · exact le_refl 0
  · exact Coins.amountOf_nonneg valid _

/-- Step: what a step does to the pool it also does to the books. -/
theorem Accounted.effect {step : Step} (books : Accounted env s ledger) (effect : Effect env now s step t) :
    Accounted env t (ledger.record env now step s t) := by
  obtain ⟨nonneg, unlocked, running, clean, distributed, pool⟩ := books
  have unpaid : ∀ collected : ℤ, ledger.opened = true →
      s.totalDistributed = ledger.rewards + (collected - collected) := by
    simpa using distributed
  cases effect with
  | paramsSet authority halfLifeSeconds _ result =>
    subst result
    exact ⟨nonneg, unlocked, running, clean, distributed, pool⟩
  | activated authority _ off result =>
    subst result
    -- the total is not reset here: whatever an earlier curve left would stay on the books
    have total : s.totalDistributed = 0 := by
      cases opened : ledger.opened with
      | false => exact clean opened off
      | true => cases off.symm.trans (running opened)
    refine ⟨nonneg, unlocked, fun _ => rfl, nofun, fun _ => total, fun _ => ?_⟩
    change s.poolBalance env = s.poolBalance env + 0 - s.totalDistributed
    omega
  | reactivated authority _ on result =>
    subst result
    refine ⟨nonneg, unlocked, fun _ => on, nofun, fun _ => rfl, fun _ => ?_⟩
    change s.poolBalance env = s.poolBalance env + 0 - 0
    omega
  | unpaused authority _ on was result =>
    subst result
    exact ⟨nonneg, unlocked, running, clean, distributed, pool⟩
  | flagged authority paused _ on quiet result =>
    subst result
    exact ⟨nonneg, unlocked, running, clean, distributed, pool⟩
  | funded depositor sender amount _ known valid result =>
    subst result
    have balance : poolBalance env { s with bank := moved s.bank sender env.pool amount } =
        s.poolBalance env + deposit env depositor amount := deposit_balance known valid s.bank
    have locked := (moved_frame s.bank sender env.pool amount).locked
    have added : 0 ≤ deposit env depositor amount := deposit_nonneg valid
    refine ⟨?_, ?_, running, clean, distributed, ?_⟩
    · rw [balance]
      omega
    · rw [locked]
      exact unlocked
    · intro opened
      have pool := pool opened
      rw [balance]
      change _ = s.poolBalanceAtActivation + (ledger.deposits + deposit env depositor amount) - s.totalDistributed
      omega
  | skipped exit =>
    exact ⟨nonneg, unlocked, running, clean, unpaid _, pool⟩
  | marked _ ticks result =>
    subst result
    exact ⟨nonneg, unlocked, running, clean, unpaid _, pool⟩
  | paid reward _ ticks positive covered result =>
    obtain ⟨left, received⟩ := reward_balances s.bank positive
    have balance : t.poolBalance env = s.poolBalance env - reward := by
      rw [result]
      exact left
    have collected : t.bank.balances env.cfg.denom env.feeCollector =
        s.bank.balances env.cfg.denom env.feeCollector + reward := by
      rw [result]
      exact received
    have locked : t.bank.locked = s.bank.locked := by
      rw [result]
      exact (moved_frame s.bank env.pool env.feeCollector _).locked
    have total : t.totalDistributed = s.totalDistributed + reward := by rw [result]
    have snapshot : t.poolBalanceAtActivation = s.poolBalanceAtActivation := by rw [result]
    have on : t.activated = true := by
      rw [result]
      exact ticks.activated
    refine ⟨?_, ?_, fun _ => on, ?_, ?_, ?_⟩
    · omega
    · rw [locked]
      exact unlocked
    · intro _ off
      cases off.symm.trans on
    · intro opened
      have before := distributed opened
      change t.totalDistributed = ledger.rewards + (_ - _)
      omega
    · intro opened
      have before := pool opened
      change t.poolBalance env = t.poolBalanceAtActivation + ledger.deposits - t.totalDistributed
      omega

/-- Run: the books of a run that starts clean are right. -/
theorem Run.accounted {start : Store} (run : Run env (Ledger.record env) start blankLedger s ledger now)
    (initial : Accounted env start blankLedger) : Accounted env s ledger := by
  induction run with
  | started now => exact initial
  | done before time later step success ih => exact ih.effect (exec_effect success)
  | failed before time later step error failure ih => exact ih
  | elsewhere before bank balance locked ih =>
    obtain ⟨nonneg, unlocked, running, clean, distributed, pool⟩ := ih
    unfold poolBalance at nonneg pool
    rw [← balance] at nonneg pool
    rw [← locked] at unlocked
    exact ⟨nonneg, unlocked, running, clean, distributed, pool⟩

/-- With the pool's own coins a block's transfer goes through. -/
theorem Accounted.beginBlock_covered (books : Accounted env s ledger) (time : ℤ) (fault : Fault) :
    s.beginBlock env time ≠ .error (.bank fault) := by
  have avoids : Avoids (fun error => ∃ fault, error = SvipError.bank fault) (s.beginBlock env time) := by
    unfold beginBlock
    refine Avoids.ite (fun _ => Avoids.ok _) fun _ => ?_
    refine Avoids.ite (fun _ => Avoids.ok _) fun _ => ?_
    refine Avoids.ite (fun _ => Avoids.ok _) fun positive => ?_
    refine Avoids.ite (fun _ => Avoids.ok _) fun nonzero => ?_
    generalize capped : ite (s.poolBalance env < _) _ _ = reward at nonzero ⊢
    have covered : reward ≤ s.poolBalance env := by
      rw [← capped]
      split
      · exact le_refl _
      · rename_i enough
        exact not_lt.mp enough
    have spendable : reward ≤ spendableAmount s.bank env.pool env.cfg.denom := by
      unfold spendableAmount
      rw [books.unlocked]
      exact covered.trans (le_of_eq (sub_zero _).symm)
    unfold payReward newCoins
    refine Avoids.bind (Avoids.ite (fun _ => Avoids.error (by simp)) fun _ => Avoids.ok _) ?_
    intro coins made
    have positive : 0 < reward := by
      by_contra negative
      rw [if_pos (by omega)] at made
      cases made
    rw [if_neg (by omega)] at made
    cases made
    have sent : sendCoinsFromModuleToModule env.cfg s.bank moduleName feeCollectorName
        [⟨env.cfg.denom, reward⟩] = .ok (moved s.bank env.pool env.feeCollector [⟨env.cfg.denom, reward⟩]) := by
      unfold sendCoinsFromModuleToModule
      rw [env.pool_registered, env.feeCollector_registered]
      exact sendCoins_enough positive spendable
    rw [sent]
    refine Avoids.bind (Avoids.ok _) fun bank _ => ?_
    unfold addInt
    exact Avoids.bind (Avoids.ite (fun _ => Avoids.error (by simp)) fun _ => Avoids.ok _) fun _ _ => Avoids.ok _
  intro failure
  exact avoids _ failure ⟨fault, rfl⟩

/-- What the books of a run promise of a state. -/
structure PoolExact (env : SvipEnv) (s : Store) (ledger : Ledger) : Prop where
  distributed : ledger.opened = true → s.totalDistributed = ledger.rewards
  pool : ledger.opened = true →
    s.poolBalance env = s.poolBalanceAtActivation + ledger.deposits - s.totalDistributed
  nonneg : 0 ≤ s.poolBalance env
  transfers : ∀ time fault, s.beginBlock env time ≠ .error (.bank fault)

theorem initGenesis_accounted {data : GenesisState} {bank : BankState}
    (fresh : data.activated = true ∨ data.totalDistributed = 0)
    (nonneg : 0 ≤ bank.balances env.cfg.denom env.pool) (unlocked : bank.locked env.pool env.cfg.denom = 0) :
    Accounted env (initGenesis data bank) blankLedger := by
  refine ⟨nonneg, unlocked, nofun, ?_, nofun, nofun⟩
  intro _ off
  rcases fresh with on | none_distributed
  · cases off.symm.trans on
  · change (if 0 < data.totalDistributed then data.totalDistributed else 0) = 0
    rw [none_distributed]
    rfl

/-- A bank whose only coin is in the pool. -/
def pooledBank (env : SvipEnv) : BankState where
  balances _ := DFinsupp.single env.pool 1
  supply _ := 1
  locked _ _ := 0
  fractionalBalances := 0
  remainder := 0
  events := []

theorem pooledBank_balance (env : SvipEnv) : (pooledBank env).balances env.cfg.denom env.pool = 1 :=
  DFinsupp.single_eq_same

/-- An activation carries the total along. -/
theorem activate_keeps_total (off : s.activated = false) (configured : 0 < s.halfLifeSeconds)
    (funded : s.poolBalance env ≠ 0) :
    ∃ t, s.activate env now env.authority = .ok t ∧ t.totalDistributed = s.totalDistributed := by
  have on : ¬ s.activated = true := by
    rw [off]
    nofun
  unfold activate requireAuthority
  rw [if_neg (not_not.mpr rfl), bind_of_ok rfl, if_neg on, if_neg (not_le.mpr configured), if_neg funded]
  exact ⟨_, rfl, rfl⟩

theorem updateParams_configures (off : s.activated = false) :
    ∃ t, s.updateParams env env.authority 31536000 = .ok t ∧ t.activated = false ∧
      0 < t.halfLifeSeconds ∧ t.poolBalance env = s.poolBalance env ∧ t.totalDistributed = s.totalDistributed := by
  refine ⟨{ s with halfLifeSeconds := 31536000 }, ?_, off, by norm_num, rfl, rfl⟩
  simp [updateParams, requireAuthority, off, bind, Except.bind, pure, Except.pure]

/-- Any genesis that is off can be configured and activated. -/
theorem activated_run (env : SvipEnv) {data : GenesisState} (off : data.activated = false) :
    ∃ s, Run env (Ledger.record env) (initGenesis data (pooledBank env)) blankLedger s ⟨true, 0, 0⟩ 0 ∧
      s.totalDistributed = (initGenesis data (pooledBank env)).totalDistributed := by
  have start : Run env (Ledger.record env) (initGenesis data (pooledBank env)) blankLedger _ _ 0 := .started 0
  have off : (initGenesis data (pooledBank env)).activated = false := off
  obtain ⟨t, configured, off, positive, balance, kept⟩ := updateParams_configures off
  have funded : t.poolBalance env ≠ 0 := by
    rw [balance]
    change (pooledBank env).balances env.cfg.denom env.pool ≠ 0
    rw [pooledBank_balance]
    decide
  obtain ⟨u, switched, total⟩ := activate_keeps_total off positive funded
  have run := (start.done 0 (le_refl _) (.updateParams env.authority 31536000) configured).done 0 (le_refl _)
    (.activate env.authority) switched
  exact ⟨u, run, total.trans kept⟩

/-- The books are right in every state of every run from a valid genesis, whatever the
bank held, exactly when it carries no distributions of a curve that is off: an
activation keeps them although it starts a new one. -/
theorem pool_exact_iff {data : GenesisState} (valid : data.validate = .ok ()) :
    (∀ bank s ledger now, 0 ≤ bank.balances env.cfg.denom env.pool →
        bank.locked env.pool env.cfg.denom = 0 →
        Run env (Ledger.record env) (initGenesis data bank) blankLedger s ledger now →
        PoolExact env s ledger) ↔
      data.activated = true ∨ data.totalDistributed = 0 := by
  constructor
  · intro always
    by_contra stale
    rw [not_or] at stale
    obtain ⟨off, distributed⟩ := stale
    have nonneg : 0 ≤ data.totalDistributed := by
      by_contra negative
      unfold GenesisState.validate at valid
      split at valid
      · cases valid
      rw [if_pos (not_le.mp negative)] at valid
      cases valid
    obtain ⟨s, run, total⟩ := activated_run env (Bool.eq_false_of_not_eq_true off)
    have balance : (0 : ℤ) ≤ (pooledBank env).balances env.cfg.denom env.pool := by
      rw [pooledBank_balance]
      decide
    have books := (always _ s _ 0 balance rfl run).distributed rfl
    rw [total] at books
    change (if 0 < data.totalDistributed then data.totalDistributed else 0) = 0 at books
    rw [if_pos (by omega)] at books
    exact distributed books
  · intro fresh bank s ledger now nonneg unlocked run
    have books := run.accounted (initGenesis_accounted fresh nonneg unlocked)
    exact ⟨books.distributed, books.pool, books.nonneg, books.beginBlock_covered⟩

end

/-! A genesis with a total left on it. -/

def poolConfig : Config where
  denom := "ogwei"
  extendedDenom := "ogwei"
  decimals := 18
  decimals_valid := by decide
  same_denom _ := rfl
  moduleAddress name :=
    if name = moduleName then some [1] else if name = feeCollectorName then some [2] else some [3]
  hasPermission _ _ := true
  blockedAddr _ := true
  reserve := [3]
  reserve_registered := by decide

def poolEnv : SvipEnv where
  cfg := poolConfig
  authority := "gov"
  accAddressFromBech32 _ := none
  calculateBlockReward _ pool _ _ := pool
  pool := [1]
  feeCollector := [2]
  pool_registered := by decide
  feeCollector_registered := by decide
  pool_ne_feeCollector := by decide

def staleGenesis : GenesisState := { defaultGenesisState with totalDistributed := 5 }

/-- The default genesis is configured and activated, and its first block pays the pool out. -/
def paidRun : Store × Ledger :=
  advance poolEnv (Ledger.record poolEnv) second .beginBlock
    (advance poolEnv (Ledger.record poolEnv) 0 (.activate "gov")
      (advance poolEnv (Ledger.record poolEnv) 0 (.updateParams "gov" 31536000)
        (initGenesis defaultGenesisState (pooledBank poolEnv), blankLedger)))

theorem pool_exact_iff_paidRun : PoolExact poolEnv paidRun.1 paidRun.2 ∧ paidRun.2.rewards = 1 := by
  have start : Run poolEnv (Ledger.record poolEnv) (initGenesis defaultGenesisState (pooledBank poolEnv))
      blankLedger (initGenesis defaultGenesisState (pooledBank poolEnv), blankLedger).1
      (initGenesis defaultGenesisState (pooledBank poolEnv), blankLedger).2 0 := .started 0
  have run := ((start.advance (le_refl _) (.updateParams "gov" 31536000)).advance (le_refl _)
    (.activate "gov")).advance (by decide : 0 ≤ second) .beginBlock
  have nonneg : (0 : ℤ) ≤ (pooledBank poolEnv).balances poolEnv.cfg.denom poolEnv.pool := by
    rw [pooledBank_balance]
    decide
  refine ⟨(pool_exact_iff (by decide)).mpr (Or.inr rfl) _ _ _ second nonneg rfl run, ?_⟩
  decide +kernel

theorem staleGenesis_not_exact :
    staleGenesis.validate = .ok () ∧
      ∃ s, Run poolEnv (Ledger.record poolEnv) (initGenesis staleGenesis (pooledBank poolEnv)) blankLedger s
          ⟨true, 0, 0⟩ 0 ∧
        s.totalDistributed = 5 := by
  refine ⟨by decide, ?_⟩
  obtain ⟨s, run, total⟩ := activated_run poolEnv (by decide : staleGenesis.activated = false)
  exact ⟨s, run, total⟩

end OgEvm.Svip
