import OgEvm.Svip

/- What a step of the SVIP module that returns no error has done. -/
namespace OgEvm.Svip

open ExceptFacts Bank Store

/-- The block distributes: the module is on and both clocks have advanced. -/
structure Ticks (now : ℤ) (s : Store) : Prop where
  activated : s.activated = true
  unpaused : s.paused = false
  elapsed : 0 < s.totalElapsed now
  delta : 0 < s.blockDelta now

inductive Effect (env : SvipEnv) (now : ℤ) (s : Store) : Step → Store → Prop
  | paramsSet (authority : String) (halfLifeSeconds : ℤ) (t : Store)
      (result : t = { s with halfLifeSeconds := halfLifeSeconds }) :
      Effect env now s (.updateParams authority halfLifeSeconds) t
  | activated (authority : String) (t : Store) (off : s.activated = false)
      (result : t = { s with
        poolBalanceAtActivation := s.poolBalance env, paused := false, totalPausedSeconds := 0,
        activated := true, activationTime := now, lastBlockTime := now,
        bank := emit s.bank (.other "svip_activated") }) :
      Effect env now s (.activate authority) t
  | reactivated (authority : String) (t : Store) (on : s.activated = true)
      (result : t = { s with
        poolBalanceAtActivation := s.poolBalance env, activationTime := now, lastBlockTime := now,
        totalDistributed := 0, totalPausedSeconds := 0, paused := false,
        bank := emit s.bank (.other "svip_reactivated") }) :
      Effect env now s (.reactivate authority) t
  | unpaused (authority : String) (t : Store) (on : s.activated = true) (was : s.paused = true)
      (result : t = { s with
        paused := false
        totalPausedSeconds :=
          if 0 < s.pausedGap now then int64Add s.totalPausedSeconds (s.pausedGap now)
          else s.totalPausedSeconds
        lastBlockTime := now }) :
      Effect env now s (.pause authority false) t
  | flagged (authority : String) (paused : Bool) (t : Store) (on : s.activated = true)
      (quiet : s.paused = true → paused = true) (result : t = { s with paused := paused }) :
      Effect env now s (.pause authority paused) t
  | funded (depositor : String) (sender : AccAddress) (amount : Coins) (t : Store)
      (known : env.accAddressFromBech32 depositor = some sender) (valid : Coins.IsValid amount)
      (result : t = { s with bank := moved s.bank sender env.pool amount }) :
      Effect env now s (.fundPool depositor amount) t
  | skipped (exit : ¬ Ticks now s) : Effect env now s .beginBlock s
  | marked (t : Store) (ticks : Ticks now s) (result : t = { s with lastBlockTime := now }) :
      Effect env now s .beginBlock t
  | paid (reward : ℤ) (t : Store) (ticks : Ticks now s) (positive : 0 < reward)
      (covered : reward ≤ s.poolBalance env)
      (result : t = { s with
        bank := emit (moved s.bank env.pool env.feeCollector [⟨env.cfg.denom, reward⟩]) (.other "svip_reward")
        totalDistributed := s.totalDistributed + reward
        lastBlockTime := now }) :
      Effect env now s .beginBlock t

variable {env : SvipEnv} {now : ℤ} {s t : Store}

theorem updateParams_effect {authority : String} {halfLifeSeconds : ℤ}
    (success : s.updateParams env authority halfLifeSeconds = .ok t) :
    Effect env now s (.updateParams authority halfLifeSeconds) t := by
  obtain ⟨_, -, success⟩ := bind_ok success
  split at success
  · cases success
  split at success
  · cases success
  split at success
  · cases success
  exact .paramsSet authority halfLifeSeconds t (Except.ok.inj success).symm

theorem activate_effect {authority : String} (success : s.activate env now authority = .ok t) :
    Effect env now s (.activate authority) t := by
  obtain ⟨_, -, success⟩ := bind_ok success
  split at success
  · cases success
  rename_i off
  split at success
  · cases success
  split at success
  · cases success
  exact .activated authority t (Bool.eq_false_of_not_eq_true off) (Except.ok.inj success).symm

theorem reactivate_effect {authority : String} (success : s.reactivate env now authority = .ok t) :
    Effect env now s (.reactivate authority) t := by
  obtain ⟨_, -, success⟩ := bind_ok success
  split at success
  · cases success
  rename_i on
  split at success
  · cases success
  split at success
  · cases success
  exact .reactivated authority t (by simpa using on) (Except.ok.inj success).symm

theorem pause_effect {authority : String} {paused : Bool} (success : s.pause env now authority paused = .ok t) :
    Effect env now s (.pause authority paused) t := by
  obtain ⟨_, -, success⟩ := bind_ok success
  split at success
  · cases success
  rename_i on
  have on : s.activated = true := by simpa using on
  split at success
  · rename_i ends
    obtain ⟨was, flag⟩ : s.paused = true ∧ paused = false := by simpa using ends
    subst flag
    exact .unpaused authority t on was (Except.ok.inj success).symm
  · rename_i quiet
    refine .flagged authority paused t on ?_ (Except.ok.inj success).symm
    intro was
    simpa [was] using quiet

theorem fundPool_effect {depositor : String} {amount : Coins}
    (success : s.fundPool env depositor amount = .ok t) : Effect env now s (.fundPool depositor amount) t := by
  unfold fundPool at success
  split at success
  · cases success
  rename_i sender known
  obtain ⟨_, -, success⟩ := bind_ok success
  obtain ⟨bank, sent, success⟩ := bind_ok success
  have sent := mapError_ok sent
  unfold sendCoinsFromAccountToModule at sent
  rw [env.pool_registered] at sent
  obtain ⟨valid, moves⟩ := sendCoins_ok sent
  subst moves
  exact .funded depositor sender amount t known valid (Except.ok.inj success).symm

theorem not_ticks_of_off (off : (!s.activated || s.paused) = true) : ¬ Ticks now s := by
  intro ticks
  rw [ticks.activated, ticks.unpaused] at off
  cases off

theorem payReward_ok {reward : ℤ} (success : s.payReward env now reward = .ok t) : 0 ≤ reward ∧ t = { s with
      bank := emit (moved s.bank env.pool env.feeCollector [⟨env.cfg.denom, reward⟩]) (.other "svip_reward")
      totalDistributed := s.totalDistributed + reward
      lastBlockTime := now } := by
  obtain ⟨coins, made, success⟩ := bind_ok success
  obtain ⟨bank, sent, success⟩ := bind_ok success
  obtain ⟨total, added, success⟩ := bind_ok success
  unfold newCoins at made
  split at made
  · cases made
  rename_i nonneg
  cases made
  unfold addInt at added
  split at added
  · cases added
  cases added
  have sent := mapError_ok sent
  unfold sendCoinsFromModuleToModule at sent
  rw [env.pool_registered, env.feeCollector_registered] at sent
  obtain ⟨-, moves⟩ := sendCoins_ok sent
  subst moves
  exact ⟨not_lt.mp nonneg, (Except.ok.inj success).symm⟩

theorem beginBlock_effect (success : s.beginBlock env now = .ok t) : Effect env now s .beginBlock t := by
  unfold beginBlock at success
  by_cases off : (!s.activated || s.paused) = true
  · rw [if_pos off] at success
    cases success
    exact .skipped (not_ticks_of_off off)
  rw [if_neg off] at success
  obtain ⟨on, unpaused⟩ : s.activated = true ∧ s.paused = false := by simpa using off
  dsimp only at success
  by_cases early : s.totalElapsed now ≤ 0 ∨ s.blockDelta now ≤ 0
  · rw [if_pos early] at success
    cases success
    refine .skipped fun ticks => ?_
    rcases early with none_elapsed | no_delta
    · exact absurd ticks.elapsed (not_lt.mpr none_elapsed)
    · exact absurd ticks.delta (not_lt.mpr no_delta)
  rw [if_neg early] at success
  rw [not_or, not_le, not_le] at early
  have ticks : Ticks now s := ⟨on, unpaused, early.1, early.2⟩
  split at success
  · exact .marked t ticks (Except.ok.inj success).symm
  generalize capped : ite (s.poolBalance env < _) _ _ = reward at success
  by_cases zero : reward = 0
  · rw [if_pos zero] at success
    exact .marked t ticks (Except.ok.inj success).symm
  rw [if_neg zero] at success
  obtain ⟨nonneg, result⟩ := payReward_ok success
  refine .paid reward t ticks (lt_of_le_of_ne nonneg (Ne.symm zero)) ?_ result
  rw [← capped]
  split
  · exact le_refl _
  · rename_i enough
    exact not_lt.mp enough

theorem exec_effect {step : Step} (success : exec env now s step = .ok t) : Effect env now s step t := by
  cases step with
  | updateParams authority halfLifeSeconds => exact updateParams_effect success
  | activate authority => exact activate_effect success
  | reactivate authority => exact reactivate_effect success
  | pause authority paused => exact pause_effect success
  | fundPool depositor amount => exact fundPool_effect success
  | beginBlock => exact beginBlock_effect success

end OgEvm.Svip
