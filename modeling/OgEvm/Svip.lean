import OgEvm.LibBinary64
import OgEvm.LibExcept
import OgEvm.BankFacts

/- The SVIP keeper: a pool whose rewards decay over the time since its activation, with
the time it was paused taken out. -/
namespace OgEvm.Svip

open Bank

/-! Go's clock: a time is the nanoseconds since the zero time. -/

def second : ℤ := 10 ^ 9

def maxDuration : ℤ := 2 ^ 63 - 1

def minDuration : ℤ := -2 ^ 63

/-- `t.Sub(u)` saturates at the ends of `time.Duration`. -/
def timeSub (t u : ℤ) : ℤ := max minDuration (min maxDuration (t - u))

/-- `Duration.Seconds` converts the whole seconds and the rest apart. -/
def seconds (d : ℤ) : ℚ :=
  Binary64.add (Binary64.ofInt (d.tdiv second)) (Binary64.div (Binary64.ofInt (d.tmod second)) second)

/-- `int64` addition wraps. -/
def int64Add (a b : ℤ) : ℤ := Int.bmod (a + b) (2 ^ 64)

/-! Configuration, errors and state. -/

inductive SvipError where
  | invalidSigner (message : String)
  | invalidProposalMsg (message : String)
  | invalidCoins (message : String)
  | invalidAddress (address : String)
  | alreadyActivated
  | notYetActivated
  | poolNotFunded
  | halfLifeChange
  | bank (fault : Fault)
  | negativeCoin (amount : ℤ)
  | intOverflow
  deriving DecidableEq, Repr

def moduleName : ModuleName := "svip"

def feeCollectorName : ModuleName := "fee_collector"

/-- The keepers' configuration; the reward formula is left open. -/
structure SvipEnv where
  cfg : Config
  authority : String
  accAddressFromBech32 : String → Option AccAddress
  calculateBlockReward : (halfLifeSeconds poolAtActivation : ℤ) → (totalElapsedSec blockDeltaSec : ℚ) → ℤ
  pool : AccAddress
  feeCollector : AccAddress
  pool_registered : cfg.moduleAddress moduleName = some pool
  feeCollector_registered : cfg.moduleAddress feeCollectorName = some feeCollector
  pool_ne_feeCollector : pool ≠ feeCollector

/-- The values the keeper's getters read, and the bank. -/
structure Store where
  halfLifeSeconds : ℤ
  totalDistributed : ℤ
  activationTime : ℤ
  lastBlockTime : ℤ
  poolBalanceAtActivation : ℤ
  totalPausedSeconds : ℤ
  activated : Bool
  paused : Bool
  bank : BankState

/-! Genesis. -/

structure GenesisState where
  halfLifeSeconds : ℤ
  totalDistributed : ℤ
  activationTime : ℤ
  poolBalanceAtActivation : ℤ
  lastBlockTime : ℤ
  totalPausedSeconds : ℤ
  activated : Bool
  paused : Bool
  deriving DecidableEq

def defaultGenesisState : GenesisState := ⟨0, 0, 0, 0, 0, 0, false, false⟩

def GenesisState.validate (data : GenesisState) : Except String Unit :=
  if data.halfLifeSeconds < 0 then
    .error ("half_life_seconds cannot be negative: " ++ toString data.halfLifeSeconds)
  else if data.totalDistributed < 0 then .error "total_distributed cannot be negative: svip pool is exhausted"
  else if data.totalPausedSeconds < 0 then
    .error ("total_paused_seconds cannot be negative: " ++ toString data.totalPausedSeconds)
  else if data.activated ∧ data.halfLifeSeconds = 0 then
    .error "half_life_seconds must be set when activated"
  else .ok ()

/-- The times of the store stay zero without an activation time. -/
def initGenesis (data : GenesisState) (bank : BankState) : Store where
  halfLifeSeconds := data.halfLifeSeconds
  activated := data.activated
  paused := data.paused
  totalDistributed := if 0 < data.totalDistributed then data.totalDistributed else 0
  activationTime := if data.activationTime ≠ 0 then data.activationTime else 0
  lastBlockTime :=
    if data.activationTime ≠ 0 then
      if data.lastBlockTime ≠ 0 then data.lastBlockTime else data.activationTime
    else 0
  totalPausedSeconds := if 0 < data.totalPausedSeconds then data.totalPausedSeconds else 0
  poolBalanceAtActivation := if 0 < data.poolBalanceAtActivation then data.poolBalanceAtActivation else 0
  bank := bank

namespace Store

variable (env : SvipEnv) (now : ℤ)

def poolBalance (s : Store) : ℤ := s.bank.balances env.cfg.denom env.pool

/-! Blocks. -/

/-- The seconds since the activation without the paused ones, as `BeginBlock` reads them. -/
def totalElapsed (s : Store) : ℚ :=
  Binary64.sub (seconds (timeSub now s.activationTime)) (Binary64.ofInt s.totalPausedSeconds)

def blockDelta (s : Store) : ℚ := seconds (timeSub now s.lastBlockTime)

/-- `sdkmath.Int` addition, which panics outside 256 bits. -/
def addInt (a b : ℤ) : Except SvipError ℤ :=
  if 2 ^ 256 ≤ |a + b| then .error .intOverflow else .ok (a + b)

def newCoins (denom : Denom) (amount : ℤ) : Except SvipError Coins :=
  if amount < 0 then .error (.negativeCoin amount) else .ok [⟨denom, amount⟩]

def payReward (reward : ℤ) (s : Store) : Except SvipError Store := do
  let coins ← newCoins env.cfg.denom reward
  let bank ← (sendCoinsFromModuleToModule env.cfg s.bank moduleName feeCollectorName coins).mapError .bank
  let total ← addInt s.totalDistributed reward
  pure { s with
    bank := emit bank (.other "svip_reward")
    totalDistributed := total
    lastBlockTime := now }

/-- Some exits leave the time of the last block where it was. -/
def beginBlock (s : Store) : Except SvipError Store :=
  if !s.activated || s.paused then .ok s
  else
    let totalElapsed := s.totalElapsed now
    let blockDelta := s.blockDelta now
    if totalElapsed ≤ 0 ∨ blockDelta ≤ 0 then .ok s
    else
      let reward := env.calculateBlockReward s.halfLifeSeconds s.poolBalanceAtActivation totalElapsed blockDelta
      if reward = 0 ∨ reward < 0 then .ok { s with lastBlockTime := now }
      else
        let reward := if s.poolBalance env < reward then s.poolBalance env else reward
        if reward = 0 then .ok { s with lastBlockTime := now }
        else s.payReward env now reward

/-! Messages. -/

def requireAuthority (authority : String) : Except SvipError Unit :=
  if env.authority ≠ authority then
    .error (.invalidSigner ("invalid authority; expected " ++ env.authority ++ ", got " ++ authority))
  else .ok ()

/-- The guard on a change of the half-life, decided in floating point. -/
def halfLifeChangeTooLarge (current proposed : ℤ) : Prop :=
  let ratio := Binary64.div (Binary64.ofInt proposed) (Binary64.ofInt current)
  ratio < 1 / 2 ∨ 3 / 2 < ratio

instance (current proposed : ℤ) : Decidable (halfLifeChangeTooLarge current proposed) := instDecidableOr

def updateParams (authority : String) (halfLifeSeconds : ℤ) (s : Store) : Except SvipError Store := do
  requireAuthority env authority
  if s.activated ∧ halfLifeSeconds ≤ 0 then
    .error (.invalidProposalMsg "half_life_seconds must be > 0 while module is activated")
  else if s.activated ∧ 0 < s.halfLifeSeconds ∧ 0 < halfLifeSeconds ∧
      halfLifeChangeTooLarge s.halfLifeSeconds halfLifeSeconds then
    .error .halfLifeChange
  else if 0 < halfLifeSeconds ∧ halfLifeSeconds < 31536000 then
    .error (.invalidProposalMsg "half_life_seconds must be >= 1 year (31536000s)")
  else pure { s with halfLifeSeconds := halfLifeSeconds }

/-- The total of an earlier curve is left standing. -/
def activate (authority : String) (s : Store) : Except SvipError Store := do
  requireAuthority env authority
  if s.activated then .error .alreadyActivated
  else if s.halfLifeSeconds ≤ 0 then
    .error (.invalidProposalMsg "half_life_seconds must be set before activation")
  else if s.poolBalance env = 0 then .error .poolNotFunded
  else pure { s with
    poolBalanceAtActivation := s.poolBalance env
    paused := false
    totalPausedSeconds := 0
    activated := true
    activationTime := now
    lastBlockTime := now
    bank := emit s.bank (.other "svip_activated") }

def reactivate (authority : String) (s : Store) : Except SvipError Store := do
  requireAuthority env authority
  if !s.activated then .error .notYetActivated
  else if s.halfLifeSeconds ≤ 0 then
    .error (.invalidProposalMsg "half_life_seconds must be set before reactivation")
  else if s.poolBalance env = 0 then .error .poolNotFunded
  else pure { s with
    poolBalanceAtActivation := s.poolBalance env
    activationTime := now
    lastBlockTime := now
    totalDistributed := 0
    totalPausedSeconds := 0
    paused := false
    bank := emit s.bank (.other "svip_reactivated") }

/-- The whole seconds `Pause` adds when it ends a pause. -/
def pausedGap (s : Store) : ℤ := Binary64.toInt (seconds (timeSub now s.lastBlockTime))

/-- A pause is measured from the last block time, not from the message that began it. -/
def pause (authority : String) (paused : Bool) (s : Store) : Except SvipError Store := do
  requireAuthority env authority
  if !s.activated then .error .notYetActivated
  else if s.paused && !paused then
    pure { s with
      paused := paused
      totalPausedSeconds :=
        if 0 < s.pausedGap now then int64Add s.totalPausedSeconds (s.pausedGap now)
        else s.totalPausedSeconds
      lastBlockTime := now }
  else pure { s with paused := paused }

def requireDenom (denom : Denom) : Coins → Except SvipError Unit
  | [] => .ok ()
  | coin :: rest =>
    if coin.denom ≠ denom then
      .error (.invalidCoins ("invalid denom " ++ coin.denom ++ ", expected " ++ denom))
    else requireDenom denom rest

def fundPool (depositor : String) (amount : Coins) (s : Store) : Except SvipError Store :=
  match env.accAddressFromBech32 depositor with
  | none => .error (.invalidAddress depositor)
  | some depositor => do
    requireDenom env.cfg.denom amount
    let bank ← (sendCoinsFromAccountToModule env.cfg s.bank depositor moduleName amount).mapError .bank
    pure { s with bank := bank }

end Store

/-! Steps. -/

inductive Step where
  | updateParams (authority : String) (halfLifeSeconds : ℤ)
  | activate (authority : String)
  | reactivate (authority : String)
  | pause (authority : String) (paused : Bool)
  | fundPool (depositor : String) (amount : Coins)
  | beginBlock
  deriving DecidableEq

def exec (env : SvipEnv) (now : ℤ) (s : Store) : Step → Except SvipError Store
  | .updateParams authority halfLifeSeconds => s.updateParams env authority halfLifeSeconds
  | .activate authority => s.activate env now authority
  | .reactivate authority => s.reactivate env now authority
  | .pause authority paused => s.pause env now authority paused
  | .fundPool depositor amount => s.fundPool env depositor amount
  | .beginBlock => s.beginBlock env now

/-! Runs. -/

variable {γ : Type} {env : SvipEnv} {note : ℤ → Step → Store → Store → γ → γ}

/-- Runs of the module at non-decreasing block times, with a record of what its steps
did. Between the steps the bank may change anything but the account of the pool. -/
inductive Run (env : SvipEnv) (note : ℤ → Step → Store → Store → γ → γ) (start : Store) (blank : γ) :
    Store → γ → ℤ → Prop
  | started (now : ℤ) : Run env note start blank start blank now
  | done {s t : Store} {notes : γ} {now : ℤ} (before : Run env note start blank s notes now) (time : ℤ)
      (later : now ≤ time) (step : Step) (success : exec env time s step = .ok t) :
      Run env note start blank t (note time step s t notes) time
  | failed {s : Store} {notes : γ} {now : ℤ} (before : Run env note start blank s notes now) (time : ℤ)
      (later : now ≤ time) (step : Step) (error : SvipError) (failure : exec env time s step = .error error) :
      Run env note start blank s notes time
  | elsewhere {s : Store} {notes : γ} {now : ℤ} (before : Run env note start blank s notes now)
      (bank : BankState)
      (balance : bank.balances env.cfg.denom env.pool = s.bank.balances env.cfg.denom env.pool)
      (locked : bank.locked env.pool env.cfg.denom = s.bank.locked env.pool env.cfg.denom) :
      Run env note start blank { s with bank := bank } notes now

/-- One step and its record; a step that fails does nothing. -/
def advance (env : SvipEnv) (note : ℤ → Step → Store → Store → γ → γ) (time : ℤ) (step : Step)
    (state : Store × γ) : Store × γ :=
  match exec env time state.1 step with
  | .ok t => (t, note time step state.1 t state.2)
  | .error _ => state

theorem Run.advance {start : Store} {blank : γ} {state : Store × γ} {now : ℤ}
    (run : Run env note start blank state.1 state.2 now) {time : ℤ} (later : now ≤ time) (step : Step) :
    Run env note start blank (advance env note time step state).1 (advance env note time step state).2 time := by
  unfold Svip.advance
  split
  · rename_i t success
    exact run.done time later step success
  · rename_i error failure
    exact run.failed time later step error failure

end OgEvm.Svip
