import OgEvm.TeeRegistryInvariant

/- Liveness of a TEE. A heartbeat is accepted while its signed timestamp is young and
stored under the time of its block, and the TEE counts as active while that is young,
so the two windows add up. -/
namespace OgEvm.TeeRegistry

open Registry

/-- Runs in which every heartbeat is checked against the same age. -/
inductive HeldRun (env : RegistryEnv) (maxAge : ℕ) : Registry → ℕ → Prop
  | deployed (deployer : Address) (now : ℕ) : HeldRun env maxAge (deploy env deployer) now
  | call {s : Registry} {now : ℕ} (before : HeldRun env maxAge s now) (msg : Msg) (call : Call)
      (later : now ≤ msg.timestamp)
      (fixed : ∀ teeId timestamp signature, call = .heartbeat teeId timestamp signature →
        s.heartbeatMaxAge = maxAge) :
      HeldRun env maxAge (transact env msg call s) msg.timestamp

/-- Only the holder of a key makes signatures that verify under it. -/
def Unforgeable (env : RegistryEnv) (signed : Bytes → Hash → Prop) : Prop :=
  ∀ key hash signature, env.verifyRSAPSS key hash signature = some true → signed key hash

section

variable {env : RegistryEnv} {msg : Msg} {call : Call} {s t : Registry} {maxAge now : ℕ}
  {signed : Bytes → Hash → Prop}

/-- What is known of a stored heartbeat: the time of the registration, or that of a block
which found a signed timestamp young. -/
def Backed (env : RegistryEnv) (signed : Bytes → Hash → Prop) (maxAge : ℕ) (teeId : Hash) (tee : TEEInfo) :
    Prop :=
  tee.lastHeartbeatAt = tee.registeredAt ∨
    ∃ timestamp, signed tee.publicKey (heartbeatHash env teeId timestamp) ∧
      timestamp ≤ tee.lastHeartbeatAt ∧ tee.lastHeartbeatAt ≤ timestamp + maxAge

structure Fresh (env : RegistryEnv) (signed : Bytes → Hash → Prop) (maxAge : ℕ) (s : Registry) (now : ℕ) :
    Prop where
  past : ∀ teeId, (s.tees teeId).lastHeartbeatAt ≤ now
  backed : ∀ teeId, Backed env signed maxAge teeId (s.tees teeId)

section

variable (fresh : Fresh env signed maxAge s now)

include fresh

theorem Fresh.congr (tees : t.tees = s.tees) : Fresh env signed maxAge t now := by
  refine ⟨?_, ?_⟩
  · rw [tees]
    exact fresh.past
  · rw [tees]
    exact fresh.backed

theorem Fresh.later {then_ : ℕ} (later : now ≤ then_) : Fresh env signed maxAge s then_ :=
  ⟨fun teeId => (fresh.past teeId).trans later, fresh.backed⟩

theorem Fresh.narrowed (narrowed : Narrowed s t) : Fresh env signed maxAge t now := by
  refine ⟨?_, ?_⟩ <;> intro teeId <;> obtain ⟨flag, record, -⟩ := narrowed.tees teeId <;> rw [record]
  · exact fresh.past teeId
  · exact fresh.backed teeId

theorem Fresh.setTEE {teeId : Hash} {tee : TEEInfo} (past : tee.lastHeartbeatAt ≤ now)
    (backed : Backed env signed maxAge teeId tee) : Fresh env signed maxAge (s.setTEE teeId tee) now := by
  have record : ∀ other, (s.setTEE teeId tee).tees other = if other = teeId then tee else s.tees other :=
    fun other => Function.update_apply _ _ _ _
  refine ⟨?_, ?_⟩
  · intro other
    rw [record]
    split
    · exact past
    · exact fresh.past other
  · intro other
    rw [record]
    split
    · rename_i here
      subst here
      exact backed
    · exact fresh.backed other

/-- Step: a call keeps every stored heartbeat backed. -/
theorem Fresh.effect (later : now ≤ msg.timestamp) (unforgeable : Unforgeable env signed)
    (fixed : ∀ teeId timestamp signature, call = .heartbeat teeId timestamp signature → s.heartbeatMaxAge =
      maxAge) (effect : Effect env msg call s t) : Fresh env signed maxAge t msg.timestamp := by
  have kept := fresh.later later
  cases effect with
  | idle same => exact kept.congr same.tees
  | typeAdded typeId name same => exact kept.congr same.tees
  | pcrApproved teeType pcrHash pcr on same => exact kept.congr same.tees
  | pcrRevoked teeType pcrHash pcr u looped same =>
    have narrowed := revokeLoop_narrowed _ looped
    have start : Fresh env signed maxAge (s.setPCR teeType pcrHash pcr) msg.timestamp := kept.congr rfl
    exact (start.narrowed narrowed).congr same.tees
  | registered r pcrHash ohttpConfig valid new approved stored =>
    subst stored
    refine Fresh.congr (kept.setTEE ?_ ?_) rfl
    · exact le_refl _
    · exact Or.inl rfl
  | disabled teeId u on removed same =>
    have narrowed := (setEnabled_false_narrowed s teeId).trans (removeFromEnabledList_narrowed removed)
    exact (kept.narrowed narrowed).congr same.tees
  | enabled teeId known off approved same =>
    refine Fresh.congr (kept.setTEE ?_ ?_) same.tees
    · exact kept.past teeId
    · exact kept.backed teeId
  | beat teeId timestamp signature asked past young verified same =>
    have age := fixed teeId timestamp signature asked
    rw [age] at young
    refine Fresh.congr (kept.setTEE ?_ ?_) same.tees
    · exact le_refl _
    · refine Or.inr ⟨timestamp, unforgeable _ _ _ verified, past, ?_⟩
      change msg.timestamp ≤ timestamp + maxAge
      omega

end

theorem deploy_fresh (env : RegistryEnv) (signed : Bytes → Hash → Prop) (maxAge : ℕ) (deployer : Address)
    (now : ℕ) : Fresh env signed maxAge (deploy env deployer) now := by
  have tees : (deploy env deployer).tees = fun _ => emptyTEE :=
    (grant_same _ _ _ _).tees.trans (grant_same _ _ _ _).tees
  refine ⟨?_, ?_⟩
  · intro teeId
    rw [tees]
    exact Nat.zero_le now
  · intro teeId
    rw [tees]
    exact Or.inl rfl

/-- Run: every stored heartbeat of a run is backed. -/
theorem HeldRun.fresh (run : HeldRun env maxAge s now) (unforgeable : Unforgeable env signed) :
    Fresh env signed maxAge s now := by
  induction run with
  | deployed deployer now => exact deploy_fresh env signed maxAge deployer now
  | call before msg call later fixed ih =>
    unfold transact
    split
    · rename_i success
      exact ih.effect later unforgeable fixed (exec_effect success)
    · exact ih.later later

/-- A TEE that is active at a time was registered at most the maximal age before it, or
its key has signed a heartbeat for a time at most twice the maximal age before it. -/
theorem active_backed (run : HeldRun env maxAge s now)
    (unforgeable : Unforgeable env signed)
    (fixed : s.heartbeatMaxAge = maxAge) {time : ℕ} (later : now ≤ time) {teeId : Hash}
    (active : s.isTEEActive time teeId = .ok true) :
    time ≤ (s.tees teeId).registeredAt + maxAge ∨
      ∃ timestamp, signed (s.tees teeId).publicKey (heartbeatHash env teeId timestamp) ∧
        time ≤ timestamp + 2 * maxAge ∧ timestamp ≤ time := by
  have fresh := run.fresh unforgeable
  have past := fresh.past teeId
  have young : time - (s.tees teeId).lastHeartbeatAt ≤ maxAge := by
    unfold isTEEActive at active
    dsimp only at active
    split at active
    · cases active
    · split at active
      · cases active
      · split at active
        · cases active
        · rename_i young
          rw [← fixed]
          exact not_lt.mp young
  rcases fresh.backed teeId with registered | ⟨timestamp, payload, before, after⟩
  · apply Or.inl
    omega
  · refine Or.inr ⟨timestamp, payload, ?_, ?_⟩
    · omega
    · omega

end

/-- A toy hash and a key that signed its OHTTP configuration and one heartbeat. -/
def relaySigned (_key : Bytes) (hash : Hash) : Prop :=
  hash = bytesToHash [0] ∨ hash = bytesToHash (uint256Bytes 1000)

instance (key : Bytes) (hash : Hash) : Decidable (relaySigned key hash) := instDecidableOr

def relayEnv : RegistryEnv :=
  { imageEnv with verifyRSAPSS := fun key hash _ => some (decide (relaySigned key hash)) }

theorem relayEnv_unforgeable : Unforgeable relayEnv relaySigned := by
  intro key hash signature verified
  exact of_decide_eq_true (Option.some.inj verified)

/-- The TEE is registered at 500, and its heartbeat for 1000 is held back and relayed
by a stranger in the last second it is accepted. -/
def relayed : Registry :=
  transact relayEnv ⟨2800, bytesToAddress [9]⟩ (.heartbeat (bytesToHash [5]) 1000 [])
    (transact relayEnv ⟨500, admin⟩ (.registerTEEWithAttestation (registration 5))
      (transact relayEnv ⟨500, admin⟩ (.approvePCR ⟨[5], [], []⟩ "v1" 1)
        (transact relayEnv ⟨500, admin⟩ (.addTEEType 1 "llm") (deploy relayEnv admin))))

theorem relayed_heldRun : HeldRun relayEnv 1800 relayed 2800 := by
  have deployed : HeldRun relayEnv 1800 (deploy relayEnv admin) 500 := .deployed admin 500
  have typed := deployed.call ⟨500, admin⟩ (.addTEEType 1 "llm") (le_refl _) nofun
  have approved := typed.call ⟨500, admin⟩ (.approvePCR ⟨[5], [], []⟩ "v1" 1) (le_refl _) nofun
  have registered := approved.call ⟨500, admin⟩ (.registerTEEWithAttestation (registration 5)) (le_refl _) nofun
  refine registered.call ⟨2800, bytesToAddress [9]⟩ (.heartbeat (bytesToHash [5]) 1000 []) (by decide) ?_
  intro _ _ _ _
  decide +kernel

/-- What the run leaves: the age limit, an active TEE and the time of its registration. -/
theorem relayed_state : relayed.heartbeatMaxAge = 1800 ∧ relayed.isTEEActive 4600 (bytesToHash [5]) = .ok true ∧
      (relayed.tees (bytesToHash [5])).registeredAt = 500 := by
  decide +kernel

theorem active_backed_relayed :
    ∃ timestamp, relaySigned (relayed.tees (bytesToHash [5])).publicKey
        (heartbeatHash relayEnv (bytesToHash [5]) timestamp) ∧
      4600 ≤ timestamp + 2 * 1800 ∧ timestamp ≤ 4600 := by
  obtain ⟨age, active, registered⟩ := relayed_state
  have backed := active_backed relayed_heldRun relayEnv_unforgeable age (by decide : 2800 ≤ 4600) active
  rw [registered] at backed
  exact backed.resolve_left (by decide)

theorem heartbeatHash_byte (teeId : Hash) (timestamp : ℕ) :
    (heartbeatHash relayEnv teeId timestamp)[30] = UInt8.ofNat (timestamp / 256) := by
  simp [heartbeatHash, relayEnv, imageEnv, bytesToHash, fitBytes, uint256Bytes]

/-- At 4600 the TEE is active on a payload for 1000 although a maximal age is 1800. -/
theorem relayed_active_stale :
    HeldRun relayEnv 1800 relayed 2800 ∧ Unforgeable relayEnv relaySigned ∧
      relayed.heartbeatMaxAge = 1800 ∧ relayed.isTEEActive 4600 (bytesToHash [5]) = .ok true ∧
      (relayed.tees (bytesToHash [5])).registeredAt < 4600 - 1800 ∧
      ∀ timestamp, 4600 - 1800 ≤ timestamp → timestamp ≤ 4600 →
        ¬ relaySigned (relayed.tees (bytesToHash [5])).publicKey
          (heartbeatHash relayEnv (bytesToHash [5]) timestamp) := by
  obtain ⟨age, active, registered⟩ := relayed_state
  have early : (relayed.tees (bytesToHash [5])).registeredAt < 4600 - 1800 := by
    rw [registered]
    omega
  refine ⟨relayed_heldRun, relayEnv_unforgeable, age, active, early, ?_⟩
  intro timestamp low high payload
  have byte := heartbeatHash_byte (bytesToHash [5]) timestamp
  have page : timestamp / 256 < 256 := by omega
  have large : 10 ≤ timestamp / 256 := by omega
  rcases payload with config | beat
  · rw [config] at byte
    have zero : (0 : ℕ) = timestamp / 256 % 256 := congrArg UInt8.toNat byte
    omega
  · rw [beat] at byte
    have three : (3 : ℕ) = timestamp / 256 % 256 := congrArg UInt8.toNat byte
    omega

end OgEvm.TeeRegistry
