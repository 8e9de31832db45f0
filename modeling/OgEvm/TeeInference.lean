import OgEvm.TeeLiveness

/- The TEEInferenceVerifier contract over the registry it reads. It promises an active
TEE and asks the registry for an enabled one: the approval of the image follows from
that in every reachable state, the age of the heartbeat does not. -/
namespace OgEvm.TeeRegistry

open Registry

namespace Registry

def isTEEEnabled (teeId : Hash) (s : Registry) : Bool := (s.tees teeId).enabled

def getTEEPublicKey (teeId : Hash) (s : Registry) : Bytes := (s.tees teeId).publicKey

end Registry

namespace TEEInferenceVerifier

/-- One hour, in seconds. -/
def maxInferenceAge : ℕ := 3600

/-- Five minutes, in seconds. -/
def futureTolerance : ℕ := 300

def computeMessageHash (env : RegistryEnv) (inputHash outputHash : Hash) (timestamp : ℕ) : Hash :=
  env.keccak256 (inputHash.toList ++ outputHash.toList ++ uint256Bytes timestamp)

/-- `verifySignature` at a block time, with the registry the contract points to. -/
def verifySignature (env : RegistryEnv) (now : ℕ) (registry : Registry) (teeId inputHash outputHash : Hash)
    (timestamp : ℕ) (signature : Bytes) : Except RegistryError Bool :=
  if !registry.isTEEEnabled teeId then .ok false
  else
    let minTs := if maxInferenceAge < now then now - maxInferenceAge else 0
    let maxTs := now + futureTolerance
    if timestamp < minTs ∨ maxTs < timestamp then .ok false
    else
      let pubKey := registry.getTEEPublicKey teeId
      let msgHash := computeMessageHash env inputHash outputHash timestamp
      match env.verifyRSAPSS pubKey msgHash signature with
      | none => .error .verifierReverted
      | some valid => .ok valid

end TEEInferenceVerifier

open TEEInferenceVerifier

section

variable {env : RegistryEnv} {msg : Msg} {call : Call} {s t : Registry} {last now : ℕ}

/-! A stored heartbeat is never from the future, whatever ages the administrator sets. -/

theorem Narrowed.heartbeat_time (narrowed : Narrowed s t) (teeId : Hash) :
    (t.tees teeId).lastHeartbeatAt = (s.tees teeId).lastHeartbeatAt := by
  obtain ⟨flag, record, -⟩ := narrowed.tees teeId
  rw [record]

theorem setTEE_heartbeat_time (s : Registry) (changed : Hash) (tee : TEEInfo) (teeId : Hash) :
    ((s.setTEE changed tee).tees teeId).lastHeartbeatAt =
      if teeId = changed then tee.lastHeartbeatAt else (s.tees teeId).lastHeartbeatAt := by
  have record : (s.setTEE changed tee).tees teeId = if teeId = changed then tee else s.tees teeId :=
    Function.update_apply _ _ _ _
  rw [record, apply_ite TEEInfo.lastHeartbeatAt]

/-- Step: a call leaves a TEE's heartbeat or sets it to the time of the block. -/
theorem Effect.heartbeat_time (effect : Effect env msg call s t) (teeId : Hash) :
    (t.tees teeId).lastHeartbeatAt = (s.tees teeId).lastHeartbeatAt ∨
      (t.tees teeId).lastHeartbeatAt = msg.timestamp := by
  cases effect with
  | idle same => exact Or.inl (by rw [same.tees])
  | typeAdded typeId name same => exact Or.inl (by rw [same.tees])
  | pcrApproved teeType pcrHash pcr on same =>
    rw [same.tees]
    exact Or.inl rfl
  | pcrRevoked teeType pcrHash pcr u looped same =>
    rw [same.tees, (revokeLoop_narrowed _ looped).heartbeat_time]
    exact Or.inl rfl
  | registered r pcrHash ohttpConfig valid new approved stored =>
    have time := setTEE_heartbeat_time s (env.keccak256 r.signingPublicKey)
      ⟨msg.sender, r.paymentAddress, r.endpoint, r.signingPublicKey, r.tlsCertificate, pcrHash,
        r.teeType, true, msg.timestamp, msg.timestamp, ohttpConfig⟩ teeId
    subst stored
    by_cases here : teeId = env.keccak256 r.signingPublicKey
    · rw [if_pos here] at time
      exact Or.inr time
    · rw [if_neg here] at time
      exact Or.inl time
  | disabled changed u on removed same =>
    have narrowed := (setEnabled_false_narrowed s changed).trans (removeFromEnabledList_narrowed removed)
    rw [same.tees, narrowed.heartbeat_time]
    exact Or.inl rfl
  | enabled changed known off approved same =>
    have time := setTEE_heartbeat_time s changed { s.tees changed with enabled := true } teeId
    rw [same.tees]
    refine Or.inl (time.trans ?_)
    split
    · rename_i here
      rw [here]
    · rfl
  | beat changed timestamp signature asked past young verified same =>
    rw [same.tees, setTEE_heartbeat_time]
    split
    · exact Or.inr rfl
    · exact Or.inl rfl

/-- Run: every stored heartbeat is of the last block or before it. -/
theorem Reachable.heartbeat_past (reachable : Reachable env s last) (teeId : Hash) :
    (s.tees teeId).lastHeartbeatAt ≤ last := by
  induction reachable with
  | deployed deployer now => exact (deploy_fresh env (fun _ _ => True) 0 deployer now).past teeId
  | call before msg call later ih =>
    unfold transact
    split
    · rename_i success
      rcases (exec_effect success).heartbeat_time teeId with same | stored
      · rw [same]
        exact ih.trans later
      · exact stored.le
    · exact ih.trans later

/-! Verified inferences. -/

/-- The TEE's heartbeat is no older than the registry allows. -/
def Young (now : ℕ) (teeId : Hash) (s : Registry) : Prop :=
  now ≤ (s.tees teeId).lastHeartbeatAt + s.heartbeatMaxAge

/-- The contract's own three checks. -/
theorem verifySignature_true {teeId inputHash outputHash : Hash} {timestamp : ℕ} {signature : Bytes} :
    verifySignature env now s teeId inputHash outputHash timestamp signature = .ok true ↔
      s.isTEEEnabled teeId = true ∧ now ≤ timestamp + maxInferenceAge ∧ timestamp ≤ now + futureTolerance ∧
        env.verifyRSAPSS (s.getTEEPublicKey teeId)
          (computeMessageHash env inputHash outputHash timestamp) signature = some true := by
  have window : (timestamp < (if maxInferenceAge < now then now - maxInferenceAge else 0) ∨
      now + futureTolerance < timestamp) ↔
        ¬ (now ≤ timestamp + maxInferenceAge ∧ timestamp ≤ now + futureTolerance) := by
    split <;> omega
  unfold verifySignature
  simp only [window]
  split
  · rename_i off
    simp only [Bool.not_eq_true'] at off
    simp [off]
  · rename_i on
    simp only [Bool.not_eq_true, Bool.not_eq_false'] at on
    split
    · rename_i outside
      simp only [Except.ok.injEq, Bool.false_eq_true, false_iff]
      tauto
    · rename_i inside
      obtain ⟨low, high⟩ := not_not.mp inside
      cases verified : env.verifyRSAPSS (s.getTEEPublicKey teeId)
          (computeMessageHash env inputHash outputHash timestamp) signature with
      | none => simp
      | some valid => simp [on, low, high]

/-- In a reachable state an enabled TEE is active exactly while its heartbeat is young. -/
theorem Reachable.active_iff (reachable : Reachable env s last) (later : last ≤ now) {teeId : Hash}
    (enabled : s.isTEEEnabled teeId = true) : s.isTEEActive now teeId = .ok true ↔ Young now teeId s := by
  have approved := reachable.sound.approved teeId enabled
  have past := (reachable.heartbeat_past teeId).trans later
  have on : (!(s.tees teeId).enabled) = false := by
    rw [Bool.not_eq_false']
    exact enabled
  unfold isTEEActive Young
  simp only [on, not_lt.mpr past, approved, Bool.false_eq_true, if_false]
  split
  · rename_i old
    simp only [Except.ok.injEq, Bool.false_eq_true, false_iff]
    omega
  · rename_i young
    simp only [true_iff]
    omega

/-- A verified inference is of an active TEE and of its time exactly if, where the
contract's checks pass, the TEE's heartbeat is young. The window always holds. -/
theorem verified_active_iff (reachable : Reachable env s last) (later : last ≤ now)
    (teeId inputHash outputHash : Hash) (timestamp : ℕ) (signature : Bytes) :
    (verifySignature env now s teeId inputHash outputHash timestamp signature = .ok true →
      s.isTEEActive now teeId = .ok true ∧ now ≤ timestamp + maxInferenceAge ∧
        timestamp ≤ now + futureTolerance) ↔
    (s.isTEEEnabled teeId = true → now ≤ timestamp + maxInferenceAge →
      timestamp ≤ now + futureTolerance →
      env.verifyRSAPSS (s.getTEEPublicKey teeId)
        (computeMessageHash env inputHash outputHash timestamp) signature = some true →
      Young now teeId s) := by
  rw [verifySignature_true]
  constructor
  · intro promised enabled low high verified
    rw [← reachable.active_iff later enabled]
    exact (promised ⟨enabled, low, high, verified⟩).1
  · rintro young ⟨enabled, low, high, verified⟩
    rw [reachable.active_iff later enabled]
    exact ⟨young enabled low high verified, low, high⟩

end

/-- One TEE registered at 500, which then sends no heartbeat. -/
def silentRegistry : Registry :=
  runCalls imageEnv ⟨500, admin⟩
    [.addTEEType 1 "llm", .approvePCR ⟨[5], [], []⟩ "v1" 1, .registerTEEWithAttestation (registration 5)]
    (deploy imageEnv admin)

theorem silentRegistry_reachable : Reachable imageEnv silentRegistry 500 :=
  runCalls_reachable _ (.deployed admin 500)

/-- The age limit in seconds after its registration, the silent TEE is still active. -/
theorem verified_active_iff_silent :
    verifySignature imageEnv 2300 silentRegistry (bytesToHash [5]) zeroHash zeroHash 2300 [] = .ok true ∧
      silentRegistry.isTEEActive 2300 (bytesToHash [5]) = .ok true := by
  have verified : verifySignature imageEnv 2300 silentRegistry (bytesToHash [5]) zeroHash zeroHash 2300 [] =
      .ok true := by
    decide +kernel
  have young : Young 2300 (bytesToHash [5]) silentRegistry := by
    unfold Young
    decide +kernel
  refine ⟨verified, ?_⟩
  exact ((verified_active_iff silentRegistry_reachable (by decide : 500 ≤ 2300) (bytesToHash [5]) zeroHash
    zeroHash 2300 []).mpr (fun _ _ _ _ => young) verified).1

/-- One second later the contract verifies an inference of a TEE that is not active. -/
theorem inactive_verified :
    Reachable imageEnv silentRegistry 500 ∧
      verifySignature imageEnv 2301 silentRegistry (bytesToHash [5]) zeroHash zeroHash 2301 [] = .ok true ∧
      silentRegistry.isTEEActive 2301 (bytesToHash [5]) = .ok false := by
  refine ⟨silentRegistry_reachable, ?_, ?_⟩
  · decide +kernel
  · decide +kernel

end OgEvm.TeeRegistry
