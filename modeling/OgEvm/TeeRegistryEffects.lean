import OgEvm.LibExcept
import OgEvm.TeeRegistry

/- What a call of the registry that does not revert has done, read off its checks once. -/
namespace OgEvm.TeeRegistry

open ExceptFacts Registry

/-- The parts of the storage the enabled lists depend on. -/
structure Same (s t : Registry) : Prop where
  tees : t.tees = s.tees
  lists : t.enabledTEEList = s.enabledTEEList
  index : t.enabledTEEIndex = s.enabledTEEIndex
  pcrs : t.pcrRecords = s.pcrRecords
  types : t.teeTypes = s.teeTypes

theorem Same.refl (s : Registry) : Same s s := ⟨rfl, rfl, rfl, rfl, rfl⟩

inductive Effect (env : RegistryEnv) (msg : Msg) (call : Call) (s t : Registry) : Prop
  | idle (same : Same s t)
  | typeAdded (typeId : UInt8) (name : String)
      (same : Same { s with teeTypes := Function.update s.teeTypes typeId ⟨name, msg.timestamp⟩ } t)
  | pcrApproved (teeType : UInt8) (pcrHash : Hash) (pcr : ApprovedPCR) (on : pcr.approved = true)
      (same : Same (s.setPCR teeType pcrHash pcr) t)
  | pcrRevoked (teeType : UInt8) (pcrHash : Hash) (pcr : ApprovedPCR) (u : Registry)
      (looped : revokeLoop pcrHash teeType (s.enabledTEEList teeType).length
        (s.setPCR teeType pcrHash pcr) = .ok u) (same : Same u t)
  | registered (r : Registration) (pcrHash : Hash) (ohttpConfig : OHTTPConfig)
      (valid : s.isValidTEEType r.teeType = true)
      (fresh : (s.tees (env.keccak256 r.signingPublicKey)).registeredAt = 0)
      (approved : s.isPCRApproved r.teeType pcrHash = true)
      (stored : t = s.storeTEE env msg r (env.keccak256 r.signingPublicKey) pcrHash ohttpConfig)
  | disabled (teeId : Hash) (u : Registry) (on : (s.tees teeId).enabled = true)
      (removed : (s.setEnabled teeId false).removeFromEnabledList teeId (s.tees teeId).teeType = .ok u)
      (same : Same u t)
  | enabled (teeId : Hash) (known : (s.tees teeId).registeredAt ≠ 0)
      (off : (s.tees teeId).enabled = false)
      (approved : s.isPCRApproved (s.tees teeId).teeType (s.tees teeId).pcrHash = true)
      (same : Same ((s.setEnabled teeId true).addToEnabledList teeId (s.tees teeId).teeType) t)
  | beat (teeId : Hash) (timestamp : ℕ) (signature : Bytes)
      (asked : call = .heartbeat teeId timestamp signature) (past : timestamp ≤ msg.timestamp)
      (young : msg.timestamp - timestamp ≤ s.heartbeatMaxAge)
      (verified : env.verifyRSAPSS (s.tees teeId).publicKey (heartbeatHash env teeId timestamp) signature =
        some true)
      (same : Same (s.setTEE teeId { s.tees teeId with lastHeartbeatAt := msg.timestamp }) t)

variable {env : RegistryEnv} {msg : Msg} {call : Call} {s t u : Registry}

theorem grant_same (s : Registry) (role : Hash) (account sender : Address) :
    Same s (s.grant role account sender) := by
  unfold Registry.grant
  split
  · exact Same.refl s
  · exact ⟨rfl, rfl, rfl, rfl, rfl⟩

theorem revoke_same (s : Registry) (role : Hash) (account sender : Address) :
    Same s (s.revoke role account sender) := by
  unfold Registry.revoke
  split
  · exact ⟨rfl, rfl, rfl, rfl, rfl⟩
  · exact Same.refl s

theorem requirePCRValidForTEE_ok {pcrHash : Hash} {teeType : UInt8} {done : Unit}
    (success : s.requirePCRValidForTEE pcrHash teeType = .ok done) : s.isPCRApproved teeType pcrHash = true := by
  unfold requirePCRValidForTEE at success
  by_contra wrong
  rw [if_neg wrong] at success
  cases success

theorem revokePCR_effect {pcrHash : Hash} {teeType : UInt8}
    (success : s.revokePCR msg pcrHash teeType = .ok t) : Effect env msg call s t := by
  obtain ⟨_, -, success⟩ := bind_ok success
  obtain ⟨-, success⟩ := ite_error_ok success
  obtain ⟨u, looped, success⟩ := bind_ok success
  cases success
  exact .pcrRevoked teeType pcrHash _ u looped ⟨rfl, rfl, rfl, rfl, rfl⟩

theorem register_effect {r : Registration} (success : s.registerTEEWithAttestation env msg r = .ok t) :
    Effect env msg call s t := by
  obtain ⟨_, -, success⟩ := bind_ok success
  obtain ⟨valid, success⟩ := ite_error_ok success
  dsimp only at success
  obtain ⟨fresh, success⟩ := ite_error_ok success
  split at success
  · cases success
  · cases success
  · rename_i pcrHash attested
    obtain ⟨_, required, success⟩ := bind_ok success
    obtain ⟨ohttpConfig, -, success⟩ := bind_ok success
    cases success
    exact .registered r pcrHash ohttpConfig (by simpa using valid) (not_not.mp fresh)
      (requirePCRValidForTEE_ok required) rfl

theorem disableTEE_effect {teeId : Hash} (success : s.disableTEE env msg teeId = .ok t) :
    Effect env msg call s t := by
  obtain ⟨_, -, success⟩ := bind_ok success
  obtain ⟨on, success⟩ := ite_error_ok success
  obtain ⟨u, removed, success⟩ := bind_ok success
  cases success
  exact .disabled teeId u (by simpa using on) removed ⟨rfl, rfl, rfl, rfl, rfl⟩

theorem enableTEE_effect {teeId : Hash} (success : s.enableTEE env msg teeId = .ok t) : Effect env msg call s t := by
  obtain ⟨_, allowed, success⟩ := bind_ok success
  have known : (s.tees teeId).registeredAt ≠ 0 := by
    intro zero
    unfold onlyTEEOwnerOrAdmin at allowed
    rw [if_pos zero] at allowed
    cases allowed
  split at success
  · cases success
    exact .idle (Same.refl s)
  · rename_i off
    obtain ⟨_, required, success⟩ := bind_ok success
    cases success
    exact .enabled teeId known (by simpa using off) (requirePCRValidForTEE_ok required)
      ⟨rfl, rfl, rfl, rfl, rfl⟩

theorem heartbeat_effect {teeId : Hash} {timestamp : ℕ} {signature : Bytes}
    (success : s.heartbeat env msg teeId timestamp signature = .ok t) :
    Effect env msg (.heartbeat teeId timestamp signature) s t := by
  unfold Registry.heartbeat at success
  dsimp only at success
  obtain ⟨-, success⟩ := ite_error_ok success
  obtain ⟨-, success⟩ := ite_error_ok success
  obtain ⟨past, success⟩ := ite_error_ok success
  obtain ⟨young, success⟩ := ite_error_ok success
  split at success
  · cases success
  · cases success
  · rename_i verified
    cases success
    exact .beat teeId timestamp signature rfl (not_lt.mp past) (not_lt.mp young) verified
      ⟨rfl, rfl, rfl, rfl, rfl⟩

/-- Every call that does not revert has one of the effects. -/
theorem exec_effect (success : exec env msg s call = .ok t) : Effect env msg call s t := by
  cases call with
  | grantRole role account =>
    obtain ⟨_, -, success⟩ := bind_ok success
    cases success
    exact .idle (grant_same s role account msg.sender)
  | revokeRole role account =>
    obtain ⟨_, -, success⟩ := bind_ok success
    cases success
    exact .idle (revoke_same s role account msg.sender)
  | renounceRole role callerConfirmation =>
    change s.renounceRole msg role callerConfirmation = .ok t at success
    unfold Registry.renounceRole at success
    obtain ⟨-, success⟩ := ite_error_ok success
    cases success
    exact .idle (revoke_same s role callerConfirmation msg.sender)
  | setAWSRootCertificate certificate =>
    obtain ⟨_, -, success⟩ := bind_ok success
    cases success
    exact .idle ⟨rfl, rfl, rfl, rfl, rfl⟩
  | addTEEType typeId name =>
    obtain ⟨_, -, success⟩ := bind_ok success
    obtain ⟨-, success⟩ := ite_error_ok success
    cases success
    exact .typeAdded typeId name ⟨rfl, rfl, rfl, rfl, rfl⟩
  | approvePCR pcrs version teeType =>
    obtain ⟨_, -, success⟩ := bind_ok success
    obtain ⟨-, success⟩ := ite_error_ok success
    cases success
    refine .pcrApproved teeType (computePCRHash env pcrs)
      ⟨true, teeType, msg.timestamp, version⟩ rfl ?_
    split <;> exact ⟨rfl, rfl, rfl, rfl, rfl⟩
  | revokePCR pcrHash teeType => exact revokePCR_effect success
  | registerTEEWithAttestation r => exact register_effect success
  | disableTEE teeId => exact disableTEE_effect success
  | enableTEE teeId => exact enableTEE_effect success
  | heartbeat teeId timestamp signature => exact heartbeat_effect success
  | setHeartbeatMaxAge maxAge =>
    obtain ⟨_, -, success⟩ := bind_ok success
    cases success
    exact .idle ⟨rfl, rfl, rfl, rfl, rfl⟩

end OgEvm.TeeRegistry
