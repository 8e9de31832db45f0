import OgEvm.LibIndexedList
import OgEvm.VmKeeper

/- The TEERegistry contract: its storage, every call that changes it, and the queries
on liveness. A call that reverts leaves the storage as it was. -/
namespace OgEvm.TeeRegistry

open Function IndexedLists

/-- `abi.encode` of one value: a big-endian word. -/
def uint256Bytes (value : ℕ) : Bytes :=
  (List.range 32).map fun position => UInt8.ofNat (value / 256 ^ (31 - position))

/-! The hash function and the verification precompile. -/

structure RegistryEnv where
  keccak256 : Bytes → Hash
  /-- `VERIFIER.verifyAttestation` at a block time; no answer when the call reverts. -/
  verifyAttestation : ℕ → (attestationDocument signingPublicKey tlsCertificate rootCertificate : Bytes) →
    Option (Bool × Hash)
  /-- `VERIFIER.verifyRSAPSS`. -/
  verifyRSAPSS : (publicKeyDER : Bytes) → (messageHash : Hash) → (signature : Bytes) → Option Bool

def defaultAdminRole : Hash := zeroHash

def teeOperator (env : RegistryEnv) : Hash := env.keccak256 "TEE_OPERATOR".toUTF8.toList

def ohttpConfigDomainSeparator (env : RegistryEnv) : Hash :=
  env.keccak256 "OPENGRADIENT_TEE_OHTTP_CONFIG_V1".toUTF8.toList

def kemIdX25519HkdfSha256 : UInt16 := 32

def x25519PublicKeySize : ℕ := 32

/-! Storage. -/

structure PCRMeasurements where
  pcr0 : Bytes
  pcr1 : Bytes
  pcr2 : Bytes

structure ApprovedPCR where
  approved : Bool
  teeType : UInt8
  approvedAt : ℕ
  version : String

structure TEETypeInfo where
  name : String
  addedAt : ℕ

structure OHTTPConfig where
  keyId : UInt8
  kemId : UInt16
  kdfId : UInt16
  aeadId : UInt16
  publicKey : Bytes
  keyConfig : Bytes
  signature : Bytes
  registeredAt : ℕ

structure OHTTPConfigInput where
  keyId : UInt8
  kemId : UInt16
  kdfId : UInt16
  aeadId : UInt16
  publicKey : Bytes
  keyConfig : Bytes
  signature : Bytes

structure TEEInfo where
  owner : Address
  paymentAddress : Address
  endpoint : String
  publicKey : Bytes
  tlsCertificate : Bytes
  pcrHash : Hash
  teeType : UInt8
  enabled : Bool
  registeredAt : ℕ
  lastHeartbeatAt : ℕ
  ohttpConfig : OHTTPConfig

structure PCRKey where
  pcrHash : Hash
  teeType : UInt8

inductive RegistryEvent where
  | roleGranted (role : Hash) (account sender : Address)
  | roleRevoked (role : Hash) (account sender : Address)
  | teeTypeAdded (typeId : UInt8) (name : String)
  | pcrApproved (pcrHash : Hash) (teeType : UInt8) (version : String)
  | pcrRevoked (pcrHash : Hash) (teeType : UInt8)
  | teeRegistered (teeId : Hash) (owner : Address) (teeType : UInt8)
  | teeDisabled (teeId : Hash)
  | teeEnabled (teeId : Hash)
  | awsCertificateUpdated (certHash : Hash)
  | heartbeatReceived (teeId : Hash) (timestamp : ℕ)
  | ohttpConfigRegistered (teeId : Hash) (keyId : UInt8) (kemId kdfId aeadId : UInt16)
      (publicKeyHash keyConfigHash : Hash)

structure Registry where
  hasRole : Hash → Address → Bool
  getRoleAdmin : Hash → Hash
  awsRootCertificate : Bytes
  heartbeatMaxAge : ℕ
  teeTypes : UInt8 → TEETypeInfo
  teeTypeList : List UInt8
  pcrRecords : UInt8 → Hash → ApprovedPCR
  pcrList : List PCRKey
  tees : Hash → TEEInfo
  enabledTEEList : UInt8 → List Hash
  enabledTEEIndex : UInt8 → Hash → ℕ
  teesByType : UInt8 → List Hash
  teesByOwner : Address → List Hash
  events : List RegistryEvent

inductive RegistryError where
  | accessControlUnauthorizedAccount (account : Address) (neededRole : Hash)
  | accessControlBadConfirmation
  | teeTypeExists
  | invalidTEEType
  | pcrNotApproved
  | teeAlreadyExists
  | teeNotFound
  | teeNotEnabled
  | notTEEOwner
  | attestationInvalid (reason : String)
  | heartbeatSignatureInvalid
  | heartbeatTimestampTooOld
  | heartbeatTimestampInFuture
  | ohttpConfigInvalid
  | ohttpConfigSignatureInvalid
  /-- A revert of the verifier, passed on. -/
  | verifierReverted
  /-- An arithmetic underflow or an access outside an array. -/
  | panic (fault : IndexFault)
  deriving DecidableEq, Repr

/-- A call's block time and sender. -/
structure Msg where
  timestamp : ℕ
  sender : Address

namespace Registry

variable (env : RegistryEnv) (msg : Msg) (s : Registry) (teeId : Hash) (teeType : UInt8)

def emit (event : RegistryEvent) : Registry := { s with events := s.events ++ [event] }

/-! Roles. -/

def grant (role : Hash) (account sender : Address) : Registry :=
  if s.hasRole role account then s
  else emit { s with
    hasRole := update s.hasRole role (update (s.hasRole role) account true) }
    (.roleGranted role account sender)

def revoke (role : Hash) (account sender : Address) : Registry :=
  if s.hasRole role account then emit { s with
    hasRole := update s.hasRole role (update (s.hasRole role) account false) }
    (.roleRevoked role account sender)
  else s

/-- The `onlyRole` modifier. -/
def onlyRole (msg : Msg) (role : Hash) : Except RegistryError Unit :=
  if s.hasRole role msg.sender then .ok ()
  else .error (.accessControlUnauthorizedAccount msg.sender role)

def grantRole (role : Hash) (account : Address) (s : Registry) : Except RegistryError Registry := do
  s.onlyRole msg (s.getRoleAdmin role)
  pure (s.grant role account msg.sender)

def revokeRole (role : Hash) (account : Address) (s : Registry) : Except RegistryError Registry := do
  s.onlyRole msg (s.getRoleAdmin role)
  pure (s.revoke role account msg.sender)

def renounceRole (role : Hash) (callerConfirmation : Address) (s : Registry) :
    Except RegistryError Registry :=
  if callerConfirmation ≠ msg.sender then .error .accessControlBadConfirmation
  else .ok (s.revoke role callerConfirmation msg.sender)

/-! Types and measurements. -/

def isValidTEEType (typeId : UInt8) : Bool := (s.teeTypes typeId).addedAt ≠ 0

def isPCRApproved (pcrHash : Hash) : Bool := (s.pcrRecords teeType pcrHash).approved

def requirePCRValidForTEE (pcrHash : Hash) (teeType : UInt8) : Except RegistryError Unit :=
  if s.isPCRApproved teeType pcrHash then .ok () else .error .pcrNotApproved

def computePCRHash (pcrs : PCRMeasurements) : Hash :=
  env.keccak256 (pcrs.pcr0 ++ pcrs.pcr1 ++ pcrs.pcr2)

def setAWSRootCertificate (certificate : Bytes) (s : Registry) : Except RegistryError Registry := do
  s.onlyRole msg defaultAdminRole
  pure ({ s with awsRootCertificate := certificate }.emit
    (.awsCertificateUpdated (env.keccak256 certificate)))

def addTEEType (typeId : UInt8) (name : String) (s : Registry) : Except RegistryError Registry := do
  s.onlyRole msg defaultAdminRole
  if (s.teeTypes typeId).addedAt ≠ 0 then .error .teeTypeExists
  else pure ({ s with
    teeTypes := update s.teeTypes typeId ⟨name, msg.timestamp⟩
    teeTypeList := s.teeTypeList ++ [typeId] }.emit (.teeTypeAdded typeId name))

def setPCR (pcrHash : Hash) (pcr : ApprovedPCR) : Registry :=
  { s with
    pcrRecords := update s.pcrRecords teeType
      (update (s.pcrRecords teeType) pcrHash pcr) }

def approvePCR (pcrs : PCRMeasurements) (version : String)
    (teeType : UInt8) (s : Registry) : Except RegistryError Registry := do
  s.onlyRole msg defaultAdminRole
  if !s.isValidTEEType teeType then .error .invalidTEEType
  else
    let pcrHash := computePCRHash env pcrs
    let isNew := (s.pcrRecords teeType pcrHash).approvedAt = 0
    let s := s.setPCR teeType pcrHash ⟨true, teeType, msg.timestamp, version⟩
    let s := if isNew then { s with pcrList := s.pcrList ++ [⟨pcrHash, teeType⟩] } else s
    pure (s.emit (.pcrApproved pcrHash teeType version))

/-! The enabled list of a type, with its index. -/

def listing : Listing Hash := ⟨s.enabledTEEList teeType, s.enabledTEEIndex teeType⟩

def setListing (l : Listing Hash) : Registry :=
  { s with
    enabledTEEList := update s.enabledTEEList teeType l.items
    enabledTEEIndex := update s.enabledTEEIndex teeType l.index }

def setTEE (tee : TEEInfo) : Registry := { s with tees := update s.tees teeId tee }

def setEnabled (enabled : Bool) : Registry :=
  s.setTEE teeId { s.tees teeId with enabled := enabled }

def addToEnabledList : Registry := s.setListing teeType (push (s.listing teeType) teeId)

/-- Swap-and-pop, with the checks the compiler puts on every array access. -/
def removeFromEnabledList : Except RegistryError Registry :=
  ((remove (s.listing teeType) teeId).mapError .panic).map (s.setListing teeType)

/-- The loop of `revokePCR`, counting down while the list shrinks under it. -/
def revokeLoop (pcrHash : Hash) (teeType : UInt8) : ℕ → Registry → Except RegistryError Registry
  | 0, s => .ok s
  | i + 1, s =>
    match (s.enabledTEEList teeType)[i]? with
    | none => .error (.panic .outOfBounds)
    | some teeId =>
      if (s.tees teeId).pcrHash = pcrHash then do
        let s ← (s.setEnabled teeId false).removeFromEnabledList teeId teeType
        revokeLoop pcrHash teeType i (s.emit (.teeDisabled teeId))
      else revokeLoop pcrHash teeType i s

def revokePCR (pcrHash : Hash) (teeType : UInt8) (s : Registry) : Except RegistryError Registry := do
  s.onlyRole msg defaultAdminRole
  if !s.isPCRApproved teeType pcrHash then .error .pcrNotApproved
  else do
    let s := s.setPCR teeType pcrHash { s.pcrRecords teeType pcrHash with approved := false }
    let s ← revokeLoop pcrHash teeType (s.enabledTEEList teeType).length s
    pure (s.emit (.pcrRevoked pcrHash teeType))

/-! Registration. -/

def computeOHTTPConfigHash (ohttp : OHTTPConfigInput) : Hash :=
  env.keccak256 ((ohttpConfigDomainSeparator env).toList ++ teeId.toList ++
    uint256Bytes ohttp.keyId.toNat ++ uint256Bytes ohttp.kemId.toNat ++
    uint256Bytes ohttp.kdfId.toNat ++ uint256Bytes ohttp.aeadId.toNat ++
    (env.keccak256 ohttp.publicKey).toList ++ (env.keccak256 ohttp.keyConfig).toList)

def buildOHTTPConfig (signingPublicKey : Bytes)
    (ohttp : OHTTPConfigInput) : Except RegistryError OHTTPConfig :=
  if ohttp.publicKey.length = 0 ∨ ohttp.keyConfig.length = 0 then .error .ohttpConfigInvalid
  else if ohttp.kemId ≠ kemIdX25519HkdfSha256 then .error .ohttpConfigInvalid
  else if ohttp.publicKey.length ≠ x25519PublicKeySize then .error .ohttpConfigInvalid
  else match env.verifyRSAPSS signingPublicKey (computeOHTTPConfigHash env teeId ohttp)
      ohttp.signature with
    | none => .error .verifierReverted
    | some false => .error .ohttpConfigSignatureInvalid
    | some true => .ok ⟨ohttp.keyId, ohttp.kemId, ohttp.kdfId, ohttp.aeadId, ohttp.publicKey,
        ohttp.keyConfig, ohttp.signature, msg.timestamp⟩

structure Registration where
  attestationDocument : Bytes
  signingPublicKey : Bytes
  tlsCertificate : Bytes
  paymentAddress : Address
  endpoint : String
  teeType : UInt8
  ohttp : OHTTPConfigInput

/-- The record of a new TEE and its entries in the indexes. -/
def storeTEE (r : Registration) (teeId pcrHash : Hash)
    (ohttpConfig : OHTTPConfig) (s : Registry) : Registry :=
  let s := s.setTEE teeId ⟨msg.sender, r.paymentAddress, r.endpoint, r.signingPublicKey,
    r.tlsCertificate, pcrHash, r.teeType, true, msg.timestamp, msg.timestamp, ohttpConfig⟩
  let s := s.addToEnabledList teeId r.teeType
  let s := { s with
    teesByType := update s.teesByType r.teeType (s.teesByType r.teeType ++ [teeId])
    teesByOwner := update s.teesByOwner msg.sender (s.teesByOwner msg.sender ++ [teeId]) }
  (s.emit (.teeRegistered teeId msg.sender r.teeType)).emit
    (.ohttpConfigRegistered teeId r.ohttp.keyId r.ohttp.kemId r.ohttp.kdfId r.ohttp.aeadId
      (env.keccak256 r.ohttp.publicKey) (env.keccak256 r.ohttp.keyConfig))

def registerTEEWithAttestation (r : Registration) (s : Registry) : Except RegistryError Registry := do
  s.onlyRole msg (teeOperator env)
  if !s.isValidTEEType r.teeType then .error .invalidTEEType
  else
    let teeId := env.keccak256 r.signingPublicKey
    if (s.tees teeId).registeredAt ≠ 0 then .error .teeAlreadyExists
    else
      match env.verifyAttestation msg.timestamp r.attestationDocument r.signingPublicKey
          r.tlsCertificate s.awsRootCertificate with
      | none => .error .verifierReverted
      | some (false, _) => .error (.attestationInvalid "Attestation document verification failed")
      | some (true, pcrHash) => do
        s.requirePCRValidForTEE pcrHash r.teeType
        let ohttpConfig ← buildOHTTPConfig env msg teeId r.signingPublicKey r.ohttp
        pure (s.storeTEE env msg r teeId pcrHash ohttpConfig)

/-! Disabling, enabling and heartbeats. -/

def onlyTEEOwnerOrAdmin (s : Registry) : Except RegistryError Unit :=
  if (s.tees teeId).registeredAt = 0 then .error .teeNotFound
  else
    let isAdmin := s.hasRole defaultAdminRole msg.sender
    let isOwnerOperator := (s.tees teeId).owner = msg.sender && s.hasRole (teeOperator env) msg.sender
    if !isAdmin && !isOwnerOperator then .error .notTEEOwner else .ok ()

def disableTEE (s : Registry) : Except RegistryError Registry := do
  s.onlyTEEOwnerOrAdmin env msg teeId
  if !(s.tees teeId).enabled then .error .teeNotEnabled
  else do
    let s ← (s.setEnabled teeId false).removeFromEnabledList teeId (s.tees teeId).teeType
    pure (s.emit (.teeDisabled teeId))

def enableTEE (s : Registry) : Except RegistryError Registry := do
  s.onlyTEEOwnerOrAdmin env msg teeId
  if (s.tees teeId).enabled then pure s
  else do
    s.requirePCRValidForTEE (s.tees teeId).pcrHash (s.tees teeId).teeType
    pure (((s.setEnabled teeId true).addToEnabledList teeId (s.tees teeId).teeType).emit (.teeEnabled teeId))

def heartbeatHash (timestamp : ℕ) : Hash := env.keccak256 (teeId.toList ++ uint256Bytes timestamp)

/-- Anyone may relay a heartbeat; its block time is what is stored. -/
def heartbeat (timestamp : ℕ) (signature : Bytes) (s : Registry) : Except RegistryError Registry :=
  let tee := s.tees teeId
  if tee.registeredAt = 0 then .error .teeNotFound
  else if !tee.enabled then .error .teeNotEnabled
  else if msg.timestamp < timestamp then .error .heartbeatTimestampInFuture
  else if s.heartbeatMaxAge < msg.timestamp - timestamp then .error .heartbeatTimestampTooOld
  else match env.verifyRSAPSS tee.publicKey (heartbeatHash env teeId timestamp) signature with
    | none => .error .verifierReverted
    | some false => .error .heartbeatSignatureInvalid
    | some true => .ok ((s.setTEE teeId { tee with lastHeartbeatAt := msg.timestamp }).emit
        (.heartbeatReceived teeId timestamp))

def setHeartbeatMaxAge (maxAge : ℕ) (s : Registry) : Except RegistryError Registry := do
  s.onlyRole msg defaultAdminRole
  pure { s with heartbeatMaxAge := maxAge }

/-- `isTEEActive` at a block time. -/
def isTEEActive (timestamp : ℕ) (teeId : Hash) (s : Registry) : Except RegistryError Bool :=
  let tee := s.tees teeId
  if !tee.enabled then .ok false
  else if timestamp < tee.lastHeartbeatAt then .error (.panic .underflow)
  else if s.heartbeatMaxAge < timestamp - tee.lastHeartbeatAt then .ok false
  else .ok (s.isPCRApproved tee.teeType tee.pcrHash)

end Registry

/-! Runs. -/

inductive Call where
  | grantRole (role : Hash) (account : Address)
  | revokeRole (role : Hash) (account : Address)
  | renounceRole (role : Hash) (callerConfirmation : Address)
  | setAWSRootCertificate (certificate : Bytes)
  | addTEEType (typeId : UInt8) (name : String)
  | approvePCR (pcrs : PCRMeasurements) (version : String) (teeType : UInt8)
  | revokePCR (pcrHash : Hash) (teeType : UInt8)
  | registerTEEWithAttestation (r : Registry.Registration)
  | disableTEE (teeId : Hash)
  | enableTEE (teeId : Hash)
  | heartbeat (teeId : Hash) (timestamp : ℕ) (signature : Bytes)
  | setHeartbeatMaxAge (maxAge : ℕ)

def exec (env : RegistryEnv) (msg : Msg) (s : Registry) : Call → Except RegistryError Registry
  | .grantRole role account => s.grantRole msg role account
  | .revokeRole role account => s.revokeRole msg role account
  | .renounceRole role callerConfirmation => s.renounceRole msg role callerConfirmation
  | .setAWSRootCertificate certificate => s.setAWSRootCertificate env msg certificate
  | .addTEEType typeId name => s.addTEEType msg typeId name
  | .approvePCR pcrs version teeType => s.approvePCR env msg pcrs version teeType
  | .revokePCR pcrHash teeType => s.revokePCR msg pcrHash teeType
  | .registerTEEWithAttestation r => s.registerTEEWithAttestation env msg r
  | .disableTEE teeId => s.disableTEE env msg teeId
  | .enableTEE teeId => s.enableTEE env msg teeId
  | .heartbeat teeId timestamp signature => s.heartbeat env msg teeId timestamp signature
  | .setHeartbeatMaxAge maxAge => s.setHeartbeatMaxAge msg maxAge

/-- One transaction: a revert changes nothing. -/
def transact (env : RegistryEnv) (msg : Msg) (call : Call) (s : Registry) : Registry :=
  match exec env msg s call with
  | .ok after => after
  | .error _ => s

def emptyTEE : TEEInfo :=
  ⟨Vector.replicate 20 0, Vector.replicate 20 0, "", [], [], zeroHash, 0, false, 0, 0,
    ⟨0, 0, 0, 0, [], [], [], 0⟩⟩

/-- The storage after the constructor. -/
def deploy (env : RegistryEnv) (deployer : Address) : Registry :=
  let blank : Registry :=
    { hasRole := fun _ _ => false
      getRoleAdmin := fun _ => defaultAdminRole
      awsRootCertificate := []
      heartbeatMaxAge := 1800
      teeTypes := fun _ => ⟨"", 0⟩
      teeTypeList := []
      pcrRecords := fun _ _ => ⟨false, 0, 0, ""⟩
      pcrList := []
      tees := fun _ => emptyTEE
      enabledTEEList := fun _ => []
      enabledTEEIndex := fun _ _ => 0
      teesByType := fun _ => []
      teesByOwner := fun _ => []
      events := [] }
  (blank.grant defaultAdminRole deployer deployer).grant (teeOperator env) deployer deployer

/-- What any calls of any senders lead to, and the time of the last block. Block times do
not go back. -/
inductive Reachable (env : RegistryEnv) : Registry → ℕ → Prop
  | deployed (deployer : Address) (now : ℕ) : Reachable env (deploy env deployer) now
  | call {s : Registry} {now : ℕ} (before : Reachable env s now) (msg : Msg) (call : Call)
      (later : now ≤ msg.timestamp) : Reachable env (transact env msg call s) msg.timestamp

end OgEvm.TeeRegistry
