import OgEvm.TeeRegistryInvariant

/- The attestation half of the TEE precompile at 0x900. COSE decoding, CBOR decoding and
the certificate checks are arbitrary functions; what the precompile does around them,
and the hash it returns for the measurements, is modelled. -/
namespace OgEvm.TeeRegistry

open ExceptFacts Registry

/-! The decoded document. -/

structure COSESign1Message where
  protectedHeader : Bytes
  payload : Bytes
  signature : Bytes

/-- The fields of the document that the verification reads. -/
structure AttestationDocument where
  timestamp : ℕ
  pcrs : ℕ → Option Bytes
  certificate : Bytes
  caBundle : List Bytes
  userData : Bytes

structure AttestationResult where
  userData : Bytes
  pcrs : PCRMeasurements
  timestamp : ℕ

inductive AttestationError where
  | coseDecode
  | attestationDecode
  | missingPCR (index : ℕ)
  | timestamp
  | signature
  | certificateChain
  | emptyKey
  | userDataLength (got : ℕ)
  | publicKeyBindingFailed
  deriving DecidableEq, Repr

structure NitroEnv where
  keccak256 : Bytes → Hash
  sha256 : Bytes → Bytes
  decodeCOSESign1 : Bytes → Option COSESign1Message
  unmarshal : Bytes → Option AttestationDocument
  verifyCOSESignatureES384 : COSESign1Message → (certificate : Bytes) → Bool
  validateCertificateChain : (certificate : Bytes) → (caBundle : List Bytes) → (rootCertPEM : Bytes) →
    (currentTime : ℕ) → Bool

/-! Constants. -/

def maxAttestationSize : ℕ := 16 * 1024

def maxCertificateSize : ℕ := 8 * 1024

def maxPublicKeySize : ℕ := 8 * 1024

def maxPCRSize : ℕ := 64

def maxAttestationAgeSec : ℕ := 300

def maxClockSkewSec : ℕ := 60

def minValidTimestampMs : ℕ := 1738281600000

def nitridingUserDataLength : ℕ := 68

def defaultAWSNitroRootCertPEM : Bytes :=
  ("\n".intercalate
    ["-----BEGIN CERTIFICATE-----",
     "MIICETCCAZagAwIBAgIRAPkxdWgbkK/hHUbMtOTn+FYwCgYIKoZIzj0EAwMwSTEL",
     "MAkGA1UEBhMCVVMxDzANBgNVBAoMBkFtYXpvbjEMMAoGA1UECwwDQVdTMRswGQYD",
     "VQQDDBJhd3Mubml0cm8tZW5jbGF2ZXMwHhcNMTkxMDI4MTMyODA1WhcNNDkxMDI4",
     "MTQyODA1WjBJMQswCQYDVQQGEwJVUzEPMA0GA1UECgwGQW1hem9uMQwwCgYDVQQL",
     "DANBV1MxGzAZBgNVBAMMEmF3cy5uaXRyby1lbmNsYXZlczB2MBAGByqGSM49AgEG",
     "BSuBBAAiA2IABPwCVOumCMHzaHDimtqQvkY4MpJzbolL//Zy2YlES1BR5TSksfbb",
     "48C8WBoyt7F2Bw7eEtaaP+ohG2bnUs990d0JX28TcPQXCEPZ3BABIeTPYwEoCWZE",
     "h8l5YoQwTcU/9KNCMEAwDwYDVR0TAQH/BAUwAwEB/zAdBgNVHQ4EFgQUkCW1DdkF",
     "R+eWw5b6cp3PmanfS5YwDgYDVR0PAQH/BAQDAgGGMAoGCCqGSM49BAMDA2kAMGYC",
     "MQCjfy+Rocm9Xue4YnwWmNJVA44fA0P5W2OpYow9OYCVRaEevL8uO1XYru5xtMPW",
     "rfMCMQCi85sWBbJwKKXdS6BptQFuZbT73o/gBh1qUxl/nNr12UO8Yfwr6wPLb+6N",
     "IwLz3/Y=",
     "-----END CERTIFICATE-----"]).toUTF8.toList

/-! Verification of a document. -/

def validateAttestationTimestamp (attestationTimestampMs blockTimeSec : ℕ) : Except AttestationError Unit :=
  if attestationTimestampMs < minValidTimestampMs then .error .timestamp
  else
    let attestationTimeSec := attestationTimestampMs / 1000
    if attestationTimeSec < blockTimeSec ∧ maxAttestationAgeSec < blockTimeSec - attestationTimeSec then
      .error .timestamp
    else if blockTimeSec < attestationTimeSec ∧ maxClockSkewSec < attestationTimeSec - blockTimeSec then
      .error .timestamp
    else .ok ()

def extractPCR (doc : AttestationDocument) (index : ℕ) : Except AttestationError Bytes :=
  match doc.pcrs index with
  | none => .error (.missingPCR index)
  | some pcr => .ok pcr

variable (env : NitroEnv)

/-- Steps 2 to 4: the document and its first three measurements, of any length. The base64
text of step 1 is the encoding the precompile has just made of these bytes. -/
def decodeDocument (attestation : Bytes) :
    Except AttestationError (COSESign1Message × AttestationDocument × PCRMeasurements) := do
  let coseMsg ← (match env.decodeCOSESign1 attestation with
    | none => .error .coseDecode
    | some coseMsg => .ok coseMsg)
  let attestDoc ← (match env.unmarshal coseMsg.payload with
    | none => .error .attestationDecode
    | some attestDoc => .ok attestDoc)
  let pcr0 ← extractPCR attestDoc 0
  let pcr1 ← extractPCR attestDoc 1
  let pcr2 ← extractPCR attestDoc 2
  pure (coseMsg, attestDoc, ⟨pcr0, pcr1, pcr2⟩)

/-- The precompile expects no nonce, so that step 6 is skipped. -/
def verifyAttestationDocument (attestation rootCertPEM : Bytes) (currentTime : ℕ) :
    Except AttestationError AttestationResult := do
  let (coseMsg, attestDoc, pcrs) ← decodeDocument env attestation
  validateAttestationTimestamp attestDoc.timestamp currentTime
  if !env.verifyCOSESignatureES384 coseMsg attestDoc.certificate then .error .signature
  else if !env.validateCertificateChain attestDoc.certificate attestDoc.caBundle rootCertPEM currentTime then
    .error .certificateChain
  else pure ⟨attestDoc.userData, pcrs, attestDoc.timestamp⟩

structure NitridingKeyHashes where
  tlsCertHash : Bytes
  signingKeyHash : Bytes

def parseNitridingUserData (userData : Bytes) : Except AttestationError NitridingKeyHashes :=
  if userData.length ≠ nitridingUserDataLength then .error (.userDataLength userData.length)
  else .ok ⟨(userData.drop 2).take 32, (userData.drop 36).take 32⟩

def verifyTLSCertificateBinding (tlsCertDER userData : Bytes) : Except AttestationError Unit :=
  if tlsCertDER = [] then .error .emptyKey
  else do
    let hashes ← parseNitridingUserData userData
    if hashes.tlsCertHash ≠ env.sha256 tlsCertDER then .error .publicKeyBindingFailed else pure ()

def verifySigningKeyBinding (signingKeyDER userData : Bytes) : Except AttestationError Unit :=
  if signingKeyDER = [] then .error .emptyKey
  else do
    let hashes ← parseNitridingUserData userData
    if hashes.signingKeyHash ≠ env.sha256 signingKeyDER then .error .publicKeyBindingFailed else pure ()

/-! The precompile. -/

/-- `computePCRHash` of the precompile: the hash of the concatenation, and the zero hash for
a measurement that is too long. -/
def hashPCRs (pcrs : PCRMeasurements) : Hash :=
  if maxPCRSize < pcrs.pcr0.length ∨ maxPCRSize < pcrs.pcr1.length ∨ maxPCRSize < pcrs.pcr2.length then
    zeroHash
  else env.keccak256 (pcrs.pcr0 ++ pcrs.pcr1 ++ pcrs.pcr2)

/-- The arguments of `verifyAttestation` and the time of the block. -/
structure Attestation where
  now : ℕ
  document : Bytes
  signingPublicKey : Bytes
  tlsCertificate : Bytes
  rootCertificate : Bytes

/-- The checks of `verifyAttestation`, in order, and the measurements of the document. -/
def Attestation.check (a : Attestation) : Except AttestationError PCRMeasurements := do
  let rootCertificate :=
    if a.rootCertificate = [] then defaultAWSNitroRootCertPEM else a.rootCertificate
  let result ← verifyAttestationDocument env a.document rootCertificate a.now
  verifyTLSCertificateBinding env a.tlsCertificate result.userData
  verifySigningKeyBinding env a.signingPublicKey result.userData
  pure result.pcrs

/-- `verifyAttestation`: every failure is reported as invalid with the zero hash. -/
def Attestation.verify (a : Attestation) : Bool × Hash :=
  if maxAttestationSize < a.document.length ∨ maxPublicKeySize < a.signingPublicKey.length ∨
      maxCertificateSize < a.tlsCertificate.length ∨ maxCertificateSize < a.rootCertificate.length then
    (false, zeroHash)
  else if a.document = [] ∨ a.signingPublicKey = [] ∨ a.tlsCertificate = [] then (false, zeroHash)
  else match a.check env with
    | .error _ => (false, zeroHash)
    | .ok pcrs => (true, hashPCRs env pcrs)

/-- The registry with this precompile as its verifier. -/
def NitroEnv.registry (verifyRSAPSS : Bytes → Hash → Bytes → Option Bool) : RegistryEnv where
  keccak256 := env.keccak256
  verifyAttestation now document signingPublicKey tlsCertificate rootCertificate :=
    some (Attestation.verify env ⟨now, document, signingPublicKey, tlsCertificate, rootCertificate⟩)
  verifyRSAPSS := verifyRSAPSS

/-! What a hash says about the measurements behind it. -/

/-- The bytes that are hashed. -/
def PCRMeasurements.concat (pcrs : PCRMeasurements) : Bytes := pcrs.pcr0 ++ pcrs.pcr1 ++ pcrs.pcr2

/-- No measurement is longer than the precompile hashes. -/
def PCRMeasurements.Sized (pcrs : PCRMeasurements) : Prop :=
  pcrs.pcr0.length ≤ maxPCRSize ∧ pcrs.pcr1.length ≤ maxPCRSize ∧ pcrs.pcr2.length ≤ maxPCRSize

/-- The two are not different cuts of the same bytes. -/
def SameCut (p q : PCRMeasurements) : Prop :=
  p.concat = q.concat → p.pcr0.length = q.pcr0.length ∧ p.pcr1.length = q.pcr1.length

section

variable {env : NitroEnv} {p q : PCRMeasurements}

theorem SameCut.eq (same : SameCut p q) (concat : p.concat = q.concat) : p = q := by
  obtain ⟨first, second⟩ := same concat
  rcases p with ⟨p0, p1, p2⟩
  rcases q with ⟨q0, q1, q2⟩
  have heads : (p0 ++ p1).length = (q0 ++ q1).length := by
    rw [List.length_append, List.length_append, first, second]
  obtain ⟨heads, rfl⟩ := List.append_inj concat heads
  obtain ⟨rfl, rfl⟩ := List.append_inj heads first
  rfl

theorem hashPCRs_sized (sized : p.Sized) : hashPCRs env p = env.keccak256 p.concat := by
  obtain ⟨first, second, third⟩ := sized
  unfold hashPCRs
  rw [if_neg (by omega)]
  rfl

theorem hashPCRs_long (long : ¬ p.Sized) : hashPCRs env p = zeroHash := by
  unfold hashPCRs
  rw [if_pos]
  by_contra short
  simp only [not_or, not_lt] at short
  exact long short

theorem verifyAttestationDocument_pcrs {attestation root : Bytes} {now : ℕ} {result : AttestationResult}
    {coseMsg : COSESign1Message} {doc : AttestationDocument}
    (carried : decodeDocument env attestation = .ok (coseMsg, doc, p))
    (verified : verifyAttestationDocument env attestation root now = .ok result) : result.pcrs = p := by
  obtain ⟨decoded, found, verified⟩ := bind_ok verified
  rw [carried] at found
  cases found
  obtain ⟨-, -, verified⟩ := bind_ok verified
  split at verified
  · cases verified
  split at verified
  · cases verified
  · cases verified
    rfl

/-- An accepted document is reported with the hash of the measurements it carries. -/
theorem Attestation.verify_hash {a : Attestation} {hash : Hash} (accepted : a.verify env = (true, hash))
    {coseMsg : COSESign1Message} {doc : AttestationDocument}
    (carried : decodeDocument env a.document = .ok (coseMsg, doc, p)) : hash = hashPCRs env p := by
  unfold Attestation.verify at accepted
  split at accepted
  · cases accepted
  split at accepted
  · cases accepted
  cases checked : a.check env with
  | error reason =>
    rw [checked] at accepted
    cases accepted
  | ok pcrs =>
    rw [checked] at accepted
    obtain ⟨-, same⟩ := Prod.mk.inj accepted
    obtain ⟨result, verified, checked⟩ := bind_ok checked
    obtain ⟨-, -, checked⟩ := bind_ok checked
    obtain ⟨-, -, checked⟩ := bind_ok checked
    cases checked
    rw [← same, verifyAttestationDocument_pcrs carried verified]

/-! What the registry admits. -/

variable {registryEnv : RegistryEnv} {s t : Registry} {msg : Msg} {version : String} {teeType : UInt8}

theorem approvePCR_records (approved : s.approvePCR registryEnv msg p version teeType = .ok t) :
    t.pcrRecords = (s.setPCR teeType (computePCRHash registryEnv p)
      ⟨true, teeType, msg.timestamp, version⟩).pcrRecords := by
  obtain ⟨-, -, approved⟩ := bind_ok approved
  split at approved
  · cases approved
  · cases approved
    simp only [emit]
    split <;> rfl

/-- An approval admits what has the hash of the approved measurements and nothing else. -/
theorem approvePCR_admits {hash : Hash} (approved : s.approvePCR registryEnv msg p version teeType = .ok t) :
    t.isPCRApproved teeType hash = true ↔
      hash = computePCRHash registryEnv p ∨ s.isPCRApproved teeType hash = true := by
  have records := approvePCR_records approved
  have read := setPCR_approved s teeType teeType (computePCRHash registryEnv p) hash
    ⟨true, teeType, msg.timestamp, version⟩
  unfold isPCRApproved at read ⊢
  rw [records, read]
  by_cases here : hash = computePCRHash registryEnv p
  · rw [if_pos ⟨rfl, here⟩]
    simp [here]
  · rw [if_neg fun both => here both.2]
    simp [here]

theorem grant_hasRole (s : Registry) (role : Hash) (account sender : Address) :
    (s.grant role account sender).hasRole role account = true := by
  unfold Registry.grant
  split
  · assumption
  · simp [emit]

theorem grant_keeps {role : Hash} {account : Address} (held : s.hasRole role account = true)
    (granted : Hash) (grantee sender : Address) : (s.grant granted grantee sender).hasRole role account = true := by
  unfold Registry.grant
  split
  · exact held
  · simp only [emit, Function.update_apply]
    split
    · rename_i same
      subst same
      rw [Function.update_apply]
      split
      · rfl
      · exact held
    · exact held

/-- An administrator who adds a type can then approve any measurements for it. -/
theorem approvePCR_first (registryEnv : RegistryEnv) (p : PCRMeasurements) :
    ∃ s t : Registry, Reachable registryEnv s 1 ∧ (∀ hash, s.isPCRApproved 1 hash = false) ∧
      s.approvePCR registryEnv ⟨1, admin⟩ p "" 1 = .ok t := by
  have owner : (deploy registryEnv admin).hasRole defaultAdminRole admin = true :=
    grant_keeps (grant_hasRole _ _ _ _) _ _ _
  have blank : (deploy registryEnv admin).teeTypes = fun _ => ⟨"", 0⟩ :=
    (grant_same _ _ _ _).types.trans (grant_same _ _ _ _).types
  have unapproved : (deploy registryEnv admin).pcrRecords = fun _ _ => ⟨false, 0, 0, ""⟩ :=
    (grant_same _ _ _ _).pcrs.trans (grant_same _ _ _ _).pcrs
  have typed : ∃ s, exec registryEnv ⟨1, admin⟩ (deploy registryEnv admin) (.addTEEType 1 "") = .ok s ∧
      s.hasRole defaultAdminRole admin = true ∧ s.isValidTEEType 1 = true ∧
      s.pcrRecords = fun _ _ => ⟨false, 0, 0, ""⟩ := by
    simp [exec, addTEEType, onlyRole, owner, blank, bind, Except.bind, pure, Except.pure, emit,
      isValidTEEType, unapproved]
  obtain ⟨s, added, role, valid, records⟩ := typed
  have start : Reachable registryEnv (deploy registryEnv admin) 1 := .deployed admin 1
  have reached := start.call ⟨1, admin⟩ (.addTEEType 1 "") (le_refl 1)
  unfold transact at reached
  rw [added] at reached
  have approved : ∃ t, s.approvePCR registryEnv ⟨1, admin⟩ p "" 1 = .ok t := by
    simp [approvePCR, onlyRole, role, valid, bind, Except.bind, pure, Except.pure]
  obtain ⟨t, approved⟩ := approved
  refine ⟨s, t, reached, ?_, approved⟩
  intro hash
  rw [isPCRApproved, records]

/-- Two accepted documents and one measurement: what the registry reads off the hash. -/
structure Identified (registryEnv : RegistryEnv) (p q m : PCRMeasurements) (first second : Hash) : Prop where
  image : first = second → p = q
  firstHash : first = computePCRHash registryEnv p
  secondHash : second = computePCRHash registryEnv q
  /-- The approval that admits the first document approved its own measurements. -/
  admitted : ∀ {s t : Registry} {now : ℕ} {msg : Msg} {version : String} {teeType : UInt8},
    Reachable registryEnv s now → s.isPCRApproved teeType first = false →
    s.approvePCR registryEnv msg m version teeType = .ok t → t.isPCRApproved teeType first = true → m = p

/-- The returned hash identifies one image exactly if no measurement is too long and the
measurements are not different cuts of the same bytes. -/
theorem pcrHash_identifies_iff (env : NitroEnv) (verifyRSAPSS : Bytes → Hash → Bytes → Option Bool)
    {a b : Attestation} {p q m : PCRMeasurements} {first second : Hash}
    {firstMsg secondMsg : COSESign1Message} {firstDoc secondDoc : AttestationDocument}
    (firstAccepted : a.verify env = (true, first)) (secondAccepted : b.verify env = (true, second))
    (firstCarried : decodeDocument env a.document = .ok (firstMsg, firstDoc, p))
    (secondCarried : decodeDocument env b.document = .ok (secondMsg, secondDoc, q))
    (collisionFree : Set.InjOn env.keccak256 {p.concat, q.concat, m.concat})
    (firstNonzero : env.keccak256 p.concat ≠ zeroHash) (secondNonzero : env.keccak256 q.concat ≠ zeroHash) :
    Identified (env.registry verifyRSAPSS) p q m first second ↔
      p.Sized ∧ q.Sized ∧ SameCut p q ∧ SameCut m p := by
  have firstIs := a.verify_hash firstAccepted firstCarried
  have secondIs := b.verify_hash secondAccepted secondCarried
  have solidity : ∀ pcrs, computePCRHash (env.registry verifyRSAPSS) pcrs = env.keccak256 pcrs.concat :=
    fun _ => rfl
  constructor
  · rintro ⟨image, firstHash, secondHash, admitted⟩
    have firstSized : p.Sized := by
      by_contra long
      rw [firstIs, hashPCRs_long long, solidity] at firstHash
      exact firstNonzero firstHash.symm
    have secondSized : q.Sized := by
      by_contra long
      rw [secondIs, hashPCRs_long long, solidity] at secondHash
      exact secondNonzero secondHash.symm
    refine ⟨firstSized, secondSized, ?_, ?_⟩
    · intro concat
      have same : p = q := image (by rw [firstHash, secondHash, solidity, solidity, concat])
      rw [same]
      exact ⟨rfl, rfl⟩
    · intro concat
      obtain ⟨s, t, reached, fresh, approved⟩ := approvePCR_first (env.registry verifyRSAPSS) m
      have same : m = p := admitted reached (fresh first) approved
        ((approvePCR_admits approved).mpr (Or.inl (by rw [firstHash, solidity, solidity, concat])))
      rw [same]
      exact ⟨rfl, rfl⟩
  · rintro ⟨firstSized, secondSized, cut, approvedCut⟩
    rw [hashPCRs_sized firstSized] at firstIs
    rw [hashPCRs_sized secondSized] at secondIs
    refine ⟨?_, firstIs, secondIs, ?_⟩
    · intro same
      rw [firstIs, secondIs] at same
      exact cut.eq (collisionFree (by simp) (by simp) same)
    · intro s t now msg version teeType _ before approved after
      rcases (approvePCR_admits approved).mp after with hash | already
      · rw [firstIs, solidity] at hash
        exact approvedCut.eq (collisionFree (by simp) (by simp) hash.symm)
      · rw [before] at already
        cases already

end

/-- Documents that are read as the length of PCR0, PCR0 and PCR1, and accepted. -/
def cutEnv : NitroEnv where
  keccak256 data := bytesToHash (1 :: data)
  sha256 _ := List.replicate 32 0
  decodeCOSESign1 data := some ⟨[], data, []⟩
  unmarshal payload :=
    let cut := (payload.headD 0).toNat
    some ⟨minValidTimestampMs, fun index =>
      if index = 0 then some (payload.tail.take cut) else if index = 1 then some (payload.tail.drop cut)
      else some [], [], [], List.replicate 68 0⟩
  verifyCOSESignatureES384 _ _ := true
  validateCertificateChain _ _ _ _ := true

def cutAttestation (document : Bytes) : Attestation := ⟨1738281600, document, [1], [1], [1]⟩

theorem pcrHash_identifies_iff_cut :
    Identified (cutEnv.registry fun _ _ _ => none) ⟨[4, 5], [6], []⟩ ⟨[4, 5], [7], []⟩ ⟨[4, 5], [6], []⟩
      (bytesToHash [1, 4, 5, 6]) (bytesToHash [1, 4, 5, 7]) := by
  have first : (cutAttestation [2, 4, 5, 6]).verify cutEnv = (true, bytesToHash [1, 4, 5, 6]) := by
    decide +kernel
  have second : (cutAttestation [2, 4, 5, 7]).verify cutEnv = (true, bytesToHash [1, 4, 5, 7]) := by
    decide +kernel
  refine (pcrHash_identifies_iff cutEnv (fun _ _ _ => none) first second rfl rfl ?_ ?_ ?_).mpr ?_
  · intro left leftIn right rightIn same
    simp only [PCRMeasurements.concat, Set.mem_insert_iff, Set.mem_singleton_iff] at leftIn rightIn
    rcases leftIn with rfl | rfl | rfl <;> rcases rightIn with rfl | rfl | rfl <;>
      first | rfl | exact absurd same (by decide +kernel)
  · decide +kernel
  · decide +kernel
  · refine ⟨?_, ?_, ?_, ?_⟩
    · exact ⟨by decide, by decide, by decide⟩
    · exact ⟨by decide, by decide, by decide⟩
    · intro _
      exact ⟨rfl, rfl⟩
    · intro _
      exact ⟨rfl, rfl⟩

/-- Two accepted documents with different images and one hash; and an accepted document
with a measurement of 65 bytes, whose hash is not that of the registry. -/
theorem pcrHash_confuses :
    (cutAttestation [2, 4, 5, 6]).verify cutEnv = (true, bytesToHash [1, 4, 5, 6]) ∧
      (cutAttestation [1, 4, 5, 6]).verify cutEnv = (true, bytesToHash [1, 4, 5, 6]) ∧
      ((decodeDocument cutEnv [2, 4, 5, 6]).map (·.2.2.pcr0)).toOption = some [4, 5] ∧
      ((decodeDocument cutEnv [1, 4, 5, 6]).map (·.2.2.pcr0)).toOption = some [4] ∧
      (cutAttestation (65 :: List.replicate 65 7)).verify cutEnv = (true, zeroHash) ∧
      computePCRHash (cutEnv.registry fun _ _ _ => none) ⟨List.replicate 65 7, [], []⟩ ≠ zeroHash := by
  refine ⟨?_, ?_, ?_, ?_, ?_, ?_⟩ <;> decide +kernel

end OgEvm.TeeRegistry
