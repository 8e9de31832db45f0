import Mathlib
import OgEvm.Eip712Encoding
import OgEvm.LibExcept

/- What an EIP-712 signature over a protobuf sign document binds. The typed data determines
each field that the amino JSON sign document is rebuilt from, and no other field. -/
namespace OgEvm.Eip712

open ExceptFacts

/-! ### Maps -/

theorem lookup_assign {α : Type} (key other : String) (value : α) (entries : List (String × α)) :
    (assign key value entries).lookup other = if other = key then some value else entries.lookup other := by
  induction entries with
  | nil =>
    by_cases same : other = key
    · simp [assign, same]
    · simp [assign, List.lookup_cons, same, beq_eq_false_iff_ne.mpr same]
  | cons entry rest ih =>
    obtain ⟨name, held⟩ := entry
    simp only [assign]
    by_cases first : name = key
    · subst first
      simp only [↓reduceIte, List.lookup_cons]
      by_cases same : other = name
      · simp [same]
      · simp [same, beq_eq_false_iff_ne.mpr same]
    · simp only [first, ↓reduceIte, List.lookup_cons, ih]
      by_cases named : other = name
      · subst named
        simp [first]
      · simp [beq_eq_false_iff_ne.mpr named]

theorem lookup_without {α : Type} (key other : String) (entries : List (String × α)) (apart : other ≠ key) :
    (entries.filter fun entry => entry.1 ≠ key).lookup other = entries.lookup other := by
  induction entries with
  | nil => rfl
  | cons entry rest ih =>
    obtain ⟨name, held⟩ := entry
    by_cases dropped : name = key
    · subst dropped
      simpa [List.filter_cons, List.lookup_cons, beq_eq_false_iff_ne.mpr apart] using ih
    · simp only [List.filter_cons, dropped, ne_eq, not_false_eq_true, decide_true, ↓reduceIte,
        List.lookup_cons] at ih ⊢
      rw [ih]

/-! ### The fields of the flattened payload -/

theorem msgFieldForIndex_inj {i j : ℕ} : msgFieldForIndex i = msgFieldForIndex j ↔ i = j := by
  rw [msgFieldForIndex, msgFieldForIndex, String.append_right_inj, Nat.toString_eq_repr,
    Nat.toString_eq_repr, Nat.repr_inj]

theorem msgFieldForIndex_ne (i : ℕ) {key : String} (other : key.toList.take 3 ≠ "msg".toList) :
    msgFieldForIndex i ≠ key := by
  intro same
  apply other
  rw [← same, msgFieldForIndex, String.toList_append]
  exact List.take_left' rfl

theorem msgFieldForIndex_ne_msgs (i : ℕ) : msgFieldForIndex i ≠ "msgs" := by
  intro same
  have number : toString i = "s" := (String.append_right_inj "msg").mp same
  have digits : Nat.toDigits 10 i = "s".toList := by
    rw [← number, Nat.toString_eq_repr, Nat.toList_repr]
  -- Read as a digit, the letter would be the number 67, which is printed otherwise.
  have read : i = Nat.ofDigitChars 10 "s".toList 0 := by
    rw [← digits, Nat.ofDigitChars_ten_toDigits]
  rw [read] at number
  revert number
  decide +kernel

theorem payloadWithNewMessage_ok {payload after : Payload} {msg : Json} {i : ℕ}
    (added : payloadWithNewMessage payload msg i = .ok after) : after = assign (msgFieldForIndex i) msg payload := by
  simp only [payloadWithNewMessage] at added
  split at added
  · cases added
  split at added
  · cases added
  exact (Except.ok.inj added).symm

/-- The messages stand at their own fields, counted from the given index. -/
theorem addMessages_message {msgs : List Json} {payload flattened : Payload} {i : ℕ}
    (added : addMessages payload msgs i = .ok flattened) (j : ℕ) : flattened.lookup (msgFieldForIndex j) =
      if i ≤ j ∧ j < i + msgs.length then msgs[j - i]? else payload.lookup (msgFieldForIndex j) := by
  induction msgs generalizing payload i with
  | nil =>
    cases added
    rw [if_neg]
    simp only [List.length_nil]
    omega
  | cons msg rest ih =>
    obtain ⟨next, stepped, added⟩ := bind_ok added
    rw [ih added, payloadWithNewMessage_ok stepped, lookup_assign]
    simp only [msgFieldForIndex_inj, List.length_cons]
    by_cases here : j = i
    · subst here
      rw [if_neg (by omega), if_pos rfl, if_pos (by omega), Nat.sub_self]
      rfl
    · by_cases later : i + 1 ≤ j ∧ j < i + 1 + rest.length
      · have shift : j - i = (j - (i + 1)) + 1 := by omega
        rw [if_pos later, if_pos (by omega), shift, List.getElem?_cons_succ]
      · rw [if_neg later, if_neg here, if_neg (by omega)]

/-- The other fields are left as they are. -/
theorem addMessages_other {msgs : List Json} {payload flattened : Payload} {i : ℕ}
    (added : addMessages payload msgs i = .ok flattened) {key : String}
    (other : ∀ j, msgFieldForIndex j ≠ key) : flattened.lookup key = payload.lookup key := by
  induction msgs generalizing payload i with
  | nil =>
    cases added
    rfl
  | cons msg rest ih =>
    obtain ⟨next, stepped, added⟩ := bind_ok added
    rw [ih added, payloadWithNewMessage_ok stepped, lookup_assign, if_neg (other i).symm]

section Flatten

variable {payload flattened : Payload} {msgs : List Json} {count : ℕ}

section

variable (flatten : flattenPayloadMessages payload = .ok (flattened, count))
  (listed : payload.lookup "msgs" = some (.arr msgs))

include flatten listed

theorem flattenPayloadMessages_ok : ∃ extended, addMessages payload msgs 0 = .ok extended ∧
      flattened = payloadWithoutMsgsField extended := by
  have read : getPayloadMessages payload = .ok msgs := by
    simp only [getPayloadMessages, listed]
  rw [flattenPayloadMessages, bind_of_ok read] at flatten
  obtain ⟨extended, added, rest⟩ := bind_ok flatten
  exact ⟨extended, added, (congrArg Prod.fst (Except.ok.inj rest)).symm⟩

theorem flattened_field {key : String} (kept : key ≠ "msgs") (other : key.toList.take 3 ≠ "msg".toList) :
    flattened.lookup key = payload.lookup key := by
  obtain ⟨extended, added, rfl⟩ := flattenPayloadMessages_ok flatten listed
  rw [payloadWithoutMsgsField, lookup_without "msgs" key extended kept,
    addMessages_other added fun j => msgFieldForIndex_ne j other]

theorem flattened_message (i : ℕ) (absent : payload.lookup (msgFieldForIndex i) = none) :
    flattened.lookup (msgFieldForIndex i) = msgs[i]? := by
  obtain ⟨extended, added, rfl⟩ := flattenPayloadMessages_ok flatten listed
  rw [payloadWithoutMsgsField, lookup_without "msgs" _ extended (msgFieldForIndex_ne_msgs i),
    addMessages_message added, absent]
  by_cases inside : i < msgs.length
  · rw [if_pos (by omega), Nat.sub_zero]
  · rw [if_neg (by omega), List.getElem?_eq_none (by omega)]

end

end Flatten

/-! ### The fields of a wrapped sign document -/

def signDocKeys : List String :=
  ["account_number", "chain_id", "fee", "memo", "msgs", "sequence"]

theorem msgFieldForIndex_not_key (i : ℕ) {key : String} (named : key ∈ signDocKeys) : msgFieldForIndex i ≠ key := by
  by_cases list : key = "msgs"
  · subst list
    exact msgFieldForIndex_ne_msgs i
  · have others : ∀ name ∈ signDocKeys, name ≠ "msgs" → name.toList.take 3 ≠ "msg".toList := by
      decide +kernel
    exact msgFieldForIndex_ne i (others key named list)

/-- The message of the typed data holds each part of the amino sign document. -/
structure Holds (message : Payload) (chainId : String) (accnum sequence : UInt64) (fee : StdFee)
    (msgs : List Json) (memo : String) : Prop where
  accountNumber : message.lookup "account_number" = some (decimal accnum)
  chainId : message.lookup "chain_id" = some (.str chainId)
  fee : message.lookup "fee" = some fee.bytes
  memo : message.lookup "memo" = some (.str memo)
  sequence : message.lookup "sequence" = some (decimal sequence)
  messages : ∀ i, message.lookup (msgFieldForIndex i) = msgs[i]?

theorem wrapTxToTypedData_holds {eip155ChainID : UInt64} {chainId memo : String}
    {accnum sequence : UInt64} {fee : StdFee} {msgs : List Json} {td : TypedData}
    (wrapped : wrapTxToTypedData eip155ChainID (stdSignBytes chainId accnum sequence 0 fee msgs memo) = .ok td) :
    Holds td.message chainId accnum sequence fee msgs memo := by
  simp only [wrapTxToTypedData, stdSignBytes] at wrapped
  obtain ⟨⟨payload, count⟩, flatten, wrapped⟩ := bind_ok wrapped
  have flatten := mapError_ok flatten
  obtain ⟨types, -, wrapped⟩ := bind_ok wrapped
  cases wrapped
  have absent : ∀ i, List.lookup (msgFieldForIndex i)
      ([("account_number", decimal accnum), ("chain_id", .str chainId), ("fee", fee.bytes),
        ("memo", .str memo), ("msgs", .arr msgs), ("sequence", decimal sequence)] ++ []) = none := by
    intro i
    rw [List.lookup_eq_none_iff]
    intro field member
    have named : field.1 ∈ signDocKeys := List.mem_map_of_mem (f := Prod.fst) member
    simpa using msgFieldForIndex_not_key i named
  have field := fun key => @flattened_field _ _ msgs _ flatten rfl key
  constructor
  · exact field "account_number" (by decide) (by decide +kernel)
  · exact field "chain_id" (by decide) (by decide +kernel)
  · exact field "fee" (by decide) (by decide +kernel)
  · exact field "memo" (by decide) (by decide +kernel)
  · exact field "sequence" (by decide) (by decide +kernel)
  · intro i
    exact flattened_message flatten rfl i (absent i)

theorem decimal_inj {m n : UInt64} (same : decimal m = decimal n) : m = n := by
  have text : toString m.toNat = toString n.toNat := Json.str.inj same
  rw [Nat.toString_eq_repr, Nat.toString_eq_repr, Nat.repr_inj] at text
  exact UInt64.toNat_inj.mp text

theorem coinJSON_injective : Function.Injective coinJSON := by
  intro a b same
  simp only [coinJSON, Json.obj.injEq, List.cons.injEq, Prod.mk.injEq, Json.str.injEq, true_and,
    and_true] at same
  obtain ⟨amount, denom⟩ := same
  rw [Int.toString_eq_repr, Int.toString_eq_repr, Int.repr_inj] at amount
  cases a
  cases b
  simp_all

/-- The JSON of a fee determines its amount and its gas. -/
theorem stdFee_bytes_inj {fee other : StdFee} (same : fee.bytes = other.bytes) :
    fee.amount = other.amount ∧ fee.gas = other.gas := by
  have fields := Json.obj.inj same
  simp only [List.cons_append, List.nil_append, List.cons.injEq, Prod.mk.injEq, Json.arr.injEq,
    true_and] at fields
  exact ⟨List.map_injective_iff.mpr coinJSON_injective fields.1, decimal_inj fields.2.1⟩

/-- Two sign documents with the same wrapped message are the same. -/
theorem Holds.unique {message message' : Payload} {chainId chainId' memo memo' : String}
    {accnum accnum' sequence sequence' : UInt64} {fee fee' : StdFee} {msgs msgs' : List Json}
    (left : Holds message chainId accnum sequence fee msgs memo)
    (right : Holds message' chainId' accnum' sequence' fee' msgs' memo')
    (same : ∀ key, message.lookup key = message'.lookup key) :
    (chainId = chainId' ∧ accnum = accnum' ∧ sequence = sequence') ∧
      (fee.amount = fee'.amount ∧ fee.gas = fee'.gas) ∧ msgs = msgs' ∧ memo = memo' := by
  have at_key : ∀ {key : String} {value value' : Json}, message.lookup key = some value →
      message'.lookup key = some value' → value = value' := by
    intro key value value' here there
    rw [same key, there] at here
    exact (Option.some.inj here).symm
  have numbers : accnum = accnum' ∧ sequence = sequence' :=
    ⟨decimal_inj (at_key left.accountNumber right.accountNumber),
      decimal_inj (at_key left.sequence right.sequence)⟩
  have texts : chainId = chainId' ∧ memo = memo' :=
    ⟨Json.str.inj (at_key left.chainId right.chainId), Json.str.inj (at_key left.memo right.memo)⟩
  have listed : msgs = msgs' := by
    apply List.ext_getElem?
    intro i
    rw [← left.messages i, ← right.messages i, same]
  exact ⟨⟨texts.1, numbers⟩, stdFee_bytes_inj (at_key left.fee right.fee), listed, texts.2⟩

/-! ### What the typed data binds -/

section Binding

variable {Any Msg : Type} {codec : Codec Any Msg} {eip155ChainID : UInt64}

/-- What an accepted document is made of, and what its typed data holds. -/
structure Accepted (codec : Codec Any Msg) (tx : SignedTx Any) (td : TypedData)
    (signerInfo : SignerInfo) (fee : Fee) (msgs : List Msg) : Prop where
  timeoutHeight : tx.body.timeoutHeight = 0
  extensionOptions : tx.body.extensionOptions = []
  nonCriticalExtensionOptions : tx.body.nonCriticalExtensionOptions = []
  signerInfos : tx.authInfo.signerInfos = [signerInfo]
  charged : tx.authInfo.fee = some fee
  unpacked : unpackMessages codec tx.body.messages = .ok msgs
  holds : Holds td.message tx.doc.chainId tx.doc.accountNumber signerInfo.sequence
    { amount := fee.amount, gas := fee.gasLimit } (msgs.map codec.aminoJSON) tx.body.memo

theorem typedDataForTx_accepted {tx : SignedTx Any} {td : TypedData}
    (accepts : typedDataForTx codec eip155ChainID tx = .ok td) :
    ∃ signerInfo fee msgs, Accepted codec tx td signerInfo fee msgs := by
  simp only [typedDataForTx] at accepts
  split at accepts
  · cases accepts
  rename_i supported
  simp only [not_or, not_not] at supported
  obtain ⟨timeout, options, nonCritical⟩ := supported
  split at accepts
  · rename_i signerInfo signers
    obtain ⟨msgs, unpacked, accepts⟩ := bind_ok accepts
    obtain ⟨-, -, accepts⟩ := bind_ok accepts
    split at accepts
    · cases accepts
    · rename_i fee charged
      rw [timeout] at accepts
      exact ⟨signerInfo, fee, msgs, timeout, options, nonCritical, signers, charged, unpacked,
        wrapTxToTypedData_holds accepts⟩
  · cases accepts

/-- The two transactions execute alike: they agree on every field of the documents, their
bodies and their auth infos that the execution reads. -/
structure Agree (codec : Codec Any Msg) (a b : SignedTx Any) : Prop where
  chainId : a.doc.chainId = b.doc.chainId
  accountNumber : a.doc.accountNumber = b.doc.accountNumber
  signerInfos : a.authInfo.signerInfos = b.authInfo.signerInfos
  fee : a.authInfo.fee = b.authInfo.fee
  messages : unpackMessages codec a.body.messages = unpackMessages codec b.body.messages
  memo : a.body.memo = b.body.memo
  timeoutHeight : a.body.timeoutHeight = b.body.timeoutHeight
  unordered : a.body.unordered = b.body.unordered
  timeoutTimestamp : a.body.timeoutTimestamp = b.body.timeoutTimestamp
  extensionOptions : a.body.extensionOptions = b.body.extensionOptions
  nonCriticalExtensionOptions :
    a.body.nonCriticalExtensionOptions = b.body.nonCriticalExtensionOptions

/-- The fields that the rebuilt sign document has no place for agree. -/
structure SameUnsigned (a b : SignedTx Any) : Prop where
  payer : a.authInfo.fee.map Fee.payer = b.authInfo.fee.map Fee.payer
  granter : a.authInfo.fee.map Fee.granter = b.authInfo.fee.map Fee.granter
  unordered : a.body.unordered = b.body.unordered
  timeoutTimestamp : a.body.timeoutTimestamp = b.body.timeoutTimestamp

/-- The two typed data are the same, or their EIP-712 bytes are. -/
def SameTypedData (verifier : Verifier) (a b : TypedData) : Prop :=
  a.Same b ∨ ∃ raw, verifier.typedDataAndHash a = some raw ∧ verifier.typedDataAndHash b = some raw

/-- No two decoded documents with different typed data have the same EIP-712 bytes. -/
def CollisionFree (codec : Codec Any Msg) (verifier : Verifier) (eip155ChainID : UInt64) : Prop :=
  ∀ d d' td td' raw, decodeProtobufSignDoc codec eip155ChainID d = .ok td →
    decodeProtobufSignDoc codec eip155ChainID d' = .ok td' →
    verifier.typedDataAndHash td = some raw → verifier.typedDataAndHash td' = some raw → td.Same td'

theorem accepted_of_decode {d : Bytes} {tx : SignedTx Any} {td : TypedData}
    (unmarshalled : unmarshalTx codec d = .ok tx) (accepts : decodeProtobufSignDoc codec eip155ChainID d = .ok td) :
    ∃ signerInfo fee msgs, Accepted codec tx td signerInfo fee msgs := by
  rw [decodeProtobufSignDoc, bind_of_ok unmarshalled] at accepts
  exact typedDataForTx_accepted accepts

/-- Accepted documents with the same typed data differ at most in the fields that the rebuilt
sign document has no place for. -/
theorem Accepted.agree_iff (injective : Function.Injective codec.aminoJSON)
    {tx tx' : SignedTx Any} {td td' : TypedData} {signerInfo signerInfo' : SignerInfo}
    {fee fee' : Fee} {msgs msgs' : List Msg} (left : Accepted codec tx td signerInfo fee msgs)
    (right : Accepted codec tx' td' signerInfo' fee' msgs') (same : td.Same td') :
    Agree codec tx tx' ↔ SameUnsigned tx tx' := by
  obtain ⟨⟨chainId, accnum, sequence⟩, ⟨amount, gas⟩, messages, memo⟩ :=
    left.holds.unique right.holds same.message
  have signers : signerInfo = signerInfo' := congrArg SignerInfo.mk sequence
  have unpacked : msgs = msgs' := List.map_injective_iff.mpr injective messages
  constructor
  · intro agree
    exact ⟨congrArg _ agree.fee, congrArg _ agree.fee, agree.unordered, agree.timeoutTimestamp⟩
  · intro unsigned
    have payer := unsigned.payer
    have granter := unsigned.granter
    rw [left.charged, right.charged] at payer granter
    have fees : fee = fee' := by
      cases fee
      cases fee'
      simp only [Option.map_some, Option.some.injEq] at payer granter
      simp only [Fee.mk.injEq]
      exact ⟨amount, gas, payer, granter⟩
    constructor
    · exact chainId
    · exact accnum
    · rw [left.signerInfos, right.signerInfos, signers]
    · rw [left.charged, right.charged, fees]
    · rw [left.unpacked, right.unpacked, unpacked]
    · exact memo
    · rw [left.timeoutHeight, right.timeoutHeight]
    · exact unsigned.unordered
    · exact unsigned.timeoutTimestamp
    · rw [left.extensionOptions, right.extensionOptions]
    · rw [left.nonCriticalExtensionOptions, right.nonCriticalExtensionOptions]

/-- Two accepted documents with the same typed data stand for the same transaction exactly if
they name the same fee payer and fee granter and carry the same unordered flag and timeout
timestamp. -/
theorem typedData_binds_iff {verifier : Verifier} (injective : Function.Injective codec.aminoJSON)
    (binding : CollisionFree codec verifier eip155ChainID) {d d' : Bytes} {tx tx' : SignedTx Any}
    {td td' : TypedData} (unmarshalled : unmarshalTx codec d = .ok tx)
    (unmarshalled' : unmarshalTx codec d' = .ok tx')
    (accepts : decodeProtobufSignDoc codec eip155ChainID d = .ok td)
    (accepts' : decodeProtobufSignDoc codec eip155ChainID d' = .ok td')
    (same : SameTypedData verifier td td') : Agree codec tx tx' ↔ SameUnsigned tx tx' := by
  obtain ⟨signerInfo, fee, msgs, left⟩ := accepted_of_decode unmarshalled accepts
  obtain ⟨signerInfo', fee', msgs', right⟩ := accepted_of_decode unmarshalled' accepts'
  have equal : td.Same td' := by
    rcases same with equal | ⟨raw, bytes, bytes'⟩
    · exact equal
    · exact binding d d' td td' raw accepts accepts' bytes bytes'
  exact left.agree_iff injective right equal

/-- A signature over the EIP-712 bytes of one document verifies for every other document with
the same bytes. -/
theorem signature_reused {verifier : Verifier} {d d' raw sig : Bytes}
    (bytes : getEIP712BytesForMsg codec verifier eip155ChainID d = some raw)
    (bytes' : getEIP712BytesForMsg codec verifier eip155ChainID d' = some raw)
    (signed : verifier.verifySignatureECDSA raw sig = true) :
    verifySignature codec verifier eip155ChainID d sig = true ∧
      verifySignature codec verifier eip155ChainID d' sig = true := by
  simp [verifySignature, verifySignatureAsEIP712, bytes, bytes', signed]

end Binding

/-! ### A sign document and its copies -/

/-- The document `[1]` names a fee granter and `[2]` has a memo; `[3]` is another encoding of `[0]`. -/
def sendTx (bytes : Bytes) : SignedTx String where
  doc := ⟨bytes, bytes, "og-evm_10740-1", 4⟩
  authInfo :=
    ⟨[⟨7⟩], some ⟨[⟨"ogwei", 5000⟩], 200000, "", if bytes = [1] then "og1granter" else ""⟩⟩
  body := ⟨["25"], if bytes = [2] then "late" else "", 0, false, none, [], []⟩

/-- A codec of four documents, whose messages send an amount from one account. -/
def sendCodec : Codec String String where
  parseJSON _ := none
  unmarshalAminoDoc _ := .error "invalid character"
  unmarshalSignDoc bytes :=
    if bytes ∈ [[0], [1], [2], [3]] then .ok (sendTx bytes).doc else .error "unexpected EOF"
  unmarshalAuthInfo bytes := .ok (sendTx bytes).authInfo
  unmarshalBody bytes := .ok (sendTx bytes).body
  unpackAny amount := .ok amount
  getMsgV1Signers _ := .ok [[1, 2, 3]]
  aminoJSON amount := .obj [("type", .str "cosmos-sdk/MsgSend"),
    ("value", .obj [("amount", .arr [.obj [("amount", .str amount), ("denom", .str "ogwei")]]),
      ("from_address", .str "og1sender"), ("to_address", .str "og1receiver")])]

theorem sendCodec_injective : Function.Injective sendCodec.aminoJSON := by
  intro a b same
  simpa [sendCodec] using same

def textLength : Json → ℕ
  | .str text => text.length
  | _ => 0

/-- A verifier whose bytes are the lengths of the field names and texts, and whose signatures are
the bytes they sign. -/
def plainVerifier : Verifier where
  typedDataAndHash td := some (td.message.map fun field => (field.1.length + textLength field.2).toUInt8)
  legacyGetEIP712BytesForMsg _ := none
  verifySignatureECDSA bytes sig := bytes == sig

/-- The fee granter does not reach the typed data, the memo does. -/
theorem sendCodec_decode : ∃ plain noted,
    decodeProtobufSignDoc sendCodec 10740 [0] = .ok plain ∧ decodeProtobufSignDoc sendCodec 10740 [1] = .ok plain ∧
    decodeProtobufSignDoc sendCodec 10740 [2] = .ok noted ∧ decodeProtobufSignDoc sendCodec 10740 [3] = .ok plain ∧
    plainVerifier.typedDataAndHash plain = some [15, 22, 3, 4, 9, 4] ∧
    plainVerifier.typedDataAndHash noted = some [15, 22, 3, 8, 9, 4] := by
  have first : (decodeProtobufSignDoc sendCodec 10740 [0]).toOption.bind plainVerifier.typedDataAndHash =
      some [15, 22, 3, 4, 9, 4] := by decide +kernel
  have third : (decodeProtobufSignDoc sendCodec 10740 [2]).toOption.bind plainVerifier.typedDataAndHash =
      some [15, 22, 3, 8, 9, 4] := by decide +kernel
  obtain ⟨plain, decoded, hashed⟩ := Option.bind_eq_some_iff.mp first
  obtain ⟨noted, decoded', hashed'⟩ := Option.bind_eq_some_iff.mp third
  exact ⟨plain, noted, toOption_some decoded, toOption_some decoded, toOption_some decoded', toOption_some decoded,
    hashed, hashed'⟩

theorem sendCodec_known {bytes : Bytes} {td : TypedData}
    (decoded : decodeProtobufSignDoc sendCodec 10740 bytes = .ok td) :
    bytes ∈ [[0], [1], [2], [3]] := by
  obtain ⟨tx, unmarshalled, -⟩ := bind_ok decoded
  obtain ⟨doc, found, -⟩ := bind_ok unmarshalled
  by_contra unknown
  rw [show sendCodec.unmarshalSignDoc bytes = .error "unexpected EOF" from if_neg unknown] at found
  cases found

theorem sendCodec_collisionFree : CollisionFree sendCodec plainVerifier 10740 := by
  obtain ⟨plain, noted, zero, one, two, three, hashed, hashed'⟩ := sendCodec_decode
  have decoded {bytes : Bytes} {td : TypedData} (ran : decodeProtobufSignDoc sendCodec 10740 bytes = .ok td) :
      td = plain ∨ td = noted := by
    have known := sendCodec_known ran
    simp only [List.mem_cons, List.not_mem_nil, or_false] at known
    rcases known with rfl | rfl | rfl | rfl
    · exact Or.inl (Except.ok.inj (ran.symm.trans zero))
    · exact Or.inl (Except.ok.inj (ran.symm.trans one))
    · exact Or.inr (Except.ok.inj (ran.symm.trans two))
    · exact Or.inl (Except.ok.inj (ran.symm.trans three))
  have same (td : TypedData) : td.Same td := ⟨fun _ => rfl, rfl, rfl, fun _ => rfl⟩
  intro d d' td td' raw ran ran' bytes bytes'
  have equal := bytes.trans bytes'.symm
  rcases decoded ran with rfl | rfl <;> rcases decoded ran' with rfl | rfl
  · exact same _
  · rw [hashed, hashed'] at equal
    exact absurd equal (by decide)
  · rw [hashed, hashed'] at equal
    exact absurd equal (by decide)
  · exact same _

/-- Of three documents with one typed data, two agree and the third has a fee granter. -/
theorem typedData_binds_iff_copies :
    ∃ td, decodeProtobufSignDoc sendCodec 10740 [0] = .ok td ∧ decodeProtobufSignDoc sendCodec 10740 [1] = .ok td ∧
      decodeProtobufSignDoc sendCodec 10740 [3] = .ok td ∧
      Agree sendCodec (sendTx [0]) (sendTx [3]) ∧ ¬ Agree sendCodec (sendTx [0]) (sendTx [1]) := by
  obtain ⟨td, noted, zero, one, -, three, -, -⟩ := sendCodec_decode
  have same : SameTypedData plainVerifier td td := Or.inr ⟨_, rfl, rfl⟩
  refine ⟨td, zero, one, three, ?_, ?_⟩
  · exact (typedData_binds_iff sendCodec_injective sendCodec_collisionFree rfl rfl zero three same).mpr
      ⟨rfl, rfl, rfl, rfl⟩
  · intro agree
    have unsigned := (typedData_binds_iff sendCodec_injective sendCodec_collisionFree rfl rfl zero one same).mp agree
    exact absurd unsigned.granter (by decide +kernel)

/-- The documents without and with a fee granter have one typed data, and one signature
verifies for both. -/
theorem granter_unsigned :
    (∃ td, decodeProtobufSignDoc sendCodec 10740 [0] = .ok td ∧
      decodeProtobufSignDoc sendCodec 10740 [1] = .ok td) ∧
    (verifySignature sendCodec plainVerifier 10740 [0] [15, 22, 3, 4, 9, 4] = true ∧
      verifySignature sendCodec plainVerifier 10740 [1] [15, 22, 3, 4, 9, 4] = true) ∧
    (unmarshalTx sendCodec [0] = .ok (sendTx [0]) ∧ unmarshalTx sendCodec [1] = .ok (sendTx [1])) ∧
    (sendTx [0]).authInfo.fee.map Fee.granter ≠ (sendTx [1]).authInfo.fee.map Fee.granter ∧
    ¬ Agree sendCodec (sendTx [0]) (sendTx [1]) := by
  have granters :
      (sendTx [0]).authInfo.fee.map Fee.granter ≠ (sendTx [1]).authInfo.fee.map Fee.granter := by
    decide +kernel
  obtain ⟨td, noted, zero, one, -⟩ := sendCodec_decode
  have bytes : getEIP712BytesForMsg sendCodec plainVerifier 10740 [0] = some [15, 22, 3, 4, 9, 4] := by
    decide +kernel
  have bytes' : getEIP712BytesForMsg sendCodec plainVerifier 10740 [1] = some [15, 22, 3, 4, 9, 4] := by
    decide +kernel
  have signed : plainVerifier.verifySignatureECDSA [15, 22, 3, 4, 9, 4] [15, 22, 3, 4, 9, 4] = true := by
    decide +kernel
  have reused := signature_reused bytes bytes' signed
  refine ⟨⟨td, zero, one⟩, reused, ⟨rfl, rfl⟩, granters, ?_⟩
  intro agree
  exact granters (congrArg _ agree.fee)

end OgEvm.Eip712
