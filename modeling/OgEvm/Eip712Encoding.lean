import OgEvm.Eip712Types

/- The EIP-712 reading of a protobuf sign document: the document is rebuilt as an amino JSON
sign document, which the typed data wraps. -/
namespace OgEvm.Eip712

abbrev Bytes := List UInt8

structure Coin where
  denom : String
  amount : ℤ
deriving DecidableEq

structure Fee where
  amount : List Coin
  gasLimit : UInt64
  payer : String
  granter : String
deriving DecidableEq

/-- The field of a signer info that the encoding reads. -/
structure SignerInfo where
  sequence : UInt64
deriving DecidableEq

structure AuthInfo where
  signerInfos : List SignerInfo
  fee : Option Fee
deriving DecidableEq

/-- The body of a transaction, its messages packed. A timeout timestamp is in nanoseconds. -/
structure TxBody (Any : Type) where
  messages : List Any
  memo : String
  timeoutHeight : UInt64
  unordered : Bool
  timeoutTimestamp : Option ℤ
  extensionOptions : List Any
  nonCriticalExtensionOptions : List Any

structure SignDoc where
  bodyBytes : Bytes
  authInfoBytes : Bytes
  chainId : String
  accountNumber : UInt64

/-- The codecs of the application: the JSON parser, the amino decoder of a sign document with
its fee and messages, the protobuf decoders, the unpacking of a message, its signers and its
amino JSON with sorted keys. -/
structure Codec (Any Msg : Type) where
  parseJSON : Bytes → Option Json
  unmarshalAminoDoc : Bytes → Except String (List Msg)
  unmarshalSignDoc : Bytes → Except String SignDoc
  unmarshalAuthInfo : Bytes → Except String AuthInfo
  unmarshalBody : Bytes → Except String (TxBody Any)
  unpackAny : Any → Except String Msg
  getMsgV1Signers : Msg → Except String (List Bytes)
  aminoJSON : Msg → Json

/-! ### The amino JSON sign document -/

/-- `legacytx.StdFee`. -/
structure StdFee where
  amount : List Coin
  gas : UInt64
  payer : String := ""
  granter : String := ""

/-- A string field that is left out when it is empty. -/
def omitEmpty (key value : String) : List (String × Json) :=
  if value = "" then [] else [(key, .str value)]

def coinJSON (coin : Coin) : Json :=
  .obj [("amount", .str (toString coin.amount)), ("denom", .str coin.denom)]

def decimal (n : UInt64) : Json := .str (toString n.toNat)

def StdFee.bytes (fee : StdFee) : Json :=
  .obj ([("amount", .arr (fee.amount.map coinJSON)), ("gas", decimal fee.gas)]
    ++ omitEmpty "granter" fee.granter ++ omitEmpty "payer" fee.payer)

/-- `legacytx.StdSignBytes`, whose keys are sorted. -/
def stdSignBytes (chainID : String) (accnum sequence timeout : UInt64) (fee : StdFee)
    (msgs : List Json) (memo : String) : Json :=
  .obj ([("account_number", decimal accnum), ("chain_id", .str chainID), ("fee", fee.bytes),
      ("memo", .str memo), ("msgs", .arr msgs), ("sequence", decimal sequence)]
    ++ if timeout = 0 then [] else [("timeout_height", decimal timeout)])

/-! ### Decoding a sign document -/

variable {Any Msg : Type} (codec : Codec Any Msg)

/-- A sign document with its body and its auth info decoded. -/
structure SignedTx (Any : Type) where
  doc : SignDoc
  authInfo : AuthInfo
  body : TxBody Any

/-- The three `Unmarshal` calls of `decodeProtobufSignDoc`. -/
def unmarshalTx (signDocBytes : Bytes) : Except Failure (SignedTx Any) := do
  let doc ← (codec.unmarshalSignDoc signDocBytes).mapError .text
  let authInfo ← (codec.unmarshalAuthInfo doc.authInfoBytes).mapError .text
  let body ← (codec.unmarshalBody doc.bodyBytes).mapError .text
  .ok ⟨doc, authInfo, body⟩

def unpackMessages : List Any → Except Failure (List Msg)
  | [] => .ok []
  | protoMsg :: rest => do
    let m ← (codec.unpackAny protoMsg).mapError fun err =>
      .text ("could not unpack message object with error " ++ err)
    .ok (m :: (← unpackMessages rest))

/-- The single signer of a message. -/
def messageSigner (m : Msg) : Except Failure Bytes := do
  match ← (codec.getMsgV1Signers m).mapError fun err =>
    .text ("error getting signers. " ++ err) with
  | [signer] => .ok signer
  | _ => .error (.text "unable to build EIP-712 payload: expect exactly 1 signer")

/-- The loop of `validatePayloadMessages` after the first message. -/
def validateSigners (msgSigner : Bytes) : List Msg → Except Failure Unit
  | [] => .ok ()
  | m :: rest => do
    let signer ← messageSigner codec m
    if signer = msgSigner then validateSigners msgSigner rest
    else .error (.text "unable to build EIP-712 payload: multiple signers detected")

def validatePayloadMessages : List Msg → Except Failure Unit
  | [] => .error (.text "unable to build EIP-712 payload: transaction does contain any messages")
  | m :: rest => do validateSigners codec (← messageSigner codec m) rest

variable (eip155ChainID : UInt64)

/-- `decodeProtobufSignDoc` once the document is unmarshalled. Of the fee it keeps the amount
and the gas limit. -/
def typedDataForTx (tx : SignedTx Any) : Except Failure TypedData := do
  if tx.body.timeoutHeight ≠ 0 ∨ tx.body.extensionOptions ≠ [] ∨
      tx.body.nonCriticalExtensionOptions ≠ [] then
    .error (.text ("body contains unsupported fields: TimeoutHeight, ExtensionOptions, "
      ++ "or NonCriticalExtensionOptions"))
  else
    match tx.authInfo.signerInfos with
    | [signerInfo] =>
      let msgs ← unpackMessages codec tx.body.messages
      validatePayloadMessages codec msgs
      match tx.authInfo.fee with
      | none => .error (.panic "invalid memory address or nil pointer dereference")
      | some fee =>
        let stdFee : StdFee := { amount := fee.amount, gas := fee.gasLimit }
        wrapTxToTypedData eip155ChainID
          (stdSignBytes tx.doc.chainId tx.doc.accountNumber signerInfo.sequence
            tx.body.timeoutHeight stdFee (msgs.map codec.aminoJSON) tx.body.memo)
    | signerInfos => .error (.text ("invalid number of signer infos provided, expected 1 got "
        ++ toString signerInfos.length))

def decodeProtobufSignDoc (signDocBytes : Bytes) : Except Failure TypedData := do
  typedDataForTx codec eip155ChainID (← unmarshalTx codec signDocBytes)

def decodeAminoSignDoc (signDocBytes : Bytes) : Except Failure TypedData := do
  let msgs ← (codec.unmarshalAminoDoc signDocBytes).mapError .text
  validatePayloadMessages codec msgs
  match codec.parseJSON signDocBytes with
  | none => .error (.text ("could not convert to EIP712 representation: "
      ++ "invalid JSON received: failed to unmarshal JSON bytes"))
  | some data =>
    let wrapped := wrapTxToTypedData eip155ChainID data
    wrapped.mapError (Failure.wrap "could not convert to EIP712 representation")

/-- No part of the typed data is left at its zero value. -/
def isValidEIP712Payload (typedData : TypedData) : Bool :=
  !typedData.message.isEmpty && !typedData.types.isEmpty && typedData.primaryType ≠ ""
    && typedData.domain ≠ ⟨"", "", 0, "", ""⟩

/-- The typed data of a sign document in either encoding; the amino one is tried first. -/
def getEIP712TypedDataForMsg (signDocBytes : Bytes) : Option TypedData :=
  match (decodeAminoSignDoc codec eip155ChainID signDocBytes).toOption.filter
      isValidEIP712Payload with
  | some typedData => some typedData
  | none => (decodeProtobufSignDoc codec eip155ChainID signDocBytes).toOption.filter
      isValidEIP712Payload

/-! ### Verifying a signature -/

/-- What the verification of one public key calls: the EIP-712 bytes of typed data, the bytes
of the legacy encoding, and the ECDSA check over the hash of the given bytes. -/
structure Verifier where
  typedDataAndHash : TypedData → Option Bytes
  legacyGetEIP712BytesForMsg : Bytes → Option Bytes
  verifySignatureECDSA : Bytes → Bytes → Bool

def getEIP712BytesForMsg (verifier : Verifier) (eip155ChainID : UInt64) (signDocBytes : Bytes) :
    Option Bytes := do
  verifier.typedDataAndHash (← getEIP712TypedDataForMsg codec eip155ChainID signDocBytes)

def verifySignatureAsEIP712 (verifier : Verifier) (eip155ChainID : UInt64) (msg sig : Bytes) : Bool :=
  match getEIP712BytesForMsg codec verifier eip155ChainID msg with
  | none => false
  | some eip712Bytes =>
    verifier.verifySignatureECDSA eip712Bytes sig ||
      match verifier.legacyGetEIP712BytesForMsg msg with
      | none => false
      | some legacyEIP712Bytes => verifier.verifySignatureECDSA legacyEIP712Bytes sig

def verifySignature (verifier : Verifier) (eip155ChainID : UInt64) (msg sig : Bytes) : Bool :=
  verifier.verifySignatureECDSA msg sig ||
    verifySignatureAsEIP712 codec verifier eip155ChainID msg sig

end OgEvm.Eip712
