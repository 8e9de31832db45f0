import Mathlib.Data.List.Sort

/- The typed data that stands for a transaction in an EIP-712 signature: the amino JSON
sign document with its messages flattened, and the type schema read off its messages. -/
namespace OgEvm.Eip712

/-- A parsed JSON value. The numbers of amino JSON have at most 32 bits (wider integers
are written as strings), so the `float64` of the parser holds each of them. -/
inductive Json where
  | null
  | bool (value : Bool)
  | num (value : ℤ)
  | str (value : String)
  | arr (items : List Json)
  | obj (fields : List (String × Json))

def Json.isObject : Json → Bool
  | .obj _ => true
  | _ => false

/-- How building the typed data fails. `msgNotObject` is the error of the flattening that
prints the offending value. -/
inductive Failure where
  | text (msg : String)
  | msgNotObject (index : ℕ) (msg : Json)
  | panic (msg : String)

/-- `errorsmod.Wrap`. -/
def Failure.wrap (description : String) : Failure → Failure
  | .text msg => .text (description ++ ": " ++ msg)
  | failure => failure

/-- One entry of a schema. -/
structure TypeField where
  name : String
  type : String
deriving DecidableEq

/-- `apitypes.Types`, a map from the name of a type to its schema. -/
abbrev Types := List (String × List TypeField)

/-- The assignment `entries[key] = value` of a Go map. -/
def assign {α : Type} (key : String) (value : α) : List (String × α) → List (String × α)
  | [] => [(key, value)]
  | entry :: rest =>
    if entry.1 = key then (key, value) :: rest else entry :: assign key value rest

/-! ### The names of types -/

def rootPrefix : String := "_"

def typePrefix : String := "Type"

def txField : String := "Tx"

def maxDuplicateTypeDefs : ℕ := 1000

/-- `cases.Title` without lowering: the first letter of each word becomes a capital.
Digits belong to the word; every other character ends it. -/
def title : (midWord : Bool) → List Char → List Char
  | _, [] => []
  | midWord, c :: rest =>
    if c.isAlpha then (if midWord then c else c.toUpper) :: title true rest
    else c :: title (midWord && c.isDigit) rest

def capitalized (subpart : List Char) : String := String.ofList (title false subpart)

/-- `_.foo_bar.baz` becomes `TypeFooBarBaz`. -/
def sanitizeTypedef (str : String) : String :=
  String.join ((str.toList.splitOn '.').map fun part =>
    if part = rootPrefix.toList then typePrefix
    else String.join ((part.splitOn '_').map capitalized))

def typeDefForPrefix (path rootType : String) : String :=
  if path = rootPrefix then rootType else sanitizeTypedef path

def prefixForSubField (path fieldName : String) : String := path ++ "." ++ fieldName

def typeDefWithIndex (typeDef : String) (index : ℕ) : String := typeDef ++ toString index

/-! ### The schema of a message -/

/-- The type of a JSON primitive; the source has the empty string for the others. -/
def getEthTypeForJSON : Json → Option String
  | .bool _ => some "bool"
  | .num _ => some "int64"
  | .str _ => some "string"
  | .null | .arr _ | .obj _ => none

/-- The loop of `addTypesToRoot` from the given index on. -/
def addTypesFrom (typeMap : Types) (typeDef : String) (types : List TypeField) :
    (attempts index : ℕ) → Except Failure (Types × String)
  | 0, _ => .error (.text "exceeded maximum number of duplicates for a single type definition: invalid request")
  | attempts + 1, index =>
    let indexedTypeDef := typeDefWithIndex typeDef index
    match typeMap.lookup indexedTypeDef with
    | some existingTypes =>
      if types = existingTypes then .ok (typeMap, indexedTypeDef)
      else addTypesFrom typeMap typeDef types attempts (index + 1)
    | none => .ok (typeMap ++ [(indexedTypeDef, types)], indexedTypeDef)

/-- Stores a schema under the first index of its name that is free or holds an equal
schema. -/
def addTypesToRoot (typeMap : Types) (typeDef : String) (types : List TypeField) :
    Except Failure (Types × String) :=
  addTypesFrom typeMap typeDef types maxDuplicateTypeDefs 0

/-- The order of `sortedJSONKeys`, from the greatest key down. -/
def keysDescend (a b : String × Json) : Prop := ¬ a.1 < b.1

instance : DecidableRel keysDescend := fun a b => inferInstanceAs (Decidable (¬ a.1 < b.1))

mutual

/-- Every object of the value with its keys in the order of `sortedJSONKeys`. The source
sorts the keys of an object when it walks it. -/
def sortedJSONKeys : Json → Json
  | .obj fields => .obj ((sortedFields fields).insertionSort keysDescend)
  | .arr items => .arr (sortedItems items)
  | .null => .null
  | .bool value => .bool value
  | .num value => .num value
  | .str value => .str value
termination_by structural json => json

def sortedFields : List (String × Json) → List (String × Json)
  | [] => []
  | field :: rest => sortedField field :: sortedFields rest
termination_by structural fields => fields

def sortedField : String × Json → String × Json
  | (name, value) => (name, sortedJSONKeys value)
termination_by structural field => field

def sortedItems : List Json → List Json
  | [] => []
  | item :: rest => sortedJSONKeys item :: sortedItems rest
termination_by structural items => items

end

/-- The schema entry of one field, or of the first element of an array. `nested` is the
recursive call on the value, which only an object makes; null and an array within an array
get no entry. -/
def addElementType (name : String) (isCollection : Bool) (field : Json)
    (nested : Except Failure (Types × String)) (typeMap : Types) (typesToAdd : List TypeField) :
    Except Failure (Types × List TypeField) :=
  let collection := if isCollection then "[]" else ""
  match getEthTypeForJSON field with
  | some ethType => .ok (typeMap, typesToAdd ++ [⟨name, ethType ++ collection⟩])
  | none =>
    if field.isObject then do
      let (typeMap, fieldTypeDef) ← nested
      .ok (typeMap, typesToAdd ++ [⟨name, sanitizeTypedef fieldTypeDef ++ collection⟩])
    else .ok (typeMap, typesToAdd)

mutual

/-- Walks the value, whose keys are in the order of `sortedJSONKeys`, and adds the schema of
each of its objects; the result names the schema of the value itself. -/
def recursivelyAddTypesToRoot (rootType : String) :
    Json → String → Types → Except Failure (Types × String)
  | .obj fields, path, typeMap => do
    let (typeMap, typesToAdd) ← addFieldTypes rootType fields path typeMap []
    addTypesToRoot typeMap (typeDefForPrefix path rootType) typesToAdd
  | _, _, _ => .error (.text "unable to sort object keys: expected JSON map to parse: invalid type")
termination_by structural json => json

def addFieldTypes (rootType : String) : List (String × Json) → String → Types →
    List TypeField → Except Failure (Types × List TypeField)
  | [], _, typeMap, typesToAdd => .ok (typeMap, typesToAdd)
  | field :: rest, path, typeMap, typesToAdd => do
    let (typeMap, typesToAdd) ← addFieldType rootType field path typeMap typesToAdd
    addFieldTypes rootType rest path typeMap typesToAdd
termination_by structural fields => fields

def addFieldType (rootType : String) : String × Json → String → Types →
    List TypeField → Except Failure (Types × List TypeField)
  | (name, .arr []), _, typeMap, typesToAdd =>
    -- The type of an element that is not there is arbitrary.
    .ok (typeMap, typesToAdd ++ [⟨name, "string[]"⟩])
  | (name, .arr (first :: _)), path, typeMap, typesToAdd =>
    addElementType name true first
      (recursivelyAddTypesToRoot rootType first (prefixForSubField path name) typeMap)
      typeMap typesToAdd
  | (name, field), path, typeMap, typesToAdd =>
    addElementType name false field
      (recursivelyAddTypesToRoot rootType field (prefixForSubField path name) typeMap)
      typeMap typesToAdd
termination_by structural field => field

end

/-- The value at a key of a JSON object. -/
def Json.get : Json → String → Option Json
  | .obj fields, key => fields.lookup key
  | _, _ => none

/-- `cosmos-sdk/MsgSend` becomes `TypeMsgSend`. -/
def msgRootType (msg : Json) : Except Failure String :=
  match msg.get "type" with
  | some (.str msgType) =>
    if msgType = "" then
      .error (.text "malformed message type value, expected type string: invalid type")
    else
      .ok (typePrefix ++ String.ofList ((msgType.toList.splitOn '/').getLastD []))
  | _ => .error (.text "malformed message type value, expected type string: invalid type")

def addMsgTypeDefToTxSchema (eip712Types : Types) (msgField msgTypeDef : String) : Types :=
  assign txField (((eip712Types.lookup txField).getD []) ++ [⟨msgField, msgTypeDef⟩]) eip712Types

def addMsgTypesToRoot (eip712Types : Types) (msgField : String) (msg : Json) :
    Except Failure Types := do
  if !msg.isObject then
    .error (.text "message is not valid JSON, cannot parse types: invalid request")
  else
    let rootType ← msgRootType msg
    let (eip712Types, msgTypeDef) ←
      recursivelyAddTypesToRoot rootType (sortedJSONKeys msg) rootPrefix eip712Types
    .ok (addMsgTypeDefToTxSchema eip712Types msgField msgTypeDef)

/-- The schemas that every transaction has. -/
def baseTypes : Types :=
  [("EIP712Domain", [⟨"name", "string"⟩, ⟨"version", "string"⟩, ⟨"chainId", "uint256"⟩,
        ⟨"verifyingContract", "string"⟩, ⟨"salt", "string"⟩]),
    ("Tx", [⟨"account_number", "string"⟩, ⟨"chain_id", "string"⟩, ⟨"fee", "Fee"⟩,
        ⟨"memo", "string"⟩, ⟨"sequence", "string"⟩]),
    ("Fee", [⟨"amount", "Coin[]"⟩, ⟨"gas", "string"⟩]),
    ("Coin", [⟨"denom", "string"⟩, ⟨"amount", "string"⟩])]

/-! ### The message payload -/

def msgFieldForIndex (i : ℕ) : String := "msg" ++ toString i

/-- The fields of the payload, a JSON object. -/
abbrev Payload := List (String × Json)

def getPayloadMessages (payload : Payload) : Except Failure (List Json) :=
  match payload.lookup "msgs" with
  | none => .error (.text "no messages found in payload, unable to parse: invalid request")
  | some .null => .ok []
  | some (.arr msgs) => .ok msgs
  | some _ => .error (.text "expected type array of messages, cannot parse: invalid request")

def payloadWithNewMessage (payload : Payload) (msg : Json) (index : ℕ) :
    Except Failure Payload :=
  let field := msgFieldForIndex index
  if (payload.lookup field).isSome then
    .error (.text ("malformed payload received, did not expect to find key at field " ++ field
      ++ ": invalid request"))
  else if !msg.isObject then .error (.msgNotObject index msg)
  else .ok (assign field msg payload)

/-- The loop of `FlattenPayloadMessages` from the given index on. -/
def addMessages : Payload → List Json → ℕ → Except Failure Payload
  | flattened, [], _ => .ok flattened
  | flattened, msg :: msgs, i => do
    addMessages (← payloadWithNewMessage flattened msg i) msgs (i + 1)

def payloadWithoutMsgsField (payload : Payload) : Payload :=
  payload.filter fun field => field.1 ≠ "msgs"

/-- Each message moves from the array `msgs` to a field `msg{i}` of its own. -/
def flattenPayloadMessages (payload : Payload) : Except Failure (Payload × ℕ) := do
  let msgs ← getPayloadMessages payload
  let flattened ← addMessages payload msgs 0
  .ok (payloadWithoutMsgsField flattened, msgs.length)

/-- The loop of `createEIP712Types` over the indices of the messages. -/
def addPayloadTypes (payload : Payload) : Types → List ℕ → Except Failure Types
  | eip712Types, [] => .ok eip712Types
  | eip712Types, i :: rest => do
    let field := msgFieldForIndex i
    addPayloadTypes payload
      (← addMsgTypesToRoot eip712Types field ((payload.lookup field).getD .null)) rest

def createEIP712Types (payload : Payload) (numPayloadMsgs : ℕ) : Except Failure Types :=
  addPayloadTypes payload baseTypes (List.range numPayloadMsgs)

/-! ### The typed data -/

/-- `apitypes.TypedDataDomain`. -/
structure Domain where
  name : String
  version : String
  chainId : Int64
  verifyingContract : String
  salt : String
deriving DecidableEq

def createEIP712Domain (chainID : UInt64) : Domain :=
  ⟨"Cosmos Web3", "1.0.0", chainID.toInt64, "cosmos", "0"⟩

/-- `apitypes.TypedData`. -/
structure TypedData where
  types : Types
  primaryType : String
  domain : Domain
  message : Payload

/-- Equality of two typed data, whose types and message are maps. The objects within the
message have their keys in order, so they are equal as maps only if equal as lists. -/
structure TypedData.Same (a b : TypedData) : Prop where
  types : ∀ key, a.types.lookup key = b.types.lookup key
  primaryType : a.primaryType = b.primaryType
  domain : a.domain = b.domain
  message : ∀ key, a.message.lookup key = b.message.lookup key

/-- Wraps the amino JSON of a sign document. -/
def wrapTxToTypedData (chainID : UInt64) (data : Json) : Except Failure TypedData := do
  match data with
  | .obj basicPayload =>
    let (payload, numPayloadMsgs) ← (flattenPayloadMessages basicPayload).mapError
      (Failure.wrap "failed to flatten payload JSON messages")
    let types ← createEIP712Types payload numPayloadMsgs
    .ok ⟨types, txField, createEIP712Domain chainID, payload⟩
  | _ => .error (.text "failed to JSON unmarshal data as object: failed to unmarshal JSON bytes")

end OgEvm.Eip712
