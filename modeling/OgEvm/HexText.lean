import OgEvm.Erc20
import OgEvm.StateDbPersist

/- Hex texts read back as what they were written from: addresses with their checksum
letters, hashes and byte strings. -/
namespace OgEvm

open Erc20 (hexValue hexDecode stripHexPrefix hexToAddress isHexAddress)

/-- `common.Bytes2Hex`. -/
def bytes2Hex (bytes : Bytes) : String := String.ofList ((nibbles bytes).map hexDigit)

/-- `common.Hex2Bytes`. -/
def hex2Bytes (text : String) : Bytes := hexDecode text.toUTF8.toList

/-- `Hash.Hex`. -/
def hashHex (hash : Hash) : String := "0x" ++ bytes2Hex hash.toList

/-- `common.HexToHash`. -/
def hexToHash (text : String) : Hash :=
  let digits := stripHexPrefix text.toUTF8.toList
  bytesToHash (hexDecode (if digits.length % 2 = 1 then 48 :: digits else digits))

/-! The bytes of a text. -/

theorem byteArray_loop (bytes : ByteArray) (index : ℕ) (read : List UInt8) :
    ByteArray.toList.loop bytes index read = read.reverse ++ bytes.data.toList.drop index := by
  have size : bytes.size = bytes.data.toList.length := rfl
  induction rest : bytes.size - index generalizing index read with
  | zero =>
    rw [ByteArray.toList.loop, if_neg (by omega), List.drop_of_length_le (by omega), List.append_nil]
  | succ count ih =>
    have inside : index < bytes.data.toList.length := by omega
    have byte : bytes.get! index = bytes.data.toList[index] :=
      getElem!_pos bytes.data index inside
    rw [ByteArray.toList.loop, if_pos (by omega), ih (index + 1) _ (by omega),
      List.drop_eq_getElem_cons inside, byte, List.reverse_cons, List.append_assoc]
    rfl

theorem byteArray_toList (bytes : ByteArray) : bytes.toList = bytes.data.toList := by
  rw [ByteArray.toList, byteArray_loop]
  simp

/-- The digits are ASCII. -/
def asciiBytes (text : List Char) : Bytes := text.map fun digit => UInt8.ofNat digit.toNat

theorem toUTF8_ascii {text : List Char} (ascii : ∀ digit ∈ text, digit.toNat ≤ 127) :
    (String.ofList text).toUTF8.toList = asciiBytes text := by
  rw [byteArray_toList, String.toUTF8, String.toByteArray_ofList, List.utf8Encode, List.data_toByteArray]
  induction text with
  | nil => rfl
  | cons digit rest ih =>
    obtain ⟨small, others⟩ := List.forall_mem_cons.mp ascii
    have one : String.utf8EncodeChar digit = [UInt8.ofNat digit.toNat] := by
      unfold String.utf8EncodeChar
      exact if_pos small
    have more := ih others
    simp only [List.flatMap_cons, one, asciiBytes, List.map_cons] at more ⊢
    simpa using more

/-- A digit, in either case of its letter, that reads as a value. -/
def Reads (digit : Char) (value : ℕ) : Prop :=
  digit.toNat ≤ 127 ∧ hexValue (UInt8.ofNat digit.toNat) = some (UInt8.ofNat value)

section

variable {bytes : Bytes} {digits : List Char} {values : List ℕ}

theorem hexDigit_reads {value : ℕ} (small : value < 16) :
    Reads (hexDigit value) value ∧ Reads (hexDigit value).toUpper value := by
  unfold Reads
  interval_cases value <;> decide

theorem byte_halves (byte : UInt8) : UInt8.ofNat (byte.toNat / 16) * 16 + UInt8.ofNat (byte.toNat % 16) = byte := by
  have size := byte.toNat_lt
  apply UInt8.toNat.inj
  have sixteen : (16 : UInt8).toNat = 16 := rfl
  simp only [UInt8.toNat_add, UInt8.toNat_mul, UInt8.toNat_ofNat', sixteen]
  omega

theorem nibbles_cons (byte : UInt8) (rest : Bytes) :
    nibbles (byte :: rest) = byte.toNat / 16 :: byte.toNat % 16 :: nibbles rest := rfl

theorem nibbles_small {value : ℕ} (member : value ∈ nibbles bytes) : value < 16 := by
  unfold nibbles at member
  simp only [List.mem_flatMap, List.mem_cons, List.not_mem_nil, or_false] at member
  obtain ⟨byte, -, rfl | rfl⟩ := member
  · have size := byte.toNat_lt
    omega
  · omega

theorem nibbles_length (bytes : Bytes) : (nibbles bytes).length = 2 * bytes.length := by
  induction bytes with
  | nil => rfl
  | cons byte rest ih =>
    rw [nibbles_cons, List.length_cons, List.length_cons, List.length_cons, ih]
    omega

/-- A text whose digits read as the halves of the bytes decodes to them. -/
theorem hexDecode_spelled (spelled : List.Forall₂ Reads digits (nibbles bytes)) :
    hexDecode (asciiBytes digits) = bytes := by
  induction bytes generalizing digits with
  | nil =>
    cases spelled
    rfl
  | cons byte rest ih =>
    rw [nibbles_cons] at spelled
    obtain _ | ⟨⟨-, high⟩, _ | ⟨⟨-, low⟩, others⟩⟩ := spelled
    simp only [asciiBytes, List.map_cons, hexDecode, high, low, byte_halves]
    exact congrArg (byte :: ·) (ih others)

theorem spelled_reads (spelled : List.Forall₂ Reads digits values) :
    ∀ digit ∈ digits, ∃ value, Reads digit value := by
  induction spelled with
  | nil => simp
  | cons reads _ ih => exact List.forall_mem_cons.mpr ⟨⟨_, reads⟩, ih⟩

theorem spelled_ascii (spelled : List.Forall₂ Reads digits values) : ∀ digit ∈ digits, digit.toNat ≤ 127 := by
  intro digit member
  obtain ⟨value, reads⟩ := spelled_reads spelled digit member
  exact reads.1

theorem hexDigits_spelled (bytes : Bytes) : List.Forall₂ Reads ((nibbles bytes).map hexDigit) (nibbles bytes) := by
  rw [List.forall₂_map_left_iff, List.forall₂_same]
  exact fun value member => (hexDigit_reads (nibbles_small member)).1

theorem hex2Bytes_bytes2Hex (bytes : Bytes) : hex2Bytes (bytes2Hex bytes) = bytes := by
  have spelled := hexDigits_spelled bytes
  unfold hex2Bytes bytes2Hex
  rw [toUTF8_ascii (spelled_ascii spelled), hexDecode_spelled spelled]

/-- A text with the 0x in front. -/
theorem prefixed_bytes (spelled : List.Forall₂ Reads digits values) :
    stripHexPrefix ("0x" ++ String.ofList digits).toUTF8.toList = asciiBytes digits := by
  have whole : "0x" ++ String.ofList digits = String.ofList ('0' :: 'x' :: digits) := by
    rw [show "0x" = String.ofList ['0', 'x'] from rfl, ← String.ofList_append]
    rfl
  rw [whole, toUTF8_ascii]
  · rfl
  · simp only [List.mem_cons]
    rintro digit (rfl | rfl | member)
    · decide
    · decide
    · exact spelled_ascii spelled digit member

theorem asciiBytes_even (spelled : List.Forall₂ Reads digits (nibbles bytes)) :
    (asciiBytes digits).length = 2 * bytes.length := by
  rw [asciiBytes, List.length_map, spelled.length_eq, nibbles_length]

theorem hexToHash_hashHex (hash : Hash) : hexToHash (hashHex hash) = hash := by
  have spelled := hexDigits_spelled hash.toList
  unfold hexToHash hashHex bytes2Hex
  simp only [prefixed_bytes spelled]
  rw [if_neg (by rw [asciiBytes_even spelled]; omega), hexDecode_spelled spelled, bytesToHash_toList]

/-- The checksum changes the case of letters only. -/
theorem checksum_spelled (small : ∀ value ∈ values, value < 16) (checks : List ℕ)
    (long : values.length ≤ checks.length) :
    List.Forall₂ Reads (((values.map hexDigit).zip checks).map fun (digit, check) =>
      if '9' < digit ∧ 7 < check then digit.toUpper else digit) values := by
  induction values generalizing checks with
  | nil => exact List.Forall₂.nil
  | cons value rest ih =>
    cases checks with
    | nil => simp at long
    | cons check others =>
      obtain ⟨first, later⟩ := List.forall_mem_cons.mp small
      obtain ⟨lower, upper⟩ := hexDigit_reads first
      refine List.Forall₂.cons ?_ (ih later others (by simpa using long))
      dsimp only
      split
      · exact upper
      · exact lower

end

/-- The digits of an address. -/
theorem addressHex_spelled (env : Env) (addr : Address) :
    ∃ digits, addressHex env addr = "0x" ++ String.ofList digits ∧
      List.Forall₂ Reads digits (nibbles addr.toList) := by
  refine ⟨_, rfl, checksum_spelled (fun value member => nibbles_small member) _ ?_⟩
  rw [nibbles_length, nibbles_length, Vector.length_toList, Vector.length_toList]
  omega

theorem hexToAddress_addressHex (env : Env) (addr : Address) : hexToAddress (addressHex env addr) = addr := by
  obtain ⟨digits, text, spelled⟩ := addressHex_spelled env addr
  unfold hexToAddress
  rw [text]
  simp only [prefixed_bytes spelled]
  rw [if_neg (by rw [asciiBytes_even spelled]; omega), hexDecode_spelled spelled, bytesToAddress_toList]

theorem addressHex_isHexAddress (env : Env) (addr : Address) : isHexAddress (addressHex env addr) = true := by
  obtain ⟨digits, text, spelled⟩ := addressHex_spelled env addr
  have read : ∀ digit ∈ asciiBytes digits, (hexValue digit).isSome := by
    intro digit member
    obtain ⟨letter, inside, rfl⟩ := List.mem_map.mp member
    obtain ⟨value, reads⟩ := spelled_reads spelled letter inside
    rw [reads.2]
    rfl
  unfold isHexAddress
  rw [text]
  simp only [prefixed_bytes spelled, asciiBytes_even spelled, Vector.length_toList]
  simpa using read

/-- Different addresses have different texts. -/
theorem addressHex_injective (env : Env) : Function.Injective (addressHex env) :=
  Function.LeftInverse.injective (hexToAddress_addressHex env)

end OgEvm
