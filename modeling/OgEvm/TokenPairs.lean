import OgEvm.Erc20Conversion

/- The index of token pairs. Four prefix stores are written by separate calls; what an
operation can do to them is said once, as a change, and the invariant is kept by each. -/
namespace OgEvm.Erc20

open ExceptFacts Function PartialMaps

/-! Denominations. -/

def isDenomByte (byte : UInt8) : Bool :=
  (97 ≤ byte && byte ≤ 122) || (65 ≤ byte && byte ≤ 90) || (47 ≤ byte && byte ≤ 58) ||
    byte = 46 || byte = 95 || byte = 45

/-- The expression of `sdk.ValidateDenom`: a letter, then 2 to 127 letters, digits or one of
slash, colon, dot, underscore and hyphen. -/
def matchesDenom : Bytes → Bool
  | [] => false
  | first :: rest =>
    ((97 ≤ first && first ≤ 122) || (65 ≤ first && first ≤ 90)) &&
      2 ≤ rest.length && rest.length ≤ 127 && rest.all isDenomByte

def validateDenom (denom : Denom) : Except GoError Unit :=
  if matchesDenom denom.toUTF8.toList then .ok () else .error (.other, "invalid denom: " ++ denom)

theorem hexValue_denomByte {byte : UInt8} (digit : (hexValue byte).isSome) : isDenomByte byte = true := by
  unfold isDenomByte
  simp only [Bool.or_eq_true, Bool.and_eq_true, decide_eq_true_eq, UInt8.le_iff_toNat_le]
  unfold hexValue at digit
  simp only [UInt8.le_iff_toNat_le] at digit
  have bounds : (48 ≤ byte.toNat ∧ byte.toNat ≤ 57) ∨ (97 ≤ byte.toNat ∧ byte.toNat ≤ 102) ∨
      (65 ≤ byte.toNat ∧ byte.toNat ≤ 70) := by
    split at digit
    · rename_i decimal
      exact Or.inl decimal
    · split at digit
      · rename_i lower
        exact Or.inr (Or.inl lower)
      · split at digit
        · rename_i upper
          exact Or.inr (Or.inr upper)
        · cases digit
  have ends : (97 : UInt8).toNat = 97 ∧ (122 : UInt8).toNat = 122 ∧ (65 : UInt8).toNat = 65 ∧
      (90 : UInt8).toNat = 90 ∧ (47 : UInt8).toNat = 47 ∧ (58 : UInt8).toNat = 58 := by decide
  omega

theorem toUTF8_append (first second : String) :
    (first ++ second).toUTF8.toList = first.toUTF8.toList ++ second.toUTF8.toList := by
  simp only [byteArray_toList, String.toUTF8, String.toByteArray_append]
  simp

theorem toUTF8_injective {first second : String} (same : first.toUTF8.toList = second.toUTF8.toList) :
    first = second := by
  rw [byteArray_toList, byteArray_toList] at same
  exact String.toByteArray_inj.mp (ByteArray.ext (Array.toList_inj.mp same))

theorem hexMark_bytes : "0x".toUTF8.toList = [48, 120] :=
  toUTF8_ascii (by simp : ∀ letter ∈ ['0', 'x'], letter.toNat ≤ 127)

theorem erc20Mark_bytes : "erc20:".toUTF8.toList = [101, 114, 99, 50, 48, 58] :=
  toUTF8_ascii (by simp : ∀ letter ∈ ['e', 'r', 'c', '2', '0', ':'], letter.toNat ≤ 127)

theorem barMark_bytes : "|".toUTF8.toList = [124] :=
  toUTF8_ascii (by simp : ∀ letter ∈ ['|'], letter.toNat ≤ 127)

/-- Nothing in the text of an address is a bar. -/
theorem isHexAddress_noBar {text : String} (hex : isHexAddress text = true) : 124 ∉ text.toUTF8.toList := by
  unfold isHexAddress at hex
  simp only [Bool.and_eq_true, List.all_eq_true] at hex
  obtain ⟨-, digits⟩ := hex
  have absent : (124 : UInt8) ∉ stripHexPrefix text.toUTF8.toList := fun member =>
    absurd (digits 124 member) (by decide)
  unfold stripHexPrefix at absent
  split at absent
  · rename_i bytes
    rw [bytes]
    simpa using absent
  · rename_i bytes
    rw [bytes]
    simpa using absent
  · exact absent

theorem ibcMark_bytes : "ibc/".toUTF8.toList = [105, 98, 99, 47] :=
  toUTF8_ascii (by simp : ∀ letter ∈ ['i', 'b', 'c', '/'], letter.toNat ≤ 127)

/-- The text of an address, as bytes. -/
theorem addressHex_bytes (env : Env) (addr : Address) :
    ∃ digits : Bytes, (addressHex env addr).toUTF8.toList = 48 :: 120 :: digits ∧ digits.length = 40 ∧
      ∀ digit ∈ digits, (hexValue digit).isSome := by
  obtain ⟨digits, text, spelled⟩ := addressHex_spelled env addr
  refine ⟨asciiBytes digits, ?_, ?_, ?_⟩
  · rw [text, toUTF8_append, toUTF8_ascii (spelled_ascii spelled), hexMark_bytes]
    rfl
  · rw [asciiBytes_even spelled, Vector.length_toList]
  · intro digit member
    obtain ⟨letter, inside, rfl⟩ := List.mem_map.mp member
    obtain ⟨value, reads⟩ := spelled_reads spelled letter inside
    rw [reads.2]
    rfl

theorem addressHex_size (env : Env) (addr : Address) : (addressHex env addr).toUTF8.toList.length = 42 := by
  obtain ⟨digits, bytes, size, -⟩ := addressHex_bytes env addr
  rw [bytes, List.length_cons, List.length_cons, size]

theorem createDenom_valid (env : Env) (addr : Address) :
    validateDenom (State.createDenom (addressHex env addr)) = .ok () := by
  obtain ⟨digits, bytes, size, hex⟩ := addressHex_bytes env addr
  unfold validateDenom State.createDenom
  rw [toUTF8_append, bytes, erc20Mark_bytes, if_pos]
  have digitBytes : digits.all isDenomByte = true :=
    List.all_eq_true.mpr fun digit member => hexValue_denomByte (hex digit member)
  simp only [List.cons_append, List.nil_append, matchesDenom, List.all_cons, digitBytes, List.length_cons, size]
  decide

theorem hexDecodeString_digits {text hash : Bytes} (decoded : hexDecodeString text = .ok hash) :
    text.length = 2 * hash.length ∧ ∀ digit ∈ text, (hexValue digit).isSome := by
  induction text using hexDecodeString.induct generalizing hash with
  | case1 =>
    cases decoded
    simp
  | case2 last none =>
    simp [hexDecodeString, none] at decoded
  | case3 last value some =>
    simp [hexDecodeString, some] at decoded
  | case4 high low rest none =>
    simp [hexDecodeString, none] at decoded
  | case5 high low rest value some none =>
    simp [hexDecodeString, some, none] at decoded
  | case6 high low rest first second secondSome firstSome ih =>
    simp only [hexDecodeString, firstSome, secondSome] at decoded
    obtain ⟨tail, tailDecoded, rfl⟩ := map_ok decoded
    obtain ⟨size, digits⟩ := ih tailDecoded
    refine ⟨by simp only [List.length_cons]; omega, ?_⟩
    simp only [List.mem_cons]
    rintro digit (rfl | rfl | member)
    · simp [firstSome]
    · simp [secondSome]
    · exact digits digit member

/-- A voucher whose hash is read has a valid denomination. -/
theorem ibcDenom_valid {denom : Denom} {addr : Address} (read : getIBCDenomAddress denom = .ok addr) :
    validateDenom denom = .ok () := by
  unfold getIBCDenomAddress at read
  simp only [ibcMark_bytes] at read
  obtain ⟨starts, read⟩ := ite_error_ok read
  rw [Bool.not_eq_true', Bool.not_eq_false, List.isPrefixOf_iff_prefix] at starts
  obtain ⟨hash, bytes⟩ := starts
  obtain ⟨long, read⟩ := ite_error_ok read
  split at read
  · cases read
  · rename_i bytesOfHash parsed
    rw [← bytes] at parsed long
    change parseHexHash hash = _ at parsed
    unfold parseHexHash at parsed
    split at parsed
    · cases parsed
    · rename_i decodedHash decoded
      obtain ⟨sized, parsed⟩ := ite_error_ok parsed
      obtain ⟨size, hex⟩ := hexDecodeString_digits decoded
      have hashLength : hash.length = 64 := by
        have longer := not_or.mp long
        have := longer.1
        simp only [List.length_append, List.length_cons, List.length_nil] at this
        omega
      have digitBytes : hash.all isDenomByte = true :=
        List.all_eq_true.mpr fun digit member => hexValue_denomByte (hex digit member)
      unfold validateDenom
      rw [← bytes, if_pos]
      simp only [List.cons_append, List.nil_append, matchesDenom, List.all_cons, digitBytes,
        List.length_cons, hashLength]
      decide

variable {σ : Type} {env : KeeperEnv σ} {kv kv' : KVStore} {pair other : TokenPair}

/-! What an operation does to the store. -/

/-- The pair writes its address as the keeper writes addresses. -/
def TokenPair.Spelled (env : KeeperEnv σ) (pair : TokenPair) : Prop :=
  pair.erc20Address = addressHex env.vm pair.getERC20Contract

theorem newTokenPair_contract (env : KeeperEnv σ) (addr : Address) (denom : Denom) (owner : Owner) :
    (newTokenPair env addr denom owner).getERC20Contract = addr := hexToAddress_addressHex env.vm addr

theorem newTokenPair_spelled (env : KeeperEnv σ) (addr : Address) (denom : Denom) (owner : Owner) :
    (newTokenPair env addr denom owner).Spelled env := by
  unfold TokenPair.Spelled
  rw [newTokenPair_contract]
  rfl

theorem TokenPair.Spelled.hex (spelled : pair.Spelled env) : isHexAddress pair.erc20Address = true := by
  rw [spelled]
  exact addressHex_isHexAddress env.vm _

/-- Different pairs have different ids: the bar after the address is the first one. -/
theorem getID_injective (injective : Injective env.sum) (hex : isHexAddress pair.erc20Address = true)
    (otherHex : isHexAddress other.erc20Address = true) (same : pair.getID env = other.getID env) :
    pair.erc20Address = other.erc20Address ∧ pair.denom = other.denom := by
  have texts := injective same
  simp only [String.append_assoc, toUTF8_append, barMark_bytes] at texts
  have upToBar : ∀ {address : String} {rest : Bytes}, isHexAddress address = true →
      (address.toUTF8.toList ++ ([124] ++ rest)).takeWhile (· ≠ 124) = address.toUTF8.toList := by
    intro address rest hexAddress
    rw [List.takeWhile_append_of_pos fun byte member => by
      simpa using ne_of_mem_of_not_mem member (isHexAddress_noBar hexAddress)]
    simp
  have addresses := congrArg (List.takeWhile fun byte : UInt8 => decide (byte ≠ 124)) texts
  rw [upToBar hex, upToBar otherHex] at addresses
  rw [addresses] at texts
  exact ⟨toUTF8_injective addresses, toUTF8_injective (List.append_cancel_left (List.append_cancel_left texts))⟩

/-- What `SetToken` writes. -/
def KVStore.withPair (env : KeeperEnv σ) (kv : KVStore) (pair : TokenPair) : KVStore :=
  ((kv.setTokenPair env pair).setDenomMap pair.denom (pair.getID env)).setERC20Map pair.getERC20Contract
    (pair.getID env)

section

variable (env : KeeperEnv σ) (kv : KVStore) (pair : TokenPair)

@[simp] theorem KVStore.withPair_tokenPairs :
    (kv.withPair env pair).tokenPairs = update kv.tokenPairs (pair.getID env) (some pair) := rfl

@[simp] theorem KVStore.withPair_erc20Map : (kv.withPair env pair).erc20Map =
      update kv.erc20Map pair.getERC20Contract (some (pair.getID env)) := rfl

@[simp] theorem KVStore.withPair_denomMap :
    (kv.withPair env pair).denomMap = update kv.denomMap pair.denom (some (pair.getID env)) := rfl

end

/-- The changes an operation is made of. `quiet` says which stored pairs may be toggled or
deleted. -/
inductive Change (env : KeeperEnv σ) (quiet : KVStore → TokenPair → Prop) : KVStore → KVStore → Prop
  | params (kv : KVStore) (enableErc20 permissionlessRegistration : Bool) :
      Change env quiet kv { kv with
        enableErc20 := enableErc20, permissionlessRegistration := permissionlessRegistration }
  | register (kv : KVStore) (pair : TokenPair) (spelled : pair.Spelled env)
      (valid : validateDenom pair.denom = .ok ()) (freshDenom : kv.denomMap pair.denom = none)
      (freshContract : kv.erc20Map pair.getERC20Contract = none) :
      Change env quiet kv (kv.withPair env pair)
  | native (kv : KVStore) (id : Bytes) (pair : TokenPair) (stored : kv.tokenPairs id = some pair)
      (enabled : pair.enabled = true) :
      Change env quiet kv (kv.setNativePrecompile env pair.getERC20Contract)
  | dynamic (kv : KVStore) (id : Bytes) (pair : TokenPair) (stored : kv.tokenPairs id = some pair)
      (enabled : pair.enabled = true) :
      Change env quiet kv (kv.setDynamicPrecompile env pair.getERC20Contract)
  | toggle (kv : KVStore) (id : Bytes) (pair : TokenPair) (stored : kv.tokenPairs id = some pair)
      (allowed : quiet kv pair) :
      Change env quiet kv (kv.setTokenPair env { pair with enabled := !pair.enabled })
  | delete (kv : KVStore) (id : Bytes) (pair : TokenPair) (stored : kv.tokenPairs id = some pair)
      (allowed : quiet kv pair) : Change env quiet kv (kv.deleteTokenPair env pair)
  | revoke (kv : KVStore) (key : Bytes) :
      Change env quiet kv { kv with allowances := update kv.allowances key none }
  | allow (kv : KVStore) (erc20 owner spender : Address) (value : ℤ) (id : Bytes) (pair : TokenPair)
      (registered : kv.erc20Map erc20 = some id) (stored : kv.tokenPairs id = some pair)
      (ownerSet : owner ≠ Vector.replicate 20 0) (spenderSet : spender ≠ Vector.replicate 20 0)
      (positive : 1 ≤ value) (fits : value ≤ 2 ^ 256 - 1) :
      Change env quiet kv { kv with
        allowances := update kv.allowances (allowanceKey erc20 owner spender)
          (some (newAllowance env erc20 owner spender value)) }

def Changes (env : KeeperEnv σ) (quiet : KVStore → TokenPair → Prop) : KVStore → KVStore → Prop :=
  Relation.ReflTransGen (Change env quiet)

/-! The invariant. -/

/-- The pairs of the store and the two maps say the same. -/
structure Indexed (env : KeeperEnv σ) (kv : KVStore) : Prop where
  keyed : ∀ id pair, kv.tokenPairs id = some pair → id = pair.getID env
  erc20 : ∀ id pair, kv.tokenPairs id = some pair → kv.erc20Map pair.getERC20Contract = some id
  denom : ∀ id pair, kv.tokenPairs id = some pair → kv.denomMap pair.denom = some id
  erc20_only : ∀ contract id, kv.erc20Map contract = some id →
    ∃ pair, kv.tokenPairs id = some pair ∧ pair.getERC20Contract = contract
  denom_only : ∀ denom id, kv.denomMap denom = some id →
    ∃ pair, kv.tokenPairs id = some pair ∧ pair.denom = denom

/-- An allowance under the key of its own fields, for a contract that is registered. -/
structure Allowed (env : KeeperEnv σ) (kv : KVStore) (key : Bytes) (allowance : Allowance)
    (erc20 owner spender : Address) : Prop where
  key : key = allowanceKey erc20 owner spender
  entry : allowance = newAllowance env erc20 owner spender allowance.value
  ownerSet : owner ≠ Vector.replicate 20 0
  spenderSet : spender ≠ Vector.replicate 20 0
  positive : 1 ≤ allowance.value
  fits : allowance.value ≤ 2 ^ 256 - 1
  registered : ∃ id pair, kv.tokenPairs id = some pair ∧ pair.getERC20Contract = erc20

/-- What every operation keeps. -/
structure Kept (env : KeeperEnv σ) (kv : KVStore) : Prop where
  indexed : Indexed env kv
  spelled : ∀ id pair, kv.tokenPairs id = some pair → pair.Spelled env
  valid : ∀ id pair, kv.tokenPairs id = some pair → validateDenom pair.denom = .ok ()
  allowed : ∀ key allowance, kv.allowances key = some allowance →
    ∃ erc20 owner spender, Allowed env kv key allowance erc20 owner spender

theorem Kept.empty (env : KeeperEnv σ) : Kept env .empty where
  indexed :=
    { keyed := nofun, erc20 := nofun, denom := nofun, erc20_only := nofun, denom_only := nofun }
  spelled := nofun
  valid := nofun
  allowed := nofun

/-- One id for one contract and one denomination. -/
theorem Indexed.unique (indexed : Indexed env kv) {id id' : Bytes} (stored : kv.tokenPairs id = some pair)
    (storedOther : kv.tokenPairs id' = some other)
    (shared : pair.getERC20Contract = other.getERC20Contract ∨ pair.denom = other.denom) : id = id' := by
  rcases shared with contract | denom
  · have here := indexed.erc20 id pair stored
    rw [contract, indexed.erc20 id' other storedOther] at here
    exact (Option.some.inj here).symm
  · have here := indexed.denom id pair stored
    rw [denom, indexed.denom id' other storedOther] at here
    exact (Option.some.inj here).symm

/-- An allowance stays as long as its contract stays registered. -/
theorem Allowed.mono {key : Bytes} {allowance : Allowance} {erc20 owner spender : Address}
    (allowed : Allowed env kv key allowance erc20 owner spender)
    (kept : ∀ id pair, kv.tokenPairs id = some pair → pair.getERC20Contract = erc20 →
      ∃ id pair, kv'.tokenPairs id = some pair ∧ pair.getERC20Contract = erc20) :
    Allowed env kv' key allowance erc20 owner spender := by
  obtain ⟨id, pair, stored, contract⟩ := allowed.registered
  exact { allowed with registered := kept id pair stored contract }

theorem allowanceKey_injective {erc20 erc20' owner owner' spender spender' : Address}
    (same : allowanceKey erc20 owner spender = allowanceKey erc20' owner' spender') :
    erc20 = erc20' ∧ owner = owner' ∧ spender = spender' := by
  unfold allowanceKey at same
  obtain ⟨left, spenders⟩ := List.append_inj same (by simp)
  obtain ⟨contracts, owners⟩ := List.append_inj left (by simp)
  exact ⟨Vector.toList_inj.mp contracts, Vector.toList_inj.mp owners, Vector.toList_inj.mp spenders⟩

/-- The keys of a contract are those that start with its address. -/
theorem allowanceKey_starts (erc20 contract owner spender : Address) :
    contract.toList.isPrefixOf (allowanceKey erc20 owner spender) = true ↔ erc20 = contract := by
  rw [List.isPrefixOf_iff_prefix]
  constructor
  · rintro ⟨rest, whole⟩
    unfold allowanceKey at whole
    rw [List.append_assoc] at whole
    obtain ⟨same, -⟩ := List.append_inj whole (by rw [Vector.length_toList, Vector.length_toList])
    exact (Vector.toList_inj.mp same).symm
  · rintro rfl
    exact ⟨owner.toList ++ spender.toList, (List.append_assoc _ _ _).symm⟩

/-! One lemma for each kind of change. -/

theorem Indexed.fresh (indexed : Indexed env kv) (injective : Injective env.sum)
    (hex : isHexAddress pair.erc20Address = true)
    (texts : ∀ id pair, kv.tokenPairs id = some pair → isHexAddress pair.erc20Address = true)
    (freshContract : kv.erc20Map pair.getERC20Contract = none) : kv.tokenPairs (pair.getID env) = none := by
  by_contra taken
  obtain ⟨other, stored⟩ := Option.ne_none_iff_exists'.mp taken
  have ids := indexed.keyed _ _ stored
  have texts := (getID_injective injective hex (texts _ _ stored) ids).1
  have contract : pair.getERC20Contract = other.getERC20Contract := congrArg hexToAddress texts
  rw [contract, indexed.erc20 _ _ stored] at freshContract
  cases freshContract

theorem Kept.fresh (kept : Kept env kv) (injective : Injective env.sum) (spelled : pair.Spelled env)
    (freshContract : kv.erc20Map pair.getERC20Contract = none) : kv.tokenPairs (pair.getID env) = none :=
  kept.indexed.fresh injective spelled.hex (fun id pair stored => (kept.spelled id pair stored).hex) freshContract

theorem Indexed.contracts (indexed : Indexed env kv) :
    IndexedBy TokenPair.getERC20Contract kv.tokenPairs kv.erc20Map := ⟨indexed.erc20, indexed.erc20_only⟩

theorem Indexed.denoms (indexed : Indexed env kv) : IndexedBy TokenPair.denom kv.tokenPairs kv.denomMap :=
  ⟨indexed.denom, indexed.denom_only⟩

theorem Indexed.of (keyed : ∀ id pair, kv.tokenPairs id = some pair → id = pair.getID env)
    (contracts : IndexedBy TokenPair.getERC20Contract kv.tokenPairs kv.erc20Map)
    (denoms : IndexedBy TokenPair.denom kv.tokenPairs kv.denomMap) : Indexed env kv :=
  ⟨keyed, contracts.leads, denoms.leads, contracts.only, denoms.only⟩

theorem Indexed.register (indexed : Indexed env kv) (fresh : kv.tokenPairs (pair.getID env) = none)
    (freshDenom : kv.denomMap pair.denom = none) (freshContract : kv.erc20Map pair.getERC20Contract = none) :
    Indexed env (kv.withPair env pair) :=
  .of (forall_update indexed.keyed rfl) (indexed.contracts.insert fresh freshContract)
    (indexed.denoms.insert fresh freshDenom)

/-- A pair is written again under its id, with another flag. -/
theorem Indexed.replace {id : Bytes} (indexed : Indexed env kv) (stored : kv.tokenPairs id = some pair)
    (contract : other.getERC20Contract = pair.getERC20Contract) (denom : other.denom = pair.denom)
    (ids : other.getID env = pair.getID env) : Indexed env (kv.setTokenPair env other) := by
  have place : id = other.getID env := (indexed.keyed id pair stored).trans ids.symm
  subst place
  exact .of (forall_update indexed.keyed rfl) (indexed.contracts.replace stored contract)
    (indexed.denoms.replace stored denom)

theorem KVStore.deleteTokenPair_tokenPairs (env : KeeperEnv σ) (kv : KVStore) (pair : TokenPair) :
    (kv.deleteTokenPair env pair).tokenPairs = update kv.tokenPairs (pair.getID env) none := rfl

theorem Indexed.delete {id : Bytes} (indexed : Indexed env kv) (stored : kv.tokenPairs id = some pair) :
    Indexed env (kv.deleteTokenPair env pair) := by
  obtain rfl := indexed.keyed id pair stored
  have contracts : (kv.deleteTokenPair env pair).erc20Map =
      update kv.erc20Map pair.getERC20Contract none := rfl
  have denoms : (kv.deleteTokenPair env pair).denomMap = update kv.denomMap pair.denom none := rfl
  refine .of ?_ ?_ ?_
  · rw [KVStore.deleteTokenPair_tokenPairs]
    exact forall_erase indexed.keyed
  · rw [KVStore.deleteTokenPair_tokenPairs, contracts]
    exact indexed.contracts.delete stored
  · rw [KVStore.deleteTokenPair_tokenPairs, denoms]
    exact indexed.denoms.delete stored

theorem Indexed.congr (indexed : Indexed env kv) (pairs : kv'.tokenPairs = kv.tokenPairs)
    (contracts : kv'.erc20Map = kv.erc20Map) (denoms : kv'.denomMap = kv.denomMap) : Indexed env kv' := by
  obtain ⟨keyed, erc20, denom, erc20Only, denomOnly⟩ := indexed
  rw [← pairs] at keyed erc20 denom erc20Only denomOnly
  rw [← contracts] at erc20 erc20Only
  rw [← denoms] at denom denomOnly
  exact ⟨keyed, erc20, denom, erc20Only, denomOnly⟩

/-- A write that leaves pairs and maps alone, and keeps or drops each allowance. -/
theorem Kept.samePairs (kept : Kept env kv) (pairs : kv'.tokenPairs = kv.tokenPairs)
    (contracts : kv'.erc20Map = kv.erc20Map) (denoms : kv'.denomMap = kv.denomMap)
    (fewer : ∀ key allowance, kv'.allowances key = some allowance → kv.allowances key = some allowance) :
    Kept env kv' where
  indexed := kept.indexed.congr pairs contracts denoms
  spelled id pair stored := kept.spelled id pair (pairs ▸ stored)
  valid id pair stored := kept.valid id pair (pairs ▸ stored)
  allowed key allowance stored := by
    obtain ⟨erc20, owner, spender, allowed⟩ := kept.allowed key allowance (fewer key allowance stored)
    refine ⟨erc20, owner, spender, allowed.mono fun id pair here contract => ⟨id, pair, ?_, contract⟩⟩
    rw [pairs]
    exact here

theorem Kept.register (kept : Kept env kv) (injective : Injective env.sum)
    (spelled : pair.Spelled env) (valid : validateDenom pair.denom = .ok ())
    (freshDenom : kv.denomMap pair.denom = none) (freshContract : kv.erc20Map pair.getERC20Contract = none) :
    Kept env (kv.withPair env pair) := by
  have fresh := kept.fresh injective spelled freshContract
  refine ⟨kept.indexed.register fresh freshDenom freshContract, ?_, ?_, ?_⟩
  · exact forall_update kept.spelled spelled
  · exact forall_update kept.valid valid
  · intro key allowance stored
    obtain ⟨erc20, owner, spender, allowed⟩ := kept.allowed key allowance stored
    refine ⟨erc20, owner, spender, allowed.mono fun id found here contract => ⟨id, found, ?_, contract⟩⟩
    rw [KVStore.withPair_tokenPairs]
    exact update_kept fresh here

theorem Kept.toggle {id : Bytes} (kept : Kept env kv) (stored : kv.tokenPairs id = some pair) :
    Kept env (kv.setTokenPair env { pair with enabled := !pair.enabled }) := by
  obtain rfl := kept.indexed.keyed id pair stored
  have pairs : (kv.setTokenPair env { pair with enabled := !pair.enabled }).tokenPairs =
      update kv.tokenPairs (pair.getID env) (some { pair with enabled := !pair.enabled }) := rfl
  refine ⟨kept.indexed.replace stored rfl rfl rfl, forall_update kept.spelled (kept.spelled _ pair stored),
    forall_update kept.valid (kept.valid _ pair stored), ?_⟩
  intro key allowance entry
  obtain ⟨erc20, owner, spender, allowed⟩ := kept.allowed key allowance entry
  refine ⟨erc20, owner, spender, allowed.mono fun read found here contract => ?_⟩
  rw [pairs]
  by_cases same : read = pair.getID env
  · rw [same, stored] at here
    cases here
    exact ⟨_, _, update_self .., contract⟩
  · exact ⟨read, found, by rw [update_of_ne same, here], contract⟩

theorem KVStore.deleteTokenPair_allowances (env : KeeperEnv σ) (kv : KVStore) (pair : TokenPair) (key : Bytes) :
    (kv.deleteTokenPair env pair).allowances key =
      if pair.getERC20Contract.toList.isPrefixOf key then none else kv.allowances key := by
  unfold KVStore.deleteTokenPair KVStore.deleteAllowances
  dsimp only

theorem Kept.delete {id : Bytes} (kept : Kept env kv) (stored : kv.tokenPairs id = some pair) :
    Kept env (kv.deleteTokenPair env pair) := by
  obtain rfl := kept.indexed.keyed id pair stored
  have pairs := KVStore.deleteTokenPair_tokenPairs env kv pair
  refine ⟨kept.indexed.delete stored, pairs ▸ forall_erase kept.spelled, pairs ▸ forall_erase kept.valid, ?_⟩
  intro key allowance entry
  rw [KVStore.deleteTokenPair_allowances] at entry
  split at entry
  · cases entry
  · rename_i apart
    obtain ⟨erc20, owner, spender, allowed⟩ := kept.allowed key allowance entry
    refine ⟨erc20, owner, spender, allowed.mono fun read found here contract => ?_⟩
    refine ⟨read, found, ?_, contract⟩
    rw [pairs, update_of_ne, here]
    rintro rfl
    cases here.symm.trans stored
    rw [allowed.key] at apart
    exact apart ((allowanceKey_starts ..).mpr contract.symm)

theorem Kept.allow {erc20 owner spender : Address} {value : ℤ} {id : Bytes} (kept : Kept env kv)
    (registered : kv.erc20Map erc20 = some id) (ownerSet : owner ≠ Vector.replicate 20 0)
    (spenderSet : spender ≠ Vector.replicate 20 0) (positive : 1 ≤ value) (fits : value ≤ 2 ^ 256 - 1) :
    Kept env { kv with
      allowances := update kv.allowances (allowanceKey erc20 owner spender)
        (some (newAllowance env erc20 owner spender value)) } where
  indexed := kept.indexed.congr rfl rfl rfl
  spelled := kept.spelled
  valid := kept.valid
  allowed key allowance entry := by
    rcases update_some entry with ⟨rfl, rfl⟩ | ⟨-, entry⟩
    · obtain ⟨pair, stored, contract⟩ := kept.indexed.erc20_only erc20 id registered
      exact ⟨erc20, owner, spender, rfl, rfl, ownerSet, spenderSet, positive, fits, id, pair, stored, contract⟩
    · obtain ⟨erc20, owner, spender, allowed⟩ := kept.allowed key allowance entry
      exact ⟨erc20, owner, spender, allowed.mono fun read found here contract => ⟨read, found, here, contract⟩⟩

theorem Kept.change {quiet : KVStore → TokenPair → Prop} (kept : Kept env kv)
    (injective : Injective env.sum) (change : Change env quiet kv kv') : Kept env kv' := by
  cases change with
  | params => exact kept.samePairs rfl rfl rfl fun _ _ entry => entry
  | register pair spelled valid freshDenom freshContract =>
    exact kept.register injective spelled valid freshDenom freshContract
  | native => exact kept.samePairs rfl rfl rfl fun _ _ entry => entry
  | dynamic => exact kept.samePairs rfl rfl rfl fun _ _ entry => entry
  | toggle id pair stored => exact kept.toggle stored
  | delete id pair stored => exact kept.delete stored
  | revoke key => exact kept.samePairs rfl rfl rfl fun _ _ entry => (update_none entry).2
  | allow erc20 owner spender value id pair registered _ ownerSet spenderSet positive fits =>
    exact kept.allow registered ownerSet spenderSet positive fits

theorem Kept.changes {quiet : KVStore → TokenPair → Prop} (kept : Kept env kv)
    (injective : Injective env.sum) (changes : Changes env quiet kv kv') : Kept env kv' := by
  induction changes with
  | refl => exact kept
  | tail _ change ih => exact ih.change injective change

end OgEvm.Erc20
