import OgEvm.HexText
import OgEvm.PrecisebankReserve

/- Genesis of x/precisebank. What `Validate` asks of a genesis state is what the backing of
the fractional balances gives: the export of a backed store is accepted, and its import
into an empty store brings the same store back. -/
namespace OgEvm.Precisebank

open Totals ExceptFacts

/-- Account addresses as text. Addresses of 1 to 255 bytes are printed in lower case and
parsed back. -/
structure Bech32 where
  string : AccAddress → String
  accAddressFromBech32 : String → Except String AccAddress
  string_lower : ∀ address, (string address).toLower = string address
  parse_string : ∀ address, address ≠ [] → address.length ≤ 255 →
    accAddressFromBech32 (string address) = .ok address

structure FractionalBalance where
  address : String
  amount : ℤ
  deriving DecidableEq, Repr

structure GenesisState where
  balances : List FractionalBalance
  remainder : ℤ
  deriving DecidableEq, Repr

variable (codec : Bech32) (cfg : Config) (s : BankState)

def FractionalBalance.validate (fb : FractionalBalance) :
    Except String Unit := do
  let _ ← codec.accAddressFromBech32 fb.address
  validateFractionalAmount cfg fb.amount

namespace FractionalBalances

/-- The loop of `FractionalBalances.Validate`, with the addresses seen so far. -/
def validate (codec : Bech32) (cfg : Config) : List FractionalBalance → List String → Except String Unit
  | [], _ => .ok ()
  | fb :: rest, seenAddresses => do
    (fb.validate codec cfg).mapError fun err => "invalid fractional balance for " ++ fb.address ++ ": " ++ err
    let lowerAddr := fb.address.toLower
    if lowerAddr ∈ seenAddresses then .error ("duplicate address " ++ lowerAddr)
    else validate codec cfg rest (lowerAddr :: seenAddresses)

def sumAmount (fbs : List FractionalBalance) : ℤ := fbs.foldl (fun sum fb => sum + fb.amount) 0

end FractionalBalances

namespace GenesisState

def validate (gs : GenesisState) : Except String Unit := do
  (FractionalBalances.validate codec cfg gs.balances []).mapError ("invalid balances: " ++ ·)
  let sum := FractionalBalances.sumAmount gs.balances
  if gs.remainder < 0 then .error ("negative remainder amount " ++ toString gs.remainder)
  else if cfg.conversionFactor ≤ gs.remainder then
    .error ("remainder " ++ toString gs.remainder ++ " exceeds max of " ++ toString (cfg.conversionFactor - 1))
  else if (sum + gs.remainder) % cfg.conversionFactor ≠ 0 then
    .error ("sum of fractional balances " ++ toString sum ++ " + remainder " ++ toString gs.remainder ++
      " is not a multiple of " ++ toString cfg.conversionFactor)
  else .ok ()

def totalAmountWithRemainder (gs : GenesisState) : ℤ :=
  FractionalBalances.sumAmount gs.balances + gs.remainder

end GenesisState

inductive GenesisPanic where
  | invalid (message : String)
  | noModuleAccount (message : String)
  | unbalanced (moduleBal expected : ℤ)
  | badAddress (message : String)
  | store (fault : Fault)
  deriving DecidableEq, Repr

/-- An entry of the genesis state is stored. -/
def initBalance (fb : FractionalBalance) :
    Except GenesisPanic BankState := do
  let addr ← (codec.accAddressFromBech32 fb.address).mapError GenesisPanic.badAddress
  (setFractionalBalance cfg s addr fb.amount).mapError GenesisPanic.store

/-- A genesis state with nothing in it is let through whatever the reserve holds. -/
def initGenesis (gs : GenesisState) :
    Except GenesisPanic BankState := do
  (gs.validate codec cfg).mapError fun err =>
    .invalid ("failed to validate " ++ precisebankModule ++ " genesis state: " ++ err)
  match cfg.moduleAddress precisebankModule with
  | none => .error (.noModuleAccount (precisebankModule ++ " module account has not been set"))
  | some moduleAddr =>
    let moduleBal := s.balances cfg.denom moduleAddr
    if gs.totalAmountWithRemainder ≠ moduleBal * cfg.conversionFactor ∧
        ¬ (gs.balances = [] ∧ gs.remainder = 0) then
      .error (.unbalanced moduleBal gs.totalAmountWithRemainder)
    else do
      let s ← gs.balances.foldlM (initBalance codec cfg) s
      (setRemainderAmount cfg s gs.remainder).mapError GenesisPanic.store

/-- What the iterator over the fractional balances visits: every stored key, once. Keys of
a store are not empty, and addresses have at most 255 bytes. -/
structure BalanceIterator (s : BankState) where
  addresses : List AccAddress
  nodup : addresses.Nodup
  mem_addresses : ∀ address, address ∈ addresses ↔ s.fractionalBalances address ≠ 0
  proper : ∀ address ∈ addresses, address ≠ [] ∧ address.length ≤ 255

/-- `NewFractionalBalance` for a stored address. -/
def newFractionalBalance (address : AccAddress) : FractionalBalance :=
  ⟨codec.string address, getFractionalBalance s address⟩

def exportGenesis (iterator : BalanceIterator s) : GenesisState where
  balances := iterator.addresses.map (newFractionalBalance codec s)
  remainder := getRemainderAmount s

/-- An entry of the store that can be written out and read back. -/
structure Storable (cfg : Config) (s : BankState) (address : AccAddress) : Prop where
  named : address ≠ []
  short : address.length ≤ 255
  positive : 0 < s.fractionalBalances address
  small : s.fractionalBalances address < cfg.conversionFactor

section

variable {codec : Bech32} {cfg : Config} {s : BankState} {addresses : List AccAddress}

/-- Printed addresses that are all new pass the loop. -/
theorem validate_printed {seen : List String} (storable : ∀ address ∈ addresses, Storable cfg s address)
    (nodup : addresses.Nodup) (fresh : ∀ address ∈ addresses, codec.string address ∉ seen) :
    FractionalBalances.validate codec cfg (addresses.map (newFractionalBalance codec s)) seen = .ok () := by
  induction addresses generalizing seen with
  | nil => rfl
  | cons address rest ih =>
    obtain ⟨first, later⟩ := List.forall_mem_cons.mp storable
    obtain ⟨new, freshRest⟩ := List.forall_mem_cons.mp fresh
    obtain ⟨apart, nodupRest⟩ := List.nodup_cons.mp nodup
    have parsed := codec.parse_string address first.named first.short
    have valid : (newFractionalBalance codec s address).validate codec cfg = .ok () := by
      rw [FractionalBalance.validate, newFractionalBalance, bind_of_ok parsed]
      exact validateFractionalAmount_ok first.positive first.small
    rw [List.map_cons, FractionalBalances.validate, valid]
    simp only [newFractionalBalance, codec.string_lower]
    refine (if_neg new).trans (ih later nodupRest fun other member => ?_)
    refine List.not_mem_cons_of_ne_of_not_mem (fun same => apart ?_) (freshRest other member)
    have again := codec.parse_string other (later other member).named (later other member).short
    rw [same, parsed] at again
    rwa [Except.ok.inj again]

theorem sumAmount_exported (iterator : BalanceIterator s) :
    FractionalBalances.sumAmount (exportGenesis codec s iterator).balances = total s.fractionalBalances := by
  have support : iterator.addresses.toFinset = s.fractionalBalances.support := by
    ext address
    rw [List.mem_toFinset, iterator.mem_addresses, DFinsupp.mem_support_iff]
  have loop (addresses : List AccAddress) (sum : ℤ) :
      (addresses.map (newFractionalBalance codec s)).foldl (fun sum fb => sum + fb.amount) sum =
        sum + (addresses.map s.fractionalBalances).sum := by
    induction addresses generalizing sum with
    | nil => simp
    | cons address rest ih =>
      rw [List.map_cons, List.foldl_cons, ih, List.map_cons, List.sum_cons]
      exact add_assoc _ _ _
  rw [FractionalBalances.sumAmount, exportGenesis, loop, zero_add, ← List.sum_toFinset _ iterator.nodup, support]
  rfl

theorem initBalance_printed (base : BankState) {address : AccAddress} (storable : Storable cfg s address) :
    initBalance codec cfg base (newFractionalBalance codec s address) = .ok { base with
      fractionalBalances := base.fractionalBalances.update address (s.fractionalBalances address) } := by
  have set : setFractionalBalance cfg base address (s.fractionalBalances address) = .ok { base with
      fractionalBalances := base.fractionalBalances.update address (s.fractionalBalances address) } := by
    rw [setFractionalBalance, if_neg storable.named, if_neg storable.positive.ne',
      validateFractionalAmount_ok storable.positive storable.small]
  rw [initBalance, newFractionalBalance, codec.parse_string address storable.named storable.short]
  exact congrArg (Except.mapError GenesisPanic.store) set

/-- The import stores the entries of the list and leaves the other accounts alone. -/
theorem initBalances_printed (base : BankState) (storable : ∀ address ∈ addresses, Storable cfg s address) :
    ∃ read : Table AccAddress, (addresses.map (newFractionalBalance codec s)).foldlM (initBalance codec cfg) base =
        .ok { base with fractionalBalances := read } ∧
      ∀ address, read address =
        if address ∈ addresses then s.fractionalBalances address else base.fractionalBalances address := by
  induction addresses generalizing base with
  | nil => exact ⟨base.fractionalBalances, rfl, by simp⟩
  | cons address rest ih =>
    obtain ⟨first, later⟩ := List.forall_mem_cons.mp storable
    rw [List.map_cons, List.foldlM_cons, bind_of_ok (initBalance_printed base first)]
    obtain ⟨read, loaded, reads⟩ := ih _ later
    refine ⟨read, loaded, fun other => ?_⟩
    simp only [reads, update_apply, List.mem_cons]
    grind

theorem Backed.storable (backed : Backed cfg s) (iterator : BalanceIterator s) :
    ∀ address ∈ iterator.addresses, Storable cfg s address := by
  intro address member
  obtain ⟨named, short⟩ := iterator.proper address member
  have stored := (iterator.mem_addresses address).mp member
  exact ⟨named, short, lt_of_le_of_ne (backed.fractional_nonneg address) (Ne.symm stored),
    backed.fractional_lt address⟩

theorem exported_valid (backed : Backed cfg s) (iterator : BalanceIterator s) :
    (exportGenesis codec s iterator).validate codec cfg = .ok () := by
  have balances : FractionalBalances.validate codec cfg (exportGenesis codec s iterator).balances [] = .ok () :=
    validate_printed (backed.storable iterator) iterator.nodup (by simp)
  have whole : (total s.fractionalBalances + s.remainder) % cfg.conversionFactor = 0 := by
    rw [← backed.reserve]
    exact Int.mul_emod_left _ _
  simp only [GenesisState.validate, balances, sumAmount_exported]
  refine (if_neg (not_lt.mpr backed.remainder_nonneg)).trans ?_
  refine (if_neg (not_le.mpr backed.remainder_lt)).trans (if_neg (not_not.mpr ?_))
  exact whole

end

/-- The store of the module with nothing in it, over the same bank. -/
def emptied (s : BankState) : BankState := { s with fractionalBalances := 0, remainder := 0 }

/-- The export of a backed store is valid, and its import into an empty store restores
every fractional balance and the remainder, and nothing else changes. -/
theorem genesis_round_trip (codec : Bech32) {cfg : Config} {s : BankState} (backed : Backed cfg s)
    (iterator : BalanceIterator s) :
    (exportGenesis codec s iterator).validate codec cfg = .ok () ∧
      initGenesis codec cfg (emptied s) (exportGenesis codec s iterator) = .ok s := by
  have valid : (exportGenesis codec s iterator).validate codec cfg = .ok () := exported_valid backed iterator
  refine ⟨valid, ?_⟩
  have balanced : (exportGenesis codec s iterator).totalAmountWithRemainder =
      (emptied s).balances cfg.denom cfg.reserve * cfg.conversionFactor := by
    rw [GenesisState.totalAmountWithRemainder, sumAmount_exported]
    exact backed.reserve.symm
  obtain ⟨read, loaded, reads⟩ : ∃ read : Table AccAddress, (exportGenesis codec s iterator).balances.foldlM
      (initBalance codec cfg) (emptied s) = .ok { s with fractionalBalances := read, remainder := 0 } ∧ _ :=
    initBalances_printed (emptied s) (backed.storable iterator)
  have restored : read = s.fractionalBalances := by
    ext address
    rw [reads]
    split
    · rfl
    · rename_i absent
      exact (not_not.mp (mt (iterator.mem_addresses address).mpr absent)).symm
  have remainder : setRemainderAmount cfg { s with fractionalBalances := read, remainder := 0 }
      (exportGenesis codec s iterator).remainder = .ok s := by
    change setRemainderAmount cfg _ s.remainder = .ok s
    unfold setRemainderAmount
    split
    · rename_i zero
      rw [restored, ← zero]
    · rename_i stored
      have positive := lt_of_le_of_ne backed.remainder_nonneg (Ne.symm stored)
      rw [validateFractionalAmount_ok positive backed.remainder_lt, restored]
  rw [initGenesis, valid, cfg.reserve_registered]
  refine (if_neg (not_and_of_not_left _ (not_not.mpr balanced))).trans ?_
  rw [bind_of_ok loaded]
  exact congrArg (Except.mapError GenesisPanic.store) remainder

theorem bytes2Hex_lower (bytes : Bytes) : (bytes2Hex bytes).toLower = bytes2Hex bytes := by
  have low : ∀ value ∈ nibbles bytes, (hexDigit value).toLower = hexDigit value := by
    intro value member
    have small := nibbles_small member
    interval_cases value <;> decide
  apply String.toList_inj.mp
  change ((bytes2Hex bytes).map Char.toLower).toList = _
  simp only [bytes2Hex, String.toList_map, String.toList_ofList, List.map_map]
  exact List.map_congr_left low

/-- Addresses printed in hex. -/
def hexCodec : Bech32 where
  string := bytes2Hex
  accAddressFromBech32 text := .ok (hex2Bytes text)
  string_lower := bytes2Hex_lower
  parse_string address _ _ := by rw [hex2Bytes_bytes2Hex]

def fundedIterator : BalanceIterator fundedBank where
  addresses := [[3]]
  nodup := by decide
  mem_addresses address := by
    rw [fundedBank_fractional]
    split <;> simp [*]
  proper := by decide

theorem genesis_round_trip_fundedBank :
    exportGenesis hexCodec fundedBank fundedIterator = ⟨[⟨"03", 500000000000⟩], 500000000000⟩ ∧
      initGenesis hexCodec sixDecimals (emptied fundedBank)
        (exportGenesis hexCodec fundedBank fundedIterator) = .ok fundedBank :=
  ⟨by decide, (genesis_round_trip hexCodec fundedBank_backed fundedIterator).2⟩

end OgEvm.Precisebank
