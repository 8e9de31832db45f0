import OgEvm.HexText

/- Genesis of x/vm. The export walks the index of code hashes and takes the storage of the
addresses it finds there; the import writes code hash, code and slots of each account back. -/
namespace OgEvm

open ExceptFacts

structure GenesisAccount where
  address : String
  code : String
  storage : List (String × String)
  deriving DecidableEq, Repr

/-- What the iterators over the code hashes and over the storage of an address visit. -/
structure Iterators (store : VmStore) where
  contracts : List Address
  slots : Address → List Hash
  mem_contracts : ∀ addr, addr ∈ contracts ↔ (store.codeHashes addr).isSome
  mem_slots : ∀ addr key, key ∈ slots addr ↔ (store.storage addr key).isSome

inductive GenesisPanic where
  | accountNotFound (address : String)
  deriving DecidableEq, Repr

namespace Keeper

variable (env : Env) (store : VmStore)

def getAccountStorage (slots : List Hash) (addr : Address) : List (String × String) :=
  slots.map fun key => (hashHex key, hashHex (bytesToHash ((store.storage addr key).getD [])))

/-- The callback of `ExportGenesis`, for the address and code hash of an index entry. -/
def exportAccount (slots : List Hash) (addr : Address) (codeHash : Hash) : GenesisAccount where
  address := addressHex env addr
  code := bytes2Hex ((getCode store codeHash).getD [])
  storage := getAccountStorage store slots addr

def exportGenesis (iterators : Iterators store) : List GenesisAccount :=
  iterators.contracts.map fun addr =>
    exportAccount env store (iterators.slots addr) addr ((store.codeHashes addr).getD zeroHash)

/-- The body of the loop of `InitGenesis`. -/
def initAccount (account : GenesisAccount) : Except GenesisPanic VmStore :=
  let address := Erc20.hexToAddress account.address
  match store.accounts address.toList with
  | none => .error (.accountNotFound account.address)
  | some _ =>
    let code := hex2Bytes account.code
    let codeHash := env.keccak code
    let store := if codeHash ≠ env.emptyCodeHash then setCodeHash store address codeHash else store
    let store := if code.length ≠ 0 then setCode store codeHash code else store
    .ok (account.storage.foldl (fun store slot =>
      setState store address (hexToHash slot.1) (hexToHash slot.2).toList) store)

def initGenesis (accounts : List GenesisAccount) : Except GenesisPanic VmStore :=
  accounts.foldlM (initAccount env) store

/-- The store before the import: auth and bank as they are, nothing of x/vm. -/
def withoutContracts : VmStore :=
  { store with codeHashes := fun _ => none, codes := fun _ => none, storage := fun _ _ => none }

/-- `GetCode` at the code hash of an address. -/
def codeAt (addr : Address) : Bytes := (getCode store (getCodeHash env store addr)).getD []

/-- The two stores answer the same for every address and slot. -/
structure Restores (env : Env) (store imported : VmStore) : Prop where
  codeHash : ∀ addr, getCodeHash env imported addr = getCodeHash env store addr
  code : ∀ addr, codeAt env imported addr = codeAt env store addr
  state : ∀ addr key, getState imported addr key = getState store addr key

/-- How the keeper keeps code: under its hash, with an account and a code behind every
entry of the index, and none for the empty hash. -/
structure CodeIndex (env : Env) (store : VmStore) : Prop where
  hashed : ∀ hash code, store.codes hash = some code → env.keccak code = hash ∧ code ≠ []
  nonempty : store.codes env.emptyCodeHash = none
  indexed : ∀ addr hash, store.codeHashes addr = some hash → ∃ code, store.codes hash = some code
  account : ∀ addr hash, store.codeHashes addr = some hash → ∃ acct, store.accounts addr.toList = some acct

section

variable {env : Env} {store partly after : VmStore} {addr : Address}

theorem foldl_setState (keys : List Hash) (value : Hash → Hash) (store : VmStore) (other : Address) (slot : Hash) :
    getState (keys.foldl (fun store key => setState store addr key (value key).toList) store) other slot =
      if other = addr ∧ slot ∈ keys then value slot else getState store other slot := by
  induction keys generalizing store with
  | nil => simp
  | cons key rest ih =>
    rw [List.foldl_cons, ih, getState_setState]
    by_cases there : other = addr
    · by_cases later : slot ∈ rest
      · simp [there, later]
      · by_cases here : slot = key <;> simp [there, later, here]
    · simp [there]

theorem foldl_setState_rest (addr : Address) (keys : List Hash) (value : Hash → Hash) (store : VmStore) :
    (keys.foldl (fun store key => setState store addr key (value key).toList) store).accounts = store.accounts ∧
      (keys.foldl (fun store key => setState store addr key (value key).toList) store).codeHashes = store.codeHashes ∧
      (keys.foldl (fun store key => setState store addr key (value key).toList) store).codes = store.codes := by
  induction keys generalizing store with
  | nil => exact ⟨rfl, rfl, rfl⟩
  | cons key rest ih => exact ih (setState store addr key (value key).toList)

theorem getState_eq (store : VmStore) (addr : Address) (key : Hash) :
    getState store addr key = bytesToHash ((store.storage addr key).getD []) := by
  unfold getState
  cases store.storage addr key with
  | none => decide
  | some bytes =>
    cases bytes with
    | nil => decide
    | cons first rest => rfl

/-- An exported entry of the index is written back with its hash, its code and its slots. -/
theorem initAccount_exported (index : CodeIndex env store) (iterators : Iterators store) {hash : Hash}
    (entry : store.codeHashes addr = some hash) (same : partly.accounts = store.accounts) :
    ∃ after, initAccount env partly (exportAccount env store (iterators.slots addr) addr hash) = .ok after ∧
      after.accounts = partly.accounts ∧ after.codeHashes = Function.update partly.codeHashes addr (some hash) ∧
      after.codes = Function.update partly.codes hash (store.codes hash) ∧ ∀ other slot, getState after other slot =
        if other = addr ∧ slot ∈ iterators.slots addr then getState store addr slot
        else getState partly other slot := by
  obtain ⟨acct, account⟩ := index.account addr hash entry
  obtain ⟨code, stored⟩ := index.indexed addr hash entry
  obtain ⟨digest, filled⟩ := index.hashed hash code stored
  have proper : hash ≠ env.emptyCodeHash := by
    rintro rfl
    rw [index.nonempty] at stored
    cases stored
  have sized : code.length ≠ 0 := fun empty => filled (List.length_eq_zero_iff.mp empty)
  let coded := setCode (setCodeHash partly addr hash) hash code
  have written := foldl_setState_rest addr (iterators.slots addr) (fun key => getState store addr key) coded
  refine ⟨(iterators.slots addr).foldl (fun store' key =>
    setState store' addr key (getState store addr key).toList) coded, ?_, written.1, written.2.1, ?_, ?_⟩
  · unfold initAccount exportAccount getAccountStorage getCode
    simp only [hexToAddress_addressHex, same, account, stored, Option.getD_some, hex2Bytes_bytes2Hex, digest,
      ne_eq, proper, not_false_eq_true, if_true, sized, List.foldl_map, hexToHash_hashHex, ← getState_eq]
    rfl
  · rw [written.2.2, stored]
    rfl
  · intro other slot
    rw [foldl_setState]
    rfl

/-- How far the import has come. -/
structure Imported (store : VmStore) (done : List Address) (partly : VmStore) : Prop where
  accounts : partly.accounts = store.accounts
  codeHashes : ∀ addr, partly.codeHashes addr = if addr ∈ done then store.codeHashes addr else none
  codes : ∀ addr ∈ done, ∀ hash, store.codeHashes addr = some hash → partly.codes hash = store.codes hash
  codesOnly : ∀ hash, partly.codes hash = none ∨ partly.codes hash = store.codes hash
  state : ∀ addr slot, getState partly addr slot =
    if addr ∈ done then getState store addr slot else zeroHash

theorem imported_start (store : VmStore) : Imported store [] (withoutContracts store) :=
  ⟨rfl, fun _ => by simp [withoutContracts], by simp, fun _ => Or.inl rfl, fun _ _ => by
    simp [getState, withoutContracts]⟩

/-- Step. -/
theorem Imported.step {done : List Address} (imported : Imported store done partly)
    (index : CodeIndex env store) (iterators : Iterators store) {hash : Hash}
    (entry : store.codeHashes addr = some hash) :
    ∃ after, initAccount env partly (exportAccount env store (iterators.slots addr) addr hash) = .ok after ∧
      Imported store (addr :: done) after := by
  obtain ⟨after, ran, accounts, codeHashes, codes, state⟩ :=
    initAccount_exported index iterators entry imported.accounts
  refine ⟨after, ran, accounts.trans imported.accounts, ?_, ?_, ?_, ?_⟩
  · intro other
    rw [codeHashes]
    by_cases here : other = addr
    · subst here
      simp [entry]
    · simp [here, imported.codeHashes]
  · intro other member digest found
    rw [codes]
    by_cases here : digest = hash
    · subst here
      exact Function.update_self ..
    · rw [Function.update_of_ne here]
      rcases List.mem_cons.mp member with rfl | earlier
      · rw [entry] at found
        exact absurd (Option.some.inj found).symm here
      · exact imported.codes other earlier digest found
  · intro digest
    rw [codes]
    by_cases here : digest = hash
    · subst here
      exact Or.inr (Function.update_self ..)
    · rw [Function.update_of_ne here]
      exact imported.codesOnly digest
  · intro other slot
    rw [state, imported.state]
    by_cases here : other = addr
    · subst here
      by_cases listed : slot ∈ iterators.slots other
      · simp [listed]
      · have absent : store.storage other slot = none := by
          rw [← Option.not_isSome_iff_eq_none, ← iterators.mem_slots]
          exact listed
        have zero : getState store other slot = zeroHash := by
          simp [getState, absent]
        simp [listed, zero]
    · simp [here]

section

variable (index : CodeIndex env store) (iterators : Iterators store)

include index

/-- Run. -/
theorem Imported.run {rest done : List Address} (listed : ∀ addr ∈ rest, (store.codeHashes addr).isSome)
    (imported : Imported store done partly) :
    ∃ after, initGenesis env partly (rest.map fun addr => exportAccount env store (iterators.slots addr) addr
        ((store.codeHashes addr).getD zeroHash)) = .ok after ∧ Imported store (rest.reverse ++ done) after := by
  induction rest generalizing partly done with
  | nil => exact ⟨partly, rfl, imported⟩
  | cons addr rest ih =>
    obtain ⟨head, tail⟩ := List.forall_mem_cons.mp listed
    obtain ⟨hash, entry⟩ := Option.isSome_iff_exists.mp head
    obtain ⟨middle, first, next⟩ := imported.step index iterators entry
    obtain ⟨after, ran, final⟩ := ih tail next
    refine ⟨after, ?_, ?_⟩
    · rw [initGenesis, List.map_cons, List.foldlM_cons, entry, Option.getD_some, bind_of_ok first]
      exact ran
    · simpa using final

/-- The import goes through, with everything the index leads to. -/
theorem initGenesis_exported :
    ∃ imported, initGenesis env (withoutContracts store) (exportGenesis env store iterators) = .ok imported ∧
      Imported store iterators.contracts.reverse imported := by
  obtain ⟨after, ran, final⟩ := Imported.run index iterators
    (fun addr member => (iterators.mem_contracts addr).mp member) (imported_start store)
  rw [List.append_nil] at final
  exact ⟨after, ran, final⟩

/-- Export and import preserve the contract state exactly if no address outside of the
index has a slot that is not zero. -/
theorem export_import_iff :
    (∃ imported, initGenesis env (withoutContracts store) (exportGenesis env store iterators) = .ok imported ∧
      Restores env store imported) ↔
      ∀ addr, store.codeHashes addr = none → ∀ slot, getState store addr slot = zeroHash := by
  obtain ⟨imported, ran, final⟩ := initGenesis_exported index iterators
  have listed : ∀ addr, addr ∈ iterators.contracts.reverse ↔ (store.codeHashes addr).isSome := by
    intro addr
    rw [List.mem_reverse]
    exact iterators.mem_contracts addr
  have hashes : imported.codeHashes = store.codeHashes := by
    funext addr
    rw [final.codeHashes]
    split
    · rfl
    · rename_i missing
      rw [listed, Option.not_isSome_iff_eq_none] at missing
      exact missing.symm
  constructor
  · rintro ⟨other, same, restored⟩ addr missing slot
    rw [ran] at same
    cases same
    rw [← restored.state, final.state, if_neg]
    rw [listed, missing]
    simp
  · intro complete
    have codeHash : ∀ addr, getCodeHash env imported addr = getCodeHash env store addr := by
      intro addr
      unfold getCodeHash
      rw [hashes]
    refine ⟨imported, ran, codeHash, ?_, ?_⟩
    · intro addr
      unfold codeAt getCode
      rw [codeHash]
      unfold getCodeHash
      cases entry : store.codeHashes addr with
      | none =>
        have same := final.codesOnly env.emptyCodeHash
        rw [index.nonempty, or_self] at same
        rw [Option.getD_none, same, index.nonempty]
      | some hash =>
        have member : addr ∈ iterators.contracts.reverse := by
          rw [listed, entry]
          rfl
        rw [Option.getD_some, final.codes addr member hash entry]
    · intro addr slot
      rw [final.state]
      split
      · rfl
      · rename_i missing
        rw [listed, Option.not_isSome_iff_eq_none] at missing
        exact (complete addr missing slot).symm

end

end

end Keeper

end OgEvm
