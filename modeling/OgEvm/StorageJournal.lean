import OgEvm.StorageSlots

/- The journal as the record of the dirty slots: a slot that is dirty has an entry,
the first entry of a slot takes it back to its origin, and the dirty counts are the
numbers of entries. -/
namespace OgEvm.StateDb

open ExceptFacts Function

/-- An entry that does not go back to the origin has an earlier one for its slot. -/
def Founded (entries : List JournalEntry) : Prop :=
  ∀ earlier addr key preValue origValue later,
    entries = earlier ++ .storageChange addr key preValue origValue :: later → preValue ≠ origValue →
    ∃ pre orig, JournalEntry.storageChange addr key pre orig ∈ earlier

def dirtyCount (entries : List JournalEntry) (addr : Address) : ℕ :=
  entries.countP fun entry => entry.dirtied = some addr

/-- The dirty counts are the numbers of entries that name an address. -/
def Counted (j : Journal) : Prop :=
  ∀ addr, j.dirties.lookup addr =
    if dirtyCount j.entries addr = 0 then none else some (dirtyCount j.entries addr : ℤ)

theorem dirtyCount_concat (entries : List JournalEntry) (entry : JournalEntry) (addr : Address) :
    dirtyCount (entries ++ [entry]) addr = dirtyCount entries addr + if entry.dirtied = some addr then 1 else 0 := by
  simp [dirtyCount, List.countP_append, List.countP_singleton]

theorem counted_append {j : Journal} (counted : Counted j) (entry : JournalEntry) : Counted (j.append entry) := by
  intro addr
  have before := counted addr
  simp only [Journal.append, dirtyCount_concat]
  cases named : entry.dirtied with
  | none => simpa using before
  | some account =>
    by_cases same : addr = account
    · subst same
      simp only [Journal.countUp, AList.lookup_insert, before, if_true]
      split <;> simp_all
    · simp only [Journal.countUp, AList.lookup_insert_ne same, Option.some.injEq,
        Ne.symm same, if_false, Nat.add_zero]
      exact before

/-- Undoing the last entry counts it down. -/
theorem counted_undo {j : Journal} {rest : List JournalEntry} {entry : JournalEntry}
    (counted : Counted j) (entries : j.entries = rest ++ [entry]) : Counted (j.undoLast entry) := by
  intro addr
  have before := counted addr
  rw [entries, dirtyCount_concat] at before
  simp only [Journal.undoLast, entries, List.dropLast_concat]
  cases named : entry.dirtied with
  | none => simpa [named] using before
  | some account =>
    rw [named] at before
    by_cases same : addr = account
    · subst same
      simp only [if_true, Nat.succ_ne_zero, if_false] at before
      simp only [Journal.countDown, before, Option.getD_some]
      by_cases last : dirtyCount rest addr = 0
      · simp [last]
      · have more : ¬ ((dirtyCount rest addr + 1 : ℕ) : ℤ) - 1 = 0 := by omega
        rw [if_neg more, AList.lookup_insert, if_neg last]
        congr 1
        omega
    · simp only [Option.some.injEq, Ne.symm same, if_false, Nat.add_zero] at before
      simp only [Journal.countDown]
      split
      · rw [AList.lookup_erase_ne same]
        exact before
      · rw [AList.lookup_insert_ne same]
        exact before

theorem Counted.mem {j : Journal} (counted : Counted j) {entry : JournalEntry} {addr : Address}
    (member : entry ∈ j.entries) (named : entry.dirtied = some addr) : addr ∈ j.dirties := by
  have positive : 0 < dirtyCount j.entries addr :=
    List.countP_pos_iff.mpr ⟨entry, member, by simpa using named⟩
  rw [← AList.lookup_isSome, counted addr, if_neg (by omega)]
  rfl

theorem Founded.init {entries : List JournalEntry} {entry : JournalEntry}
    (founded : Founded (entries ++ [entry])) : Founded entries := by
  intro earlier addr key preValue origValue later split apart
  refine founded earlier addr key preValue origValue (later ++ [entry]) ?_ apart
  rw [split, List.append_assoc]
  rfl

/-- An entry may be added if it goes back to the origin or has a predecessor. -/
theorem Founded.concat {entries : List JournalEntry} {entry : JournalEntry} (founded : Founded entries)
    (fits : ∀ addr key preValue origValue, entry = .storageChange addr key preValue origValue →
      preValue ≠ origValue → ∃ pre orig, JournalEntry.storageChange addr key pre orig ∈ entries) :
    Founded (entries ++ [entry]) := by
  intro earlier addr key preValue origValue later split apart
  rcases List.eq_nil_or_concat later with rfl | ⟨init, last, rfl⟩
  · obtain ⟨rfl, same⟩ := List.append_inj' split rfl
    exact fits addr key preValue origValue (List.head_eq_of_cons_eq same) apart
  · have regrouped : entries ++ [entry] =
        (earlier ++ .storageChange addr key preValue origValue :: init) ++ [last] := by
      simpa using split
    obtain ⟨whole, -⟩ := List.append_inj' regrouped rfl
    exact founded earlier addr key preValue origValue init whole apart

/-- An entry that fits after the given ones. -/
def Fits (env : Env) (base : VmStore) (entries : List JournalEntry) : JournalEntry → Prop
  | .createObjectChange account => loaded env base account = none
  | .resetObjectChange _ => False
  | .selfDestructChange _ _ _ => False
  | .storageChange account key preValue origValue => preValue ≠ origValue →
      ∃ pre orig, JournalEntry.storageChange account key pre orig ∈ entries
  | _ => True

/-- A journal without resets, whose creations are of accounts the keeper does not have. -/
structure Proper (env : Env) (base : VmStore) (j : Journal) : Prop where
  founded : Founded j.entries
  counted : Counted j
  created : ∀ addr, JournalEntry.createObjectChange addr ∈ j.entries → loaded env base addr = none
  reset : ∀ prev, JournalEntry.resetObjectChange prev ∉ j.entries
  destructed : ∀ addr prev balance, JournalEntry.selfDestructChange addr prev balance ∉ j.entries

section

variable {env : Env} {base : VmStore} {j : Journal}

theorem proper_new (env : Env) (base : VmStore) : Proper env base Journal.newJournal := by
  refine ⟨?_, ?_, ?_, ?_, ?_⟩
  · intro earlier addr key preValue origValue later split
    simp [Journal.newJournal] at split
  · intro addr
    simp [Journal.newJournal, dirtyCount]
  all_goals simp [Journal.newJournal]

theorem Proper.append (proper : Proper env base j) {entry : JournalEntry}
    (fits : Fits env base j.entries entry) : Proper env base (j.append entry) where
  founded := by
    refine proper.founded.concat fun addr key preValue origValue same => ?_
    subst same
    exact fits
  counted := counted_append proper.counted entry
  created := by
    intro addr member
    rcases List.mem_append.mp member with old | new
    · exact proper.created addr old
    · rw [← List.mem_singleton.mp new] at fits
      exact fits
  reset := by
    intro prev member
    rcases List.mem_append.mp member with old | new
    · exact proper.reset prev old
    · rw [← List.mem_singleton.mp new] at fits
      exact fits
  destructed := by
    intro addr prev balance member
    rcases List.mem_append.mp member with old | new
    · exact proper.destructed addr prev balance old
    · rw [← List.mem_singleton.mp new] at fits
      exact fits

theorem QuietEntry.fits {entry : JournalEntry} (quiet : QuietEntry env base entry)
    (entries : List JournalEntry) : Fits env base entries entry := by
  cases entry <;> first | exact quiet | exact quiet.elim

theorem Proper.quiet (proper : Proper env base j) {added : List JournalEntry}
    (quiet : ∀ entry ∈ added, QuietEntry env base entry) : Proper env base (added.foldl Journal.append j) := by
  induction added generalizing j with
  | nil => exact proper
  | cons entry rest ih =>
    obtain ⟨first, later⟩ := List.forall_mem_cons.mp quiet
    exact ih (proper.append (first.fits j.entries)) later

theorem foldl_append_entries (added : List JournalEntry) (j : Journal) :
    (added.foldl Journal.append j).entries = j.entries ++ added := by
  induction added generalizing j with
  | nil => simp
  | cons entry rest ih =>
    rw [List.foldl_cons, ih]
    simp [Journal.append]

/-- The last entry undone and counted down. -/
theorem Proper.undo (proper : Proper env base j) {rest : List JournalEntry} {entry : JournalEntry}
    (entries : j.entries = rest ++ [entry]) : Proper env base (j.undoLast entry) := by
  have dropped : (j.undoLast entry).entries = rest := by
    simp only [Journal.undoLast, entries, List.dropLast_concat]
  have inside : ∀ other, other ∈ (j.undoLast entry).entries → other ∈ j.entries := by
    intro other member
    exact List.mem_of_mem_dropLast member
  refine ⟨?_, counted_undo proper.counted entries, fun addr member => proper.created addr (inside _ member),
    fun prev member => proper.reset prev (inside _ member),
    fun addr prev balance member => proper.destructed addr prev balance (inside _ member)⟩
  have founded := proper.founded
  rw [entries] at founded
  rw [dropped]
  exact founded.init

end

/-- What the journal says about the slots. -/
structure Booked (env : Env) (s : StateDb) : Prop where
  plain : ∀ addr x, slots env s addr = some x → x.overridden = false ∧ x.selfDestructed = false
  pending : ∀ addr x key, slots env s addr = some x → x.dirty.lookup key ≠ none →
    ∃ pre orig, JournalEntry.storageChange addr key pre orig ∈ s.journal.entries
  proper : Proper env s.ctx.store s.journal

variable {env : Env} {s t : StateDb}

/-- A change of the slots that keeps what is dirty, over the same journal. -/
theorem Booked.of_same_dirty (booked : Booked env s) (ctx : t.ctx.store = s.ctx.store)
    (journal : t.journal = s.journal) (same : ∀ addr y, slots env t addr = some y → ∃ x, slots env s addr = some x ∧
      y.dirty = x.dirty ∧ y.overridden = x.overridden ∧ y.selfDestructed = x.selfDestructed) : Booked env t where
  plain := by
    intro addr y found
    obtain ⟨x, held, -, overridden, destructed⟩ := same addr y found
    rw [overridden, destructed]
    exact booked.plain addr x held
  pending := by
    intro addr y key found dirty
    obtain ⟨x, held, kept, -, -⟩ := same addr y found
    rw [kept] at dirty
    rw [journal]
    exact booked.pending addr x key held dirty
  proper := by
    rw [ctx, journal]
    exact booked.proper

theorem Booked.quiet (booked : Booked env s) (quiet : Quiet env s t) : Booked env t := by
  obtain ⟨added, journal, entries⟩ := quiet.journal
  refine ⟨?_, ?_, ?_⟩
  · intro addr x found
    rcases quiet.slots addr with same | ⟨-, fresh⟩
    · rw [same] at found
      exact booked.plain addr x found
    · rw [fresh] at found
      rw [← Option.some.inj found]
      exact ⟨rfl, rfl⟩
  · intro addr x key found dirty
    rcases quiet.slots addr with same | ⟨-, fresh⟩
    · rw [same] at found
      obtain ⟨pre, orig, member⟩ := booked.pending addr x key found dirty
      refine ⟨pre, orig, ?_⟩
      rw [journal, foldl_append_entries]
      exact List.mem_append_left _ member
    · rw [fresh] at found
      rw [← Option.some.inj found] at dirty
      exact absurd rfl dirty
  · rw [quiet.ctx, journal]
    exact booked.proper.quiet entries

/-- Writing a slot books an entry for it. -/
theorem Booked.write (booked : Booked env s) {addr : Address} {key value : Hash} {x : Slots}
    (held : slots env s addr = some x) (ctx : t.ctx = s.ctx)
    (journal : t.journal = s.journal.append (.storageChange addr key (x.state key) (x.committed key)))
    (written : slots env t = update (slots env s) addr (some (x.write key value (x.committed key)))) :
    Booked env t := by
  have fits : Fits env s.ctx.store s.journal.entries
      (.storageChange addr key (x.state key) (x.committed key)) := by
    intro apart
    refine booked.pending addr x key held fun clean => apart ?_
    simp [Slots.state, clean]
  refine ⟨?_, ?_, ?_⟩
  · intro other y found
    rw [written] at found
    by_cases here : other = addr
    · subst here
      rw [update_self] at found
      rw [← Option.some.inj found]
      exact booked.plain other x held
    · rw [update_of_ne here] at found
      exact booked.plain other y found
  · intro other y slot found dirty
    rw [journal]
    by_cases there : other = addr ∧ slot = key
    · obtain ⟨rfl, rfl⟩ := there
      exact ⟨_, _, List.mem_append_right _ (List.mem_singleton.mpr rfl)⟩
    · have old : ∃ z, slots env s other = some z ∧ z.dirty.lookup slot ≠ none := by
        rw [written] at found
        by_cases here : other = addr
        · subst here
          have apart : slot ≠ key := fun same => there ⟨rfl, same⟩
          rw [update_self] at found
          rw [← Option.some.inj found] at dirty
          refine ⟨x, held, ?_⟩
          simp only [Slots.write] at dirty
          split at dirty
          · rwa [AList.lookup_erase_ne apart] at dirty
          · rwa [AList.lookup_insert_ne apart] at dirty
        · rw [update_of_ne here] at found
          exact ⟨y, found, dirty⟩
      obtain ⟨z, present, still⟩ := old
      obtain ⟨pre, orig, member⟩ := booked.pending other z slot present still
      exact ⟨pre, orig, List.mem_append_left _ member⟩
  · rw [ctx, journal]
    exact booked.proper.append fits

/-! The replay. -/

/-- The undo of an entry on the slots. -/
def undoSlots (env : Env) (base : VmStore) (held : Address → Option Slots) :
    JournalEntry → Address → Option Slots
  | .createObjectChange account =>
    update held account ((loaded env base account).map (slotsOf base))
  | .storageChange account key preValue origValue =>
    update held account ((held account).map fun x => x.write key preValue origValue)
  | _ => held

section

variable {addr : Address} {undo : StateObject → StateObject} (addressed : Addressed s)
  (success : revertObject env s addr undo = .ok t) (address : ∀ obj, (undo obj).address = obj.address)

include addressed success address

/-- An object that is changed back outside of its storage. -/
theorem revertObject_slots : ∃ obj, slots env s addr = some (slotsOf s.ctx.store obj) ∧
      slots env t = update (slots env s) addr (some (slotsOf s.ctx.store (undo obj))) := by
  obtain ⟨obj, u, loading, rfl⟩ := revertObject_ok success
  obtain ⟨same, shown⟩ := getStateObject_slots loading
  refine ⟨obj, shown, ?_⟩
  rw [slots_setStateObject, same, address, getStateObject_address addressed loading,
    (loading_cached noSlot loading).store]

theorem revertObject_quiet (same : ∀ obj, slotsOf s.ctx.store (undo obj) = slotsOf s.ctx.store obj) :
    slots env t = slots env s := by
  obtain ⟨obj, held, changed⟩ := revertObject_slots addressed success address
  rw [changed, same, ← held, update_eq_self]

end

theorem revertEntry_slots (addressed : Addressed s) {entry : JournalEntry}
    (reset : ∀ prev, entry ≠ .resetObjectChange prev)
    (destructed : ∀ addr prev balance, entry ≠ .selfDestructChange addr prev balance)
    (success : revertEntry env s entry = .ok t) : slots env t = undoSlots env s.ctx.store (slots env s) entry := by
  cases entry with
  | createObjectChange account =>
    cases success
    exact slots_forget env s account
  | resetObjectChange prev => exact absurd rfl (reset prev)
  | selfDestructChange account prev balance => exact absurd rfl (destructed account prev balance)
  | balanceChange account prev => exact revertObject_quiet addressed success (fun _ => rfl) fun _ => rfl
  | nonceChange account prev => exact revertObject_quiet addressed success (fun _ => rfl) fun _ => rfl
  | storageChange account key preValue origValue =>
    have address : ∀ obj : StateObject, (withState obj key preValue origValue).address = obj.address :=
      fun obj => by rw [withState_rest]
    obtain ⟨obj, held, changed⟩ := revertObject_slots addressed success address
    rw [changed, slotsOf_withState]
    simp only [undoSlots, held, Option.map_some]
  | transientStorageChange account key prevalue => cases success; rfl
  | codeChange account prevcode prevhash =>
    exact revertObject_quiet addressed success (fun _ => rfl) fun _ => rfl
  | refundChange prev => cases success; rfl
  | addLogChange =>
    rw [revertLog_ok success]
    rfl
  | accessListAddAccountChange address => cases success; rfl
  | accessListAddSlotChange address slot =>
    obtain ⟨al, -, rfl⟩ := map_ok success
    rfl
  | precompileCallChange snapshot events =>
    obtain ⟨cache, rfl⟩ := revertMultiStore_ok success
    rfl
  | createContractChange account =>
    exact revertObject_quiet addressed success (fun _ => rfl) fun _ => rfl

/-- What an account holds after an undo it held before, up to the dirty slot. -/
theorem undoSlots_some {base : VmStore} {held : Address → Option Slots} {entry : JournalEntry}
    (created : ∀ account, entry = .createObjectChange account → loaded env base account = none)
    {addr : Address} {y : Slots} (found : undoSlots env base held entry addr = some y) :
    ∃ x, held addr = some x ∧ ((y = x ∧ ∀ key pre orig, entry ≠ .storageChange addr key pre orig) ∨
        ∃ key pre orig, entry = .storageChange addr key pre orig ∧ y = x.write key pre orig) := by
  cases entry with
  | createObjectChange account =>
    simp only [undoSlots, created account rfl, Option.map_none] at found
    by_cases here : addr = account
    · subst here
      rw [update_self] at found
      cases found
    · rw [update_of_ne here] at found
      exact ⟨y, found, Or.inl ⟨rfl, by simp⟩⟩
  | storageChange account key preValue origValue =>
    simp only [undoSlots] at found
    by_cases here : addr = account
    · subst here
      rw [update_self] at found
      obtain ⟨x, present, rfl⟩ := Option.map_eq_some_iff.mp found
      exact ⟨x, present, Or.inr ⟨key, preValue, origValue, rfl, rfl⟩⟩
    · rw [update_of_ne here] at found
      refine ⟨y, found, Or.inl ⟨rfl, fun slot pre orig same => here ?_⟩⟩
      exact (JournalEntry.storageChange.inj same).1.symm
  | _ => exact ⟨y, found, Or.inl ⟨rfl, by simp⟩⟩

section

variable {rest : List JournalEntry} {entry : JournalEntry} (booked : Booked env s) (addressed : Addressed s)
  (entries : s.journal.entries = rest ++ [entry]) (success : revertLast env s entry = .ok t)

include booked addressed entries success

theorem revertLast_slots {addr : Address} {y : Slots} (found : slots env t addr = some y) :
    ∃ x, slots env s addr = some x ∧ ((y = x ∧ ∀ key pre orig, entry ≠ .storageChange addr key pre orig) ∨
        ∃ key pre orig, entry = .storageChange addr key pre orig ∧ y = x.write key pre orig) := by
  have last : entry ∈ s.journal.entries := by simp [entries]
  obtain ⟨u, reverted, rfl⟩ := revertLast_ok success
  have changed := revertEntry_slots addressed (fun prev same => booked.proper.reset prev (same ▸ last))
    (fun account prev balance same => booked.proper.destructed account prev balance (same ▸ last))
    reverted
  refine undoSlots_some (fun account same => booked.proper.created account (same ▸ last)) ?_
  rw [← changed]
  exact found

/-- Undoing the last entry keeps the books. -/
theorem Booked.undo : Booked env t := by
  have before addr y := @revertLast_slots _ _ _ _ _ booked addressed entries success addr y
  obtain ⟨u, reverted, rfl⟩ := revertLast_ok success
  have dropped : (s.journal.undoLast entry).entries = rest := by
    simp only [Journal.undoLast, entries, List.dropLast_concat]
  refine ⟨?_, ?_, ?_⟩
  · intro addr y found
    obtain ⟨x, held, ⟨rfl, -⟩ | ⟨key, pre, orig, -, rfl⟩⟩ := before addr y found
    · exact booked.plain addr y held
    · exact booked.plain addr x held
  · intro addr y slot found dirty
    simp only [dropped]
    obtain ⟨x, held, ⟨rfl, other⟩ | ⟨key, pre, orig, rfl, rfl⟩⟩ := before addr y found
    · obtain ⟨pre, orig, member⟩ := booked.pending addr y slot held dirty
      rw [entries] at member
      rcases List.mem_append.mp member with old | new
      · exact ⟨pre, orig, old⟩
      · exact absurd (List.mem_singleton.mp new).symm (other slot pre orig)
    · by_cases here : slot = key
      · subst here
        refine booked.proper.founded rest addr slot pre orig [] entries fun reset => dirty ?_
        simp [Slots.write, reset, AList.lookup_erase]
      · have old : x.dirty.lookup slot ≠ none := by
          simp only [Slots.write] at dirty
          split at dirty
          · rwa [AList.lookup_erase_ne here] at dirty
          · rwa [AList.lookup_insert_ne here] at dirty
        obtain ⟨pre', orig', member⟩ := booked.pending addr x slot held old
        rw [entries] at member
        rcases List.mem_append.mp member with earlier | new
        · exact ⟨pre', orig', earlier⟩
        · exact absurd (JournalEntry.storageChange.inj (List.mem_singleton.mp new)).2.1 here
  · have same : u.ctx.store = s.ctx.store := by rw [(revertEntry_framed reverted).ctx]
    simp only [same]
    exact booked.proper.undo entries

end

/-- A replay keeps the books, and what is committed in every account it leaves. -/
theorem Booked.replay (booked : Booked env s) (addressed : Addressed s) {stretch : List JournalEntry}
    {rest : List JournalEntry} (entries : s.journal.entries = rest ++ stretch.reverse)
    (success : stretch.foldlM (revertLast env) s = .ok t) : Booked env t ∧ ∀ addr y, slots env t addr = some y →
      ∃ x, slots env s addr = some x ∧ y.committed = x.committed := by
  have kept := foldlM_revertLast_invariant (fun u => Addressed u ∧ Booked env u ∧
    ∀ addr y, slots env u addr = some y → ∃ x, slots env s addr = some x ∧ y.committed = x.committed)
    ?_ stretch entries ⟨addressed, booked, fun _ y held => ⟨y, held, rfl⟩⟩ success
  · exact kept.2
  · intro before after rest entry ⟨home, good, agree⟩ last reverted
    refine ⟨?_, good.undo home last reverted, ?_⟩
    · obtain ⟨u, undone, rfl⟩ := revertLast_ok reverted
      have still : Addressed u := revertEntry_addressed home undone
      exact still
    · intro addr z found
      obtain ⟨y, held, change⟩ := revertLast_slots good home last reverted found
      obtain ⟨x, start, same⟩ := agree addr y held
      refine ⟨x, start, ?_⟩
      rcases change with ⟨rfl, -⟩ | ⟨key, pre, orig, -, rfl⟩
      · exact same
      · exact same

end OgEvm.StateDb
