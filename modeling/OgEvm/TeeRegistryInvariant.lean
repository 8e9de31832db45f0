import OgEvm.TeeRegistryEffects

/- The enabled TEEs are kept three times: in a flag, in the list of their type and in
the index of that list. The three agree in every reachable state, and every enabled
TEE runs an approved image. -/
namespace OgEvm.TeeRegistry

open ExceptFacts IndexedLists Registry

section

variable {env : RegistryEnv} {msg : Msg} {call : Call} {s t u : Registry}

structure Consistent (s : Registry) : Prop where
  indexed : ∀ teeType, Indexed (s.listing teeType)
  listed : ∀ teeType teeId, teeId ∈ s.enabledTEEList teeType ↔
    (s.tees teeId).enabled = true ∧ (s.tees teeId).teeType = teeType
  registered : ∀ teeId, (s.tees teeId).enabled = true → (s.tees teeId).registeredAt ≠ 0

theorem Consistent.congr (consistent : Consistent s) (same : Same s t) : Consistent t where
  indexed teeType := by
    unfold listing
    rw [same.lists, same.index]
    exact consistent.indexed teeType
  listed teeType teeId := by
    rw [same.lists, same.tees]
    exact consistent.listed teeType teeId
  registered teeId := by
    rw [same.tees]
    exact consistent.registered teeId

/-- The records, with the enabled flag taken from some of them. -/
structure Narrowed (s t : Registry) : Prop where
  tees : ∀ teeId, ∃ flag, t.tees teeId = { s.tees teeId with enabled := flag } ∧
    (flag = true → (s.tees teeId).enabled = true)
  pcrs : t.pcrRecords = s.pcrRecords
  types : t.teeTypes = s.teeTypes

theorem Narrowed.refl (s : Registry) : Narrowed s s :=
  ⟨fun teeId => ⟨(s.tees teeId).enabled, rfl, fun on => on⟩, rfl, rfl⟩

theorem Narrowed.trans (first : Narrowed s t) (second : Narrowed t u) : Narrowed s u where
  tees teeId := by
    obtain ⟨flag, record, kept⟩ := first.tees teeId
    obtain ⟨after, last, keptAfter⟩ := second.tees teeId
    refine ⟨after, ?_, ?_⟩
    · rw [last, record]
    · intro on
      have middle := keptAfter on
      rw [record] at middle
      exact kept middle
  pcrs := second.pcrs.trans first.pcrs
  types := second.types.trans first.types

theorem setEnabled_false_narrowed (s : Registry) (teeId : Hash) : Narrowed s (s.setEnabled teeId false) where
  tees other := by
    by_cases same : other = teeId
    · subst same
      exact ⟨false, Function.update_self _ _ _, fun wrong => by cases wrong⟩
    · refine ⟨(s.tees other).enabled, ?_, fun on => on⟩
      exact Function.update_of_ne same _ _
  pcrs := rfl
  types := rfl

theorem removeFromEnabledList_narrowed {teeId : Hash} {teeType : UInt8}
    (removed : s.removeFromEnabledList teeId teeType = .ok t) : Narrowed s t := by
  obtain ⟨l, -, rfl⟩ := map_ok removed
  exact ⟨(Narrowed.refl s).tees, rfl, rfl⟩

theorem listing_setListing (s : Registry) (teeType other : UInt8) (l : Listing Hash) :
    (s.setListing teeType l).listing other = if other = teeType then l else s.listing other := by
  unfold listing setListing
  by_cases same : other = teeType
  · subst same
    simp only [Function.update_self, if_true]
  · simp only [Function.update_of_ne same, if_neg same]

/-- The record at `slot` of a list is disabled and taken out of the list. -/
theorem Consistent.drop (consistent : Consistent s) {teeType : UInt8} {slot : ℕ} {teeId : Hash}
    (found : (s.enabledTEEList teeType)[slot]? = some teeId) :
    ∃ u, (s.setEnabled teeId false).removeFromEnabledList teeId teeType = .ok u ∧ Consistent u ∧
      (u.enabledTEEList teeType).length + 1 = (s.enabledTEEList teeType).length ∧
      ∀ (position : ℕ) other, slot ≤ position → (u.enabledTEEList teeType)[position]? = some other →
        ∃ later : ℕ, slot < later ∧ (s.enabledTEEList teeType)[later]? = some other := by
  have listed : (s.listing teeType).items[slot]? = some teeId := found
  obtain ⟨rest, removed, indexed, members, shorter, behind⟩ :=
    (consistent.indexed teeType).remove listed
  have held := (consistent.listed teeType teeId).mp (List.mem_of_getElem? found)
  have ran : (s.setEnabled teeId false).removeFromEnabledList teeId teeType =
      .ok ((s.setEnabled teeId false).setListing teeType rest) := by
    change ((remove (s.listing teeType) teeId).mapError _).map _ = _
    rw [removed]
    rfl
  have lists : ∀ other, ((s.setEnabled teeId false).setListing teeType rest).listing other =
      if other = teeType then rest else s.listing other :=
    fun other => listing_setListing (s.setEnabled teeId false) teeType other rest
  have here : ((s.setEnabled teeId false).setListing teeType rest).enabledTEEList teeType = rest.items := by
    change (((s.setEnabled teeId false).setListing teeType rest).listing teeType).items = _
    rw [lists, if_pos rfl]
  have records : ∀ other, ((s.setEnabled teeId false).setListing teeType rest).tees other =
      if other = teeId then { s.tees teeId with enabled := false } else s.tees other :=
    fun other => Function.update_apply _ _ _ _
  refine ⟨_, ran, ⟨?_, ?_, ?_⟩, ?_, ?_⟩
  · intro other
    rw [lists]
    split
    · exact indexed
    · exact consistent.indexed other
  · intro other id
    change id ∈ (((s.setEnabled teeId false).setListing teeType rest).listing other).items ↔ _
    rw [lists, records]
    by_cases same : other = teeType
    · subst same
      rw [if_pos rfl, members]
      by_cases gone : id = teeId
      · simp [gone]
      · rw [if_neg gone]
        exact ⟨fun member => (consistent.listed other id).mp member.1,
          fun on => ⟨(consistent.listed other id).mpr on, gone⟩⟩
    · rw [if_neg same]
      by_cases gone : id = teeId
      · subst gone
        rw [if_pos rfl]
        constructor
        · intro member
          exact absurd (((consistent.listed other id).mp member).2.symm.trans held.2) same
        · rintro ⟨wrong, -⟩
          cases wrong
      · rw [if_neg gone]
        exact consistent.listed other id
  · intro id
    rw [records]
    split
    · intro wrong
      cases wrong
    · exact consistent.registered id
  · rw [here]
    exact shorter
  · rw [here]
    exact behind

/-- A record that is not enabled is enabled and put at the end of the list of its type. -/
theorem Consistent.add (consistent : Consistent s) {teeId : Hash} {tee : TEEInfo}
    (off : (s.tees teeId).enabled = false) (on : tee.enabled = true) (known : tee.registeredAt ≠ 0) :
    Consistent ((s.setTEE teeId tee).addToEnabledList teeId tee.teeType) := by
  have absent : ∀ teeType, teeId ∉ s.enabledTEEList teeType := by
    intro teeType member
    rw [((consistent.listed teeType teeId).mp member).1] at off
    cases off
  have lists : ∀ other, ((s.setTEE teeId tee).addToEnabledList teeId tee.teeType).listing other =
      if other = tee.teeType then push (s.listing tee.teeType) teeId else s.listing other :=
    fun other => listing_setListing (s.setTEE teeId tee) tee.teeType other _
  have records : ∀ other, ((s.setTEE teeId tee).addToEnabledList teeId tee.teeType).tees other =
      if other = teeId then tee else s.tees other :=
    fun other => Function.update_apply _ _ _ _
  refine ⟨?_, ?_, ?_⟩
  · intro other
    rw [lists]
    split
    · exact (consistent.indexed tee.teeType).push (absent tee.teeType)
    · exact consistent.indexed other
  · intro other id
    change id ∈ (((s.setTEE teeId tee).addToEnabledList teeId tee.teeType).listing other).items ↔ _
    rw [lists, records]
    by_cases new : id = teeId
    · subst new
      rw [if_pos rfl]
      by_cases same : other = tee.teeType
      · rw [if_pos same, mem_push]
        exact ⟨fun _ => ⟨on, same.symm⟩, fun _ => Or.inr rfl⟩
      · rw [if_neg same]
        exact ⟨fun member => absurd member (absent other), fun held => absurd held.2.symm same⟩
    · rw [if_neg new]
      by_cases same : other = tee.teeType
      · rw [if_pos same, mem_push, same]
        change (id ∈ s.enabledTEEList tee.teeType ∨ id = teeId) ↔ _
        rw [consistent.listed]
        exact ⟨fun held => held.resolve_right new, Or.inl⟩
      · rw [if_neg same]
        exact consistent.listed other id
  · intro id
    rw [records]
    split
    · exact fun _ => known
    · exact consistent.registered id

/-- What the loop leaves of the records, however it goes. -/
theorem revokeLoop_narrowed {pcrHash : Hash} {teeType : UInt8} (count : ℕ) :
    ∀ {s : Registry}, revokeLoop pcrHash teeType count s = .ok u → Narrowed s u := by
  induction count with
  | zero =>
    intro s success
    cases success
    exact Narrowed.refl _
  | succ count ih =>
    intro s success
    unfold revokeLoop at success
    split at success
    · cases success
    · rename_i teeId found
      split at success
      · obtain ⟨v, removed, success⟩ := bind_ok success
        have rest := ih success
        have dropped := (setEnabled_false_narrowed s teeId).trans (removeFromEnabledList_narrowed removed)
        exact dropped.trans ⟨rest.tees, rest.pcrs, rest.types⟩
      · exact ih success

/-- The loop reaches its end, and no enabled TEE of the type runs the image then. The
invariant is that nothing from the counter on runs it: a swap moves an item from
behind the counter only. -/
theorem Consistent.revokeLoop {pcrHash : Hash} {teeType : UInt8} (count : ℕ) :
    ∀ {s : Registry}, Consistent s → count ≤ (s.enabledTEEList teeType).length →
      (∀ (position : ℕ) teeId, count ≤ position → (s.enabledTEEList teeType)[position]? = some teeId →
        (s.tees teeId).pcrHash ≠ pcrHash) → ∃ u, revokeLoop pcrHash teeType count s = .ok u ∧ Consistent u ∧
        ∀ teeId ∈ u.enabledTEEList teeType, (u.tees teeId).pcrHash ≠ pcrHash := by
  induction count with
  | zero =>
    intro s consistent _ seen
    refine ⟨s, rfl, consistent, ?_⟩
    intro teeId member
    obtain ⟨position, found⟩ := List.mem_iff_getElem?.mp member
    exact seen position teeId (Nat.zero_le position) found
  | succ count ih =>
    intro s consistent inside seen
    obtain ⟨teeId, found⟩ : ∃ teeId, (s.enabledTEEList teeType)[count]? = some teeId :=
      ⟨_, List.getElem?_eq_getElem (by omega)⟩
    unfold Registry.revokeLoop
    rw [found]
    dsimp only
    by_cases runs : (s.tees teeId).pcrHash = pcrHash
    · rw [if_pos runs]
      obtain ⟨v, removed, kept, shorter, behind⟩ := consistent.drop found
      have records := ((setEnabled_false_narrowed s teeId).trans (removeFromEnabledList_narrowed removed)).tees
      rw [bind_of_ok removed]
      have emitted : Consistent (v.emit (.teeDisabled teeId)) := kept.congr ⟨rfl, rfl, rfl, rfl, rfl⟩
      apply ih emitted
      · change count ≤ (v.enabledTEEList teeType).length
        omega
      · intro position other from_ held
        obtain ⟨later, after, old⟩ := behind position other from_ held
        obtain ⟨flag, record, -⟩ := records other
        change (v.tees other).pcrHash ≠ pcrHash
        rw [record]
        exact seen later other (by omega) old
    · rw [if_neg runs]
      apply ih consistent (by omega)
      intro position other from_ held
      by_cases same : position = count
      · subst same
        cases found.symm.trans held
        exact runs
      · exact seen position other (by omega) held

theorem Consistent.revokeAll (consistent : Consistent s) (pcrHash : Hash) (teeType : UInt8) :
    ∃ u, Registry.revokeLoop pcrHash teeType (s.enabledTEEList teeType).length s = .ok u ∧ Consistent u ∧
      ∀ teeId ∈ u.enabledTEEList teeType, (u.tees teeId).pcrHash ≠ pcrHash := by
  apply Consistent.revokeLoop _ consistent (le_refl _)
  intro position teeId outside found
  rw [List.getElem?_eq_none outside] at found
  cases found

/-! The invariant of a reachable state. -/

structure Sound (s : Registry) (now : ℕ) : Prop where
  consistent : Consistent s
  approved : ∀ teeId, (s.tees teeId).enabled = true →
    s.isPCRApproved (s.tees teeId).teeType (s.tees teeId).pcrHash = true
  typed : ∀ teeType, (s.teeTypes teeType).addedAt ≤ now

theorem Sound.congr {now : ℕ} (sound : Sound s now) (same : Same s t) : Sound t now where
  consistent := sound.consistent.congr same
  approved teeId := by
    unfold isPCRApproved
    rw [same.tees, same.pcrs]
    exact sound.approved teeId
  typed teeType := by
    rw [same.types]
    exact sound.typed teeType

theorem Sound.later {now then_ : ℕ} (sound : Sound s now) (later : now ≤ then_) : Sound s then_ :=
  ⟨sound.consistent, sound.approved, fun teeType => (sound.typed teeType).trans later⟩

/-- Disabling more TEEs keeps the approvals of the others. -/
theorem Narrowed.approved (narrowed : Narrowed s t) (approved : ∀ teeId, (s.tees teeId).enabled = true →
      s.isPCRApproved (s.tees teeId).teeType (s.tees teeId).pcrHash = true)
    (teeId : Hash) (on : (t.tees teeId).enabled = true) :
    t.isPCRApproved (t.tees teeId).teeType (t.tees teeId).pcrHash = true := by
  obtain ⟨flag, record, kept⟩ := narrowed.tees teeId
  rw [record] at on ⊢
  unfold isPCRApproved
  rw [narrowed.pcrs]
  exact approved teeId (kept on)

theorem deploy_sound (env : RegistryEnv) (deployer : Address) (now : ℕ) : Sound (deploy env deployer) now := by
  have same := fun (s : Registry) (role : Hash) => grant_same s role deployer deployer
  refine Sound.congr (Sound.congr ⟨⟨?_, ?_, ?_⟩, ?_, ?_⟩ (same _ _)) (same _ _)
  · intro teeType slot teeId found
    cases found
  · intro teeType teeId
    simp [emptyTEE]
  · intro teeId on
    cases on
  · intro teeId on
    cases on
  · intro teeType
    exact Nat.zero_le now

theorem setPCR_approved (s : Registry) (teeType other : UInt8) (pcrHash hash : Hash) (pcr : ApprovedPCR) :
    (s.setPCR teeType pcrHash pcr).isPCRApproved other hash =
      if other = teeType ∧ hash = pcrHash then pcr.approved else s.isPCRApproved other hash := by
  unfold isPCRApproved setPCR
  dsimp only
  by_cases same : other = teeType
  · subst same
    rw [Function.update_self, Function.update_apply]
    by_cases hit : hash = pcrHash
    · rw [if_pos hit, if_pos ⟨rfl, hit⟩]
    · rw [if_neg hit, if_neg fun both => hit both.2]
  · rw [Function.update_of_ne same, if_neg fun both => same both.1]

theorem setPCR_consistent (consistent : Consistent s) (teeType : UInt8) (pcrHash : Hash)
    (pcr : ApprovedPCR) : Consistent (s.setPCR teeType pcrHash pcr) :=
  ⟨consistent.indexed, consistent.listed, consistent.registered⟩

section

variable {now : ℕ} {teeId : Hash} (sound : Sound s now)

include sound

theorem Sound.revoked {teeType : UInt8} {pcrHash : Hash} {pcr : ApprovedPCR}
    (looped : revokeLoop pcrHash teeType (s.enabledTEEList teeType).length (s.setPCR teeType pcrHash pcr) =
      .ok u) : Sound u now := by
  have start := setPCR_consistent sound.consistent teeType pcrHash pcr
  obtain ⟨v, ran, consistent, gone⟩ := start.revokeAll pcrHash teeType
  cases looped.symm.trans ran
  have narrowed := revokeLoop_narrowed _ looped
  refine ⟨consistent, ?_, ?_⟩
  · intro teeId on
    obtain ⟨flag, record, kept⟩ := narrowed.tees teeId
    have listed := (consistent.listed (u.tees teeId).teeType teeId).mpr ⟨on, rfl⟩
    -- the record is among the enabled ones of its type, so the loop has passed it
    have apart : ¬ ((u.tees teeId).teeType = teeType ∧ (u.tees teeId).pcrHash = pcrHash) := by
      rintro ⟨type, hash⟩
      rw [type] at listed
      exact gone teeId listed hash
    have before : (s.tees teeId).enabled = true := by
      rw [record] at on
      exact kept on
    have same : u.isPCRApproved (u.tees teeId).teeType (u.tees teeId).pcrHash =
        (s.setPCR teeType pcrHash pcr).isPCRApproved (u.tees teeId).teeType (u.tees teeId).pcrHash := by
      unfold isPCRApproved
      rw [narrowed.pcrs]
    rw [same, setPCR_approved, if_neg apart, record]
    exact sound.approved teeId before
  · intro other
    rw [narrowed.types]
    exact sound.typed other

theorem Sound.disabled (on : (s.tees teeId).enabled = true) :
    ∃ u, (s.setEnabled teeId false).removeFromEnabledList teeId (s.tees teeId).teeType = .ok u ∧ Sound u now := by
  have listed := (sound.consistent.listed (s.tees teeId).teeType teeId).mpr ⟨on, rfl⟩
  obtain ⟨slot, found⟩ := List.mem_iff_getElem?.mp listed
  obtain ⟨u, removed, consistent, -⟩ := sound.consistent.drop found
  have narrowed := (setEnabled_false_narrowed s teeId).trans (removeFromEnabledList_narrowed removed)
  refine ⟨u, removed, consistent, narrowed.approved sound.approved, ?_⟩
  intro teeType
  rw [narrowed.types]
  exact sound.typed teeType

/-- A TEE that runs an approved image joins the enabled ones. -/
theorem Sound.added (tee : TEEInfo) (off : (s.tees teeId).enabled = false) (on : tee.enabled = true)
    (known : tee.registeredAt ≠ 0) (approved : s.isPCRApproved tee.teeType tee.pcrHash = true) :
    Sound ((s.setTEE teeId tee).addToEnabledList teeId tee.teeType) now := by
  refine ⟨sound.consistent.add off on known, ?_, sound.typed⟩
  intro other
  have record : ((s.setTEE teeId tee).addToEnabledList teeId tee.teeType).tees other =
      if other = teeId then tee else s.tees other := Function.update_apply _ _ _ _
  rw [record]
  split
  · exact fun _ => approved
  · exact sound.approved other

/-- A record that changes neither its flag nor what it runs. -/
theorem Sound.retouched {tee : TEEInfo} (enabled : tee.enabled = (s.tees teeId).enabled)
    (teeType : tee.teeType = (s.tees teeId).teeType) (pcrHash : tee.pcrHash = (s.tees teeId).pcrHash)
    (registeredAt : tee.registeredAt = (s.tees teeId).registeredAt) : Sound (s.setTEE teeId tee) now := by
  have record : ∀ other, (s.setTEE teeId tee).tees other = if other = teeId then tee else s.tees other :=
    fun other => Function.update_apply _ _ _ _
  have same : ∀ other, ((s.setTEE teeId tee).tees other).enabled = (s.tees other).enabled ∧
      ((s.setTEE teeId tee).tees other).teeType = (s.tees other).teeType ∧
      ((s.setTEE teeId tee).tees other).pcrHash = (s.tees other).pcrHash ∧
      ((s.setTEE teeId tee).tees other).registeredAt = (s.tees other).registeredAt := by
    intro other
    rw [record]
    split
    · rename_i here
      subst here
      exact ⟨enabled, teeType, pcrHash, registeredAt⟩
    · exact ⟨rfl, rfl, rfl, rfl⟩
  refine ⟨⟨sound.consistent.indexed, ?_, ?_⟩, ?_, sound.typed⟩
  · intro type other
    obtain ⟨flag, kind, -, -⟩ := same other
    rw [flag, kind]
    exact sound.consistent.listed type other
  · intro other
    obtain ⟨flag, -, -, time⟩ := same other
    rw [flag, time]
    exact sound.consistent.registered other
  · intro other
    obtain ⟨flag, kind, hash, -⟩ := same other
    rw [flag, kind, hash]
    exact sound.approved other

/-- Step: every effect of a call keeps the invariant. -/
theorem Sound.effect (later : now ≤ msg.timestamp) (effect : Effect env msg call s t) : Sound t msg.timestamp := by
  cases effect with
  | idle same => exact (sound.later later).congr same
  | typeAdded typeId name same =>
    refine Sound.congr ?_ same
    refine ⟨?_, sound.approved, ?_⟩
    · exact ⟨sound.consistent.indexed, sound.consistent.listed, sound.consistent.registered⟩
    · intro teeType
      change (Function.update s.teeTypes typeId ⟨name, msg.timestamp⟩ teeType).addedAt ≤ _
      by_cases here : teeType = typeId
      · subst here
        rw [Function.update_self]
      · rw [Function.update_of_ne here]
        exact (sound.typed teeType).trans later
  | pcrApproved teeType pcrHash pcr on same =>
    refine Sound.congr ⟨setPCR_consistent sound.consistent _ _ _, ?_, (sound.later later).typed⟩ same
    intro teeId enabled
    rw [setPCR_approved]
    split
    · exact on
    · exact sound.approved teeId enabled
  | pcrRevoked teeType pcrHash pcr u looped same =>
    exact ((sound.revoked looped).later later).congr same
  | registered r pcrHash ohttpConfig valid fresh approved stored =>
    subst stored
    -- a valid type was added at some time before, so this block's time is not zero
    have typed := sound.typed r.teeType
    have valid : (s.teeTypes r.teeType).addedAt ≠ 0 := by simpa [isValidTEEType] using valid
    have off : (s.tees (env.keccak256 r.signingPublicKey)).enabled = false := by
      by_contra on
      exact sound.consistent.registered _ (by simpa using on) fresh
    let tee : TEEInfo := ⟨msg.sender, r.paymentAddress, r.endpoint, r.signingPublicKey,
      r.tlsCertificate, pcrHash, r.teeType, true, msg.timestamp, msg.timestamp, ohttpConfig⟩
    have known : tee.registeredAt ≠ 0 := by
      change msg.timestamp ≠ 0
      omega
    have added := (sound.later later).added tee off rfl known approved
    exact added.congr ⟨rfl, rfl, rfl, rfl, rfl⟩
  | disabled teeId u on removed same =>
    obtain ⟨v, ran, kept⟩ := sound.disabled on
    cases removed.symm.trans ran
    exact (kept.later later).congr same
  | enabled teeId known off approved same =>
    have added := (sound.later later).added { s.tees teeId with enabled := true } off rfl known
      approved
    exact added.congr same
  | beat teeId timestamp signature asked past young verified same =>
    refine Sound.congr ?_ same
    exact (sound.later later).retouched rfl rfl rfl rfl

end

/-- Run: the invariant of every reachable state. -/
theorem Reachable.sound {now : ℕ} (reachable : Reachable env s now) : Sound s now := by
  induction reachable with
  | deployed deployer now => exact deploy_sound env deployer now
  | call before msg call later ih =>
    unfold transact
    split
    · rename_i success
      exact ih.effect later (exec_effect success)
    · exact ih.later later

/-! No array access goes wrong. -/

/-- The call does not end in a panic. -/
def NoPanic {α : Type} (run : Except RegistryError α) : Prop :=
  Avoids (fun reason => ∃ fault, reason = .panic fault) run

theorem NoPanic.revert {α : Type} {reason : RegistryError} (named : ∀ fault, reason ≠ .panic fault) :
    NoPanic (.error reason : Except RegistryError α) :=
  Avoids.error fun ⟨fault, panicked⟩ => named fault panicked

theorem NoPanic.require {α : Type} {condition : Prop} [Decidable condition] {reason : RegistryError}
    {run : Except RegistryError α} (named : ∀ fault, reason ≠ .panic fault) (next : ¬ condition → NoPanic run) :
    NoPanic (if condition then .error reason else run) :=
  Avoids.ite (fun _ => NoPanic.revert named) next

theorem onlyRole_noPanic (s : Registry) (msg : Msg) (role : Hash) : NoPanic (s.onlyRole msg role) :=
  Avoids.ite (fun _ => Avoids.ok ()) fun _ => NoPanic.revert (by simp)

theorem requirePCR_noPanic (s : Registry) (pcrHash : Hash) (teeType : UInt8) :
    NoPanic (s.requirePCRValidForTEE pcrHash teeType) :=
  Avoids.ite (fun _ => Avoids.ok ()) fun _ => NoPanic.revert (by simp)

theorem onlyTEEOwnerOrAdmin_noPanic (env : RegistryEnv) (msg : Msg) (teeId : Hash) (s : Registry) :
    NoPanic (s.onlyTEEOwnerOrAdmin env msg teeId) :=
  NoPanic.require (by simp) fun _ =>
    NoPanic.require (by simp) fun _ => Avoids.ok ()

theorem buildOHTTPConfig_noPanic (env : RegistryEnv) (msg : Msg) (teeId : Hash) (key : Bytes)
    (ohttp : OHTTPConfigInput) : NoPanic (buildOHTTPConfig env msg teeId key ohttp) := by
  unfold buildOHTTPConfig
  refine NoPanic.require (by simp) fun _ => ?_
  refine NoPanic.require (by simp) fun _ => ?_
  refine NoPanic.require (by simp) fun _ => ?_
  split
  · exact NoPanic.revert (by simp)
  · exact NoPanic.revert (by simp)
  · exact Avoids.ok _

theorem Sound.revokePCR_noPanic {now : ℕ} (sound : Sound s now) (msg : Msg) (pcrHash : Hash)
    (teeType : UInt8) : NoPanic (s.revokePCR msg pcrHash teeType) := by
  refine Avoids.bind (onlyRole_noPanic s msg _) fun _ _ => ?_
  refine NoPanic.require (by simp) fun _ => ?_
  have start := setPCR_consistent sound.consistent teeType pcrHash
    { s.pcrRecords teeType pcrHash with approved := false }
  obtain ⟨u, looped, -⟩ := start.revokeAll pcrHash teeType
  dsimp only
  rw [bind_of_ok looped]
  exact Avoids.ok _

theorem Sound.disableTEE_noPanic {now : ℕ} (sound : Sound s now) (env : RegistryEnv) (msg : Msg)
    (teeId : Hash) : NoPanic (s.disableTEE env msg teeId) := by
  refine Avoids.bind (onlyTEEOwnerOrAdmin_noPanic env msg teeId s) fun _ _ => ?_
  refine NoPanic.require (by simp) fun on => ?_
  have on : (s.tees teeId).enabled = true := by simpa using on
  obtain ⟨u, removed, -⟩ := sound.disabled on
  rw [bind_of_ok removed]
  exact Avoids.ok _

theorem register_noPanic (env : RegistryEnv) (msg : Msg) (r : Registration) (s : Registry) :
    NoPanic (s.registerTEEWithAttestation env msg r) := by
  refine Avoids.bind (onlyRole_noPanic s msg _) fun _ _ => ?_
  refine NoPanic.require (by simp) fun _ => ?_
  refine NoPanic.require (by simp) fun _ => ?_
  split
  · exact NoPanic.revert (by simp)
  · exact NoPanic.revert (by simp)
  · refine Avoids.bind (requirePCR_noPanic s _ _) fun _ _ => ?_
    exact Avoids.bind (buildOHTTPConfig_noPanic env msg _ _ _) fun _ _ => Avoids.ok _

theorem heartbeat_noPanic (env : RegistryEnv) (msg : Msg) (teeId : Hash) (timestamp : ℕ)
    (signature : Bytes) (s : Registry) : NoPanic (s.heartbeat env msg teeId timestamp signature) := by
  unfold Registry.heartbeat
  refine NoPanic.require (by simp) fun _ => ?_
  refine NoPanic.require (by simp) fun _ => ?_
  refine NoPanic.require (by simp) fun _ => ?_
  refine NoPanic.require (by simp) fun _ => ?_
  split
  · exact NoPanic.revert (by simp)
  · exact NoPanic.revert (by simp)
  · exact Avoids.ok _

theorem Sound.exec_noPanic {now : ℕ} (sound : Sound s now) (env : RegistryEnv) (msg : Msg) (call : Call) :
    NoPanic (exec env msg s call) := by
  cases call with
  | grantRole role account => exact Avoids.bind (onlyRole_noPanic s msg _) fun _ _ => Avoids.ok _
  | revokeRole role account => exact Avoids.bind (onlyRole_noPanic s msg _) fun _ _ => Avoids.ok _
  | renounceRole role callerConfirmation =>
    exact NoPanic.require (by simp) fun _ => Avoids.ok _
  | setAWSRootCertificate certificate =>
    exact Avoids.bind (onlyRole_noPanic s msg _) fun _ _ => Avoids.ok _
  | addTEEType typeId name =>
    refine Avoids.bind (onlyRole_noPanic s msg _) fun _ _ => ?_
    exact NoPanic.require (by simp) fun _ => Avoids.ok _
  | approvePCR pcrs version teeType =>
    refine Avoids.bind (onlyRole_noPanic s msg _) fun _ _ => ?_
    exact NoPanic.require (by simp) fun _ => Avoids.ok _
  | revokePCR pcrHash teeType => exact sound.revokePCR_noPanic msg pcrHash teeType
  | registerTEEWithAttestation r => exact register_noPanic env msg r s
  | disableTEE teeId => exact sound.disableTEE_noPanic env msg teeId
  | enableTEE teeId =>
    refine Avoids.bind (onlyTEEOwnerOrAdmin_noPanic env msg teeId s) fun _ _ => ?_
    refine Avoids.ite (fun _ => Avoids.ok _) fun _ => ?_
    exact Avoids.bind (requirePCR_noPanic s _ _) fun _ _ => Avoids.ok _
  | heartbeat teeId timestamp signature => exact heartbeat_noPanic env msg teeId timestamp signature s
  | setHeartbeatMaxAge maxAge => exact Avoids.bind (onlyRole_noPanic s msg _) fun _ _ => Avoids.ok _

/-- In every reachable state the enabled list of each type has no duplicates, holds
exactly the enabled TEEs of the type, each where the index says; no further call goes
outside an array; and every enabled TEE runs an approved image. -/
theorem enabledTEEs_consistent {now : ℕ} (reachable : Reachable env s now) :
    (∀ teeType, (s.enabledTEEList teeType).Nodup ∧
      (∀ teeId, teeId ∈ s.enabledTEEList teeType ↔
        (s.tees teeId).enabled = true ∧ (s.tees teeId).teeType = teeType) ∧
      ∀ (i : ℕ) teeId, (s.enabledTEEList teeType)[i]? = some teeId →
        s.enabledTEEIndex teeType teeId = i) ∧
    (∀ msg call fault, exec env msg s call ≠ .error (.panic fault)) ∧
    ∀ teeId, (s.tees teeId).enabled = true →
      s.isPCRApproved (s.tees teeId).teeType (s.tees teeId).pcrHash = true := by
  have sound := reachable.sound
  refine ⟨?_, ?_, sound.approved⟩
  · intro teeType
    have indexed := sound.consistent.indexed teeType
    exact ⟨indexed.nodup, sound.consistent.listed teeType, indexed⟩
  · intro msg call fault panicked
    exact sound.exec_noPanic env msg call _ panicked ⟨fault, rfl⟩

end

/-- A toy hash, and attestations that find image 4 behind key 6 and image 5 behind the others. -/
def imageEnv : RegistryEnv where
  keccak256 := bytesToHash
  verifyAttestation _ _ key _ _ := some (true, bytesToHash (if key = [6] then [4] else [5]))
  verifyRSAPSS _ _ _ := some true

def admin : Address := bytesToAddress [1]

def registration (key : UInt8) : Registration where
  attestationDocument := []
  signingPublicKey := [key]
  tlsCertificate := []
  paymentAddress := admin
  endpoint := ""
  teeType := 1
  ohttp := ⟨0, 32, 0, 0, List.replicate 32 0, [0], []⟩

/-- Three TEEs are registered and the image of the first and the last is revoked. -/
def revokingCalls : List Call :=
  [.addTEEType 1 "llm", .approvePCR ⟨[4], [], []⟩ "v1" 1, .approvePCR ⟨[5], [], []⟩ "v2" 1,
    .registerTEEWithAttestation (registration 5), .registerTEEWithAttestation (registration 6),
    .registerTEEWithAttestation (registration 7), .revokePCR (bytesToHash [5]) 1]

def runCalls (env : RegistryEnv) (msg : Msg) (calls : List Call) (s : Registry) : Registry :=
  calls.foldl (fun s call => transact env msg call s) s

theorem runCalls_reachable {env : RegistryEnv} {msg : Msg} {s : Registry} (calls : List Call)
    (before : Reachable env s msg.timestamp) : Reachable env (runCalls env msg calls s) msg.timestamp := by
  induction calls generalizing s with
  | nil => exact before
  | cons call rest ih => exact ih (.call before msg call (le_refl _))

theorem enabledTEEs_consistent_revokingCalls :
    (runCalls imageEnv ⟨9, admin⟩ revokingCalls (deploy imageEnv admin)).enabledTEEList 1 =
        [bytesToHash [6]] ∧
      (runCalls imageEnv ⟨9, admin⟩ revokingCalls (deploy imageEnv admin)).enabledTEEIndex 1
        (bytesToHash [6]) = 0 := by
  have list : (runCalls imageEnv ⟨9, admin⟩ revokingCalls (deploy imageEnv admin)).enabledTEEList 1 =
      [bytesToHash [6]] := by
    decide +kernel
  have reached : Reachable imageEnv (runCalls imageEnv ⟨9, admin⟩ revokingCalls (deploy imageEnv admin)) 9 :=
    runCalls_reachable revokingCalls (.deployed admin 9)
  refine ⟨list, ((enabledTEEs_consistent reached).1 1).2.2 0 _ ?_⟩
  rw [list]
  rfl

end OgEvm.TeeRegistry
