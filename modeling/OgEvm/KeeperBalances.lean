import OgEvm.NativeSends
import OgEvm.StateDbPersist

/- Writing balances out: `SetBalance` mints or burns the difference, so that a flush or
a commit leaves every written account with the balance of its object and no other
account changed. -/
namespace OgEvm

open ExceptFacts Precisebank

section

variable {env : Env} {s t : BankState}

theorem mintAmountToAccount_pays (healthy : Healthy env.bank s)
    (evmApart : moduleAddr env.bank evmModule ≠ env.bank.reserve) {recipient : AccAddress} {amt : ℤ}
    (apart : recipient ≠ env.bank.reserve) (positive : 0 < amt)
    (success : BankWrapper.mintAmountToAccount env s recipient amt = .ok t) :
    Pays env.bank s t (booked recipient amt) := by
  unfold BankWrapper.mintAmountToAccount at success
  obtain ⟨minted, mint, success⟩ := bind_ok success
  have issued := mintExtended_pays healthy positive evmApart (mapError_ok mint)
  have sent := sendExtended_pays issued.healthy positive evmApart apart
    (sendCoinsFromModuleToAccount_ok success).2
  refine (issued.trans sent).congr (funext fun account => ?_)
  ring

theorem burnAmountFromAccount_pays (healthy : Healthy env.bank s)
    (evmApart : moduleAddr env.bank evmModule ≠ env.bank.reserve) {account : AccAddress} {amt : ℤ}
    (apart : account ≠ env.bank.reserve) (positive : 0 < amt)
    (held : amt ≤ Precisebank.getBalance env.bank s account env.bank.extendedDenom)
    (success : BankWrapper.burnAmountFromAccount env s account amt = .ok t) :
    Pays env.bank s t (booked account (-amt)) := by
  unfold BankWrapper.burnAmountFromAccount at success
  obtain ⟨collected, collect, success⟩ := bind_ok success
  have sent := sendExtended_pays healthy positive apart evmApart
    (sendCoinsFromAccountToModule_ok (mapError_ok collect))
  have covered : amt ≤ Precisebank.getBalance env.bank collected (moduleAddr env.bank evmModule)
      env.bank.extendedDenom := by
    rw [sent.balance, booked_self]
    have funds := healthy.funds (moduleAddr env.bank evmModule)
    by_cases same : moduleAddr env.bank evmModule = account
    · rw [same, booked_self]
      omega
    · rw [booked_ne _ same]
      omega
  have burned := burnExtended_pays sent.healthy positive evmApart covered success
  refine (sent.trans burned).congr (funext fun read => ?_)
  unfold booked
  split <;> split <;> ring

end

namespace Keeper

variable {env : Env} {ctx after : Context} {addr : Address}

/-- `SetBalance` leaves the account with the amount. -/
theorem setBalance_pays (healthy : Healthy env.bank ctx.bank)
    (evmApart : moduleAddr env.bank evmModule ≠ env.bank.reserve)
    (apart : addr.toList ≠ env.bank.reserve) {amount : BitVec 256}
    (success : setBalance env ctx addr amount = .ok after) : Pays env.bank ctx.bank after.bank (booked addr.toList
      (amount.toNat - Precisebank.getBalance env.bank ctx.bank addr.toList env.bank.extendedDenom)) := by
  unfold setBalance BankWrapper.spendableCoin at success
  rw [healthy.spendable] at success
  simp only at success
  split at success
  · rename_i positive
    obtain ⟨bank, minted, rfl⟩ := map_ok success
    exact mintAmountToAccount_pays healthy evmApart apart positive minted
  · split at success
    · rename_i negative
      obtain ⟨bank, burned, rfl⟩ := map_ok success
      have positive : 0 < -((amount.toNat : ℤ) -
          Precisebank.getBalance env.bank ctx.bank addr.toList env.bank.extendedDenom) := by omega
      have pays := burnAmountFromAccount_pays healthy evmApart apart positive (by omega) burned
      rw [neg_neg] at pays
      exact pays
    · cases success
      refine healthy.pays.congr ?_
      rw [show (amount.toNat : ℤ) - Precisebank.getBalance env.bank ctx.bank addr.toList
        env.bank.extendedDenom = 0 by omega, booked_zero]

/-- Writing an account is writing its balance, as far as the bank is concerned. -/
theorem setAccount_setBalance (env : Env) (ctx : Context) (addr : Address) (account : Account) :
    ∃ before : Context, before.bank = ctx.bank ∧
      setAccount env ctx addr account = setBalance env before addr account.balance := by
  refine ⟨_, ?_, rfl⟩
  simp only [Context.bank, Context.withStore]
  split <;> rfl

end Keeper

namespace StateDb

section

variable {env : Env} {keepDirty : Bool} {ctx after : Context}

/-- Writing a live object is writing its balance, as far as the bank is concerned. -/
theorem commitObject_setBalance {obj changed : StateObject} (alive : obj.selfDestructed = false)
    (success : commitObject env keepDirty ctx obj = .ok (after, changed)) :
    ∃ before written : Context, before.bank = ctx.bank ∧ written.bank = after.bank ∧
      Keeper.setBalance env before obj.address obj.account.balance = .ok written := by
  obtain ⟨written, stored, rfl⟩ := commitObject_alive success alive
  have code : (ctx.withStore (flushCode ctx.store obj)).bank = ctx.bank := by
    rw [flushCode_store]
    rfl
  have slots : (written.withStore ((sortedKeys obj.dirtyStorage).foldl (flushSlot keepDirty)
      (written.store, obj)).1).bank = written.bank := by
    rw [foldl_flushSlot_store]
    rfl
  obtain ⟨before, same, sets⟩ := Keeper.setAccount_setBalance env
    (ctx.withStore (flushCode ctx.store obj)) obj.address obj.account
  rw [sets] at stored
  exact ⟨before, written, same.trans code, slots.symm, stored⟩

theorem commitObject_pays {obj changed : StateObject} (healthy : Healthy env.bank ctx.bank)
    (evmApart : moduleAddr env.bank evmModule ≠ env.bank.reserve)
    (apart : obj.address.toList ≠ env.bank.reserve) (alive : obj.selfDestructed = false)
    (success : commitObject env keepDirty ctx obj = .ok (after, changed)) :
    Pays env.bank ctx.bank after.bank (booked obj.address.toList (obj.account.balance.toNat -
      Precisebank.getBalance env.bank ctx.bank obj.address.toList env.bank.extendedDenom)) := by
  obtain ⟨before, written, same, final, stored⟩ := commitObject_setBalance alive success
  rw [← same] at healthy ⊢
  rw [← final]
  exact Keeper.setBalance_pays healthy evmApart apart stored

/-- Writing the dirty objects leaves their accounts with the balances of the objects. -/
theorem commitObjects_pays {s t : StateDb} {addrs : List Address} (distinct : addrs.Nodup)
    (evmApart : moduleAddr env.bank evmModule ≠ env.bank.reserve) (addressed : Addressed s)
    (alive : Alive s) (apart : ∀ addr ∈ addrs, addr.toList ≠ env.bank.reserve) (healthy : Healthy env.bank ctx.bank)
    (success : commitObjects env keepDirty addrs s ctx = .ok (t, after, none)) : Healthy env.bank after.bank ∧
      (∀ addr ∈ addrs, ∀ obj, s.stateObjects addr = some obj →
        Precisebank.getBalance env.bank after.bank addr.toList env.bank.extendedDenom =
          obj.account.balance.toNat) ∧ ∀ account, (∀ addr ∈ addrs, addr.toList ≠ account) →
        Precisebank.getBalance env.bank after.bank account env.bank.extendedDenom =
          Precisebank.getBalance env.bank ctx.bank account env.bank.extendedDenom := by
  induction addrs generalizing s ctx with
  | nil =>
    cases success
    exact ⟨healthy, by simp, fun _ _ => rfl⟩
  | cons first rest ih =>
    obtain ⟨fresh, distinct⟩ := List.nodup_cons.mp distinct
    obtain ⟨obj, changed, middle, found, written, success⟩ := commitObjects_cons success
    have home := addressed first obj found
    have pays := commitObject_pays healthy evmApart (by rw [home]; exact apart first List.mem_cons_self)
      (alive first obj found) written
    rw [home] at pays
    have place := (commitObject_rest written).1.trans home
    obtain ⟨well, own, others⟩ := ih distinct (addressed_setStateObject addressed changed)
      (alive.commitObject found written) (fun addr member => apart addr (List.mem_cons_of_mem _ member))
      pays.healthy success
    refine ⟨well, ?_, ?_⟩
    · intro addr member target held
      by_cases here : addr = first
      · subst here
        obtain rfl : obj = target := Option.some.inj (found.symm.trans held)
        have outside : ∀ other ∈ rest, other.toList ≠ addr.toList :=
          fun other inside same => fresh (Vector.toList_inj.mp same ▸ inside)
        rw [others addr.toList outside, pays.balance, booked_self]
        ring
      · refine own addr ((List.mem_cons.mp member).resolve_left here) target ?_
        simp only [setStateObject]
        rw [Function.update_of_ne (by rw [place]; exact here)]
        exact held
    · intro account outside
      rw [others account fun addr member => outside addr (List.mem_cons_of_mem _ member), pays.balance,
        booked_ne _ (outside first List.mem_cons_self).symm, add_zero]

end

end StateDb

end OgEvm
