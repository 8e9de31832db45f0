import OgEvm.KeeperBalances
import OgEvm.PrecisebankRemainder

/- When writing out an account succeeds. With the module accounts set up as the chain does
it, a healthy bank mints and burns whatever difference there is, so only a blocked
recipient stands in the way of `SetAccount`. -/
namespace OgEvm

open ExceptFacts Precisebank

/-- The module accounts behind the EVM's mints and burns. -/
structure BankReady (env : Env) : Prop where
  registered : ∃ addr, env.bank.moduleAddress evmModule = some addr
  apart : moduleAddr env.bank evmModule ≠ env.bank.reserve
  named : moduleAddr env.bank evmModule ≠ []
  mints : env.bank.hasPermission evmModule .minter = true
  burns : env.bank.hasPermission evmModule .burner = true
  reserveMints : env.bank.hasPermission precisebankModule .minter = true
  reserveBurns : env.bank.hasPermission precisebankModule .burner = true

theorem evmModule_ne_precisebank : evmModule ≠ precisebankModule := by decide

section

variable {env : Env} {s : BankState}

/-- A covered send between ordinary accounts, or from an account to itself, goes through. -/
theorem sendCoins_succeeds {cfg : Config} (healthy : Healthy cfg s) {fromAddr toAddr : AccAddress} {amt : ℤ}
    (positive : 0 < amt) (fromApart : fromAddr ≠ cfg.reserve) (toApart : toAddr ≠ cfg.reserve)
    (fromNamed : fromAddr ≠ []) (toNamed : toAddr ≠ [])
    (enough : amt ≤ Precisebank.getBalance cfg s fromAddr cfg.extendedDenom) :
    ∃ t, sendCoins cfg s fromAddr toAddr [⟨cfg.extendedDenom, amt⟩] = .ok t := by
  rw [sendCoins_extendedCoin positive]
  by_cases same : fromAddr = toAddr
  · rw [sendExtendedCoins, if_neg (by tauto), if_pos same]
    exact ⟨s, rfl⟩
  · rw [sendExtendedCoins_succeeds_iff healthy.backed (healthy.unlocked _) positive fromApart toApart same
      fromNamed toNamed, healthy.spendable]
    exact enough

theorem mintAmountToAccount_succeeds (ready : BankReady env) (healthy : Healthy env.bank s)
    {recipient : AccAddress} {amt : ℤ} (positive : 0 < amt) (apart : recipient ≠ env.bank.reserve)
    (named : recipient ≠ []) (allowed : env.bank.blockedAddr recipient = false) :
    ∃ t, BankWrapper.mintAmountToAccount env s recipient amt = .ok t := by
  obtain ⟨minted, mint⟩ : ∃ t, mintExtendedCoin env.bank s evmModule amt = .ok t :=
    mintExtendedCoin_succeeds healthy.backed (healthy.unlocked _)
    ready.reserveMints evmModule_ne_precisebank ready.registered ready.named ready.mints
  have mint : mintCoins env.bank s evmModule _ = _ := (Issue.coins_extendedCoin_eq .mint positive
    evmModule_ne_precisebank ready.registered ready.mints).trans mint
  have issued := mintExtended_pays healthy positive ready.apart mint
  have enough : amt ≤ Precisebank.getBalance env.bank minted (moduleAddr env.bank evmModule)
      env.bank.extendedDenom := by
    rw [issued.balance, booked_self]
    have funds := healthy.funds (moduleAddr env.bank evmModule)
    omega
  obtain ⟨t, sent⟩ := sendCoins_succeeds issued.healthy positive ready.apart apart ready.named named enough
  refine ⟨t, ?_⟩
  obtain ⟨addr, found⟩ := ready.registered
  rw [moduleAddr_of found] at sent
  simp only [BankWrapper.mintAmountToAccount, mint, Except.mapError, sendCoinsFromModuleToAccount, found,
    evmModule_ne_precisebank, if_false, allowed]
  exact sent

theorem burnAmountFromAccount_succeeds (ready : BankReady env) (healthy : Healthy env.bank s)
    {account : AccAddress} {amt : ℤ} (positive : 0 < amt) (apart : account ≠ env.bank.reserve)
    (named : account ≠ []) (held : amt ≤ Precisebank.getBalance env.bank s account env.bank.extendedDenom) :
    ∃ t, BankWrapper.burnAmountFromAccount env s account amt = .ok t := by
  obtain ⟨collected, sent⟩ := sendCoins_succeeds healthy positive apart ready.apart named ready.named held
  have pays := sendExtended_pays healthy positive apart ready.apart sent
  have covered : amt ≤ Precisebank.getBalance env.bank collected (moduleAddr env.bank evmModule)
      env.bank.extendedDenom := by
    rw [pays.balance, booked_self]
    have funds := healthy.funds (moduleAddr env.bank evmModule)
    by_cases same : moduleAddr env.bank evmModule = account
    · rw [same, booked_self]
      omega
    · rw [booked_ne _ same]
      omega
  rw [← pays.healthy.spendable] at covered
  have never : Avoids (fun _ => True) (burnExtendedCoin env.bank collected evmModule amt) := by
    intro fault failed _
    exact burnExtendedCoin_refuses pays.healthy.backed (pays.healthy.unlocked _) ready.reserveBurns positive
      evmModule_ne_precisebank ready.registered ready.apart ready.named ready.burns fault failed
      fun short => absurd short.2 (not_lt.mpr covered)
  obtain ⟨t, burned⟩ := never.succeeds
  refine ⟨t, ?_⟩
  have burned : burnCoins env.bank collected evmModule _ = _ := (Issue.coins_extendedCoin_eq .burn positive
    evmModule_ne_precisebank ready.registered ready.burns).trans burned
  obtain ⟨addr, found⟩ := ready.registered
  rw [moduleAddr_of found] at sent
  simp only [BankWrapper.burnAmountFromAccount, sendCoinsFromAccountToModule, found,
    evmModule_ne_precisebank, if_false, sent, Except.mapError]
  exact burned

end

theorem toList_ne_nil (addr : Address) : addr.toList ≠ [] := by
  intro empty
  have sized := addr.length_toList
  rw [empty] at sized
  cases sized

namespace Keeper

variable {env : Env} {ctx : Context} {addr : Address}

/-- `SetBalance` fails only at a blocked account that would have to be paid. -/
theorem setBalance_succeeds (ready : BankReady env) (healthy : Healthy env.bank ctx.bank)
    (apart : addr.toList ≠ env.bank.reserve) {amount : BitVec 256}
    (allowed : env.bank.blockedAddr addr.toList = false ∨ amount = 0) :
    ∃ after, setBalance env ctx addr amount = .ok after := by
  have funds := healthy.funds addr.toList
  unfold setBalance BankWrapper.spendableCoin
  rw [healthy.spendable]
  simp only
  by_cases positive : 0 < (amount.toNat : ℤ) -
      Precisebank.getBalance env.bank ctx.bank addr.toList env.bank.extendedDenom
  · rw [if_pos positive]
    rcases allowed with unblocked | rfl
    · obtain ⟨bank, minted⟩ := mintAmountToAccount_succeeds ready healthy positive apart
        (toList_ne_nil addr) unblocked
      rw [minted]
      exact ⟨_, rfl⟩
    · simp at positive
      omega
  · rw [if_neg positive]
    split
    · rename_i negative
      obtain ⟨bank, burned⟩ := burnAmountFromAccount_succeeds ready healthy (neg_pos.mpr negative) apart
        (toList_ne_nil addr) (by omega)
      rw [burned]
      exact ⟨_, rfl⟩
    · exact ⟨ctx, rfl⟩

end Keeper

namespace StateDb

/-- Writing a live object of an account that may be paid succeeds. -/
theorem commitObject_succeeds {env : Env} {keepDirty : Bool} {ctx : Context} {obj : StateObject}
    (ready : BankReady env) (healthy : Healthy env.bank ctx.bank) (apart : obj.address.toList ≠ env.bank.reserve)
    (allowed : env.bank.blockedAddr obj.address.toList = false) (alive : obj.selfDestructed = false) :
    ∃ after changed, commitObject env keepDirty ctx obj = .ok (after, changed) := by
  have code : (ctx.withStore (flushCode ctx.store obj)).bank = ctx.bank := by
    rw [flushCode_store]
    rfl
  obtain ⟨before, same, sets⟩ := Keeper.setAccount_setBalance env
    (ctx.withStore (flushCode ctx.store obj)) obj.address obj.account
  rw [code] at same
  rw [← same] at healthy
  obtain ⟨written, stored⟩ := Keeper.setBalance_succeeds ready healthy apart (Or.inl allowed)
  unfold commitObject
  rw [alive, if_neg (by simp), sets, stored]
  exact ⟨_, _, rfl⟩

end StateDb

end OgEvm
