import OgEvm.BankFacts
import OgEvm.StateDbFlush

/- The events of a context only grow: whatever a keeper call emits comes after what was
there. -/
namespace OgEvm

open ExceptFacts

/-! The bank. -/

namespace Bank

def Logged (s t : BankState) : Prop := s.events <+: t.events

variable {s t u : BankState}

theorem Logged.refl (s : BankState) : Logged s s := List.prefix_refl _

theorem Logged.trans (first : Logged s t) (second : Logged t u) : Logged s u :=
  List.IsPrefix.trans first second

theorem Logged.emit (logged : Logged s t) (event : Event) : Logged s (emit t event) :=
  logged.trans (List.prefix_append _ _)

theorem moved_logged (s : BankState) (fromAddr toAddr : AccAddress) (amt : Coins) :
    Logged s (moved s fromAddr toAddr amt) := by
  unfold Logged
  rw [moved_events]
  exact List.prefix_append _ _

theorem reissued_logged (sign : ℤ) (event : Event) (s : BankState) (addr : AccAddress) (amt : Coins) :
    Logged s (reissued sign event s addr amt) := by
  have shifted : Logged s (shiftCoins sign addr amt s) := by
    unfold Logged
    rw [(shiftCoins_frame sign addr amt s).2]
  exact shifted.emit event

theorem sendCoins_logged (s : BankState) (fromAddr toAddr : AccAddress) (amt : Coins) :
    Returns (Logged s) (sendCoins s fromAddr toAddr amt) := by
  intro t success
  rw [(sendCoins_ok success).2]
  exact moved_logged s fromAddr toAddr amt

theorem sendCoinsFromAccountToModule_logged (cfg : Config) (s : BankState) (senderAddr : AccAddress)
    (recipientModule : ModuleName) (amt : Coins) :
    Returns (Logged s) (sendCoinsFromAccountToModule cfg s senderAddr recipientModule amt) := by
  unfold sendCoinsFromAccountToModule
  split
  · exact Returns.error _
  · exact sendCoins_logged s _ _ amt

theorem sendCoinsFromModuleToModule_logged (cfg : Config) (s : BankState)
    (senderModule recipientModule : ModuleName) (amt : Coins) :
    Returns (Logged s) (sendCoinsFromModuleToModule cfg s senderModule recipientModule amt) := by
  unfold sendCoinsFromModuleToModule
  split
  · exact Returns.error _
  · exact Returns.error _
  · exact sendCoins_logged s _ _ amt

theorem mintCoins_logged (cfg : Config) (s : BankState) (moduleName : ModuleName) (amt : Coins) :
    Returns (Logged s) (mintCoins cfg s moduleName amt) := by
  intro t success
  obtain ⟨addr, -, -, rfl⟩ := mintCoins_ok success
  exact reissued_logged _ _ s addr amt

theorem burnCoins_logged (cfg : Config) (s : BankState) (moduleName : ModuleName) (amt : Coins) :
    Returns (Logged s) (burnCoins cfg s moduleName amt) := by
  intro t success
  obtain ⟨addr, -, -, rfl⟩ := burnCoins_ok success
  exact reissued_logged _ _ s addr amt

/-- A step taken under a condition. -/
theorem Logged.when {condition : Prop} [Decidable condition] {step : Except Fault BankState}
    (logged : Logged s t) (taken : Returns (Logged t) step) :
    Returns (Logged s) (if condition then step else pure t) :=
  Returns.ite (fun u success => logged.trans (taken u success)) (Returns.ok logged)

end Bank

/-! precisebank. -/

namespace Precisebank

open Bank

variable {s t : BankState}

section

variable (cfg : Config) (s : BankState)

theorem setFractionalBalance_logged (address : AccAddress) (amount : ℤ) :
    Returns (Logged s) (setFractionalBalance cfg s address amount) := by
  unfold setFractionalBalance
  refine Returns.ite (Returns.error _) (Returns.ite (Returns.ok (Logged.refl s)) ?_)
  split
  · exact Returns.error _
  · exact Returns.ok (Logged.refl s)

theorem setRemainderAmount_logged (amount : ℤ) : Returns (Logged s) (setRemainderAmount cfg s amount) := by
  unfold setRemainderAmount
  refine Returns.ite (Returns.ok (Logged.refl s)) ?_
  split
  · exact Returns.error _
  · exact Returns.ok (Logged.refl s)

theorem settleSend_logged (fromAddr toAddr : AccAddress) (amt integerAmt : ℤ) (borrow carry : Bool) :
    Returns (Logged s) (settleSend cfg s fromAddr toAddr amt integerAmt borrow carry) := by
  unfold settleSend
  refine Returns.bind ((Logged.refl s).when ((sendCoins_logged _ _ _ _).mapError _)) fun t logged => ?_
  refine Returns.bind (logged.when ((sendCoinsFromAccountToModule_logged _ _ _ _ _).mapError _))
    fun u logged => ?_
  exact logged.when ((sendCoins_logged _ _ _ _).mapError _)

theorem sendExtendedCoins_logged (fromAddr toAddr : AccAddress) (amt : ℤ) :
    Returns (Logged s) (sendExtendedCoins cfg s fromAddr toAddr amt) := by
  unfold sendExtendedCoins
  refine Returns.ite ((Logged.refl s).when ((sendCoins_logged _ _ _ _).mapError _)) ?_
  refine Returns.ite (Returns.ok (Logged.refl s)) ?_
  refine Returns.after fun ⟨senderNewFracBal, borrow⟩ => Returns.after fun ⟨recipientNewFracBal, carry⟩ => ?_
  refine Returns.bind (settleSend_logged cfg s fromAddr toAddr amt _ borrow carry) fun t settled => ?_
  refine Returns.bind (setFractionalBalance_logged cfg t _ _) fun u sender => ?_
  refine Returns.bind (setFractionalBalance_logged cfg u _ _) fun v recipient => ?_
  exact Returns.ok ((((settled.trans sender).trans recipient).emit _).emit _)

theorem sendCoins_logged (fromAddr toAddr : AccAddress) (amt : Coins) :
    Returns (Logged s) (sendCoins cfg s fromAddr toAddr amt) := by
  unfold sendCoins
  refine Returns.ite (Returns.error _) ?_
  refine Returns.bind ((Logged.refl s).when (Bank.sendCoins_logged _ _ _ _)) fun t passed => ?_
  exact passed.when (sendExtendedCoins_logged cfg t fromAddr toAddr _)

theorem sendCoinsFromAccountToModule_logged (senderAddr : AccAddress) (recipientModule : ModuleName)
    (amt : Coins) : Returns (Logged s) (sendCoinsFromAccountToModule cfg s senderAddr recipientModule amt) := by
  unfold sendCoinsFromAccountToModule
  split
  · exact Returns.error _
  · exact Returns.ite (Returns.error _) (sendCoins_logged cfg s _ _ amt)

theorem sendCoinsFromModuleToAccount_logged (senderModule : ModuleName) (recipientAddr : AccAddress)
    (amt : Coins) : Returns (Logged s) (sendCoinsFromModuleToAccount cfg s senderModule recipientAddr amt) := by
  unfold sendCoinsFromModuleToAccount
  split
  · exact Returns.error _
  · exact Returns.ite (Returns.error _) (Returns.ite (Returns.error _) (sendCoins_logged cfg s _ _ amt))

end

section

variable (cfg : Config) (s : BankState) (moduleName : ModuleName)

theorem mintExtendedCoin_logged (amt : ℤ) : Returns (Logged s) (mintExtendedCoin cfg s moduleName amt) := by
  unfold mintExtendedCoin
  refine Returns.ite ((Logged.refl s).when (Bank.mintCoins_logged _ _ _ _)) ?_
  refine Returns.bind ((Logged.refl s).when (Bank.sendCoinsFromModuleToModule_logged _ _ _ _ _))
    fun t carried => ?_
  refine Returns.bind (carried.when (Bank.mintCoins_logged _ _ _ _)) fun u minted => ?_
  refine Returns.bind (setFractionalBalance_logged cfg u _ _) fun v kept => ?_
  refine Returns.bind ((minted.trans kept).when ((Bank.mintCoins_logged _ _ _ _).mapError _)) fun w backed => ?_
  refine Returns.bind (setRemainderAmount_logged cfg w _) fun x settled => ?_
  exact Returns.ok ((backed.trans settled).emit _)

theorem mintCoins_logged (amt : Coins) : Returns (Logged s) (mintCoins cfg s moduleName amt) := by
  unfold mintCoins
  refine Returns.ite (Returns.error _) ?_
  split
  · exact Returns.error _
  refine Returns.ite (Returns.error _) (Returns.ite (Returns.error _) ?_)
  refine Returns.bind ((Logged.refl s).when (Bank.mintCoins_logged _ _ _ _)) fun t passed => ?_
  exact passed.when (mintExtendedCoin_logged cfg t moduleName _)

theorem burnExtendedCoin_logged (amt : ℤ) : Returns (Logged s) (burnExtendedCoin cfg s moduleName amt) := by
  unfold burnExtendedCoin
  refine Returns.ite ((Logged.refl s).when (Bank.burnCoins_logged _ _ _ _)) ?_
  refine Returns.bind ((Logged.refl s).when ((Bank.sendCoinsFromModuleToModule_logged _ _ _ _ _).mapError _))
    fun t borrowed => ?_
  refine Returns.bind (borrowed.when ((Bank.burnCoins_logged _ _ _ _).mapError _)) fun u reserve => ?_
  refine Returns.bind (reserve.when ((Bank.burnCoins_logged _ _ _ _).mapError _)) fun v burned => ?_
  refine Returns.bind (setFractionalBalance_logged cfg v _ _) fun w kept => ?_
  refine Returns.bind (setRemainderAmount_logged cfg w _) fun x settled => ?_
  exact Returns.ok (((burned.trans kept).trans settled).emit _)

theorem burnCoins_logged (amt : Coins) : Returns (Logged s) (burnCoins cfg s moduleName amt) := by
  unfold burnCoins
  refine Returns.ite (Returns.error _) ?_
  split
  · exact Returns.error _
  refine Returns.ite (Returns.error _) (Returns.ite (Returns.error _) ?_)
  refine Returns.bind ((Logged.refl s).when (Bank.burnCoins_logged _ _ _ _)) fun t passed => ?_
  exact passed.when (burnExtendedCoin_logged cfg t moduleName _)

end

end Precisebank

/-! The keeper. -/

namespace Keeper

open Bank

def Logged (first second : Context) : Prop := first.events <+: second.events

theorem withBank_logged {ctx : Context} {bank : BankState} (logged : Bank.Logged ctx.bank bank) :
    Logged ctx (ctx.withBank bank) := logged

theorem mintAmountToAccount_logged (env : Env) (bank : BankState) (addr : AccAddress) (amt : ℤ) :
    Returns (Bank.Logged bank) (BankWrapper.mintAmountToAccount env bank addr amt) := by
  unfold BankWrapper.mintAmountToAccount
  refine Returns.bind ((Precisebank.mintCoins_logged _ _ _ _).mapError _) fun minted first => ?_
  intro sent success
  exact first.trans (Precisebank.sendCoinsFromModuleToAccount_logged _ _ _ _ _ sent success)

theorem burnAmountFromAccount_logged (env : Env) (bank : BankState) (addr : AccAddress) (amt : ℤ) :
    Returns (Bank.Logged bank) (BankWrapper.burnAmountFromAccount env bank addr amt) := by
  unfold BankWrapper.burnAmountFromAccount
  refine Returns.bind ((Precisebank.sendCoinsFromAccountToModule_logged _ _ _ _ _).mapError _) fun sent first => ?_
  intro burned success
  exact first.trans (Precisebank.burnCoins_logged _ _ _ _ burned success)

theorem setBalance_logged (env : Env) (ctx : Context) (addr : Address) (amount : BitVec 256) :
    Returns (Logged ctx) (setBalance env ctx addr amount) := by
  unfold setBalance
  refine Returns.ite ((mintAmountToAccount_logged _ _ _ _).map fun _ => withBank_logged) ?_
  refine Returns.ite ((burnAmountFromAccount_logged _ _ _ _).map fun _ => withBank_logged) ?_
  exact Returns.ok (List.prefix_refl _)

theorem deleteAccount_logged (env : Env) (ctx : Context) (addr : Address) :
    Returns (Logged ctx) (deleteAccount env ctx addr) := by
  unfold deleteAccount
  split
  · exact Returns.ok (List.prefix_refl _)
  · refine Returns.ite (Returns.error _) ?_
    exact Returns.bind (setBalance_logged _ _ _ _) fun _ logged => Returns.ok logged

end Keeper

namespace StateDb

open Keeper

theorem commitObject_logged (env : Env) (keepDirty : Bool) (ctx : Context) (obj : StateObject) :
    Returns (fun written => Logged ctx written.1) (commitObject env keepDirty ctx obj) := by
  unfold commitObject
  refine Returns.ite (((deleteAccount_logged env ctx obj.address).mapError _).map fun _ logged => logged) ?_
  exact Returns.bind ((setBalance_logged env _ _ _).mapError _) fun _ logged => Returns.ok logged

theorem commitObjects_logged {env : Env} {keepDirty : Bool} {addrs : List Address} {s t : StateDb}
    {ctx after : Context} {err : Option GoError}
    (success : commitObjects env keepDirty addrs s ctx = .ok (t, after, err)) : Logged ctx after :=
  commitObjects_invariant (fun _ after => Logged ctx after) success (List.prefix_refl _)
    fun _ _ _ _ _ _ logged _ written => logged.trans (commitObject_logged _ _ _ _ _ written)

end StateDb

end OgEvm
