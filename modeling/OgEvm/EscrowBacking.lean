import OgEvm.Erc20Ibc
import OgEvm.TokenPairRuns

/- The coins of a converted ERC-20 are backed by the tokens of the module account. A conversion
moves both by the same amount; what remains between them is what was sent to the module
account from elsewhere. -/
namespace OgEvm

open ExceptFacts

namespace Bank

/-- A change of the bank that issues coins of a denomination, and leaves no account with more
of it locked than it holds. -/
structure Issues (denom : Denom) (net : ℤ) (s t : BankState) : Prop where
  supply : t.supply denom = s.supply denom + net
  solvent : ∀ account, 0 ≤ spendableAmount s account denom → 0 ≤ spendableAmount t account denom

section

variable {denom : Denom} {net net' : ℤ} {cfg : Config} {s t u : BankState}

theorem Issues.refl (denom : Denom) (s : BankState) : Issues denom 0 s s :=
  ⟨(add_zero _).symm, fun _ solvent => solvent⟩

theorem Issues.trans (first : Issues denom net s t) (second : Issues denom net' t u) :
    Issues denom (net + net') s u where
  supply := by rw [second.supply, first.supply, add_assoc]
  solvent account solvent := second.solvent account (first.solvent account solvent)

theorem sendCoins_issues {fromAddr toAddr : AccAddress} {amt : Coins}
    (success : sendCoins s fromAddr toAddr amt = .ok t) : Issues denom 0 s t := by
  have covered := sendCoins_covered success denom
  obtain ⟨valid, rfl⟩ := sendCoins_ok success
  have frame := moved_frame s fromAddr toAddr amt
  have nonneg := Coins.amountOf_nonneg valid denom
  refine ⟨by rw [frame.supply, add_zero], ?_⟩
  intro account solvent
  unfold spendableAmount at solvent ⊢
  rw [moved_balance s fromAddr toAddr valid, frame.locked]
  by_cases sender : account = fromAddr
  · subst sender
    unfold spendableCoin spendableAmount at covered
    rw [max_eq_right solvent] at covered
    rw [if_pos rfl]
    split_ifs <;> omega
  · rw [if_neg sender]
    split_ifs <;> omega

theorem reissued_spendable (sign : ℤ) (event : Event) (addr account : AccAddress) {amt : Coins}
    (valid : Coins.IsValid amt) :
    spendableAmount (reissued sign event s addr amt) account denom = spendableAmount s account denom +
      if account = addr then sign * Coins.amountOf amt denom else 0 := by
  have locked := (shiftCoins_frame sign addr amt s).1.locked
  unfold spendableAmount
  rw [reissued_balances, shiftCoins_balance sign addr valid]
  change _ - ((shiftCoins sign addr amt s).locked account denom : ℤ) = _
  rw [locked]
  ring

theorem mintCoins_issues {moduleName : ModuleName} {amt : Coins} (success : mintCoins cfg s moduleName amt = .ok t) :
    Issues denom (Coins.amountOf amt denom) s t := by
  obtain ⟨addr, -, valid, rfl⟩ := mintCoins_ok success
  have nonneg := Coins.amountOf_nonneg valid denom
  refine ⟨?_, ?_⟩
  · change s.supply denom + 1 * Coins.amountOf amt denom = _
    rw [one_mul]
  · intro account solvent
    rw [reissued_spendable 1 _ addr account valid]
    split_ifs <;> omega

theorem burnCoins_issues {moduleName : ModuleName} {burnt : Denom} {amount : ℤ}
    (success : burnCoins cfg s moduleName [⟨burnt, amount⟩] = .ok t) :
    Issues denom (-Coins.amountOf [⟨burnt, amount⟩] denom) s t := by
  obtain ⟨addr, found, valid, rfl⟩ := burnCoins_ok success
  have covered := burnCoins_covered found success
  refine ⟨?_, ?_⟩
  · change s.supply denom + -1 * Coins.amountOf [⟨burnt, amount⟩] denom = _
    ring
  · intro account solvent
    rw [reissued_spendable (-1) _ addr account valid]
    by_cases holder : account = addr
    · subst holder
      rw [if_pos rfl, Coins.amountOf_singleton]
      by_cases same : burnt = denom
      · subst same
        rw [if_pos rfl]
        omega
      · rw [if_neg same]
        omega
    · rw [if_neg holder]
      omega

end

end Bank

namespace Erc20

/-- An amount went from one account to another. -/
def Moved (before after : Address → ℕ) (caller receiver : Address) (amount : ℤ) : Prop :=
  ∀ account, (after account : ℤ) =
    before account - (if account = caller then amount else 0) + if account = receiver then amount else 0

/-- Nothing is lost, and where it is quiet nothing is gained. -/
def Grows (quiet : Prop) (before after : ℤ) : Prop := before ≤ after ∧ (quiet → after = before)

theorem Grows.same (quiet : Prop) {before after : ℤ} (same : after = before) : Grows quiet before after :=
  ⟨same.ge, fun _ => same⟩

theorem Grows.trans {quiet : Prop} {first second third : ℤ} (head : Grows quiet first second)
    (tail : Grows quiet second third) : Grows quiet first third :=
  ⟨head.1.trans tail.1, fun still => (tail.2 still).trans (head.2 still)⟩

theorem Grows.add {quiet : Prop} {before after : ℤ} (grows : Grows quiet before after) (amount : ℤ) :
    Grows quiet (before + amount) (after + amount) :=
  ⟨by linarith [grows.1], fun still => by rw [grows.2 still]⟩

section

variable {σ : Type}

/-- A transfer is confirmed by true, or by no data and the event. -/
def Confirmed (env : Erc20Env σ) (contract : Address) (res : Response) : Prop :=
  unpackBool res.ret = .ok true ∨ res.ret = [] ∧ validateTransferEventExists env res.logs contract = .ok none

/-- Coins and the contract behind them, with its balances. Where it is quiet, nobody sends tokens to
the module account outside a conversion. -/
structure Escrow (σ : Type) where
  env : IbcEnv σ
  contract : Address
  denom : Denom
  balance : σ → Address → ℕ
  quiet : Prop

namespace Escrow

variable (e : Escrow σ)

/-- The tokens of the module account. -/
def held (evm : σ) : ℕ := e.balance evm (moduleAddress e.env.toErc20Env)

/-- A standard ERC-20, in every state of the EVM: it reports its balances, a transfer is confirmed and
moves the amount or moves nothing, and its code stays. -/
structure Standard : Prop where
  reports : ∀ evm account, ∃ ret, e.env.contracts.balanceOf evm e.contract account = .ok ret ∧
    32 ≤ ret.length ∧ bytesToNat (ret.take 32) = e.balance evm account
  transfers : ∀ evm caller receiver amount, 0 ≤ amount →
    (Moved (e.balance evm) (e.balance (e.env.contracts.transfer evm e.contract caller receiver amount).2) caller
        receiver amount ∧
      ∃ res, (e.env.contracts.transfer evm e.contract caller receiver amount).1 = .ok res ∧
        Confirmed e.env.toErc20Env e.contract res) ∨
    e.balance (e.env.contracts.transfer evm e.contract caller receiver amount).2 = e.balance evm
  coded : ∀ evm, (e.env.getAccount evm e.contract).any (hasCodeHash e.env.toKeeperEnv) = true
  setCode : ∀ evm hash code, e.balance (e.env.setCode evm hash code) = e.balance evm
  setAccount : ∀ evm addr account evm', addr ≠ e.contract → e.env.setAccount evm addr account = .ok evm' →
    e.balance evm' = e.balance evm

/-- A call of another contract takes no tokens of the module account, which has approved nobody. -/
def OthersKeep : Prop :=
  ∀ evm other caller receiver amount, other ≠ e.contract →
    Grows e.quiet (e.held evm) (e.held (e.env.contracts.transfer evm other caller receiver amount).2)

/-- The tokens of the module account beyond the coins in circulation. -/
def surplus (bank : BankState) (evm : σ) : ℤ := e.held evm - bank.supply e.denom

/-- What every step does to the bank and the contract. -/
structure Keeps (bank : BankState) (evm : σ) (bank' : BankState) (evm' : σ) : Prop where
  surplus : Grows e.quiet (e.surplus bank evm) (e.surplus bank' evm')
  solvent : ∀ account, 0 ≤ Bank.spendableAmount bank account e.denom →
    0 ≤ Bank.spendableAmount bank' account e.denom

end Escrow

section

variable {e : Escrow σ} {bank bank' bank'' : BankState} {evm evm' evm'' : σ} {s after : Store σ}

theorem Escrow.Keeps.refl (e : Escrow σ) (bank : BankState) (evm : σ) : e.Keeps bank evm bank evm :=
  ⟨.same e.quiet rfl, fun _ solvent => solvent⟩

theorem Escrow.Keeps.trans (first : e.Keeps bank evm bank' evm') (second : e.Keeps bank' evm' bank'' evm'') :
    e.Keeps bank evm bank'' evm'' where
  surplus := first.surplus.trans second.surplus
  solvent account solvent := second.solvent account (first.solvent account solvent)

/-- The coins that are issued are matched by tokens. -/
theorem Escrow.keeps_of_issues {net : ℤ} (issues : Bank.Issues e.denom net bank bank')
    (tokens : Grows e.quiet (e.held evm + net) (e.held evm')) : e.Keeps bank evm bank' evm' := by
  refine ⟨?_, issues.solvent⟩
  have shifted := tokens.add (-net - bank.supply e.denom)
  unfold Escrow.surplus
  rw [issues.supply]
  convert shifted using 1 <;> ring

theorem Escrow.Standard.balanceOf (standard : e.Standard) (s : Store σ) (account : Address) :
    Erc20.balanceOf e.env.toErc20Env s e.contract account = some (e.balance s.evm account : ℤ) := by
  obtain ⟨ret, answered, long, value⟩ := standard.reports s.evm account
  unfold Erc20.balanceOf
  rw [answered]
  dsimp only
  rw [if_neg (by omega), value]

/-- The keeper takes either answer. -/
theorem Confirmed.accepted {env : Erc20Env σ} {contract : Address} {res : Response}
    (confirmed : Confirmed env contract res) :
    checkResponse env contract res = .ok none := by
  unfold checkResponse
  rcases confirmed with accepted | ⟨empty, logged⟩
  · have long : res.ret.length ≠ 0 := by
      intro empty
      unfold unpackBool at accepted
      rw [if_pos (by omega)] at accepted
      cases accepted
    rw [if_neg long, accepted]
  · rw [empty]
    exact logged

/-! Coins into tokens. -/

/-- Self transfers apart, the tokens that leave the module account arrive. -/
theorem Escrow.Standard.delivers (standard : e.Standard) {s : Store σ} {receiver : Address} {amount : ℤ}
    {res : Response} (apart : receiver ≠ moduleAddress e.env.toErc20Env) (moved : Moved (e.balance s.evm)
      (e.balance (e.env.contracts.transfer s.evm e.contract (moduleAddress e.env.toErc20Env) receiver amount).2)
      (moduleAddress e.env.toErc20Env) receiver amount)
    (answered : (e.env.contracts.transfer s.evm e.contract (moduleAddress e.env.toErc20Env) receiver amount).1 =
      .ok res)
    (confirmed : Confirmed e.env.toErc20Env e.contract res) :
    Delivers e.env.toErc20Env e.contract receiver amount (e.balance s.evm receiver) s := by
  unfold Delivers callTransfer
  generalize called : e.env.contracts.transfer s.evm e.contract
    (moduleAddress e.env.toErc20Env) receiver amount = call
    at moved answered
  obtain ⟨answer, evm⟩ := call
  change answer = .ok res at answered
  subst answered
  refine ⟨confirmed.accepted, ?_⟩
  rw [standard.balanceOf]
  have received := moved receiver
  rw [if_neg apart, if_pos rfl, sub_zero] at received
  exact congrArg some received

theorem Escrow.Standard.delivered (standard : e.Standard) {s : Store σ} {receiver : Address}
    {amount balanceToken : ℤ} (delivers : Delivers e.env.toErc20Env e.contract receiver amount balanceToken s) :
    (e.balance (e.env.contracts.transfer s.evm e.contract
      (moduleAddress e.env.toErc20Env) receiver amount).2 receiver : ℤ) =
      balanceToken + amount := by
  unfold Delivers callTransfer at delivers
  generalize e.env.contracts.transfer s.evm e.contract (moduleAddress e.env.toErc20Env) receiver amount =
    call at delivers ⊢
  obtain ⟨answer, evm⟩ := call
  cases answer with
  | error err => exact delivers.elim
  | ok res =>
    have read := delivers.2
    rw [standard.balanceOf] at read
    exact Option.some.inj read

/-- Tokens leave the module account exactly when coins are burnt. The coins are in escrow, so
that a burn cannot fail once the tokens have gone. -/
theorem Escrow.Standard.unescrow_keeps (standard : e.Standard) {pair : TokenPair} {amount : ℤ}
    {receiver : Address} {account : AccAddress} {err : Option GoError} (own : pair.getERC20Contract = e.contract)
    (named : pair.denom = e.denom) (positive : 0 < amount)
    (found : e.env.vm.bank.moduleAddress moduleName = some account)
    (enough : amount ≤ Bank.spendableAmount s.bank account pair.denom)
    (returned : unescrowTokens e.env.toErc20Env pair amount (e.balance s.evm receiver) receiver s =
      .ok (after, err)) :
    e.Keeps s.bank s.evm after.bank after.evm := by
  obtain ⟨bank, rfl, banked⟩ := unescrowTokens_effect returned
  have cases := unescrowTokens_cases positive found returned
  dsimp only at cases ⊢
  rw [own] at cases ⊢
  have transfers := standard.transfers s.evm (moduleAddress e.env.toErc20Env) receiver amount positive.le
  rcases cases with ⟨-, delivers, -, -, supply⟩ | ⟨sameBank, failed⟩
  · have received := standard.delivered delivers
    have burned : Bank.burnCoins e.env.vm.bank s.bank moduleName [⟨pair.denom, amount⟩] = .ok bank := by
      rcases banked with same | burned
      · rw [same] at supply
        omega
      · exact burned
    have issues : Bank.Issues e.denom (-amount) s.bank bank := by
      have issues : Bank.Issues e.denom (-Coins.amountOf [⟨pair.denom, amount⟩] e.denom) s.bank bank :=
        Bank.burnCoins_issues burned
      rwa [Coins.amountOf_singleton, if_pos named] at issues
    refine Escrow.keeps_of_issues issues (.same e.quiet ?_)
    unfold Escrow.held
    rcases transfers with ⟨moved, -⟩ | same
    · have arrived := moved receiver
      rw [if_pos rfl] at arrived
      have apart : moduleAddress e.env.toErc20Env ≠ receiver := by
        intro self
        rw [if_pos self.symm] at arrived
        omega
      have left := moved (moduleAddress e.env.toErc20Env)
      rw [if_pos rfl, if_neg apart] at left
      omega
    · rw [same] at received
      omega
  · rw [sameBank]
    refine Escrow.keeps_of_issues (Bank.Issues.refl _ _) (.same e.quiet ?_)
    rw [add_zero]
    unfold Escrow.held
    rcases transfers with ⟨moved, res, answered, confirmed⟩ | same
    · have self : receiver = moduleAddress e.env.toErc20Env := by
        by_contra apart
        exact failed ⟨standard.delivers apart moved answered confirmed, enough⟩
      have unmoved := moved (moduleAddress e.env.toErc20Env)
      rw [if_pos rfl, if_pos self.symm] at unmoved
      omega
    · rw [same]

/-- Another pair's coins and contract. -/
theorem unescrow_apart {pair : TokenPair} {amount balanceToken : ℤ} {receiver : Address} {err : Option GoError}
    (others : e.OthersKeep) (apart : pair.getERC20Contract ≠ e.contract) (other : pair.denom ≠ e.denom)
    (returned : unescrowTokens e.env.toErc20Env pair amount balanceToken receiver s = .ok (after, err)) :
    e.Keeps s.bank s.evm after.bank after.evm := by
  obtain ⟨bank, rfl, banked⟩ := unescrowTokens_effect returned
  have issues : Bank.Issues e.denom 0 s.bank bank := by
    rcases banked with rfl | burned
    · exact Bank.Issues.refl _ _
    · have issues : Bank.Issues e.denom (-Coins.amountOf [⟨pair.denom, amount⟩] e.denom) s.bank bank :=
        Bank.burnCoins_issues burned
      rwa [Coins.amountOf_singleton, if_neg other, neg_zero] at issues
  refine Escrow.keeps_of_issues issues ?_
  rw [add_zero]
  exact others s.evm pair.getERC20Contract (moduleAddress e.env.toErc20Env) receiver amount apart

/-- Also where its error is dropped, a conversion keeps what backs the coins. -/
theorem Escrow.Standard.convertCoin_keeps (standard : e.Standard)
    (others : e.OthersKeep) {pair : TokenPair} {amount : Option ℤ} {receiver : Address}
    {sender : AccAddress} {err : Option GoError} (matched : pair.denom = e.denom ↔ pair.getERC20Contract = e.contract)
    (solvent : ∀ account, e.env.vm.bank.moduleAddress moduleName = some account →
      0 ≤ Bank.spendableAmount s.bank account e.denom)
    (returned : convertCoinNativeERC20 e.env.toErc20Env pair amount receiver sender s = .ok (after, err)) :
    e.Keeps s.bank s.evm after.bank after.evm := by
  rcases convertCoinNativeERC20_cases returned with
    ⟨rfl, -⟩ | ⟨amount, balanceToken, account, -, positive, readable, covered, found, returned⟩
  · exact Escrow.Keeps.refl ..
  · have sent : Bank.sendCoins s.bank sender account [⟨pair.denom, amount⟩] =
        .ok (escrowed s pair.denom sender account amount).bank := Bank.sendCoins_enough positive covered
    have escrow : e.Keeps s.bank s.evm
        (escrowed s pair.denom sender account amount).bank s.evm :=
      Escrow.keeps_of_issues (Bank.sendCoins_issues sent) (.same e.quiet (add_zero _).symm)
    refine escrow.trans ?_
    by_cases own : pair.denom = e.denom
    · have contract := matched.mp own
      have read : balanceToken = e.balance s.evm receiver := by
        rw [contract, standard.balanceOf] at readable
        exact (Option.some.inj readable).symm
      rw [read] at returned
      refine standard.unescrow_keeps contract own positive found ?_ returned
      by_cases self : sender = account
      · subst self
        unfold Bank.spendableAmount at covered ⊢
        rw [escrowed_balance s pair.denom sender sender sender positive, if_pos rfl,
          show (escrowed s pair.denom sender sender amount).bank.locked = s.bank.locked from
            (Bank.moved_frame s.bank sender sender _).locked]
        omega
      · rw [escrowed_spendable s pair.denom positive self]
        have nonneg := solvent account found
        rw [← own] at nonneg
        omega
    · exact unescrow_apart others (fun same => own (matched.mpr same)) own returned

/-! Tokens into coins. -/

theorem State.escrowTokens_reads {env : KeeperEnv σ} {s t : State σ} {token sender : Address} {amount : ℤ}
    (success : s.escrowTokens env token sender amount = .ok t) :
    t.evm = (env.contracts.transfer s.evm token sender (moduleAddress env.toErc20Env) amount).2 ∧
      ∃ before, Erc20.balanceOf env.toErc20Env s.store token (moduleAddress env.toErc20Env) = some before ∧
        Erc20.balanceOf env.toErc20Env t.store token (moduleAddress env.toErc20Env) = some (before + amount) := by
  obtain ⟨before, reading, success⟩ := bind_ok success
  dsimp only at success
  obtain ⟨res, -, success⟩ := bind_ok success
  obtain ⟨⟨⟩, -, success⟩ := bind_ok success
  obtain ⟨balanceTokenAfter, rereading, success⟩ := bind_ok success
  split at success
  · cases success
  · rename_i expected
    cases success
    refine ⟨rfl, before, State.retrieveBalance_ok reading, ?_⟩
    rw [← not_not.mp expected]
    exact State.retrieveBalance_ok rereading

theorem State.mintConverted_issues {env : KeeperEnv σ} {s t : State σ} {denom minted : Denom}
    {amount balanceCoin : ℤ} {receiver : AccAddress}
    (success : s.mintConverted env minted amount balanceCoin receiver = .ok t) :
    Bank.Issues denom (if minted = denom then amount else 0) s.bank t.bank := by
  obtain ⟨bank, minting, success⟩ := bind_ok success
  obtain ⟨sent, sending, success⟩ := bind_ok success
  dsimp only at success
  split at success
  · cases success
  · cases success
    have issues : Bank.Issues denom (Coins.amountOf [⟨minted, amount⟩] denom) s.bank bank :=
      Bank.mintCoins_issues (mapError_ok minting)
    have sending := mapError_ok sending
    unfold Bank.sendCoinsFromModuleToAccount at sending
    split at sending
    · cases sending
    · split at sending
      · cases sending
      · rw [← Coins.amountOf_singleton, ← add_zero (Coins.amountOf _ _)]
        exact issues.trans (Bank.sendCoins_issues sending)

/-- As many coins are minted as the module account has received in tokens. -/
theorem Escrow.Standard.convertIntoCoins_keeps (standard : e.Standard)
    (others : e.OthersKeep) {s t : State σ} {pair : TokenPair} {msg : MsgConvertERC20}
    {receiver : AccAddress} {sender : Address} (matched : pair.denom = e.denom ↔ pair.getERC20Contract = e.contract)
    (success : s.convertERC20IntoCoinsForNativeToken e.env.toKeeperEnv pair msg receiver sender = .ok t) :
    e.Keeps s.bank s.evm t.bank t.evm := by
  obtain ⟨taken, escrowing, success⟩ := bind_ok success
  obtain ⟨minted, minting, success⟩ := bind_ok success
  cases success
  obtain ⟨sameEvm, before, reading, rereading⟩ := State.escrowTokens_reads escrowing
  have issues : Bank.Issues e.denom (if pair.denom = e.denom then msg.amount else 0) taken.bank minted.bank :=
    State.mintConverted_issues minting
  rw [(State.escrowTokens_same escrowing).2] at issues
  refine Escrow.keeps_of_issues issues ?_
  change Grows e.quiet _ (e.held minted.evm)
  rw [(State.mintConverted_same minting).2]
  by_cases own : pair.denom = e.denom
  · rw [matched.mp own, standard.balanceOf] at reading rereading
    rw [if_pos own]
    refine .same e.quiet ?_
    have held := Option.some.inj reading
    have received := Option.some.inj rereading
    change (e.held s.evm : ℤ) = _ at held
    change (e.held taken.evm : ℤ) = _ at received
    rw [received, held]
  · rw [if_neg own, add_zero, sameEvm]
    exact others _ _ _ _ _ fun same => own (matched.mpr same)

end

end

end Erc20

end OgEvm
