import OgEvm.CoinMoves
import OgEvm.SendFunds
import OgEvm.TokenStandard

/- The precompile that answers as the wrapped native coin. A deposit sends the value of the
call back, so that the coins never leave their owner; a withdrawal moves nothing and looks
at the owner's whole coins only. -/
namespace OgEvm.Werc20

open ExceptFacts Precisebank StateDb Totals

inductive WrappedEvent where
  | deposit (dst : Address) (wad : ℤ)
  | withdrawal (src : Address) (wad : ℤ)
  deriving DecidableEq

/-- `sdk.NewCoins` of one coin: a zero coin is dropped. -/
def newCoins (coin : Coin) : Coins := if coin.amount = 0 then [] else [coin]

def deposit (cfg : Config) (p : Erc20.Precompile) (caller : Address) (value : BitVec 256) (s : BankState) :
    Except Fault (BankState × List WrappedEvent) := do
  let s ← Precisebank.sendCoins cfg s p.address.toList caller.toList (newCoins ⟨cfg.extendedDenom, value.toNat⟩)
  pure (s, [.deposit caller value.toNat])

def withdraw (cfg : Config) (caller : Address) (amount : BitVec 256) (s : BankState) :
    Except Fault (BankState × List WrappedEvent) :=
  let nativeBalance := Precisebank.spendableCoin cfg s caller.toList cfg.denom
  if nativeBalance * cfg.conversionFactor < amount.toNat then
    .error (.error .other ("account balance " ++ toString nativeBalance ++ " is lower than withdraw balance " ++
      toString amount.toNat))
  else .ok (s, [.withdrawal caller amount.toNat])

def balanceOf (cfg : Config) (s : BankState) (account : Address) : ℤ :=
  Precisebank.spendableCoin cfg s account.toList cfg.extendedDenom

/-- `Deposit` in a cache context. -/
def depositAction (env : Env) (p : Erc20.Precompile) (caller : Address) (value : BitVec 256) : NativeAction :=
    fun ctx =>
  match deposit env.bank p caller value ctx.bank with
  | .ok (bank, _) => .ok (ctx.withBank bank, none)
  | .error (.panic cause) => .error (.keeper cause)
  | .error (.error code text) => .ok (ctx, some (code, text))

/-- The one send of a deposit. -/
def refund (cfg : Config) (p : Erc20.Precompile) (caller : Address) (value : BitVec 256) : NativeSend :=
  .precisebank p.address.toList caller.toList (newCoins ⟨cfg.extendedDenom, value.toNat⟩)

theorem depositAction_eq (env : Env) (p : Erc20.Precompile) (caller : Address) (value : BitVec 256) :
    depositAction env p caller value = sendsAction env [refund env.bank p caller value] := by
  funext ctx
  have runs : runSends env.bank ctx.bank [refund env.bank p caller value] =
      Precisebank.sendCoins env.bank ctx.bank p.address.toList caller.toList
        (newCoins ⟨env.bank.extendedDenom, value.toNat⟩) := bind_pure _
  unfold depositAction sendsAction deposit
  rw [runs]
  rcases Precisebank.sendCoins env.bank ctx.bank p.address.toList caller.toList
    (newCoins ⟨env.bank.extendedDenom, value.toNat⟩) with (_ | _) | _ <;> rfl

theorem newCoins_amountOf (coin : Coin) (denom : Denom) :
    Coins.amountOf (newCoins coin) denom = if coin.denom = denom then coin.amount else 0 := by
  unfold newCoins
  split
  · rename_i zero
    simp [zero]
  · exact Coins.amountOf_singleton _ _ _

theorem refund_value (cfg : Config) (p : Erc20.Precompile) (caller : Address) (value : BitVec 256) :
    (refund cfg p caller value).value cfg = value.toNat := by
  unfold refund NativeSend.value
  simp only [newCoins_amountOf, if_true]
  split
  · rw [zero_mul, zero_add]
  · rename_i distinct
    rw [if_neg (Ne.symm distinct), zero_mul, zero_add]

theorem withdraw_ok_iff (cfg : Config) (s : BankState) (caller : Address) (amount : BitVec 256) :
    (∃ result, withdraw cfg caller amount s = .ok result) ↔
      amount.toNat ≤ Precisebank.spendableCoin cfg s caller.toList cfg.denom * cfg.conversionFactor := by
  unfold withdraw
  dsimp only
  split
  · rename_i short
    simp [short]
  · rename_i enough
    simp [not_lt.mp enough]

/-- The whole coins of an account are its wrapped coins just if it has no fraction. -/
theorem withdraw_matches_iff {cfg : Config} {s : BankState} {caller : Address} (backed : Backed cfg s)
    (distinct : cfg.decimals ≠ 18 → cfg.denom ≠ cfg.extendedDenom) (ordinary : caller.toList ≠ cfg.reserve)
    (bounded : balanceOf cfg s caller < 2 ^ 256) :
    (∀ amount : BitVec 256, (∃ result, withdraw cfg caller amount s = .ok result) ↔
      amount.toNat ≤ balanceOf cfg s caller) ↔ s.fractionalBalances caller.toList = 0 := by
  have nonneg := backed.fractional_nonneg caller.toList
  have small := backed.fractional_lt caller.toList
  have extended := @spendableCoin_extended cfg s caller.toList ordinary
  simp only [withdraw_ok_iff]
  unfold balanceOf at *
  by_cases same : cfg.decimals = 18
  · have unit : cfg.conversionFactor = 1 := by simp [Config.conversionFactor, same]
    rw [unit] at small ⊢
    simp only [cfg.same_denom same, mul_one, implies_true, true_iff]
    omega
  · rw [spendableCoin_passthrough (distinct same)]
    have whole : 0 ≤ Bank.spendableCoin s caller.toList cfg.denom * cfg.conversionFactor :=
      mul_nonneg (le_max_left _ _) cfg.conversionFactor_pos.le
    rw [extended] at bounded ⊢
    generalize Bank.spendableCoin s caller.toList cfg.denom * cfg.conversionFactor = coins at *
    constructor
    · intro matched
      by_contra fraction
      have fits : (BitVec.ofNat 256 (coins.toNat + 1)).toNat = coins.toNat + 1 := by
        rw [BitVec.toNat_ofNat]
        exact Nat.mod_eq_of_lt (by omega)
      have accepted := (matched (BitVec.ofNat 256 (coins.toNat + 1))).mpr (by omega)
      omega
    · intro zero amount
      rw [zero, add_zero]

/-- What a deposit or a withdrawal finds in the bank of a cache context. -/
theorem Balanced.balanceOf {env : Env} {native : List AccAddress} {expected : Table AccAddress} {s u : StateDb}
    (balanced : Balanced env native expected s) (evmApart : moduleAddr env.bank evmModule ≠ env.bank.reserve)
    (entered : enterPrecompile env s = .ok (u, none)) (account : Address) :
    Werc20.balanceOf env.bank (cacheContext u).bank account = expected account.toList := by
  obtain ⟨-, -, -, healthy, balances⟩ := balanced.enter evmApart entered
  rw [Werc20.balanceOf, healthy.spendable, balances]

section

variable {env : Env} {native : List AccAddress} {expected : Table AccAddress} {s t r : StateDb}
  {p : Erc20.Precompile} {caller : Address} {value : BitVec 256} (balanced : Balanced env native expected s)
  (evmApart : moduleAddr env.bank evmModule ≠ env.bank.reserve)
  (reserveBlocked : env.bank.blockedAddr env.bank.reserve = true) (apart : env.bank.reserve ∉ native)
  (sized : ∀ account ∈ native, env.bank.blockedAddr account = false → account.length = 20)
  (callerFree : env.bank.blockedAddr caller.toList = false)
  (precompileFree : env.bank.blockedAddr p.address.toList = false)
  (callerNamed : caller.toList ∈ native) (precompileNamed : p.address.toList ∈ native)
  (sent : transfer env s caller p.address value = (t, none))

include balanced apart callerFree precompileFree callerNamed precompileNamed sent

theorem sent_balanced : Balanced env native (expected + moveTable caller.toList p.address.toList value.toNat) t := by
  refine balanced.transfer ⟨fun same => apart (same ▸ callerNamed), fun blocked => ?_⟩
    ⟨fun same => apart (same ▸ precompileNamed), fun blocked => ?_⟩ sent
  · rw [callerFree] at blocked
    cases blocked
  · rw [precompileFree] at blocked
    cases blocked

include evmApart

/-- The value of the call is there to be sent back. -/
theorem deposit_succeeds {u : StateDb} (entered : enterPrecompile env t = .ok (u, none)) :
    ∃ bank, deposit env.bank p caller value (cacheContext u).bank = .ok (bank, [.deposit caller value.toNat]) := by
  have moved := sent_balanced balanced apart callerFree precompileFree callerNamed precompileNamed sent
  obtain ⟨-, -, -, healthy, balances⟩ := moved.enter evmApart entered
  have filled (addr : Address) : addr.toList ≠ [] := by
    intro empty
    simpa [empty] using addr.length_toList
  have sends : ∃ bank, Precisebank.sendCoins env.bank (cacheContext u).bank p.address.toList caller.toList
      (newCoins ⟨env.bank.extendedDenom, value.toNat⟩) = .ok bank := by
    unfold newCoins
    split
    · exact ⟨_, rfl⟩
    · rename_i nonzero
      have positive : 0 < (value.toNat : ℤ) := (Int.natCast_nonneg _).lt_of_ne (Ne.symm nonzero)
      change ∃ bank, BankKeeper.precisebank.sendCoins _ _ _ _ _ = .ok bank
      refine (BankKeeper.sendCoins_succeeds_iff positive (fun same => apart (same ▸ precompileNamed))
        (fun same => apart (same ▸ callerNamed)) healthy.backed (healthy.unlocked _) (filled _) (filled _)).mpr ?_
      by_cases self : p.address.toList = caller.toList
      · exact Or.inl ⟨rfl, rfl, self⟩
      · refine Or.inr ?_
        change (value.toNat : ℤ) ≤ Precisebank.spendableCoin _ _ _ _
        rw [healthy.spendable, balances, DFinsupp.add_apply, moveTable_apply, booked_self, booked_ne _ self]
        linarith [balanced.funds p.address.toList]
  obtain ⟨bank, sends⟩ := sends
  exact ⟨bank, bind_of_ok sends _⟩

include reserveBlocked sized

theorem deposit_balanced (ran : runNativeAction env ⟨depositAction env p caller value, true⟩ t = .ok (r, none)) :
    Balanced env native expected r := by
  have moved := sent_balanced balanced apart callerFree precompileFree callerNamed precompileNamed sent
  rw [depositAction_eq] at ran
  have returned := moved.call evmApart reserveBlocked apart sized ?_ ran
  · have back : expected + moveTable caller.toList p.address.toList value.toNat +
        sendsTable env.bank [refund env.bank p caller value] = expected := by
      ext account
      rw [DFinsupp.add_apply, DFinsupp.add_apply, moveTable_apply, sendsTable_apply, sendsNet_cons, NativeSend.net,
        refund_value]
      simp only [refund, NativeSend.sender, NativeSend.recipient, sendsNet, List.map_nil, List.sum_nil]
      ring
    rwa [back] at returned
  · intro account party
    simp only [sendsParties, List.flatMap_cons, List.flatMap_nil, List.append_nil, List.mem_cons,
      List.not_mem_nil, or_false, refund, NativeSend.sender, NativeSend.recipient] at party
    rcases party with named | named
    · rw [named]
      exact precompileNamed
    · rw [named]
      exact callerNamed

end

/-- The wrapped coin is the native one for deposits; for withdrawals it is for accounts
without a fraction of a coin, and for no others. -/
theorem wrapped_mirrors_iff {env : Env} {native : List AccAddress} {expected : Table AccAddress} {s u : StateDb}
    {p : Erc20.Precompile} {caller : Address} (balanced : Balanced env native expected s)
    (distinct : env.bank.decimals ≠ 18 → env.bank.denom ≠ env.bank.extendedDenom)
    (evmApart : moduleAddr env.bank evmModule ≠ env.bank.reserve)
    (reserveBlocked : env.bank.blockedAddr env.bank.reserve = true) (apart : env.bank.reserve ∉ native)
    (sized : ∀ account ∈ native, env.bank.blockedAddr account = false → account.length = 20)
    (callerFree : env.bank.blockedAddr caller.toList = false)
    (precompileFree : env.bank.blockedAddr p.address.toList = false)
    (callerNamed : caller.toList ∈ native) (precompileNamed : p.address.toList ∈ native)
    (entered : enterPrecompile env s = .ok (u, none)) :
    (∀ value t, transfer env s caller p.address value = (t, none) →
      (∀ v, enterPrecompile env t = .ok (v, none) →
        ∃ bank, deposit env.bank p caller value (cacheContext v).bank =
          .ok (bank, [.deposit caller value.toNat])) ∧
      ∀ r, runNativeAction env ⟨depositAction env p caller value, true⟩ t = .ok (r, none) →
        shownBalance env r caller = shownBalance env s caller ∧
        ∀ v, enterPrecompile env r = .ok (v, none) →
          balanceOf env.bank (cacheContext v).bank caller = balanceOf env.bank (cacheContext u).bank caller) ∧
    (∀ amount result, withdraw env.bank caller amount (cacheContext u).bank = .ok result →
      result = ((cacheContext u).bank, [.withdrawal caller amount.toNat])) ∧
    ((∀ amount : BitVec 256, (∃ result, withdraw env.bank caller amount (cacheContext u).bank = .ok result) ↔
      amount.toNat ≤ balanceOf env.bank (cacheContext u).bank caller) ↔
        (cacheContext u).bank.fractionalBalances caller.toList = 0) := by
  have watched : Watched env native caller := fun blocked => by
    rw [callerFree] at blocked
    cases blocked
  obtain ⟨-, -, -, healthy, -⟩ := balanced.enter evmApart entered
  refine ⟨fun value t sent => ⟨fun v begun => ?_, fun r ran => ?_⟩, fun amount result done => ?_, ?_⟩
  · exact deposit_succeeds balanced evmApart apart callerFree precompileFree callerNamed precompileNamed sent begun
  · have after := deposit_balanced balanced evmApart reserveBlocked apart sized callerFree precompileFree callerNamed
      precompileNamed sent ran
    refine ⟨by rw [after.shown caller watched, balanced.shown caller watched], fun v begun => ?_⟩
    rw [Balanced.balanceOf after evmApart begun, Balanced.balanceOf balanced evmApart entered]
  · exact (Except.ok.inj (ite_error_ok done).2).symm
  · refine withdraw_matches_iff healthy.backed distinct (fun same => apart (same ▸ callerNamed)) ?_
    rw [Balanced.balanceOf balanced evmApart entered]
    exact (apply_le_total expected balanced.funds _).trans_lt balanced.bounded

theorem wrapped_mirrors_iff_coinStart :
    ∃ u, enterPrecompile toyEnv coinStart = .ok (u, none) ∧
      ((∀ amount : BitVec 256, (∃ result, withdraw toyEnv.bank holder amount (cacheContext u).bank = .ok result) ↔
        amount.toNat ≤ balanceOf toyEnv.bank (cacheContext u).bank holder) ↔
          (cacheContext u).bank.fractionalBalances holder.toList = 0) := by
  have healthy : Healthy toyEnv.bank (Context.mk coinStore []).store.bank := coinBank_healthy (by decide)
  have started : begin ⟨coinStore, []⟩ ⟨zeroHash, 0⟩ none = .ok coinStart := rfl
  have balanced : Balanced toyEnv [holder.toList, Erc20.wrappedPrecompile.address.toList] _ coinStart :=
    begin_balanced healthy coinStore_funded (by decide +kernel) started
  have apart : toyEnv.bank.reserve ∉ [holder.toList, Erc20.wrappedPrecompile.address.toList] := by decide +kernel
  have sized : ∀ account ∈ [holder.toList, Erc20.wrappedPrecompile.address.toList],
      toyEnv.bank.blockedAddr account = false → account.length = 20 := by decide +kernel
  obtain ⟨u, entered⟩ : ∃ u, enterPrecompile toyEnv coinStart = .ok (u, none) := ⟨_, rfl⟩
  exact ⟨u, entered, (wrapped_mirrors_iff balanced (by decide) (by decide) rfl apart sized (by decide)
    (by decide +kernel) List.mem_cons_self (List.mem_cons_of_mem _ List.mem_cons_self) entered).2.2⟩

/-- Five coins and seven parts of another, for which the reserve holds one. -/
def fractionBank : BankState where
  balances denom := if denom = "utest" then DFinsupp.single holder.toList 5 + DFinsupp.single [1] 1 else 0
  supply denom := if denom = "utest" then 6 else 0
  locked _ _ := 0
  fractionalBalances := DFinsupp.single holder.toList 7
  remainder := 10 ^ 12 - 7
  events := []

/-- The last seven parts are the holder's, and cannot be withdrawn. -/
theorem fraction_not_withdrawn :
    total fractionBank.fractionalBalances + fractionBank.remainder =
      fractionBank.balances "utest" [1] * sixDecimals.conversionFactor ∧
    balanceOf sixDecimals fractionBank holder = 5000000000007 ∧
    (withdraw sixDecimals holder 5000000000007#256 fractionBank).toOption.isSome = false := by
  refine ⟨?_, by decide +kernel, by decide +kernel⟩
  rw [fractionBank, total_single]
  decide +kernel

end OgEvm.Werc20
