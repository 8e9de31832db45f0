import OgEvm.EscrowBacking
import OgEvm.NoLostWrite

/- Whatever order conversions, packets, refunds and transfers come in, the coins of an ERC-20
are backed by what its contract holds for the module. -/
namespace OgEvm.Erc20

open ExceptFacts PartialMaps

variable {σ : Type} {s t u : State σ}

/-! Transactions of the EVM. -/

section

open StateDb

variable {env : Env} {db done : StateDb} {addr : Address} {x : Slots}

/-- The storage that a StateDB holds for an account. -/
def TxStorage.ofSlots (x : Slots) : TxStorage Hash Hash := ⟨x.committed, x.dirty.lookup⟩

theorem TxStorage.ofSlots_write {key value : Hash} (changed : x.state key ≠ value) :
    ofSlots (x.write key value (x.committed key)) = (ofSlots x).setState key value := by
  have differs : (ofSlots x).getState key ≠ value := changed
  rw [TxStorage.setState, if_neg differs]
  refine congrArg (TxStorage.mk x.committed) (funext fun slot => ?_)
  unfold Slots.write
  by_cases here : slot = key
  · subst here
    rw [Function.update_self]
    split <;> simp_all [ofSlots]
  · rw [Function.update_of_ne here]
    split
    · exact AList.lookup_erase_ne here
    · exact AList.lookup_insert_ne here

/-- `SetState`. -/
theorem TxStorage.setState_ofSlots (addressed : Addressed db) (key value : Hash) :
    (slots env (StateDb.setState env db addr key value).2 addr).map ofSlots =
      some ((ofSlots ((slots env db addr).getD (freshSlots db.ctx.store addr))).setState key value) := by
  obtain ⟨v, x, loading, held, outcome⟩ := setState_slots env addressed addr key value
  have before : (slots env db addr).getD (freshSlots db.ctx.store addr) = x := by
    rcases loading.slots addr with same | ⟨absent, fresh⟩
    · rw [← same, held]
      rfl
    · rw [absent]
      exact Option.some.inj (fresh.symm.trans held)
  rw [before]
  rcases outcome with ⟨same, quiet⟩ | ⟨differs, -, -, -, written⟩
  · have kept : (ofSlots x).getState key = value := same
    rw [TxStorage.setState, if_pos kept]
    rcases quiet.slots addr with same | ⟨absent, -⟩
    · rw [same, held]
      rfl
    · rw [held] at absent
      cases absent
  · rw [written, Function.update_self, ← ofSlots_write differs]
    rfl

/-- `CommitWithCacheCtx`, for one object. -/
theorem TxStorage.flush_ofSlots {ctx written : Context} {base : VmStore} {obj changed : StateObject}
    (plain : obj.overrideStorage = none) (alive : obj.selfDestructed = false)
    (success : commitObject env true ctx obj = .ok (written, changed)) :
    ofSlots (slotsOf base changed) = (ofSlots (slotsOf base obj)).flushed ∧
      Keeper.getState written.store obj.address =
      (ofSlots (slotsOf base obj)).commit (Keeper.getState ctx.store obj.address) := by
  refine ⟨?_, funext fun slot => commitObject_own success alive slot⟩
  rcases commitObject_keep success with ⟨destructed, -⟩ | ⟨origins, rfl, lookup⟩
  · rw [alive] at destructed
    cases destructed
  · exact congrArg (TxStorage.mk · obj.dirtyStorage.lookup) (funext (committedOf_flushed base lookup plain))

/-- `Commit`. -/
theorem TxStorage.commit_ofSlots (addressed : Addressed db) (booked : Booked env db)
    (held : slots env db addr = some x) (success : StateDb.commit env db = .ok (done, none)) :
    Keeper.getState done.ctx.store addr = (ofSlots x).commit (Keeper.getState (cacheCopies db).current addr) := by
  funext key
  rw [commit_getState addressed success fun _ => booked.alive, booked.dirty_eq held]
  rfl

end

section

variable {κ ν : Type} {owned : κ → Prop}

/-- The contract keeps its balances in slots of its own. -/
def HeldIn (owned : κ → Prop) (balance : (κ → ν) → Address → ℕ) : Prop :=
  ∀ evm evm', (∀ slot, owned slot → evm' slot = evm slot) → balance evm' = balance evm

/-- The documented effect of the ICS-20 application: coins of this chain are moved between accounts,
and only vouchers are minted and burnt. -/
def Ics20.Documented (ics20 : Ics20) : Prop :=
  ∀ denom bank bank', hasTextPrefix denom "ibc/" = false → ics20 bank = .ok bank' → Bank.Issues denom 0 bank bank'

/-- The transaction itself does not write the contract's slots. -/
def TxStep.Apart (owned : κ → Prop) : TxStep κ ν → Prop
  | .setState slot _ => ¬ owned slot
  | .ics20Transfer ics20 _ => ∀ msg, (ics20 msg).Documented

def TxStorage.Clear (owned : κ → Prop) (own : TxStorage κ ν) : Prop := ∀ slot, owned slot → own.dirty slot = none

theorem TxStorage.Clear.kept {balance : (κ → ν) → Address → ℕ} {own : TxStorage κ ν} (clear : own.Clear owned)
    (held : HeldIn owned balance) (stored : κ → ν) : balance (own.commit stored) = balance stored := by
  refine held stored _ fun slot here => ?_
  rw [TxStorage.commit, clear slot here, Option.getD_none]

theorem TxStorage.Clear.setState [DecidableEq κ] [DecidableEq ν] {own : TxStorage κ ν} (clear : own.Clear owned)
    {slot : κ} (apart : ¬ owned slot) (value : ν) : (own.setState slot value).Clear owned := by
  intro other here
  unfold TxStorage.setState
  split
  · exact clear other here
  · have elsewhere : other ≠ slot := fun same => apart (same ▸ here)
    exact (Function.update_of_ne elsewhere _ _).trans (clear other here)

end

namespace Escrow

section

variable {e : Escrow σ}

/-- The pairs of external contracts name the contract and the denomination together. -/
def Matched (e : Escrow σ) (pairs : Bytes → Option TokenPair) : Prop :=
  ∀ id pair, pairs id = some pair → pair.isNativeERC20 = true →
    (pair.denom = e.denom ↔ pair.getERC20Contract = e.contract)

/-- A new pair of the module's own, or the old one with another switch. -/
theorem Matched.update {pairs : Bytes → Option TokenPair} (matched : e.Matched pairs) (id : Bytes)
    {pair : TokenPair} (agrees : pair.isNativeERC20 = true →
      (pair.denom = e.denom ↔ pair.getERC20Contract = e.contract)) :
    e.Matched (Function.update pairs id (some pair)) := by
  intro read found stored external
  rcases update_some stored with ⟨-, rfl⟩ | ⟨-, kept⟩
  · exact agrees external
  · exact matched read found kept external

theorem Matched.delete {pairs : Bytes → Option TokenPair} (matched : e.Matched pairs) (id : Bytes) :
    e.Matched (Function.update pairs id none) := by
  intro read found stored external
  exact matched read found (update_none stored).2 external

/-- What the invariant of a run says of a state. -/
structure Standing (e : Escrow σ) (s : State σ) : Prop where
  matched : e.Matched s.kv.tokenPairs
  solvent : ∀ account, e.env.vm.bank.moduleAddress moduleName = some account →
    0 ≤ Bank.spendableAmount s.bank account e.denom

/-- What a step does to a state in which it holds. -/
structure Preserved (e : Escrow σ) (s t : State σ) : Prop where
  keeps : e.Keeps s.bank s.evm t.bank t.evm
  matched : e.Matched t.kv.tokenPairs

theorem Preserved.standing (preserved : e.Preserved s t) (standing : e.Standing s) : e.Standing t :=
  ⟨preserved.matched, fun account found => preserved.keeps.solvent account (standing.solvent account found)⟩

theorem Preserved.trans (first : e.Preserved s t) (second : e.Preserved t u) : e.Preserved s u :=
  ⟨first.keeps.trans second.keeps, second.matched⟩

section

variable (standing : e.Standing s)

include standing

theorem Standing.refl : e.Preserved s s := ⟨Keeps.refl .., standing.matched⟩

/-- Only the bank changes, and issues none of the coins. -/
theorem Standing.banked {bank : BankState} (issues : Bank.Issues e.denom 0 s.bank bank) :
    e.Preserved s { s with bank := bank } :=
  ⟨keeps_of_issues issues (.same e.quiet (add_zero _).symm), standing.matched⟩

/-- The balances are the same in another state of the EVM. -/
theorem Standing.rebased {evm : σ} (same : e.balance evm = e.balance s.evm) : e.Preserved s { s with evm := evm } :=
  ⟨keeps_of_issues (Bank.Issues.refl _ _) (.same e.quiet (by rw [held, held, same, add_zero])), standing.matched⟩

/-- Nothing that matters changes. -/
theorem Standing.unmoved (bank : t.bank = s.bank) (evm : t.evm = s.evm)
    (pairs : t.kv.tokenPairs = s.kv.tokenPairs) : e.Preserved s t := by
  refine ⟨?_, ?_⟩
  · rw [bank, evm]
    exact Keeps.refl ..
  · rw [pairs]
    exact standing.matched

/-! Messages. -/

theorem Standing.deletePair (env : KeeperEnv σ) (pair : TokenPair) :
    e.Preserved s { s with kv := s.kv.deleteTokenPair env pair } :=
  ⟨Keeps.refl .., standing.matched.delete (pair.getID env)⟩

theorem Standing.toggleConversion {authority token : String}
    (success : s.toggleConversion e.env.toKeeperEnv authority token = .ok t) : e.Preserved s t := by
  obtain ⟨pair, toggled, bank, evm⟩ := State.toggleConversion_ok success
  obtain ⟨id, before, -, stored, toggledKv⟩ := KVStore.toggleConversion_ok toggled
  refine ⟨?_, ?_⟩
  · rw [bank, evm]
    exact Keeps.refl ..
  · rw [toggledKv]
    exact standing.matched.update _ (standing.matched id before stored)

end

/-- What a run assumes of the chain around the module: a standard contract that nobody else's call
takes tokens through, and a denomination of this chain. -/
structure Surroundings (e : Escrow σ) : Prop where
  standard : e.Standard
  others : e.OthersKeep
  native : hasTextPrefix e.denom "ibc/" = false

section

variable (around : e.Surroundings)

include around

theorem Standing.convertERC20 (standing : e.Standing s) {msg : MsgConvertERC20}
    (success : s.convertERC20 e.env.toKeeperEnv msg = .ok t) : e.Preserved s t := by
  obtain ⟨receiver, -, success⟩ := bind_ok success
  obtain ⟨id, pair, -, stored, external, rfl | converted⟩ := State.conversion_ok success
  · exact standing.deletePair e.env.toKeeperEnv pair
  · have named := standing.matched id pair stored external
    refine ⟨around.standard.convertIntoCoins_keeps around.others named converted, ?_⟩
    rw [(State.convertIntoCoins_same converted).kv]
    exact standing.matched

/-- A conversion of coins on the stores, also where it fails. -/
theorem Standing.convertStore (standing : e.Standing s) {pair : TokenPair} {id : Bytes} {amount : Option ℤ}
    {receiver : Address} {sender : AccAddress} {after : Store σ} {err : Option GoError}
    (stored : s.kv.tokenPairs id = some pair) (external : pair.isNativeERC20 = true)
    (returned : convertCoinNativeERC20 e.env.toErc20Env pair amount receiver sender s.store = .ok (after, err)) :
    e.Preserved s (s.withStore after) := by
  have framed := convertCoinNativeERC20_frame returned
  have named := standing.matched id pair stored external
  refine ⟨around.standard.convertCoin_keeps around.others named standing.solvent returned, ?_⟩
  unfold Store.Framed at framed
  rw [framed]
  exact standing.matched

theorem Standing.convertCoin (standing : e.Standing s) {msg : MsgConvertCoin}
    (success : s.convertCoin e.env.toKeeperEnv msg = .ok t) : e.Preserved s t := by
  obtain ⟨sender, -, success⟩ := bind_ok success
  obtain ⟨id, pair, -, stored, external, rfl | converted⟩ := State.conversion_ok success
  · exact standing.deletePair e.env.toKeeperEnv pair
  · unfold State.convertCoinNative at converted
    split at converted
    · cases converted
    · cases converted
    · rename_i after returned
      cases converted
      exact standing.convertStore around stored external returned

/-! Packets. -/

section

variable (standing : e.Standing s)

include standing

theorem Standing.convertRefund (data : FungibleTokenPacketData) :
    Returns (fun after => e.Preserved s (s.withStore after.1))
      (convertCoinToERC20FromPacket e.env.toErc20Env data s.store) := by
  have same : e.Preserved s (s.withStore s.store) := standing.refl
  unfold convertCoinToERC20FromPacket
  rcases e.env.addrCodec data.sender with _ | sender
  · exact Returns.ok same
  dsimp only
  split
  · exact Returns.ok same
  rename_i pair found
  obtain ⟨id, -, stored⟩ := Option.bind_eq_some_iff.mp found
  refine Returns.ite (Returns.ok same) ?_
  split
  · rename_i external
    refine Returns.ite (Returns.ok same) (Returns.ite (Returns.ok same) ?_)
    refine Returns.bind (fun _ ran => standing.convertStore around stored external ran) ?_
    rintro ⟨converted, _ | reason⟩ preserved
    · exact Returns.ok preserved
    · exact Returns.ok ⟨preserved.keeps, preserved.matched⟩
  · exact Returns.ok same

/-- The refund of a packet, with what the keeper does after it. -/
theorem Standing.refundPacket {ics20 : Ics20} {packet : Packet}
    {convert : FungibleTokenPacketData → Store σ → Except Erc20Panic (Store σ × Option GoError)}
    (documented : ics20.Documented) (converts : ∀ data {s : State σ} {after : Store σ}, e.Standing s →
      convert data s.store = .ok (after, none) → e.Preserved s (s.withStore after))
    (success : s.refundPacket ics20 convert packet = .ok t) : e.Preserved s t := by
  obtain ⟨data, -, success⟩ := bind_ok success
  obtain ⟨bank, refunded, success⟩ := bind_ok success
  have paid : e.Preserved s { s with bank := bank } :=
    standing.banked (documented e.denom s.bank bank around.native (mapError_ok refunded))
  split at success
  · cases success
  · cases success
  · rename_i after converted
    cases success
    have converted := converts data (paid.standing standing) converted
    exact paid.trans ⟨converted.keeps, converted.matched⟩

theorem Standing.convertAcknowledged {data : FungibleTokenPacketData} {ack : Acknowledgement}
    {after : Store σ} {err : Option GoError}
    (returned : onAcknowledgementPacket e.env.toErc20Env data ack s.store = .ok (after, err)) :
    e.Preserved s (s.withStore after) := by
  cases ack with
  | result bytes =>
    cases returned
    exact standing.refl
  | error text => exact standing.convertRefund around data _ returned

theorem Standing.registerExtension {voucher : Denom} {pair : TokenPair}
    (success : s.registerERC20Extension e.env.toKeeperEnv voucher = .ok (t, pair)) : e.Preserved s t := by
  obtain ⟨addr, created, -, rfl, uncoded, -, -, rfl, enabling⟩ := State.registerERC20Extension_ok success
  have apart : (newTokenPair e.env.toKeeperEnv addr voucher .module).getERC20Contract ≠ e.contract := by
    intro same
    rw [same, around.standard.coded] at uncoded
    cases uncoded
  obtain ⟨coded, registered, done⟩ := bind_ok enabling
  cases done
  have written : coded.bank = s.bank ∧ e.balance coded.evm = e.balance s.evm ∧
      coded.kv = s.kv.withPair e.env.toKeeperEnv (newTokenPair e.env.toKeeperEnv addr voucher .module) := by
    split at registered
    · cases registered
      exact ⟨rfl, rfl, rfl⟩
    · obtain ⟨evm, set, rfl⟩ := map_ok registered
      refine ⟨rfl, ?_, rfl⟩
      change e.balance evm = e.balance s.evm
      rw [around.standard.setAccount _ _ _ _ apart set]
      dsimp only
      split
      · exact around.standard.setCode _ _ _
      · rfl
  obtain ⟨bank, evm, pairs⟩ := written
  refine ⟨?_, ?_⟩
  · dsimp only
    rw [bank]
    refine keeps_of_issues (Bank.Issues.refl _ _) (.same e.quiet ?_)
    rw [held, held, evm, add_zero]
  · change e.Matched coded.kv.tokenPairs
    rw [pairs, KVStore.withPair_tokenPairs]
    exact standing.matched.update _ (fun external => by cases external)

theorem Standing.convertReceived {pair : TokenPair} {received : Denom} {amount : Option ℤ}
    {recipient : AccAddress} {ack ack' : Acknowledgement}
    (found : s.kv.getTokenPair (s.kv.getTokenPairID received) = some pair) (external : pair.isNativeERC20 = true)
    (success : s.convertReceived e.env pair received amount recipient ack = .ok (t, ack')) : e.Preserved s t := by
  unfold State.convertReceived at success
  split at success
  · cases success
    exact standing.refl
  · split at success
    · cases success
      exact standing.unmoved rfl rfl rfl
    · rename_i minted minting
      obtain ⟨id, lookup, stored, -⟩ := State.mintingEnabled_ok minting
      -- the pair is looked up twice, under the same denomination
      rw [lookup] at found
      have same : minted = pair := Option.some.inj (stored.symm.trans found)
      rw [← same] at external
      split at success
      · cases success
      · rename_i after err converted
        cases success
        exact standing.convertStore around stored external converted
      · rename_i after converted
        cases success
        exact standing.convertStore around stored external converted

theorem Standing.onRecvPacket (bondDenom : Except GoError Denom) (packet : Packet) (ack : Acknowledgement) :
    Returns (fun after => e.Preserved s after.1) (s.onRecvPacket e.env bondDenom packet ack) := by
  have same : e.Preserved s s := standing.refl
  unfold State.onRecvPacket
  refine Returns.ite (Returns.ok same) ?_
  rcases packet.data with _ | data
  · exact Returns.ok same
  refine Returns.ite (Returns.ok same) ?_
  rcases bondDenom with _ | bondDenom
  · exact Returns.ok same
  refine Returns.ite (Returns.ok same) ?_
  rcases e.env.addrCodec data.receiver with _ | recipient
  · exact Returns.ok same
  refine Returns.ite (Returns.ok same) ?_
  dsimp only
  split
  · refine Returns.ite (Returns.ok same) ?_
    split
    · exact Returns.ok same
    · rename_i registered pair registering
      have preserved : e.Preserved s registered := standing.registerExtension around registering
      exact Returns.ok ⟨preserved.keeps, preserved.matched⟩
  · rename_i pair found
    split
    · rename_i external
      intro after success
      exact standing.convertReceived around found external success
    · exact Returns.ok same

/-- A packet whose acknowledgement is an error leaves nothing behind. -/
theorem Standing.recvPacket {ics20 : Ics20} {bondDenom : Except GoError Denom} {packet : Packet} {ack : Bytes}
    (documented : ics20.Documented) (success : s.recvPacket e.env ics20 bondDenom packet ack = .ok t) :
    e.Preserved s t := by
  unfold State.recvPacket at success
  split at success
  · cases success
  · rename_i bank received
    have paid : e.Preserved s { s with bank := bank } :=
      standing.banked (documented e.denom s.bank bank around.native received)
    obtain ⟨⟨converted, answer⟩, converting, success⟩ := bind_ok success
    dsimp only at success
    split at success
    · cases success
      exact paid.trans ((paid.standing standing).onRecvPacket around _ _ _ _ converting)
    · cases success
      exact standing.refl

end

section

variable {ics20 : MsgTransfer → Ics20} (standing : e.Standing s) (documented : ∀ msg, (ics20 msg).Documented)
  (msg : MsgTransfer)

include standing documented

theorem Standing.sendTransfer : Returns (e.Preserved s) (s.sendTransfer ics20 msg) := by
  intro t success
  obtain ⟨bank, sent, rfl⟩ := map_ok success
  exact standing.banked (documented msg e.denom s.bank bank around.native (mapError_ok sent))

theorem Standing.transfer : Returns (e.Preserved s) (s.transfer e.env ics20 msg) := by
  have sent := standing.sendTransfer around documented
  unfold State.transfer
  dsimp only
  split
  · exact sent _
  refine Returns.ite (sent _) (Returns.after fun sender => Returns.ite (sent _) ?_)
  refine Returns.ite (sent _) (Returns.ite (sent _) ?_)
  refine Returns.bind (fun _ ran => standing.convertERC20 around ran) ?_
  intro converted preserved t success
  exact preserved.trans ((preserved.standing standing).sendTransfer around documented _ t success)

end

theorem Standing.tokenTransfer (standing : e.Standing s) {caller receiver : Address} (amount : ℕ)
    (signed : caller ≠ moduleAddress e.env.toErc20Env)
    (outside : e.quiet → receiver ≠ moduleAddress e.env.toErc20Env) : e.Preserved s
      { s with evm := (e.env.contracts.transfer s.evm e.contract caller receiver amount).2 } := by
  refine ⟨keeps_of_issues (Bank.Issues.refl _ _) ?_, standing.matched⟩
  rw [add_zero]
  rcases around.standard.transfers s.evm caller receiver amount (Int.natCast_nonneg _) with ⟨moved, -⟩ | same
  · have received := moved (moduleAddress e.env.toErc20Env)
    rw [if_neg signed.symm, sub_zero] at received
    unfold held
    rw [received]
    refine ⟨?_, ?_⟩
    · split_ifs <;> omega
    · intro still
      rw [if_neg (outside still).symm, add_zero]
  · unfold held
    rw [same]
    exact .same e.quiet rfl

end

end

section

variable {κ ν : Type} [DecidableEq κ] [DecidableEq ν] {e : Escrow (κ → ν)} {owned : κ → Prop}
  {s t : State (κ → ν)}

section

variable (around : e.Surroundings) (standing : e.Standing s) (held : HeldIn owned e.balance)

include around standing held

theorem Standing.txStep {step : TxStep κ ν} {tx after : OpenTx κ ν} (apart : step.Apart owned)
    (kept : tx.own.Clear owned ∧ e.Preserved s tx.cached) (success : step.run e.env tx = .ok after) :
    after.own.Clear owned ∧ e.Preserved s after.cached := by
  obtain ⟨clear, kept⟩ := kept
  cases step with
  | setState slot value =>
    cases success
    exact ⟨clear.setState apart value, kept⟩
  | ics20Transfer ics20 msg =>
    simp only [TxStep.run] at success
    split at success
    · rename_i cached sent
      cases success
      have begun := kept.standing standing
      have flushed : e.Preserved tx.cached _ := begun.rebased (clear.kept held tx.cached.evm)
      exact ⟨clear, kept.trans (flushed.trans ((flushed.standing begun).transfer around apart msg _ sent))⟩
    · cases success
      exact ⟨clear, kept⟩
    · cases success

theorem Standing.transaction {steps : List (TxStep κ ν)} (apart : ∀ step ∈ steps, step.Apart owned)
    (success : s.transaction e.env steps = .ok t) : e.Preserved s t := by
  obtain ⟨tx, ran, success⟩ := bind_ok success
  cases success
  obtain ⟨clear, kept⟩ := foldlM_invariant (fun tx => tx.own.Clear owned ∧ e.Preserved s tx.cached)
    (fun step member tx after kept ran => standing.txStep around held (apart step member) kept ran)
    ⟨fun _ _ => rfl, standing.refl⟩ ran
  exact kept.trans ((kept.standing standing).rebased (clear.kept held tx.cached.evm))

end

/-! Runs. -/

/-- What can happen to the coins and tokens of a pair. -/
inductive Action (κ ν : Type) where
  | convertERC20 (msg : MsgConvertERC20)
  | convertCoin (msg : MsgConvertCoin)
  | recvPacket (ics20 : Ics20) (bondDenom : Except GoError Denom) (packet : Packet) (ack : Bytes)
  | acknowledgePacket (ics20 : Ics20) (packet : Packet) (ack : Acknowledgement)
  | timeoutPacket (ics20 : Ics20) (packet : Packet)
  | transfer (ics20 : MsgTransfer → Ics20) (msg : MsgTransfer)
  | tokenTransfer (caller receiver : Address) (amount : ℕ)
  /-- A transaction of the EVM that calls the ICS-20 precompile. -/
  | transaction (steps : List (TxStep κ ν))
  | bankSend (fromAddr toAddr : AccAddress) (amt : Coins)
  | toggleConversion (authority token : String)
  /-- Anything else on the chain. -/
  | elsewhere (t : State (κ → ν))

def Action.run (e : Escrow (κ → ν)) (s : State (κ → ν)) : Action κ ν → Except Halt (State (κ → ν))
  | .convertERC20 msg => s.convertERC20 e.env.toKeeperEnv msg
  | .convertCoin msg => s.convertCoin e.env.toKeeperEnv msg
  | .recvPacket ics20 bondDenom packet ack => s.recvPacket e.env ics20 bondDenom packet ack
  | .acknowledgePacket ics20 packet ack => s.acknowledgePacket e.env ics20 packet ack
  | .timeoutPacket ics20 packet => s.timeoutPacket e.env ics20 packet
  | .transfer ics20 msg => s.transfer e.env ics20 msg
  | .tokenTransfer caller receiver amount =>
    .ok { s with evm := (e.env.contracts.transfer s.evm e.contract caller receiver amount).2 }
  | .transaction steps => s.transaction e.env steps
  | .bankSend fromAddr toAddr amt =>
    ((Bank.sendCoins s.bank fromAddr toAddr amt).mapError haltOfFault).map fun bank => { s with bank := bank }
  | .toggleConversion authority token => (s.toggleConversion e.env.toKeeperEnv authority token).mapError .error
  | .elsewhere t => .ok t

/-- A message that fails is rolled back. -/
def Action.apply (e : Escrow (κ → ν)) (s : State (κ → ν)) (action : Action κ ν) : State (κ → ν) :=
  match action.run e s with
  | .ok t => t
  | .error _ => s

/-- The module account signs no transfer of its own, the ICS-20 application does what it is
documented to, no transaction that calls it writes the contract's slots itself, and what else happens
takes no tokens from the module account and issues none of the coins. Where it is quiet, no tokens
are given to the module account either. -/
def Action.Allowed (e : Escrow (κ → ν)) (owned : κ → Prop) (s : State (κ → ν)) : Action κ ν → Prop
  | .recvPacket ics20 _ _ _ => ics20.Documented
  | .acknowledgePacket ics20 _ _ => ics20.Documented
  | .timeoutPacket ics20 _ => ics20.Documented
  | .transfer ics20 _ => ∀ msg, (ics20 msg).Documented
  | .tokenTransfer caller receiver _ =>
    caller ≠ moduleAddress e.env.toErc20Env ∧ (e.quiet → receiver ≠ moduleAddress e.env.toErc20Env)
  | .transaction steps => ∀ step ∈ steps, step.Apart owned
  | .elsewhere t => t.kv = s.kv ∧ Bank.Issues e.denom 0 s.bank t.bank ∧ Grows e.quiet (e.held s.evm) (e.held t.evm)
  | _ => True

/-- The states reached from the first one by allowed actions. -/
inductive Run (e : Escrow (κ → ν)) (owned : κ → Prop) (start : State (κ → ν)) : State (κ → ν) → Prop
  | start : Run e owned start start
  | step (s : State (κ → ν)) (action : Action κ ν) (reached : Run e owned start s)
      (allowed : action.Allowed e owned s) : Run e owned start (action.apply e s)

section

variable (around : e.Surroundings)

include around

theorem Standing.run (standing : e.Standing s) (held : HeldIn owned e.balance) {action : Action κ ν}
    (allowed : action.Allowed e owned s) (success : action.run e s = .ok t) : e.Preserved s t := by
  cases action with
  | convertERC20 msg => exact standing.convertERC20 around success
  | convertCoin msg => exact standing.convertCoin around success
  | recvPacket ics20 bondDenom packet ack => exact standing.recvPacket around allowed success
  | acknowledgePacket ics20 packet ack =>
    refine standing.refundPacket around allowed ?_ success
    intro data s after standing returned
    exact standing.convertAcknowledged around returned
  | timeoutPacket ics20 packet =>
    refine standing.refundPacket around allowed ?_ success
    intro data s after standing returned
    exact standing.convertRefund around data _ returned
  | transfer ics20 msg => exact standing.transfer around allowed msg t success
  | tokenTransfer caller receiver amount =>
    cases success
    exact standing.tokenTransfer around amount allowed.1 allowed.2
  | transaction steps => exact standing.transaction around held allowed success
  | bankSend fromAddr toAddr amt =>
    obtain ⟨bank, sent, rfl⟩ := map_ok success
    exact standing.banked (Bank.sendCoins_issues (mapError_ok sent))
  | toggleConversion authority token => exact standing.toggleConversion (mapError_ok success)
  | elsewhere t =>
    cases success
    obtain ⟨kv, issues, tokens⟩ := allowed
    refine ⟨keeps_of_issues issues ?_, ?_⟩
    · rw [add_zero]
      exact tokens
    · rw [kv]
      exact standing.matched

theorem Run.preserved {start : State (κ → ν)} (standing : e.Standing start) (held : HeldIn owned e.balance)
    (run : e.Run owned start s) : e.Preserved start s := by
  induction run with
  | start => exact standing.refl
  | step s action reached allowed ih =>
    unfold Action.apply
    split
    · rename_i t success
      exact ih.trans ((ih.standing standing).run around held allowed success)
    · exact ih

end

end

end Escrow

def depositPair : TokenPair :=
  ⟨"0x0000000000000000000000000000000000000099", "erc20:0x0000000000000000000000000000000000000099", true, .external⟩

/-- The balances after a transfer that the sender can pay and the receiver can hold. -/
def tokensMoved (held : Address → Fin 256) (caller receiver : Address) (amount : ℕ) (account : Address) : Fin 256 :=
  Fin.ofNat 256 ((held account).val - (if account = caller then amount else 0) +
    if account = receiver then amount else 0)

/-- It returns no data, and logs the event. -/
def depositContracts : Contracts (Address → Fin 256) where
  transfer held contract caller receiver amount :=
    if contract = depositPair.getERC20Contract ∧ amount.toNat ≤ (held caller).val ∧
        (held receiver).val + amount.toNat < 256 then
      (.ok ⟨[], [⟨contract, [bytesToHash "Transfer(address,address,uint256)".toUTF8.toList]⟩]⟩,
        tokensMoved held caller receiver amount.toNat)
    else (.error (.other, "execution reverted"), held)
  balanceOf held _ account := .ok (word (held account).val)

def depositEnv : IbcEnv (Address → Fin 256) where
  vm := ⟨erc20Config, bytesToHash⟩
  contracts := depositContracts
  addrCodec _ := .ok [3]
  newIntFromString _ := none
  extractIBCDenom denom := denom
  sum := id
  authority := "gov"
  accAddressFromBech32 _ := .ok [3]
  getAccount _ _ := some ⟨0, 0, bytesToHash [1]⟩
  setAccount held _ _ := .ok held
  getCode _ _ := []
  setCode held _ _ := held
  erc20Bytecode := [96]
  queryERC20 _ _ := .ok ⟨"Token", "TKN", 18⟩
  validateMetadata _ := .ok ()
  extractDenomFromPath base := ⟨base, []⟩
  ibcDenom denom := denom.base
  bech32 _ := "cosmos1"
  errorAcknowledgement err := err.2

def depositStart : State (Address → Fin 256) where
  kv := { KVStore.empty.withPair depositEnv.toKeeperEnv depositPair with enableErc20 := true }
  moduleAccounts _ := false
  denomMetadata _ := none
  sendEnabled _ := true
  bank := Precisebank.emptyBank
  evm := fun account => if account = bytesToAddress [3] then 5 else 0
  events := []

def depositEscrow : Escrow (Address → Fin 256) :=
  ⟨depositEnv, depositPair.getERC20Contract, depositPair.denom, fun held account => (held account).val, True⟩

def deposited : State (Address → Fin 256) :=
  Escrow.Action.apply depositEscrow depositStart
    (.convertERC20 ⟨depositPair.erc20Address, 3, "cosmos1", "0x0000000000000000000000000000000000000003"⟩)

end OgEvm.Erc20
