import OgEvm.NativeSends
import OgEvm.Precompile

/- Transactions made of EVM value transfers and of precompile calls whose native actions
send the EVM coin. -/
namespace OgEvm.StateDb

open Precisebank

/-- A native action that runs sends one after the other. -/
def sendsAction (env : Env) (sends : List NativeSend) : NativeAction := fun ctx =>
  match runSends env.bank ctx.bank sends with
  | .ok bank => .ok (ctx.withBank bank, none)
  | .error (.panic cause) => .error (.keeper cause)
  | .error (.error code text) => .ok (ctx, some (code, text))

/-- `CanTransfer` and `Transfer` of the EVM. -/
def transfer (env : Env) (s : StateDb) (sender recipient : Address) (amount : BitVec 256) :
    StateDb × Option GoError :=
  let (balance, s) := getBalance env s sender
  if balance.toNat < amount.toNat then (s, some (.other, "insufficient balance for transfer"))
  else (addBalance env (subBalance env s sender amount) recipient amount, none)

inductive CoinStep where
  | transfer (sender recipient : Address) (amount : BitVec 256)
  | call (sends : List NativeSend)

namespace CoinStep

def run (env : Env) (s : StateDb) : CoinStep → Except DbPanic (StateDb × Option GoError)
  | .transfer sender recipient amount => .ok (StateDb.transfer env s sender recipient amount)
  | .call sends => runNativeAction env ⟨sendsAction env sends, true⟩ s

/-- What a step is to change an account by. -/
def net (cfg : Config) : CoinStep → AccAddress → ℤ
  | .transfer sender recipient amount => fun account =>
    booked recipient.toList amount.toNat account - booked sender.toList amount.toNat account
  | .call sends => sendsNet cfg sends

def evmParties : CoinStep → List Address
  | .transfer sender recipient _ => [sender, recipient]
  | .call _ => []

def nativeParties : CoinStep → List AccAddress
  | .transfer _ _ _ => []
  | .call sends => sendsParties sends

end CoinStep

/-- The steps of a transaction, up to the first that fails. -/
def runCoinSteps (env : Env) : List CoinStep → StateDb → Except DbPanic (StateDb × Option GoError)
  | [], s => .ok (s, none)
  | step :: rest, s => do
    match ← step.run env s with
    | (s, some err) => pure (s, some err)
    | (s, none) => runCoinSteps env rest s

def stepsNet (cfg : Config) (steps : List CoinStep) (account : AccAddress) : ℤ :=
  (steps.map fun step => step.net cfg account).sum

def nativeParties (steps : List CoinStep) : List AccAddress := steps.flatMap CoinStep.nativeParties

def evmParties (steps : List CoinStep) : List Address := steps.flatMap CoinStep.evmParties

/-- The accounts named by the steps do not meet at one address: the reserve is named by
none, an account named by a send is blocked or has 20 bytes, and a blocked account is
named by transfers or by sends but not by both. -/
structure Separate (env : Env) (steps : List CoinStep) : Prop where
  reserve_sends : env.bank.reserve ∉ nativeParties steps
  reserve_transfers : ∀ addr ∈ evmParties steps, addr.toList ≠ env.bank.reserve
  sized : ∀ account ∈ nativeParties steps, env.bank.blockedAddr account = false → account.length = 20
  blocked : ∀ addr ∈ evmParties steps, env.bank.blockedAddr addr.toList = true →
    addr.toList ∉ nativeParties steps

end OgEvm.StateDb
