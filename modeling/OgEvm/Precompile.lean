import OgEvm.StateDbCommit

/- A stateful precompile call: the pending state is flushed into the cache context,
the native action runs on it, and the balance handler replays the bank events of
the action into the StateDB. -/
namespace OgEvm

namespace BalanceHandler

/-- Addresses print as bech32 strings that parse back, except the empty one. -/
def parseAddress (addr : AccAddress) : Except String AccAddress :=
  if addr = [] then .error "invalid address \"\": empty address string is not allowed" else .ok addr

def uint256FromBigInt (i : ℤ) : Except String (BitVec 256) :=
  if i < 0 then
    .error ("trying to convert negative *big.Int (" ++ toString i ++ ") to uint256.Int")
  else if 2 ^ 256 ≤ i then
    .error ("overflow trying to convert *big.Int (" ++ toString i ++ ") to uint256.Int (" ++
      toString (BitVec.ofInt 256 i).toNat ++ ")")
  else .ok (BitVec.ofInt 256 i)

def parseAmount (env : Env) (amount : Coins) : Except String (BitVec 256) :=
  (uint256FromBigInt (Coins.amountOf amount env.bank.denom * env.bank.conversionFactor)).mapError
    fun text => "failed to convert coin amount to Uint256: " ++ text

/-- `fmt.Errorf("failed to parse ... from event %q: %w")`. -/
def failedToParse (what event text : String) : String :=
  "failed to parse " ++ what ++ " from event \"" ++ event ++ "\": " ++ text

/-- An event that names a blocked address is bypassed before its amount is read. -/
def unlessBlocked (env : Env) (s : StateDb) (what event : String) (named : AccAddress)
    (change : AccAddress → Except String StateDb) : Except String StateDb := do
  let addr ← (parseAddress named).mapError (failedToParse what event)
  if env.bank.blockedAddr addr then pure s else change addr

def afterEvent (env : Env) (s : StateDb) : Event → Except String StateDb
  | .coinSpent spender coins =>
    unlessBlocked env s "spender address" "coin_spent" spender fun spenderAddr => do
      let amount ← (parseAmount env coins).mapError (failedToParse "amount" "coin_spent")
      pure (StateDb.subBalance env s (bytesToAddress spenderAddr) amount)
  | .coinReceived receiver coins =>
    unlessBlocked env s "receiver address" "coin_received" receiver fun receiverAddr => do
      let amount ← (parseAmount env coins).mapError (failedToParse "amount" "coin_received")
      pure (StateDb.addBalance env s (bytesToAddress receiverAddr) amount)
  | .fractionalBalanceChange address delta =>
    unlessBlocked env s "address" "fractional_balance_change" address fun addr => do
      let deltaAbs ← (uint256FromBigInt |delta|).mapError
        fun text => "failed to convert delta to Uint256: " ++ text
      pure (if 0 < delta then StateDb.addBalance env s (bytesToAddress addr) deltaAbs
        else if delta < 0 then StateDb.subBalance env s (bytesToAddress addr) deltaAbs
        else s)
  | .other _ => .ok s

/-- The loop of `AfterBalanceChange`; an error returns with the changes made so far. -/
def afterEvents (env : Env) : List Event → StateDb → StateDb × Option GoError
  | [], s => (s, none)
  | event :: rest, s =>
    match afterEvent env s event with
    | .error text => (s, some (.other, text))
    | .ok s => afterEvents env rest s

/-- `AfterBalanceChange` for the events the context has collected since the call of
`BeforeBalanceChange`. -/
def afterBalanceChange (env : Env) (s : StateDb) (prevEventsLen : ℕ) (ctx : Context) :
    StateDb × Option GoError :=
  afterEvents env (ctx.events.drop prevEventsLen) s

end BalanceHandler

/-- A native action changes the context it is given and may fail after that; running
out of gas is such a failure. -/
abbrev NativeAction : Type := Context → Except DbPanic (Context × Option GoError)

/-- A stateful precompile: its action and whether it has a balance handler. -/
structure Precompile where
  action : NativeAction
  balanceHandler : Bool

namespace StateDb

variable (env : Env) (s : StateDb)

/-- The context the native action is given, after the flush. -/
def cacheContext : Context :=
  match s.cacheCtx with
  | none => s.ctx
  | some cache => cache.context

def withCacheContext (ctx : Context) : StateDb :=
  { s with cacheCtx := s.cacheCtx.map fun cache => cache.withContext ctx }

/-- What `runNativeAction` does up to the action: snapshot, journal entry and flush. -/
def enterPrecompile : Except DbPanic (StateDb × Option GoError) := do
  let (cache, s) := getCacheContext s
  let (snapshot, s) ← multiStoreSnapshot s
  match addPrecompileFn s snapshot cache.events with
  | (s, some err) => pure (s, some err)
  | (s, none) => commitWithCacheCtx env s

/-- What `runNativeAction` does from the action on. -/
def leavePrecompile (p : Precompile) (s : StateDb) : Except DbPanic (StateDb × Option GoError) := do
  let prevEventsLen := (cacheContext s).events.length
  let (ctx, err) ← p.action (cacheContext s)
  let s := withCacheContext s ctx
  match err with
  | some err => pure (s, some err)
  | none =>
    pure (if p.balanceHandler then BalanceHandler.afterBalanceChange env s prevEventsLen ctx
      else (s, none))

def runNativeAction (p : Precompile) (s : StateDb) : Except DbPanic (StateDb × Option GoError) := do
  match ← enterPrecompile env s with
  | (s, some err) => pure (s, some err)
  | (s, none) => leavePrecompile env p s

end StateDb

end OgEvm
