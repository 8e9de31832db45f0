import OgEvm.Erc20
import OgEvm.LibExcept

/- The x/vm parameters as governance sets them: what the validation looks at, and
the length of the block hash history, which it does not look at. -/
namespace OgEvm.Vm

open ExceptFacts

/-- `%s` of a list of strings. -/
def bracketed (texts : List String) : String := "[" ++ " ".intercalate texts ++ "]"

/-- `utils.ValidateAddress`. -/
def validateAddress (address : String) : Except GoError Unit :=
  if Erc20.isHexAddress address then .ok ()
  else .error (.other, "address '" ++ address ++ "' is not a valid ethereum hex address: invalid address")

inductive AccessType where
  | permissionless
  | restricted
  | permissioned
  | unknown (code : ℤ)
deriving DecidableEq, Repr

structure AccessControlType where
  accessType : AccessType
  accessControlList : List String
deriving DecidableEq, Repr

structure AccessControl where
  create : AccessControlType
  call : AccessControlType
deriving DecidableEq, Repr

structure Params where
  extraEIPs : List ℤ
  activeStaticPrecompiles : List String
  evmChannels : List String
  accessControl : AccessControl
  historyServeWindow : UInt64
deriving DecidableEq, Repr

/-- What the validation asks of go-ethereum and ibc-go. -/
structure Validators where
  validEip : ℤ → Bool
  activateableEips : List String
  channelIdentifierValidator : String → Except String Unit

def defaultHistoryServeWindow : UInt64 := 8192

def defaultAccessControl : AccessControl := ⟨⟨.permissionless, []⟩, ⟨.permissionless, []⟩⟩

def defaultParams : Params where
  extraEIPs := []
  activeStaticPrecompiles := []
  evmChannels := []
  accessControl := defaultAccessControl
  historyServeWindow := defaultHistoryServeWindow

def validateAccessType : AccessType → Except String Unit
  | .permissionless => .ok ()
  | .restricted => .ok ()
  | .permissioned => .ok ()
  | .unknown code => .error ("invalid access type: " ++ toString code)

def validateAllowlistAddresses (addresses : List String) : Except String Unit :=
  addresses.forM fun address =>
    (validateAddress address).mapError fun _ => "invalid whitelist address: " ++ address

def AccessControlType.validate (act : AccessControlType) : Except String Unit := do
  validateAccessType act.accessType
  validateAllowlistAddresses act.accessControlList

def AccessControl.validate (ac : AccessControl) : Except String Unit := do
  ac.create.validate
  ac.call.validate

/-- The loop of `validateEIPs`, `uniqueEIPs` being the ones passed so far. -/
def validateEIPsLoop (checks : Validators) : List ℤ → List ℤ → Except String Unit
  | _, [] => .ok ()
  | uniqueEIPs, eip :: eips =>
    if checks.validEip eip = false then
      .error ("EIP " ++ toString eip ++ " is not activateable, valid EIPs are: " ++
        bracketed checks.activateableEips)
    else if eip ∈ uniqueEIPs then .error ("found duplicate EIP: " ++ toString eip)
    else validateEIPsLoop checks (eip :: uniqueEIPs) eips

def validateEIPs (checks : Validators) (eips : List ℤ) : Except String Unit :=
  validateEIPsLoop checks [] eips

def validatePrecompilesLoop : List String → List String → Except String Unit
  | _, [] => .ok ()
  | seenPrecompiles, precompile :: precompiles =>
    if precompile ∈ seenPrecompiles then .error ("duplicate precompile " ++ precompile)
    else do
      (validateAddress precompile).mapError fun _ => "invalid precompile " ++ precompile
      validatePrecompilesLoop (precompile :: seenPrecompiles) precompiles

/-- `slices.IsSorted`. -/
def isSorted : List String → Bool
  | first :: second :: rest => first ≤ second && isSorted (second :: rest)
  | _ => true

def validatePrecompiles (precompiles : List String) : Except String Unit := do
  validatePrecompilesLoop [] precompiles
  if isSorted precompiles = false then
    .error ("precompiles need to be sorted: " ++ bracketed precompiles)
  else .ok ()

def validateChannels (checks : Validators) (channels : List String) : Except String Unit :=
  channels.forM fun channel =>
    (checks.channelIdentifierValidator channel).mapError fun reason =>
      reason ++ ": invalid channel identifier"

def Params.validate (checks : Validators) (p : Params) : Except String Unit := do
  validateEIPs checks p.extraEIPs
  validatePrecompiles p.activeStaticPrecompiles
  p.accessControl.validate
  validateChannels checks p.evmChannels

def Params.sortPrecompiles (params : Params) : Params :=
  { params with activeStaticPrecompiles := params.activeStaticPrecompiles.mergeSort }

/-- `SetParams`: the parameters the store holds afterwards. -/
def setParams (checks : Validators) (params : Params) : Except String Params :=
  (params.sortPrecompiles.validate checks).map fun _ => params.sortPrecompiles

/-- The window `SetHeaderHash` and `GetHeaderHash` both start from. -/
def historyWindow (params : Params) : UInt64 :=
  if 0 < params.historyServeWindow then params.historyServeWindow else defaultHistoryServeWindow

theorem setParams_historyWindow {checks : Validators} {params stored : Params}
    (accepted : setParams checks params = .ok stored) : historyWindow stored = historyWindow params := by
  obtain ⟨_, -, rfl⟩ := map_ok accepted
  rfl

/-- The validation never reads the history window. -/
theorem setParams_window (checks : Validators) (params : Params) (window : UInt64) :
    setParams checks { params with historyServeWindow := window } =
      (setParams checks params).map fun stored => { stored with historyServeWindow := window } := by
  have same : ({ params with historyServeWindow := window } : Params).sortPrecompiles.validate checks =
      params.sortPrecompiles.validate checks := rfl
  unfold setParams
  rw [same]
  cases params.sortPrecompiles.validate checks with
  | error reason => rfl
  | ok _ => rfl

theorem setParams_default (checks : Validators) : setParams checks defaultParams = .ok defaultParams := by
  have sorted : defaultParams.sortPrecompiles = defaultParams := by
    simp only [Params.sortPrecompiles, defaultParams, List.mergeSort_nil]
  unfold setParams
  rw [sorted]
  rfl

/-- Every window passes: the default parameters are accepted with any of them. -/
theorem setParams_accepts (checks : Validators) (window : UInt64) :
    setParams checks { defaultParams with historyServeWindow := window } =
      .ok { defaultParams with historyServeWindow := window } := by
  rw [setParams_window, setParams_default]
  rfl

end OgEvm.Vm
