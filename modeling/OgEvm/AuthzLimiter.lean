import OgEvm.LibExcept

/- The ante decorator that keeps message types out of x/authz. One counter bounds both how deep
and how wide executions nest: it is passed down, and it grows from sibling to sibling. -/
namespace OgEvm.AuthzLimiter

open ExceptFacts

/-- A message, as far as the decorator looks at it. -/
inductive Msg where
  /-- `MsgExec` with the messages that `GetMessages` returns. -/
  | exec (innerMsgs : List Msg)
  /-- `MsgExec` whose messages cannot be unpacked. -/
  | unreadableExec (err : String)
  /-- `MsgGrant` with the message type of its authorization, if that can be unpacked. -/
  | grant (authorization : Except String String)
  | other (url : String)

/-- `sdk.MsgTypeURL`. -/
def Msg.typeURL : Msg → String
  | .exec _ => "/cosmos.authz.v1beta1.MsgExec"
  | .unreadableExec _ => "/cosmos.authz.v1beta1.MsgExec"
  | .grant _ => "/cosmos.authz.v1beta1.MsgGrant"
  | .other url => url

def maxNestedMsgs : ℕ := 7

section

variable (disabledMsgTypes : List String)

def isDisabledMsg (msgTypeURL : String) : Bool := disabledMsgTypes.any (msgTypeURL == ·)

def checkNestedLvl (nestedLvl : ℕ) : Except String Unit :=
  if maxNestedMsgs ≤ nestedLvl then
    .error ("found more nested msgs than permitted; got: " ++ toString nestedLvl ++ ", expected: <" ++
      toString maxNestedMsgs)
  else .ok ()

def refuseDisabled (url : String) : Except String Unit :=
  if isDisabledMsg disabledMsgTypes url then .error ("found disabled msg type: " ++ url) else .ok ()

/-- The level at which the messages after this one are checked. -/
def Msg.nextLvl (nestedLvl : ℕ) : Msg → ℕ
  | .exec _ => nestedLvl + 1
  | _ => nestedLvl

mutual

/-- The body of the loop. -/
def checkMsg (isAuthzInnerMsg : Bool) (nestedLvl : ℕ) : Msg → Except String Unit
  | .exec innerMsgs => do
    checkNestedLvl (nestedLvl + 1)
    checkMsgs true (nestedLvl + 1) innerMsgs
  | .unreadableExec err => .error err
  | .grant authorization => authorization >>= refuseDisabled disabledMsgTypes
  | .other url => if isAuthzInnerMsg then refuseDisabled disabledMsgTypes url else .ok ()

def checkMsgs (isAuthzInnerMsg : Bool) (nestedLvl : ℕ) : List Msg → Except String Unit
  | [] => .ok ()
  | msg :: rest => do
    checkMsg isAuthzInnerMsg nestedLvl msg
    checkMsgs isAuthzInnerMsg (msg.nextLvl nestedLvl) rest

end

def checkDisabledMsgs (msgs : List Msg) (isAuthzInnerMsg : Bool) (nestedLvl : ℕ) : Except String Unit := do
  checkNestedLvl nestedLvl
  checkMsgs disabledMsgTypes isAuthzInnerMsg nestedLvl msgs

end

/-! What a transaction contains. -/

/-- A message is somewhere in the forest. -/
inductive Occurs (msg : Msg) : List Msg → Prop
  | here {msgs : List Msg} (member : msg ∈ msgs) : Occurs msg msgs
  | within {inner msgs : List Msg} (member : .exec inner ∈ msgs) (inside : Occurs msg inner) : Occurs msg msgs

mutual

/-- The number of executions. -/
def Msg.execs : Msg → ℕ
  | .exec innerMsgs => 1 + execsIn innerMsgs
  | .unreadableExec _ => 1
  | _ => 0

def execsIn : List Msg → ℕ
  | [] => 0
  | msg :: rest => msg.execs + execsIn rest

end

mutual

/-- How deep executions nest. -/
def Msg.depth : Msg → ℕ
  | .exec innerMsgs => 1 + depthIn innerMsgs
  | .unreadableExec _ => 1
  | _ => 0

def depthIn : List Msg → ℕ
  | [] => 0
  | msg :: rest => max msg.depth (depthIn rest)

end

section

variable {disabledMsgTypes : List String} {inner : Bool} {nestedLvl : ℕ} {msg : Msg} {msgs : List Msg}

theorem checkNestedLvl_ok (success : checkNestedLvl nestedLvl = .ok ()) : nestedLvl ≤ 6 := by
  obtain ⟨low, -⟩ := ite_error_ok success
  unfold maxNestedMsgs at low
  omega

theorem refuseDisabled_ok {url : String} (success : refuseDisabled disabledMsgTypes url = .ok ()) :
    url ∉ disabledMsgTypes := by
  obtain ⟨allowed, -⟩ := ite_error_ok success
  simpa [isDisabledMsg] using allowed

theorem checkMsg_exec_ok {innerMsgs : List Msg}
    (success : checkMsg disabledMsgTypes inner nestedLvl (.exec innerMsgs) = .ok ()) :
    nestedLvl + 1 ≤ 6 ∧ checkMsgs disabledMsgTypes true (nestedLvl + 1) innerMsgs = .ok () := by
  simp only [checkMsg] at success
  obtain ⟨_, level, success⟩ := bind_ok success
  exact ⟨checkNestedLvl_ok level, success⟩

/-! An execution takes one level from its siblings and one from what is inside it, so the
executions under a level are at most doubled by the level above. -/

mutual

theorem checkMsg_bounds (inner : Bool) (nestedLvl : ℕ) (low : nestedLvl ≤ 6) :
    ∀ msg, checkMsg disabledMsgTypes inner nestedLvl msg = .ok () →
      msg.nextLvl nestedLvl ≤ 6 ∧ msg.depth ≤ 6 - nestedLvl ∧
        msg.execs + 2 ^ (6 - msg.nextLvl nestedLvl) ≤ 2 ^ (6 - nestedLvl)
  | .exec innerMsgs, success => by
    obtain ⟨level, success⟩ := checkMsg_exec_ok success
    obtain ⟨deep, many⟩ := checkMsgs_bounds true (nestedLvl + 1) level innerMsgs success
    have double : 2 ^ (6 - nestedLvl) = 2 * 2 ^ (6 - (nestedLvl + 1)) := by
      rw [← pow_succ']
      congr 1
      omega
    simp only [Msg.nextLvl, Msg.depth, Msg.execs]
    omega
  | .unreadableExec err, success => by cases success
  | .grant authorization, _ => by simpa [Msg.nextLvl, Msg.depth, Msg.execs] using low
  | .other url, _ => by simpa [Msg.nextLvl, Msg.depth, Msg.execs] using low

theorem checkMsgs_bounds (inner : Bool) (nestedLvl : ℕ) (low : nestedLvl ≤ 6) :
    ∀ msgs, checkMsgs disabledMsgTypes inner nestedLvl msgs = .ok () →
      depthIn msgs ≤ 6 - nestedLvl ∧ execsIn msgs + 1 ≤ 2 ^ (6 - nestedLvl)
  | [], _ => by simp [depthIn, execsIn, Nat.one_le_two_pow]
  | msg :: rest, success => by
    simp only [checkMsgs] at success
    obtain ⟨_, first, success⟩ := bind_ok success
    obtain ⟨level, deep, many⟩ := checkMsg_bounds inner nestedLvl low msg first
    obtain ⟨restDeep, restMany⟩ := checkMsgs_bounds inner (msg.nextLvl nestedLvl) level rest success
    have grows : nestedLvl ≤ msg.nextLvl nestedLvl := by
      cases msg <;> simp [Msg.nextLvl]
    simp only [depthIn, execsIn]
    omega

end

/-! Every message that occurs has been checked. -/

theorem checkMsgs_mem (success : checkMsgs disabledMsgTypes inner nestedLvl msgs = .ok ()) (member : msg ∈ msgs) :
    ∃ nestedLvl, checkMsg disabledMsgTypes inner nestedLvl msg = .ok () := by
  induction msgs generalizing nestedLvl with
  | nil => cases member
  | cons first rest ih =>
    simp only [checkMsgs] at success
    obtain ⟨_, head, success⟩ := bind_ok success
    rcases List.mem_cons.mp member with rfl | later
    · exact ⟨nestedLvl, head⟩
    · exact ih success later

theorem checkMsgs_occurs (success : checkMsgs disabledMsgTypes inner nestedLvl msgs = .ok ())
    (occurs : Occurs msg msgs) : ∃ inner nestedLvl, checkMsg disabledMsgTypes inner nestedLvl msg = .ok () := by
  induction occurs generalizing inner nestedLvl with
  | here member => exact ⟨inner, checkMsgs_mem success member⟩
  | within member inside ih =>
    obtain ⟨_, checked⟩ := checkMsgs_mem success member
    exact ih (checkMsg_exec_ok checked).2

end

/-- What is executed for others is not of a disabled type, unless it is itself a message of
x/authz; no disabled type is granted; executions nest at most five deep, and there are at most
thirty-one. -/
theorem accepted_limits (disabledMsgTypes : List String) (msgs : List Msg)
    (accepted : checkDisabledMsgs disabledMsgTypes msgs false 1 = .ok ()) :
    (∀ inner, Occurs (.exec inner) msgs → ∀ msg ∈ inner, msg.typeURL ∈ disabledMsgTypes →
      (∃ innerMsgs, msg = .exec innerMsgs) ∨ ∃ authorization, msg = .grant authorization) ∧
    (∀ authorization, Occurs (.grant authorization) msgs → ∃ url, authorization = .ok url ∧ url ∉ disabledMsgTypes) ∧
    depthIn msgs ≤ 5 ∧ execsIn msgs ≤ 31 := by
  obtain ⟨-, -, accepted⟩ := bind_ok accepted
  refine ⟨?_, ?_, ?_⟩
  · intro inner occurs msg member disabled
    obtain ⟨_, _, executed⟩ := checkMsgs_occurs accepted occurs
    obtain ⟨_, checked⟩ := checkMsgs_mem (checkMsg_exec_ok executed).2 member
    cases msg with
    | exec innerMsgs => exact Or.inl ⟨innerMsgs, rfl⟩
    | unreadableExec err => cases checked
    | grant authorization => exact Or.inr ⟨authorization, rfl⟩
    | other url => exact absurd disabled (refuseDisabled_ok checked)
  · intro authorization occurs
    obtain ⟨_, _, checked⟩ := checkMsgs_occurs accepted occurs
    obtain ⟨url, unpacked, allowed⟩ := bind_ok checked
    exact ⟨url, unpacked, refuseDisabled_ok allowed⟩
  · obtain ⟨deep, many⟩ := checkMsgs_bounds false 1 (by omega) msgs accepted
    exact ⟨deep, by omega⟩

/-- Nothing of a disabled type is executed or granted through x/authz in an accepted transaction,
whose executions nest at most five deep and are at most thirty-one, exactly if the list names no
message of x/authz itself. -/
theorem disabled_blocked_iff (disabledMsgTypes : List String) :
    (∀ msgs, checkDisabledMsgs disabledMsgTypes msgs false 1 = .ok () →
      (∀ inner, Occurs (.exec inner) msgs → ∀ msg ∈ inner, msg.typeURL ∉ disabledMsgTypes) ∧
      (∀ authorization, Occurs (.grant authorization) msgs →
        ∃ url, authorization = .ok url ∧ url ∉ disabledMsgTypes) ∧
      depthIn msgs ≤ 5 ∧ execsIn msgs ≤ 31) ↔
    "/cosmos.authz.v1beta1.MsgExec" ∉ disabledMsgTypes ∧ "/cosmos.authz.v1beta1.MsgGrant" ∉ disabledMsgTypes := by
  constructor
  · intro blocked
    -- inside an execution the own type of these two is not looked at
    have unseen : ∀ msg, checkDisabledMsgs disabledMsgTypes [.exec [msg]] false 1 = .ok () →
        msg.typeURL ∉ disabledMsgTypes := fun msg accepted =>
      (blocked _ accepted).1 [msg] (.here List.mem_cons_self) msg List.mem_cons_self
    obtain ⟨url, unlisted⟩ := Infinite.exists_notMem_finset disabledMsgTypes.toFinset
    refine ⟨unseen (.exec []) rfl, unseen (.grant (.ok url)) ?_⟩
    have allowed : refuseDisabled disabledMsgTypes url = .ok () := by
      rw [List.mem_toFinset] at unlisted
      simp [refuseDisabled, isDisabledMsg, unlisted]
    change (refuseDisabled disabledMsgTypes url >>= fun _ => .ok ()) >>= (fun _ => .ok ()) = .ok ()
    rw [allowed]
    rfl
  · rintro ⟨noExec, noGrant⟩ msgs accepted
    obtain ⟨executed, limits⟩ := accepted_limits disabledMsgTypes msgs accepted
    refine ⟨?_, limits⟩
    intro inner occurs msg member disabled
    rcases executed inner occurs msg member disabled with ⟨innerMsgs, rfl⟩ | ⟨authorization, rfl⟩
    · exact noExec disabled
    · exact noGrant disabled

/-- A grant is executed for others although grants are disabled. -/
theorem disabled_grant_executed :
    checkDisabledMsgs ["/cosmos.authz.v1beta1.MsgGrant"] [.exec [.grant (.ok "/send")]] false 1 = .ok () ∧
      ∃ inner, Occurs (.exec inner) [.exec [.grant (.ok "/send")]] ∧
        ∃ msg ∈ inner, msg.typeURL ∈ ["/cosmos.authz.v1beta1.MsgGrant"] := by
  refine ⟨rfl, [.grant (.ok "/send")], Occurs.here List.mem_cons_self, _, List.mem_cons_self, ?_⟩
  exact List.mem_cons_self

end OgEvm.AuthzLimiter
