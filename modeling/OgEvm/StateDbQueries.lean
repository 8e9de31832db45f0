import OgEvm.StateDbView

/- The queries of the StateDB; their answers are a function of its view. -/
namespace OgEvm.StateDb

inductive Query where
  | exist (addr : Address)
  | getBalance (addr : Address)
  | getNonce (addr : Address)
  | getCode (addr : Address)
  | getCodeHash (addr : Address)
  | getState (addr : Address) (key : Hash)
  | getCommittedState (addr : Address) (key : Hash)
  | getTransientState (addr : Address) (key : Hash)
  | hasSelfDestructed (addr : Address)
  | isNewContract (addr : Address)
  | logs
  | getRefund
  | addressInAccessList (addr : Address)
  | slotInAccessList (addr : Address) (slot : Hash)

inductive Answer where
  | flag (value : Bool)
  | amount (value : BitVec 256)
  | count (value : UInt64)
  | code (value : Option Bytes)
  | word (value : Hash)
  | logs (value : List Log)
  | member (value : Except DbPanic (Bool × Bool))

def ask (env : Env) (s : StateDb) : Query → Answer × StateDb
  | .exist addr => (exist env s addr).map .flag id
  | .getBalance addr => (getBalance env s addr).map .amount id
  | .getNonce addr => (getNonce env s addr).map .count id
  | .getCode addr => (getCode env s addr).map .code id
  | .getCodeHash addr => (getCodeHash env s addr).map .word id
  | .getState addr key => (getState env s addr key).map .word id
  | .getCommittedState addr key => (getCommittedState env s addr key).map .word id
  | .getTransientState addr key => (.word (getTransientState s addr key), s)
  | .hasSelfDestructed addr => (hasSelfDestructed env s addr).map .flag id
  | .isNewContract addr => (isNewContract env s addr).map .flag id
  | .logs => (.logs s.logs, s)
  | .getRefund => (.count s.refund, s)
  | .addressInAccessList addr => (.flag (addressInAccessList s addr), s)
  | .slotInAccessList addr slot => (.member (slotInAccessList s addr slot), s)

/-! The answers are a function of the view. -/

def View.answer (v : View) : Query → Answer
  | .exist addr => .flag (v.objects addr).isSome
  | .getBalance addr => .amount (((v.objects addr).map fun obj => obj.account.balance).getD 0)
  | .getNonce addr => .count (((v.objects addr).map fun obj => obj.account.nonce).getD 0)
  | .getCode addr => .code ((v.objects addr).bind ObjView.code)
  | .getCodeHash addr => .word (((v.objects addr).map fun obj => obj.account.codeHash).getD zeroHash)
  | .getState addr key => .word (((v.objects addr).map fun obj => obj.state key).getD zeroHash)
  | .getCommittedState addr key =>
    .word (((v.objects addr).map fun obj => obj.committed key).getD zeroHash)
  | .getTransientState addr key => .word (v.transient addr key)
  | .hasSelfDestructed addr => .flag (((v.objects addr).map ObjView.selfDestructed).getD false)
  | .isNewContract addr => .flag (((v.objects addr).map ObjView.newContract).getD false)
  | .logs => .logs v.logs
  | .getRefund => .count v.refund
  | .addressInAccessList addr => .flag (v.accessList.containsAddress addr)
  | .slotInAccessList addr slot => .member (v.accessList.contains addr slot)

variable {env : Env} {mask : Mask} {s t : StateDb}

theorem view_objects_found (mask : Mask) {addr : Address} {found : Option StateObject}
    (loading : getStateObject env s addr = (found, t)) :
    t.ctx = s.ctx ∧ (view env mask s).objects addr = found.map (objView env mask s.ctx.store) := by
  have cached := getStateObject_cached env mask s addr
  have shown := getStateObject_fst env s addr
  rw [loading] at cached shown
  exact ⟨cached.store, by rw [view_objects, ← shown]⟩

/-- The slots a query reads are in the mask. -/
def Query.Within (mask : Mask) : Query → Prop
  | .getState addr key => mask addr key = true
  | .getCommittedState addr key => mask addr key = true
  | _ => True

theorem ask_fst (addressed : Addressed s) {query : Query} (within : query.Within mask) :
    (ask env s query).1 = (view env mask s).answer query := by
  cases query with
  | exist addr =>
    rcases loading : getStateObject env s addr with ⟨found, t⟩
    simp [ask, exist, View.answer, loading, (view_objects_found mask loading).2]
  | getBalance addr =>
    rcases loading : getStateObject env s addr with ⟨found, t⟩
    simp [ask, getBalance, View.answer, loading, (view_objects_found mask loading).2, objView,
      Function.comp_def]
  | getNonce addr =>
    rcases loading : getStateObject env s addr with ⟨found, t⟩
    simp [ask, getNonce, View.answer, loading, (view_objects_found mask loading).2, objView, Function.comp_def]
  | getCode addr =>
    rcases loading : getStateObject env s addr with ⟨_ | obj, t⟩
    all_goals obtain ⟨ctx, shown⟩ := view_objects_found mask loading
    · simp [ask, getCode, View.answer, loading, shown]
    · simp [ask, getCode, View.answer, loading, shown, ctx, objectCode_fst env mask]
  | getCodeHash addr =>
    rcases loading : getStateObject env s addr with ⟨found, t⟩
    simp [ask, getCodeHash, View.answer, loading, (view_objects_found mask loading).2, objView,
      Function.comp_def]
  | getState addr key =>
    rcases loading : getStateObject env s addr with ⟨_ | obj, t⟩
    all_goals obtain ⟨ctx, shown⟩ := view_objects_found mask loading
    · simp [ask, getState, View.answer, loading, shown]
    · have inside : mask obj.address key = true := by
        rw [getStateObject_address addressed loading]
        exact within
      simp [ask, getState, View.answer, loading, shown, ctx, objectState_fst, objView, masked, inside]
  | getCommittedState addr key =>
    rcases loading : getStateObject env s addr with ⟨_ | obj, t⟩
    all_goals obtain ⟨ctx, shown⟩ := view_objects_found mask loading
    · simp [ask, getCommittedState, View.answer, loading, shown]
    · have inside : mask obj.address key = true := by
        rw [getStateObject_address addressed loading]
        exact within
      simp [ask, getCommittedState, View.answer, loading, shown, ctx, objectCommittedState_fst,
        objView, masked, inside]
  | getTransientState addr key => rfl
  | hasSelfDestructed addr =>
    rcases loading : getStateObject env s addr with ⟨found, t⟩
    simp [ask, hasSelfDestructed, View.answer, loading, (view_objects_found mask loading).2, objView,
      Function.comp_def]
  | isNewContract addr =>
    rcases loading : getStateObject env s addr with ⟨found, t⟩
    simp [ask, isNewContract, View.answer, loading, (view_objects_found mask loading).2, objView,
      Function.comp_def]
  | logs => rfl
  | getRefund => rfl
  | addressInAccessList addr => rfl
  | slotInAccessList addr slot => rfl

end OgEvm.StateDb
