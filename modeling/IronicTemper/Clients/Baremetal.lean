import IronicTemper.Clients.Poll
import IronicTemper.Clients.Dns

set_option autoImplicit false

/-! # Preparing and validating a node

`PrepareNode` patches the conductor group with the second `-`-separated field of the node name,
read as `na[1]` with no check, and puts the node in maintenance. `CreateDNSRecordFor` reads the
same field behind a guard, `len(na) < 1`, that never fires, so both panic exactly on a name
without `-` (`indexOutOfRange_iff_name_without_dash`). `ValidateNode` fails with the first
negative of its four sub-results (`validateNode_ok`), through `fmt.Errorf(reason)`, which
rewrites a reason that contains `%`. -/

namespace IronicTemper

/-! ## Patches -/

/-- A patch value, as the `interface{}` of an update operation holds it. -/
inductive PatchValue where
  | string (s : String)
  | bool (b : Bool)
  /-- Any other JSON value, by its text. -/
  | json (text : String)
  deriving DecidableEq, Repr

/-- `nodes.UpdateOperation` and `ports.UpdateOperation`: one JSON patch operation. -/
structure PatchOp where
  op : String
  path : String
  value : PatchValue
  deriving DecidableEq, Repr

/-! ## `PrepareNode` -/

/-- `Client.PrepareNode`: the patch it sends through `updateNode`, and the error `updateNode`
    returns; or the panic of `na[1]`. -/
def prepareNode (n : IronicNode) (replies : List (Reply Unit)) :
    Except Panic (List PatchOp × Option GoError) := do
  let conductor ← goIndex (stringsSplit n.name '-') 1
  pure ([⟨"replace", "/conductor_group", .string conductor⟩, ⟨"replace", "/maintenance", .bool true⟩],
    updateNode replies)

/-- For every node name, `PrepareNode`, and `CreateDNSRecordFor` after a successful zone lookup,
    panic exactly when the name has no `-`; with one, neither panics. -/
theorem indexOutOfRange_iff_name_without_dash (domain : String) (z : Zone) (zs : List Zone)
    (n : IronicNode) (replies : List (Reply Unit)) :
    (createDNSRecordFor domain none (z :: zs) n = .error .indexOutOfRange ↔ '-' ∉ n.name.data) ∧
      (prepareNode n replies = .error .indexOutOfRange ↔ '-' ∉ n.name.data) := by
  rw [← one_lt_length_stringsSplit_iff, not_lt]
  constructor
  · simp only [createDNSRecordFor]
    rcases hs : stringsSplit n.name '-' with _ | ⟨a, _ | ⟨b, rest⟩⟩
    · exact absurd hs (stringsSplit_ne_nil _ _)
    · simp
    · have hr : ¬(a :: b :: rest).length ≤ 1 := by simp
      rw [if_neg (by simp)]
      simp only [hr, iff_false]
      split <;> simp
  · rw [← goIndex_eq_error_iff, prepareNode]
    cases goIndex (stringsSplit n.name '-') 1 <;> simp

/-! ## `CheckIronicNodeCreated` -/

/-- `clients.NodeNotFoundError`, by its `Err`. -/
structure NodeNotFoundError where
  err : String
  deriving DecidableEq, Repr

/-- `Client.CheckIronicNodeCreated`, given what `nodes.Get(..).Extract()` answers: the node's
    resource class, or the error. Its guard is the other way round from its name: a node with a
    UUID is reported created at once, and only a node without one is looked up, by the empty
    UUID. -/
def checkIronicNodeCreated (get : Except GoError String) (n : IronicNode) :
    Option NodeNotFoundError × IronicNode :=
  if n.uuid != "" then (none, n) else
  match get with
  | .error _ => (some ⟨"could not find node " ++ n.uuid⟩, n)
  | .ok rc => (none, { n with resourceClass := rc })

/-! ## `ValidateNode` -/

/-- `nodes.DriverValidation`: one sub-result of a validation. -/
structure DriverValidation where
  result : Bool
  reason : String
  deriving DecidableEq, Repr

/-- `nodes.NodeValidation`: the four sub-results `ValidateNode` reads. -/
structure NodeValidation where
  inspect : DriverValidation
  power : DriverValidation
  management : DriverValidation
  network : DriverValidation
  deriving DecidableEq, Repr

/-- `Client.ValidateNode`, given what `nodes.Validate(..).Extract()` returns. -/
def validateNode (v : Except GoError NodeValidation) : Option GoError :=
  match v with
  | .error e => some e
  | .ok v =>
    if !v.inspect.result then some (fmtErrorf v.inspect.reason)
    else if !v.power.result then some (fmtErrorf v.power.reason)
    else if !v.management.result then some (fmtErrorf v.management.reason)
    else if !v.network.result then some (fmtErrorf v.network.reason)
    else none

theorem validateNode_ok (v : NodeValidation) :
    validateNode (.ok v) =
      ([v.inspect, v.power, v.management, v.network].find? (!·.result)).map
        (fmtErrorf ·.reason) := by
  rcases v with ⟨⟨_ | _, _⟩, ⟨_ | _, _⟩, ⟨_ | _, _⟩, ⟨_ | _, _⟩⟩ <;> rfl

/-- With reasons free of `%`, the error carries the first negative sub-result's reason as it
    is. -/
theorem validateNode_ok_of_not_mem (v : NodeValidation)
    (h : ∀ d ∈ [v.inspect, v.power, v.management, v.network], '%' ∉ d.reason.data) :
    validateNode (.ok v) =
      ([v.inspect, v.power, v.management, v.network].find? (!·.result)).map (.errorf ·.reason) := by
  rw [validateNode_ok]
  cases hf : [v.inspect, v.power, v.management, v.network].find? (!·.result) with
  | none => rfl
  | some d => simp [fmtErrorf_of_not_mem (h d (List.mem_of_find?_eq_some hf))]

theorem validateNode_ok_power_off :
    (∀ d ∈ [(⟨true, ""⟩ : DriverValidation), ⟨false, "power off"⟩, ⟨true, ""⟩, ⟨true, ""⟩],
        '%' ∉ d.reason.data) ∧
      validateNode (.ok ⟨⟨true, ""⟩, ⟨false, "power off"⟩, ⟨true, ""⟩, ⟨true, ""⟩⟩) =
        ([(⟨true, ""⟩ : DriverValidation), ⟨false, "power off"⟩, ⟨true, ""⟩, ⟨true, ""⟩].find?
          (!·.result)).map (.errorf ·.reason) :=
  ⟨by decide, validateNode_ok_of_not_mem _ (by decide)⟩

/-- A reason with `%` is rewritten: `fmt` reads `% f` in `disk 100% full` as the verb `f` with
    the space flag, and prints that its operand is missing. -/
theorem validateNode_reason_rewritten :
    validateNode (.ok ⟨⟨false, "disk 100% full"⟩, ⟨true, ""⟩, ⟨true, ""⟩, ⟨true, ""⟩⟩) =
      some (.errorf "disk 100%!f(MISSING)ull") := by
  have hv : fmtVerb " full".toList = ("%!f(MISSING)".toList, some "ull".toList) := by decide
  have hp : doPrintf "disk 100% full".toList = "disk 100%!f(MISSING)ull".toList := by
    rw [show "disk 100% full".toList = "disk 100".toList ++ '%' :: " full".toList from rfl,
      doPrintf_append_of_not_mem _ (by decide), doPrintf_percent, hv]
    simp only [doPrintf_of_not_mem (show '%' ∉ "ull".toList by decide)]
    rfl
  simp only [validateNode, fmtErrorf]
  exact congrArg (some ∘ GoError.errorf ∘ String.mk) hp

end IronicTemper
