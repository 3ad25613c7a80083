import IronicTemper.Clients.Baremetal

set_option autoImplicit false

/-! # Applying the rules file

`getRules` parses the rules template, executes it against the node, and decodes the output into a
`config.Rule`, dropping the error of `json.Unmarshal`. `ApplyRules` copies that rule's node and
port operations into two patches and sends them through `updatePorts` and `updateNode`. So a `nil`
result guarantees a template that parsed and executed (`applyRules_getRules`), but a rendered
document that is not JSON yields empty patches (`applyRules_accepts_undecodable_rules`). -/

namespace IronicTemper

/-- `config.Rule`, by the two lists `ApplyRules` reads: `Properties.Node` and `Properties.Port`,
    each a list of operation, path and value. -/
structure RuleProperties where
  node : List PatchOp := []
  port : List PatchOp := []
  deriving DecidableEq, Repr

structure Rule where
  properties : RuleProperties := {}
  deriving DecidableEq, Repr

/-- `Client.getRules`, given the error text of `ParseFiles`, the error of executing the template,
    and what `json.Unmarshal` leaves in `r` and returns for the output. -/
def getRules (parseFiles : Option String) (execute : Option GoError)
    (unmarshal : Rule × Option GoError) : Rule × Option GoError :=
  match parseFiles with
  | some msg => ({}, some (.errorf ("Error parsing rules: " ++ msg)))
  | none => (unmarshal.1, execute)

/-- The loops of `ApplyRules` that copy each rule operation, field by field, into an update
    operation. -/
def copyOps (ops : List PatchOp) : List PatchOp :=
  ops.foldl (fun acc o => acc ++ [⟨o.op, o.path, o.value⟩]) []

/-- What `ApplyRules` does: the error it returns, the patch it passes to `updatePorts`, which
    sends it to every port of the node, and the patch it passes to `updateNode`; `none` for a
    call it does not reach. -/
structure ApplyRulesResult where
  err : Option GoError
  portPatch : Option (List PatchOp)
  nodePatch : Option (List PatchOp)
  deriving DecidableEq, Repr

/-- `Client.ApplyRules`, given what `getRules` returns, and the answers `updatePorts` and
    `updateNode` meet. -/
def applyRules {Port : Type} (rules : Rule × Option GoError) (ports : Except GoError (List Port))
    (portUpdates : Port → List (Reply Unit)) (nodeUpdates : List (Reply Unit)) :
    ApplyRulesResult :=
  match rules with
  | (_, some e) => ⟨some e, none, none⟩
  | (r, none) =>
    match updatePorts portUpdates ports with
    | some e => ⟨some e, some (copyOps r.properties.port), none⟩
    | none => ⟨updateNode nodeUpdates, some (copyOps r.properties.port),
        some (copyOps r.properties.node)⟩

theorem foldl_copy (ops acc : List PatchOp) :
    ops.foldl (fun acc o => acc ++ [⟨o.op, o.path, o.value⟩]) acc = acc ++ ops := by
  induction ops generalizing acc with
  | nil => simp
  | cons o ops ih => rw [List.foldl_cons, ih]; simp

/-- The copy loops keep every operation, in order. -/
@[simp] theorem copyOps_eq (ops : List PatchOp) : copyOps ops = ops := by
  simpa using foldl_copy ops []

/-- What a `nil` result guarantees: the template parsed and executed, and the patches are the
    operations of the rule the decoder left, whatever the decoder returned. -/
theorem applyRules_getRules {Port : Type} (parseFiles : Option String) (execute : Option GoError)
    (unmarshal : Rule × Option GoError) (ports : Except GoError (List Port))
    (portUpdates : Port → List (Reply Unit)) (nodeUpdates : List (Reply Unit))
    (h : (applyRules (getRules parseFiles execute unmarshal) ports portUpdates nodeUpdates).err =
      none) :
    parseFiles = none ∧ execute = none ∧
      (applyRules (getRules parseFiles execute unmarshal) ports portUpdates nodeUpdates) =
        ⟨none, some unmarshal.1.properties.port, some unmarshal.1.properties.node⟩ := by
  rcases parseFiles with _ | msg
  · rcases execute with _ | e
    · simp only [getRules, applyRules] at h ⊢
      split at h
      · cases h
      · simp_all
    · simp [getRules, applyRules] at h
  · simp [getRules, applyRules] at h

theorem applyRules_getRules_node_op :
    (applyRules (getRules none none
        ({ properties := { node := [⟨"replace", "/maintenance", .bool true⟩] } }, none))
        (.ok [()]) (fun _ => [.ok ()]) [.ok ()]).err = none ∧
      ((none : Option String) = none ∧ (none : Option GoError) = none ∧
        applyRules (getRules none none
            ({ properties := { node := [⟨"replace", "/maintenance", .bool true⟩] } }, none))
            (.ok [()]) (fun _ => [.ok ()]) [.ok ()] =
          ⟨none, some [], some [⟨"replace", "/maintenance", .bool true⟩]⟩) :=
  ⟨by decide, applyRules_getRules none none _ (.ok [()]) (fun _ => [.ok ()]) [.ok ()] (by decide)⟩

/-- A rendered document that is not JSON: `json.Unmarshal` leaves the zero rule and an error
    that `getRules` drops, so `ApplyRules` sends empty patches and returns `nil`. -/
theorem applyRules_accepts_undecodable_rules :
    applyRules (getRules none none ({}, some (.errorf "unexpected end of JSON input")))
        (.ok [()]) (fun _ => [.ok ()]) [.ok ()] =
      ⟨none, some [], some []⟩ := by
  decide

end IronicTemper
