import IronicTemper.Clients.Redfish

set_option autoImplicit false

/-! # The discovery loop: `Redfish.Start`

`Redfish.Start` reads the targets with `loadNodes`, calls `loadRedfishInfo` and `createIronicNode`
on each, then waits in a `select` for its ticker or `ctx.Done()`, and returns on the latter. When
`loadNodes` fails the loop `continue`s past the `select`, so with a nodes file that stays unreadable
it never sees the cancellation (`start_spins_after_cancel`). The model is a step function over the
loop's place, the context, and a trace of `loadNodes` calls and `select` passes. -/

namespace IronicTemper

/-! ## `loadNodes` -/

/-- `redfish.Node`: the field `loadNodes` reads. -/
structure NetboxNode where
  targets : List String
  deriving DecidableEq, Repr

/-- What one call of `loadNodes` meets: the nodes file (`cfg.NetboxNodesPath`) cannot be read, its
    content does not decode as a list of nodes, or it decodes to `ns`. -/
inductive NodesFile where
  | unreadable (e : GoError)
  | malformed (e : GoError)
  | nodes (ns : List NetboxNode)
  deriving DecidableEq, Repr

/-- `Redfish.loadNodes`: the targets of every node, in order, or the error. -/
def loadNodes : NodesFile → List String × Option GoError
  | .unreadable e => ([], some e)
  | .malformed e => ([], some e)
  | .nodes ns => (ns.foldl (fun ips node => ips ++ node.targets) [], none)

/-! ## The loop over the targets -/

/-- What the BMC at one address answers `loadRedfishInfo`: the error of `gofish.Connect`, and what
    `service.Chassis()` returns. -/
structure BmcAnswers where
  connect : Option GoError
  chassis : Except GoError (List ChassisAnswers)

/-- One pass of `Start`'s loop over the targets: `createIronicNode` gets the callback data of a
    target whose `loadRedfishInfo` returns no error. The error `createIronicNode` returns is
    dropped. -/
def targetStep (bmc : String → BmcAnswers) (created : List InspectorCallbackData) (node : String) :
    Except Panic (List InspectorCallbackData) := do
  let (i, err) ← loadRedfishInfo (bmc node).connect (bmc node).chassis
  match err with
  | some _ => pure created
  | none => pure (created ++ [i])

/-- The loop over the targets: the callback data passed to `createIronicNode`, in order, or the
    panic of a `loadRedfishInfo`. -/
def createNodes (bmc : String → BmcAnswers) (targets : List String) :
    Except Panic (List InspectorCallbackData) :=
  targets.foldlM (targetStep bmc) []

/-! ## The loop -/

/-- Where `Start` stands. -/
inductive StartPhase where
  /-- At the head of the `for`, about to call `loadNodes`. -/
  | head
  /-- Waiting in the `select`. -/
  | select
  /-- Broken out of the loop: `Start` has returned. -/
  | returned
  /-- A `loadRedfishInfo` call panicked. -/
  | crashed
  deriving DecidableEq, Repr

/-- What the trace of a run records: a `loadNodes` call, by whether it returned `nil`, and a pass
    through the `select`. -/
inductive StartEvent where
  | load (ok : Bool)
  | select
  deriving DecidableEq, Repr

/-- The loop, its context, and what it has done so far. -/
structure StartState where
  phase : StartPhase
  ctxDone : Bool
  /-- The `loadNodes` calls and `select` passes, in order. -/
  trace : List StartEvent
  /-- The callback data passed to `createIronicNode`, in order. -/
  created : List InspectorCallbackData
  deriving DecidableEq, Repr

/-- The actions of a run. -/
inductive StartAction where
  /-- One pass of the loop body from `loadNodes` on: `loadNodes` meets `file`, and the BMC at each
      target answers as `bmc` says. -/
  | iterate (file : NodesFile) (bmc : String → BmcAnswers)
  /-- The `select` takes `ticker.C`. -/
  | tick
  /-- `ctx` is cancelled. -/
  | cancel
  /-- The `select` takes `ctx.Done()`. -/
  | done

/-- One action of a run. -/
def startStep (s : StartState) : StartAction → Option StartState
  | .iterate file bmc =>
    match s.phase with
    | .head =>
      match loadNodes file with
      | (_, some _) => some { s with trace := s.trace ++ [.load false] }
      | (ips, none) =>
        match createNodes bmc ips with
        | .error _ => some { s with phase := .crashed, trace := s.trace ++ [.load true] }
        | .ok created =>
          some { s with phase := .select, trace := s.trace ++ [.load true],
                        created := s.created ++ created }
    | _ => none
  | .tick =>
    match s.phase with
    | .select => some { s with phase := .head, trace := s.trace ++ [.select] }
    | _ => none
  | .cancel => some { s with ctxDone := true }
  | .done =>
    match s.phase with
    | .select =>
      if s.ctxDone then some { s with phase := .returned, trace := s.trace ++ [.select] } else none
    | _ => none

/-- `Start(ctx, errors)` just called: the loop at its head, the context live. -/
def startInit : StartState := ⟨.head, false, [], []⟩

/-! ## A nodes file that cannot be read -/

/-- An action under which `loadNodes` keeps failing: a pass whose `loadNodes` returns an error, or
    anything but a pass. -/
def StartAction.keepsLoadFailing : StartAction → Bool
  | .iterate file _ => (loadNodes file).2.isSome
  | _ => true

theorem startStep_failed_load {s : StartState} (hs : s.phase = .head) {file : NodesFile}
    (hf : (loadNodes file).2.isSome) (bmc : String → BmcAnswers) :
    startStep s (.iterate file bmc) = some { s with trace := s.trace ++ [.load false] } := by
  rcases hl : loadNodes file with ⟨ips, _ | e⟩
  · simp [hl] at hf
  · simp [startStep, hs, hl]

theorem run_keepsLoadFailing (s : StartState) {s' : StartState} (hs : s.phase = .head)
    {as : List StartAction} (has : ∀ a ∈ as, a.keepsLoadFailing) (h : run startStep s as = some s') :
    s'.phase = .head := by
  induction as generalizing s with
  | nil => cases h; exact hs
  | cons a as ih =>
    have has' := fun b hb => has b (List.mem_cons_of_mem a hb)
    cases a with
    | iterate file bmc =>
      rw [run, startStep_failed_load hs (has _ (List.mem_cons_self _ _)), Option.some_bind] at h
      exact ih { s with trace := s.trace ++ [.load false] } hs has' h
    | cancel => exact ih { s with ctxDone := true } hs has' h
    | tick => simp [run, startStep, hs] at h
    | done => simp [run, startStep, hs] at h

theorem run_failed_loads (s : StartState) (hs : s.phase = .head) (file : NodesFile)
    (hf : (loadNodes file).2.isSome) (bmc : String → BmcAnswers) (n : Nat) :
    run startStep s (List.replicate n (.iterate file bmc)) =
      some { s with trace := s.trace ++ List.replicate n (.load false) } := by
  induction n generalizing s with
  | zero => simp [run]
  | succ n ih =>
    rw [List.replicate_succ, run, startStep_failed_load hs hf, Option.some_bind,
      ih { s with trace := s.trace ++ [.load false] } hs]
    simp [List.replicate_succ]

/-- After the cancellation, with a nodes file that cannot be read, the loop calls `loadNodes` again
    and again with no `select` between, and never returns. -/
theorem start_spins_after_cancel (e : GoError) (bmc : String → BmcAnswers) (k : Nat) :
    run startStep startInit (.cancel :: List.replicate (k + 2) (.iterate (.unreadable e) bmc)) =
      some ⟨.head, true, List.replicate (k + 2) (.load false), []⟩ ∧
    ∀ (as : List StartAction) (s' : StartState), (∀ a ∈ as, a.keepsLoadFailing) →
      run startStep ⟨.head, true, List.replicate (k + 2) (.load false), []⟩ as = some s' →
        s'.phase = .head :=
  ⟨run_failed_loads ⟨.head, true, [], []⟩ rfl (.unreadable e) rfl bmc (k + 2),
    fun _ _ has h => run_keepsLoadFailing _ rfl has h⟩

end IronicTemper
