import IronicTemper.Basic

set_option autoImplicit false

/-! # The compensation handler

`initHandler` starts one goroutine, a single `select` with no loop around it: it receives one error
from the unbuffered `Errors` channel and handles it, or takes `ctx.Done()`, and returns. Handling
a `*SchedulerError` reads `serr.Node.UUID`, which panics on a nil `Node`, and deletes the test
deployment when `InstanceUUID` is set. The model is a step function over the consumer, the errors
not yet sent, and the context (`reachable_handler`, `initHandler_handles_one_error`). -/

namespace IronicTemper

/-- A value sent on `ErrorHandler.Errors`. -/
inductive PipelineError where
  /-- A `*SchedulerError`: its `Err`, and its `Node` (`none` for a nil pointer). -/
  | scheduler (err : String) (node : Option IronicNode)
  /-- Any other error, by its text. -/
  | other (msg : String)
  deriving DecidableEq, Repr

/-- Where the goroutine of `initHandler` stands. -/
inductive Consumer where
  | selecting
  | returned
  | crashed
  deriving DecidableEq, Repr

/-- The handler, the pipeline sending to it, and the context. -/
structure Handler where
  consumer : Consumer
  /-- Errors the pipeline has yet to send, in order. -/
  pending : List PipelineError
  ctxDone : Bool
  /-- Errors the consumer received, in order. -/
  received : List PipelineError
  /-- Nodes whose test deployment the consumer deleted (`DeleteNodeTestDeployment`), in order. -/
  teardowns : List IronicNode
  deriving DecidableEq, Repr

/-- The actions of a run: the pipeline's next send completes, the context is cancelled, or the
    consumer's `select` takes `ctx.Done()`. -/
inductive HandlerAction where
  | deliver
  | cancel
  | done
  deriving DecidableEq, Repr

/-- The test deployment the handler deletes for a received error, if any. -/
def teardownOf : PipelineError → Option IronicNode
  | .scheduler _ (some node) => if node.instanceUUID ≠ "" then some node else none
  | _ => none

/-- The `case err := <-e.Errors` branch, after which the goroutine returns. -/
def handleError (h : Handler) : PipelineError → Handler
  | .scheduler _ none => { h with consumer := .crashed }
  | .scheduler _ (some node) =>
    { h with consumer := .returned,
             teardowns := if node.instanceUUID ≠ "" then h.teardowns ++ [node] else h.teardowns }
  | .other _ => { h with consumer := .returned }

/-- One action of a run. -/
def handlerStep (h : Handler) : HandlerAction → Option Handler
  | .deliver =>
    match h.consumer, h.pending with
    | .selecting, e :: rest =>
      some (handleError { h with pending := rest, received := h.received ++ [e] } e)
    | _, _ => none
  | .cancel => if h.ctxDone then none else some { h with ctxDone := true }
  | .done =>
    match h.consumer with
    | .selecting => if h.ctxDone then some { h with consumer := .returned } else none
    | _ => none

/-- `NewErrorHandler(ctx, c)`: the consumer at its `select`, the pipeline about to send `errors`,
    the context live. -/
def newErrorHandler (errors : List PipelineError) : Handler := ⟨.selecting, errors, false, [], []⟩

/-! ## One-shot handling -/

@[simp] theorem handleError_received (h : Handler) (e : PipelineError) :
    (handleError h e).received = h.received := by
  cases e with
  | scheduler err node => cases node <;> rfl
  | other msg => rfl

@[simp] theorem handleError_pending (h : Handler) (e : PipelineError) :
    (handleError h e).pending = h.pending := by
  cases e with
  | scheduler err node => cases node <;> rfl
  | other msg => rfl

theorem handleError_consumer (h : Handler) (e : PipelineError) :
    (handleError h e).consumer ≠ .selecting := by
  cases e with
  | scheduler err node => cases node <;> simp [handleError]
  | other msg => simp [handleError]

theorem handleError_teardowns (h : Handler) (e : PipelineError)
    (hc : (handleError h e).consumer ≠ .crashed) :
    (handleError h e).teardowns = h.teardowns ++ (teardownOf e).toList := by
  cases e with
  | scheduler err node =>
    cases node with
    | none => simp [handleError] at hc
    | some node => by_cases hu : node.instanceUUID = "" <;> simp [handleError, teardownOf, hu]
  | other msg => simp [handleError, teardownOf]

/-- What holds in every run: nothing received while the consumer still selects, at most one error
    received, and a teardown for it exactly when it asks for one, unless the consumer crashed. -/
structure HandlerInv (h : Handler) : Prop where
  selecting : h.consumer = .selecting → h.received = []
  at_most_one : h.received.length ≤ 1
  teardowns : h.consumer ≠ .crashed → h.teardowns = h.received.flatMap fun e => (teardownOf e).toList

theorem handlerStep_inv (h : Handler) (a : HandlerAction) (h' : Handler) (hi : HandlerInv h)
    (hs : handlerStep h a = some h') : HandlerInv h' := by
  cases a with
  | deliver =>
    simp only [handlerStep] at hs
    split at hs
    · rename_i e rest hc _
      cases hs
      have h0 := hi.selecting hc
      refine ⟨fun hc' => absurd hc' (handleError_consumer _ _), by simp [h0], fun hc' => ?_⟩
      rw [handleError_teardowns _ _ hc', hi.teardowns (by simp [hc])]
      simp [h0]
    · cases hs
  | cancel =>
    simp only [handlerStep] at hs
    split at hs
    · cases hs
    · cases hs; exact ⟨hi.selecting, hi.at_most_one, hi.teardowns⟩
  | done =>
    simp only [handlerStep] at hs
    split at hs
    · split at hs
      · cases hs
        exact ⟨(nomatch ·), hi.at_most_one, fun _ => hi.teardowns (by simp [*])⟩
      · cases hs
    · cases hs

/-- The handler's invariant: at most one error received, and a deletion exactly for a received
    `SchedulerError` whose node has an `InstanceUUID`, unless the consumer crashed. -/
theorem reachable_handler (errors : List PipelineError) (h : Handler)
    (hr : Reachable handlerStep (newErrorHandler errors) h) : HandlerInv h :=
  hr.invariant ⟨fun _ => rfl, by simp [newErrorHandler], fun _ => rfl⟩ handlerStep_inv

/-- Two errors sent while the context is live: the consumer handles the first and returns, so the
    second send never completes and no run receives both; and a `SchedulerError` with a nil node
    crashes the consumer. -/
theorem initHandler_handles_one_error :
    run handlerStep (newErrorHandler [.other "a", .other "b"]) [.deliver] =
      some ⟨.returned, [.other "b"], false, [.other "a"], []⟩ ∧
    handlerStep ⟨.returned, [.other "b"], false, [.other "a"], []⟩ .deliver = none ∧
    (∀ h, Reachable handlerStep (newErrorHandler [.other "a", .other "b"]) h →
      h.received ≠ [.other "a", .other "b"]) ∧
    run handlerStep (newErrorHandler [.scheduler "e" none]) [.deliver] =
      some ⟨.crashed, [], false, [.scheduler "e" none], []⟩ := by
  refine ⟨rfl, rfl, fun h hr hrec => ?_, rfl⟩
  have := (reachable_handler _ h hr).at_most_one
  simp [hrec] at this

end IronicTemper
