import IronicTemper.Basic

set_option autoImplicit false

/-! # `wait.Poll` and the baremetal calls that wait

`wait.Poll(interval, timeout, cf)` runs `cf` once per tick until it reports done or an error, or the
ticks the timeout allows are used up; `poll` takes the remote answers `cf` sees, one per attempt,
and their number is the budget (`poll_eq_find`). Three condition shapes occur: `lockedCondition`
retries on a 409 and fails on any other error (`poll_lockedCondition`); `updateNodeCondition`
retries on every error, so `updateNode` only ever returns the timeout (`updateNode_eq`); and
`readyCondition` waits for a remote state and fails on any error (`poll_readyCondition`). -/

namespace IronicTemper

/-! ## The poll loop -/

/-- What a `wait.ConditionFunc` returns: whether the wait is over, and an error that ends it. -/
abbrev CondResult := Bool × Option GoError

/-- Whether a condition's result ends the wait: it says done or gives an error. -/
def CondResult.decides (c : CondResult) : Bool := c.1 || c.2.isSome

/-- `wait.Poll` over a budget of attempts. `replies` are the answers the condition inspects, one
    per attempt. An error ends the wait with that error, done ends it with `nil`, and a used-up
    budget ends it with `wait.ErrWaitTimeout`. -/
def poll {α : Type} (condition : α → CondResult) : List α → Option GoError
  | [] => some .waitTimeout
  | r :: rs =>
    match condition r with
    | (_, some e) => some e
    | (true, none) => none
    | (false, none) => poll condition rs

/-- The condition of `updatePorts` and of `ProvideNode`'s state changes: a 409 means the node is
    locked and the wait goes on; any other error ends it. -/
def lockedCondition (r : Reply Unit) : CondResult :=
  match r.err with
  | none => (true, none)
  | some .conflict => (false, none)
  | some e => (true, some e)

/-- The condition of `updateNode`: every error keeps the wait going. -/
def updateNodeCondition (r : Reply Unit) : CondResult :=
  if r.err.isSome then (false, none) else (true, none)

/-- Whether an answer ends a wait for a remote state: an error always does, a reply once `ready`
    holds of it. -/
def Reply.settles {α : Type} (ready : α → Bool) : Reply α → Bool
  | .ok a => ready a
  | _ => true

/-- The conditions that wait for the remote side to reach a state: a reply that is not `ready`
    keeps the wait going, and an error ends it, reported through `onError`. `doneOnError` is the
    flag returned beside the error, which `wait.Poll` does not read. -/
def readyCondition {α : Type} (doneOnError : Bool) (onError : GoError → GoError)
    (ready : α → Bool) : Reply α → CondResult
  | .ok a => (ready a, none)
  | r => (doneOnError, r.err.map onError)

/-- The condition of `ProvideNode`'s last wait: the node must reach `available`; an error reading
    the node ends the wait. -/
def availableCondition : Reply String → CondResult :=
  readyCondition true id (· == "available")

/-- The condition of `PowerNodeOn`: the node must report `power on`; an error reading the node
    ends the wait with its own message. -/
def powerOnCondition : Reply String → CondResult :=
  readyCondition false (fun _ => .errorf "cannot power on node") (· == "power on")

/-- A hypervisor as `hypervisors.ExtractHypervisors` returns it (the fields the wait reads). -/
structure Hypervisor where
  hypervisorHostname : String
  localGB : Int
  memoryMB : Int
  deriving DecidableEq, Repr

/-- The condition of `WaitForNovaPropagation`: some hypervisor named by the node's UUID must have
    disk and memory; an error listing or extracting the hypervisors ends the wait. -/
def propagatedCondition (uuid : String) : Reply (List Hypervisor) → CondResult :=
  readyCondition true id fun hys =>
    hys.any fun hv => hv.hypervisorHostname == uuid && (hv.localGB > 0 && hv.memoryMB > 0)

/-- The condition of `DeleteNode`: a successful delete ends the wait, and so does any error. -/
def deleteCondition : Reply Unit → CondResult :=
  readyCondition false id fun _ => true

/-! ## The client calls -/

/-- `Client.updatePorts`: list the node's ports, then update each in turn, every update polled
    under `lockedCondition`; the first port whose poll fails ends the loop with its error.
    `updates p` are the answers to the update requests for port `p`. -/
def updatePorts {Port : Type} (updates : Port → List (Reply Unit)) :
    Except GoError (List Port) → Option GoError
  | .error e => some e
  | .ok ps => ps.findSome? fun p => poll lockedCondition (updates p)

/-- `Client.updateNode`: patch the node, polled under `updateNodeCondition`. -/
def updateNode (replies : List (Reply Unit)) : Option GoError :=
  poll updateNodeCondition replies

/-- `Client.ProvideNode`: move the node to `manage`, then to `provide`, each polled under
    `lockedCondition`, then wait until it is `available`. -/
def provideNode (manage provide : List (Reply Unit)) (available : List (Reply String)) :
    Option GoError :=
  match poll lockedCondition manage with
  | some e => some e
  | none =>
    match poll lockedCondition provide with
    | some e => some e
    | none => poll availableCondition available

/-- `Client.PowerNodeOn`: request `power on` (`change` is the request's error, a 409 or another),
    then wait until the node reports it. -/
def powerNodeOn (uuid : String) (change : Option GoError) (states : List (Reply String)) :
    Option GoError :=
  match change with
  | some _ => some (.errorf ("cannot power on node " ++ uuid))
  | none => poll powerOnCondition states

/-- `Client.WaitForNovaPropagation`: `lists` are the answers of `hypervisors.List`, one per
    attempt. -/
def waitForNovaPropagation (uuid : String) (lists : List (Reply (List Hypervisor))) :
    Option GoError :=
  poll (propagatedCondition uuid) lists

/-- `Client.DeleteNode`: `deletes` are the answers of `nodes.Delete`, one per attempt. -/
def deleteNode (deletes : List (Reply Unit)) : Option GoError :=
  poll deleteCondition deletes

/-! ## A poll ends at the first answer that decides -/

@[simp] theorem poll_nil {α : Type} (condition : α → CondResult) :
    poll condition [] = some .waitTimeout := rfl

/-- A poll ends at the first answer whose condition says done or gives an error: with that error,
    or `nil` if there is none; it times out when no answer does either. -/
theorem poll_eq_find {α : Type} (condition : α → CondResult) (rs : List α) :
    poll condition rs =
      match rs.find? fun r => (condition r).decides with
      | none => some .waitTimeout
      | some r => (condition r).2 := by
  induction rs with
  | nil => rfl
  | cons r rs ih =>
    rw [poll, List.find?_cons]
    rcases hc : condition r with ⟨_ | _, _ | e⟩ <;> simp [hc, ih, CondResult.decides]

/-! ## Polls under lock-conflict semantics -/

theorem poll_lockedCondition (rs : List (Reply Unit)) :
    poll lockedCondition rs =
      match rs.find? (· != .conflict) with
      | none => some .waitTimeout
      | some r => r.err := by
  have hp : (fun r => (lockedCondition r).decides) = (· != Reply.conflict) := by
    funext r; cases r <;> rfl
  rw [poll_eq_find, hp]
  cases hr : rs.find? (· != .conflict) with
  | none => rfl
  | some r =>
    have hne := List.find?_some hr
    cases r with
    | conflict => simp at hne
    | ok u => rfl
    | failed msg => rfl

/-! ## `updateNode` swallows every error -/

/-- `updateNode` succeeds iff some attempt succeeds, and times out otherwise: whatever error the
    remote answers, the caller only ever sees the timeout. -/
theorem updateNode_eq (rs : List (Reply Unit)) :
    updateNode rs = if .ok () ∈ rs then none else some .waitTimeout := by
  have hp : (fun r => (updateNodeCondition r).decides) = (· == Reply.ok ()) := by
    funext r; cases r <;> rfl
  rw [updateNode, poll_eq_find, hp]
  split
  next h => rw [if_neg fun hm => List.find?_eq_none.1 h (.ok ()) hm rfl]
  next r h =>
    obtain rfl : r = .ok () := by simpa using List.find?_some h
    rw [if_pos (List.mem_of_find?_eq_some h)]; rfl

/-- One attempt answered with a non-409 error: `updateNode` times out where the condition of
    `updatePorts` and `ProvideNode` returns the error. -/
theorem updateNode_times_out_on_remote_error (msg : String) :
    updateNode [.failed msg] = some .waitTimeout ∧
      poll lockedCondition [.failed msg] = some (.remote msg) :=
  ⟨by simp [updateNode_eq], rfl⟩

/-! ## Waits for a remote state -/

theorem poll_readyCondition {α : Type} (doneOnError : Bool) (onError : GoError → GoError)
    (ready : α → Bool) (rs : List (Reply α)) :
    poll (readyCondition doneOnError onError ready) rs =
      match rs.find? (Reply.settles ready) with
      | none => some .waitTimeout
      | some r => r.err.map onError := by
  have hp : (fun r => (readyCondition doneOnError onError ready r).decides) =
      Reply.settles ready := by
    funext r; cases r <;> simp [readyCondition, Reply.settles, CondResult.decides]
  rw [poll_eq_find, hp]
  cases rs.find? (Reply.settles ready) with
  | none => rfl
  | some r => cases r <;> rfl

/-- `DeleteNode` accepts any answer, so it makes exactly one attempt: it returns the first
    delete's error, the 409 of a locked node included, and times out only on an empty budget. -/
theorem deleteNode_eq (rs : List (Reply Unit)) :
    deleteNode rs =
      match rs with
      | [] => some .waitTimeout
      | r :: _ => r.err := by
  rw [deleteNode, deleteCondition, poll_readyCondition]
  cases rs with
  | nil => rfl
  | cons r rs => cases r <;> rfl

/-- `PowerNodeOn` never returns the remote error: it succeeds, times out, or fails with one of its
    two messages, whatever the request and the reads of the node answer. -/
theorem powerNodeOn_cases (uuid : String) (change : Option GoError)
    (states : List (Reply String)) :
    powerNodeOn uuid change states ∈ [none, some .waitTimeout,
      some (.errorf "cannot power on node"), some (.errorf ("cannot power on node " ++ uuid))] := by
  cases change with
  | some e => simp [powerNodeOn]
  | none =>
    rw [powerNodeOn, powerOnCondition, poll_readyCondition]
    cases states.find? (Reply.settles (· == "power on")) with
    | none => simp
    | some r => cases r <;> simp

/-! ## When the client calls succeed -/

theorem poll_lockedCondition_eq_none_iff (rs : List (Reply Unit)) :
    poll lockedCondition rs = none ↔ rs.find? (· != .conflict) = some (.ok ()) := by
  rw [poll_lockedCondition]
  cases rs.find? (· != .conflict) with
  | none => simp
  | some r => cases r <;> simp

/-- `updatePorts` succeeds exactly when the ports can be listed and each takes its update before
    409s use up the budget. -/
theorem updatePorts_eq_none_iff {Port : Type} (updates : Port → List (Reply Unit))
    (ports : Except GoError (List Port)) :
    updatePorts updates ports = none ↔
      ∃ ps, ports = .ok ps ∧ ∀ p ∈ ps, (updates p).find? (· != .conflict) = some (.ok ()) := by
  cases ports with
  | error e => simp [updatePorts]
  | ok ps => simp [updatePorts, List.findSome?_eq_none_iff, poll_lockedCondition_eq_none_iff]

/-- `ProvideNode` succeeds exactly when both moves go through before 409s use up their budget and
    the node then reads `available` before a read fails. -/
theorem provideNode_eq_none_iff (manage provide : List (Reply Unit))
    (available : List (Reply String)) :
    provideNode manage provide available = none ↔
      manage.find? (· != .conflict) = some (.ok ()) ∧
        provide.find? (· != .conflict) = some (.ok ()) ∧
        available.find? (Reply.settles (· == "available")) = some (.ok "available") := by
  have hav : poll availableCondition available = none ↔
      available.find? (Reply.settles (· == "available")) = some (.ok "available") := by
    rw [availableCondition, poll_readyCondition]
    cases h : available.find? (Reply.settles (· == "available")) with
    | none => simp
    | some r => have hs := List.find?_some h; cases r <;> simp_all [Reply.settles]
  rw [← poll_lockedCondition_eq_none_iff, ← poll_lockedCondition_eq_none_iff, ← hav, provideNode]
  cases poll lockedCondition manage <;> cases poll lockedCondition provide <;> simp

/-- `WaitForNovaPropagation` returns `nil` exactly when some listing of the hypervisors shows one
    named by the node's UUID with disk and memory, before any listing fails. -/
theorem waitForNovaPropagation_eq_none_iff (uuid : String) (lists : List (Reply (List Hypervisor))) :
    waitForNovaPropagation uuid lists = none ↔
      ∃ hys, lists.find? (Reply.settles fun hys => hys.any fun hv =>
          hv.hypervisorHostname == uuid && (hv.localGB > 0 && hv.memoryMB > 0)) = some (.ok hys) := by
  rw [waitForNovaPropagation, propagatedCondition, poll_readyCondition]
  cases lists.find? _ with
  | none => simp
  | some r => cases r <;> simp

end IronicTemper
