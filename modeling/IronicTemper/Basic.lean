import Mathlib.Data.List.Basic

set_option autoImplicit false

/-! # The data the temper clients read and write

The clients (`pkg/clients/openstack.go`) act on a `model.IronicNode` through pointer mutation,
tell remote errors apart by type, and can stop the process with a runtime panic. This file fixes
the node record (only the fields a modelled function uses), Go's errors and panics, and runs of a
step function. The other modules model a Go function as a pure function from the node and the
remote answers to the error it returns and the node it leaves. -/

namespace IronicTemper

/-! ## Errors and panics -/

/-- Error values as the clients tell them apart. -/
inductive GoError where
  /-- `gophercloud.ErrDefault409`: the remote resource is locked or already exists. -/
  | conflict
  /-- Any other error of a remote call, by its text. -/
  | remote (msg : String)
  /-- `wait.ErrWaitTimeout`: `wait.Poll` ran out of time. -/
  | waitTimeout
  /-- An error built by `fmt.Errorf`, by its text. -/
  | errorf (msg : String)
  deriving DecidableEq, Repr

/-- Runtime panics, which end the whole process. -/
inductive Panic where
  /-- `index out of range`, from indexing a slice past its end. -/
  | indexOutOfRange
  /-- `invalid memory address or nil pointer dereference`. -/
  | nilDereference
  /-- `send on closed channel`. -/
  | sendOnClosedChannel
  /-- `integer divide by zero`. -/
  | integerDivideByZero
  deriving DecidableEq, Repr

/-- One answer of a remote call, as a condition function inspects it: the value on success,
    a 409 (the resource is locked), or any other error. -/
inductive Reply (α : Type) where
  | ok (a : α)
  | conflict
  | failed (msg : String)
  deriving DecidableEq, Repr

/-- The error a remote call returns with this answer (`nil` on success). -/
@[simp] def Reply.err {α : Type} : Reply α → Option GoError
  | .ok _ => none
  | .conflict => some .conflict
  | .failed msg => some (.remote msg)

/-! ## The node record -/

/-- `model.Disk` (and `model.RootDisk`, which has the same fields). -/
structure Disk where
  name : String := ""
  model : String := ""
  vendor : String := ""
  size : Int := 0
  rotational : Bool := false
  deriving DecidableEq, Repr

/-- The part of `model.InspectonData` the clients read and write. -/
structure InspectonData where
  /-- `Inventory.Memory.PhysicalMb`. -/
  physicalMb : Int := 0
  /-- `Inventory.CPU.Count`. -/
  cpuCount : Int := 0
  /-- `Inventory.Disks`. -/
  disks : List Disk := []
  /-- `RootDisk`. -/
  rootDisk : Disk := {}
  /-- `Inventory.SystemVendor.Manufacturer`. -/
  manufacturer : String := ""
  /-- `Inventory.SystemVendor.SerialNumber`. -/
  serialNumber : String := ""
  /-- `Inventory.SystemVendor.ProductName`. -/
  productName : String := ""
  /-- `Inventory.CPU.Architecture`. -/
  cpuArchitecture : String := ""
  /-- `Inventory.Boot.PxeInterface`. -/
  pxeInterface : String := ""
  /-- `Inventory.Boot.CurrentBootMode`. -/
  currentBootMode : String := ""
  /-- `BootInterface`. -/
  bootInterface : String := ""
  deriving DecidableEq, Repr

/-- `model.IronicNode`: the fields the modelled client functions read or write. -/
structure IronicNode where
  uuid : String := ""
  name : String := ""
  host : String := ""
  ip : String := ""
  resourceClass : String := ""
  instanceUUID : String := ""
  instanceIPv4 : String := ""
  inspectionData : InspectonData := {}
  deriving DecidableEq, Repr

/-! ## Runs of a step function

The concurrent parts (the worker pool, the error handler) are step functions
`next : σ → α → Option σ`, with `none` when action `a` is not enabled in the state. -/

/-- The states `next` reaches from `s₀`, one enabled action after another. -/
inductive Reachable {σ α : Type} (next : σ → α → Option σ) (s₀ : σ) : σ → Prop where
  | init : Reachable next s₀ s₀
  | step {s s' : σ} (a : α) : Reachable next s₀ s → next s a = some s' → Reachable next s₀ s'

/-- An invariant that holds at the start and that every enabled action keeps holds in every
    reachable state. -/
theorem Reachable.invariant {σ α : Type} {next : σ → α → Option σ} {s₀ s : σ} {P : σ → Prop}
    (h0 : P s₀) (hstep : ∀ s a s', P s → next s a = some s' → P s')
    (h : Reachable next s₀ s) : P s := by
  induction h with
  | init => exact h0
  | step a _ hs ih => exact hstep _ a _ ih hs

/-- The run of a list of actions: `none` as soon as one is not enabled. -/
def run {σ α : Type} (next : σ → α → Option σ) : σ → List α → Option σ
  | s, [] => some s
  | s, a :: as => (next s a).bind fun s' => run next s' as

theorem run_append {σ α : Type} (next : σ → α → Option σ) (s : σ) (as bs : List α) :
    run next s (as ++ bs) = (run next s as).bind fun s' => run next s' bs := by
  induction as generalizing s with
  | nil => rfl
  | cons a as ih =>
    simp only [List.cons_append, run]
    cases next s a <;> simp [ih]

/-! ## Binds in `Except` -/

@[simp] theorem except_pure {ε α : Type} (a : α) : (pure a : Except ε α) = .ok a := rfl

@[simp] theorem except_ok_bind {ε α β : Type} (a : α) (f : α → Except ε β) :
    (Except.ok a >>= f) = f a := rfl

@[simp] theorem except_error_bind {ε α β : Type} (e : ε) (f : α → Except ε β) :
    (Except.error e >>= f) = .error e := rfl

theorem except_bind_eq_ok {ε α β : Type} {x : Except ε α} {f : α → Except ε β} {b : β}
    (h : x >>= f = .ok b) : ∃ a, x = .ok a ∧ f a = .ok b := by
  cases x with
  | error e => cases h
  | ok a => exact ⟨a, rfl, h⟩

theorem foldlM_except_invariant {ε σ α : Type} {f : σ → α → Except ε σ} {P : σ → Prop}
    (hstep : ∀ s a s', P s → f s a = .ok s' → P s') :
    ∀ {s s' : σ} (as : List α), P s → as.foldlM f s = .ok s' → P s'
  | _, _, [], hs, h => by cases h; exact hs
  | s, _, a :: as, hs, h => by
    rw [List.foldlM_cons] at h
    obtain ⟨s₁, hf, h⟩ := except_bind_eq_ok h
    exact foldlM_except_invariant hstep as (hstep s a s₁ hs hf) h

theorem Reachable.of_run {σ α : Type} {next : σ → α → Option σ} {s₀ : σ} :
    ∀ {s s' : σ} {as : List α}, Reachable next s₀ s → run next s as = some s' →
      Reachable next s₀ s'
  | _, _, [], hs, h => by cases h; exact hs
  | s, _, a :: as, hs, h => by
    cases hn : next s a with
    | none => simp [run, hn] at h
    | some s₁ =>
      simp only [run, hn, Option.bind_some] at h
      exact Reachable.of_run (hs.step a hn) h

end IronicTemper
