import IronicTemper.Basic
import Mathlib.Data.Fintype.Basic

set_option autoImplicit false

/-! # The worker pool

`Worker.Start` loops: it announces its `JobChan` on `Queue`, then `select`s between a job on
`JobChan`, which it runs, and `Quit`, on which it closes `JobChan` and returns. The dispatcher is
not in the sources; as the spec describes it, it takes a slot from `Queue` and sends the next job
on it. The model is a step function over `W` workers, an unbounded `Queue` and `JobChan` buffers
of capacity `cap` (`cap = 0` is unbuffered); job `j` is the `j`-th send.

`reachable_pool` is the pool's invariant: no job is started twice, and at most `W` are in flight.
A worker that takes `Quit` with its slot announced breaks the design (`worker_quit_loses_job`).
Every run accounts for each job sent (`reachable_pool_jobs_accounted`), never starts one left in a
returned worker's slot (`exited_slot_job_never_started`), and, while no worker has returned, sends
the next job within five steps (`reachable_pool_sends_next_job`). -/

namespace IronicTemper

/-- Where a `Worker.Start` goroutine stands. -/
inductive WorkerState where
  /-- At the top of the loop, about to send its `JobChan` on `Queue`. -/
  | announcing
  /-- In its `select`. -/
  | selecting
  /-- Running job `j`. -/
  | running (j : Nat)
  /-- Returned, after closing its `JobChan`. -/
  | exited
  deriving DecidableEq, Repr

/-- The dispatcher, which the sources do not contain: it takes a slot from `Queue`, then holds
    worker `w`'s slot until the pending job is sent on it. -/
inductive Dispatcher (W : Nat) where
  | taking
  | holding (w : Fin W)
  deriving DecidableEq, Repr

/-- The pool: the workers, their `Quit` signals and `JobChan` buffers, the `Queue`, the
    dispatcher, the number of jobs sent so far, and, for the proofs, every (worker, job) receipt in
    order and whether a send on a closed channel panicked. -/
structure Pool (W : Nat) where
  worker : Fin W → WorkerState
  quit : Fin W → Bool
  buf : Fin W → List Nat
  queue : List (Fin W)
  dispatcher : Dispatcher W
  sent : Nat
  started : List (Fin W × Nat)
  crashed : Bool

/-- The actions of a run. -/
inductive PoolAction (W : Nat) where
  /-- `w.Queue <- w.JobChan`. -/
  | announce (w : Fin W)
  /-- `case job := <-w.JobChan`, from the buffer. -/
  | receive (w : Fin W)
  /-- The job's `Temper` has returned; back to the top of the loop. -/
  | finish (w : Fin W)
  /-- `Quit` is signalled to `w`. -/
  | signal (w : Fin W)
  /-- `case <-w.Quit: close(w.JobChan); return`. -/
  | quit (w : Fin W)
  /-- The dispatcher takes a slot from `Queue`. -/
  | take
  /-- The dispatcher sends the pending job on the slot it holds. -/
  | send
  deriving DecidableEq, Repr

variable {W : Nat}

/-- All workers at the top of their loop, nothing announced, nothing sent. -/
def Pool.init (W : Nat) : Pool W :=
  ⟨fun _ => .announcing, fun _ => false, fun _ => [], [], .taking, 0, [], false⟩

/-- One action, for `JobChan` buffers of capacity `cap` and `jobs` jobs to dispatch. -/
def poolStep (cap jobs : Nat) (p : Pool W) : PoolAction W → Option (Pool W)
  | .announce w =>
    if p.worker w = .announcing then
      some { p with worker := Function.update p.worker w .selecting, queue := p.queue ++ [w] }
    else none
  | .receive w =>
    match p.worker w, p.buf w with
    | .selecting, j :: rest =>
      some { p with worker := Function.update p.worker w (.running j),
                    buf := Function.update p.buf w rest, started := p.started ++ [(w, j)] }
    | _, _ => none
  | .finish w =>
    match p.worker w with
    | .running _ => some { p with worker := Function.update p.worker w .announcing }
    | _ => none
  | .signal w => if p.quit w then none else some { p with quit := Function.update p.quit w true }
  | .quit w =>
    if p.worker w = .selecting ∧ p.quit w then
      some { p with worker := Function.update p.worker w .exited }
    else none
  | .take =>
    match p.dispatcher, p.queue with
    | .taking, w :: rest => if p.sent < jobs then some { p with dispatcher := .holding w, queue := rest }
      else none
    | _, _ => none
  | .send =>
    match p.dispatcher with
    | .taking => none
    | .holding w =>
      if p.worker w = .exited then some { p with crashed := true }
      else if cap = 0 then
        if p.worker w = .selecting then
          some { p with worker := Function.update p.worker w (.running p.sent), dispatcher := .taking,
                        sent := p.sent + 1, started := p.started ++ [(w, p.sent)] }
        else none
      else if (p.buf w).length < cap then
        some { p with buf := Function.update p.buf w (p.buf w ++ [p.sent]), dispatcher := .taking,
                      sent := p.sent + 1 }
      else none

/-- A crashed process takes no further step. -/
def poolNext (cap jobs : Nat) (p : Pool W) (a : PoolAction W) : Option (Pool W) :=
  if p.crashed then none else poolStep cap jobs p a

/-! ## The pool's invariant -/

/-- Worker `w`'s announcement not yet answered: its slot in `Queue`, its slot held by the
    dispatcher, or a job sent on its slot and not yet received. -/
def outstanding (p : Pool W) (w : Fin W) : Nat :=
  p.queue.count w + (if p.dispatcher = .holding w then 1 else 0) + (p.buf w).length

/-- How many unanswered announcements a worker in each state has: none at the top of the loop or
    while running a job, exactly one in its `select`, at most one after it returned. -/
def WorkerState.Outstanding : WorkerState → Nat → Prop
  | .announcing, k => k = 0
  | .selecting, k => k = 1
  | .running _, k => k = 0
  | .exited, k => k ≤ 1

/-- The job a worker is running, if any. -/
def WorkerState.runningJob : WorkerState → Option Nat
  | .running j => some j
  | _ => none

/-- The invariant of the pool. -/
structure PoolInv (p : Pool W) : Prop where
  slots : ∀ w, (p.worker w).Outstanding (outstanding p w)
  started_nodup : (p.started.map Prod.snd).Nodup
  started_lt : ∀ x ∈ p.started, x.2 < p.sent
  buf_lt : ∀ w, ∀ j ∈ p.buf w, j < p.sent
  buf_fresh : ∀ w, ∀ j ∈ p.buf w, j ∉ p.started.map Prod.snd
  buf_disjoint : ∀ w w', ∀ j ∈ p.buf w, j ∈ p.buf w' → w = w'
  running_started : ∀ w j, p.worker w = .running j → (w, j) ∈ p.started

theorem WorkerState.outstanding_le {s : WorkerState} {k : Nat} (h : s.Outstanding k) : k ≤ 1 := by
  cases s <;> simp only [WorkerState.Outstanding] at h <;> omega

theorem PoolInv.outstanding_le {p : Pool W} (hi : PoolInv p) (w : Fin W) : outstanding p w ≤ 1 :=
  WorkerState.outstanding_le (hi.slots w)

theorem started_append {p : Pool W} {w : Fin W} {j n : Nat} (hi : PoolInv p)
    (hfresh : j ∉ p.started.map Prod.snd) (hn : ∀ x ∈ p.started, x.2 < n) (hj : j < n) :
    ((p.started ++ [(w, j)]).map Prod.snd).Nodup ∧ ∀ x ∈ p.started ++ [(w, j)], x.2 < n := by
  refine ⟨by simpa [List.nodup_append, hfresh] using hi.started_nodup, fun x hx => ?_⟩
  rcases List.mem_append.1 hx with hx | hx
  · exact hn x hx
  · rw [List.mem_singleton.1 hx]; exact hj

theorem poolInv_init : PoolInv (Pool.init W) := by
  constructor <;> simp [Pool.init, outstanding, WorkerState.Outstanding]

section Step
variable {cap jobs : Nat} {p p' : Pool W}

theorem poolStep_announce_inv {w : Fin W} (hi : PoolInv p)
    (hs : poolStep cap jobs p (.announce w) = some p') : PoolInv p' := by
  simp only [poolStep] at hs
  split_ifs at hs with hw
  cases hs
  refine ⟨fun w' => ?_, hi.started_nodup, hi.started_lt, hi.buf_lt, hi.buf_fresh, hi.buf_disjoint,
    fun w' j hj => ?_⟩
  · have h := hi.slots w'
    by_cases hww : w' = w
    · subst hww
      rw [hw] at h
      simp only [WorkerState.Outstanding, outstanding] at h ⊢
      simp [List.count_append]
      omega
    · simpa [outstanding, Function.update_noteq hww, List.count_append, List.count_singleton',
        Ne.symm hww] using h
  · by_cases hww : w' = w
    · subst hww; simp at hj
    · exact hi.running_started w' j (by simpa [Function.update_noteq hww] using hj)

theorem PoolInv.running_started_start (hi : PoolInv p) {w : Fin W} {j : Nat} :
    ∀ w' j', Function.update p.worker w (.running j) w' = .running j' →
      (w', j') ∈ p.started ++ [(w, j)] := by
  intro w' j' hj
  by_cases hww : w' = w
  · subst hww; simp at hj; simp [hj]
  · rw [Function.update_noteq hww] at hj
    exact List.mem_append_left _ (hi.running_started w' j' hj)

theorem poolStep_receive_inv {w : Fin W} (hi : PoolInv p)
    (hs : poolStep cap jobs p (.receive w) = some p') : PoolInv p' := by
  simp only [poolStep] at hs
  split at hs
  · rename_i j rest hw hb
    cases hs
    have h1 := hi.slots w
    rw [hw] at h1
    simp only [WorkerState.Outstanding, outstanding, hb, List.length_cons] at h1
    obtain rfl : rest = [] := List.eq_nil_of_length_eq_zero (by omega)
    have hj_fresh := hi.buf_fresh w j (by simp [hb])
    have hj_lt := hi.buf_lt w j (by simp [hb])
    obtain ⟨hnodup, hlt⟩ := started_append (w := w) hi hj_fresh hi.started_lt hj_lt
    have hsub : ∀ w', ∀ j' ∈ Function.update p.buf w [] w', j' ∈ p.buf w' ∧ w' ≠ w := by
      intro w' j' hj'
      by_cases hww : w' = w
      · subst hww; simp at hj'
      · exact ⟨by simpa [Function.update_noteq hww] using hj', hww⟩
    refine ⟨fun w' => ?_, hnodup, hlt, fun w' j' hj' => hi.buf_lt w' j' (hsub w' j' hj').1,
      fun w' j' hj' => ?_,
      fun w₁ w₂ j' h₁ h₂ => hi.buf_disjoint w₁ w₂ j' (hsub _ _ h₁).1 (hsub _ _ h₂).1,
      hi.running_started_start⟩
    · by_cases hww : w' = w
      · subst hww
        simp only [Function.update_same, WorkerState.Outstanding, outstanding, List.length_nil]
        omega
      · simpa [outstanding, Function.update_noteq hww] using hi.slots w'
    · obtain ⟨hj'b, hww⟩ := hsub w' j' hj'
      have hne : j' ≠ j := fun he => hww (hi.buf_disjoint w' w j' hj'b (by simp [hb, he]))
      simpa [hne] using hi.buf_fresh w' j' hj'b
  · cases hs

theorem PoolInv.setWorker (hi : PoolInv p) {w : Fin W} {s : WorkerState}
    (hs : s.runningJob = none) (ho : s.Outstanding (outstanding p w)) :
    PoolInv { p with worker := Function.update p.worker w s } := by
  refine ⟨fun w' => ?_, hi.started_nodup, hi.started_lt, hi.buf_lt, hi.buf_fresh, hi.buf_disjoint,
    fun w' j hj => ?_⟩
  · by_cases hww : w' = w
    · subst hww; simpa only [Function.update_same] using ho
    · simpa only [Function.update_noteq hww] using hi.slots w'
  · by_cases hww : w' = w
    · subst hww
      simp only [Function.update_same] at hj
      simp [hj, WorkerState.runningJob] at hs
    · exact hi.running_started w' j (by simpa only [Function.update_noteq hww] using hj)

theorem poolStep_finish_inv {w : Fin W} (hi : PoolInv p)
    (hs : poolStep cap jobs p (.finish w) = some p') : PoolInv p' := by
  simp only [poolStep] at hs
  split at hs
  · rename_i j hw
    cases hs
    exact hi.setWorker rfl (by simpa only [hw] using hi.slots w)
  · cases hs

theorem poolStep_signal_inv {w : Fin W} (hi : PoolInv p)
    (hs : poolStep cap jobs p (.signal w) = some p') : PoolInv p' := by
  simp only [poolStep] at hs
  split_ifs at hs
  cases hs
  exact ⟨hi.slots, hi.started_nodup, hi.started_lt, hi.buf_lt, hi.buf_fresh, hi.buf_disjoint,
    hi.running_started⟩

theorem poolStep_quit_inv {w : Fin W} (hi : PoolInv p)
    (hs : poolStep cap jobs p (.quit w) = some p') : PoolInv p' := by
  simp only [poolStep] at hs
  split_ifs at hs with hw
  cases hs
  have h := hi.slots w
  rw [hw.1] at h
  exact hi.setWorker rfl (show outstanding p w = 1 from h).le

theorem poolStep_take_inv (hi : PoolInv p) (hs : poolStep cap jobs p .take = some p') :
    PoolInv p' := by
  simp only [poolStep] at hs
  split at hs
  · rename_i w rest hd hq
    split_ifs at hs
    cases hs
    have ho : ∀ w', outstanding { p with dispatcher := .holding w, queue := rest } w' =
        outstanding p w' := by
      intro w'
      by_cases hww : w = w' <;> simp [outstanding, hd, hq, List.count_cons, hww]
    refine ⟨fun w' => ?_, hi.started_nodup, hi.started_lt, hi.buf_lt, hi.buf_fresh, hi.buf_disjoint,
      hi.running_started⟩
    rw [ho w']
    exact hi.slots w'
  · cases hs

/-- What a send can do: panic on a closed slot, hand the job over to a worker in its `select`
    (unbuffered slot), or put it in the slot's buffer. -/
theorem poolStep_send_cases (hs : poolStep cap jobs p .send = some p') :
    ∃ w, p.dispatcher = .holding w ∧
      (p.worker w = .exited ∧ p' = { p with crashed := true } ∨
        cap = 0 ∧ p.worker w = .selecting ∧
          p' = { p with worker := Function.update p.worker w (.running p.sent),
                        dispatcher := .taking, sent := p.sent + 1,
                        started := p.started ++ [(w, p.sent)] } ∨
        p.worker w ≠ .exited ∧
          p' = { p with buf := Function.update p.buf w (p.buf w ++ [p.sent]),
                        dispatcher := .taking, sent := p.sent + 1 }) := by
  simp only [poolStep] at hs
  split at hs
  · cases hs
  · rename_i w hd
    refine ⟨w, hd, ?_⟩
    split_ifs at hs with hex hcap hsel <;> cases hs
    · exact .inl ⟨hex, rfl⟩
    · exact .inr (.inl ⟨hcap, hsel, rfl⟩)
    · exact .inr (.inr ⟨hex, rfl⟩)

theorem PoolInv.sent_fresh (hi : PoolInv p) : p.sent ∉ p.started.map Prod.snd := fun h => by
  obtain ⟨x, hx, hx2⟩ := List.mem_map.1 h
  exact absurd (hi.started_lt x hx) (by omega)

theorem send_sync_inv {w : Fin W} (hi : PoolInv p) (hd : p.dispatcher = .holding w)
    (hsel : p.worker w = .selecting) :
    PoolInv { p with worker := Function.update p.worker w (.running p.sent), dispatcher := .taking,
                     sent := p.sent + 1, started := p.started ++ [(w, p.sent)] } := by
  have h1 := hi.slots w
  rw [hsel] at h1
  simp only [WorkerState.Outstanding, outstanding, hd, if_true] at h1
  have hstarted := started_append (w := w) hi hi.sent_fresh
    (fun x hx => Nat.lt_succ_of_lt (hi.started_lt x hx)) (Nat.lt_succ_self _)
  refine ⟨fun w' => ?_, hstarted.1, hstarted.2,
    fun w' j hj => Nat.lt_succ_of_lt (hi.buf_lt w' j hj), fun w' j hj => ?_, hi.buf_disjoint,
    hi.running_started_start⟩
  · by_cases hww : w' = w
    · subst hww
      simp only [Function.update_same, WorkerState.Outstanding, outstanding]
      rw [if_neg (by simp)]
      omega
    · have ho : outstanding { p with dispatcher := .taking } w' = outstanding p w' := by
        simp [outstanding, hd, Ne.symm hww]
      simp only [Function.update_noteq hww]
      exact ho ▸ hi.slots w'
  · have hne : j ≠ p.sent := (hi.buf_lt w' j hj).ne
    simpa [hne] using hi.buf_fresh w' j hj

theorem mem_update_append {b : Fin W → List Nat} {w w' : Fin W} {j n : Nat} :
    j ∈ Function.update b w (b w ++ [n]) w' ↔ j ∈ b w' ∨ (w' = w ∧ j = n) := by
  by_cases hww : w' = w
  · subst hww; simp
  · simp [Function.update_noteq hww, hww]

theorem send_buffered_inv {w : Fin W} (hi : PoolInv p) (hd : p.dispatcher = .holding w) :
    PoolInv { p with buf := Function.update p.buf w (p.buf w ++ [p.sent]), dispatcher := .taking,
                     sent := p.sent + 1 } := by
  have ho : ∀ w', outstanding
      { p with buf := Function.update p.buf w (p.buf w ++ [p.sent]), dispatcher := .taking,
               sent := p.sent + 1 } w' = outstanding p w' := by
    intro w'
    by_cases hww : w' = w
    · subst hww; simp [outstanding, hd]; omega
    · simp [outstanding, hd, Function.update_noteq hww, Ne.symm hww]
  refine ⟨fun w' => (ho w').symm ▸ hi.slots w', hi.started_nodup,
    fun x hx => Nat.lt_succ_of_lt (hi.started_lt x hx), fun w' j hj => ?_, fun w' j hj => ?_,
    fun w₁ w₂ j h₁ h₂ => ?_, hi.running_started⟩
  · rcases mem_update_append.1 hj with hj | ⟨-, rfl⟩
    · exact Nat.lt_succ_of_lt (hi.buf_lt w' j hj)
    · exact Nat.lt_succ_self _
  · rcases mem_update_append.1 hj with hj | ⟨-, rfl⟩
    · exact hi.buf_fresh w' j hj
    · exact hi.sent_fresh
  · rcases mem_update_append.1 h₁ with h₁ | ⟨hw₁, hj₁⟩ <;>
      rcases mem_update_append.1 h₂ with h₂ | ⟨hw₂, hj₂⟩
    · exact hi.buf_disjoint w₁ w₂ j h₁ h₂
    · exact absurd (hi.buf_lt w₁ j h₁) (by omega)
    · exact absurd (hi.buf_lt w₂ j h₂) (by omega)
    · exact hw₁.trans hw₂.symm

theorem poolStep_send_inv (hi : PoolInv p) (hs : poolStep cap jobs p .send = some p') :
    PoolInv p' := by
  obtain ⟨w, hd, ⟨-, rfl⟩ | ⟨-, hsel, rfl⟩ | ⟨-, rfl⟩⟩ := poolStep_send_cases hs
  · exact ⟨hi.slots, hi.started_nodup, hi.started_lt, hi.buf_lt, hi.buf_fresh, hi.buf_disjoint,
      hi.running_started⟩
  · exact send_sync_inv hi hd hsel
  · exact send_buffered_inv hi hd

theorem poolStep_inv (hi : PoolInv p) {a : PoolAction W} (hs : poolStep cap jobs p a = some p') :
    PoolInv p' := by
  cases a with
  | announce w => exact poolStep_announce_inv hi hs
  | receive w => exact poolStep_receive_inv hi hs
  | finish w => exact poolStep_finish_inv hi hs
  | signal w => exact poolStep_signal_inv hi hs
  | quit w => exact poolStep_quit_inv hi hs
  | take => exact poolStep_take_inv hi hs
  | send => exact poolStep_send_inv hi hs

end Step

theorem poolNext_inv {cap jobs : Nat} {p p' : Pool W} {a : PoolAction W} (hi : PoolInv p)
    (hs : poolNext cap jobs p a = some p') : PoolInv p' := by
  unfold poolNext at hs
  split_ifs at hs
  exact poolStep_inv hi hs

/-! ## What every run keeps -/

/-- The jobs worker `w` holds: the one it runs, and those sent on its slot and not yet received. -/
def heldJobs (p : Pool W) (w : Fin W) : List Nat := (p.worker w).runningJob.toList ++ p.buf w

/-- The jobs in flight, one per running worker. -/
def inFlight (p : Pool W) : List Nat := (List.finRange W).filterMap fun w => (p.worker w).runningJob

theorem PoolInv.heldJobs_length_le {p : Pool W} (hi : PoolInv p) (w : Fin W) :
    (heldJobs p w).length ≤ 1 := by
  have h := hi.slots w
  unfold heldJobs
  cases hw : p.worker w <;> rw [hw] at h <;>
    simp only [WorkerState.Outstanding, outstanding] at h <;>
    simp only [WorkerState.runningJob, Option.toList, List.nil_append, List.singleton_append,
      List.length_cons] <;> omega

theorem PoolInv.running_injective {p : Pool W} (hi : PoolInv p) {w w' : Fin W} {j : Nat}
    (h : p.worker w = .running j) (h' : p.worker w' = .running j) : w = w' :=
  congrArg Prod.fst (List.inj_on_of_nodup_map hi.started_nodup (hi.running_started w j h)
    (hi.running_started w' j h') rfl)

/-- The pool's invariant, whatever the slots' capacity and the number of jobs. -/
theorem reachable_pool (cap jobs : Nat) (p : Pool W)
    (hr : Reachable (poolNext cap jobs) (Pool.init W) p) :
    (∀ w, p.queue.count w + (if p.dispatcher = .holding w then 1 else 0) ≤ 1) ∧
      (∀ w, (heldJobs p w).length ≤ 1) ∧ (p.started.map Prod.snd).Nodup ∧
      (inFlight p).Nodup ∧ (inFlight p).length ≤ W := by
  have hi : PoolInv p := hr.invariant poolInv_init fun _ _ _ hi hs => poolNext_inv hi hs
  refine ⟨fun w => ?_, hi.heldJobs_length_le, hi.started_nodup, ?_, ?_⟩
  · have := hi.outstanding_le w
    unfold outstanding at this
    omega
  · refine (List.nodup_finRange W).filterMap fun w w' j hw hw' =>
      hi.running_injective (j := j) ?_ ?_
    · revert hw; cases p.worker w <;> simp [WorkerState.runningJob]
    · revert hw'; cases p.worker w' <;> simp [WorkerState.runningJob]
  · exact (List.length_filterMap_le _ _).trans (List.length_finRange W).le

theorem reachable_pool_first_job :
    ∃ p, run (poolNext 0 1) (Pool.init 2) [.announce 0, .take, .send] = some p ∧
      (∀ w, p.queue.count w + (if p.dispatcher = .holding w then 1 else 0) ≤ 1) ∧
      (∀ w, (heldJobs p w).length ≤ 1) ∧ (p.started.map Prod.snd).Nodup ∧
      (inFlight p).Nodup ∧ (inFlight p).length ≤ 2 := by
  have h : run (poolNext 0 1) (Pool.init 2) [.announce 0, .take, .send] = some _ := rfl
  exact ⟨_, h, reachable_pool 0 1 _ (Reachable.of_run .init h)⟩

/-! ## Shutting a worker down -/

/-- A worker that takes `Quit` while its slot is announced: the dispatcher's send panics, and a job
    already in a buffered slot is never run, since no action is enabled. -/
theorem worker_quit_loses_job (cap : Nat) :
    (run (poolNext cap 1) (Pool.init 1) [.announce 0, .take, .signal 0, .quit 0, .send]).map
        Pool.crashed = some true ∧
      (run (poolNext (cap + 1) 1) (Pool.init 1) [.announce 0, .take, .send, .signal 0, .quit 0]).map
          (fun p => (p.buf 0, p.started, p.worker 0)) = some ([0], [], .exited) ∧
      ∀ a, run (poolNext (cap + 1) 1) (Pool.init 1)
        [.announce 0, .take, .send, .signal 0, .quit 0, a] = none := by
  obtain ⟨p, hp, hw, hq, hb, hs, hd, hsent, hqueue, hc⟩ : ∃ p,
      run (poolNext (cap + 1) 1) (Pool.init 1) [.announce 0, .take, .send, .signal 0, .quit 0] =
        some p ∧ p.worker 0 = .exited ∧ p.quit 0 = true ∧ p.buf 0 = [0] ∧ p.started = [] ∧
        p.dispatcher = .taking ∧ p.sent = 1 ∧ p.queue = [] ∧ p.crashed = false := by
    simp [run, poolNext, poolStep, Pool.init]
  refine ⟨rfl, by simp [hp, hb, hs, hw], fun a => ?_⟩
  rw [show [PoolAction.announce 0, .take, .send, .signal 0, .quit 0, a] =
    [.announce 0, .take, .send, .signal 0, .quit 0] ++ [a] from rfl, run_append, hp]
  cases a <;> (try (rename_i w; obtain rfl := Subsingleton.elim w 0)) <;>
    simp [run, poolNext, poolStep, hc, hw, hq, hd, hsent, hqueue]

/-! ## Every job sent is accounted for

Jobs move only when a worker receives one and when the dispatcher sends one, so every job sent has
been started or waits in a buffer (`poolStep_sentCovered`); with the pool's invariant this is a
partition. A job is lost only by waiting for good, as in a returned worker's slot. -/

/-- Every job sent so far has been started or waits in some worker's buffer. -/
def SentCovered (p : Pool W) : Prop :=
  ∀ j < p.sent, j ∈ p.started.map Prod.snd ∨ ∃ w, j ∈ p.buf w

/-- The jobs sent so far, each accounted for once: job `j` has been sent exactly when it has been
    started or waits in a worker's buffer, and a waiting job is not started and waits in one
    buffer only. -/
structure JobsAccounted (p : Pool W) : Prop where
  sent_iff : ∀ j, j < p.sent ↔ j ∈ p.started.map Prod.snd ∨ ∃ w, j ∈ p.buf w
  waiting_not_started : ∀ w, ∀ j ∈ p.buf w, j ∉ p.started.map Prod.snd
  waiting_once : ∀ w w', ∀ j ∈ p.buf w, j ∈ p.buf w' → w = w'

section Accounting
variable {cap jobs : Nat} {p p' : Pool W}

theorem update_exited {f : Fin W → WorkerState} {w' : Fin W} {s : WorkerState}
    (h : f w' ≠ .exited) : ∀ w, f w = .exited → Function.update f w' s w = .exited :=
  fun w hw => by rw [Function.update_noteq fun he => h (by rw [← he]; exact hw)]; exact hw

theorem poolStep_frame {a : PoolAction W} (hs : poolStep cap jobs p a = some p')
    (hr : ∀ w, a ≠ .receive w) (hsend : a ≠ .send) :
    p'.buf = p.buf ∧ p'.started = p.started ∧ p'.sent = p.sent ∧ p'.crashed = p.crashed ∧
      ∀ w, p.worker w = .exited → p'.worker w = .exited := by
  cases a with
  | receive w => exact absurd rfl (hr w)
  | send => exact absurd rfl hsend
  | announce w' =>
    simp only [poolStep] at hs
    split_ifs at hs with h
    cases hs
    exact ⟨rfl, rfl, rfl, rfl, update_exited (by simp [h])⟩
  | finish w' =>
    simp only [poolStep] at hs
    split at hs
    · rename_i h; cases hs; exact ⟨rfl, rfl, rfl, rfl, update_exited (by simp [h])⟩
    · cases hs
  | signal w' => simp only [poolStep] at hs; split_ifs at hs; cases hs; exact ⟨rfl, rfl, rfl, rfl, fun _ => id⟩
  | quit w' =>
    simp only [poolStep] at hs
    split_ifs at hs with h
    cases hs
    exact ⟨rfl, rfl, rfl, rfl, update_exited (by simp [h.1])⟩
  | take =>
    simp only [poolStep] at hs
    split at hs
    · split_ifs at hs; cases hs; exact ⟨rfl, rfl, rfl, rfl, fun _ => id⟩
    · cases hs

theorem poolStep_sentCovered (hc : SentCovered p) {a : PoolAction W}
    (hs : poolStep cap jobs p a = some p') : SentCovered p' := by
  cases a with
  | receive w =>
    simp only [poolStep] at hs
    split at hs
    · rename_i j rest hw hb
      cases hs
      intro j' hj'
      rcases hc j' hj' with hst | ⟨w', hw'⟩
      · exact .inl (by simp [hst])
      · by_cases hww : w' = w
        · subst hww
          rcases List.mem_cons.1 (hb ▸ hw') with rfl | hr
          · exact .inl (by simp)
          · exact .inr ⟨w', by simpa using hr⟩
        · exact .inr ⟨w', by simpa [Function.update_noteq hww] using hw'⟩
    · cases hs
  | send =>
    obtain ⟨w, -, ⟨-, rfl⟩ | ⟨-, -, rfl⟩ | ⟨-, rfl⟩⟩ := poolStep_send_cases hs
    · exact hc
    · intro j hj
      rcases Nat.lt_succ_iff_lt_or_eq.1 hj with hj | rfl
      · rcases hc j hj with hst | hb
        · exact .inl (by simp [hst])
        · exact .inr hb
      · exact .inl (by simp)
    · intro j hj
      rcases Nat.lt_succ_iff_lt_or_eq.1 hj with hj | rfl
      · rcases hc j hj with hst | ⟨w', hw'⟩
        · exact .inl hst
        · exact .inr ⟨w', mem_update_append.2 (.inl hw')⟩
      · exact .inr ⟨w, mem_update_append.2 (.inr ⟨rfl, rfl⟩)⟩
  | announce w | finish w | signal w | quit w | take =>
    obtain ⟨hb, hst, hn, -, -⟩ := poolStep_frame hs nofun nofun
    unfold SentCovered
    rw [hb, hst, hn]
    exact hc

theorem reachable_sentCovered (cap jobs : Nat) (p : Pool W)
    (hr : Reachable (poolNext cap jobs) (Pool.init W) p) : PoolInv p ∧ SentCovered p :=
  @Reachable.invariant _ _ _ _ _ (fun q => PoolInv q ∧ SentCovered q)
    ⟨poolInv_init, by simp [SentCovered, Pool.init]⟩ (fun _ _ _ ⟨hi, hc⟩ hs =>
      ⟨poolNext_inv hi hs, by unfold poolNext at hs; split_ifs at hs; exact poolStep_sentCovered hc hs⟩)
    hr

/-- Every reachable state accounts for each job sent exactly once. -/
theorem reachable_pool_jobs_accounted (cap jobs : Nat) (p : Pool W)
    (hr : Reachable (poolNext cap jobs) (Pool.init W) p) : JobsAccounted p := by
  obtain ⟨hi, hc⟩ := reachable_sentCovered cap jobs p hr
  refine ⟨fun j => ⟨hc j, ?_⟩, hi.buf_fresh, hi.buf_disjoint⟩
  rintro (hst | ⟨w, hw⟩)
  · obtain ⟨x, hx, rfl⟩ := List.mem_map.1 hst
    exact hi.started_lt x hx
  · exact hi.buf_lt w j hw

theorem reachable_pool_jobs_accounted_buffered :
    ∃ p, run (poolNext 1 1) (Pool.init 1) [.announce 0, .take, .send] = some p ∧
      JobsAccounted p := by
  have h : run (poolNext 1 1) (Pool.init 1) [.announce 0, .take, .send] = some _ := rfl
  exact ⟨_, h, reachable_pool_jobs_accounted 1 1 _ (Reachable.of_run .init h)⟩

theorem poolStep_exited {w : Fin W} {j : Nat} (hw : p.worker w = .exited) (hj : j ∈ p.buf w)
    {a : PoolAction W} (hs : poolStep cap jobs p a = some p') :
    p'.worker w = .exited ∧ j ∈ p'.buf w := by
  cases a with
  | receive w' =>
    simp only [poolStep] at hs
    split at hs
    · rename_i h _
      cases hs
      have hne : w ≠ w' := fun he => by subst he; simp [hw] at h
      simp [Function.update_noteq hne, hw, hj]
    · cases hs
  | send =>
    obtain ⟨w', -, ⟨-, rfl⟩ | ⟨-, h, rfl⟩ | ⟨-, rfl⟩⟩ := poolStep_send_cases hs
    · exact ⟨hw, hj⟩
    · exact ⟨update_exited (by simp [h]) w hw, hj⟩
    · exact ⟨hw, mem_update_append.2 (.inl hj)⟩
  | announce w' | finish w' | signal w' | quit w' | take =>
    obtain ⟨hb, -, -, -, hx⟩ := poolStep_frame hs nofun nofun
    exact ⟨hx w hw, hb ▸ hj⟩

theorem run_exited {w : Fin W} {j : Nat} :
    ∀ {p p' : Pool W} {as : List (PoolAction W)}, p.worker w = .exited → j ∈ p.buf w →
      run (poolNext cap jobs) p as = some p' → p'.worker w = .exited ∧ j ∈ p'.buf w
  | _, _, [], hw, hj, h => by cases h; exact ⟨hw, hj⟩
  | p, _, a :: as, hw, hj, h => by
    cases hn : poolNext cap jobs p a with
    | none => simp [run, hn] at h
    | some p₁ =>
      simp only [run, hn, Option.some_bind] at h
      unfold poolNext at hn
      split_ifs at hn
      obtain ⟨hw₁, hj₁⟩ := poolStep_exited hw hj hn
      exact run_exited hw₁ hj₁ h

end Accounting

/-- A job left in a returned worker's slot stays there, unstarted, in every run. -/
theorem exited_slot_job_never_started (cap jobs : Nat) (p : Pool W)
    (hr : Reachable (poolNext cap jobs) (Pool.init W) p) (w : Fin W) (j : Nat)
    (hw : p.worker w = .exited) (hj : j ∈ p.buf w) (as : List (PoolAction W)) (p' : Pool W)
    (h : run (poolNext cap jobs) p as = some p') :
    p'.worker w = .exited ∧ j ∈ p'.buf w ∧ j ∉ p'.started.map Prod.snd :=
  have hp' := run_exited hw hj h
  ⟨hp'.1, hp'.2, (reachable_sentCovered cap jobs p' (hr.of_run h)).1.buf_fresh w j hp'.2⟩

/-- Job 0 sent on worker 0's buffered slot, then worker 0 takes `Quit`; worker 1 then announces,
    and job 1 is sent to it and started. Job 0 stays in the closed slot, unstarted. -/
theorem exited_slot_job_never_started_after_quit :
    ∃ p p', run (poolNext 1 2) (Pool.init 2) [.announce 0, .take, .send, .signal 0, .quit 0] =
        some p ∧
      run (poolNext 1 2) p [.announce 1, .take, .send, .receive 1] = some p' ∧
      1 ∈ p'.started.map Prod.snd ∧
        p'.worker 0 = .exited ∧ 0 ∈ p'.buf 0 ∧ 0 ∉ p'.started.map Prod.snd := by
  have h : run (poolNext 1 2) (Pool.init 2) [.announce 0, .take, .send, .signal 0, .quit 0] =
      some _ := rfl
  refine ⟨_, _, h, rfl, ?_⟩
  exact ⟨by decide, exited_slot_job_never_started 1 2 _ (Reachable.of_run .init h) 0 0 rfl
    (by decide) [.announce 1, .take, .send, .receive 1] _ rfl⟩

/-! ## The dispatcher always gets the next job out

The run goes through phases, one lemma each, each built on the next: the dispatcher sends on the
slot it holds, or first takes a queued slot, or first waits for a worker to announce, to finish its
job, or to receive the job in its buffer. -/

/-- What the phases of the run keep: the invariant, no panic, no worker returned, a job left. -/
structure Live (jobs : Nat) (p : Pool W) : Prop where
  inv : PoolInv p
  not_crashed : p.crashed = false
  alive : ∀ w, p.worker w ≠ .exited
  pending : p.sent < jobs

/-- A run of at most `k` actions, none a `Quit` signal, that sends one more job and does not
    panic. -/
def SendsWithin (cap jobs k : Nat) (p : Pool W) : Prop :=
  ∃ as p', as.length ≤ k ∧ (∀ a ∈ as, ∀ w, a ≠ .signal w) ∧
    run (poolNext cap jobs) p as = some p' ∧ p'.sent = p.sent + 1 ∧ p'.crashed = false

section Progress
variable {cap jobs : Nat} {p p' q : Pool W}

theorem PoolInv.send_enabled (hi : PoolInv p) {w : Fin W} (hd : p.dispatcher = .holding w) :
    poolStep cap jobs p .send ≠ none := by
  have h := hi.slots w
  simp only [outstanding, hd, if_true] at h
  by_cases hex : p.worker w = .exited
  · simp [poolStep, hd, hex]
  · have hsel : p.worker w = .selecting := by
      cases hw : p.worker w <;> rw [hw] at h hex <;>
        simp only [WorkerState.Outstanding, ne_eq, not_true_eq_false] at h hex ⊢ <;> omega
    rw [hsel] at h
    simp only [WorkerState.Outstanding] at h
    have hb : (p.buf w).length = 0 := by omega
    by_cases hcap : cap = 0 <;> simp [poolStep, hd, hex, hsel, hcap, hb, Nat.pos_of_ne_zero]

theorem poolStep_crashed {a : PoolAction W} (hs : poolStep cap jobs p a = some p')
    (hc : p'.crashed = true) (hc0 : p.crashed = false) : ∃ w, p'.worker w = .exited := by
  cases a with
  | receive w =>
    simp only [poolStep] at hs
    split at hs
    · cases hs; simp [hc0] at hc
    · cases hs
  | send =>
    obtain ⟨w, -, ⟨hex, rfl⟩ | ⟨-, -, rfl⟩ | ⟨-, rfl⟩⟩ := poolStep_send_cases hs
    · exact ⟨w, hex⟩
    all_goals simp [hc0] at hc
  | announce w | finish w | signal w | quit w | take =>
    obtain ⟨-, -, -, hcr, -⟩ := poolStep_frame hs nofun nofun
    simp [hcr, hc0] at hc

theorem SendsWithin.mono {k k' : Nat} (h : SendsWithin cap jobs k p) (hk : k ≤ k') :
    SendsWithin cap jobs k' p :=
  let ⟨as, p', hl, hrest⟩ := h
  ⟨as, p', hl.trans hk, hrest⟩

theorem SendsWithin.single {a : PoolAction W} (hs : poolNext cap jobs p a = some q)
    (ha : ∀ w, a ≠ .signal w) (hsent : q.sent = p.sent + 1) (hc : q.crashed = false) :
    SendsWithin cap jobs 1 p :=
  ⟨[a], q, le_rfl, List.forall_mem_singleton.2 ha, by simp [run, hs], hsent, hc⟩

theorem SendsWithin.cons {k : Nat} {a : PoolAction W} (hs : poolNext cap jobs p a = some q)
    (ha : ∀ w, a ≠ .signal w) (hsent : q.sent = p.sent) (h : SendsWithin cap jobs k q) :
    SendsWithin cap jobs (k + 1) p :=
  let ⟨as, p', hl, hsig, hrun, hs', hc⟩ := h
  ⟨a :: as, p', Nat.succ_le_succ hl, List.forall_mem_cons.2 ⟨ha, hsig⟩,
    by simp [run, hs, hrun], hs'.trans (by rw [hsent]), hc⟩

theorem Live.poolNext_eq (hl : Live jobs p) (a : PoolAction W) :
    poolNext cap jobs p a = poolStep cap jobs p a := by
  simp [poolNext, hl.not_crashed]

theorem alive_update {f : Fin W → WorkerState} (h : ∀ w, f w ≠ .exited) {w : Fin W}
    {s : WorkerState} (hs : s ≠ .exited) : ∀ w', Function.update f w s w' ≠ .exited := by
  intro w'
  by_cases hw : w' = w
  · subst hw; simpa using hs
  · simpa [Function.update_noteq hw] using h w'

theorem Live.step (hl : Live jobs p) {a : PoolAction W} (hs : poolNext cap jobs p a = some q)
    (hc : q.crashed = p.crashed) (halive : ∀ w, q.worker w ≠ .exited)
    (hsent : q.sent = p.sent) :
    Live jobs q :=
  ⟨poolNext_inv hl.inv hs, hc.trans hl.not_crashed, halive, hsent ▸ hl.pending⟩

theorem Live.sendsWithin_holding (hl : Live jobs p) {w : Fin W}
    (hd : p.dispatcher = .holding w) : SendsWithin cap jobs 1 p := by
  have hen : poolStep cap jobs p .send ≠ none := hl.inv.send_enabled hd
  obtain ⟨p', hs⟩ := Option.ne_none_iff_exists'.1 hen
  obtain ⟨w', -, ⟨hex, -⟩ | ⟨-, -, rfl⟩ | ⟨-, rfl⟩⟩ := poolStep_send_cases hs
  · exact absurd hex (hl.alive w')
  all_goals exact SendsWithin.single ((hl.poolNext_eq .send).trans hs) nofun rfl hl.not_crashed

theorem Live.sendsWithin_queued (hl : Live jobs p) (hd : p.dispatcher = .taking) {w : Fin W}
    {rest : List (Fin W)} (hq : p.queue = w :: rest) : SendsWithin cap jobs 2 p := by
  have hs : poolNext cap jobs p .take =
      some { p with dispatcher := .holding w, queue := rest } := by
    simp [hl.poolNext_eq, poolStep, hd, hq, hl.pending]
  exact SendsWithin.cons hs nofun rfl ((hl.step hs rfl hl.alive rfl).sendsWithin_holding rfl)

theorem Live.sendsWithin_announcing (hl : Live jobs p) (hd : p.dispatcher = .taking) {w : Fin W}
    (hw : p.worker w = .announcing) : SendsWithin cap jobs 3 p := by
  have hs : poolNext cap jobs p (.announce w) =
      some { p with worker := Function.update p.worker w .selecting, queue := p.queue ++ [w] } := by
    simp [hl.poolNext_eq, poolStep, hw]
  obtain ⟨w', rest, hq⟩ := List.exists_cons_of_ne_nil (by simp : p.queue ++ [w] ≠ [])
  exact SendsWithin.cons hs nofun rfl
    ((hl.step hs rfl (alive_update hl.alive nofun) rfl).sendsWithin_queued hd hq)

theorem Live.sendsWithin_running (hl : Live jobs p) (hd : p.dispatcher = .taking) {w : Fin W}
    {j : Nat} (hw : p.worker w = .running j) : SendsWithin cap jobs 4 p := by
  have hs : poolNext cap jobs p (.finish w) =
      some { p with worker := Function.update p.worker w .announcing } := by
    simp [hl.poolNext_eq, poolStep, hw]
  exact SendsWithin.cons hs nofun rfl
    ((hl.step hs rfl (alive_update hl.alive nofun) rfl).sendsWithin_announcing hd
      (Function.update_same _ _ _))

theorem Live.sendsWithin_selecting (hl : Live jobs p) (hd : p.dispatcher = .taking) {w : Fin W}
    {j : Nat} {rest : List Nat} (hw : p.worker w = .selecting) (hb : p.buf w = j :: rest) :
    SendsWithin cap jobs 5 p := by
  have hs : poolNext cap jobs p (.receive w) =
      some { p with worker := Function.update p.worker w (.running j),
                    buf := Function.update p.buf w rest, started := p.started ++ [(w, j)] } := by
    simp [hl.poolNext_eq, poolStep, hw, hb]
  exact SendsWithin.cons hs nofun rfl
    ((hl.step hs rfl (alive_update hl.alive nofun) rfl).sendsWithin_running hd
      (Function.update_same _ _ _))

/-- Where worker `w` stands decides the phase, once the dispatcher holds no slot and `Queue` is
    empty. -/
theorem Live.sendsWithin (hl : Live jobs p) (w : Fin W) : SendsWithin cap jobs 5 p := by
  cases hd : p.dispatcher with
  | holding w' => exact (hl.sendsWithin_holding hd).mono (by omega)
  | taking =>
    cases hq : p.queue with
    | cons w' rest => exact (hl.sendsWithin_queued hd hq).mono (by omega)
    | nil =>
      cases hw : p.worker w with
      | announcing => exact (hl.sendsWithin_announcing hd hw).mono (by omega)
      | running j => exact (hl.sendsWithin_running hd hw).mono (by omega)
      | exited => exact absurd hw (hl.alive w)
      | selecting =>
        have h := hl.inv.slots w
        simp only [hw, WorkerState.Outstanding, outstanding, hd, hq, List.count_nil, reduceCtorEq,
          if_false] at h
        obtain ⟨j, rest, hb⟩ :=
          List.exists_cons_of_length_pos (show 0 < (p.buf w).length by omega)
        exact hl.sendsWithin_selecting hd hw hb

end Progress

theorem reachable_crashed (cap jobs : Nat) (p : Pool W)
    (hr : Reachable (poolNext cap jobs) (Pool.init W) p) (hc : p.crashed = true) :
    ∃ w, p.worker w = .exited :=
  @Reachable.invariant _ _ _ _ _ (fun q => q.crashed = true → ∃ w, q.worker w = .exited)
    (fun h => by simp [Pool.init] at h)
    (fun _ _ _ _ hs hc' => by
      unfold poolNext at hs
      split_ifs at hs with h0
      exact poolStep_crashed hs hc' (by simpa using h0))
    hr hc

/-- While no worker has returned, the dispatcher is never stuck short of its jobs. -/
theorem reachable_pool_sends_next_job (cap jobs : Nat) (p : Pool W)
    (hr : Reachable (poolNext cap jobs) (Pool.init W) p) (hW : 0 < W) (hj : p.sent < jobs)
    (halive : ∀ w, p.worker w ≠ .exited) :
    ∃ as p', as.length ≤ 5 ∧ (∀ a ∈ as, ∀ w, a ≠ .signal w) ∧
      run (poolNext cap jobs) p as = some p' ∧ p'.sent = p.sent + 1 ∧ p'.crashed = false := by
  have hc : p.crashed = false := Bool.eq_false_iff.2 fun h =>
    let ⟨w, hw⟩ := reachable_crashed cap jobs p hr h; halive w hw
  exact Live.sendsWithin ⟨(reachable_sentCovered cap jobs p hr).1, hc, halive, hj⟩ ⟨0, hW⟩

theorem reachable_pool_sends_next_job_buffered :
    ∃ p, run (poolNext 1 2) (Pool.init 2) [.announce 0, .take, .send] = some p ∧
      ∃ as p', as.length ≤ 5 ∧ (∀ a ∈ as, ∀ w, a ≠ .signal w) ∧
        run (poolNext 1 2) p as = some p' ∧ p'.sent = p.sent + 1 ∧ p'.crashed = false := by
  have h : run (poolNext 1 2) (Pool.init 2) [.announce 0, .take, .send] = some _ := rfl
  exact ⟨_, h, reachable_pool_sends_next_job 1 2 _ (Reachable.of_run .init h) (by decide)
    (by decide) (by decide)⟩

end IronicTemper
