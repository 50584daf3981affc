import OpenSound.Text.Quoted
import OpenSound.Time

/-!
# Schedulers

A scheduler keeps tasks until their deadline and then runs them, one at a time, on a thread with a
name.  It counts the tasks that are pending: those that wait and the one that runs.  Once it is shut
down, no further task is accepted, and the tasks that wait are discarded when its thread ends, which
it does not do in the middle of a task.
-/

namespace OpenSound

/-- A task and the moment from which on it may run. -/
structure Task (α : Type) where
  deadline : Instant
  job : α
deriving Repr

/-- Whether the moment for the task has come. -/
def Task.isDue {α : Type} (task : Task α) (now : Instant) : Bool :=
  task.deadline.nanoseconds ≤ now.nanoseconds

/-- A scheduler: the tasks that wait, in the order in which they were submitted, and the one that
runs. -/
structure Scheduler (α : Type) where
  threadName : String
  waiting : List (Task α) := []
  running : Option (Task α) := none
  /-- The count of tasks that were accepted and are neither finished nor discarded. -/
  pending : Nat := 0
  isShutDown : Bool := false
deriving Repr

/-- Why a task could not be handed to a scheduler. -/
inductive ScheduleError where
  /-- The thread of the scheduler could not be started. -/
  | noThread
deriving DecidableEq, Repr, Inhabited

namespace Scheduler

variable {α : Type}

/-- Accepts a task, unless the scheduler is shut down. -/
def submit (s : Scheduler α) (deadline : Instant) (job : α) : Scheduler α :=
  if s.isShutDown then s
  else { s with waiting := s.waiting ++ [⟨deadline, job⟩], pending := s.pending + 1 }

/-- Hands a task to the scheduler.  One that is shut down discards it.  Any other one needs its
thread, and `thread` says whether that is there or can be started. -/
def schedule (s : Scheduler α) (thread : Bool) (deadline : Instant) (job : α) :
    Except ScheduleError (Scheduler α) :=
  if s.isShutDown || thread then .ok (s.submit deadline job) else .error .noThread

/-- Starts a task that waits and is due, if no other one runs. -/
def start? (s : Scheduler α) (now : Instant) (index : Nat) : Option (α × Scheduler α) := do
  let task ← s.waiting[index]?
  if s.running.isNone && task.isDue now then
    return (task.job, { s with waiting := s.waiting.eraseIdx index, running := some task })
  else none

/-- Ends the task that runs, whether it was completed or cut short. -/
def finish (s : Scheduler α) : Scheduler α :=
  match s.running with
  | none => s
  | some _ => { s with running := none, pending := s.pending - 1 }

/-- Accepts no task any more. -/
def close (s : Scheduler α) : Scheduler α := { s with isShutDown := true }

/-- Ends the thread, which discards the tasks that wait. -/
def tearDown (s : Scheduler α) : Scheduler α :=
  { s with waiting := [], pending := s.pending - s.waiting.length }

/-- Discards the tasks that wait, and accepts none any more. -/
def shutDown (s : Scheduler α) : Scheduler α := s.close.tearDown

theorem submit_of_isShutDown_eq_false {s : Scheduler α} (h : s.isShutDown = false)
    (deadline : Instant) (job : α) :
    s.submit deadline job =
      { s with waiting := s.waiting ++ [⟨deadline, job⟩], pending := s.pending + 1 } := by
  rw [submit, if_neg (by simp [h])]

/-- A task that starts is one that waits and is due, and no other one runs. -/
theorem exists_of_start?_eq_some {s s' : Scheduler α} {now : Instant} {index : Nat} {job : α}
    (h : s.start? now index = some (job, s')) :
    ∃ task, s.waiting[index]? = some task ∧ task.job = job ∧
      (s.running = none ∧ task.isDue now = true) ∧
      s' = { s with waiting := s.waiting.eraseIdx index, running := some task } := by
  unfold start? at h
  rcases htask : s.waiting[index]? with _ | task
  · rw [htask] at h
    cases h
  · rw [htask] at h
    simp only [Option.bind_eq_bind, Option.bind_some] at h
    split at h
    · next hdue =>
      rw [Bool.and_eq_true, Option.isNone_iff_eq_none] at hdue
      cases h
      exact ⟨task, rfl, rfl, hdue, rfl⟩
    · cases h

theorem finish_of_running_eq_some {s : Scheduler α} {task : Task α} (h : s.running = some task) :
    s.finish = { s with running := none, pending := s.pending - 1 } := by
  rw [finish, h]

/-- The place of the task with the earliest deadline, of several the one that was submitted first,
among tasks of which the first has the given place. -/
def earliestOf? (place : Nat) : List (Task α) → Option (Nat × Instant)
  | [] => none
  | task :: rest =>
    match earliestOf? (place + 1) rest with
    | none => some (place, task.deadline)
    | some (other, deadline) =>
      if deadline.nanoseconds < task.deadline.nanoseconds then some (other, deadline)
      else some (place, task.deadline)

/-- The place and the deadline of the task to run next. -/
def earliest? (s : Scheduler α) : Option (Nat × Instant) := earliestOf? 0 s.waiting

/-- Runs the tasks that wait, the earliest first and each at its deadline, until no more than
`atMost` are pending.  The answer is what ran, and the scheduler then; `turns` bounds the number of
tasks. -/
def drain (atMost : Nat) : (turns : Nat) → Scheduler α → List α × Scheduler α
  | 0, s => ([], s)
  | turns + 1, s =>
    if s.pending ≤ atMost then ([], s)
    else
      match s.earliest?.bind fun (index, deadline) => s.start? deadline index with
      | none => ([], s)
      | some (job, s) =>
        let (jobs, s) := drain atMost turns s.finish
        (job :: jobs, s)

/-- The name of the thread on which things happen now, if it is that of the scheduler. -/
def currentThread? (s : Scheduler α) : Option String := s.running.map fun _ => s.threadName

/-- The scheduler for a diagnostic. -/
def display (s : Scheduler α) : String :=
  "Scheduler \x7b thread_name: " ++ Text.quoted s.threadName ++ s!", pending: {s.pending} \x7d"

end Scheduler

end OpenSound
