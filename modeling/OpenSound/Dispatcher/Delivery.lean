import OpenSound.Dispatcher
import OpenSound.Dispatcher.Walk

/-!
# Delivery

How a dispatcher deals with what arrives.  A message goes to the listeners whose selectors select
it, in the order of their registrations as they stood when the handling of the message began; word
of a packet that could not be read goes to the listeners for bad data.  A listener may change who
listens, have the dispatcher deal with something else, and panic.  A panic ends all that led to the
call of the listener, up to the caller of the dispatcher or, on the thread of the scheduler, to the
bundle that is being taken apart.  A bundle that cannot be handed to the scheduler ends the dispatch
that it is part of, and no more than that.

What depends on the outside is given as `Surroundings`: the custom tests, the clock, what the
listeners do, and whether the scheduler gets its thread.
-/

namespace OpenSound

/-- What a dispatcher depends on. -/
structure Surroundings where
  tests : CustomTests
  /-- The moment that the clock shows when it is read for the `n`th time. -/
  clock : (n : Nat) → Instant
  /-- What a listener of any kind does when it is called, given the journal so far. -/
  react : (listener : String) → (journal : List Occurrence) → Notice → Reaction
  /-- Whether the scheduler has its thread, or can start it, when the clock has been read `n`
  times. -/
  thread : (n : Nat) → Bool := fun _ => true

/-- A clock that shows a microsecond more at each reading. -/
def Surroundings.ticking (start : Instant) (n : Nat) : Instant := start.after (n * 1000)

/-- Why something was broken off. -/
inductive Interruption where
  | panicked (text : String)
  /-- A bundle could not be handed to the scheduler. -/
  | failed (error : ScheduleError)
  /-- Listeners had the dispatcher called inside each other more deeply than allowed. -/
  | tooDeep
deriving DecidableEq, Repr

/-- Something a dispatcher does: it may be broken off, and what was done until then stays done. -/
abbrev Step := EStateM Interruption Dispatcher

namespace Dispatcher

variable (env : Surroundings)

/-- The moment that the next reading of the clock will show. -/
def moment (d : Dispatcher) : Instant := (env.clock d.readings).after d.slept

/-- Reads the clock. -/
def now : Step Instant := fun d => .ok (d.moment env) { d with readings := d.readings + 1 }

/-- Waits until the clock shows the moment, if it lies ahead. -/
def sleepUntil (moment : Instant) : Step Unit := do
  let t ← now env
  modify fun d => { d with slept := d.slept + (moment.nanoseconds - t.nanoseconds).toNat }

/-- How long a bundle with the time tag has to wait, if it is not due. -/
def delay? (time : TimeTag) : Step (Option Nat) := do
  if (← get).settings.alwaysImmediate || time.isImmediate then return none
  else return time.delayFrom? (← now env)

/-- Puts off a bundle. -/
def defer (source : Source) (time : TimeTag) (elements : List Packet) (delay : Nat) :
    Step Unit := do
  let submitted ← now env
  let d ← get
  let task : Deferred := ⟨time, elements, source⟩
  match d.scheduler.schedule (env.thread d.readings) (submitted.after delay) task with
  | .ok scheduler => set { d.note (.deferred time elements delay) with scheduler }
  | .error e => throw (.failed e)

/-- Evaluates a selector, and notes every criterion that was asked. -/
def selects (selector : Selector) (m : Message) : Step Bool := do
  let (verdict, asked) := selector.evaluate env.tests m
  modify fun d => asked.foldl (fun d criterion => d.note (.asked criterion)) d
  return verdict

/-- What a step comes to for its caller: the failure of a dispatch is an answer, while a panic goes
on. -/
def answered (s : Step Unit) : Step (Except ScheduleError Unit) := fun d =>
  match s d with
  | .ok _ d => .ok (.ok ()) d
  | .error (.failed e) d => .ok (.error e) d
  | .error (.panicked text) d => .error (.panicked text) d
  | .error .tooDeep d => .error .tooDeep d

/-- Does what a listener asks for. -/
def perform (process : Arrival → Source → Step Unit) (caller : String) :
    (action : Action) → Step action.Answer
  | .change change => modifyGet fun d =>
    let (answer, d) := d.change env.tests change
    (answer, d.note (.changed caller change answer))
  | .process arrival source => answered (process arrival source)
  | .inspect => figures <$> get

/-- Does what a listener does. -/
def follow (process : Arrival → Source → Step Unit) (caller : String) : Reaction → Step Unit
  | .done => pure ()
  | .panic text => throw (.panicked text)
  | .ask action next => do
    let answer ← perform env process caller action
    follow process caller (next answer)

/-- Calls a listener. -/
def call (process : Arrival → Source → Step Unit) (listener : String) (notice : Notice) :
    Step Unit := do
  let d ← get
  set (d.note (notice.occurrence listener d.scheduler.currentThread?))
  follow env process listener (env.react listener d.journal notice)

/-- Calls the listeners whose selectors select the message. -/
def inform (process : Arrival → Source → Step Unit) (source : Source) (time : TimeTag)
    (m : Message) : Step Unit := do
  let d ← get
  let message := if d.registrations.infoRequired then d.withTypeTags m else m
  d.registrations.entries.forM fun registration => do
    if ← selects env registration.selector message then
      call env process registration.listener (.message ⟨source, time, message⟩)

/-- Calls the listeners for bad data. -/
def report (process : Arrival → Source → Step Unit) (source : Source) (failure : Malformed) :
    Step Unit := do
  let d ← get
  d.badDataListeners.forM fun listener => call env process listener (.badData source failure)

/-- Hands a message to the listeners. -/
def deliver (process : Arrival → Source → Step Unit) (source : Source) (time : TimeTag)
    (m : Message) : Step Unit := do
  modify fun d => d.handOver time m
  inform env process source time m

/-- How bundles are taken apart. -/
def walk (process : Arrival → Source → Step Unit) (source : Source) : Walk Step where
  delay? := delay? env
  deliver := deliver env process source
  defer := defer env source

/-- Deals with what arrives.  Listeners may have the dispatcher called inside each other `nesting`
levels deep. -/
def process : (nesting : Nat) → Arrival → Source → Step Unit
  | 0, _, _ => throw .tooDeep
  | nesting + 1, .packet packet, source => do
    modify fun d => d.accept packet
    (walk env (process nesting) source).packet packet
  | nesting + 1, .failure failure, source => report env (process nesting) source failure

/-- Handles a packet. -/
def dispatch (nesting : Nat) (packet : Packet) (source : Source) : Step Unit :=
  process env nesting (.packet packet) source

/-- Takes apart a bundle that was put off. -/
def release (nesting : Nat) (bundle : Deferred) : Step Unit :=
  (walk env (process env nesting) bundle.source).run [(bundle.time, bundle.elements)]

/-- Runs a task that waits, if it is due.  A panic or a failure ends the task and nothing else. -/
def fire (nesting : Nat) (index : Nat) : Step Bool := do
  let t ← now env
  let d ← get
  match d.scheduler.start? t index with
  | none => return false
  | some (bundle, scheduler) =>
    set { d with scheduler }
    let ended (d : Dispatcher) : Dispatcher := { d with scheduler := d.scheduler.finish }
    fun d =>
      match release env nesting bundle d with
      | .ok _ d => .ok true (ended d)
      | .error (.panicked _) d => .ok true (ended d)
      | .error (.failed _) d => .ok true (ended d)
      | .error .tooDeep d => .error .tooDeep (ended d)

/-- Waits until no more than `atMost` bundles are pending, but not beyond the moment `patience`.
The answer is whether that came about; `turns` bounds the number of bundles that are taken apart. -/
def waitForPending (nesting atMost : Nat) (patience : Instant) : (turns : Nat) → Step Bool
  | 0 => return false
  | turns + 1 => do
    let d ← get
    if d.scheduler.pending ≤ atMost then return true
    else
      match d.scheduler.earliest? with
      | none => return false
      | some (index, deadline) =>
        if patience.nanoseconds < deadline.nanoseconds then return false
        else
          sleepUntil env deadline
          discard (fire env nesting index)
          waitForPending nesting atMost patience turns

end Dispatcher

end OpenSound
