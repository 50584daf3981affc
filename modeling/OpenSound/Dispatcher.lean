import OpenSound.Codec.Encode
import OpenSound.Scheduler
import OpenSound.Selector

/-!
# Dispatchers

A dispatcher holds registrations, each a selector with a listener, and hands every message to the
listeners whose selectors select it.  This module has what passes between it and its listeners, and
its state: the registrations, the listeners for bad data, the bundles put off, and records of all
that happened.

A listener may do things to the dispatcher that calls it.  What it does is a `Reaction`: a tree of
actions, in which it goes on by the answer to each of them.
-/

namespace OpenSound

/-- Where a packet came from, if that is known. -/
abbrev Source := Option String

/-- What a listener is told about a message. -/
structure Event where
  source : Source
  /-- The time tag of the bundle around the message; a message by itself is immediate. -/
  time : TimeTag
  message : Message
deriving Repr

/-- What arrives at a dispatcher or a packet listener: a packet, or word of one that could not be
read. -/
inductive Arrival where
  | packet (packet : Packet)
  | failure (failure : Malformed)

/-- Why there is no packet, if there is none. -/
def Arrival.failure? : Arrival → Option Malformed
  | .packet _ => none
  | .failure malformed => some malformed

/-- What a listener is told when it is called. -/
inductive Notice where
  /-- To a listener for messages. -/
  | message (event : Event)
  /-- To a listener for bad data: a packet could not be read. -/
  | badData (source : Source) (failure : Malformed)
  /-- To a packet listener. -/
  | arrival (source : Source) (arrival : Arrival)

/-- Who is told about packets as they arrive. -/
inductive PacketListener where
  | dispatcher
  /-- Any other one, known by its name. -/
  | user (name : String)
deriving DecidableEq, Repr

/-- A change of who listens to a dispatcher. -/
inductive Change where
  | add (selector : Selector) (listener : String)
  | remove (selector : Selector) (listener : String)
  | addBadData (listener : String)
  | removeBadData (listener : String)

/-- What a dispatcher tells of itself. -/
structure Figures where
  listenerCount : Nat
  infoRequired : Bool
  pending : Nat
deriving DecidableEq, Repr

/-! ### What listeners do -/

/-- What a listener can ask of a dispatcher. -/
inductive Action where
  | change (change : Change)
  /-- Has the arrival dealt with before anything else happens. -/
  | process (arrival : Arrival) (source : Source)
  | inspect

/-- What comes back for an action: for a change whether there was something to remove, if it is a
removal. -/
abbrev Action.Answer : Action → Type
  | .change _ => Option Bool
  | .process _ _ => Except ScheduleError Unit
  | .inspect => Figures

/-- What a listener does when it is called: one thing after the other, each by the answers so
far. -/
inductive Reaction where
  | done
  /-- Breaks off, and with it all that led to the call. -/
  | panic (text : String)
  | ask (action : Action) (next : action.Answer → Reaction)

/-! ### State -/

/-- What happened, for the journal. -/
inductive Occurrence where
  /-- A criterion was asked about a message. -/
  | asked (criterion : Criterion)
  /-- A listener was called, perhaps on the thread of the scheduler. -/
  | called (listener : String) (event : Event) (thread : Option String)
  /-- A listener has changed who listens; the answer is that to a removal. -/
  | changed (listener : String) (change : Change) (answer : Option Bool)
  /-- A bundle was put off. -/
  | deferred (time : TimeTag) (elements : List Packet) (delay : Nat)
  /-- A listener for bad data was told of a packet that could not be read. -/
  | badData (listener : String) (source : Source) (failure : Malformed)
  /-- A packet listener was told of what arrived. -/
  | told (listener : PacketListener) (source : Source) (arrival : Arrival)

/-- The call of a listener as the journal has it. -/
def Notice.occurrence (listener : String) (thread : Option String) : Notice → Occurrence
  | .message event => .called listener event thread
  | .badData source failure => .badData listener source failure
  | .arrival source arrived => .told (.user listener) source arrived

/-- A selector and the listener it calls. -/
structure Registration where
  selector : Selector
  listener : String

namespace Registration

/-- Whether the registration is that of a listener, known by its name, under an equal selector. -/
def isFor (r : Registration) (selector : Selector) (listener : String) : Bool :=
  r.selector == selector && r.listener = listener

end Registration

/-- Registrations in the order in which they were made. -/
structure Registrations where
  entries : List Registration := []
  /-- Whether some selector depends on type tags. -/
  infoRequired : Bool := false

namespace Registrations

variable (tests : CustomTests)

def ofEntries (entries : List Registration) : Registrations :=
  ⟨entries, entries.any (·.selector.requiresInfo tests)⟩

def add (r : Registrations) (selector : Selector) (listener : String) : Registrations :=
  ofEntries tests (r.entries ++ [⟨selector, listener⟩])

/-- Removes the first registration of the listener under an equal selector, if there is one. -/
def remove? (r : Registrations) (selector : Selector) (listener : String) :
    Option Registrations :=
  (r.entries.findIdx? (·.isFor selector listener)).map fun index =>
    ofEntries tests (r.entries.eraseIdx index)

end Registrations

/-- A bundle that was put off, to be taken apart without another look at its time tag. -/
structure Deferred where
  time : TimeTag
  elements : List Packet
  source : Source
deriving Repr

namespace Dispatcher

/-- How a dispatcher treats time. -/
structure Settings where
  /-- Whether bundles are taken apart at once, whatever their time tags. -/
  alwaysImmediate : Bool := false
  /-- The name of the thread for bundles that were put off. -/
  threadName : String := "oscar-scheduler"
deriving DecidableEq, Repr, Inhabited

/-- The settings with the choice made anew whether bundles are taken apart at once. -/
def Settings.immediate (s : Settings) (always : Bool) : Settings :=
  { s with alwaysImmediate := always }

/-- The settings for a diagnostic. -/
def Settings.display (s : Settings) : String :=
  "DispatcherConfig \x7b always_dispatch_immediately: " ++ toString s.alwaysImmediate
    ++ ", scheduler_thread_name: " ++ Text.quoted s.threadName ++ " \x7d"

end Dispatcher

/-- A dispatcher. -/
structure Dispatcher where
  settings : Dispatcher.Settings := {}
  /-- The types for which type tags can be worked out. -/
  registry : Registry := .standard
  registrations : Registrations := {}
  badDataListeners : List String := []
  scheduler : Scheduler Deferred
  /-- How often the clock has been read. -/
  readings : Nat := 0
  /-- For how many nanoseconds the dispatcher has been left alone. -/
  slept : Nat := 0
  /-- What happened, the last thing first. -/
  journal : List Occurrence := []
  /-- The packets that were dispatched, the last one first. -/
  dispatched : List Packet := []
  /-- The messages that were handed to the listeners, each with its time tag, the last one first. -/
  handed : List (TimeTag × Message) := []

namespace Dispatcher

/-- A dispatcher without listeners. -/
def new (settings : Settings) (registry : Registry) : Dispatcher :=
  { settings, registry, scheduler := { threadName := settings.threadName } }

def note (d : Dispatcher) (occurrence : Occurrence) : Dispatcher :=
  { d with journal := occurrence :: d.journal }

/-- Records that a packet is dispatched. -/
def accept (d : Dispatcher) (packet : Packet) : Dispatcher :=
  { d with dispatched := packet :: d.dispatched }

/-- Records that a message is handed to the listeners. -/
def handOver (d : Dispatcher) (time : TimeTag) (m : Message) : Dispatcher :=
  { d with handed := (time, m) :: d.handed }

/-- What happened after the journal had the given length, in order. -/
def journalSince (d : Dispatcher) (length : Nat) : List Occurrence :=
  (d.journal.take (d.journal.length - length)).reverse

def addListener (tests : CustomTests) (d : Dispatcher) (selector : Selector) (listener : String) :
    Dispatcher :=
  { d with registrations := d.registrations.add tests selector listener }

/-- Removes a registration, and says whether there was one. -/
def removeListener (tests : CustomTests) (d : Dispatcher) (selector : Selector)
    (listener : String) : Bool × Dispatcher :=
  match d.registrations.remove? tests selector listener with
  | some registrations => (true, { d with registrations })
  | none => (false, d)

def listenerCount (d : Dispatcher) : Nat := d.registrations.entries.length

/-- Adds a listener for bad data, behind those that there are. -/
def addBadDataListener (d : Dispatcher) (listener : String) : Dispatcher :=
  { d with badDataListeners := d.badDataListeners ++ [listener] }

/-- Removes a listener for bad data once, and says whether there was one. -/
def removeBadDataListener (d : Dispatcher) (listener : String) : Bool × Dispatcher :=
  (d.badDataListeners.contains listener,
    { d with badDataListeners := d.badDataListeners.erase listener })

/-- Makes a change.  The answer is that to a removal. -/
def change (tests : CustomTests) (d : Dispatcher) : Change → Option Bool × Dispatcher
  | .add selector listener => (none, d.addListener tests selector listener)
  | .remove selector listener => (d.removeListener tests selector listener).map some id
  | .addBadData listener => (none, d.addBadDataListener listener)
  | .removeBadData listener => (d.removeBadDataListener listener).map some id

def figures (d : Dispatcher) : Figures :=
  ⟨d.listenerCount, d.registrations.infoRequired, d.scheduler.pending⟩

/-- The message with the type tags that the wire would carry, unless it has an info already.  A
message that cannot be written is left as it is. -/
def withTypeTags (d : Dispatcher) (m : Message) : Message :=
  match m.info with
  | some _ => m
  | none =>
    match ({ registry := d.registry } : Codec).messageInfo m with
    | .ok info => m.withInfo info
    | .error _ => m

/-- The dispatcher for a diagnostic. -/
def display (d : Dispatcher) : String :=
  "Dispatcher \x7b config: " ++ d.settings.display ++ s!", listeners: {d.listenerCount}, "
    ++ "scheduler: " ++ d.scheduler.display ++ " \x7d"

end Dispatcher

end OpenSound
