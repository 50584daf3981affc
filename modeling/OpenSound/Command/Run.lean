import OpenSound.Command
import OpenSound.Packet.Json
import OpenSound.Receiver
import OpenSound.Settings

/-!
# Carrying out commands

`Command.run` says what a command does, given the settings and the moment.  Routing happens in a
time of its own: where the dispatcher would be waiting, the outcome says for how long.
-/

namespace OpenSound.Command

def readHex (text : String) : Except CommandError Bytes := (Text.readHex text).mapError .hex

/-- The packet as JSON. -/
def decoded (limits : Codec.Limits) (input : Option PacketInput) (compact : Bool) :
    Except CommandError String := do
  let data ← match input with
    | none => .error .noInput
    | some (.hex text) => readHex text
    | some (.data bytes) => .ok bytes
  let packet ← (({ limits } : Codec).decode data).mapError .malformed
  return packet.jsonText (!compact) ++ "\n"

/-- The time tag of the moment that lies some milliseconds ahead. -/
def dueIn (now : Instant) (milliseconds : Nat) : Except CommandError TimeTag :=
  match TimeTag.after? now (milliseconds * nanosPerMillisecond) with
  | some tag => .ok tag
  | none => .error (.delayOutOfRange milliseconds)

/-- The message by itself, or in a bundle that is due in some milliseconds. -/
def enclosed (now : Instant) (message : Message) : (bundleIn : Option Nat) →
    Except CommandError Packet
  | none => .ok message
  | some milliseconds => (Packet.bundle · [message]) <$> dueIn now milliseconds

/-- The bytes of a message, or of a bundle around it, in hexadecimal. -/
def encoded (limits : Codec.Limits) (now : Instant) (address : String) (arguments : List String)
    (bundleIn : Option Nat) : Except CommandError String := do
  let arguments ← arguments.mapM fun text => (Argument.ofTyped now text).mapError .argument
  let packet ← enclosed now { address, arguments } bundleIn
  let data ← (({ limits } : Codec).encode packet).mapError .encoding
  return String.ofList (Text.hexOfBytes data) ++ "\n"

/-- A line for an address that says whether it matches. -/
def tested (pattern : AddressPattern) (address : String) : String :=
  (if pattern.isMatch address then "MATCH " else "miss  ") ++ address ++ "\n"

/-! ### Routing -/

/-- What is printed for an occurrence. -/
def line? : Occurrence → Option String
  | .called _ event _ =>
    let arguments : Json := .array (Argument.itemsToJson event.message.arguments)
    some (event.time.display ++ " " ++ event.message.address ++ " " ++ arguments.compact ++ "\n")
  | .badData _ _ failure => some ("BAD " ++ failure.message ++ "\n")
  | _ => none

/-- What is printed for all that happened between two states of a dispatcher. -/
def printed (before after : Dispatcher) : String :=
  String.join ((after.journalSince before.journal.length).filterMap line?)

/-- Listeners that do nothing but print. -/
def surroundings (start : Instant) : Surroundings where
  tests := fun _ => { verdict := fun _ => false }
  clock := Surroundings.ticking start
  react := fun _ _ _ => .done

/-- As no listener dispatches, one level of dispatching is enough. -/
def nesting : Nat := 1

/-- The dispatcher after a step. -/
def advance {α : Type} (step : Step α) (d : Dispatcher) : Dispatcher :=
  match step d with
  | .ok _ d => d
  | .error _ d => d

/-- Hands over one packet after the other, up to the first that is not given in hexadecimal. -/
def receiveAll (env : Surroundings) (receiver : Receiver) :
    (packets : List String) → Dispatcher → Dispatcher × Option CommandError
  | [], d => (d, none)
  | text :: rest, d =>
    match readHex text with
    | .error failure => (d, some failure)
    | .ok data => receiveAll env receiver rest (advance (receiver.receive env nesting data none) d)

/-- What is printed while bundles that were put off fall due, but not beyond the moment `patience`;
`turns` bounds their number. -/
def settle (env : Surroundings) (patience : Instant) : (turns : Nat) → Dispatcher → List Output
  | 0, _ => []
  | turns + 1, d =>
    match d.scheduler.earliest? with
    | none => []
    | some (index, deadline) =>
      if patience.nanoseconds < deadline.nanoseconds then []
      else
        let fired := advance (do
          Dispatcher.sleepUntil env deadline
          Dispatcher.fire env nesting index) d
        { wait := fired.slept - d.slept, text := printed d fired } ::
          settle env patience turns fired

/-- How many bundles can fall due after one another: those that wait, and those inside them. -/
def bundlesWaiting (d : Dispatcher) : Nat :=
  d.scheduler.waiting.foldl (fun count task => count + 1 + Packet.stepCountAll task.job.elements) 0

/-- What is printed after the packets have been handed over, if there is something to wait for.  In
the end the program has waited as long as it was told to. -/
def outputsLater (env : Surroundings) (milliseconds : Nat) (d : Dispatcher) : List Output :=
  let wait := milliseconds * nanosPerMillisecond
  let patience := (d.moment env).after wait
  let outputs := settle env patience (bundlesWaiting d) d
  outputs ++ [{ wait := wait - outputs.foldl (fun slept piece => slept + piece.wait) 0, text := "" }]

/-- What is printed for packets that go to a dispatcher with one listener. -/
def routed (settings : Settings) (start : Instant) (selector : Selector) (packets : List String)
    (waitFor : Nat) : Outcome :=
  let env := surroundings start
  let receiver := Receiver.addListener { codec := { limits := settings.codec } } .dispatcher
  let idle := (Dispatcher.new settings.dispatcher .standard).addListener env.tests selector "printer"
  let idle := idle.addBadDataListener "printer"
  let (d, failure) := receiveAll env receiver packets idle
  let waits := failure.isNone && d.scheduler.pending ≠ 0 && waitFor ≠ 0
  let later := if waits then outputsLater env waitFor d else []
  { outputs := { text := printed idle d } :: later, failure }

/-- The selector of a pattern and perhaps a pattern for type tags. -/
def routeSelector (pattern : String) (typeTags : Option String) : Selector :=
  match typeTags with
  | some tags => .addressAndTypeTags pattern tags
  | none => .address pattern

/-- What a command does. -/
def run (settings : Settings) (now : Instant) : Command → Outcome
  | decode input compact => .ofExcept (decoded settings.codec input compact)
  | encode address arguments bundleIn =>
    .ofExcept (encoded settings.codec now address arguments bundleIn)
  | test pattern addresses =>
    .ofExcept (.ok (String.join (addresses.map (tested ⟨pattern⟩))))
  | route pattern typeTags packets waitFor =>
    routed settings now (routeSelector pattern typeTags) packets waitFor

end OpenSound.Command
