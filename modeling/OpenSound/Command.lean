import OpenSound.Argument.Typed
import OpenSound.Error

/-!
# Commands

What the program can be asked for, what it prints, and how it fails.
-/

namespace OpenSound

/-- A packet that is given to be shown. -/
inductive PacketInput where
  | hex (text : String)
  | data (bytes : Bytes)
deriving Repr

/-- What the program is asked to do. -/
inductive Command where
  /-- Shows a packet as JSON. -/
  | decode (input : Option PacketInput) (compact : Bool)
  /-- Writes a message in hexadecimal, perhaps in a bundle that is due in some milliseconds. -/
  | encode (address : String) (arguments : List String) (bundleIn : Option Nat)
  /-- Tests addresses against a pattern. -/
  | test (pattern : String) (addresses : List String)
  /-- Hands packets to a dispatcher and shows the messages that it selects.  For bundles that are
  put off it waits some milliseconds. -/
  | route (pattern : String) (typeTags : Option String) (packets : List String) (waitFor : Nat)
deriving Repr

/-- Why a command failed. -/
inductive CommandError where
  | noInput
  | hex (error : Text.HexError)
  | argument (error : TypedError)
  | malformed (failure : Malformed)
  | encoding (cause : EncodeError)
  /-- The clock cannot show the moment at which a bundle would be due. -/
  | delayOutOfRange (milliseconds : Nat)
deriving Repr

namespace CommandError

/-- What went wrong, or what was being done when it did. -/
def context : CommandError → String
  | noInput => "provide packet hex or --file"
  | hex error => TypedError.context (.hex error)
  | argument error => error.context
  | malformed failure => failure.message
  | encoding cause => cause.message
  | delayOutOfRange milliseconds => s!"bundle delay of {milliseconds} ms is out of range"

/-- What is behind it, if there is more to say. -/
def cause? : CommandError → Option String
  | hex error => TypedError.cause? (.hex error)
  | argument error => error.cause?
  | _ => none

/-- The report to the user. -/
def display (e : CommandError) : String :=
  let cause := match e.cause? with
    | some cause => "\nCaused by:\n    " ++ cause ++ "\n"
    | none => ""
  "Error: " ++ e.context ++ "\n" ++ cause

end CommandError

/-- A piece of output, and for how many nanoseconds the program waits in front of it. -/
structure Output where
  wait : Nat := 0
  text : String
deriving Repr

/-- What a command prints, and why it fails if it does. -/
structure Outcome where
  outputs : List Output := []
  failure : Option CommandError := none

namespace Outcome

/-- The outcome of a command that prints one text at once, or fails without. -/
def ofExcept (result : Except CommandError String) : Outcome :=
  match result with
  | .ok text => { outputs := [{ text }] }
  | .error failure => { failure := some failure }

/-- All that is printed. -/
def text (o : Outcome) : String := String.join (o.outputs.map (·.text))

/-- The status that the program ends with. -/
def exitCode (o : Outcome) : Nat := if o.failure.isSome then 1 else 0

end Outcome

end OpenSound
