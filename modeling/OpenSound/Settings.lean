import OpenSound.Dispatcher
import OpenSound.Packet.Json

/-!
# Settings

The limits of a codec and the settings of a dispatcher, and both together, as JSON.  They are read
from structures in which every field may be missing.  A field that is not known means nothing; one
of the wrong type is an error.
-/

namespace OpenSound

namespace Json

/-- The greatest size that a setting may give. -/
def greatestSize : Int := UInt64.size - 1

/-- A size in a structure, if it is given. -/
def sizeField? (fields : List (String × Json)) (name : String) (usual : Nat) : Option Nat :=
  match fields.lookup name with
  | none => some usual
  | some value => Int.toNat <$> value.integer? 0 greatestSize

def boolField? (fields : List (String × Json)) (name : String) (usual : Bool) : Option Bool :=
  match fields.lookup name with
  | none => some usual
  | some value => value.bool?

def stringField? (fields : List (String × Json)) (name : String) (usual : String) :
    Option String :=
  match fields.lookup name with
  | none => some usual
  | some value => value.string?

end Json

/-- The limits of a codec as a structure. -/
def Codec.Limits.toJson (l : Codec.Limits) : Json :=
  .ofFields [("max_packet_size", l.maxPacketSize),
    ("allow_missing_type_tags", l.allowMissingTypeTags), ("max_bundle_depth", l.maxBundleDepth),
    ("max_array_depth", l.maxArrayDepth)]

/-- Reads the limits of a codec. -/
def Codec.Limits.ofJson? (j : Json) : Option Codec.Limits := do
  let usual : Codec.Limits := {}
  let fields ← j.structure?
    ["max_packet_size", "allow_missing_type_tags", "max_bundle_depth", "max_array_depth"]
  return {
    maxPacketSize := ← Json.sizeField? fields "max_packet_size" usual.maxPacketSize
    allowMissingTypeTags :=
      ← Json.boolField? fields "allow_missing_type_tags" usual.allowMissingTypeTags
    maxBundleDepth := ← Json.sizeField? fields "max_bundle_depth" usual.maxBundleDepth
    maxArrayDepth := ← Json.sizeField? fields "max_array_depth" usual.maxArrayDepth }

/-- The settings of a dispatcher as a structure. -/
def Dispatcher.Settings.toJson (s : Dispatcher.Settings) : Json :=
  .ofFields [("always_dispatch_immediately", s.alwaysImmediate),
    ("scheduler_thread_name", s.threadName)]

/-- Reads the settings of a dispatcher. -/
def Dispatcher.Settings.ofJson? (j : Json) : Option Dispatcher.Settings := do
  let usual : Dispatcher.Settings := {}
  let fields ← j.structure? ["always_dispatch_immediately", "scheduler_thread_name"]
  return {
    alwaysImmediate := ← Json.boolField? fields "always_dispatch_immediately" usual.alwaysImmediate
    threadName := ← Json.stringField? fields "scheduler_thread_name" usual.threadName }

/-- The settings of a program. -/
structure Settings where
  codec : Codec.Limits := {}
  dispatcher : Dispatcher.Settings := {}
deriving DecidableEq, Repr, Inhabited

/-- Reads the settings of a program. -/
def Settings.ofJson? (j : Json) : Option Settings := do
  let fields ← j.structure? ["codec", "dispatcher"]
  let codec ← (fields.lookup "codec").elim (some {}) Codec.Limits.ofJson?
  let dispatcher ← (fields.lookup "dispatcher").elim (some {}) Dispatcher.Settings.ofJson?
  return { codec, dispatcher }

end OpenSound
