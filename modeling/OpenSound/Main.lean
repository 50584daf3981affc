import OpenSound.Command.Options
import OpenSound.Command.Run
import OpenSound.Settings.Document
import Std.Time.DateTime.Timestamp

/-!
# The program

Reads the files that the command line names, carries out the command, and prints its outcome.
-/

namespace OpenSound

/-- The moment that the clock shows. -/
def wallClock : IO Instant := do
  let timestamp ← Std.Time.Timestamp.now
  return ⟨timestamp.toNanosecondsSinceUnixEpoch.val⟩

/-- Says what was being done when something went wrong. -/
def inContext {α : Type} (context : String) (action : IO α) : IO α := do
  try action catch e =>
    throw (IO.userError (context ++ "\n\nCaused by:\n    " ++ toString e))

/-- The settings in a file, or the usual ones. -/
def readSettings : Option String → IO Settings
  | none => return {}
  | some path => do
    let document ← inContext ("reading config " ++ path) (IO.FS.readFile path)
    match Settings.ofDocument? document with
    | some settings => return settings
    | none => throw (IO.userError ("parsing config " ++ path))

/-- The command with the packet from a file, if one is named. -/
def withPacketFile (command : Command) : Option String → IO Command
  | none => return command
  | some path => do
    let data ← inContext ("reading " ++ path) (IO.FS.readBinFile path)
    match command with
    | .decode _ compact => return .decode (some (.data data.data.toList)) compact
    | command => return command

/-- Prints each piece of output when its time has come, and then the failure. -/
def showOutcome (outcome : Outcome) : IO UInt32 := do
  let output ← IO.getStdout
  for piece in outcome.outputs do
    IO.sleep (UInt32.ofNat (piece.wait / nanosPerMillisecond))
    output.putStr piece.text
    output.flush
  if let some failure := outcome.failure then IO.eprint failure.display
  return UInt32.ofNat outcome.exitCode

/-- Carries out what the command line asks for. -/
def carryOut (request : Request) : IO UInt32 := do
  let settings ← readSettings request.settingsFile
  let command ← withPacketFile request.command request.packetFile
  showOutcome (command.run settings (← wallClock))

end OpenSound

def main (words : List String) : IO UInt32 := do
  match OpenSound.Request.ofWords? words with
  | none =>
    IO.eprintln OpenSound.Request.usage
    return 2
  | some request =>
    try OpenSound.carryOut request catch e =>
      IO.eprintln ("Error: " ++ toString e)
      return 1
