import OpenSound.Codec.Decode
import OpenSound.Dispatcher.Delivery

/-!
# Receivers

A receiver reads every buffer it is given and tells its packet listeners of the outcome, one after
the other: of the packet, or of the failure.  A dispatcher that is told deals with either, and what
any other packet listener does is up to the surroundings.
-/

namespace OpenSound

/-- What arrives with the bytes. -/
def Codec.arrival (codec : Codec) (data : Bytes) : Arrival :=
  match codec.decode data with
  | .ok packet => .packet packet
  | .error failure => .failure failure

/-- A codec for what arrives, and who is told of it. -/
structure Receiver where
  codec : Codec := {}
  listeners : List PacketListener := []

namespace Receiver

def addListener (r : Receiver) (listener : PacketListener) : Receiver :=
  { r with listeners := r.listeners ++ [listener] }

/-- Removes a packet listener once, and says whether there was one. -/
def removeListener (r : Receiver) (listener : PacketListener) : Bool × Receiver :=
  (r.listeners.contains listener, { r with listeners := r.listeners.erase listener })

variable (env : Surroundings) (nesting : Nat)

/-- Tells one listener.  A dispatcher goes no further into why a dispatch has failed. -/
def tell (source : Source) (arrival : Arrival) : PacketListener → Step Unit
  | .dispatcher => do
    modify fun d => d.note (.told .dispatcher source arrival)
    discard (Dispatcher.answered (Dispatcher.process env nesting arrival source))
  | .user name =>
    Dispatcher.call env (Dispatcher.process env nesting) name (.arrival source arrival)

/-- Reads a buffer and tells the listeners.  The answer is why it could not be read, if so. -/
def receive (r : Receiver) (data : Bytes) (source : Source) : Step (Option Malformed) := do
  let arrival := r.codec.arrival data
  r.listeners.forM (tell env nesting source arrival)
  return arrival.failure?

end Receiver

end OpenSound
