import OpenSound.Address
import OpenSound.Codec

/-!
# Writing packets

`Codec.encode` writes a packet, or says what about it cannot be written.  The type tags of a
message are settled for all of its arguments before the first payload is written, and the length of
an element of a bundle is filled in after the element.  `Codec.writeInto` writes into a `Sink`, a
slice of memory with room for so many bytes and no more.
-/

namespace OpenSound.Codec

variable (codec : Codec)

/-- The handler that writes the argument, which is no array: the one registered under its tag. -/
def handlerFor (argument : Argument) : Except EncodeError Handler :=
  let tag := argument.typeTag?.getD Argument.openBracket
  match codec.registry.find? tag with
  | none => .error (.unknownType tag)
  | some handler =>
    if handler.accepts argument then .ok handler else .error (.typeMismatch tag argument.kind)

mutual

/-- The type tags the argument is written with, if it has at most `levels` levels of arrays. -/
def tagsWithin : (levels : Nat) → Argument → Except EncodeError (List Char)
  | 0, .array _ => .error (.nestingTooDeep codec.limits.maxArrayDepth)
  | levels + 1, .array items => do
    let tags ← tagsOfWithin levels items
    return Argument.openBracket :: tags ++ [Argument.closeBracket]
  | _, argument => do
    let handler ← codec.handlerFor argument
    return [handler.tag]

/-- The type tags of a list of arguments, one after the other. -/
def tagsOfWithin : (levels : Nat) → List Argument → Except EncodeError (List Char)
  | _, [] => .ok []
  | levels, argument :: rest => do
    let front ← tagsWithin levels argument
    let back ← tagsOfWithin levels rest
    return front ++ back

end

/-- The type tags that the arguments of a message are written with, without the comma in front. -/
def typeTags (arguments : List Argument) : Except EncodeError String := do
  let tags ← codec.tagsOfWithin codec.limits.maxArrayDepth arguments
  return String.ofList tags

/-- The info that a message has after it was written and read. -/
def messageInfo (m : Message) : Except EncodeError MessageInfo := do
  let tags ← codec.typeTags m.arguments
  return ⟨tags⟩

mutual

/-- Writes the payload of an argument; that of an array is the payloads of its items. -/
def writeArgument : Argument → Writer Unit
  | .array items => writeArguments items
  | argument => do
    let handler ← codec.handlerFor argument
    let data ← handler.encode argument
    Writer.put data

/-- Writes the payloads of a list of arguments, one after the other. -/
def writeArguments : List Argument → Writer Unit
  | [] => pure ()
  | argument :: rest => do
    writeArgument argument
    writeArguments rest

end

def writeMessage (m : Message) : Writer Unit :=
  if Address.isValid m.address then do
    let address ← Bytes.paddedText? m.address
    Writer.put address
    let tags ← codec.typeTags m.arguments
    let tags ← Bytes.paddedText? ("," ++ tags)
    Writer.put tags
    codec.writeArguments m.arguments
  else throw (.invalidAddress m.address)

mutual

/-- Writes a packet with at most `levels` levels of bundles. -/
def writePacket : (levels : Nat) → Packet → Writer Unit
  | _, .message m => codec.writeMessage m
  | 0, .bundle _ _ => throw (.nestingTooDeep codec.limits.maxBundleDepth)
  | levels + 1, .bundle time elements => do
    Writer.put bundleHeader
    Writer.put (Bytes.bigEndian 8 time.raw.toNat)
    writeElements levels elements

/-- Writes the elements of a bundle, each behind its length. -/
def writeElements : (levels : Nat) → List Packet → Writer Unit
  | _, [] => pure ()
  | levels, packet :: rest => do
    Writer.sized (writePacket levels packet)
    writeElements levels rest

end

/-- The bytes of a packet of any size. -/
def encoding (packet : Packet) : Except EncodeError Bytes :=
  Prod.snd <$> (codec.writePacket codec.limits.maxBundleDepth packet).run []

/-- Writes a packet that has room in `available` bytes. -/
def encodeFitting (available : Nat) (packet : Packet) : Except EncodeError Bytes := do
  let data ← codec.encoding packet
  if data.length ≤ available then return data
  else throw (.bufferOverrun data.length available)

/-- Writes a packet of at most the size that the limits allow. -/
def encode (packet : Packet) : Except EncodeError Bytes :=
  codec.encodeFitting codec.limits.maxPacketSize packet

/-- A slice of memory, filled from the front. -/
structure Sink where
  storage : Bytes
  /-- How many bytes have been written. -/
  used : Nat := 0
deriving DecidableEq, Repr

namespace Sink

/-- How many bytes are still free. -/
def available (sink : Sink) : Nat := sink.storage.length - sink.used

/-- Writes over the first free bytes. -/
def write (sink : Sink) (data : Bytes) : Sink where
  storage := sink.storage.take sink.used ++ data ++ sink.storage.drop (sink.used + data.length)
  used := sink.used + data.length

end Sink

/-- Writes a packet into the sink, whose free space is the only limit on the packet's size, and
answers the number of bytes written.  A packet that cannot be written or does not fit leaves the
sink alone. -/
def writeInto (packet : Packet) : EStateM EncodeError Sink Nat := do
  let data ← MonadExcept.ofExcept (codec.encoding packet)
  let sink ← get
  if data.length ≤ sink.available then
    set (sink.write data)
    return data.length
  else throw (.bufferOverrun data.length sink.available)

/-- Writes a packet into the sink.  The answer is the number of bytes written and the sink after
it. -/
def encodeInto (packet : Packet) (sink : Sink) : Except EncodeError (Nat × Sink) :=
  match codec.writeInto packet sink with
  | .ok written sink => .ok (written, sink)
  | .error e _ => .error e

end OpenSound.Codec
