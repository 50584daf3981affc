import OpenSound.Wire

/-!
# Handlers

A handler knows one type of argument: the tag it is written under, which arguments it accepts, and
how their payload is laid out.  There is one for each type tag of the protocol, and
`Handler.fixedWidth` serves extension types whose payload has a known size.
-/

namespace OpenSound

/-- The reader and writer of one type of argument. -/
inductive Handler where
  | int | unsigned | float | string | blob | long | double | timeTag
  /-- The value is in the tag, and there is no payload. -/
  | bool (value : Bool)
  | nil | impulse | char | color | midi | symbol
  /-- An extension type with a payload of `width` bytes. -/
  | fixedWidth (tag : Char) (width : Length)
deriving DecidableEq, Repr, Inhabited

namespace Handler

/-- The type tag the handler is registered under. -/
def tag : Handler → Char
  | int => 'i'
  | unsigned => 'u'
  | float => 'f'
  | string => 's'
  | blob => 'b'
  | long => 'h'
  | double => 'd'
  | timeTag => 't'
  | bool true => 'T'
  | bool false => 'F'
  | nil => 'N'
  | impulse => 'I'
  | char => 'c'
  | color => 'r'
  | midi => 'm'
  | symbol => 'S'
  | fixedWidth tag _ => tag

/-- The handlers for the four types that every implementation knows. -/
def required : List Handler := [int, float, string, blob]

/-- The handlers for every type of the protocol. -/
def all : List Handler :=
  required ++ [long, double, timeTag, bool true, bool false, nil, impulse, char, color, midi,
    symbol, unsigned]

/-- Whether the handler can write the argument. -/
def accepts : Handler → Argument → Bool
  | int, .int _ => true
  | unsigned, .unsigned _ => true
  | float, .float _ => true
  | string, .string _ => true
  | blob, .blob _ => true
  | long, .long _ => true
  | double, .double _ => true
  | timeTag, .timeTag _ => true
  | bool value, .bool given => value = given
  | nil, .nil => true
  | impulse, .impulse => true
  | char, .char _ => true
  | color, .color _ => true
  | midi, .midi _ => true
  | symbol, .symbol _ => true
  | fixedWidth tag width, .custom given data => given = tag && data.length = width
  | _, _ => false

/-- A character: its code, and three bytes that are not looked at. -/
def readChar : Reader Argument := do
  let slot ← Reader.take 4
  let code := slot.headD 0
  if code < 128 then pure (.char code) else throw (.nonAsciiChar code)

/-- Four bytes as the four parts of a value. -/
def readQuad (make : UInt8 → UInt8 → UInt8 → UInt8 → Argument) : Reader Argument := do
  match ← Reader.take 4 with
  | [a, b, c, d] => pure (make a b c d)
  | slot => throw (.truncated 4 slot.length)

/-- Reads one payload. -/
def decode : Handler → Reader Argument
  | int => .int <$> Reader.int32
  | unsigned => .unsigned <$> Reader.uint32
  | float => .float <$> Reader.uint32
  | string => .string <$> Reader.text
  | blob => .blob <$> Reader.blob
  | long => .long <$> Reader.int64
  | double => .double <$> Reader.uint64
  | timeTag => (.timeTag ⟨·⟩) <$> Reader.uint64
  | bool value => pure (.bool value)
  | nil => pure .nil
  | impulse => pure .impulse
  | char => readChar
  | color => readQuad fun a b c d => .color ⟨a, b, c, d⟩
  | midi => readQuad fun a b c d => .midi ⟨a, b, c, d⟩
  | symbol => .symbol <$> Reader.text
  | fixedWidth tag width => .custom tag <$> Reader.padded width

/-- The payload of the argument. -/
def encode (handler : Handler) (argument : Argument) : Except EncodeError Bytes :=
  match handler, argument with
  | int, .int value => .ok (Bytes.bigEndian 4 value.toUInt32.toNat)
  | unsigned, .unsigned value => .ok (Bytes.bigEndian 4 value.toNat)
  | float, .float bits => .ok (Bytes.bigEndian 4 bits.toNat)
  | string, .string text => Bytes.paddedText? text
  | blob, .blob data => Bytes.sizedBlob? data
  | long, .long value => .ok (Bytes.bigEndian 8 value.toUInt64.toNat)
  | double, .double bits => .ok (Bytes.bigEndian 8 bits.toNat)
  | timeTag, .timeTag tag => .ok (Bytes.bigEndian 8 tag.raw.toNat)
  | char, .char code => .ok [code, 0, 0, 0]
  | color, .color value => .ok value.toBytes
  | midi, .midi value => .ok value.toBytes
  | symbol, .symbol text => Bytes.paddedText? text
  | fixedWidth tag width, .custom given data =>
    if given = tag ∧ data.length = width then .ok (Bytes.padded data)
    else .error (.typeMismatch tag .custom)
  | handler, argument =>
    -- what is left has no payload, and is accepted or refused as it stands
    if handler.accepts argument then .ok [] else .error (.typeMismatch handler.tag argument.kind)

end Handler

end OpenSound
