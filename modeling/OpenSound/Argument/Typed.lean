import OpenSound.Argument
import OpenSound.Decimal.Reader
import OpenSound.Text.HexBytes

/-!
# Typed arguments

Arguments as they are typed by hand: a type tag, a colon and the value, as in `i:42` or `s:text`, or
a word for an argument that has no value.  A text of another form is taken for an integer if it is
one, else for a floating-point number if it is one, else for a string.
-/

namespace OpenSound

/-- Why a text with a type tag is no argument. -/
inductive TypedError where
  | integer (kind : Kind) (cause : Text.IntegerError)
  | float (kind : Kind) (cause : Ieee.FloatError)
  | hex (error : Text.HexError)
  | char
  /-- Not four bytes: one of the parts is no byte, or their number is wrong. -/
  | quad (cause : Option Text.IntegerError)
deriving DecidableEq, Repr

namespace TypedError

/-- What was being read. -/
def context : TypedError → String
  | integer kind _ => "invalid " ++ kind.name
  | float kind _ => "invalid " ++ kind.name
  | hex error => "invalid hex input " ++ Text.quoted error.digits
  | char => "char argument must be a single ASCII character"
  | quad _ => "expected four comma-separated bytes"

/-- What went wrong with it, if there is more to say. -/
def cause? : TypedError → Option String
  | integer _ cause => some cause.message
  | float _ cause => some cause.message
  | hex error => some error.fault.message
  | char => none
  | quad cause => cause.map (·.message)

end TypedError

namespace Argument

/-- The argument that a word stands for. -/
def ofWord? (text : String) : Option Argument :=
  if text = "T" ∨ text = "true" then some (bool true)
  else if text = "F" ∨ text = "false" then some (bool false)
  else if text = "N" ∨ text = "nil" then some nil
  else if text = "I" ∨ text = "impulse" then some impulse
  else none

def readInt32 (text : List Char) : Except Text.IntegerError Int :=
  Text.readInteger Int32.minValue.toInt Int32.maxValue.toInt text

/-- The argument that a text without a type tag is taken for. -/
def inferred (text : List Char) : Argument :=
  match readInt32 text with
  | .ok n => int (Int32.ofInt n)
  | .error _ =>
    match Ieee.Format.single.readFloat text with
    | .ok bits => float (UInt32.ofNat bits)
    | .error _ => string (String.ofList text)

/-- Cuts a text at every comma. -/
def splitCommas (text : List Char) : List (List Char) :=
  text.foldr
    (fun c parts =>
      match c, parts with
      | ',', parts => [] :: parts
      | c, part :: rest => (c :: part) :: rest
      | c, [] => [[c]])
    [[]]

/-- Reads four bytes between commas, with blanks around them. -/
def quadOf (text : List Char) : Except TypedError (UInt8 × UInt8 × UInt8 × UInt8) := do
  let read (part : List Char) : Except TypedError UInt8 :=
    match Text.readInteger 0 255 (Text.trim part) with
    | .ok n => .ok (UInt8.ofNat n.toNat)
    | .error cause => .error (.quad (some cause))
  match ← (splitCommas text).mapM read with
  | [a, b, c, d] => return (a, b, c, d)
  | _ => throw (.quad none)

/-- Reads the time tag of an argument, given the moment for the word that asks for it. -/
def timeTagOf (now : Instant) (value : List Char) : Except TypedError TimeTag :=
  if value = "now".toList then .ok (.ofInstant now)
  else if value = "immediate".toList then .ok .immediate
  else
    match Text.readInteger 0 (UInt64.size - 1) value with
    | .ok n => .ok ⟨UInt64.ofNat n.toNat⟩
    | .error cause => .error (.integer .timeTag cause)

/-- Reads the value behind a type tag; a tag that has no values to be typed is none. -/
def ofTagged? (now : Instant) (tag : Char) (value : List Char) :
    Option (Except TypedError Argument) :=
  let integer (kind : Kind) (least greatest : Int) (make : Int → Argument) :=
    some ((Text.readInteger least greatest value |>.map make).mapError (TypedError.integer kind))
  let floating (kind : Kind) (format : Ieee.Format) (make : Nat → Argument) :=
    some ((format.readFloat value |>.map make).mapError (TypedError.float kind))
  match tag with
  | 'i' => integer .int Int32.minValue.toInt Int32.maxValue.toInt fun n => int (Int32.ofInt n)
  | 'u' => integer .unsigned 0 (UInt32.size - 1) fun n => unsigned (UInt32.ofNat n.toNat)
  | 'h' => integer .long Int64.minValue.toInt Int64.maxValue.toInt fun n => long (Int64.ofInt n)
  | 'f' => floating .float .single fun bits => float (UInt32.ofNat bits)
  | 'd' => floating .double .double fun bits => double (UInt64.ofNat bits)
  | 's' => some (.ok (string (String.ofList value)))
  | 'S' => some (.ok (symbol (String.ofList value)))
  | 'b' => some ((Text.readHex (String.ofList value) |>.map blob).mapError .hex)
  | 'c' => match value with
    | [c] => some (if c.toNat < 128 then .ok (char (UInt8.ofNat c.toNat)) else .error .char)
    | _ => some (.error .char)
  | 't' => some (timeTag <$> timeTagOf now value)
  | 'm' => some ((fun (a, b, c, d) => midi ⟨a, b, c, d⟩) <$> quadOf value)
  | 'r' => some ((fun (a, b, c, d) => color ⟨a, b, c, d⟩) <$> quadOf value)
  | _ => none

/-- Reads an argument as it is typed.  The first colon ends a type tag if it is the second
character. -/
def ofTyped (now : Instant) (text : String) : Except TypedError Argument :=
  match ofWord? text with
  | some argument => .ok argument
  | none =>
    match text.toList with
    | ':' :: _ => .ok (inferred text.toList)
    | tag :: ':' :: value => (ofTagged? now tag value).getD (.ok (inferred text.toList))
    | other => .ok (inferred other)

end Argument

end OpenSound
