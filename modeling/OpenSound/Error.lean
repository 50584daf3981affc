import OpenSound.Argument
import OpenSound.Text.Quoted

/-!
# Causes of failure

Why a packet could not be read (`ParseError`), why one could not be written (`EncodeError`), why a
handler could not be registered (`RegistryError`), and that there is none for a tag (`UnknownType`),
each with its wording in one place.
-/

namespace OpenSound

/-- Why bytes are no packet. -/
inductive ParseError where
  | empty
  | truncated (needed available : Nat)
  | unaligned (length : Nat)
  | invalidPadding (offset : Nat)
  | unterminatedString (offset : Nat)
  | invalidUtf8 (offset : Nat)
  | invalidBundleHeader
  | invalidElementLength (length : Int32)
  | invalidBlobLength (length : Int32)
  | missingTypeTagSeparator (found : UInt8)
  | missingTypeTags
  | invalidAddress (address : String)
  | unbalancedArray (typeTags : String)
  | nestingTooDeep (limit : Nat)
  | trailingBytes (count : Nat)
  | unknownType (tag : Char)
  /-- A character slot begins with a byte outside ASCII. -/
  | nonAsciiChar (code : UInt8)
deriving DecidableEq, Repr, Inhabited

/-- Why a packet has no encoding. -/
inductive EncodeError where
  | bufferOverrun (needed available : Nat)
  | invalidAddress (address : String)
  | unknownType (tag : Char)
  | typeMismatch (tag : Char) (found : Kind)
  | embeddedNul
  | tooLarge (length : Nat)
  | nestingTooDeep (limit : Nat)
deriving DecidableEq, Repr, Inhabited

/-- Why a handler was refused. -/
inductive RegistryError where
  | duplicateType (tag : Char)
  | reservedType (tag : Char)
deriving DecidableEq, Repr, Inhabited

/-- A type tag that no handler is registered under. -/
structure UnknownType where
  tag : Char
deriving DecidableEq, Repr, Inhabited

private def unknownTypeMessage (tag : Char) : String :=
  s!"no argument handler registered for type tag '{tag}'"

private def nestingMessage (limit : Nat) : String :=
  s!"nesting exceeds the limit of {limit} levels"

private def addressMessage (address : String) : String :=
  "invalid address: " ++ Text.quoted address

private def hexByte (code : UInt8) : String :=
  "0x" ++ String.ofList (Text.hexPadded 2 code.toNat)

def ParseError.message : ParseError → String
  | empty => "empty packet"
  | truncated needed available => s!"buffer too small: need {needed} bytes, have {available}"
  | unaligned length => s!"length {length} is not a multiple of 4"
  | invalidPadding offset => s!"non-zero padding byte at offset {offset}"
  | unterminatedString offset => s!"string starting at offset {offset} is not NUL terminated"
  | invalidUtf8 offset => s!"string starting at offset {offset} is not valid UTF-8"
  | invalidBundleHeader => "invalid bundle header"
  | invalidElementLength length => s!"invalid bundle element length {length.toInt}"
  | invalidBlobLength length => s!"invalid blob length {length.toInt}"
  | missingTypeTagSeparator found =>
    "type tag string must start with ',' (found " ++ hexByte found ++ ")"
  | missingTypeTags => "message has no type tag string"
  | invalidAddress address => addressMessage address
  | unbalancedArray typeTags =>
    "unbalanced array brackets in type tags " ++ Text.quoted typeTags
  | nestingTooDeep limit => nestingMessage limit
  | trailingBytes count => s!"{count} bytes left over after the last argument"
  | unknownType tag => unknownTypeMessage tag
  | nonAsciiChar code => "invalid 'c' argument: " ++ hexByte code ++ " is not ASCII"

def EncodeError.message : EncodeError → String
  | bufferOverrun needed available => s!"buffer overrun: need {needed} bytes, have {available}"
  | invalidAddress address => addressMessage address
  | unknownType tag => unknownTypeMessage tag
  | typeMismatch tag found => s!"handler for type tag '{tag}' cannot encode {found.name}"
  | embeddedNul => "string contains an embedded NUL byte"
  | tooLarge length => s!"{length} bytes do not fit a 32-bit length prefix"
  | nestingTooDeep limit => nestingMessage limit

def RegistryError.message : RegistryError → String
  | duplicateType tag => s!"a handler for type tag '{tag}' is already registered"
  | reservedType tag => s!"type tag '{tag}' is reserved"

def UnknownType.message (e : UnknownType) : String := unknownTypeMessage e.tag

/-- A refused packet: the cause, and the whole of the bytes that were refused. -/
structure Malformed where
  cause : ParseError
  data : Bytes
deriving DecidableEq, Repr, Inhabited

def Malformed.message (m : Malformed) : String :=
  s!"malformed OSC packet ({m.data.length} bytes): " ++ m.cause.message

end OpenSound
