import OpenSound.Bytes
import OpenSound.Ieee
import OpenSound.Time

/-!
# Arguments

A message carries a list of typed arguments.  Every argument but an array is written under a type
tag of one character; an array is written as brackets around the tags of its items.  Floating-point
arguments are kept as their bits, so that every payload of the wire has exactly one value here;
`Argument.agrees` compares them as numbers.
-/

namespace OpenSound

/-- A color with eight bits for each channel. -/
structure Color where
  red : UInt8
  green : UInt8
  blue : UInt8
  alpha : UInt8
deriving DecidableEq, Repr, Inhabited

def Color.toBytes (c : Color) : Bytes := [c.red, c.green, c.blue, c.alpha]

/-- A short MIDI message and the port it belongs to. -/
structure MidiMessage where
  port : UInt8
  status : UInt8
  data1 : UInt8
  data2 : UInt8
deriving DecidableEq, Repr, Inhabited

def MidiMessage.toBytes (m : MidiMessage) : Bytes := [m.port, m.status, m.data1, m.data2]

/-- The kinds of argument. -/
inductive Kind where
  | int | unsigned | float | string | blob | long | double | timeTag | bool | nil | impulse
  | char | color | midi | symbol | array | custom
deriving DecidableEq, Repr, Inhabited

/-- The name that diagnostics give a kind. -/
def Kind.name : Kind → String
  | int => "int32"
  | unsigned => "uint32"
  | float => "float32"
  | string => "string"
  | blob => "blob"
  | long => "int64"
  | double => "float64"
  | timeTag => "time tag"
  | bool => "bool"
  | nil => "nil"
  | impulse => "impulse"
  | char => "char"
  | color => "color"
  | midi => "midi"
  | symbol => "symbol"
  | array => "array"
  | custom => "custom"

/-- A single argument of a message. -/
inductive Argument where
  | int (value : Int32)
  | unsigned (value : UInt32)
  /-- A value in the format with 32 bits, by its bits. -/
  | float (bits : UInt32)
  | string (text : String)
  | blob (data : Bytes)
  | long (value : Int64)
  /-- A value in the format with 64 bits, by its bits. -/
  | double (bits : UInt64)
  | timeTag (tag : TimeTag)
  | bool (value : Bool)
  | nil
  | impulse
  | char (code : UInt8)
  | color (value : Color)
  | midi (value : MidiMessage)
  | symbol (text : String)
  | array (items : List Argument)
  /-- A payload of an extension type. -/
  | custom (tag : Char) (data : Bytes)
deriving Inhabited, Repr

namespace Argument

/-- The bracket that opens an array in a string of type tags. -/
def openBracket : Char := '['

/-- The bracket that closes an array in a string of type tags. -/
def closeBracket : Char := ']'

def kind : Argument → Kind
  | int _ => .int
  | unsigned _ => .unsigned
  | float _ => .float
  | string _ => .string
  | blob _ => .blob
  | long _ => .long
  | double _ => .double
  | timeTag _ => .timeTag
  | bool _ => .bool
  | nil => .nil
  | impulse => .impulse
  | char _ => .char
  | color _ => .color
  | midi _ => .midi
  | symbol _ => .symbol
  | array _ => .array
  | custom _ _ => .custom

/-- The type tag the argument is written under.  An array has none of its own. -/
def typeTag? : Argument → Option Char
  | int _ => some 'i'
  | unsigned _ => some 'u'
  | float _ => some 'f'
  | string _ => some 's'
  | blob _ => some 'b'
  | long _ => some 'h'
  | double _ => some 'd'
  | timeTag _ => some 't'
  | bool true => some 'T'
  | bool false => some 'F'
  | nil => some 'N'
  | impulse => some 'I'
  | char _ => some 'c'
  | color _ => some 'r'
  | midi _ => some 'm'
  | symbol _ => some 'S'
  | custom tag _ => some tag
  | array _ => none

mutual

/-- The type tags of the argument, with brackets around those of an array. -/
def typeTags : Argument → List Char
  | array items => openBracket :: typeTagsOf items ++ [closeBracket]
  | argument => argument.typeTag?.toList

/-- The type tags of a list of arguments, one after the other. -/
def typeTagsOf : List Argument → List Char
  | [] => []
  | argument :: rest => argument.typeTags ++ typeTagsOf rest

end

/-- Induction on a list of arguments and on the lists in its arrays. -/
@[elab_as_elim]
theorem list_induction {P : List Argument → Prop} (nil : P [])
    (leaf : ∀ argument tag rest, argument.typeTag? = some tag → P rest → P (argument :: rest))
    (array : ∀ items rest, P items → P rest → P (array items :: rest)) :
    ∀ arguments, P arguments
  | [] => nil
  | argument :: rest => by
    have hrest := list_induction nil leaf array rest
    cases argument with
    | array items => exact array items rest (list_induction nil leaf array items) hrest
    | bool value => cases value <;> exact leaf _ _ rest rfl hrest
    | _ => exact leaf _ _ rest rfl hrest

mutual

/-- Equality of arguments that compares floating-point values as numbers: a value that is not a
number agrees with nothing, and the two zeros agree. -/
def agrees : Argument → Argument → Bool
  | int a, int b => a = b
  | unsigned a, unsigned b => a = b
  | float a, float b => Ieee.Format.single.equal a.toNat b.toNat
  | string a, string b => a = b
  | blob a, blob b => a = b
  | long a, long b => a = b
  | double a, double b => Ieee.Format.double.equal a.toNat b.toNat
  | timeTag a, timeTag b => a = b
  | bool a, bool b => a = b
  | nil, nil => true
  | impulse, impulse => true
  | char a, char b => a = b
  | color a, color b => a = b
  | midi a, midi b => a = b
  | symbol a, symbol b => a = b
  | array a, array b => agree a b
  | custom s a, custom t b => s = t && a = b
  | _, _ => false

/-- Lists agree when they have one length and agree place by place. -/
def agree : List Argument → List Argument → Bool
  | [], [] => true
  | a :: as, b :: bs => agrees a b && agree as bs
  | _, _ => false

end

/-! ### Views of one kind -/

def int? : Argument → Option Int32
  | int value => some value
  | _ => none

def unsigned? : Argument → Option UInt32
  | unsigned value => some value
  | _ => none

def float? : Argument → Option UInt32
  | float bits => some bits
  | _ => none

/-- The text of a string or a symbol. -/
def text? : Argument → Option String
  | string text => some text
  | symbol text => some text
  | _ => none

def blob? : Argument → Option Bytes
  | blob data => some data
  | _ => none

def bool? : Argument → Option Bool
  | bool value => some value
  | _ => none

def items? : Argument → Option (List Argument)
  | array items => some items
  | _ => none

/-! ### Payloads as arguments -/

instance : Coe Int32 Argument := ⟨int⟩
instance : Coe UInt32 Argument := ⟨unsigned⟩
instance : Coe Int64 Argument := ⟨long⟩
instance : Coe Bool Argument := ⟨bool⟩
instance : Coe String Argument := ⟨string⟩
instance : Coe Bytes Argument := ⟨blob⟩
instance : Coe TimeTag Argument := ⟨timeTag⟩
instance : Coe Color Argument := ⟨color⟩
instance : Coe MidiMessage Argument := ⟨midi⟩
instance : Coe (List Argument) Argument := ⟨array⟩

/-- The argument that the bare payload stands for: a text is a string, whatever it was before, and a
character code is a blob of one byte. -/
def ofPayload : Argument → Argument
  | symbol text => text
  | char code => ([code] : Bytes)
  | argument => argument

end Argument

end OpenSound
