import OpenSound.Json.Number
import OpenSound.Json.Printer
import OpenSound.Json.Reader
import OpenSound.Packet

/-!
# Packets in JSON

`Packet.toJson` writes a packet as JSON and `Packet.ofJson?` reads one.  An argument is an object
that names its type and holds its value; a packet is an object with the one field `message` or
`bundle`.  The info of a message is not written.

Reading is more liberal than writing: fields may stand in any order, a structure may be given as the
row of its values, and fields that are not known mean nothing.  It goes down a limited number of
levels of arrays and objects.
-/

namespace OpenSound

namespace Json

/-- How many arrays and objects may lie inside each other in what is read. -/
def nestingLimit : Nat := 127

/-! ### Reading structures -/

mutual

/-- Whether every text in the value is clean, which is asked of a value that means nothing. -/
def isClean : Json → Bool
  | text t => t.isClean
  | array items => areClean items
  | object fields => fieldsAreClean fields
  | null | bool _ | number _ => true

def areClean : List Json → Bool
  | [] => true
  | item :: rest => isClean item && areClean rest

def fieldsAreClean : List (Text × Json) → Bool
  | [] => true
  | (key, value) :: rest => key.isClean && isClean value && fieldsAreClean rest

end

mutual

/-- Whether a value can be read by itself, with no more than `levels` levels: its numbers are not
too large and its texts have no surrogate without a partner. -/
def isReadable : (levels : Nat) → Json → Bool
  | _, number n => n.value?.isSome
  | _, text t => t.toString?.isSome
  | 0, array _ => false
  | levels + 1, array items => areReadable levels items
  | 0, object _ => false
  | levels + 1, object fields => fieldsAreReadable levels fields
  | _, _ => true

def areReadable (levels : Nat) : List Json → Bool
  | [] => true
  | item :: rest => isReadable levels item && areReadable levels rest

def fieldsAreReadable (levels : Nat) : List (Text × Json) → Bool
  | [] => true
  | (key, value) :: rest =>
    key.toString?.isSome && isReadable levels value && fieldsAreReadable levels rest

end

/-- The fields of an object by name, in the order in which they stand. -/
def namedFields? (fields : List (Text × Json)) : Option (List (String × Json)) :=
  fields.mapM fun (key, value) => do return (← key.toString?, value)

/-- The values of a structure with the given fields.  It is an object in which none of them occurs
twice, or the row of their values, from which the last ones may be missing. -/
def structure? (names : List String) : Json → Option (List (String × Json))
  | object fields => do
    let fields ← namedFields? fields
    let (known, unknown) := fields.partition fun field => names.contains field.1
    if (known.map (·.1)).Nodup ∧ unknown.all (·.2.isClean) then return known else none
  | array items => if items.length ≤ names.length then some (names.zip items) else none
  | _ => none

/-- An integer between two bounds. -/
def integer? (least greatest : Int) (j : Json) : Option Int := do
  let n ← (← j.numberValue?).toInt?
  if least ≤ n ∧ n ≤ greatest then return n else none

def byte? (j : Json) : Option UInt8 := (j.integer? 0 255).map fun n => UInt8.ofNat n.toNat

def character? (j : Json) : Option Char := do
  match (← j.string?).toList with
  | [c] => return c
  | _ => none

/-- Bytes, given as a row of numbers or as a text.  A text that stands where bytes are awaited may
hold any surrogates and control characters; one that was read before that was known may not. -/
def bytes? (readBefore : Bool) (levels : Nat) : Json → Option Bytes
  | array items => if levels = 0 then none else items.mapM byte?
  | text t =>
    if readBefore then Bytes.ofText <$> t.toString?
    else (Text.codePoints? t.raw).map fun codes => codes.flatMap Bytes.ofCodePoint
  | _ => none

/-- A row of values, each read one level further down. -/
def row? {α : Type} (levels : Nat) (read : (levels : Nat) → Json → Option α) :
    Json → Option (List α)
  | array items => match levels with
    | 0 => none
    | levels + 1 => items.mapM (read levels)
  | _ => none

/-- Four bytes that are the fields of a structure. -/
def quad? (levels : Nat) (names : List String) (make : UInt8 → UInt8 → UInt8 → UInt8 → Argument)
    (j : Json) : Option Argument := do
  if levels = 0 then none
  else
    let fields ← j.structure? names
    match ← names.mapM fun name => (fields.lookup name).bind byte? with
    | [a, b, c, d] => return make a b c d
    | _ => none

end Json

/-! ### Arguments -/

/-- The name of a type in JSON. -/
def Kind.key : Kind → String
  | int => "int"
  | unsigned => "unsigned"
  | float => "float"
  | string => "string"
  | blob => "blob"
  | long => "long"
  | double => "double"
  | timeTag => "time_tag"
  | bool => "bool"
  | nil => "nil"
  | impulse => "impulse"
  | char => "char"
  | color => "color"
  | midi => "midi"
  | symbol => "symbol"
  | array => "array"
  | custom => "custom"

/-- Every kind of argument. -/
def Kind.all : List Kind :=
  [int, unsigned, float, string, blob, long, double, timeTag, bool, nil, impulse, char, color, midi,
    symbol, array, custom]

/-- The kind with a name in JSON. -/
def Kind.ofKey? (key : String) : Option Kind := all.find? (·.key = key)

namespace Argument

/-- Bytes as a row of numbers. -/
def bytesJson (data : Bytes) : Json := .array (data.map fun b => (b.toNat : Json))

/-- A floating-point number; infinities and what is no number become null. -/
def floatJson (layout : Json.FloatLayout) (bits : Nat) : Json :=
  match layout.numeral? bits with
  | some n => .number n
  | none => .null

/-- The object of an argument with a value. -/
def tagged (kind : Kind) (value : Json) : Json :=
  .ofFields [("type", kind.key), ("value", value)]

mutual

def toJson : Argument → Json
  | int v => tagged .int v.toInt
  | unsigned v => tagged .unsigned v.toNat
  | float bits => tagged .float (floatJson Json.singleLayout bits.toNat)
  | string t => tagged .string t
  | blob data => tagged .blob (bytesJson data)
  | long v => tagged .long v.toInt
  | double bits => tagged .double (floatJson Json.doubleLayout bits.toNat)
  | timeTag t => tagged .timeTag t.raw.toNat
  | bool b => tagged .bool b
  | nil => .ofFields [("type", Kind.nil.key)]
  | impulse => .ofFields [("type", Kind.impulse.key)]
  | char c => tagged .char c.toNat
  | color c => tagged .color (.ofFields
      [("red", c.red.toNat), ("green", c.green.toNat), ("blue", c.blue.toNat),
        ("alpha", c.alpha.toNat)])
  | midi m => tagged .midi (.ofFields
      [("port", m.port.toNat), ("status", m.status.toNat), ("data1", m.data1.toNat),
        ("data2", m.data2.toNat)])
  | symbol t => tagged .symbol t
  | array items => tagged .array (.array (itemsToJson items))
  | custom tag data => tagged .custom (.ofFields
      [("tag", tag.toString), ("data", bytesJson data)])

def itemsToJson : List Argument → List Json
  | [] => []
  | item :: rest => item.toJson :: itemsToJson rest

end

/-- How an argument is told from its JSON: the kind, the value if there is one, and whether the
value was read before its place was known. -/
structure Described where
  kind : Kind
  value : Option Json
  readBefore : Bool

/-- The kind that a field names: by its name, or by an object with the name as the only key and null
as its value.  In what was read before its place was known, that value may also be an empty
object. -/
def kindOf? (readBefore : Bool) (levels : Nat) : Json → Option Kind
  | .text t => do Kind.ofKey? (← t.toString?)
  | .object [(key, .null)] => if levels = 0 then none else do Kind.ofKey? (← key.toString?)
  | .object [(key, .object [])] => if readBefore then do Kind.ofKey? (← key.toString?) else none
  | _ => none

/-- The kind at the front of a row: its name or, in what was read before its place was known, its
position among the kinds. -/
def leadingKind? (readBefore : Bool) : Json → Option Kind
  | .text t => do Kind.ofKey? (← t.toString?)
  | .number n => match readBefore, n.value? with
    | true, some (.natural position) => Kind.all[position]?
    | _, _ => none
  | _ => none

/-- Takes the kind and the value out of the JSON of an argument, whose content lies `levels` levels
deep at most.  A row has the kind and the value.  A value in front of the kind is read before its
place is known, so that it has to be readable by itself. -/
def described? (readBefore : Bool) (levels : Nat) (j : Json) : Option Described := do
  match j with
  | .array [kind, value] =>
    return ⟨← leadingKind? readBefore kind, some value, readBefore⟩
  | .array _ => none
  | j =>
    let fields ← j.structure? ["type", "value"]
    let kind ← kindOf? readBefore levels (← fields.lookup "type")
    let value := fields.lookup "value"
    let valueFirst := (fields.head?.map (·.1)) = some "value"
    if valueFirst && !value.all (Json.isReadable levels) then none
    else return ⟨kind, value, readBefore || valueFirst⟩

/-- The value of an argument whose kind is always given one. -/
def valued? (levels : Nat) (kind : Kind) (readBefore : Bool) (j : Json) : Option Argument :=
  match kind with
  | .int => (j.integer? Int32.minValue.toInt Int32.maxValue.toInt).map fun n => int (Int32.ofInt n)
  | .unsigned => (j.integer? 0 (UInt32.size - 1)).map fun n => unsigned (UInt32.ofNat n.toNat)
  | .float => j.numberValue?.map fun v => float (UInt32.ofNat (v.toFormat .single))
  | .string => string <$> j.string?
  | .blob => blob <$> j.bytes? readBefore levels
  | .long => (j.integer? Int64.minValue.toInt Int64.maxValue.toInt).map fun n => long (Int64.ofInt n)
  | .double => j.numberValue?.map fun v => double (UInt64.ofNat (v.toFormat .double))
  | .timeTag => (j.integer? 0 (UInt64.size - 1)).map fun n => timeTag ⟨UInt64.ofNat n.toNat⟩
  | .bool => bool <$> j.bool?
  | .char => char <$> j.byte?
  | .color => j.quad? levels ["red", "green", "blue", "alpha"] fun r g b a => color ⟨r, g, b, a⟩
  | .midi => j.quad? levels ["port", "status", "data1", "data2"] fun p s x y => midi ⟨p, s, x, y⟩
  | .symbol => symbol <$> j.string?
  | .custom => match j, levels with
    | .object _, levels + 1 => do
      let fields ← j.structure? ["tag", "data"]
      let tag ← (← fields.lookup "tag").character?
      let data ← (← fields.lookup "data").bytes? readBefore levels
      return custom tag data
    | _, _ => none
  | .nil | .impulse | .array => none

/-- Reads an argument whose JSON goes down `levels` levels at most. -/
def ofJson? (readBefore : Bool) : (levels : Nat) → Json → Option Argument
  | 0, _ => none
  | levels + 1, j => do
    let d ← described? readBefore levels j
    match d.kind, d.value with
    | .nil, none => return nil
    | .nil, some .null => return nil
    | .impulse, none => return impulse
    | .impulse, some .null => return impulse
    | .array, some (.array items) => match levels with
      | 0 => none
      | levels + 1 => return array (← items.mapM (ofJson? d.readBefore levels))
    | kind, some value => valued? levels kind d.readBefore value
    | _, none => none

end Argument

/-! ### Messages and packets -/

/-- The object of a message. -/
def Message.toJson (m : Message) : Json :=
  .ofFields [("address", m.address), ("arguments", .array (Argument.itemsToJson m.arguments))]

/-- Reads a message.  Without arguments it has none. -/
def Message.ofJson? (levels : Nat) (j : Json) : Option Message := do
  match levels with
  | 0 => none
  | levels + 1 =>
    let fields ← j.structure? ["address", "arguments"]
    let address ← (← fields.lookup "address").string?
    let arguments ← match fields.lookup "arguments" with
      | none => some []
      | some given => given.row? levels (Argument.ofJson? false)
    return { address, arguments }

namespace Packet

mutual

def toJson : Packet → Json
  | message m => .ofFields [("message", m.toJson)]
  | bundle time elements => .ofFields
      [("bundle", .ofFields
        [("timetag", time.raw.toNat), ("elements", .array (elementsToJson elements))])]

def elementsToJson : List Packet → List Json
  | [] => []
  | element :: rest => element.toJson :: elementsToJson rest

end

/-- Reads a packet whose JSON goes down `levels` levels at most. -/
def ofJson? : (levels : Nat) → Json → Option Packet
  | levels + 1, .object [(key, content)] => do
    let key ← key.toString?
    if key = "message" then message <$> Message.ofJson? levels content
    else if key = "bundle" then
      match levels with
      | 0 => none
      | levels + 1 =>
        let fields ← content.structure? ["timetag", "elements"]
        let time ← (← fields.lookup "timetag").integer? 0 (UInt64.size - 1)
        let elements ← match fields.lookup "elements" with
          | none => some []
          | some (.array items) => match levels with
            | 0 => none
            | levels + 1 => items.mapM (ofJson? levels)
          | some _ => none
        return bundle ⟨UInt64.ofNat time.toNat⟩ elements
    else none
  | _, _ => none

/-- The packet as a JSON document, in one line or laid out in lines. -/
def jsonText (p : Packet) (pretty : Bool) : String :=
  if pretty then p.toJson.pretty else p.toJson.compact

/-- Reads a JSON document that holds one packet. -/
def ofJsonText? (document : String) : Option Packet := do
  ofJson? Json.nestingLimit (← Json.parse? document)

end Packet

end OpenSound
