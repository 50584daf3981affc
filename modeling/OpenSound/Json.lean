import OpenSound.Text.Hex
import OpenSound.Text.Integer

/-!
# JSON values

A value as it stands in a document: a text keeps its escapes and a number its digits, so that each
reader of the value can decide what it takes them for.  `Json.Text` holds the characters between the
quotes; `Text.ofString` escapes what has to be escaped and `Text.toString?` undoes every escape.
`Json.Numeral` holds the parts of a number.
-/

namespace OpenSound

namespace Json

/-- The characters between the quotes of a text, with their escapes. -/
structure Text where
  raw : List Char
deriving DecidableEq, Repr, Inhabited

/-- A number by its parts. -/
structure Numeral where
  negative : Bool := false
  /-- The digits in front of the point. -/
  whole : List Char
  /-- The digits behind the point, none if there is no point. -/
  fraction : List Char := []
  exponent : Option Int := none
deriving DecidableEq, Repr, Inhabited

end Json

/-- A value of a JSON document. -/
inductive Json where
  | null
  | bool (value : Bool)
  | number (value : Json.Numeral)
  | text (value : Json.Text)
  | array (items : List Json)
  | object (fields : List (Json.Text × Json))
deriving Inhabited, Repr

namespace Json

namespace Text

/-- How a character stands in a text.  The quote, the backslash and the control characters are
escaped, the common ones of those by a letter. -/
def escaped (c : Char) : List Char :=
  match c with
  | '"' => ['\\', '"']
  | '\\' => ['\\', '\\']
  | '\x08' => ['\\', 'b']
  | '\x0c' => ['\\', 'f']
  | '\n' => ['\\', 'n']
  | '\r' => ['\\', 'r']
  | '\t' => ['\\', 't']
  | c => if c.toNat < 0x20 then ['\\', 'u'] ++ OpenSound.Text.hexPadded 4 c.toNat else [c]

def ofString (s : String) : Text := ⟨s.toList.flatMap escaped⟩

/-- The number of four hexadecimal digits. -/
def hexUnit? (a b c d : Char) : Option Nat := do
  let a ← OpenSound.Text.hexValue? a
  let b ← OpenSound.Text.hexValue? b
  let c ← OpenSound.Text.hexValue? c
  let d ← OpenSound.Text.hexValue? d
  return ((a * 16 + b) * 16 + c) * 16 + d

/-- What a letter behind a backslash stands for. -/
def letterEscape? : Char → Option Char
  | '"' => some '"'
  | '\\' => some '\\'
  | '/' => some '/'
  | 'b' => some '\x08'
  | 'f' => some '\x0c'
  | 'n' => some '\n'
  | 'r' => some '\r'
  | 't' => some '\t'
  | _ => none

/-- Whether every backslash starts an escape.  Surrogates need not be paired. -/
def escapesAreWellFormed : List Char → Bool
  | '\\' :: 'u' :: a :: b :: c :: d :: rest =>
    (hexUnit? a b c d).isSome && escapesAreWellFormed rest
  | '\\' :: c :: rest => (letterEscape? c).isSome && escapesAreWellFormed rest
  | c :: rest => c ≠ '\\' && escapesAreWellFormed rest
  | [] => true

/-- Whether the number is the first half of a surrogate pair. -/
def isHighSurrogate (unit : Nat) : Bool := 0xD800 ≤ unit && unit < 0xDC00

/-- Whether the number is the second half of a surrogate pair. -/
def isLowSurrogate (unit : Nat) : Bool := 0xDC00 ≤ unit && unit < 0xE000

/-- The numbers that a text spells, one for each character and each escape. -/
def codeUnits? : List Char → Option (List Nat)
  | [] => some []
  | '\\' :: 'u' :: a :: b :: c :: d :: rest => do
    return (← hexUnit? a b c d) :: (← codeUnits? rest)
  | '\\' :: c :: rest => do return (← letterEscape? c).toNat :: (← codeUnits? rest)
  | c :: rest => do return c.toNat :: (← codeUnits? rest)

/-- Puts a number in front of code points; with a surrogate that completes it, it forms one of
them. -/
def attach (unit : Nat) (codes : List Nat) : List Nat :=
  match codes with
  | low :: rest =>
    if isHighSurrogate unit && isLowSurrogate low then
      (0x10000 + (unit - 0xD800) * 0x400 + (low - 0xDC00)) :: rest
    else unit :: codes
  | [] => [unit]

/-- The code points that a text stands for.  Two surrogates that form a pair stand for one code
point together, and any other surrogate for itself. -/
def codePoints? (raw : List Char) : Option (List Nat) := (codeUnits? raw).map (·.foldr attach [])

/-- The character with a code point; a surrogate has none. -/
def charOfCode? (code : Nat) : Option Char :=
  if isHighSurrogate code || isLowSurrogate code then none else some (Char.ofNat code)

/-- Whether no control character stands in the text as it is. -/
def isClean (text : Text) : Bool := text.raw.all (0x20 ≤ ·.toNat)

/-- The string that the text stands for, if it is clean and there is no surrogate without its
partner. -/
def toString? (text : Text) : Option String := do
  let codes ← codePoints? text.raw
  let chars ← codes.mapM charOfCode?
  if text.isClean then return String.ofList chars else none

end Text

namespace Numeral

/-- The number with the digits of a natural number, perhaps with a sign. -/
def ofInt (n : Int) : Numeral := { negative := n < 0, whole := Nat.toDigits 10 n.natAbs }

/-- Whether the number is written without point and exponent. -/
def isWhole (n : Numeral) : Bool := n.fraction.isEmpty && n.exponent.isNone

/-- The number as it is written.  The sign of the exponent always shows. -/
def display (n : Numeral) : List Char :=
  let sign := if n.negative then ['-'] else []
  let fraction := if n.fraction.isEmpty then [] else '.' :: n.fraction
  let exponent := match n.exponent with
    | none => []
    | some e => ['e', if e < 0 then '-' else '+'] ++ Nat.toDigits 10 e.natAbs
  sign ++ n.whole ++ fraction ++ exponent

/-- Splits off the digits in front. -/
def spanDigits (chars : List Char) : List Char × List Char := chars.span Char.isDigit

/-- Reads a number.  The digits in front of the point do not start with an idle zero, and a point or
an exponent mark is followed by digits. -/
def ofChars? (chars : List Char) : Option Numeral :=
  let (negative, chars) := match chars with
    | '-' :: rest => (true, rest)
    | rest => (false, rest)
  let (whole, chars) := spanDigits chars
  let (point, fraction, chars) := match chars with
    | '.' :: rest => (true, spanDigits rest)
    | rest => (false, [], rest)
  if whole.isEmpty || (whole.head? = some '0' && whole.length ≠ 1) || (point && fraction.isEmpty)
  then none
  else match chars with
    | [] => some { negative, whole, fraction }
    | mark :: rest =>
      if mark = 'e' ∨ mark = 'E' then
        (OpenSound.Text.signed? rest).map fun e => { negative, whole, fraction, exponent := some e }
      else none

end Numeral

/-! ### Building and taking apart -/

instance : Coe String Json := ⟨fun s => .text (.ofString s)⟩
instance : Coe Bool Json := ⟨.bool⟩
instance : Coe Nat Json := ⟨fun n => .number (.ofInt n)⟩
instance : Coe Int Json := ⟨fun n => .number (.ofInt n)⟩
instance : Coe (List Json) Json := ⟨.array⟩

/-- An object from named values. -/
def ofFields (fields : List (String × Json)) : Json :=
  .object (fields.map fun field => (.ofString field.1, field.2))

/-- The value of the first field with the name. -/
def field? (name : String) : Json → Option Json
  | .object fields => (fields.find? (·.1.toString? = some name)).map (·.2)
  | _ => none

def string? : Json → Option String
  | .text value => value.toString?
  | _ => none

def bool? : Json → Option Bool
  | .bool value => some value
  | _ => none

def items? : Json → Option (List Json)
  | .array items => some items
  | _ => none

/-- The integer that a number without point and exponent stands for. -/
def int? : Json → Option Int
  | .number value =>
    let n := OpenSound.Text.natOfDigits value.whole
    if value.isWhole then some (if value.negative then -(n : Int) else n) else none
  | _ => none

end Json

end OpenSound
