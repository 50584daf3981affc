import OpenSound.Decimal
import OpenSound.Text.Integer

/-!
# Reading floating-point numbers

A floating-point number is written with digits, a point among them and an exponent, or as a word:
one of the two for infinity, or the one for what is not a number.  `Format.readFloat` rounds it to
the nearest number of a format.
-/

namespace OpenSound

namespace Decimal

/-- Reads the exponent at the end of a decimal, if there is one. -/
def exponentOf? : List Char → Option Int
  | [] => some 0
  | mark :: rest => if mark = 'e' ∨ mark = 'E' then Text.signed? rest else none

/-- Reads a decimal without a sign.  The digits may lack on one side of the point, and the point may
lack as well. -/
def ofChars? (text : List Char) : Option Decimal := do
  let (whole, rest) := text.span Char.isDigit
  let (fraction, rest) := match rest with
    | '.' :: rest => rest.span Char.isDigit
    | rest => ([], rest)
  if whole.isEmpty && fraction.isEmpty then none
  else
    let exponent ← exponentOf? rest
    return ⟨Text.natOfDigits (whole ++ fraction), exponent - fraction.length⟩

end Decimal

namespace Ieee

/-- Why a text is no floating-point number. -/
inductive FloatError where
  | empty
  | invalid
deriving DecidableEq, Repr, Inhabited

def FloatError.message : FloatError → String
  | empty => "cannot parse float from empty string"
  | invalid => "invalid float literal"

namespace Format

variable (format : Format)

/-- A power of ten that lies beyond all numbers of the format; below its inverse everything rounds
to zero. -/
def decimalReach : Nat := 1 <<< (format.exponentBits - 1) + format.fractionBits

/-- The bits of the number nearest to a decimal. -/
def ofDecimal (d : Decimal) : Nat :=
  let leading := d.exponent + Decimal.digitCount d.digits
  if d.digits = 0 ∨ leading < -format.decimalReach then 0
  else if (format.decimalReach : Int) < leading then format.infinity
  else format.ofRatio (d.digits * Nat.pow 10 d.exponent.toNat) (Nat.pow 10 (-d.exponent).toNat)

/-- The bits that a word stands for, in letters of either case. -/
def ofWord? (text : List Char) : Option Nat :=
  let word := String.ofList (text.map Char.toLower)
  if word = "inf" ∨ word = "infinity" then some format.infinity
  else if word = "nan" then some format.quietNaN
  else none

/-- The bits of a number without a sign. -/
def readMagnitude? (text : List Char) : Option Nat :=
  match Decimal.ofChars? text with
  | some d => some (format.ofDecimal d)
  | none => format.ofWord? text

/-- The bits of the number that a text spells.  A sign may stand in front of anything. -/
def readFloat (text : List Char) : Except FloatError Nat :=
  let (sign, rest) := match text with
    | '-' :: rest => (format.signBit, rest)
    | '+' :: rest => (0, rest)
    | rest => (0, rest)
  match format.readMagnitude? rest with
  | some bits => .ok (sign + bits)
  | none => .error (if text.isEmpty then .empty else .invalid)

end Format

end Ieee

end OpenSound
