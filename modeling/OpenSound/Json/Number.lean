import OpenSound.Decimal
import OpenSound.Json

/-!
# Numbers in JSON

`FloatLayout.numeral` writes a floating-point number with its shortest digits.  `Numeral.value?`
says what a numeral stands for.  Integers of 64 bits are exact; every other numeral stands for a
number in the format with 64 bits, which is computed from as many leading digits as fit an integer
of 64 bits and one power of ten.
-/

namespace OpenSound.Json

open Ieee

/-! ### Writing -/

/-- Between which exponents of the leading digit a number is written without an exponent. -/
structure FloatLayout where
  format : Format
  leastPlain : Int
  greatestPlain : Int

/-- How a number of 32 bits is written. -/
def singleLayout : FloatLayout := ⟨.single, -6, 12⟩

/-- How a number of 64 bits is written. -/
def doubleLayout : FloatLayout := ⟨.double, -5, 15⟩

namespace FloatLayout

/-- A decimal without an exponent: the point stands inside the digits, or zeros fill the way to it.
There is always a digit on either side. -/
def plain (negative : Bool) (digits : List Char) (leading : Int) : Numeral :=
  if leading < 0 then
    { negative, whole := ['0'], fraction := List.replicate (-leading - 1).toNat '0' ++ digits }
  else
    let wholeCount := leading.toNat + 1
    let fraction := digits.drop wholeCount
    { negative
      whole := digits.take wholeCount ++ List.replicate (wholeCount - digits.length) '0'
      fraction := if fraction.isEmpty then ['0'] else fraction }

/-- A decimal with one digit in front of the point, and an exponent. -/
def scientific (negative : Bool) (digits : List Char) (leading : Int) : Numeral :=
  { negative, whole := digits.take 1, fraction := digits.drop 1, exponent := some leading }

/-- The numeral of a number; infinities and what is no number have none. -/
def numeral? (layout : FloatLayout) (bits : Nat) : Option Numeral :=
  let negative := layout.format.isNegative bits
  if !layout.format.isFinite bits then none
  else if layout.format.magnitude bits = 0 then
    some { negative, whole := ['0'], fraction := ['0'] }
  else
    let d := layout.format.shortest (layout.format.magnitude bits)
    let digits := Nat.toDigits 10 d.digits
    let leading := d.exponent + (digits.length - 1 : Nat)
    some <| if layout.leastPlain ≤ leading ∧ leading ≤ layout.greatestPlain
      then plain negative digits leading else scientific negative digits leading

end FloatLayout

/-! ### Reading -/

/-- What a numeral stands for. -/
inductive NumberValue where
  /-- An integer that fits 64 bits without sign. -/
  | natural (n : Nat)
  /-- A negative integer that fits 64 bits with a sign, by its magnitude. -/
  | negative (magnitude : Nat)
  /-- A number in the format with 64 bits, by its bits. -/
  | float (bits : Nat)
deriving DecidableEq, Repr

namespace Numeral

/-- The greatest integer of 64 bits. -/
def greatest64 : Nat := 18446744073709551615

/-- Appends digits to an integer as long as it stays within 64 bits.  The answer is the integer and
the digits that were left out. -/
def absorb (n : Nat) : List Char → Nat × List Char
  | [] => (n, [])
  | c :: digits =>
    let longer := n * 10 + OpenSound.Text.digitValue c
    if longer ≤ greatest64 then absorb longer digits else (n, c :: digits)

/-- The leading digits as an integer, and the power of ten it is scaled by.  Digits left out in
front of the point raise the power, and digits taken in behind it lower the power. -/
def leading (n : Numeral) : Nat × Int :=
  let (significand, left) := absorb 0 n.whole
  let (significand, leftBehind) := absorb significand n.fraction
  (significand,
    (left.length : Int) - (n.fraction.length - leftBehind.length : Nat) + n.exponent.getD 0)

/-- The quotient of two positive numbers, rounded. -/
def quotient (a b : Nat) : Nat :=
  let (an, ad) := Format.double.ratio a
  let (bn, bd) := Format.double.ratio b
  Format.double.ofRatio (an * bd) (ad * bn)

/-- The product of two positive numbers, rounded. -/
def product (a b : Nat) : Nat :=
  let (an, ad) := Format.double.ratio a
  let (bn, bd) := Format.double.ratio b
  Format.double.ofRatio (an * bn) (ad * bd)

/-- The power of ten nearest to the exact one; the greatest that is finite has the exponent 308. -/
def powerOfTen (exponent : Nat) : Nat := Format.double.ofRatio (Nat.pow 10 exponent) 1

def greatestPower : Nat := 308

/-- Divides by a power of ten, by the greatest that is finite as often as it takes.  Four divisions
by that one leave nothing. -/
def scaleDown (bits : Nat) (exponent : Nat) : (turns : Nat) → Nat
  | 0 => 0
  | turns + 1 =>
    if exponent ≤ greatestPower then quotient bits (powerOfTen exponent)
    else scaleDown (quotient bits (powerOfTen greatestPower)) (exponent - greatestPower) turns

/-- The magnitude in the format with 64 bits, unless it is too large for it. -/
def magnitude? (n : Numeral) : Option Nat :=
  let (significand, exponent) := n.leading
  let bits := Format.double.ofRatio significand 1
  if exponent < 0 then some (scaleDown bits exponent.natAbs 4)
  else if greatestPower < exponent then if significand = 0 then some 0 else none
  else
    let scaled := product bits (powerOfTen exponent.toNat)
    if Format.double.isFinite scaled then some scaled else none

/-- What the numeral stands for.  Negative zero and integers beyond 64 bits are floating-point
numbers, and what is too large for those stands for nothing. -/
def value? (n : Numeral) : Option NumberValue :=
  let integer := OpenSound.Text.natOfDigits n.whole
  if n.isWhole && !n.negative && integer ≤ greatest64 then some (.natural integer)
  else if n.isWhole && n.negative && 0 < integer && Int64.minValue.toInt ≤ -(integer : Int)
  then some (.negative integer)
  else n.magnitude?.map fun bits =>
    .float (if n.negative then Format.double.signBit + bits else bits)

end Numeral

namespace NumberValue

/-- The number rounded to a format. -/
def toFormat (value : NumberValue) (format : Format) : Nat :=
  match value with
  | natural n => format.ofRatio n 1
  | negative n => format.signBit + format.ofRatio n 1
  | float bits =>
    let (num, den) := Format.double.ratio bits
    (if Format.double.isNegative bits then format.signBit else 0) + format.ofRatio num den

/-- The integer, if the numeral was written as one. -/
def toInt? : NumberValue → Option Int
  | natural n => some n
  | negative n => some (-n)
  | float _ => none

end NumberValue

/-- What a number in a document stands for. -/
def numberValue? : Json → Option NumberValue
  | number n => n.value?
  | _ => none

end OpenSound.Json
