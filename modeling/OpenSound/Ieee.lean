/-!
# Binary floating point, by bits

The layout of the binary interchange formats, and the equality of two values given by their bits:
a value that is not a number equals nothing, and the two zeros are equal.  `Format.scaled` gives the
magnitude of a number as an integer times a power of two, and `Format.ofRatio` rounds a ratio of two
integers to the nearest number.
-/

namespace OpenSound.Ieee

/-- A binary format: a sign bit, then the exponent field, then the fraction field. -/
structure Format where
  exponentBits : Nat
  fractionBits : Nat

namespace Format

/-- The format with 32 bits. -/
def single : Format := ⟨8, 23⟩

/-- The format with 64 bits. -/
def double : Format := ⟨11, 52⟩

variable (format : Format)

/-- The fraction field. -/
def fraction (bits : Nat) : Nat := bits % (1 <<< format.fractionBits)

/-- The exponent field. -/
def exponent (bits : Nat) : Nat := bits >>> format.fractionBits % (1 <<< format.exponentBits)

/-- The exponent field of infinities and of values that are not numbers. -/
def topExponent : Nat := (1 <<< format.exponentBits) - 1

/-- Whether the sign bit is set. -/
def isNegative (bits : Nat) : Bool :=
  bits >>> (format.fractionBits + format.exponentBits) % 2 = 1

/-- The bits without the sign. -/
def magnitude (bits : Nat) : Nat := bits % (1 <<< (format.fractionBits + format.exponentBits))

/-- The sign bit alone. -/
def signBit : Nat := 1 <<< (format.fractionBits + format.exponentBits)

/-- The bits of positive infinity. -/
def infinity : Nat := format.topExponent <<< format.fractionBits

/-- The bits of the value that is not a number and has only the first fraction bit set. -/
def quietNaN : Nat := format.infinity + 1 <<< (format.fractionBits - 1)

/-- Whether the bits stand for a number, infinities aside. -/
def isFinite (bits : Nat) : Bool := format.exponent bits ≠ format.topExponent

/-- Whether the bits stand for no number. -/
def isNaN (bits : Nat) : Bool :=
  format.exponent bits = format.topExponent && format.fraction bits ≠ 0

/-- Whether two values are equal as numbers. -/
def equal (a b : Nat) : Bool :=
  !format.isNaN a && !format.isNaN b &&
    (a = b || (format.magnitude a = 0 && format.magnitude b = 0))

/-- The exponent of the last binary place of the numbers closest to zero. -/
def leastPlace : Int :=
  2 - (1 <<< (format.exponentBits - 1) : Nat) - (format.fractionBits : Nat)

/-- The magnitude of a finite number as `m` times two to the power `q`. -/
def scaled (bits : Nat) : Nat × Int :=
  let exponent := format.exponent bits
  if exponent = 0 then (format.fraction bits, format.leastPlace)
  else (1 <<< format.fractionBits + format.fraction bits, format.leastPlace + (exponent - 1 : Nat))

/-- The magnitude of a finite number as a ratio. -/
def ratio (bits : Nat) : Nat × Nat :=
  let (m, q) := format.scaled bits
  (m <<< q.toNat, 1 <<< (-q).toNat)

/-- A quotient rounded to the nearest integer, a half to the even one. -/
def roundDiv (num den : Nat) : Nat :=
  let quotient := num / den
  let twice := num % den * 2
  if den < twice ∨ (twice = den ∧ quotient % 2 = 1) then quotient + 1 else quotient

/-- The binary logarithm of a ratio, rounded down. -/
def log2Ratio (num den : Nat) : Int :=
  let guess : Int := (Nat.log2 num : Int) - Nat.log2 den
  if num <<< (-guess).toNat < den <<< guess.toNat then guess - 1 else guess

/-- The bits of the number nearest to a ratio, of two the one with the even last place.  What is too
large becomes infinity. -/
def ofRatio (num den : Nat) : Nat :=
  if num = 0 then 0
  else
    let place := max (log2Ratio num den - format.fractionBits) format.leastPlace
    let m := roundDiv (num <<< (-place).toNat) (den <<< place.toNat)
    min ((place - format.leastPlace).toNat <<< format.fractionBits + m) format.infinity

end Format

end OpenSound.Ieee
