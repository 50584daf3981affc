import OpenSound.Bytes
import OpenSound.Text.Blank
import OpenSound.Text.Hex
import OpenSound.Text.Quoted

/-!
# Bytes in hexadecimal

Reading bytes from hexadecimal digits as people write them: with blanks anywhere, with digits of
either case, and with the mark `0x` in front.
-/

namespace OpenSound.Text

/-- What is wrong with hexadecimal digits. -/
inductive HexFault where
  | oddLength
  /-- A byte that is no digit, with its position among the bytes of the digits. -/
  | invalidDigit (found : UInt8) (position : Nat)
deriving DecidableEq, Repr, Inhabited

/-- The byte is shown as the character with its number. -/
def HexFault.message : HexFault → String
  | oddLength => "Odd number of digits"
  | invalidDigit found position =>
    "Invalid character " ++ quotedChar (Char.ofNat found.toNat) ++ s!" at position {position}"

/-- Digits that were refused, and why. -/
structure HexError where
  digits : String
  fault : HexFault
deriving DecidableEq, Repr, Inhabited

/-- Removes the mark `0x` from the front as often as it stands there. -/
def dropHexMarks : List Char → List Char
  | '0' :: 'x' :: rest => dropHexMarks rest
  | rest => rest

/-- The digits of a text, without blanks and without the mark in front. -/
def bareHexDigits (text : List Char) : List Char := (dropHexMarks (trim text)).filter (!isBlank ·)

/-- The value of a digit that stands at a position. -/
def readHexDigit (position : Nat) (digit : UInt8) : Except HexFault Nat :=
  match hexValue? (Char.ofNat digit.toNat) with
  | some value => .ok value
  | none => .error (.invalidDigit digit position)

/-- The bytes of digits in pairs, the first of which stands at a position. -/
def readHexPairs (position : Nat) : (digits : Bytes) → Except HexFault Bytes
  | high :: low :: rest => do
    let h ← readHexDigit position high
    let l ← readHexDigit (position + 1) low
    let data ← readHexPairs (position + 2) rest
    return UInt8.ofNat (h * 16 + l) :: data
  | _ => .ok []

/-- The bytes that a text spells. -/
def readHex (text : String) : Except HexError Bytes :=
  let digits := String.ofList (bareHexDigits text.toList)
  let encoded := Bytes.ofText digits
  let data := if encoded.length % 2 = 0 then readHexPairs 0 encoded else .error .oddLength
  data.mapError (⟨digits, ·⟩)

end OpenSound.Text
