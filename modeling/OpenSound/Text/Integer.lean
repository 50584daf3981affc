/-!
# Integers in decimal

The number that digits spell, and reading an integer that has to lie between two bounds.  The digits
are taken from left to right and the first thing that is wrong decides: a character that is no
digit, or a digit with which the number leaves the bounds.
-/

namespace OpenSound.Text

/-- The value of a decimal digit. -/
def digitValue (c : Char) : Nat := c.toNat - '0'.toNat

/-- The natural number that decimal digits spell. -/
def natOfDigits (digits : List Char) : Nat := digits.foldl (fun n c => n * 10 + digitValue c) 0

/-- The digits of a number spell it. -/
theorem natOfDigits_toDigits (n : Nat) : natOfDigits (Nat.toDigits 10 n) = n := by
  have hchars : natOfDigits (Nat.toDigits 10 n) = Nat.ofDigitChars 10 (Nat.toDigits 10 n) 0 := by
    simp only [natOfDigits, digitValue, Nat.ofDigitChars, Nat.mul_comm]
  rw [hchars, Nat.ofDigitChars_toDigits (by decide) (by decide)]

/-- Reads digits with a sign that may stand in front. -/
def signed? (text : List Char) : Option Int :=
  let (negative, digits) := match text with
    | '-' :: rest => (true, rest)
    | '+' :: rest => (false, rest)
    | rest => (false, rest)
  if digits.isEmpty || !digits.all Char.isDigit then none
  else some (if negative then -(natOfDigits digits : Int) else natOfDigits digits)

/-- Why a text is no integer between the bounds. -/
inductive IntegerError where
  | empty
  | invalidDigit
  | tooLarge
  | tooSmall
deriving DecidableEq, Repr, Inhabited

def IntegerError.message : IntegerError → String
  | empty => "cannot parse integer from empty string"
  | invalidDigit => "invalid digit found in string"
  | tooLarge => "number too large to fit in target type"
  | tooSmall => "number too small to fit in target type"

/-- Appends digits to a magnitude, which fails with `outside` when it exceeds the limit. -/
def appendDigits (limit : Nat) (outside : IntegerError) (magnitude : Nat) :
    (digits : List Char) → Except IntegerError Nat
  | [] => .ok magnitude
  | c :: digits =>
    if !c.isDigit then .error .invalidDigit
    else if limit < magnitude * 10 + digitValue c then .error outside
    else appendDigits limit outside (magnitude * 10 + digitValue c) digits

/-- The magnitude that a row of digits spells; there has to be at least one. -/
def readMagnitude (limit : Nat) (outside : IntegerError) (digits : List Char) :
    Except IntegerError Nat :=
  if digits.isEmpty then .error .invalidDigit else appendDigits limit outside 0 digits

/-- Reads an integer between two bounds, of which the lower one is not positive.  A plus may stand
in front, and a minus if there are negative numbers between the bounds. -/
def readInteger (least greatest : Int) (text : List Char) : Except IntegerError Int :=
  match text with
  | [] => .error .empty
  | '+' :: digits => Int.ofNat <$> readMagnitude greatest.toNat .tooLarge digits
  | '-' :: digits =>
    if least < 0 then (fun n => -Int.ofNat n) <$> readMagnitude least.natAbs .tooSmall digits
    else .error .invalidDigit
  | digits => Int.ofNat <$> readMagnitude greatest.toNat .tooLarge digits

end OpenSound.Text
