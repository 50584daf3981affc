import OpenSound.Text.Ranges

/-!
# Regular expressions

The tree of a regular expression.  Sequences and choices keep all their parts side by side, and a
group that captures is kept as a node, so that the depth of the tree is about that of the expression
as it was written.  `Regex.Look.holds` says where an assertion about the surroundings is true.
-/

namespace OpenSound

namespace Regex

/-- An assertion about the place between two characters. -/
inductive Look where
  | textStart | textEnd
  /-- The start or end of a line that ends with a line feed. -/
  | lineStart | lineEnd
  /-- The start or end of a line that ends with a carriage return, a line feed, or both in a row. -/
  | lineStartCrlf | lineEndCrlf
  | wordBoundary | noWordBoundary | wordStart | wordEnd | wordStartHalf | wordEndHalf
deriving DecidableEq, Repr, Inhabited

/-- A group that captures: its number, counted from 1, and its name if it has one. -/
structure Capture where
  index : Nat
  name : Option String := none
deriving DecidableEq, Repr, Inhabited

end Regex

/-- A regular expression. -/
inductive Regex where
  | char (c : Char)
  /-- One character of a set. -/
  | set (ranges : Text.Ranges)
  | look (assertion : Regex.Look)
  | sequence (parts : List Regex)
  | choice (options : List Regex)
  /-- At least `least` times and, if there is a bound, at most `most` times. -/
  | repeated (body : Regex) (least : Nat) (most : Option Nat)
  | capture (group : Regex.Capture) (body : Regex)
deriving Inhabited, Repr

namespace Regex

/-- The expression of the empty text alone. -/
def empty : Regex := sequence []

/-- Parts one after the other; a single part stands for itself. -/
def ofParts : List Regex → Regex
  | [part] => part
  | parts => sequence parts

/-- Options to choose from; a single option stands for itself. -/
def ofOptions : List Regex → Regex
  | [option] => option
  | options => choice options

/-- Repeats an expression.  Without any repetition the empty text is left, and a single one leaves
the expression as it is. -/
def times (body : Regex) (least : Nat) (most : Option Nat) : Regex :=
  if most = some 0 then empty
  else if least = 1 ∧ most = some 1 then body
  else repeated body least most

/-- The decimal digits of ASCII. -/
def digits : Text.Ranges := [(0x30, 0x39)]

/-- The blanks of ASCII. -/
def blanks : Text.Ranges := [(0x9, 0xd), (0x20, 0x20)]

/-- The letters, digits and the underscore of ASCII. -/
def wordCharacters : Text.Ranges := [(0x30, 0x39), (0x41, 0x5a), (0x5f, 0x5f), (0x61, 0x7a)]

namespace Look

/-- Whether the place has a word character next to it, on the side given. -/
def isWord : Option Char → Bool
  | some c => wordCharacters.contains c
  | none => false

/-- Whether the assertion holds between the characters `before` and `behind`, either of which is
missing at an end of the text. -/
def holds (assertion : Look) (before behind : Option Char) : Bool :=
  match assertion with
  | textStart => before.isNone
  | textEnd => behind.isNone
  | lineStart => before.isNone || before = some '\n'
  | lineEnd => behind.isNone || behind = some '\n'
  | lineStartCrlf =>
    before.isNone || before = some '\n' || (before = some '\r' && behind ≠ some '\n')
  | lineEndCrlf =>
    behind.isNone || behind = some '\r' || (behind = some '\n' && before ≠ some '\r')
  | wordBoundary => isWord before != isWord behind
  | noWordBoundary => isWord before == isWord behind
  | wordStart => !isWord before && isWord behind
  | wordEnd => isWord before && !isWord behind
  | wordStartHalf => !isWord before
  | wordEndHalf => !isWord behind

end Look

end Regex

end OpenSound
