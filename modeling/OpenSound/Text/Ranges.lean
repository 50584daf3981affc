/-!
# Sets of characters given by ranges

A set of characters is stored as a list of inclusive ranges of code points.  `normalize` puts the
ranges in order and joins those that touch, `complement` is everything else, and `foldCase` adds the
other case of the letters of ASCII.
-/

namespace OpenSound.Text

/-- Inclusive ranges of code points. -/
abbrev Ranges := List (Nat × Nat)

namespace Ranges

/-- Whether one of the ranges holds the character. -/
def contains (ranges : Ranges) (c : Char) : Bool :=
  ranges.any fun range => range.1 ≤ c.toNat && c.toNat ≤ range.2

theorem contains_iff (ranges : Ranges) (c : Char) :
    ranges.contains c = true ↔ ∃ range ∈ ranges, range.1 ≤ c.toNat ∧ c.toNat ≤ range.2 := by
  simp [contains]

/-- The range of one character. -/
def single (c : Char) : Ranges := [(c.toNat, c.toNat)]

/-- Joins each range to the one before it if the two overlap or touch. -/
def join : Ranges → Ranges
  | a :: b :: rest =>
    if b.1 ≤ a.2 + 1 then join ((a.1, max a.2 b.2) :: rest) else a :: join (b :: rest)
  | ranges => ranges
termination_by ranges => ranges.length

/-- The same set with its ranges in order and none touching another. -/
def normalize (ranges : Ranges) : Ranges := join (ranges.mergeSort fun a b => a.1 ≤ b.1)

/-- The greatest code point. -/
def lastCode : Nat := 0x10FFFF

/-- What lies between the ranges, from `start` on, and behind the last of them. -/
def gaps (start : Nat) : Ranges → Ranges
  | [] => if start ≤ lastCode then [(start, lastCode)] else []
  | range :: rest =>
    if start < range.1 then (start, range.1 - 1) :: gaps (range.2 + 1) rest
    else gaps (range.2 + 1) rest

/-- Everything outside of the set. -/
def complement (ranges : Ranges) : Ranges := gaps 0 ranges.normalize

/-- The other case of the letters that a range holds: of its small letters if it has any, else of
its capital letters. -/
def otherCase (range : Nat × Nat) : Ranges :=
  let small := (max range.1 0x61, min range.2 0x7a)
  let capital := (max range.1 0x41, min range.2 0x5a)
  if small.1 ≤ small.2 then [(small.1 - 0x20, small.2 - 0x20)]
  else if capital.1 ≤ capital.2 then [(capital.1 + 0x20, capital.2 + 0x20)]
  else []

/-- The set with the other case of its letters. -/
def foldCase (ranges : Ranges) : Ranges :=
  let ranges := ranges.normalize
  (ranges ++ ranges.flatMap otherCase).normalize

end Ranges

end OpenSound.Text
