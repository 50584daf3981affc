import OpenSound.Address.CharClass

/-!
# Patterns for one segment

A pattern is read from left to right: `*` stands for any text, `?` for any one character, a class in
brackets for one character that it accepts, alternatives in braces for one of the texts between
their commas, and every other character for itself.  A bracket or a brace that is not closed stands
for nothing, so that no text matches.
-/

namespace OpenSound.Address.Glob

/-- Whether one of the ends of the text, from the whole of it down to the empty one, passes the
test. -/
def anySuffix (test : List Char → Bool) : List Char → Bool
  | [] => test []
  | c :: text => test (c :: text) || anySuffix test text

/-- Whether the character stands for itself behind a star. -/
def isLiteral (c : Char) : Bool := c ≠ '?' && c ≠ '[' && c ≠ '\x7b'

/-- The alternatives up to the closing brace, and the pattern behind it. -/
def alternatives? (pattern : List Char) : Option (List (List Char) × List Char) :=
  match pattern.dropWhile (· ≠ '\x7d') with
  | [] => none
  | _ :: rest => some ((pattern.takeWhile (· ≠ '\x7d')).splitOn ',', rest)

/-- What is left of the text behind its beginning. -/
def stripPrefix? : (beginning text : List Char) → Option (List Char)
  | [], text => some text
  | _ :: _, [] => none
  | b :: beginning, c :: text => if b = c then stripPrefix? beginning text else none

theorem alternatives?_shortens {pattern rest : List Char} {texts : List (List Char)}
    (h : alternatives? pattern = some (texts, rest)) : rest.length < pattern.length := by
  unfold alternatives? at h
  split at h
  · cases h
  next eq =>
    have := (List.dropWhile_suffix (· ≠ '\x7d') (l := pattern)).length_le
    grind

/-- Whether the pattern stands for the text.  Behind a star, a character that stands for itself is
looked for before anything else is tried. -/
def isMatch (pattern text : List Char) : Bool :=
  match pattern with
  | [] => text.isEmpty
  | '*' :: pattern =>
    match _h : pattern.dropWhile (· = '*') with
    | [] => true
    | next :: rest =>
      let text := if isLiteral next then text.dropWhile (· ≠ next) else text
      anySuffix (fun text => isMatch (next :: rest) text) text
  | '?' :: pattern =>
    match text with
    | [] => false
    | _ :: text => isMatch pattern text
  | '[' :: pattern =>
    match text with
    | [] => false
    | c :: text =>
      match _h : CharClass.accepts? c pattern with
      | some (true, pattern) => isMatch pattern text
      | _ => false
  | '\x7b' :: pattern =>
    match _h : alternatives? pattern with
    | none => false
    | some (texts, pattern) =>
      texts.any fun beginning =>
        match stripPrefix? beginning text with
        | none => false
        | some text => isMatch pattern text
  | c :: pattern =>
    match text with
    | [] => false
    | d :: text => c = d && isMatch pattern text
termination_by pattern.length
decreasing_by
  · have := (List.dropWhile_suffix (· = '*') (l := pattern)).length_le
    grind
  · simp
  · have := CharClass.accepts?_shortens _h
    grind
  · have := alternatives?_shortens _h
    grind
  · simp

end OpenSound.Address.Glob
