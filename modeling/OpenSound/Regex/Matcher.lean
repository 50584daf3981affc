import OpenSound.Regex

/-!
# Matching a regular expression

`Regex.reach` takes a set of places in a text and gives the places at which the expression can end
when it starts at one of them.  A place is the number of characters in front of it.  How often a
body is repeated beyond the length of the text makes no difference, because a repetition either
moves on or can be done again on the spot.
-/

namespace OpenSound.Regex

/-- The union of two sets of places. -/
def union (a b : List Nat) : List Nat := a ++ b.filter (!a.contains ·)

/-- The character in front of a place. -/
def charBefore? (text : Array Char) (place : Nat) : Option Char :=
  match place with
  | 0 => none
  | place + 1 => text[place]?

/-- The places reached by exactly `count` steps. -/
def stepTimes (step : List Nat → List Nat) : (count : Nat) → List Nat → List Nat
  | 0, places => places
  | count + 1, places => if places.isEmpty then [] else stepTimes step count (step places)

/-- The places reached by at most `count` more steps from those that were reached last. -/
def spread (step : List Nat → List Nat) : (count : Nat) → (reached last : List Nat) → List Nat
  | 0, reached, _ => reached
  | count + 1, reached, last =>
    let new := (step last).filter (!reached.contains ·)
    if new.isEmpty then reached else spread step count (reached ++ new) new

mutual

/-- The places at which the expression can end when it starts at one of the places. -/
def reach (text : Array Char) : Regex → List Nat → List Nat
  | char c, places => (places.filter fun place => text[place]? = some c).map (· + 1)
  | set ranges, places =>
    (places.filter fun place => text[place]?.any ranges.contains).map (· + 1)
  | look assertion, places =>
    places.filter fun place => assertion.holds (charBefore? text place) text[place]?
  | sequence parts, places => reachAll text parts places
  | choice options, places => reachAny text options places
  | repeated body least most, places =>
    let enough := text.size + 1
    let places := stepTimes (reach text body) (min least enough) places
    let further := match most with
      | none => enough
      | some most => min (most - least) enough
    spread (reach text body) further places places
  | capture _ body, places => reach text body places

/-- The places reached by the expressions one after the other. -/
def reachAll (text : Array Char) : List Regex → List Nat → List Nat
  | [], places => places
  | part :: parts, places => reachAll text parts (reach text part places)

/-- The places reached by one of the expressions. -/
def reachAny (text : Array Char) : List Regex → List Nat → List Nat
  | [], _ => []
  | option :: options, places =>
    union (reach text option places) (reachAny text options places)

end

/-- Whether the expression matches some part of the text. -/
def isMatch (r : Regex) (text : String) : Bool :=
  let chars := text.toList.toArray
  !(reach chars r (List.range (chars.size + 1))).isEmpty

end OpenSound.Regex
