import OpenSound.Address.Pattern
import OpenSound.Packet
import OpenSound.Regex.Matcher
import OpenSound.Regex.Reader

/-!
# Selectors

A selector decides whether a message is of interest.  Its leaves look at the address or at the type
tags, by a pattern or by a regular expression, or are custom; operators combine two selectors.  Both
sides of an operator are always evaluated, the left one first, and `Selector.evaluate` gives the
verdict together with the leaves that were asked for it.
-/

namespace OpenSound

/-- A regular expression for whole texts: the expression of its source between two anchors. -/
structure WholeRegex where
  source : String
  regex : Regex
  reads : Regex.parse? ("^(?:" ++ source ++ ")$") = some regex

/-- Why a selector could not be made. -/
inductive SelectorError where
  | invalidPattern (source : String)
deriving DecidableEq, Repr, Inhabited

def SelectorError.message : SelectorError → String
  | invalidPattern source => "invalid pattern: " ++ source

namespace WholeRegex

/-- Reads the expression with the anchors around it. -/
def ofSource (source : String) : Except SelectorError WholeRegex :=
  match reads : Regex.parse? ("^(?:" ++ source ++ ")$") with
  | some regex => .ok ⟨source, regex, reads⟩
  | none => .error (.invalidPattern source)

def isMatch (r : WholeRegex) (text : String) : Bool := r.regex.isMatch text

/-- One source is read in one way. -/
theorem regex_eq_of_source_eq {a b : WholeRegex} (h : a.source = b.source) :
    a.regex = b.regex := by
  have := a.reads
  rw [h, b.reads] at this
  exact (Option.some.inj this).symm

end WholeRegex

/-- A custom test of messages. -/
structure CustomTest where
  /-- Whether the test looks at type tags. -/
  requiresInfo : Bool := false
  verdict : Message → Bool

/-- The custom tests by name. -/
abbrev CustomTests := String → CustomTest

/-- What a selector asks about a message. -/
inductive Criterion where
  /-- The address matches a pattern. -/
  | address (pattern : AddressPattern)
  /-- The whole address matches a regular expression. -/
  | regexAddress (regex : WholeRegex)
  /-- The type tags match a pattern for one segment. -/
  | typeTags (pattern : String)
  /-- The whole of the type tags matches a regular expression. -/
  | regexTypeTags (regex : WholeRegex)
  /-- A custom test, which is known by its name. -/
  | custom (name : String)

namespace Criterion

/-- Whether the answer depends on type tags. -/
def requiresInfo (tests : CustomTests) : Criterion → Bool
  | address _ => false
  | regexAddress _ => false
  | typeTags _ => true
  | regexTypeTags _ => true
  | custom name => (tests name).requiresInfo

/-- Whether the message meets the criterion. -/
def isMet (tests : CustomTests) (m : Message) : Criterion → Bool
  | address pattern => pattern.isMatch m.address
  | regexAddress regex => regex.isMatch m.address
  | typeTags pattern => Address.Glob.isMatch pattern.toList m.typeTags.toList
  | regexTypeTags regex => regex.isMatch m.typeTags
  | custom name => (tests name).verdict m

/-- The pattern or the regular expression as it was given; a custom test has none. -/
def source? : Criterion → Option String
  | address pattern => some pattern.source
  | regexAddress regex => some regex.source
  | typeTags pattern => some pattern
  | regexTypeTags regex => some regex.source
  | custom _ => none

/-- Criteria of one kind are equal when they are written alike; address patterns may differ in a
slash at either end. -/
def equal : Criterion → Criterion → Bool
  | address a, address b => a == b
  | regexAddress a, regexAddress b => a.source = b.source
  | typeTags a, typeTags b => a = b
  | regexTypeTags a, regexTypeTags b => a.source = b.source
  | custom a, custom b => a = b
  | _, _ => false

instance : BEq Criterion := ⟨equal⟩

end Criterion

/-- How two verdicts are combined. -/
inductive Operator where
  | and | or | xor
deriving DecidableEq, Repr, Inhabited

namespace Operator

/-- Every operator. -/
def all : List Operator := [and, or, xor]

def name : Operator → String
  | and => "And"
  | or => "Or"
  | xor => "Xor"

def apply : Operator → Bool → Bool → Bool
  | and, a, b => a && b
  | or, a, b => a || b
  | xor, a, b => a != b

end Operator

/-- A criterion, or two selectors with an operator between them. -/
inductive Selector where
  | leaf (criterion : Criterion)
  | combined (operator : Operator) (left right : Selector)

namespace Selector

/-- The selector of an address pattern. -/
def address (pattern : String) : Selector := leaf (.address ⟨pattern⟩)

/-- The selector of a pattern for type tags. -/
def typeTags (pattern : String) : Selector := leaf (.typeTags pattern)

def regexAddress (source : String) : Except SelectorError Selector := do
  return leaf (.regexAddress (← WholeRegex.ofSource source))

def regexTypeTags (source : String) : Except SelectorError Selector := do
  return leaf (.regexTypeTags (← WholeRegex.ofSource source))

/-- The selector of messages whose address and whose type tags match a pattern each. -/
def addressAndTypeTags (addressPattern tagsPattern : String) : Selector :=
  combined .and (address addressPattern) (typeTags tagsPattern)

/-- Whether some criterion depends on type tags. -/
def requiresInfo (tests : CustomTests) : Selector → Bool
  | leaf criterion => criterion.requiresInfo tests
  | combined _ left right => left.requiresInfo tests || right.requiresInfo tests

/-- The verdict on a message, and the criteria that were asked for it in turn. -/
def evaluate (tests : CustomTests) (m : Message) : Selector → Bool × List Criterion
  | leaf criterion => (criterion.isMet tests m, [criterion])
  | combined operator left right =>
    let (a, askedLeft) := left.evaluate tests m
    let (b, askedRight) := right.evaluate tests m
    (operator.apply a b, askedLeft ++ askedRight)

/-- Whether the selector selects the message. -/
def selects (tests : CustomTests) (s : Selector) (m : Message) : Bool := (s.evaluate tests m).1

/-- Selectors are equal when their trees are, criterion by criterion. -/
def equal : Selector → Selector → Bool
  | leaf a, leaf b => a == b
  | combined s a b, combined t c d => s = t && a.equal c && b.equal d
  | _, _ => false

instance : BEq Selector := ⟨equal⟩

end Selector

end OpenSound
