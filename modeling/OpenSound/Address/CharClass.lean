/-!
# Character classes

What stands between brackets in a pattern: a set of characters, or with `!` in front everything
outside of it.  The set is read from left to right.  `a-z` is the two ends and all that lies
strictly between them, `a-` right before the closing bracket is everything from `a` on, and any
other character is itself.  A closing bracket that comes first is a member like any other.
-/

namespace OpenSound.Address.CharClass

/-- Goes through the members of a class.  `found` says whether one of those before held the
character, and `first` whether there were none.  The answer is whether some member holds it, and the
pattern behind the class; a class that is not closed has none. -/
def members? (ch : Char) (first found : Bool) : List Char → Option (Bool × List Char)
  | [] => none
  | c :: '-' :: pattern =>
    if c = ']' ∧ !first then some (found, '-' :: pattern)
    else match pattern with
      | [] => none
      | ']' :: pattern => some (found || c ≤ ch, pattern)
      | last :: pattern =>
        members? ch false (found || ch = c || ch = last || (c < ch && ch < last)) pattern
  | c :: pattern =>
    if c = ']' ∧ !first then some (found, pattern)
    else members? ch false (found || ch = c) pattern

/-- Whether the class that starts the pattern, behind its opening bracket, accepts the character,
and the pattern behind the class. -/
def accepts? (ch : Char) : List Char → Option (Bool × List Char)
  | '!' :: pattern => (members? ch true false pattern).map fun (found, rest) => (!found, rest)
  | pattern => members? ch true false pattern

theorem members?_shortens {ch : Char} {first found verdict : Bool} {pattern rest : List Char}
    (h : members? ch first found pattern = some (verdict, rest)) :
    rest.length < pattern.length := by
  fun_induction members? ch first found pattern <;> grind

theorem accepts?_shortens {ch : Char} {verdict : Bool} {pattern rest : List Char}
    (h : accepts? ch pattern = some (verdict, rest)) : rest.length < pattern.length := by
  unfold accepts? at h
  split at h
  · simp only [Option.map_eq_some_iff, Prod.exists, Prod.mk.injEq] at h
    obtain ⟨_, _, h, _, rfl⟩ := h
    have := members?_shortens h
    grind
  · exact members?_shortens h

end OpenSound.Address.CharClass
