import Mathlib.Tactic.Common
import OpenSound.Address.CharClass

/-!
# The sets that classes stand for

A class is a list of members, each of which says which characters it contains, and may be negated.
`CharClass.SetLayout` relates the text of a class to its set and to the pattern behind it, whatever
the character is that the class is asked about; `accepts?_eq_some_iff` says that the verdict is
membership in that set.
-/

namespace OpenSound.Address.CharClass

/-- One member of a class. -/
inductive Member where
  | single (c : Char)
  /-- The two ends and all that lies strictly between them. -/
  | range (first last : Char)
  /-- Everything from a character on. -/
  | onward (first : Char)
deriving DecidableEq, Repr

def Member.contains : Member → Char → Bool
  | single c, ch => ch = c
  | range first last, ch => ch = first || ch = last || (first < ch && ch < last)
  | onward first, ch => first ≤ ch

/-- The characters that a class accepts: those of its members, or all others if it is negated. -/
structure CharSet where
  negated : Bool
  members : List Member
deriving DecidableEq, Repr

def CharSet.contains (set : CharSet) (ch : Char) : Bool :=
  set.negated != set.members.any (·.contains ch)

/-- The members that a pattern starts with, up to the bracket that closes the class, and what is
behind that bracket.  A bracket in front of the first member is itself a member. -/
inductive MembersLayout : (first : Bool) → List Char → List Member → List Char → Prop
  | close {rest} : MembersLayout false (']' :: rest) [] rest
  | single {first c pattern members rest} :
      (c = ']' → first = true) → pattern.head? ≠ some '-' →
      MembersLayout false pattern members rest →
      MembersLayout first (c :: pattern) (.single c :: members) rest
  | range {first c last pattern members rest} :
      (c = ']' → first = true) → last ≠ ']' →
      MembersLayout false pattern members rest →
      MembersLayout first (c :: '-' :: last :: pattern) (.range c last :: members) rest
  | onward {first c rest} :
      (c = ']' → first = true) →
      MembersLayout first (c :: '-' :: ']' :: rest) [.onward c] rest

/-- The set of the class that a pattern starts with, behind its opening bracket, and what is behind
the class. -/
inductive SetLayout : List Char → CharSet → List Char → Prop
  | within {pattern members rest} :
      pattern.head? ≠ some '!' → MembersLayout true pattern members rest →
      SetLayout pattern ⟨false, members⟩ rest
  | outside {pattern members rest} :
      MembersLayout true pattern members rest → SetLayout ('!' :: pattern) ⟨true, members⟩ rest

/-! ### One way to read a class -/

theorem MembersLayout.unique {first : Bool} {pattern rest₁ rest₂ : List Char}
    {members₁ members₂ : List Member} (h₁ : MembersLayout first pattern members₁ rest₁)
    (h₂ : MembersLayout first pattern members₂ rest₂) : members₁ = members₂ ∧ rest₁ = rest₂ := by
  induction h₁ generalizing members₂ with
  | close =>
    cases h₂ with
    | close => exact ⟨rfl, rfl⟩
    | single hbracket _ _ => cases hbracket rfl
    | range hbracket _ _ => cases hbracket rfl
    | onward hbracket => cases hbracket rfl
  | single hbracket hdash _ ih =>
    cases h₂ with
    | close => cases hbracket rfl
    | single _ _ h =>
      obtain ⟨rfl, rfl⟩ := ih h
      exact ⟨rfl, rfl⟩
    | range _ _ _ => exact absurd rfl hdash
    | onward _ => exact absurd rfl hdash
  | range hbracket hlast _ ih =>
    cases h₂ with
    | close => cases hbracket rfl
    | single _ hdash _ => exact absurd rfl hdash
    | range _ _ h =>
      obtain ⟨rfl, rfl⟩ := ih h
      exact ⟨rfl, rfl⟩
    | onward _ => exact absurd rfl hlast
  | onward hbracket =>
    cases h₂ with
    | close => cases hbracket rfl
    | single _ hdash _ => exact absurd rfl hdash
    | range _ hlast _ => exact absurd rfl hlast
    | onward _ => exact ⟨rfl, rfl⟩

theorem SetLayout.unique {pattern rest₁ rest₂ : List Char} {set₁ set₂ : CharSet}
    (h₁ : SetLayout pattern set₁ rest₁) (h₂ : SetLayout pattern set₂ rest₂) :
    set₁ = set₂ ∧ rest₁ = rest₂ := by
  cases h₁ with
  | within hmark h₁ =>
    cases h₂ with
    | within _ h₂ =>
      obtain ⟨rfl, rfl⟩ := h₁.unique h₂
      exact ⟨rfl, rfl⟩
    | outside _ => exact absurd rfl hmark
  | outside h₁ =>
    cases h₂ with
    | within hmark _ => exact absurd rfl hmark
    | outside h₂ =>
      obtain ⟨rfl, rfl⟩ := h₁.unique h₂
      exact ⟨rfl, rfl⟩

/-! ### One member at a time -/

section Steps

variable {ch : Char} {first found : Bool} {pattern : List Char}

theorem members?_close : members? ch false found (']' :: pattern) = some (found, pattern) := by
  unfold members?
  split
  case h_1 heq => cases heq
  case h_2 heq | h_3 heq =>
    cases heq
    exact if_pos ⟨rfl, rfl⟩

theorem not_closes_iff {c : Char} :
    ¬(c = ']' ∧ (!first) = true) ↔ (c = ']' → first = true) := by
  rw [not_and, Bool.not_eq_true', Bool.not_eq_false]

theorem members?_single {c : Char} (hbracket : c = ']' → first = true)
    (hdash : pattern.head? ≠ some '-') :
    members? ch first found (c :: pattern) = members? ch false (found || ch = c) pattern := by
  rw [members?, if_neg (not_closes_iff.2 hbracket)]
  rintro rest rfl
  exact hdash rfl

theorem members?_range {c last : Char} (hbracket : c = ']' → first = true) (hlast : last ≠ ']') :
    members? ch first found (c :: '-' :: last :: pattern) =
      members? ch false (found || (Member.range c last).contains ch) pattern := by
  rw [members?, if_neg (not_closes_iff.2 hbracket)]
  · simp only [Member.contains, Bool.or_assoc]
  · exact hlast

theorem members?_onward {c : Char} (hbracket : c = ']' → first = true) :
    members? ch first found (c :: '-' :: ']' :: pattern) = some (found || c ≤ ch, pattern) := by
  rw [members?, if_neg (not_closes_iff.2 hbracket)]

end Steps

theorem members?_of_membersLayout {first : Bool} {pattern rest : List Char} {members : List Member}
    (h : MembersLayout first pattern members rest) (ch : Char) (found : Bool) :
    members? ch first found pattern = some (found || members.any (·.contains ch), rest) := by
  induction h generalizing found with
  | close => rw [members?_close, List.any_nil, Bool.or_false]
  | single hbracket hdash _ ih =>
    rw [members?_single hbracket hdash, ih, List.any_cons, ← Bool.or_assoc]
    rfl
  | range hbracket hlast _ ih =>
    rw [members?_range hbracket hlast, ih, List.any_cons, ← Bool.or_assoc]
  | onward hbracket =>
    rw [members?_onward hbracket, List.any_cons, List.any_nil, Bool.or_false]
    rfl

theorem exists_membersLayout_of_closes {ch c : Char} {first found verdict : Bool}
    {pattern rest : List Char} (hclose : c = ']' ∧ (!first) = true)
    (h : members? ch first found (c :: pattern) = some (verdict, rest)) :
    ∃ members, MembersLayout first (c :: pattern) members rest := by
  obtain ⟨rfl, hfirst⟩ := hclose
  obtain rfl : first = false := by simpa using hfirst
  rw [members?_close] at h
  cases h
  exact ⟨[], .close⟩

theorem exists_membersLayout_of_members? {ch : Char} {first found verdict : Bool}
    {pattern rest : List Char} (h : members? ch first found pattern = some (verdict, rest)) :
    ∃ members, MembersLayout first pattern members rest := by
  induction first, found, pattern using members?.induct ch with
  | case1 => cases h
  | case2 first found c pattern hclose => exact exists_membersLayout_of_closes hclose h
  | case3 first found c hopen =>
    rw [members?, if_neg hopen] at h
    cases h
  | case4 first found c hopen pattern =>
    rw [not_closes_iff] at hopen
    rw [members?_onward hopen] at h
    cases h
    exact ⟨_, .onward hopen⟩
  | case5 first found c hopen last pattern hlast ih =>
    rw [not_closes_iff] at hopen
    rw [members?_range hopen hlast] at h
    obtain ⟨members, hmembers⟩ := ih (by simpa [Member.contains, Bool.or_assoc] using h)
    exact ⟨_, .range hopen hlast hmembers⟩
  | case6 first found c pattern hdash hclose => exact exists_membersLayout_of_closes hclose h
  | case7 first found c pattern hdash hopen ih =>
    rw [not_closes_iff] at hopen
    have hhead : pattern.head? ≠ some '-' := by
      intro hhead
      obtain ⟨tail, htail⟩ := List.head?_eq_some_iff.1 hhead
      exact hdash tail htail
    rw [members?_single hopen hhead] at h
    obtain ⟨members, hmembers⟩ := ih h
    exact ⟨_, .single hopen hhead hmembers⟩

theorem members?_eq_some_iff {ch : Char} {pattern rest : List Char} {verdict : Bool} :
    members? ch true false pattern = some (verdict, rest) ↔
      ∃ members, MembersLayout true pattern members rest ∧
        verdict = members.any (·.contains ch) := by
  constructor
  · intro h
    obtain ⟨members, hmembers⟩ := exists_membersLayout_of_members? h
    rw [members?_of_membersLayout hmembers] at h
    cases h
    exact ⟨members, hmembers, Bool.false_or _⟩
  · rintro ⟨members, hmembers, rfl⟩
    rw [members?_of_membersLayout hmembers, Bool.false_or]

/-- Whether a class is closed and where it ends does not depend on the character, and the verdict is
membership in the set of the class. -/
theorem accepts?_eq_some_iff {ch : Char} {pattern rest : List Char} {verdict : Bool} :
    accepts? ch pattern = some (verdict, rest) ↔
      ∃ set, SetLayout pattern set rest ∧ verdict = set.contains ch := by
  by_cases hmark : pattern.head? = some '!'
  · obtain ⟨pattern, rfl⟩ := List.head?_eq_some_iff.1 hmark
    simp only [accepts?, Option.map_eq_some_iff, Prod.exists, Prod.mk.injEq,
      members?_eq_some_iff]
    constructor
    · rintro ⟨_, _, ⟨members, hmembers, rfl⟩, rfl, rfl⟩
      exact ⟨⟨true, members⟩, .outside hmembers, (Bool.true_bne _).symm⟩
    · rintro ⟨set, hset, rfl⟩
      cases hset with
      | within hhead _ => exact absurd rfl hhead
      | outside hmembers =>
        exact ⟨_, _, ⟨_, hmembers, rfl⟩, (Bool.true_bne _).symm, rfl⟩
  · have haccepts : accepts? ch pattern = members? ch true false pattern := by
      rw [accepts?]
      rintro tail rfl
      exact hmark rfl
    rw [haccepts, members?_eq_some_iff]
    constructor
    · rintro ⟨members, hmembers, rfl⟩
      exact ⟨⟨false, members⟩, .within hmark hmembers, (Bool.false_bne _).symm⟩
    · rintro ⟨set, hset, rfl⟩
      cases hset with
      | within _ hmembers => exact ⟨_, hmembers, Bool.false_bne _⟩
      | outside _ => exact absurd rfl hmark

theorem SetLayout.shortens {pattern rest : List Char} {set : CharSet}
    (h : SetLayout pattern set rest) : rest.length < pattern.length := by
  have haccepts : accepts? 'a' pattern = some (set.contains 'a', rest) :=
    accepts?_eq_some_iff.2 ⟨set, h, rfl⟩
  exact accepts?_shortens haccepts

end OpenSound.Address.CharClass
