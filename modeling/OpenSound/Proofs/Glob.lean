import Mathlib.Tactic.Common
import Mathlib.Data.List.Basic
import Mathlib.Data.List.Forall2
import OpenSound.Address.Glob
import OpenSound.Proofs.CharClass
import OpenSound.Proofs.Search

/-!
# The language of a pattern

A pattern splits into tokens, each of which stands for a set of texts, and the pattern for their
concatenations.  `Glob.isMatch` walks through the pattern without splitting it first, skips ahead
behind a star and backtracks; `isMatch_eq_true_iff_denotes` says that it misses no way to take the
text apart.
-/

namespace OpenSound.Address.Glob

open CharClass (CharSet SetLayout)

/-- A piece of a pattern that stands for itself or for several texts. -/
inductive Token where
  | anyText
  | anyChar
  | charClass (set : CharSet)
  | alternatives (texts : List (List Char))
  | literal (c : Char)
deriving DecidableEq, Repr

/-- The texts that a token stands for. -/
def Token.Denotes : Token → List Char → Prop
  | anyText, _ => True
  | anyChar, text => ∃ c, text = [c]
  | charClass set, text => ∃ c, text = [c] ∧ set.contains c = true
  | alternatives texts, text => text ∈ texts
  | literal c, text => text = [c]

/-- The characters that start a token other than themselves. -/
def signs : List Char := ['*', '?', '[', '\x7b']

/-- The token that a pattern starts with, and the pattern behind it. -/
inductive TokenLayout : List Char → Token → List Char → Prop
  | anyText {rest} : TokenLayout ('*' :: rest) .anyText rest
  | anyChar {rest} : TokenLayout ('?' :: rest) .anyChar rest
  | charClass {pattern set rest} :
      SetLayout pattern set rest → TokenLayout ('[' :: pattern) (.charClass set) rest
  | alternatives {body rest} :
      '\x7d' ∉ body →
      TokenLayout ('\x7b' :: (body ++ '\x7d' :: rest)) (.alternatives (body.splitOn ',')) rest
  | literal {c rest} : c ∉ signs → TokenLayout (c :: rest) (.literal c) rest

/-- The tokens of a pattern, read from left to right. -/
inductive TokensLayout : List Char → List Token → Prop
  | nil : TokensLayout [] []
  | cons {pattern token rest tokens} :
      TokenLayout pattern token rest → TokensLayout rest tokens →
      TokensLayout pattern (token :: tokens)

/-- A pattern that has a bracket or a brace that opens a token and is not closed. -/
inductive Unterminated : List Char → Prop
  | charClass {pattern} : (∀ set rest, ¬SetLayout pattern set rest) → Unterminated ('[' :: pattern)
  | alternatives {pattern} : '\x7d' ∉ pattern → Unterminated ('\x7b' :: pattern)
  | behind {pattern token rest} :
      TokenLayout pattern token rest → Unterminated rest → Unterminated pattern

/-- The texts made of one text of each token, in order. -/
def Spells (tokens : List Token) (text : List Char) : Prop :=
  ∃ texts, List.Forall₂ Token.Denotes tokens texts ∧ texts.flatten = text

/-- The texts that a pattern stands for. -/
def Denotes (pattern text : List Char) : Prop :=
  ∃ tokens, TokensLayout pattern tokens ∧ Spells tokens text

/-! ### One token at a time -/

theorem spells_nil_iff {text : List Char} : Spells [] text ↔ text = [] := by
  simp [Spells, eq_comm]

theorem spells_cons_iff {token : Token} {tokens : List Token} {text : List Char} :
    Spells (token :: tokens) text ↔
      ∃ front back, text = front ++ back ∧ token.Denotes front ∧ Spells tokens back := by
  unfold Spells
  constructor
  · rintro ⟨texts, htexts, rfl⟩
    cases htexts with
    | cons hfront htexts => exact ⟨_, _, rfl, hfront, _, htexts, rfl⟩
  · rintro ⟨front, _, rfl, hfront, texts, htexts, rfl⟩
    exact ⟨front :: texts, .cons hfront htexts, rfl⟩

theorem denotes_nil_iff {text : List Char} : Denotes [] text ↔ text = [] := by
  unfold Denotes
  constructor
  · rintro ⟨tokens, htokens, hspells⟩
    cases htokens with
    | nil => exact spells_nil_iff.1 hspells
    | cons htoken _ => cases htoken
  · rintro rfl
    exact ⟨[], .nil, spells_nil_iff.2 rfl⟩

theorem denotes_cons_iff {c : Char} {pattern text : List Char} :
    Denotes (c :: pattern) text ↔
      ∃ token rest front back, TokenLayout (c :: pattern) token rest ∧ text = front ++ back ∧
        token.Denotes front ∧ Denotes rest back := by
  unfold Denotes
  constructor
  · rintro ⟨tokens, htokens, hspells⟩
    cases htokens with
    | cons htoken htokens =>
      obtain ⟨front, back, rfl, hfront, hback⟩ := spells_cons_iff.1 hspells
      exact ⟨_, _, front, back, htoken, rfl, hfront, _, htokens, hback⟩
  · rintro ⟨token, rest, front, back, htoken, rfl, hfront, tokens, htokens, hback⟩
    exact ⟨_, .cons htoken htokens, spells_cons_iff.2 ⟨front, back, rfl, hfront, hback⟩⟩

theorem denotes_star_iff {pattern text : List Char} :
    Denotes ('*' :: pattern) text ↔ ∃ back, back <:+ text ∧ Denotes pattern back := by
  rw [denotes_cons_iff]
  constructor
  · rintro ⟨token, rest, front, back, htoken, rfl, -, hback⟩
    cases htoken with
    | anyText => exact ⟨back, List.suffix_append front back, hback⟩
    | literal hsign => exact absurd (by decide) hsign
  · rintro ⟨back, ⟨front, rfl⟩, hback⟩
    exact ⟨_, _, front, back, .anyText, rfl, trivial, hback⟩

theorem denotes_question_iff {pattern text : List Char} :
    Denotes ('?' :: pattern) text ↔ ∃ c back, text = c :: back ∧ Denotes pattern back := by
  rw [denotes_cons_iff]
  constructor
  · rintro ⟨token, rest, _, back, htoken, rfl, hfront, hback⟩
    cases htoken with
    | anyChar =>
      obtain ⟨c, rfl⟩ := hfront
      exact ⟨c, back, rfl, hback⟩
    | literal hsign => exact absurd (by decide) hsign
  · rintro ⟨c, back, rfl, hback⟩
    exact ⟨_, _, [c], back, .anyChar, rfl, ⟨c, rfl⟩, hback⟩

theorem denotes_bracket_iff {pattern text : List Char} :
    Denotes ('[' :: pattern) text ↔
      ∃ c back rest, text = c :: back ∧ CharClass.accepts? c pattern = some (true, rest) ∧
        Denotes rest back := by
  rw [denotes_cons_iff]
  constructor
  · rintro ⟨token, rest, _, back, htoken, rfl, hfront, hback⟩
    cases htoken with
    | charClass hset =>
      obtain ⟨c, rfl, hc⟩ := hfront
      exact ⟨c, back, rest, rfl, CharClass.accepts?_eq_some_iff.2 ⟨_, hset, hc.symm⟩, hback⟩
    | literal hsign => exact absurd (by decide) hsign
  · rintro ⟨c, back, rest, rfl, haccepts, hback⟩
    obtain ⟨set, hset, hc⟩ := CharClass.accepts?_eq_some_iff.1 haccepts
    exact ⟨_, _, [c], back, .charClass hset, rfl, ⟨c, rfl, hc.symm⟩, hback⟩

theorem alternatives?_eq_some_iff {pattern rest : List Char} {texts : List (List Char)} :
    alternatives? pattern = some (texts, rest) ↔
      ∃ body, pattern = body ++ '\x7d' :: rest ∧ '\x7d' ∉ body ∧ texts = body.splitOn ',' := by
  unfold alternatives?
  constructor
  · intro h
    split at h
    · cases h
    next heq =>
      cases h
      obtain ⟨hpattern, hbody⟩ := eq_append_of_dropWhile_eq_cons heq
      exact ⟨_, hpattern, hbody, rfl⟩
  · rintro ⟨body, rfl, hbody, rfl⟩
    rw [dropWhile_append_separator hbody, takeWhile_append_separator hbody]

theorem stripPrefix?_eq_some_iff {beginning text rest : List Char} :
    stripPrefix? beginning text = some rest ↔ text = beginning ++ rest := by
  induction beginning generalizing text with
  | nil => simp [stripPrefix?]
  | cons b beginning ih =>
    cases text with
    | nil => simp [stripPrefix?]
    | cons c text =>
      rw [stripPrefix?, List.cons_append, List.cons.injEq]
      split_ifs with h
      · rw [ih, and_iff_right h.symm]
      · exact iff_of_false nofun fun htext => h htext.1.symm

theorem denotes_brace_iff {pattern text : List Char} :
    Denotes ('\x7b' :: pattern) text ↔
      ∃ texts rest, alternatives? pattern = some (texts, rest) ∧
        ∃ front ∈ texts, ∃ back, stripPrefix? front text = some back ∧ Denotes rest back := by
  rw [denotes_cons_iff]
  constructor
  · rintro ⟨token, rest, front, back, htoken, rfl, hfront, hback⟩
    cases htoken with
    | alternatives hbody =>
      exact ⟨_, rest, alternatives?_eq_some_iff.2 ⟨_, rfl, hbody, rfl⟩, front, hfront, back,
        stripPrefix?_eq_some_iff.2 rfl, hback⟩
    | literal hsign => exact absurd (by decide) hsign
  · rintro ⟨texts, rest, htexts, front, hfront, back, hstrip, hback⟩
    obtain ⟨body, rfl, hbody, rfl⟩ := alternatives?_eq_some_iff.1 htexts
    exact ⟨_, _, front, back, .alternatives hbody, stripPrefix?_eq_some_iff.1 hstrip, hfront,
      hback⟩

theorem denotes_literal_iff {c : Char} {pattern text : List Char} (hsign : c ∉ signs) :
    Denotes (c :: pattern) text ↔ ∃ back, text = c :: back ∧ Denotes pattern back := by
  rw [denotes_cons_iff]
  constructor
  · rintro ⟨token, rest, _, back, htoken, rfl, hfront, hback⟩
    cases htoken with
    | literal _ =>
      obtain rfl := hfront
      exact ⟨back, rfl, hback⟩
    | _ => exact absurd (by decide) hsign
  · rintro ⟨back, rfl, hback⟩
    exact ⟨_, _, [c], back, .literal hsign, rfl, rfl, hback⟩

/-! ### Stars -/

theorem anySuffix_eq_true_iff {test : List Char → Bool} {text : List Char} :
    anySuffix test text = true ↔ ∃ back, back <:+ text ∧ test back = true := by
  induction text with
  | nil => simp [anySuffix]
  | cons c text ih =>
    rw [anySuffix, Bool.or_eq_true, ih]
    constructor
    · rintro (h | ⟨back, hback, h⟩)
      · exact ⟨_, List.suffix_rfl, h⟩
      · exact ⟨back, hback.trans (List.suffix_cons c text), h⟩
    · rintro ⟨back, hback, h⟩
      rcases List.suffix_cons_iff.1 hback with rfl | hback
      · exact .inl h
      · exact .inr ⟨back, hback, h⟩

/-- Stars in a row are one star. -/
theorem denotes_star_iff_dropWhile {pattern text : List Char} :
    Denotes ('*' :: pattern) text ↔
      ∃ back, back <:+ text ∧ Denotes (pattern.dropWhile (· = '*')) back := by
  rw [denotes_star_iff]
  apply exists_suffix_iff_dropWhile
  intro c pattern text hstar
  obtain rfl := of_decide_eq_true hstar
  exact denotes_star_iff

/-- An end of the text that starts with a character is an end of what begins at the first such
character. -/
theorem suffix_dropWhile_of_head? {c : Char} {back text : List Char} (hback : back <:+ text)
    (hhead : back.head? = some c) : back <:+ text.dropWhile (· ≠ c) := by
  induction text with
  | nil => exact hback
  | cons d text ih =>
    by_cases hd : d = c
    · rw [List.dropWhile_cons_of_neg (by simpa using hd)]
      exact hback
    · rw [List.dropWhile_cons_of_pos (by simpa using hd)]
      rcases List.suffix_cons_iff.1 hback with rfl | hback
      · exact absurd (Option.some.inj hhead) hd
      · exact ih hback

/-- Behind a star, a character that stands for itself may be looked for first. -/
theorem exists_suffix_denotes_iff {next : Char} {rest text : List Char} (hstar : next ≠ '*')
    (hliteral : isLiteral next = true) :
    (∃ back, back <:+ text ∧ Denotes (next :: rest) back) ↔
      ∃ back, back <:+ text.dropWhile (· ≠ next) ∧ Denotes (next :: rest) back := by
  have hsign : next ∉ signs := by
    unfold isLiteral at hliteral
    simp only [ne_eq, decide_not, Bool.and_eq_true, Bool.not_eq_true', decide_eq_false_iff_not]
      at hliteral
    obtain ⟨⟨hquestion, hbracket⟩, hbrace⟩ := hliteral
    simp [signs, hstar, hquestion, hbracket, hbrace]
  constructor
  · rintro ⟨back, hback, h⟩
    obtain ⟨tail, htail, -⟩ := (denotes_literal_iff hsign).1 h
    exact ⟨back, suffix_dropWhile_of_head? hback (by rw [htail]; rfl), h⟩
  · rintro ⟨back, hback, h⟩
    exact ⟨back, hback.trans (List.dropWhile_suffix _), h⟩

/-! ### The matcher, one sign at a time -/

theorem isMatch_star_of_dropWhile_eq_nil {pattern text : List Char}
    (hstars : pattern.dropWhile (· = '*') = []) : isMatch ('*' :: pattern) text = true := by
  rw [isMatch]
  split
  · rfl
  next hnext => cases hstars.symm.trans hnext

theorem isMatch_star_iff {pattern text rest : List Char} {next : Char}
    (hstars : pattern.dropWhile (· = '*') = next :: rest) :
    isMatch ('*' :: pattern) text = true ↔
      ∃ back, back <:+ (if isLiteral next then text.dropWhile (· ≠ next) else text) ∧
        isMatch (next :: rest) back = true := by
  rw [isMatch]
  split
  next hnil => cases hstars.symm.trans hnil
  next hnext =>
    cases hstars.symm.trans hnext
    exact anySuffix_eq_true_iff

theorem isMatch_question_iff {pattern text : List Char} :
    isMatch ('?' :: pattern) text = true ↔
      ∃ c back, text = c :: back ∧ isMatch pattern back = true := by
  cases text with
  | nil => simp [isMatch]
  | cons c text => simp [isMatch]

theorem isMatch_bracket_iff {pattern text : List Char} :
    isMatch ('[' :: pattern) text = true ↔
      ∃ c back rest, text = c :: back ∧ CharClass.accepts? c pattern = some (true, rest) ∧
        isMatch rest back = true := by
  cases text with
  | nil => simp [isMatch]
  | cons c text =>
    rw [isMatch]
    split
    next rest haccepts =>
      constructor
      · intro h
        exact ⟨c, text, rest, rfl, haccepts, h⟩
      · rintro ⟨_, _, _, heq, haccepts', h⟩
        cases heq
        cases haccepts.symm.trans haccepts'
        exact h
    next hrefused =>
      refine iff_of_false Bool.false_ne_true ?_
      rintro ⟨_, _, rest, heq, haccepts, -⟩
      cases heq
      exact hrefused rest haccepts

theorem isMatch_brace_iff {pattern text : List Char} :
    isMatch ('\x7b' :: pattern) text = true ↔
      ∃ texts rest, alternatives? pattern = some (texts, rest) ∧
        ∃ front ∈ texts, ∃ back, stripPrefix? front text = some back ∧
          isMatch rest back = true := by
  rw [isMatch]
  split
  next hopen => simp [hopen]
  next texts rest htexts =>
    simp only [htexts, List.any_eq_true]
    constructor
    · rintro ⟨front, hfront, h⟩
      split at h
      · cases h
      next back hstrip => exact ⟨texts, rest, rfl, front, hfront, back, hstrip, h⟩
    · rintro ⟨_, _, heq, front, hfront, back, hstrip, h⟩
      cases heq
      refine ⟨front, hfront, ?_⟩
      rw [hstrip]
      exact h

theorem isMatch_literal_iff {c : Char} {pattern text : List Char} (hsign : c ∉ signs) :
    isMatch (c :: pattern) text = true ↔
      ∃ back, text = c :: back ∧ isMatch pattern back = true := by
  simp only [signs, List.mem_cons, List.not_mem_nil, or_false, not_or] at hsign
  obtain ⟨hstar, hquestion, hbracket, hbrace⟩ := hsign
  cases text with
  | nil => rw [isMatch] <;> simp [*]
  | cons d text =>
    rw [isMatch, Bool.and_eq_true, decide_eq_true_eq]
    · constructor
      · rintro ⟨rfl, h⟩
        exact ⟨text, rfl, h⟩
      · rintro ⟨_, heq, h⟩
        cases heq
        exact ⟨rfl, h⟩
    all_goals assumption

/-- The matcher finds a way to take the text apart whenever there is one. -/
theorem isMatch_eq_true_iff_denotes {pattern text : List Char} :
    isMatch pattern text = true ↔ Denotes pattern text := by
  -- every sign is followed by a shorter pattern
  induction hlength : pattern.length using Nat.strong_induction_on generalizing pattern text with
  | _ n ih =>
    subst hlength
    rcases pattern with _ | ⟨c, pattern⟩
    · rw [isMatch, List.isEmpty_iff, denotes_nil_iff]
    by_cases hsign : c ∈ signs
    swap
    · rw [isMatch_literal_iff hsign, denotes_literal_iff hsign]
      simp only [ih _ (Nat.lt_succ_self _) rfl]
    simp only [signs, List.mem_cons, List.not_mem_nil, or_false] at hsign
    rcases hsign with rfl | rfl | rfl | rfl
    · rw [denotes_star_iff_dropWhile]
      rcases hstars : pattern.dropWhile (· = '*') with _ | ⟨next, rest⟩
      · exact iff_of_true (isMatch_star_of_dropWhile_eq_nil hstars)
          ⟨[], List.nil_suffix, denotes_nil_iff.2 rfl⟩
      have hshorter : (next :: rest).length < ('*' :: pattern).length := by
        rw [← hstars]
        exact Nat.lt_succ_of_le (List.dropWhile_suffix _).length_le
      rw [isMatch_star_iff hstars]
      simp only [ih _ hshorter rfl]
      split_ifs with hliteral
      · have hstar : next ≠ '*' := by
          have := List.head?_dropWhile_not (· = '*') pattern
          rw [hstars] at this
          simpa using this
        exact (exists_suffix_denotes_iff hstar hliteral).symm
      · rfl
    · rw [isMatch_question_iff, denotes_question_iff]
      simp only [ih _ (Nat.lt_succ_self _) rfl]
    · rw [isMatch_bracket_iff, denotes_bracket_iff]
      constructor
      · rintro ⟨c, back, rest, rfl, haccepts, h⟩
        have hshorter := Nat.lt_succ_of_lt (CharClass.accepts?_shortens haccepts)
        exact ⟨c, back, rest, rfl, haccepts, (ih _ hshorter rfl).1 h⟩
      · rintro ⟨c, back, rest, rfl, haccepts, h⟩
        have hshorter := Nat.lt_succ_of_lt (CharClass.accepts?_shortens haccepts)
        exact ⟨c, back, rest, rfl, haccepts, (ih _ hshorter rfl).2 h⟩
    · rw [isMatch_brace_iff, denotes_brace_iff]
      constructor
      · rintro ⟨texts, rest, htexts, front, hfront, back, hstrip, h⟩
        have hshorter := Nat.lt_succ_of_lt (alternatives?_shortens htexts)
        exact ⟨texts, rest, htexts, front, hfront, back, hstrip, (ih _ hshorter rfl).1 h⟩
      · rintro ⟨texts, rest, htexts, front, hfront, back, hstrip, h⟩
        have hshorter := Nat.lt_succ_of_lt (alternatives?_shortens htexts)
        exact ⟨texts, rest, htexts, front, hfront, back, hstrip, (ih _ hshorter rfl).2 h⟩

/-! ### Unterminated tokens -/

theorem TokenLayout.unique {pattern rest₁ rest₂ : List Char} {token₁ token₂ : Token}
    (h₁ : TokenLayout pattern token₁ rest₁) (h₂ : TokenLayout pattern token₂ rest₂) :
    token₁ = token₂ ∧ rest₁ = rest₂ := by
  cases h₁ with
  | anyText =>
    cases h₂ with
    | anyText => exact ⟨rfl, rfl⟩
    | literal hsign => exact absurd (by decide) hsign
  | anyChar =>
    cases h₂ with
    | anyChar => exact ⟨rfl, rfl⟩
    | literal hsign => exact absurd (by decide) hsign
  | charClass hset =>
    cases h₂ with
    | charClass hset' =>
      obtain ⟨rfl, rfl⟩ := hset.unique hset'
      exact ⟨rfl, rfl⟩
    | literal hsign => exact absurd (by decide) hsign
  | @alternatives body _ hbody =>
    generalize hpattern : body ++ '\x7d' :: rest₁ = pattern at h₂
    cases h₂ with
    | alternatives hbody' =>
      obtain ⟨rfl, rfl⟩ := (append_separator_inj hbody hbody').1 hpattern
      exact ⟨rfl, rfl⟩
    | literal hsign => exact absurd (by decide) hsign
  | literal hsign =>
    cases h₂ with
    | literal _ => exact ⟨rfl, rfl⟩
    | _ => exact absurd (by decide) hsign

theorem not_denotes_of_unterminated {pattern text : List Char} (h : Unterminated pattern) :
    ¬Denotes pattern text := by
  induction h generalizing text with
  | charClass hopen =>
    rw [denotes_bracket_iff]
    rintro ⟨c, back, rest, -, haccepts, -⟩
    obtain ⟨set, hset, -⟩ := CharClass.accepts?_eq_some_iff.1 haccepts
    exact hopen set rest hset
  | alternatives hopen =>
    rw [denotes_brace_iff]
    rintro ⟨texts, rest, htexts, -⟩
    obtain ⟨body, rfl, -⟩ := alternatives?_eq_some_iff.1 htexts
    exact hopen (by simp)
  | behind htoken _ ih =>
    rintro ⟨tokens, htokens, hspells⟩
    cases htokens with
    | nil => cases htoken
    | cons htoken' htokens =>
      obtain ⟨rfl, rfl⟩ := htoken.unique htoken'
      obtain ⟨front, back, -, -, hback⟩ := spells_cons_iff.1 hspells
      exact ih ⟨_, htokens, hback⟩

theorem TokenLayout.shortens {pattern rest : List Char} {token : Token}
    (h : TokenLayout pattern token rest) : rest.length < pattern.length := by
  cases h with
  | anyText | anyChar | literal _ => exact Nat.lt_succ_self _
  | charClass hset => exact Nat.lt_succ_of_lt hset.shortens
  | alternatives _ =>
    rw [List.length_cons, List.length_append, List.length_cons]
    omega

/-- A pattern splits into tokens unless one of them is not closed. -/
theorem exists_tokensLayout_or_unterminated (pattern : List Char) :
    (∃ tokens, TokensLayout pattern tokens) ∨ Unterminated pattern := by
  induction hlength : pattern.length using Nat.strong_induction_on generalizing pattern with
  | _ n ih =>
    subst hlength
    have hstep : ∀ {token rest}, TokenLayout pattern token rest →
        (∃ tokens, TokensLayout pattern tokens) ∨ Unterminated pattern := by
      intro token rest htoken
      rcases ih _ htoken.shortens rest rfl with ⟨tokens, htokens⟩ | hopen
      · exact .inl ⟨_, .cons htoken htokens⟩
      · exact .inr (.behind htoken hopen)
    rcases pattern with _ | ⟨c, pattern⟩
    · exact .inl ⟨[], .nil⟩
    by_cases hsign : c ∈ signs
    swap
    · exact hstep (.literal hsign)
    simp only [signs, List.mem_cons, List.not_mem_nil, or_false] at hsign
    rcases hsign with rfl | rfl | rfl | rfl
    · exact hstep .anyText
    · exact hstep .anyChar
    · by_cases hclosed : ∃ set rest, SetLayout pattern set rest
      · obtain ⟨set, rest, hset⟩ := hclosed
        exact hstep (.charClass hset)
      · exact .inr (.charClass fun set rest hset => hclosed ⟨set, rest, hset⟩)
    · by_cases hclosed : '\x7d' ∈ pattern
      swap
      · exact .inr (.alternatives hclosed)
      obtain ⟨body, rest, rfl, hbody⟩ := List.eq_append_cons_of_mem hclosed
      exact hstep (.alternatives hbody)

/-- A pattern matches the texts that its tokens spell, and none if one of them is not closed. -/
theorem isMatch_iff_spells (pattern text : List Char) :
    (isMatch pattern text = true ↔ ∃ tokens, TokensLayout pattern tokens ∧ Spells tokens text) ∧
      (Unterminated pattern → isMatch pattern text = false) := by
  refine ⟨isMatch_eq_true_iff_denotes, ?_⟩
  intro h
  rw [← Bool.not_eq_true, isMatch_eq_true_iff_denotes]
  exact not_denotes_of_unterminated h

theorem isMatch_open_brace :
    Unterminated "a\x7bb".toList ∧ isMatch "a\x7bb".toList "ab".toList = false := by
  have hopen : Unterminated "a\x7bb".toList :=
    .behind (.literal (by decide)) (.alternatives (by decide))
  exact ⟨hopen, (isMatch_iff_spells "a\x7bb".toList "ab".toList).2 hopen⟩

end OpenSound.Address.Glob
