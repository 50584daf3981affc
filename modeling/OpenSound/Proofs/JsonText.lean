import Mathlib.Data.List.TakeDrop
import Mathlib.Data.List.TakeWhile
import Mathlib.Tactic.Common
import OpenSound.Json.Number
import OpenSound.Json.Printer
import OpenSound.Json.Reader

/-!
# JSON documents

A value whose numbers are integers and whose texts are escaped strings (`Json.IsWritten`) is read
back from its document, be it compact or laid out in lines (`Json.parse?_compact`,
`Json.parse?_pretty`).  Both documents spell the same tokens (`Json.tokens`) with other blanks
between them; `Spells` says so of characters wherever they stand, and has a rule for each way to put
documents together.  The reader puts the value together again from its tokens
(`Json.ofTokens?_tokens`).
-/

namespace OpenSound.Json

/-! ### Texts -/

namespace Text

/-- Whether the character may stand in a text as it is. -/
def IsBare (c : Char) : Prop := c ≠ '"' ∧ c ≠ '\\' ∧ 0x20 ≤ c.toNat

/-- The ways to write a character in a text. -/
inductive Escape : List Char → Char → Prop
  | bare {c : Char} (h : IsBare c) : Escape [c] c
  | letter {letter c : Char} (h : letterEscape? letter = some c) : Escape ['\\', letter] c
  | number {a b c d char : Char} (h : hexUnit? a b c d = some char.toNat) :
    Escape ['\\', 'u', a, b, c, d] char

theorem escape_escaped (c : Char) : Escape (escaped c) c := by
  unfold escaped
  split
  · exact .letter rfl
  · exact .letter rfl
  · exact .letter rfl
  · exact .letter rfl
  · exact .letter rfl
  · exact .letter rfl
  · exact .letter rfl
  · next hquote hbackslash _ _ _ _ _ =>
    split
    · next hcontrol =>
      have hdigits : ∀ n < 0x20, OpenSound.Text.hexPadded 4 n =
          ['0', '0', OpenSound.Text.hexDigit (n / 16), OpenSound.Text.hexDigit (n % 16)] ∧
          hexUnit? '0' '0' (OpenSound.Text.hexDigit (n / 16)) (OpenSound.Text.hexDigit (n % 16)) =
            some n := by
        decide
      obtain ⟨hpadded, hunit⟩ := hdigits c.toNat hcontrol
      rw [hpadded]
      exact .number hunit
    · next hclean => exact .bare ⟨hquote, hbackslash, Nat.le_of_not_lt hclean⟩

theorem letterEscape?_eq_some {letter c : Char} (h : letterEscape? letter = some c) :
    letter ≠ 'u' ∧ 0x20 ≤ letter.toNat := by
  unfold letterEscape? at h
  split at h <;> first | decide | cases h

theorem isBare_of_hexValue? {c : Char} {n : Nat} (h : OpenSound.Text.hexValue? c = some n) :
    IsBare c := by
  have hrange := OpenSound.Text.toNat_of_hexValue? h
  refine ⟨?_, ?_, by omega⟩
  · rintro rfl
    cases h
  · rintro rfl
    cases h

theorem isBare_of_hexUnit? {a b c d : Char} {n : Nat} (h : hexUnit? a b c d = some n) :
    IsBare a ∧ IsBare b ∧ IsBare c ∧ IsBare d := by
  simp only [hexUnit?, Option.bind_eq_bind, Option.bind_eq_some_iff] at h
  obtain ⟨_, ha, _, hb, _, hc, _, hd, -⟩ := h
  exact ⟨isBare_of_hexValue? ha, isBare_of_hexValue? hb, isBare_of_hexValue? hc,
    isBare_of_hexValue? hd⟩

namespace Escape

variable {raw : List Char} {c : Char} (h : Escape raw c)

include h

/-- However a character is written, no control character is among what is written. -/
theorem isClean : raw.all (0x20 ≤ ·.toNat) = true := by
  cases h with
  | bare h => simp [h.2.2]
  | letter h => simp [(letterEscape?_eq_some h).2]
  | number h =>
    obtain ⟨ha, hb, hc, hd⟩ := isBare_of_hexUnit? h
    simp [ha.2.2, hb.2.2, hc.2.2, hd.2.2]

theorem escapesAreWellFormed (rest : List Char) :
    escapesAreWellFormed (raw ++ rest) = Text.escapesAreWellFormed rest := by
  cases h with
  | bare h =>
    have hbackslash := h.2.1
    rw [List.singleton_append, Text.escapesAreWellFormed]
    · simp [hbackslash]
    · exact fun _ _ _ _ _ heq _ => hbackslash heq
    · exact fun _ _ heq _ => hbackslash heq
  | letter h =>
    have hletter := (letterEscape?_eq_some h).1
    rw [List.cons_append, List.singleton_append, Text.escapesAreWellFormed, h]
    · rfl
    · exact fun _ _ _ _ _ heq _ => hletter heq
  | number h =>
    simp only [List.cons_append, List.nil_append, Text.escapesAreWellFormed, h, Option.isSome_some,
      Bool.true_and]

/-- What is written stands for the character. -/
theorem codeUnits? (rest : List Char) :
    codeUnits? (raw ++ rest) = (Text.codeUnits? rest).map (c.toNat :: ·) := by
  cases h with
  | bare h =>
    have hbackslash := h.2.1
    rw [List.singleton_append, Text.codeUnits?]
    · cases Text.codeUnits? rest <;> rfl
    · exact fun _ _ _ _ _ heq _ => hbackslash heq
    · exact fun _ _ heq _ => hbackslash heq
  | letter h =>
    have hletter := (letterEscape?_eq_some h).1
    rw [List.cons_append, List.singleton_append, Text.codeUnits?, h]
    · cases Text.codeUnits? rest <;> rfl
    · exact fun _ _ _ _ _ heq _ => hletter heq
  | number h =>
    simp only [List.cons_append, List.nil_append, Text.codeUnits?, h]
    cases Text.codeUnits? rest <;> rfl

end Escape

/-- A character is no surrogate, so it forms no pair with what is behind it. -/
theorem isSurrogate_toNat (c : Char) :
    isHighSurrogate c.toNat = false ∧ isLowSurrogate c.toNat = false := by
  have hvalid := c.valid
  simp only [isHighSurrogate, isLowSurrogate, Bool.and_eq_false_iff, decide_eq_false_iff_not]
  change c.val.toNat < 0xD800 ∨ _ at hvalid
  change (¬ _ ≤ c.val.toNat ∨ ¬ c.val.toNat < _) ∧ (¬ _ ≤ c.val.toNat ∨ ¬ c.val.toNat < _)
  omega

theorem foldr_attach (cs : List Char) :
    (cs.map Char.toNat).foldr attach [] = cs.map Char.toNat := by
  induction cs with
  | nil => rfl
  | cons c cs ih =>
    rw [List.map_cons, List.foldr_cons, ih]
    unfold attach
    split
    · rw [(isSurrogate_toNat c).1]
      rfl
    · next hnil => rw [hnil]

theorem mapM_charOfCode? (cs : List Char) : (cs.map Char.toNat).mapM charOfCode? = some cs := by
  induction cs with
  | nil => rfl
  | cons c cs ih =>
    have hcode : charOfCode? c.toNat = some c := by
      obtain ⟨hhigh, hlow⟩ := isSurrogate_toNat c
      rw [charOfCode?, hhigh, hlow, Char.ofNat_toNat]
      rfl
    rw [List.map_cons, List.mapM_cons, hcode, ih]
    rfl

theorem codeUnits?_flatMap_escaped (cs : List Char) :
    codeUnits? (cs.flatMap escaped) = some (cs.map Char.toNat) := by
  induction cs with
  | nil => rfl
  | cons c cs ih =>
    rw [List.flatMap_cons, (escape_escaped c).codeUnits?, ih]
    rfl

theorem isClean_ofString (s : String) : (ofString s).isClean = true := by
  rw [isClean, ofString, List.all_flatMap, List.all_eq_true]
  exact fun c _ => (escape_escaped c).isClean

/-- An escaped string stands for the string. -/
theorem toString?_ofString (s : String) : (ofString s).toString? = some s := by
  unfold toString? codePoints?
  rw [isClean_ofString]
  rw [ofString, codeUnits?_flatMap_escaped, Option.map_some, foldr_attach]
  change ((s.toList.map Char.toNat).mapM charOfCode? >>= _) = _
  rw [mapM_charOfCode?]
  simp

theorem escapesAreWellFormed_flatMap_escaped (cs : List Char) :
    escapesAreWellFormed (cs.flatMap escaped) = true := by
  induction cs with
  | nil => rfl
  | cons c cs ih => rw [List.flatMap_cons, (escape_escaped c).escapesAreWellFormed, ih]

end Text

/-! ### Integers -/

namespace Numeral

theorem display_ofInt (n : Int) :
    (ofInt n).display = (if n < 0 then ['-'] else []) ++ Nat.toDigits 10 n.natAbs := by
  unfold display ofInt
  by_cases h : n < 0 <;> simp [h]

theorem isDigit_of_mem_digits {n : Nat} {c : Char} (h : c ∈ Nat.toDigits 10 n) :
    c.isDigit = true :=
  Nat.isDigit_of_mem_toDigits (by decide) (by decide) h

/-- Only zero itself starts with a zero. -/
theorem digits_eq_of_head? {n : Nat} (h : (Nat.toDigits 10 n).head? = some '0') : n = 0 := by
  induction n using Nat.strongRecOn with
  | ind n ih =>
    by_cases hn : n < 10
    · rw [Nat.toDigits_of_lt_base hn] at h
      have hall : ∀ n < 10, Nat.digitChar n = '0' → n = 0 := by decide
      exact hall n hn (Option.some.inj h)
    · obtain ⟨d, ds, hds⟩ := List.exists_cons_of_ne_nil (Nat.toDigits_ne_nil (n := n / 10) (b := 10))
      rw [Nat.toDigits_of_base_le (by decide) (Nat.le_of_not_lt hn), hds] at h
      have := ih (n / 10) (by omega) (by rw [hds]; exact h)
      omega

/-- The digits of an integer are read as that integer. -/
theorem ofChars?_display_ofInt (n : Int) : ofChars? (ofInt n).display = some (ofInt n) := by
  have hdigits : ∀ c ∈ Nat.toDigits 10 n.natAbs, c.isDigit = true :=
    fun c => isDigit_of_mem_digits
  have hspan : spanDigits (Nat.toDigits 10 n.natAbs) = (Nat.toDigits 10 n.natAbs, []) := by
    rw [spanDigits, List.span_eq_takeWhile_dropWhile, List.takeWhile_eq_self_iff.2 hdigits,
      List.dropWhile_eq_nil_iff.2 hdigits]
  have hidle : (Nat.toDigits 10 n.natAbs).head? = some '0' →
      (Nat.toDigits 10 n.natAbs).length = 1 := by
    intro h
    rw [digits_eq_of_head? h]
    rfl
  rw [display_ofInt]
  unfold ofChars? ofInt
  obtain ⟨d, ds, hds⟩ := List.exists_cons_of_ne_nil (Nat.toDigits_ne_nil (n := n.natAbs) (b := 10))
  rw [hds] at hspan hidle hdigits ⊢
  by_cases hn : n < 0
  · simpa [hn, hspan] using hidle
  · have hminus : d ≠ '-' := by
      rintro rfl
      exact absurd (hdigits '-' List.mem_cons_self) (by decide)
    simpa [hn, hspan, hminus] using hidle

end Numeral

/-- The characters of a number are no others than digits and a minus. -/
theorem mem_display_ofInt {n : Int} {c : Char} (h : c ∈ (Numeral.ofInt n).display) :
    c = '-' ∨ c.isDigit = true := by
  rw [Numeral.display_ofInt, List.mem_append] at h
  rcases h with h | h
  · split_ifs at h with hn
    · exact .inl (List.mem_singleton.1 h)
    · cases h
  · exact .inr (Numeral.isDigit_of_mem_digits h)

/-! ### Tokens -/

mutual

/-- The tokens of a value. -/
def tokens : Json → List Token
  | null => [.null]
  | bool value => [.bool value]
  | number value => [.number value]
  | text value => [.text value]
  | array items => .openArray :: itemTokens items ++ [.closeArray]
  | object fields => .openObject :: fieldTokens fields ++ [.closeObject]

def itemTokens : List Json → List Token
  | [] => []
  | [item] => tokens item
  | item :: rest => tokens item ++ .comma :: itemTokens rest

def fieldTokens : List (Text × Json) → List Token
  | [] => []
  | [(key, value)] => .text key :: .colon :: tokens value
  | (key, value) :: rest => .text key :: .colon :: tokens value ++ .comma :: fieldTokens rest

end

/-- Whether the character is part of the word it stands in. -/
def IsPlain (c : Char) : Prop :=
  Token.isBlank c = false ∧ c ≠ '"' ∧ Token.punctuation? c = none

instance (c : Char) : Decidable (IsPlain c) := inferInstanceAs (Decidable (_ ∧ _ ∧ _))

/-- Whether a word ends in front of the characters. -/
def Ends : List Char → Prop
  | [] => True
  | c :: _ => Token.isBlank c = true ∨ (Token.punctuation? c).isSome

/-- What is a token by itself is neither blank nor a quote. -/
theorem isBlank_of_punctuation? {c : Char} {token : Token} (h : Token.punctuation? c = some token) :
    Token.isBlank c = false ∧ c ≠ '"' := by
  unfold Token.punctuation? at h
  split at h <;> first | decide | cases h

theorem scan_blank {c : Char} (h : Token.isBlank c = true) (rest : List Char) :
    scan .between (c :: rest) = scan .between rest := by
  rw [scan, if_pos h]

theorem scan_punctuation {c : Char} {token : Token} (h : Token.punctuation? c = some token)
    (rest : List Char) :
    scan .between (c :: rest) = (scan .between rest).map (token :: ·) := by
  obtain ⟨hblank, hquote⟩ := isBlank_of_punctuation? h
  rw [scan, hblank, if_neg Bool.false_ne_true, if_neg hquote, h]
  cases scan .between rest <;> rfl

/-- A character in a text, however it is written. -/
theorem scan_escape {raw : List Char} {c : Char} (h : Text.Escape raw c) (read rest : List Char) :
    scan (.text read) (raw ++ rest) = scan (.text (raw.reverse ++ read)) rest := by
  have hbare {c : Char} (h : Text.IsBare c) (read rest : List Char) :
      scan (.text read) (c :: rest) = scan (.text (c :: read)) rest := by
    rw [scan, if_neg h.1, if_neg h.2.1]
  cases h with
  | bare h => exact hbare h read rest
  | letter h =>
    rw [List.cons_append, List.singleton_append, scan, if_neg (by decide), if_pos rfl, scan]
    rfl
  | number h =>
    obtain ⟨ha, hb, hc, hd⟩ := Text.isBare_of_hexUnit? h
    simp only [List.cons_append, List.nil_append]
    rw [scan, if_neg (by decide), if_pos rfl, scan, hbare ha, hbare hb, hbare hc, hbare hd]
    rfl

theorem scan_text (cs : List Char) (read rest : List Char) :
    scan (.text read) (cs.flatMap Text.escaped ++ '"' :: rest) =
      (Token.ofText? (read.reverse ++ cs.flatMap Text.escaped)).bind fun token =>
        (scan .between rest).map (token :: ·) := by
  induction cs generalizing read with
  | nil =>
    rw [List.flatMap_nil, List.nil_append, List.append_nil, scan, if_pos rfl]
    cases Token.ofText? read.reverse <;> cases scan .between rest <;> rfl
  | cons c cs ih =>
    rw [List.flatMap_cons, List.append_assoc, scan_escape (Text.escape_escaped c), ih,
      List.reverse_append, List.reverse_reverse, List.append_assoc]

theorem scan_word {read : List Char} (word : List Char) {chars : List Char}
    (plain : ∀ d ∈ word, IsPlain d) (ends : Ends chars) :
    scan (.word read) (word ++ chars) =
      (Token.ofWord? (read.reverse ++ word)).bind fun token =>
        (scan .between chars).map (token :: ·) := by
  induction word generalizing read with
  | nil =>
    rw [List.nil_append, List.append_nil]
    cases chars with
    | nil =>
      rw [scan, scan]
      cases Token.ofWord? read.reverse <;> rfl
    | cons c chars =>
      rcases ends with hblank | hpunctuation
      · rw [scan_blank hblank, scan, if_pos hblank]
        cases Token.ofWord? read.reverse <;> cases scan .between chars <;> rfl
      · obtain ⟨token, htoken⟩ := Option.isSome_iff_exists.1 hpunctuation
        obtain ⟨hblank, hquote⟩ := isBlank_of_punctuation? htoken
        rw [scan_punctuation htoken, scan, hblank, if_neg Bool.false_ne_true, if_neg hquote, htoken]
        cases Token.ofWord? read.reverse <;> cases scan .between chars <;> rfl
  | cons c word ih =>
    obtain ⟨hblank, hquote, hpunctuation⟩ := plain c List.mem_cons_self
    rw [List.cons_append, scan, hblank, if_neg Bool.false_ne_true, if_neg hquote, hpunctuation]
    dsimp only
    rw [ih fun d hd => plain d (List.mem_cons_of_mem c hd), List.reverse_cons, List.append_assoc,
      List.singleton_append]

/-- The scan takes the characters for the tokens, if what is behind them does not go on with the
last word. -/
def Spells (chars : List Char) (tokens : List Token) : Prop :=
  ∀ behind, Ends behind →
    scan .between (chars ++ behind) = (scan .between behind).map (tokens ++ ·)

section Spells

variable {chars more : List Char} {tokens others : List Token}

theorem spells_nil : Spells [] [] := by
  intro behind _
  rw [List.nil_append]
  cases scan .between behind <;> rfl

theorem Spells.append (h : Spells chars tokens) (h' : Spells more others) (ends : Ends more) :
    Spells (chars ++ more) (tokens ++ others) := by
  intro behind hbehind
  have hends : Ends (more ++ behind) := by
    cases more with
    | nil => exact hbehind
    | cons c more => exact ends
  rw [List.append_assoc, h _ hends, h' behind hbehind, Option.map_map]
  congr 1
  funext rest
  exact (List.append_assoc _ _ _).symm

theorem Spells.blank {c : Char} (h : Token.isBlank c = true) (rest : Spells chars tokens) :
    Spells (c :: chars) tokens := by
  intro behind hbehind
  rw [List.cons_append, scan_blank h, rest behind hbehind]

theorem Spells.blanks {blanks : List Char} (h : ∀ c ∈ blanks, Token.isBlank c = true)
    (rest : Spells chars tokens) : Spells (blanks ++ chars) tokens := by
  induction blanks with
  | nil => exact rest
  | cons c blanks ih =>
    exact .blank (h c List.mem_cons_self) (ih fun d hd => h d (List.mem_cons_of_mem c hd))

theorem Spells.punctuation {c : Char} {token : Token} (h : Token.punctuation? c = some token)
    (rest : Spells chars tokens) : Spells (c :: chars) (token :: tokens) := by
  intro behind hbehind
  rw [List.cons_append, scan_punctuation h, rest behind hbehind, Option.map_map]
  rfl

theorem spells_text (s : String) : Spells (Text.ofString s).display [.text (.ofString s)] := by
  intro behind _
  have hquoted : (Text.ofString s).display ++ behind
      = '"' :: (s.toList.flatMap Text.escaped ++ '"' :: behind) := by
    simp [Text.display, Text.ofString]
  have htoken : Token.ofText? (s.toList.flatMap Text.escaped) = some (.text (.ofString s)) :=
    if_pos (Text.escapesAreWellFormed_flatMap_escaped s.toList)
  rw [hquoted, scan, if_neg (by decide), if_pos rfl, scan_text]
  exact congrArg (Option.bind · _) htoken

theorem spells_word (c : Char) (word : List Char) {token : Token}
    (h : Token.ofWord? (c :: word) = some token) (plain : ∀ d ∈ c :: word, IsPlain d) :
    Spells (c :: word) [token] := by
  intro behind hbehind
  obtain ⟨hblank, hquote, hpunctuation⟩ := plain c List.mem_cons_self
  rw [List.cons_append, scan, hblank, if_neg Bool.false_ne_true, if_neg hquote, hpunctuation]
  dsimp only
  rw [scan_word word (fun d hd => plain d (List.mem_cons_of_mem c hd)) hbehind]
  exact congrArg (Option.bind · _) h

theorem spells_null : Spells ['n', 'u', 'l', 'l'] [.null] := by
  apply spells_word 'n' ['u', 'l', 'l'] rfl
  simp [IsPlain, Token.isBlank, Token.punctuation?]

theorem spells_true : Spells ['t', 'r', 'u', 'e'] [.bool true] := by
  apply spells_word 't' ['r', 'u', 'e'] rfl
  simp [IsPlain, Token.isBlank, Token.punctuation?]

theorem spells_false : Spells ['f', 'a', 'l', 's', 'e'] [.bool false] := by
  apply spells_word 'f' ['a', 'l', 's', 'e'] rfl
  simp [IsPlain, Token.isBlank, Token.punctuation?]

/-- A digit is neither blank nor a token by itself. -/
theorem isPlain_of_isDigit {c : Char} (h : c.isDigit = true) : IsPlain c := by
  refine ⟨?_, ?_, ?_⟩
  · rw [Bool.eq_false_iff]
    intro hblank
    simp only [Token.isBlank, Bool.or_eq_true, decide_eq_true_eq] at hblank
    rcases hblank with ((rfl | rfl) | rfl) | rfl <;> cases h
  · rintro rfl
    cases h
  · unfold Token.punctuation?
    split <;> first | rfl | cases h

theorem spells_number (n : Int) :
    Spells (Numeral.ofInt n).display [.number (.ofInt n)] := by
  have hread := Numeral.ofChars?_display_ofInt n
  have hall : ∀ c ∈ (Numeral.ofInt n).display, c = '-' ∨ c.isDigit = true :=
    fun c => mem_display_ofInt
  obtain ⟨c, word, hword⟩ : ∃ c word, (Numeral.ofInt n).display = c :: word := by
    apply List.exists_cons_of_ne_nil
    intro hnil
    rw [hnil] at hread
    cases hread
  rw [hword] at hread hall ⊢
  -- the words for the other values start with a letter
  have hother {letter : Char} {letters : List Char}
      (hletter : ¬ (letter = '-' ∨ letter.isDigit = true)) : c :: word ≠ letter :: letters := by
    intro heq
    obtain ⟨rfl, -⟩ := List.cons.inj heq
    exact hletter (hall c List.mem_cons_self)
  refine spells_word c word ?_ fun d hd => ?_
  · rw [Token.ofWord?, if_neg, if_neg, if_neg, hread]
    · rfl
    · exact hother (by decide)
    · exact hother (by decide)
    · exact hother (by decide)
  · rcases hall d hd with rfl | hdigit
    · decide
    · exact isPlain_of_isDigit hdigit

end Spells

/-! ### Documents -/

mutual

/-- Whether the numbers in the value are integers and its texts are escaped strings. -/
def IsWritten : Json → Prop
  | null | bool _ => True
  | number value => ∃ n, value = .ofInt n
  | text value => ∃ s, value = .ofString s
  | array items => AreWritten items
  | object fields => FieldsAreWritten fields

def AreWritten : List Json → Prop
  | [] => True
  | item :: rest => IsWritten item ∧ AreWritten rest

def FieldsAreWritten : List (Text × Json) → Prop
  | [] => True
  | (key, value) :: rest => (∃ s, key = .ofString s) ∧ IsWritten value ∧ FieldsAreWritten rest

end

mutual

theorem spells_compactChars {j : Json} (h : j.IsWritten) : Spells j.compactChars j.tokens := by
  cases j with
  | null => exact spells_null
  | bool value =>
    cases value with
    | false => exact spells_false
    | true => exact spells_true
  | number value =>
    obtain ⟨n, rfl⟩ := h
    exact spells_number n
  | text value =>
    obtain ⟨s, rfl⟩ := h
    exact spells_text s
  | array items =>
    exact .punctuation rfl ((spells_compactItems h).append (.punctuation rfl spells_nil) (.inr rfl))
  | object fields =>
    exact .punctuation rfl ((spells_compactFields h).append (.punctuation rfl spells_nil) (.inr rfl))

theorem spells_compactItems {items : List Json} (h : AreWritten items) :
    Spells (compactItems items) (itemTokens items) := by
  match items, h with
  | [], _ => exact spells_nil
  | [item], h => exact spells_compactChars h.1
  | item :: next :: rest, h =>
    exact (spells_compactChars h.1).append (.punctuation rfl (spells_compactItems h.2)) (.inr rfl)

theorem spells_compactFields {fields : List (Text × Json)} (h : FieldsAreWritten fields) :
    Spells (compactFields fields) (fieldTokens fields) := by
  match fields, h with
  | [], _ => exact spells_nil
  | [(key, value)], h =>
    obtain ⟨⟨s, rfl⟩, hvalue, -⟩ := h
    exact (spells_text s).append (.punctuation rfl (spells_compactChars hvalue)) (.inr rfl)
  | (key, value) :: next :: rest, h =>
    obtain ⟨⟨s, rfl⟩, hvalue, hrest⟩ := h
    have hfield : Spells ((Text.ofString s).display ++ ':' :: value.compactChars)
        (.text (.ofString s) :: .colon :: value.tokens) :=
      (spells_text s).append (.punctuation rfl (spells_compactChars hvalue)) (.inr rfl)
    exact hfield.append (.punctuation rfl (spells_compactFields hrest)) (.inr rfl)

end

/-- A line starts with blanks. -/
theorem isBlank_of_mem_newLine {level : Nat} {c : Char} (h : c ∈ newLine level) :
    Token.isBlank c = true := by
  rcases List.mem_cons.1 h with rfl | h
  · rfl
  · rw [List.eq_of_mem_replicate h]
    rfl

theorem Spells.newLine {chars : List Char} {tokens : List Token} (level : Nat)
    (h : Spells chars tokens) : Spells (newLine level ++ chars) tokens :=
  .blanks (fun _ => isBlank_of_mem_newLine) h

theorem spells_prettyField (level : Nat) (s : String) {chars : List Char} {tokens : List Token}
    (h : Spells chars tokens) :
    Spells (newLine level ++ (Text.ofString s).display ++ [':', ' '] ++ chars)
      (.text (.ofString s) :: .colon :: tokens) := by
  have hvalue : Spells ([':', ' '] ++ chars) (.colon :: tokens) := .punctuation rfl (.blank rfl h)
  have hfield := (spells_text s).append hvalue (.inr rfl)
  rw [List.append_assoc, List.append_assoc]
  exact .newLine level hfield

mutual

theorem spells_prettyChars (level : Nat) {j : Json} (h : j.IsWritten) :
    Spells (j.prettyChars level) j.tokens := by
  match j, h with
  | null, _ => exact spells_null
  | bool false, _ => exact spells_false
  | bool true, _ => exact spells_true
  | number value, h =>
    obtain ⟨n, rfl⟩ := h
    exact spells_number n
  | text value, h =>
    obtain ⟨s, rfl⟩ := h
    exact spells_text s
  | array [], _ => exact .punctuation rfl (.punctuation rfl spells_nil)
  | array (item :: rest), h =>
    have hclose : Spells (newLine level ++ [']']) [.closeArray] :=
      .newLine level (.punctuation rfl spells_nil)
    have hitems := (spells_prettyItems (level + 1) h).append hclose (.inl rfl)
    rw [prettyChars, List.cons_append, List.cons_append, List.append_assoc]
    · exact .punctuation rfl hitems
    · exact List.cons_ne_nil item rest
  | object [], _ => exact .punctuation rfl (.punctuation rfl spells_nil)
  | object (field :: rest), h =>
    have hclose : Spells (newLine level ++ ['\x7d']) [.closeObject] :=
      .newLine level (.punctuation rfl spells_nil)
    have hfields := (spells_prettyFields (level + 1) h).append hclose (.inl rfl)
    rw [prettyChars, List.cons_append, List.cons_append, List.append_assoc]
    · exact .punctuation rfl hfields
    · exact List.cons_ne_nil field rest

theorem spells_prettyItems (level : Nat) {items : List Json} (h : AreWritten items) :
    Spells (prettyItems level items) (itemTokens items) := by
  match items, h with
  | [], _ => exact spells_nil
  | [item], h => exact .newLine level (spells_prettyChars level h.1)
  | item :: next :: rest, h =>
    exact (Spells.newLine level (spells_prettyChars level h.1)).append
      (.punctuation rfl (spells_prettyItems level h.2)) (.inr rfl)

theorem spells_prettyFields (level : Nat) {fields : List (Text × Json)}
    (h : FieldsAreWritten fields) : Spells (prettyFields level fields) (fieldTokens fields) := by
  match fields, h with
  | [], _ => exact spells_nil
  | [(key, value)], h =>
    obtain ⟨⟨s, rfl⟩, hvalue, -⟩ := h
    exact spells_prettyField level s (spells_prettyChars level hvalue)
  | (key, value) :: next :: rest, h =>
    obtain ⟨⟨s, rfl⟩, hvalue, hrest⟩ := h
    exact (spells_prettyField level s (spells_prettyChars level hvalue)).append
      (.punctuation rfl (spells_prettyFields level hrest)) (.inr rfl)

end

/-! ### Values from tokens -/

namespace Reading

theorem foldlM_cons {p q : Reading} {token : Token} (h : p.step? token = some q)
    (rest : List Token) : (token :: rest).foldlM step? p = rest.foldlM step? q := by
  rw [List.foldlM_cons, h]
  rfl

end Reading

/-- No value starts with the end of an array. -/
theorem exists_tokens_eq_cons (j : Json) :
    ∃ first rest, j.tokens = first :: rest ∧ first ≠ .closeArray := by
  cases j <;> exact ⟨_, _, rfl, by simp⟩

/-- The first item of an array is read like any other. -/
theorem foldlM_tokens_item (j : Json) (frames : List Frame) (rest : List Token) :
    (j.tokens ++ rest).foldlM Reading.step? ⟨.item, frames⟩ =
      (j.tokens ++ rest).foldlM Reading.step? ⟨.value, frames⟩ := by
  obtain ⟨first, others, htokens, hfirst⟩ := exists_tokens_eq_cons j
  have hstep : Reading.step? ⟨.item, frames⟩ first = Reading.step? ⟨.value, frames⟩ first := by
    cases first with
    | closeArray => exact absurd rfl hfirst
    | _ => cases frames <;> rfl
  rw [htokens, List.cons_append, List.foldlM_cons, hstep]
  rfl

mutual

/-- Where a value may come, its tokens lead behind it. -/
theorem foldlM_tokens (j : Json) (frames : List Frame) (rest : List Token) :
    (j.tokens ++ rest).foldlM Reading.step? ⟨.value, frames⟩ =
      rest.foldlM Reading.step? ⟨.behind j, frames⟩ := by
  match j with
  | null => exact Reading.foldlM_cons rfl rest
  | bool value => exact Reading.foldlM_cons rfl rest
  | number value => exact Reading.foldlM_cons rfl rest
  | text value => exact Reading.foldlM_cons rfl rest
  | array [] => exact (Reading.foldlM_cons rfl _).trans (Reading.foldlM_cons rfl rest)
  | array (item :: items) =>
    have hitems := foldlM_itemTokens (item :: items) (List.cons_ne_nil item items) [] frames rest
    obtain ⟨others, hothers⟩ : ∃ others,
        itemTokens (item :: items) ++ .closeArray :: rest = item.tokens ++ others := by
      cases items with
      | nil => exact ⟨_, rfl⟩
      | cons next items => exact ⟨_, List.append_assoc _ _ _⟩
    rw [tokens, List.cons_append, List.cons_append, List.append_assoc, List.singleton_append,
      Reading.foldlM_cons rfl, hothers, foldlM_tokens_item, ← hothers]
    exact hitems
  | object [] => exact (Reading.foldlM_cons rfl _).trans (Reading.foldlM_cons rfl rest)
  | object (field :: fields) =>
    have hfields :=
      foldlM_fieldTokens (field :: fields) (List.cons_ne_nil field fields) [] frames rest
    rw [tokens, List.cons_append, List.cons_append, List.append_assoc, List.singleton_append,
      Reading.foldlM_cons rfl]
    refine Eq.trans ?_ hfields
    -- the first key is read like any other
    cases fields <;> rfl

theorem foldlM_itemTokens (items : List Json) (h : items ≠ []) (read : List Json)
    (frames : List Frame) (rest : List Token) :
    (itemTokens items ++ .closeArray :: rest).foldlM Reading.step?
        ⟨.value, .array read :: frames⟩ =
      rest.foldlM Reading.step? ⟨.behind (.array (read.reverse ++ items)), frames⟩ := by
  match items, h with
  | [item], _ =>
    rw [itemTokens, foldlM_tokens item]
    refine (Reading.foldlM_cons rfl rest).trans ?_
    rw [List.reverse_cons]
  | item :: next :: items, _ =>
    have hnext := List.cons_ne_nil next items
    rw [itemTokens, List.append_assoc, foldlM_tokens item, List.cons_append,
      Reading.foldlM_cons rfl, foldlM_itemTokens (next :: items) hnext, List.reverse_cons,
      List.append_assoc, List.singleton_append]
    exact hnext

theorem foldlM_fieldTokens (fields : List (Text × Json)) (h : fields ≠ [])
    (read : List (Text × Json)) (frames : List Frame) (rest : List Token) :
    (fieldTokens fields ++ .closeObject :: rest).foldlM Reading.step? ⟨.key read, frames⟩ =
      rest.foldlM Reading.step? ⟨.behind (.object (read.reverse ++ fields)), frames⟩ := by
  match fields, h with
  | [(key, value)], _ =>
    rw [fieldTokens, List.cons_append, List.cons_append, Reading.foldlM_cons rfl,
      Reading.foldlM_cons rfl, foldlM_tokens value]
    refine (Reading.foldlM_cons rfl rest).trans ?_
    rw [List.reverse_cons]
  | (key, value) :: next :: fields, _ =>
    have hnext := List.cons_ne_nil next fields
    rw [fieldTokens, List.append_assoc, List.cons_append, List.cons_append,
      Reading.foldlM_cons rfl, Reading.foldlM_cons rfl, foldlM_tokens value, List.cons_append,
      Reading.foldlM_cons rfl, foldlM_fieldTokens (next :: fields) hnext, List.reverse_cons,
      List.append_assoc, List.singleton_append]
    exact hnext

end

/-- The tokens of a value spell it. -/
theorem ofTokens?_tokens (j : Json) : ofTokens? j.tokens = some j := by
  have hfold := foldlM_tokens j [] []
  rw [List.append_nil] at hfold
  rw [ofTokens?, hfold]
  rfl

theorem parse?_of_spells {chars : List Char} {j : Json} (h : Spells chars j.tokens) :
    parse? (String.ofList chars) = some j := by
  have hscan := h [] trivial
  rw [List.append_nil] at hscan
  have htokens : tokenize? (String.ofList chars) = some j.tokens := by
    rw [tokenize?, String.toList_ofList, hscan, scan, Option.map_some, List.append_nil]
  rw [parse?, htokens]
  exact ofTokens?_tokens j

theorem parse?_compact {j : Json} (h : j.IsWritten) : parse? j.compact = some j :=
  parse?_of_spells (spells_compactChars h)

theorem parse?_pretty {j : Json} (h : j.IsWritten) : parse? j.pretty = some j :=
  parse?_of_spells (spells_prettyChars 0 h)

/-! ### Nesting -/

mutual

/-- How many arrays and objects lie inside each other. -/
def depth : Json → Nat
  | null | bool _ | number _ | text _ => 0
  | array items => depthOf items + 1
  | object fields => fieldDepth fields + 1

def depthOf : List Json → Nat
  | [] => 0
  | item :: rest => max item.depth (depthOf rest)

def fieldDepth : List (Text × Json) → Nat
  | [] => 0
  | (_, value) :: rest => max value.depth (fieldDepth rest)

end

end OpenSound.Json
