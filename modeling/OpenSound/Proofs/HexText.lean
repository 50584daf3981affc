import OpenSound.Proofs.Layout
import OpenSound.Text.HexBytes

/-!
# Hexadecimal text

Bytes are spelled by two digits each, of either case (`SpellsBytes`).  A text may respace such
digits: put blanks anywhere between them and around them, and the mark `0x` in front (`Respaces`).
However it does so, the bytes are read from it (`readHex_of_respaces`).
-/

namespace OpenSound

/-! ### Characters of ASCII -/

theorem Bytes.ofText_of_ascii {cs : List Char} (h : ∀ c ∈ cs, c.toNat < 128) :
    ofText (String.ofList cs) = cs.map Char.toUInt8 := by
  induction cs with
  | nil => rfl
  | cons c cs ih =>
    rw [ofText_ofList_cons, utf8EncodeChar_of_lt (h c List.mem_cons_self),
      ih fun d hd => h d (List.mem_cons_of_mem c hd)]
    rfl

namespace Text

/-! ### Blanks -/

theorem filter_dropWhile_isBlank (text : List Char) :
    (text.dropWhile isBlank).filter (!isBlank ·) = text.filter (!isBlank ·) := by
  induction text with
  | nil => rfl
  | cons c text ih =>
    by_cases hc : isBlank c = true
    · rw [List.dropWhile_cons_of_pos hc, ih, List.filter_cons_of_neg (by simp [hc])]
    · rw [List.dropWhile_cons_of_neg hc]

/-- Nothing but blanks is cut off at the end. -/
theorem filter_reverse_dropWhile_isBlank (text : List Char) :
    (text.reverse.dropWhile isBlank).reverse.filter (!isBlank ·) = text.filter (!isBlank ·) := by
  rw [List.filter_reverse, filter_dropWhile_isBlank, List.filter_reverse, List.reverse_reverse]

theorem filter_trim (text : List Char) :
    (trim text).filter (!isBlank ·) = text.filter (!isBlank ·) := by
  rw [trim, filter_reverse_dropWhile_isBlank, filter_dropWhile_isBlank]

/-- What is cut off at the end does not reach beyond a character that is not blank. -/
theorem reverse_dropWhile_append (front back : List Char) {c : Char} (h : isBlank c = false) :
    ((front ++ c :: back).reverse.dropWhile isBlank).reverse =
      front ++ c :: (back.reverse.dropWhile isBlank).reverse := by
  rw [List.reverse_append, List.reverse_cons, List.append_assoc, List.dropWhile_append]
  by_cases hback : back.reverse.dropWhile isBlank = []
  · simp [hback, h]
  · simp [hback]

/-! ### Digits -/

/-- The digits spell the bytes, two digits of either case for each. -/
inductive SpellsBytes : Bytes → List Char → Prop
  | nil : SpellsBytes [] []
  | cons {b : UInt8} {data : Bytes} {high low : Char} {digits : List Char}
    (hhigh : hexValue? high = some (b.toNat / 16)) (hlow : hexValue? low = some (b.toNat % 16))
    (rest : SpellsBytes data digits) : SpellsBytes (b :: data) (high :: low :: digits)

theorem spellsBytes_hexOfBytes (data : Bytes) : SpellsBytes data (hexOfBytes data) := by
  induction data with
  | nil => exact .nil
  | cons b data ih =>
    have hb := b.toNat_lt
    exact .cons (hexValue?_hexDigit (by omega)) (hexValue?_hexDigit (by omega)) ih

theorem isBlank_of_hexValue? {c : Char} {n : Nat} (h : hexValue? c = some n) :
    isBlank c = false := by
  have hrange := toNat_of_hexValue? h
  rw [Bool.eq_false_iff]
  intro hblank
  simp only [isBlank, Ranges.contains_iff, blankRanges, List.mem_cons, List.not_mem_nil, or_false,
    exists_eq_or_imp, exists_eq_left] at hblank
  omega

namespace SpellsBytes

variable {data : Bytes} {digits : List Char} (h : SpellsBytes data digits)

include h

theorem hexValue?_isSome : ∀ c ∈ digits, (hexValue? c).isSome = true := by
  induction h with
  | nil => simp
  | cons hhigh hlow rest ih => simpa [hhigh, hlow] using ih

theorem filter_eq : digits.filter (!isBlank ·) = digits := by
  rw [List.filter_eq_self]
  intro c hc
  obtain ⟨n, hn⟩ := Option.isSome_iff_exists.1 (h.hexValue?_isSome c hc)
  rw [isBlank_of_hexValue? hn]
  rfl

theorem mark_not_mem : 'x' ∉ digits := by
  intro hmem
  cases h.hexValue?_isSome 'x' hmem

theorem toNat_lt : ∀ c ∈ digits, c.toNat < 128 := by
  intro c hc
  obtain ⟨n, hn⟩ := Option.isSome_iff_exists.1 (h.hexValue?_isSome c hc)
  have hrange := toNat_of_hexValue? hn
  omega

theorem length_eq : digits.length = 2 * data.length := by
  induction h with
  | nil => rfl
  | cons hhigh hlow rest ih =>
    simp only [List.length_cons]
    omega

end SpellsBytes

theorem readHexDigit_of_hexValue? {c : Char} {n : Nat} (h : hexValue? c = some n) (position : Nat) :
    readHexDigit position c.toUInt8 = .ok n := by
  have hrange := toNat_of_hexValue? h
  rw [readHexDigit, Bytes.toNat_toUInt8_of_lt (by omega), Char.ofNat_toNat, h]

theorem readHexPairs_of_spellsBytes {data : Bytes} {digits : List Char}
    (h : SpellsBytes data digits) (position : Nat) :
    readHexPairs position (digits.map Char.toUInt8) = .ok data := by
  induction h generalizing position with
  | nil => rfl
  | @cons b data high low digits hhigh hlow rest ih =>
    have hbyte : UInt8.ofNat (b.toNat / 16 * 16 + b.toNat % 16) = b := by
      rw [Nat.div_add_mod']
      exact UInt8.ofNat_toNat
    rw [List.map_cons, List.map_cons, readHexPairs, readHexDigit_of_hexValue? hhigh,
      readHexDigit_of_hexValue? hlow, ih]
    exact congrArg (fun b => Except.ok (b :: data)) hbyte

/-! ### Blanks among digits -/

/-- The second text has the same characters as the first one, but for the blanks, and perhaps the
mark `0x` in front. -/
inductive Respaces (digits : List Char) : List Char → Prop
  | bare {text : List Char} (same : text.filter (!isBlank ·) = digits.filter (!isBlank ·)) :
    Respaces digits text
  | marked {lead text : List Char} (blank : ∀ c ∈ lead, isBlank c = true)
    (same : text.filter (!isBlank ·) = digits.filter (!isBlank ·)) :
    Respaces digits (lead ++ '0' :: 'x' :: text)

/-- Blanks in what is respaced play no part. -/
theorem Respaces.of_filter_eq {digits others text : List Char} (h : Respaces digits text)
    (same : digits.filter (!isBlank ·) = others.filter (!isBlank ·)) : Respaces others text := by
  cases h with
  | bare h => exact .bare (h.trans same)
  | marked blank h => exact .marked blank (h.trans same)

theorem dropHexMarks_of_not_mem {text : List Char} (h : 'x' ∉ text) : dropHexMarks text = text := by
  unfold dropHexMarks
  split
  · simp at h
  · rfl

theorem bareHexDigits_of_respaces {digits text : List Char} (hmark : 'x' ∉ digits)
    (h : Respaces digits text) : bareHexDigits text = digits.filter (!isBlank ·) := by
  have hnot {text : List Char} (same : text.filter (!isBlank ·) = digits.filter (!isBlank ·)) :
      'x' ∉ text := by
    intro hmem
    have hkept : 'x' ∈ text.filter (!isBlank ·) := List.mem_filter.2 ⟨hmem, by decide⟩
    rw [same] at hkept
    exact hmark (List.mem_filter.1 hkept).1
  unfold bareHexDigits
  cases h with
  | bare same =>
    have hsame : (trim text).filter (!isBlank ·) = digits.filter (!isBlank ·) := by
      rw [filter_trim, same]
    rw [dropHexMarks_of_not_mem (hnot hsame), hsame]
  | @marked lead text blank same =>
    have htrim : trim (lead ++ '0' :: 'x' :: text) =
        '0' :: 'x' :: (text.reverse.dropWhile isBlank).reverse := by
      rw [trim, List.dropWhile_append_of_pos blank, List.dropWhile_cons_of_neg (by decide)]
      exact reverse_dropWhile_append ['0'] text (by decide)
    have hsame : (text.reverse.dropWhile isBlank).reverse.filter (!isBlank ·) =
        digits.filter (!isBlank ·) := by
      rw [filter_reverse_dropWhile_isBlank, same]
    rw [htrim, dropHexMarks, dropHexMarks_of_not_mem (hnot hsame), hsame]

/-- The bytes are read from their digits, however these are respaced. -/
theorem readHex_of_respaces {data : Bytes} {digits : List Char} {text : String}
    (hdigits : SpellsBytes data digits) (h : Respaces digits text.toList) :
    readHex text = .ok data := by
  have hbare : bareHexDigits text.toList = digits := by
    rw [bareHexDigits_of_respaces hdigits.mark_not_mem h, hdigits.filter_eq]
  have heven : (digits.map Char.toUInt8).length % 2 = 0 := by
    rw [List.length_map, hdigits.length_eq, Nat.mul_mod_right]
  unfold readHex
  dsimp only
  rw [hbare, Bytes.ofText_of_ascii hdigits.toNat_lt, if_pos heven,
    readHexPairs_of_spellsBytes hdigits]
  rfl

end Text

end OpenSound
