import OpenSound.Proofs.Glob
import OpenSound.Proofs.Path

/-!
# Addresses as patterns

An address is valid when it starts with a slash and every segment of it is a text of its own,
without a reserved character (`Address.isValid_iff_forall_segment`).  The signs of patterns are
reserved, and a pattern without signs and without wildcards stands for the paths with its own parts.
So a valid address stands for itself, written with or without one slash at its end
(`AddressPattern.valid_addresses_literal`).

What stands behind the slash in front of an address is taken apart one segment at a time
(`Address.segment_induction`).
-/

namespace OpenSound

namespace Address

/-! ### One segment at a time -/

/-- A text is empty, or a single segment, or a segment in front of a slash and a text behind it. -/
theorem segment_induction {P : List Char → Prop} (root : P [])
    (single : ∀ segment, segment ≠ [] → '/' ∉ segment → P segment)
    (onward : ∀ segment rest, '/' ∉ segment → P rest → P (segment ++ '/' :: rest))
    (path : List Char) : P path := by
  induction hlength : path.length using Nat.strongRecOn generalizing path with
  | ind n ih =>
    by_cases hslash : '/' ∈ path
    · obtain ⟨segment, rest, rfl, hsegment⟩ := List.eq_append_cons_of_mem hslash
      refine onward segment rest hsegment (ih rest.length ?_ rest rfl)
      rw [← hlength, List.length_append, List.length_cons]
      omega
    · by_cases hnil : path = []
      · subst hnil
        exact root
      · exact single path hnil hslash

theorem splitParts_root : splitParts ['/'] = [] := by decide

section Segment

variable {segment : List Char} (hsegment : '/' ∉ segment)
include hsegment

theorem partsBefore_slash : partsBefore ('/' :: segment) = [segment] := by
  have hhead : ('/' :: segment ++ ['/']).head? = some '/' := rfl
  unfold partsBefore
  rw [if_pos hhead, pieces_slash]
  exact List.splitOn_eq_singleton hsegment

theorem splitParts_single (hne : segment ≠ []) : splitParts ('/' :: segment) = [segment] := by
  have hlast : ('/' :: segment).getLast? ≠ some '/' := by
    rw [List.getLast?_cons_of_ne_nil hne]
    exact fun hlast => hsegment (List.mem_of_getLast? hlast)
  rw [splitParts_of_getLast? (List.cons_ne_nil _ _) hlast, partsBefore_slash hsegment]

theorem splitParts_onward (rest : List Char) :
    splitParts ('/' :: (segment ++ '/' :: rest)) = segment :: splitParts ('/' :: rest) := by
  have hbehind : splitParts ('/' :: rest) = partsBehind rest := splitParts_append [] rest
  rw [hbehind, ← List.cons_append, splitParts_append, partsBefore_slash hsegment]
  rfl

end Segment

/-- The characters of the segments are those of the path other than slashes. -/
theorem mem_slash_iff {c : Char} {path : List Char} (hc : c ≠ '/') :
    c ∈ '/' :: path ↔ ∃ segment ∈ splitParts ('/' :: path), c ∈ segment := by
  rw [List.mem_cons, or_iff_right hc]
  induction path using segment_induction with
  | root => simp [splitParts_root]
  | single segment hne hsegment => simp [splitParts_single hsegment hne]
  | onward segment rest hsegment ih =>
    rw [splitParts_onward hsegment, List.mem_append, List.mem_cons, or_iff_right hc, ih]
    simp

/-! ### Slashes in a row -/

theorem hasDoubleSlash_cons_of_ne {c : Char} {path : List Char} (hc : c ≠ '/') :
    hasDoubleSlash (c :: path) = hasDoubleSlash path := by
  rw [hasDoubleSlash]
  rintro _ rfl
  exact absurd rfl hc

theorem hasDoubleSlash_append {segment path : List Char} (hsegment : '/' ∉ segment) :
    hasDoubleSlash (segment ++ path) = hasDoubleSlash path := by
  induction segment with
  | nil => rfl
  | cons c segment ih =>
    rw [List.mem_cons, not_or] at hsegment
    rw [List.cons_append, hasDoubleSlash_cons_of_ne (Ne.symm hsegment.1), ih hsegment.2]

theorem hasDoubleSlash_slash_append {segment path : List Char} (hsegment : '/' ∉ segment)
    (hne : segment ≠ []) : hasDoubleSlash ('/' :: (segment ++ path)) = hasDoubleSlash path := by
  obtain ⟨c, segment, rfl⟩ := List.exists_cons_of_ne_nil hne
  rw [List.cons_append, hasDoubleSlash, ← List.cons_append, hasDoubleSlash_append hsegment]
  rintro _ - heq
  exact hsegment (List.mem_cons.2 (.inl (List.cons.inj heq).1.symm))

/-- Two slashes in a row leave an empty segment between them. -/
theorem hasDoubleSlash_iff_nil_mem (path : List Char) :
    hasDoubleSlash ('/' :: path) = true ↔ [] ∈ splitParts ('/' :: path) := by
  induction path using segment_induction with
  | root => decide
  | single segment hne hsegment =>
    have hslash := @hasDoubleSlash_slash_append segment [] hsegment hne
    rw [List.append_nil] at hslash
    rw [hslash, splitParts_single hsegment hne, List.mem_singleton]
    exact iff_of_false Bool.false_ne_true (Ne.symm hne)
  | onward segment rest hsegment ih =>
    rw [splitParts_onward hsegment, List.mem_cons, ← ih]
    by_cases hnil : segment = []
    · subst hnil
      exact iff_of_true rfl (.inl rfl)
    · rw [hasDoubleSlash_slash_append hsegment hnil, or_iff_right (Ne.symm hnil)]

theorem hasDoubleSlash_append_slashes (front : List Char) :
    hasDoubleSlash (front ++ ['/', '/']) = true := by
  induction front with
  | nil => rfl
  | cons c front ih =>
    rw [List.cons_append]
    unfold hasDoubleSlash
    split
    · rfl
    next heq =>
      cases heq
      exact ih
    next heq => cases heq

/-! ### Valid addresses -/

/-- No character of a set stands in a path exactly if none stands in a segment, when slashes are not
in the set. -/
theorem forall_not_mem_iff {set path : List Char} (hset : '/' ∉ set) :
    (∀ c ∈ '/' :: path, c ∉ set) ↔ ∀ segment ∈ splitParts ('/' :: path), ∀ c ∈ segment, c ∉ set := by
  constructor
  · intro h segment hsegment c hc hmem
    exact h c ((mem_slash_iff (ne_of_mem_of_not_mem hmem hset)).2 ⟨segment, hsegment, hc⟩) hmem
  · intro h c hc hmem
    obtain ⟨segment, hsegment, hc⟩ := (mem_slash_iff (ne_of_mem_of_not_mem hmem hset)).1 hc
    exact h segment hsegment c hc hmem

/-- An address is valid when it starts with a slash, no segment of it is empty and none has a
reserved character. -/
theorem isValid_iff_forall_segment {a : String} :
    isValid a = true ↔ a.toList.head? = some '/' ∧
      ∀ segment ∈ splitParts a.toList, segment ≠ [] ∧ ∀ c ∈ segment, c ∉ reserved := by
  unfold isValid
  dsimp only
  rw [Bool.and_eq_true, Bool.and_eq_true, decide_eq_true_eq, and_assoc]
  refine and_congr_right fun hhead => ?_
  obtain ⟨path, hpath⟩ := List.head?_eq_some_iff.1 hhead
  rw [hpath, Bool.not_eq_true', ← Bool.not_eq_true, hasDoubleSlash_iff_nil_mem, ← List.forall_mem_ne']
  have hchars : (!('/' :: path).any (reserved.contains ·)) = true ↔
      ∀ c ∈ '/' :: path, c ∉ reserved := by
    simp only [Bool.not_eq_true', List.any_eq_false, List.contains_iff_mem]
  rw [hchars, forall_not_mem_iff (by decide)]
  constructor
  · rintro ⟨hne, h⟩ segment hsegment
    exact ⟨hne segment hsegment, h segment hsegment⟩
  · intro h
    exact ⟨fun segment hsegment => (h segment hsegment).1, fun segment hsegment =>
      (h segment hsegment).2⟩

/-- The path with a slash in front of each of the segments. -/
def spelled (segments : List (List Char)) : List Char := segments.flatMap ('/' :: ·)

/-- A path is spelled by its segments, with or without one more slash at the end. -/
theorem eq_spelled_splitParts (path : List Char) :
    '/' :: path = spelled (splitParts ('/' :: path)) ∨
      '/' :: path = spelled (splitParts ('/' :: path)) ++ ['/'] := by
  induction path using segment_induction with
  | root => exact .inr (by rw [splitParts_root]; rfl)
  | single segment hne hsegment =>
    refine .inl ?_
    rw [splitParts_single hsegment hne, spelled, List.flatMap_singleton]
  | onward segment rest hsegment ih =>
    rw [splitParts_onward hsegment, spelled, List.flatMap_cons]
    refine ih.imp (fun h => ?_) fun h => ?_
    · conv_lhs => rw [h]
      rfl
    · conv_lhs => rw [h]
      rw [List.append_assoc]
      rfl

/-- Paths with the same segments are the same up to one slash at the end. -/
theorem eq_or_eq_append_slash {path other : List Char}
    (h : splitParts ('/' :: path) = splitParts ('/' :: other)) :
    '/' :: path = '/' :: other ∨ '/' :: other = '/' :: path ++ ['/'] ∨
      '/' :: path = '/' :: other ++ ['/'] := by
  rcases eq_spelled_splitParts path with hpath | hpath <;>
    rcases eq_spelled_splitParts other with hother | hother <;> rw [← h] at hother
  · exact .inl (hpath.trans hother.symm)
  · exact .inr (.inl (hother.trans (congrArg (· ++ ['/']) hpath.symm)))
  · exact .inr (.inr (hpath.trans (congrArg (· ++ ['/']) hother.symm)))
  · exact .inl (hpath.trans hother.symm)

/-- Two addresses that are one and the same up to one slash at the end.  The root is nothing but
itself. -/
def SameAddress (a b : String) : Prop :=
  a = b ∨ a ≠ "/" ∧ b ≠ "/" ∧ (b = a ++ "/" ∨ a = b ++ "/")

instance (a b : String) : Decidable (SameAddress a b) := inferInstanceAs (Decidable (_ ∨ _))

section Same

variable {a b : String}

theorem SameAddress.symm (h : SameAddress a b) : SameAddress b a :=
  h.imp Eq.symm fun ⟨ha, hb, hslash⟩ => ⟨hb, ha, hslash.symm⟩

theorem exists_slash_of_isValid (h : isValid a = true) : ∃ path, a.toList = '/' :: path :=
  List.head?_eq_some_iff.1 (isValid_iff_forall_segment.1 h).1

theorem toList_append_slash (a : String) : (a ++ "/").toList = a.toList ++ ['/'] :=
  String.toList_append

/-- A valid address with one more slash at its end has the same segments if it is valid too. -/
theorem splitParts_append_slash_of_isValid (ha : isValid a = true) (h : isValid (a ++ "/") = true) :
    splitParts (a ++ "/").toList = splitParts a.toList := by
  obtain ⟨path, hpath⟩ := exists_slash_of_isValid ha
  have hlast : a.toList.getLast? ≠ some '/' := by
    intro hlast
    obtain ⟨front, hfront⟩ := List.getLast?_eq_some_iff.1 hlast
    have hdouble := hasDoubleSlash_append_slashes front
    unfold isValid at h
    rw [toList_append_slash, hfront, List.append_assoc] at h
    simp [hdouble] at h
  have hne : a.toList ≠ [] := by
    rw [hpath]
    exact List.cons_ne_nil _ _
  rw [toList_append_slash, splitParts_append_slash, splitParts_of_getLast? hne hlast]

theorem sameAddress_append_slash (ha : isValid a = true) (h : isValid (a ++ "/") = true) :
    SameAddress a (a ++ "/") := by
  refine .inr ⟨?_, ?_, .inl rfl⟩
  · rintro rfl
    exact absurd h (by decide)
  · intro hroot
    obtain ⟨path, hpath⟩ := exists_slash_of_isValid ha
    have hlength := congrArg (fun s : String => s.toList.length) hroot
    simp [hpath] at hlength

/-- Valid addresses have the same segments exactly if they are the same up to one slash at the
end. -/
theorem splitParts_eq_iff_sameAddress (ha : isValid a = true) (hb : isValid b = true) :
    splitParts a.toList = splitParts b.toList ↔ SameAddress a b := by
  constructor
  · intro h
    obtain ⟨path, hpath⟩ := exists_slash_of_isValid ha
    obtain ⟨other, hother⟩ := exists_slash_of_isValid hb
    rw [hpath, hother] at h
    have hslash := eq_or_eq_append_slash h
    simp only [← hpath, ← hother, ← toList_append_slash, String.toList_inj] at hslash
    obtain rfl | rfl | rfl := hslash
    · exact .inl rfl
    · exact sameAddress_append_slash ha hb
    · exact (sameAddress_append_slash hb ha).symm
  · rintro (rfl | ⟨-, -, rfl | rfl⟩)
    · rfl
    · exact (splitParts_append_slash_of_isValid ha hb).symm
    · exact splitParts_append_slash_of_isValid hb ha

end Same

end Address

namespace Address.Glob

/-- A pattern without signs stands for itself. -/
theorem isMatch_eq_true_iff_eq {part text : List Char} (hpart : ∀ c ∈ part, c ∉ signs) :
    isMatch part text = true ↔ part = text := by
  induction part generalizing text with
  | nil => rw [isMatch, List.isEmpty_iff, eq_comm]
  | cons c part ih =>
    rw [List.forall_mem_cons] at hpart
    rw [isMatch_literal_iff hpart.1]
    constructor
    · rintro ⟨text, rfl, h⟩
      rw [(ih hpart.2).1 h]
    · rintro rfl
      exact ⟨part, rfl, (ih hpart.2).2 rfl⟩

end Address.Glob

namespace AddressPattern

open Address (splitParts SameAddress)

/-- A part that is not empty and has no sign. -/
def IsLiteral (part : List Char) : Prop := part ≠ [] ∧ ∀ c ∈ part, c ∉ Address.Glob.signs

theorem hasSign_eq_false_iff {part : List Char} :
    hasSign part = false ↔ ∀ c ∈ part, c ∉ Address.Glob.signs := by
  simp [hasSign, Address.Glob.signs, and_assoc]

theorem isPattern_eq_false_iff {p : AddressPattern} :
    p.isPattern = false ↔ ∀ part ∈ p.parts, IsLiteral part := by
  simp only [isPattern, List.any_eq_false, Bool.not_eq_true, Bool.or_eq_false_iff,
    hasSign_eq_false_iff, List.isEmpty_eq_false_iff, IsLiteral]

/-- Literal parts stand for themselves and nothing else. -/
theorem follows_iff_eq {parts path : List (List Char)} (hparts : ∀ part ∈ parts, IsLiteral part) :
    Follows parts path ↔ parts = path := by
  induction parts generalizing path with
  | nil => rw [Follows, eq_comm]
  | cons part parts ih =>
    rw [List.forall_mem_cons] at hparts
    obtain ⟨⟨hne, hsigns⟩, hparts⟩ := hparts
    simp only [follows_part_iff hne, Address.Glob.isMatch_eq_true_iff_eq hsigns, ih hparts]
    constructor
    · rintro ⟨segment, rest, rfl, rfl, rfl⟩
      rfl
    · rintro rfl
      exact ⟨part, parts, rfl, rfl, rfl⟩

theorem isMatch_iff_splitParts_eq {p : AddressPattern} (hp : p.isPattern = false) (b : String) :
    p.isMatch b = true ↔ splitParts p.source.toList = splitParts b.toList := by
  rw [isMatch_eq_true_iff_follows, follows_iff_eq (isPattern_eq_false_iff.1 hp)]
  rfl

theorem isPattern_of_isValid {a : String} (ha : Address.isValid a = true) :
    (⟨a⟩ : AddressPattern).isPattern = false := by
  rw [isPattern_eq_false_iff]
  intro part hpart
  obtain ⟨hne, hreserved⟩ := (Address.isValid_iff_forall_segment.1 ha).2 part hpart
  have hsigns : Address.Glob.signs ⊆ Address.reserved := by decide
  exact ⟨hne, fun c hc hsign => hreserved c hc (hsigns hsign)⟩

/-- An address is valid if it starts with a slash and has neither an empty segment nor a reserved
character in one.  A pattern that is none matches the addresses with its own segments.  So a valid
address is no pattern, matches itself, and of the other valid addresses the one that differs from it
by one slash at the end. -/
theorem valid_addresses_literal :
    (∀ a : String, Address.isValid a = true ↔
      a.toList.head? = some '/' ∧
        ∀ segment ∈ splitParts a.toList, segment ≠ [] ∧ ∀ c ∈ segment, c ∉ Address.reserved) ∧
    (∀ p : AddressPattern, p.isPattern = false → ∀ b,
      p.isMatch b = true ↔ splitParts p.source.toList = splitParts b.toList) ∧
    ∀ a, Address.isValid a = true →
      (⟨a⟩ : AddressPattern).isPattern = false ∧ (⟨a⟩ : AddressPattern).isMatch a = true ∧
        ∀ b, Address.isValid b = true →
          ((⟨a⟩ : AddressPattern).isMatch b = true ↔ SameAddress a b) := by
  refine ⟨fun a => Address.isValid_iff_forall_segment, fun p hp b => isMatch_iff_splitParts_eq hp b,
    fun a ha => ?_⟩
  have hp := isPattern_of_isValid ha
  refine ⟨hp, (isMatch_iff_splitParts_eq hp a).2 rfl, fun b hb => ?_⟩
  rw [isMatch_iff_splitParts_eq hp]
  exact Address.splitParts_eq_iff_sameAddress ha hb

/-- A closing bracket in a pattern is no sign, and one without a slash in front stands for addresses
all the same.  An address stands for itself with a slash behind it, and not for the root. -/
theorem valid_addresses_literal_fader :
    (⟨"mixer/a]b/"⟩ : AddressPattern).isPattern = false ∧
      (⟨"mixer/a]b/"⟩ : AddressPattern).isMatch "/mixer/a]b" = true ∧
      Address.isValid "/fader" = true ∧ Address.isValid "/fader/" = true ∧
      Address.isValid "/" = true ∧ (⟨"/fader"⟩ : AddressPattern).isPattern = false ∧
      (⟨"/fader"⟩ : AddressPattern).isMatch "/fader/" = true ∧
      (⟨"/fader"⟩ : AddressPattern).isMatch "/" ≠ true := by
  obtain ⟨-, hliteral, haddress⟩ := valid_addresses_literal
  have hpattern : (⟨"mixer/a]b/"⟩ : AddressPattern).isPattern = false := by decide
  have hfader : Address.isValid "/fader" = true := by decide
  have hbehind : Address.isValid "/fader/" = true := by decide
  have hroot : Address.isValid "/" = true := by decide
  obtain ⟨hnone, -, hmatch⟩ := haddress _ hfader
  refine ⟨hpattern, (hliteral _ hpattern _).2 (by decide), hfader, hbehind, hroot, hnone,
    (hmatch _ hbehind).2 (by decide), ?_⟩
  rw [ne_eq, hmatch _ hroot]
  decide

end AddressPattern

end OpenSound
