import Mathlib.Tactic.Common
import Mathlib.Data.List.Basic
import OpenSound.Address.Pattern
import OpenSound.Proofs.Search

/-!
# What a path of patterns stands for

`AddressPattern.Follows` says which paths of segments the parts of a pattern stand for, without a
search: an empty part lets any number of segments pass, and any other part takes one segment.
`AddressPattern.matchPath` backtracks only as far as it must, which `matchPath_eq_true_iff_follows`
shows to be enough.  `Address.splitParts_append` takes a pattern apart at one of its slashes.
-/

namespace OpenSound

namespace Address

/-! ### Taking a path apart at a slash -/

/-- The parts of what stands in front of a slash. -/
def partsBefore (path : List Char) : List (List Char) :=
  if (path ++ ['/']).head? = some '/' then (pieces '/' path).drop 1 else pieces '/' path

/-- The parts of what stands behind a slash. -/
def partsBehind (path : List Char) : List (List Char) :=
  if ('/' :: path).getLast? = some '/' then (pieces '/' path).dropLast else pieces '/' path

theorem pieces_ne_nil (path : List Char) : pieces '/' path ≠ [] := List.splitOn_ne_nil _ _

theorem pieces_append_slash (front back : List Char) :
    pieces '/' (front ++ '/' :: back) = pieces '/' front ++ pieces '/' back :=
  List.splitOn_append_cons_self _ _

theorem pieces_slash (path : List Char) : pieces '/' ('/' :: path) = [] :: pieces '/' path :=
  pieces_append_slash [] path

theorem splitParts_append (front back : List Char) :
    splitParts (front ++ '/' :: back) = partsBefore front ++ partsBehind back := by
  have hhead : (front ++ '/' :: back).head? = (front ++ ['/']).head? := by
    cases front <;> rfl
  have hlast : (front ++ '/' :: back).getLast? = ('/' :: back).getLast? :=
    List.getLast?_append_of_ne_nil _ (List.cons_ne_nil _ _)
  have hdrop : (pieces '/' front ++ pieces '/' back).drop 1 =
      (pieces '/' front).drop 1 ++ pieces '/' back :=
    List.drop_append_of_le_length (List.length_pos_iff.2 (pieces_ne_nil front))
  unfold splitParts partsBefore partsBehind
  dsimp only
  rw [hhead, hlast, pieces_append_slash]
  split_ifs
  · rw [hdrop, List.dropLast_append_of_ne_nil (pieces_ne_nil back)]
  · rw [List.dropLast_append_of_ne_nil (pieces_ne_nil back)]
  · rw [hdrop]
  · rfl

theorem partsBehind_slash (path : List Char) :
    partsBehind ('/' :: path) = [] :: partsBehind path := by
  have hlast : ('/' :: '/' :: path).getLast? = ('/' :: path).getLast? := by
    rw [List.getLast?_cons_cons]
  unfold partsBehind
  rw [hlast, pieces_slash]
  split_ifs
  · rw [List.dropLast_cons_of_ne_nil (pieces_ne_nil path)]
  · rfl

theorem partsBehind_nil : partsBehind [] = [] := by decide

theorem partsBefore_append_slash (path : List Char) :
    partsBefore (path ++ ['/']) = partsBefore path ++ [[]] := by
  have hhead : (path ++ ['/'] ++ ['/']).head? = (path ++ ['/']).head? := by
    cases path <;> rfl
  have hpieces : pieces '/' (path ++ ['/']) = pieces '/' path ++ [[]] :=
    pieces_append_slash path []
  unfold partsBefore
  rw [hhead, hpieces]
  split_ifs
  · exact List.drop_append_of_le_length (List.length_pos_iff.2 (pieces_ne_nil path))
  · rfl

theorem splitParts_append_slash (path : List Char) :
    splitParts (path ++ ['/']) = partsBefore path := by
  rw [splitParts_append, partsBehind_nil, List.append_nil]

theorem splitParts_of_getLast? {path : List Char} (hne : path ≠ [])
    (hlast : path.getLast? ≠ some '/') : splitParts path = partsBefore path := by
  unfold splitParts partsBefore
  dsimp only
  rw [if_neg hlast, List.head?_append_of_ne_nil _ hne]

end Address

namespace AddressPattern

open Address (splitParts partsBefore partsBehind)

/-- Whether the parts stand for the segments of the path. -/
def Follows : List (List Char) → List (List Char) → Prop
  | [], path => path = []
  | [] :: parts, path => ∃ rest, rest <:+ path ∧ Follows parts rest
  | part :: parts, path =>
    ∃ segment rest, path = segment :: rest ∧ Address.Glob.isMatch part segment = true ∧
      Follows parts rest

variable {parts path : List (List Char)}

theorem follows_wildcard_iff :
    Follows ([] :: parts) path ↔ ∃ rest, rest <:+ path ∧ Follows parts rest := by
  rw [Follows]

theorem follows_part_iff {part : List Char} (hpart : part ≠ []) :
    Follows (part :: parts) path ↔
      ∃ segment rest, path = segment :: rest ∧ Address.Glob.isMatch part segment = true ∧
        Follows parts rest := by
  rw [Follows]
  exact hpart

/-- Wildcards in a row are one wildcard. -/
theorem follows_wildcard_iff_dropWhile :
    Follows ([] :: parts) path ↔
      ∃ rest, rest <:+ path ∧ Follows (parts.dropWhile List.isEmpty) rest := by
  rw [follows_wildcard_iff]
  apply exists_suffix_iff_dropWhile
  intro part parts path hempty
  obtain rfl := List.isEmpty_iff.1 hempty
  exact follows_wildcard_iff

/-! ### The matcher -/

theorem anySegment_eq_true_iff {test : List Char → List (List Char) → Bool} :
    anySegment test path = true ↔
      ∃ segment rest, segment :: rest <:+ path ∧ test segment rest = true := by
  induction path with
  | nil => simp [anySegment]
  | cons first path ih =>
    rw [anySegment, Bool.or_eq_true, ih]
    constructor
    · rintro (h | ⟨segment, rest, hrest, h⟩)
      · exact ⟨first, path, List.suffix_rfl, h⟩
      · exact ⟨segment, rest, hrest.trans (List.suffix_cons first path), h⟩
    · rintro ⟨segment, rest, hrest, h⟩
      rcases List.suffix_cons_iff.1 hrest with heq | hrest
      · cases heq
        exact .inl h
      · exact .inr ⟨segment, rest, hrest, h⟩

/-- The matcher finds the segments to skip whenever there are such. -/
theorem matchPath_eq_true_iff_follows : matchPath parts path = true ↔ Follows parts path := by
  induction parts, path using matchPath.induct with
  | case1 path => rw [matchPath, List.isEmpty_iff, Follows]
  | case2 path parts hend =>
    rw [follows_wildcard_iff_dropWhile, hend]
    refine iff_of_true ?_ ⟨[], List.nil_suffix, by rw [Follows]⟩
    rw [matchPath]
    split
    · rfl
    next hnext => cases hend.symm.trans hnext
  | case3 path parts part rest hnext ih =>
    have hpart : part ≠ [] := by
      have := List.head?_dropWhile_not List.isEmpty parts
      rw [hnext] at this
      simpa using this
    rw [follows_wildcard_iff_dropWhile, hnext, matchPath]
    split
    next hend => cases hnext.symm.trans hend
    next hnext' =>
      cases hnext.symm.trans hnext'
      simp only [anySegment_eq_true_iff, Bool.and_eq_true, follows_part_iff hpart, ih]
      constructor
      · rintro ⟨segment, behind, hsuffix, h⟩
        exact ⟨segment :: behind, hsuffix, segment, behind, rfl, h⟩
      · rintro ⟨_, hsuffix, segment, behind, rfl, h⟩
        exact ⟨segment, behind, hsuffix, h⟩
  | case4 part parts hpart =>
    rw [follows_part_iff hpart, matchPath]
    · simp
    · exact hpart
  | case5 part parts hpart segment path ih =>
    rw [follows_part_iff hpart, matchPath, Bool.and_eq_true, ih]
    · constructor
      · intro h
        exact ⟨segment, path, rfl, h⟩
      · rintro ⟨_, _, heq, h⟩
        cases heq
        exact h
    · exact hpart

theorem isMatch_eq_true_iff_follows {pattern : AddressPattern} {address : String} :
    pattern.isMatch address = true ↔ Follows pattern.parts (splitParts address.toList) :=
  matchPath_eq_true_iff_follows

/-! ### Wildcards inside and at the end of a pattern -/

/-- A wildcard does not change what it stands for when it is doubled. -/
theorem follows_append_wildcard_wildcard_iff {front back : List (List Char)} :
    Follows (front ++ [] :: [] :: back) path ↔ Follows (front ++ [] :: back) path := by
  induction front generalizing path with
  | nil =>
    rw [List.nil_append, List.nil_append, follows_wildcard_iff_dropWhile,
      follows_wildcard_iff_dropWhile, List.dropWhile_cons_of_pos rfl]
  | cons part front ih =>
    rw [List.cons_append, List.cons_append]
    by_cases hpart : part = []
    · subst hpart
      simp only [follows_wildcard_iff, ih]
    · simp only [follows_part_iff hpart, ih]

/-- A wildcard at the end lets everything pass that is left. -/
theorem follows_append_wildcard_iff {front : List (List Char)} :
    Follows (front ++ [[]]) path ↔ ∃ taken, taken <+: path ∧ Follows front taken := by
  induction front generalizing path with
  | nil =>
    rw [List.nil_append, follows_wildcard_iff]
    exact iff_of_true ⟨[], List.nil_suffix, rfl⟩ ⟨[], List.nil_prefix, rfl⟩
  | cons part front ih =>
    rw [List.cons_append]
    by_cases hpart : part = []
    · subst hpart
      simp only [follows_wildcard_iff, ih]
      constructor
      · rintro ⟨rest, ⟨skipped, rfl⟩, taken, htaken, h⟩
        refine ⟨skipped ++ taken, ?_, taken, List.suffix_append skipped taken, h⟩
        rwa [List.prefix_append_right_inj]
      · rintro ⟨_, ⟨left, rfl⟩, taken, ⟨skipped, rfl⟩, h⟩
        refine ⟨taken ++ left, ?_, taken, List.prefix_append taken left, h⟩
        rw [List.append_assoc]
        exact List.suffix_append skipped (taken ++ left)
    · simp only [follows_part_iff hpart, ih]
      constructor
      · rintro ⟨segment, rest, rfl, hsegment, taken, htaken, h⟩
        exact ⟨segment :: taken, List.cons_prefix_cons.2 ⟨rfl, htaken⟩, segment, taken, rfl,
          hsegment, h⟩
      · rintro ⟨_, ⟨left, rfl⟩, segment, taken, rfl, hsegment, h⟩
        exact ⟨segment, taken ++ left, rfl, hsegment, taken, List.prefix_append taken left, h⟩

/-- A slash in front of a wildcard at the end plays no part. -/
theorem follows_partsBefore_wildcard_iff {front : List Char} :
    Follows (partsBefore front ++ [[]]) path ↔
      ∃ taken, taken <+: path ∧ Follows (splitParts front) taken := by
  by_cases hnil : front = []
  · subst hnil
    have hbefore : partsBefore [] = [] := by decide
    have hsplit : splitParts [] = [[]] := by decide
    have hall : ∀ path, Follows [[]] path :=
      fun path => follows_wildcard_iff.2 ⟨[], List.nil_suffix, rfl⟩
    rw [hbefore, hsplit]
    exact iff_of_true (hall path) ⟨[], List.nil_prefix, hall []⟩
  by_cases hlast : front.getLast? = some '/'
  swap
  · rw [Address.splitParts_of_getLast? hnil hlast]
    exact follows_append_wildcard_iff
  obtain ⟨front, rfl⟩ := List.getLast?_eq_some_iff.1 hlast
  rw [Address.partsBefore_append_slash, Address.splitParts_append_slash, List.append_assoc,
    ← follows_append_wildcard_iff]
  exact follows_append_wildcard_wildcard_iff

/-- A pattern matches the addresses whose segments follow its parts.  Slashes in a row are one
wildcard, and two at the end let everything pass that is left. -/
theorem isMatch_iff_follows (pattern address : String) :
    ((⟨pattern⟩ : AddressPattern).isMatch address = true ↔
      Follows (splitParts pattern.toList) (splitParts address.toList)) ∧
    (∀ front back : String,
      (⟨front ++ "///" ++ back⟩ : AddressPattern).isMatch address =
        (⟨front ++ "//" ++ back⟩ : AddressPattern).isMatch address) ∧
    (∀ front : String, (⟨front ++ "//"⟩ : AddressPattern).isMatch address = true ↔
      ∃ taken, taken <+: splitParts address.toList ∧ Follows (splitParts front.toList) taken) := by
  refine ⟨isMatch_eq_true_iff_follows, fun front back => ?_, fun front => ?_⟩
  · have hthree : splitParts (front ++ "///" ++ back).toList =
        partsBefore front.toList ++ [] :: [] :: partsBehind back.toList := by
      simp [Address.splitParts_append, Address.partsBehind_slash]
    have htwo : splitParts (front ++ "//" ++ back).toList =
        partsBefore front.toList ++ [] :: partsBehind back.toList := by
      simp [Address.splitParts_append, Address.partsBehind_slash]
    rw [Bool.eq_iff_iff, isMatch_eq_true_iff_follows, isMatch_eq_true_iff_follows, parts, parts,
      hthree, htwo]
    exact follows_append_wildcard_wildcard_iff
  · have htwo : splitParts (front ++ "//").toList = partsBefore front.toList ++ [[]] := by
      simp [Address.splitParts_append, Address.partsBehind_slash, Address.partsBehind_nil]
    rw [isMatch_eq_true_iff_follows, parts, htwo]
    exact follows_partsBefore_wildcard_iff

end AddressPattern

end OpenSound
