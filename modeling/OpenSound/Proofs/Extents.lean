import OpenSound.Proofs.CharClass
import OpenSound.Proofs.Search

/-!
# How far a class reaches

A class is closed by the first closing bracket behind its first character, and by no other one: a
bracket that ends a range closes the class as well.  So a class can be cut out of a pattern before
its members are told apart (`cut?`), and its members be read off what was cut out (`membersOf`).
Neither knows of the character that the class is asked about, and `accepts?_settled` says that
together they find the end and the set of every class.
-/

namespace OpenSound.Address.CharClass

/-- The pattern behind the mark of a negated class. -/
def behindMark : List Char → List Char
  | '!' :: pattern => pattern
  | pattern => pattern

/-- What stands in a class, behind its mark, and what is behind the class.  The first character
stands in the class whatever it is, and the next closing bracket closes it. -/
def cut? : List Char → Option (List Char × List Char)
  | [] => none
  | c :: pattern =>
    match pattern.dropWhile (· ≠ ']') with
    | [] => none
    | _ :: rest => some (c :: pattern.takeWhile (· ≠ ']'), rest)

/-- The members that stand in a class, from left to right. -/
def membersOf : List Char → List Member
  | [] => []
  | [first, '-'] => [.onward first]
  | first :: '-' :: last :: content => .range first last :: membersOf content
  | c :: content => .single c :: membersOf content

/-! ### Cutting out a class -/

theorem cut?_eq_some_iff {pattern content rest : List Char} :
    cut? pattern = some (content, rest) ↔
      ∃ c body, content = c :: body ∧ ']' ∉ body ∧ pattern = content ++ ']' :: rest := by
  constructor
  · intro h
    unfold cut? at h
    split at h
    · cases h
    next c pattern =>
      split at h
      · cases h
      next hdrop =>
        cases h
        obtain ⟨hpattern, hbody⟩ := eq_append_of_dropWhile_eq_cons hdrop
        exact ⟨c, _, rfl, hbody, congrArg (c :: ·) hpattern⟩
  · rintro ⟨c, body, rfl, hbody, rfl⟩
    simp only [List.cons_append, cut?, dropWhile_append_separator hbody,
      takeWhile_append_separator hbody]

theorem cut?_eq_none_iff {pattern : List Char} : cut? pattern = none ↔ ']' ∉ pattern.tail := by
  constructor
  · intro hcut hmem
    cases pattern with
    | nil => cases hmem
    | cons c pattern =>
      obtain ⟨body, rest, hpattern, hbody⟩ := List.eq_append_cons_of_mem hmem
      have hsome : cut? (c :: pattern) = some (c :: body, rest) :=
        cut?_eq_some_iff.2 ⟨c, body, rfl, hbody, congrArg (c :: ·) hpattern⟩
      exact nomatch hcut.symm.trans hsome
  · intro hopen
    by_contra hcut
    obtain ⟨⟨content, rest⟩, hcut⟩ := Option.ne_none_iff_exists'.1 hcut
    obtain ⟨c, body, rfl, -, rfl⟩ := cut?_eq_some_iff.1 hcut
    exact hopen (by simp)

/-! ### Reading its members -/

/-- Members are read off the front of a pattern up to a bracket that does not come first. -/
theorem membersLayout_membersOf {first : Bool} {content : List Char} (rest : List Char)
    (hfirst : first = true → content ≠ []) (hhead : content.head? = some ']' → first = true)
    (htail : ']' ∉ content.tail) :
    MembersLayout first (content ++ ']' :: rest) (membersOf content) rest := by
  -- behind the first member there is no bracket at all
  have hbehind {content : List Char} (h : ']' ∉ content) :
      (content.head? = some ']' → false = true) ∧ ']' ∉ content.tail :=
    ⟨fun hhead => absurd (List.mem_of_head? hhead) h, fun htail => h (List.mem_of_mem_tail htail)⟩
  induction content using membersOf.induct generalizing first with
  | case1 =>
    obtain rfl : first = false := Bool.eq_false_iff.2 fun h => hfirst h rfl
    exact .close
  | case2 c => exact .onward fun h => hhead (congrArg some h)
  | case3 c last content ih =>
    simp only [List.tail_cons, List.mem_cons, not_or] at htail
    obtain ⟨-, hlast, hcontent⟩ := htail
    obtain ⟨hhead', htail'⟩ := hbehind hcontent
    exact .range (fun h => hhead (congrArg some h)) (Ne.symm hlast) (ih nofun hhead' htail')
  | case4 c content hlonely hrange ih =>
    obtain ⟨hhead', htail'⟩ := hbehind htail
    have hdash : (content ++ ']' :: rest).head? ≠ some '-' := by
      rcases content with _ | ⟨next, content⟩
      · nofun
      · rintro ⟨⟩
        rcases content with _ | ⟨last, content⟩
        · exact hlonely rfl
        · exact hrange last content rfl
    rw [membersOf.eq_4 _ _ hlonely hrange]
    exact .single (fun h => hhead (congrArg some h)) hdash (ih nofun hhead' htail')

theorem membersLayout_of_cut? {pattern content rest : List Char}
    (h : cut? pattern = some (content, rest)) :
    MembersLayout true pattern (membersOf content) rest := by
  obtain ⟨c, body, rfl, hbody, rfl⟩ := cut?_eq_some_iff.1 h
  exact membersLayout_membersOf rest (fun _ => List.cons_ne_nil c body) (fun _ => rfl) hbody

theorem MembersLayout.bracket_mem {first : Bool} {pattern rest : List Char} {members : List Member}
    (h : MembersLayout first pattern members rest) :
    ']' ∈ pattern ∧ (first = true → ']' ∈ pattern.tail) := by
  induction h with
  | close => exact ⟨List.mem_cons_self, nofun⟩
  | single _ _ _ ih => exact ⟨List.mem_cons_of_mem _ ih.1, fun _ => ih.1⟩
  | range _ _ _ ih => simp [ih.1]
  | onward _ => simp

/-- The members up to the end of a class are those that stand in what is cut out. -/
theorem membersLayout_iff_cut? {pattern rest : List Char} {members : List Member} :
    MembersLayout true pattern members rest ↔
      ∃ content, cut? pattern = some (content, rest) ∧ members = membersOf content := by
  constructor
  · intro h
    rcases hcut : cut? pattern with _ | ⟨content, rest'⟩
    · exact absurd (h.bracket_mem.2 rfl) (cut?_eq_none_iff.1 hcut)
    · obtain ⟨rfl, rfl⟩ := h.unique (membersLayout_of_cut? hcut)
      exact ⟨content, rfl, rfl⟩
  · rintro ⟨content, hcut, rfl⟩
    exact membersLayout_of_cut? hcut

/-! ### The whole class -/

theorem behindMark_of_head? {pattern : List Char} (h : pattern.head? ≠ some '!') :
    behindMark pattern = pattern := by
  unfold behindMark
  split
  · exact absurd rfl h
  · rfl

theorem setLayout_iff {pattern rest : List Char} {set : CharSet} :
    SetLayout pattern set rest ↔
      (set.negated = true ↔ pattern.head? = some '!') ∧
        MembersLayout true (behindMark pattern) set.members rest := by
  constructor
  · intro h
    cases h with
    | within hmark h =>
      rw [behindMark_of_head? hmark]
      exact ⟨iff_of_false nofun hmark, h⟩
    | outside h => exact ⟨iff_of_true rfl rfl, h⟩
  · obtain ⟨negated, members⟩ := set
    rintro ⟨hmark, h⟩
    by_cases hhead : pattern.head? = some '!'
    · obtain ⟨pattern, rfl⟩ := List.head?_eq_some_iff.1 hhead
      obtain rfl : negated = true := hmark.2 hhead
      exact .outside h
    · obtain rfl : negated = false := Bool.eq_false_iff.2 fun hnegated => hhead (hmark.1 hnegated)
      rw [behindMark_of_head? hhead] at h
      exact .within hhead h

theorem append_behindMark {pattern : List Char} {negated : Bool}
    (h : negated = true ↔ pattern.head? = some '!') :
    (if negated then ['!'] else []) ++ behindMark pattern = pattern := by
  by_cases hhead : pattern.head? = some '!'
  · rw [if_pos (h.2 hhead)]
    obtain ⟨pattern, rfl⟩ := List.head?_eq_some_iff.1 hhead
    rfl
  · rw [if_neg fun hnegated => hhead (h.1 hnegated), behindMark_of_head? hhead, List.nil_append]

theorem accepts?_eq_none_iff {pattern : List Char} {ch : Char} :
    accepts? ch pattern = none ↔ ∀ set rest, ¬ SetLayout pattern set rest := by
  rw [Option.eq_none_iff_forall_ne_some]
  constructor
  · intro h set rest hset
    exact h _ (accepts?_eq_some_iff.2 ⟨set, hset, rfl⟩)
  · rintro h ⟨verdict, rest⟩ haccepts
    obtain ⟨set, hset, -⟩ := accepts?_eq_some_iff.1 haccepts
    exact h set rest hset

/-- A range whose ends are the wrong way round holds nothing but its ends. -/
theorem Member.contains_range_of_le {first last : Char} (h : last ≤ first) (ch : Char) :
    (range first last).contains ch = true ↔ ch = first ∨ ch = last := by
  have hbetween : ¬ (first < ch ∧ ch < last) := fun ⟨hfirst, hlast⟩ =>
    Char.not_lt.2 h (Char.lt_trans hfirst hlast)
  simp only [contains, Bool.or_eq_true, Bool.and_eq_true, decide_eq_true_eq, or_iff_left hbetween]

/-- What is cut out of a pattern is all that there is of a class. -/
theorem not_setLayout_of_cut?_eq_none {pattern : List Char} (h : cut? (behindMark pattern) = none)
    (set : CharSet) (rest : List Char) : ¬ SetLayout pattern set rest := by
  intro hset
  obtain ⟨content, hcut, -⟩ := membersLayout_iff_cut?.1 (setLayout_iff.1 hset).2
  exact nomatch h.symm.trans hcut

/-- Whether a class is closed, where it ends and which set it stands for is settled without the
character that it is asked about.  The first closing bracket behind the first character closes it,
and the verdict is membership in the set of the members in front of that bracket, or in its
complement if the class begins with `!`.  A range whose ends are the wrong way round holds nothing
but its ends. -/
theorem accepts?_settled (pattern : List Char) :
    ((']' ∉ (behindMark pattern).tail ∧ (∀ set rest, ¬ SetLayout pattern set rest) ∧
        ∀ ch, accepts? ch pattern = none) ∨
      ∃ set c body rest,
        pattern = (if set.negated then ['!'] else []) ++ (c :: body ++ ']' :: rest) ∧
        ']' ∉ body ∧ (set.negated = true ↔ pattern.head? = some '!') ∧
        set.members = membersOf (c :: body) ∧ SetLayout pattern set rest ∧
        ∀ ch, accepts? ch pattern = some (set.contains ch, rest)) ∧
    ∀ first last ch, last ≤ first →
      ((Member.range first last).contains ch = true ↔ ch = first ∨ ch = last) := by
  refine ⟨?_, fun first last ch hreversed => Member.contains_range_of_le hreversed ch⟩
  rcases hcut : cut? (behindMark pattern) with _ | ⟨content, rest⟩
  · have hopen := not_setLayout_of_cut?_eq_none hcut
    exact .inl ⟨cut?_eq_none_iff.1 hcut, hopen, fun ch => accepts?_eq_none_iff.2 hopen⟩
  · have hmark : decide (pattern.head? = some '!') = true ↔ pattern.head? = some '!' :=
      decide_eq_true_iff
    have hset : SetLayout pattern ⟨decide (pattern.head? = some '!'), membersOf content⟩ rest :=
      setLayout_iff.2 ⟨hmark, membersLayout_of_cut? hcut⟩
    obtain ⟨c, body, rfl, hbody, hpattern⟩ := cut?_eq_some_iff.1 hcut
    refine .inr ⟨_, c, body, rest, ?_, hbody, hmark, rfl, hset, fun ch => ?_⟩
    · rw [← hpattern, append_behindMark hmark]
    · exact accepts?_eq_some_iff.2 ⟨_, hset, rfl⟩

/-- A range the wrong way round, and an open one that begins with a dash and ends the class. -/
theorem accepts?_settled_reversed :
    'a' ≤ 'z' ∧ accepts? 'm' "z-a--].".toList = some (true, ['.']) ∧
      ((Member.range 'z' 'a').contains 'm' = true ↔ 'm' = 'z' ∨ 'm' = 'a') :=
  ⟨by decide, by decide +kernel, (accepts?_settled "z-a--].".toList).2 'z' 'a' 'm' (by decide)⟩

end OpenSound.Address.CharClass
