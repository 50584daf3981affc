import Mathlib.Data.List.Basic
import OpenSound.Regex.Matcher

/-!
# What a regular expression matches

`Regex.Spans` says between which places of a text an expression matches, by recursion on the
expression and without a search.  The matcher works on sets of places instead, and gives a
repetition no more turns than there are places in the text.  What it reaches are nevertheless all
the places at which the expression can end (`Regex.follows_reach`).  A turn either stays where it is
or moves on, so that among more turns than there are places one stays on the spot, and it can be
left out or done once more.
-/

namespace OpenSound.Regex

/-! ### Steps from place to place -/

/-- Whether a number of steps leads from one place to another. -/
def Steps (step : Nat → Nat → Prop) : (count : Nat) → Nat → Nat → Prop
  | 0, i, j => i = j
  | count + 1, i, j => ∃ k, step i k ∧ Steps step count k j

/-- Each step stays where it is, or moves on and ends within the first `size` places. -/
def MovesOn (size : Nat) (step : Nat → Nat → Prop) : Prop :=
  ∀ i j, step i j → i = j ∨ i < j ∧ j ≤ size

section Steps

variable {size : Nat} {step : Nat → Nat → Prop} {count a b i j : Nat}

theorem steps_add_iff : Steps step (a + b) i j ↔ ∃ k, Steps step a i k ∧ Steps step b k j := by
  induction a generalizing i with
  | zero => simp [Steps]
  | succ a ih =>
    rw [Nat.add_right_comm]
    simp only [Steps, ih]
    constructor
    · rintro ⟨k, hk, l, hl, hj⟩
      exact ⟨l, ⟨k, hk, hl⟩, hj⟩
    · rintro ⟨l, ⟨k, hk, hl⟩, hj⟩
      exact ⟨k, hk, l, hl, hj⟩

theorem MovesOn.trans {step' : Nat → Nat → Prop} {k : Nat} (h : MovesOn size step)
    (h' : MovesOn size step') (hik : step i k) (hkj : step' k j) : i = j ∨ i < j ∧ j ≤ size := by
  have := h i k hik
  have := h' k j hkj
  omega

theorem MovesOn.steps (h : MovesOn size step) (count : Nat) : MovesOn size (Steps step count) := by
  induction count with
  | zero => exact fun i j hij => .inl hij
  | succ count ih =>
    rintro i j ⟨k, hik, hkj⟩
    exact h.trans ih hik hkj

/-- Among steps one stays where it is, or each of them takes up a place. -/
theorem MovesOn.exists_still_or_le (h : MovesOn size step) (hsteps : Steps step (count + 1) i j) :
    (∃ a b k, count = a + b ∧ Steps step a i k ∧ step k k ∧ Steps step b k j) ∨
      i + count + 1 ≤ j ∧ j ≤ size := by
  induction count generalizing i with
  | zero =>
    obtain ⟨k, hik, rfl⟩ := hsteps
    obtain rfl | ⟨hlt, hsize⟩ := h i k hik
    · exact .inl ⟨0, 0, i, rfl, rfl, hik, rfl⟩
    · exact .inr ⟨hlt, hsize⟩
  | succ count ih =>
    obtain ⟨k, hik, hkj⟩ := hsteps
    obtain rfl | ⟨hlt, -⟩ := h i k hik
    · exact .inl ⟨0, count + 1, i, (Nat.zero_add _).symm, rfl, hik, hkj⟩
    · rcases ih hkj with ⟨a, b, l, rfl, hkl, hl, hlj⟩ | ⟨hfar, hsize⟩
      · exact .inl ⟨a + 1, b, l, Nat.add_right_comm a b 1, ⟨k, hik, hkl⟩, hl, hlj⟩
      · exact .inr ⟨by omega, hsize⟩

theorem MovesOn.exists_still (h : MovesOn size step) (hsteps : Steps step (count + 1) i j)
    (hcount : size ≤ count) :
    ∃ a b k, count = a + b ∧ Steps step a i k ∧ step k k ∧ Steps step b k j :=
  (h.exists_still_or_le hsteps).resolve_right (by omega)

/-- A step that stays where it is can be left out or done once more. -/
theorem MovesOn.steps_succ_iff (h : MovesOn size step) (hcount : size ≤ count) :
    Steps step (count + 2) i j ↔ Steps step (count + 1) i j := by
  constructor
  · intro hsteps
    obtain ⟨a, b, k, hab, hik, -, hkj⟩ := h.exists_still hsteps (Nat.le_succ_of_le hcount)
    rw [hab, steps_add_iff]
    exact ⟨k, hik, hkj⟩
  · intro hsteps
    obtain ⟨a, b, k, rfl, hik, hk, hkj⟩ := h.exists_still hsteps hcount
    rw [Nat.add_assoc, steps_add_iff]
    exact ⟨k, hik, k, hk, k, hk, hkj⟩

/-- Beyond the number of places it makes no difference how many steps there are. -/
theorem MovesOn.steps_iff_of_lt (h : MovesOn size step) (ha : size < a) (hb : size < b) :
    Steps step a i j ↔ Steps step b i j := by
  have enough : ∀ more, Steps step (size + 1 + more) i j ↔ Steps step (size + 1) i j := by
    intro more
    induction more with
    | zero => rfl
    | succ more ih =>
      rw [← ih, ← Nat.add_assoc, Nat.add_right_comm size 1 more]
      exact h.steps_succ_iff (Nat.le_add_right _ _)
  obtain ⟨moreA, rfl⟩ := Nat.exists_eq_add_of_le ha
  obtain ⟨moreB, rfl⟩ := Nat.exists_eq_add_of_le hb
  rw [enough, enough]

end Steps

/-! ### Spans -/

mutual

/-- Whether the expression matches what stands between two places of the text.  A repetition has its
least number of turns and then as many more as it likes, up to its bound. -/
def Spans (text : Array Char) : Regex → Nat → Nat → Prop
  | char c, i, j => text[i]? = some c ∧ j = i + 1
  | set ranges, i, j => text[i]?.any ranges.contains = true ∧ j = i + 1
  | look assertion, i, j =>
    assertion.holds (charBefore? text i) text[i]? = true ∧ j = i
  | sequence parts, i, j => SpansAll text parts i j
  | choice options, i, j => SpansAny text options i j
  | repeated body least most, i, j =>
    ∃ more, (∀ bound, most = some bound → more ≤ bound - least) ∧
      Steps (Spans text body) (least + more) i j
  | capture _ body, i, j => Spans text body i j

/-- Whether the expressions match what stands between two places, one after the other. -/
def SpansAll (text : Array Char) : List Regex → Nat → Nat → Prop
  | [], i, j => i = j
  | part :: parts, i, j => ∃ k, Spans text part i k ∧ SpansAll text parts k j

/-- Whether one of the expressions matches what stands between two places. -/
def SpansAny (text : Array Char) : List Regex → Nat → Nat → Prop
  | [], _, _ => False
  | option :: options, i, j => Spans text option i j ∨ SpansAny text options i j

end

/-- Whether the expression matches the text as a whole. -/
def MatchesWhole (r : Regex) (text : String) : Prop :=
  r.Spans text.toList.toArray 0 text.toList.length

section Spans

variable {text : Array Char}

theorem lt_size_of_any {i : Nat} {test : Char → Bool} (h : text[i]?.any test = true) :
    i < text.size := by
  by_contra hout
  rw [Array.getElem?_eq_none (Nat.not_lt.1 hout)] at h
  cases h

mutual

theorem movesOn_spans : (r : Regex) → MovesOn text.size (Spans text r)
  | .char c => by
    rintro i j ⟨hc, rfl⟩
    exact .inr ⟨Nat.lt_succ_self i, (Array.getElem?_eq_some_iff.1 hc).1⟩
  | .set ranges => by
    rintro i j ⟨hset, rfl⟩
    exact .inr ⟨Nat.lt_succ_self i, lt_size_of_any hset⟩
  | .look assertion => by
    rintro i j ⟨-, rfl⟩
    exact .inl rfl
  | .sequence parts => movesOn_spansAll parts
  | .choice options => movesOn_spansAny options
  | .repeated body least most => by
    rintro i j ⟨more, -, hsteps⟩
    exact (movesOn_spans body).steps (least + more) i j hsteps
  | .capture _ body => movesOn_spans body

theorem movesOn_spansAll : (parts : List Regex) → MovesOn text.size (SpansAll text parts)
  | [] => fun i j hij => .inl hij
  | part :: parts => by
    rintro i j ⟨k, hik, hkj⟩
    exact (movesOn_spans part).trans (movesOn_spansAll parts) hik hkj

theorem movesOn_spansAny : (options : List Regex) → MovesOn text.size (SpansAny text options)
  | [] => fun i j hij => hij.elim
  | option :: options => by
    rintro i j (hij | hij)
    · exact movesOn_spans option i j hij
    · exact movesOn_spansAny options i j hij

end

end Spans

/-! ### The matcher -/

/-- The function takes a set of places to the places to which a step leads from one of them. -/
def Follows (f : List Nat → List Nat) (step : Nat → Nat → Prop) : Prop :=
  ∀ places j, j ∈ f places ↔ ∃ i ∈ places, step i j

section Matcher

variable {f : List Nat → List Nat} {step : Nat → Nat → Prop}

theorem mem_union_iff {a b : List Nat} {j : Nat} : j ∈ union a b ↔ j ∈ a ∨ j ∈ b := by
  by_cases h : j ∈ a <;> simp [union, h]

theorem Follows.stepTimes (h : Follows f step) (count : Nat) :
    Follows (stepTimes f count) (Steps step count) := by
  induction count with
  | zero => intro places j; simp [Regex.stepTimes, Steps]
  | succ count ih =>
    intro places j
    rw [Regex.stepTimes]
    split_ifs with hempty
    · rw [List.isEmpty_iff.1 hempty]
      simp
    · rw [ih]
      constructor
      · rintro ⟨k, hk, hkj⟩
        obtain ⟨i, hi, hik⟩ := (h places k).1 hk
        exact ⟨i, hi, k, hik, hkj⟩
      · rintro ⟨i, hi, k, hik, hkj⟩
        exact ⟨k, (h places k).2 ⟨i, hi, hik⟩, hkj⟩

/-- All steps from places that were reached lead to places that were reached, except from those that
were reached last. -/
def Surveyed (step : Nat → Nat → Prop) (reached last : List Nat) : Prop :=
  ∀ i ∈ reached, i ∉ last → ∀ j, step i j → j ∈ reached

theorem mem_of_steps {reached : List Nat} {count i j : Nat} (h : Surveyed step reached [])
    (hi : i ∈ reached) (hsteps : Steps step count i j) : j ∈ reached := by
  induction count generalizing i with
  | zero =>
    obtain rfl := hsteps
    exact hi
  | succ count ih =>
    obtain ⟨k, hik, hkj⟩ := hsteps
    exact ih (h i hi List.not_mem_nil k hik) hkj

/-- Steps are tried from the places that were reached last, as there is nothing new to be found from
the others. -/
theorem mem_spread_iff (h : Follows f step) {count : Nat} {reached last : List Nat}
    (hlast : last ⊆ reached) (hsurveyed : Surveyed step reached last) {j : Nat} :
    j ∈ spread f count reached last ↔ ∃ i ∈ reached, ∃ n ≤ count, Steps step n i j := by
  induction count generalizing reached last with
  | zero =>
    rw [spread]
    constructor
    · exact fun hj => ⟨j, hj, 0, Nat.le_refl 0, rfl⟩
    · rintro ⟨i, hi, n, hn, hsteps⟩
      obtain rfl := Nat.le_zero.1 hn
      exact hsteps ▸ hi
  | succ count ih =>
    rw [spread]
    generalize hnew : (f last).filter (!reached.contains ·) = new
    have hmem : ∀ k, k ∈ new ↔ (∃ i ∈ last, step i k) ∧ k ∉ reached := by
      intro k
      rw [← hnew, List.mem_filter, h last k]
      simp
    -- one step from a place that was reached ends there or at a new place
    have hnext : ∀ i ∈ reached, ∀ k, step i k → k ∈ reached ++ new := by
      intro i hi k hik
      by_cases hk : k ∈ reached
      · exact List.mem_append_left _ hk
      · by_cases hil : i ∈ last
        · exact List.mem_append_right _ ((hmem k).2 ⟨⟨i, hil, hik⟩, hk⟩)
        · exact absurd (hsurveyed i hi hil k hik) hk
    split_ifs with hempty
    · obtain rfl := List.isEmpty_iff.1 hempty
      rw [List.append_nil] at hnext
      constructor
      · exact fun hj => ⟨j, hj, 0, Nat.zero_le _, rfl⟩
      · rintro ⟨i, hi, n, -, hsteps⟩
        exact mem_of_steps (fun i hi _ => hnext i hi) hi hsteps
    · have hsurveyed' : Surveyed step (reached ++ new) new := by
        intro i hi hnot
        exact hnext i ((List.mem_append.1 hi).resolve_right hnot)
      rw [ih (List.subset_append_right _ _) hsurveyed']
      constructor
      · rintro ⟨i, hi, n, hn, hsteps⟩
        rcases List.mem_append.1 hi with hi | hi
        · exact ⟨i, hi, n, Nat.le_succ_of_le hn, hsteps⟩
        · obtain ⟨⟨l, hl, hli⟩, -⟩ := (hmem i).1 hi
          exact ⟨l, hlast hl, n + 1, Nat.succ_le_succ hn, i, hli, hsteps⟩
      · rintro ⟨i, hi, n, hn, hsteps⟩
        cases n with
        | zero => exact ⟨i, List.mem_append_left _ hi, 0, Nat.zero_le _, hsteps⟩
        | succ n =>
          obtain ⟨k, hik, hkj⟩ := hsteps
          exact ⟨k, hnext i hi k hik, n, Nat.le_of_succ_le_succ hn, hkj⟩

/-- Turns beyond the number of places are not tried, and not needed. -/
theorem exists_steps_iff {size least : Nat} {most : Option Nat} {i j : Nat}
    (h : MovesOn size step) :
    (∃ n ≤ (match most with
        | none => size + 1
        | some most => min (most - least) (size + 1)),
      Steps step (min least (size + 1) + n) i j) ↔
      ∃ more, (∀ bound, most = some bound → more ≤ bound - least) ∧
        Steps step (least + more) i j := by
  constructor
  · rintro ⟨n, hn, hsteps⟩
    refine ⟨n, ?_, ?_⟩
    · rintro bound rfl
      exact Nat.le_trans hn (Nat.min_le_left _ _)
    · rcases Nat.le_total least (size + 1) with hle | hle
      · rwa [Nat.min_eq_left hle] at hsteps
      · rw [Nat.min_eq_right hle] at hsteps
        exact (h.steps_iff_of_lt (by omega) (by omega)).1 hsteps
  · rintro ⟨more, hbound, hsteps⟩
    refine ⟨min more (size + 1), ?_, ?_⟩
    · cases most with
      | none => exact Nat.min_le_right _ _
      | some bound =>
        have := hbound bound rfl
        exact Nat.le_min.2 ⟨by omega, Nat.min_le_right _ _⟩
    · by_cases hfew : least ≤ size + 1 ∧ more ≤ size + 1
      · rwa [Nat.min_eq_left hfew.1, Nat.min_eq_left hfew.2]
      · exact (h.steps_iff_of_lt (by omega) (by omega)).1 hsteps

end Matcher

section Reach

variable {text : Array Char}

mutual

/-- The matcher reaches exactly the places at which a span ends that starts at one of the places. -/
theorem follows_reach : (r : Regex) → Follows (reach text r) (Spans text r)
  | .char c => by
    intro places j
    simp only [reach, Spans, List.mem_map, List.mem_filter, decide_eq_true_eq]
    constructor
    · rintro ⟨i, ⟨hi, hc⟩, rfl⟩
      exact ⟨i, hi, hc, rfl⟩
    · rintro ⟨i, hi, hc, rfl⟩
      exact ⟨i, ⟨hi, hc⟩, rfl⟩
  | .set ranges => by
    intro places j
    simp only [reach, Spans, List.mem_map, List.mem_filter]
    constructor
    · rintro ⟨i, ⟨hi, hset⟩, rfl⟩
      exact ⟨i, hi, hset, rfl⟩
    · rintro ⟨i, hi, hset, rfl⟩
      exact ⟨i, ⟨hi, hset⟩, rfl⟩
  | .look assertion => by
    intro places j
    simp only [reach, Spans, List.mem_filter]
    constructor
    · rintro ⟨hj, hholds⟩
      exact ⟨j, hj, hholds, rfl⟩
    · rintro ⟨i, hi, hholds, rfl⟩
      exact ⟨hi, hholds⟩
  | .sequence parts => follows_reachAll parts
  | .choice options => follows_reachAny options
  | .repeated body least most => by
    intro places j
    have hbody := follows_reach body
    have hmoves : MovesOn text.size (Spans text body) := movesOn_spans body
    simp only [reach]
    rw [mem_spread_iff hbody (List.Subset.refl _) fun i hi hnot => absurd hi hnot]
    constructor
    · rintro ⟨k, hk, n, hn, hkj⟩
      obtain ⟨i, hi, hik⟩ := (hbody.stepTimes _ places k).1 hk
      exact ⟨i, hi, (exists_steps_iff hmoves).1 ⟨n, hn, steps_add_iff.2 ⟨k, hik, hkj⟩⟩⟩
    · rintro ⟨i, hi, hspans⟩
      obtain ⟨n, hn, hsteps⟩ := (exists_steps_iff hmoves).2 hspans
      obtain ⟨k, hik, hkj⟩ := steps_add_iff.1 hsteps
      exact ⟨k, (hbody.stepTimes _ places k).2 ⟨i, hi, hik⟩, n, hn, hkj⟩
  | .capture _ body => follows_reach body

theorem follows_reachAll :
    (parts : List Regex) → Follows (reachAll text parts) (SpansAll text parts)
  | [] => by
    intro places j
    simp [reachAll, SpansAll]
  | part :: parts => by
    intro places j
    rw [reachAll, follows_reachAll parts]
    simp only [SpansAll, follows_reach part places]
    constructor
    · rintro ⟨k, ⟨i, hi, hik⟩, hkj⟩
      exact ⟨i, hi, k, hik, hkj⟩
    · rintro ⟨i, hi, k, hik, hkj⟩
      exact ⟨k, ⟨i, hi, hik⟩, hkj⟩

theorem follows_reachAny :
    (options : List Regex) → Follows (reachAny text options) (SpansAny text options)
  | [] => by
    intro places j
    simp [reachAny, SpansAny]
  | option :: options => by
    intro places j
    rw [reachAny, mem_union_iff, follows_reach option, follows_reachAny options]
    simp only [SpansAny, and_or_left, exists_or]

end

end Reach

end OpenSound.Regex
