import Mathlib.Data.List.TakeWhile
import Mathlib.Tactic.Common

/-!
# Searching lists

A reader that looks for a separator takes everything in front of the first one; the first lemmas go
between that search and the list taken apart.  A wildcard that skips any number of elements is tried
at every end of a list, and wildcards in a row skip no more than one of them does.
-/

namespace OpenSound

/-! ### The first occurrence of a separator -/

section Separator

variable {α : Type} [DecidableEq α] {separator : α} {front back : List α}

theorem eq_append_of_dropWhile_eq_cons {l : List α} {a : α}
    (h : l.dropWhile (· ≠ separator) = a :: back) :
    l = l.takeWhile (· ≠ separator) ++ separator :: back ∧
      separator ∉ l.takeWhile (· ≠ separator) := by
  constructor
  · have ha : a = separator := by
      have := List.head?_dropWhile_not (· ≠ separator) l
      rw [h] at this
      simpa using this
    subst ha
    rw [← h, List.takeWhile_append_dropWhile]
  · intro hmem
    simpa using List.mem_takeWhile_imp hmem

theorem takeWhile_append_separator (h : separator ∉ front) :
    (front ++ separator :: back).takeWhile (· ≠ separator) = front := by
  rw [List.takeWhile_append_of_pos, List.takeWhile_cons_of_neg (by simp), List.append_nil]
  intro a ha
  exact decide_eq_true (ne_of_mem_of_not_mem ha h)

theorem dropWhile_append_separator (h : separator ∉ front) :
    (front ++ separator :: back).dropWhile (· ≠ separator) = separator :: back := by
  rw [List.dropWhile_append_of_pos, List.dropWhile_cons_of_neg (by simp)]
  intro a ha
  exact decide_eq_true (ne_of_mem_of_not_mem ha h)

theorem append_separator_inj {front' back' : List α} (h : separator ∉ front)
    (h' : separator ∉ front') :
    front ++ separator :: back = front' ++ separator :: back' ↔ front = front' ∧ back = back' := by
  constructor
  · intro e
    have hfront := congrArg (List.takeWhile (· ≠ separator)) e
    rw [takeWhile_append_separator h, takeWhile_append_separator h'] at hfront
    subst hfront
    exact ⟨rfl, List.tail_eq_of_cons_eq (List.append_cancel_left e)⟩
  · rintro ⟨rfl, rfl⟩
    rfl

end Separator

/-! ### Wildcards -/

/-- If what satisfies the test skips any number of elements, then a run of it at the front does so
once. -/
theorem exists_suffix_iff_dropWhile {α β : Type} {Stands : List α → List β → Prop} {test : α → Bool}
    (hskip : ∀ {a pattern text}, test a = true →
      (Stands (a :: pattern) text ↔ ∃ back, back <:+ text ∧ Stands pattern back))
    {pattern : List α} {text : List β} :
    (∃ back, back <:+ text ∧ Stands pattern back) ↔
      ∃ back, back <:+ text ∧ Stands (pattern.dropWhile test) back := by
  induction pattern with
  | nil => rfl
  | cons a pattern ih =>
    by_cases ha : test a = true
    swap
    · rw [List.dropWhile_cons_of_neg ha]
    rw [List.dropWhile_cons_of_pos ha, ← ih]
    constructor
    · rintro ⟨middle, hmiddle, h⟩
      obtain ⟨back, hback, h⟩ := (hskip ha).1 h
      exact ⟨back, hback.trans hmiddle, h⟩
    · rintro ⟨back, hback, h⟩
      exact ⟨text, List.suffix_rfl, (hskip ha).2 ⟨back, hback, h⟩⟩

end OpenSound
