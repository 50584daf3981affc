import OpenSound.Proofs.Snapshot

/-!
# Verdicts of selectors

A selector is a formula whose atoms are criteria.  `Selector.Holds` is what the formula says, given
what its atoms say, and `Selector.leaves` are the atoms from left to right.  Evaluating a selector
asks each of its leaves once, in this order, whatever the answers are, and comes to the verdict of
the formula (`Selector.evaluate_exact`).  A selector that does not depend on type tags looks at
nothing but the address, provided that its custom tests do so.
-/

namespace OpenSound

/-- The test comes to one verdict on all messages with one address. -/
def CustomTest.LooksAtAddress (test : CustomTest) : Prop :=
  ∀ m m' : Message, m.address = m'.address → test.verdict m = test.verdict m'

/-- A criterion that does not depend on type tags is met or not by the address. -/
theorem Criterion.isMet_of_address_eq {tests : CustomTests} {m m' : Message} {criterion : Criterion}
    (hinfo : criterion.requiresInfo tests = false)
    (hcustom : ∀ name, criterion = .custom name → (tests name).LooksAtAddress)
    (haddress : m.address = m'.address) : criterion.isMet tests m = criterion.isMet tests m' := by
  cases criterion with
  | address pattern => rw [isMet, isMet, haddress]
  | regexAddress regex => rw [isMet, isMet, haddress]
  | typeTags pattern => cases hinfo
  | regexTypeTags regex => cases hinfo
  | custom name => exact hcustom name rfl m m' haddress

namespace Selector

/-- The criteria at the leaves, from left to right. -/
def leaves : Selector → List Criterion
  | leaf criterion => [criterion]
  | combined _ left right => left.leaves ++ right.leaves

/-- Whether the formula is true, given which criteria are. -/
def Holds (isTrue : Criterion → Prop) : Selector → Prop
  | leaf criterion => isTrue criterion
  | combined .and left right => left.Holds isTrue ∧ right.Holds isTrue
  | combined .or left right => left.Holds isTrue ∨ right.Holds isTrue
  | combined .xor left right => ¬ (left.Holds isTrue ↔ right.Holds isTrue)

/-- How often a custom test occurs in the selector. -/
def occurrences (name : String) : Selector → Nat
  | leaf (.custom other) => if other = name then 1 else 0
  | leaf _ => 0
  | combined _ left right => left.occurrences name + right.occurrences name

variable {tests : CustomTests} {m m' : Message}

/-! ### The formula -/

theorem holds_combined_iff {isTrue : Criterion → Prop} {operator : Operator} {left right : Selector}
    {a b : Bool} (hleft : a = true ↔ left.Holds isTrue) (hright : b = true ↔ right.Holds isTrue) :
    operator.apply a b = true ↔ (combined operator left right).Holds isTrue := by
  cases operator with
  | and => rw [Operator.apply, Holds, Bool.and_eq_true, hleft, hright]
  | or => rw [Operator.apply, Holds, Bool.or_eq_true, hleft, hright]
  | xor => rw [Operator.apply, Holds, bne_iff_ne, ne_eq, Bool.eq_iff_iff, hleft, hright]

theorem selects_combined (tests : CustomTests) (m : Message) (operator : Operator)
    (left right : Selector) :
    (combined operator left right).selects tests m =
      operator.apply (left.selects tests m) (right.selects tests m) := rfl

/-- The verdict is that of the formula. -/
theorem selects_eq_true_iff_holds {selector : Selector} :
    selector.selects tests m = true ↔ selector.Holds fun criterion => criterion.isMet tests m := by
  induction selector with
  | leaf criterion => rfl
  | combined operator left right ihLeft ihRight =>
    rw [selects_combined]
    exact holds_combined_iff ihLeft ihRight

/-- Whether the formula is true hangs on its leaves alone. -/
theorem holds_congr {isTrue isTrue' : Criterion → Prop} {selector : Selector}
    (h : ∀ criterion ∈ selector.leaves, isTrue criterion ↔ isTrue' criterion) :
    selector.Holds isTrue ↔ selector.Holds isTrue' := by
  induction selector with
  | leaf criterion => exact h criterion (List.mem_singleton_self _)
  | combined operator left right ihLeft ihRight =>
    obtain ⟨hleft, hright⟩ := List.forall_mem_append.1 h
    cases operator with
    | and => exact and_congr (ihLeft hleft) (ihRight hright)
    | or => exact or_congr (ihLeft hleft) (ihRight hright)
    | xor => exact not_congr (iff_congr (ihLeft hleft) (ihRight hright))

/-! ### The questions -/

/-- Each leaf is asked once, and none is left out for what another one answers. -/
theorem asked_eq_leaves (tests : CustomTests) (m : Message) (selector : Selector) :
    (selector.evaluate tests m).2 = selector.leaves := by
  induction selector with
  | leaf criterion => rfl
  | combined operator left right ihLeft ihRight =>
    show (left.evaluate tests m).2 ++ (right.evaluate tests m).2 = left.leaves ++ right.leaves
    rw [ihLeft, ihRight]

theorem countP_leaves (name : String) (selector : Selector) :
    selector.leaves.countP (· == .custom name) = selector.occurrences name := by
  induction selector with
  | leaf criterion =>
    rw [leaves, List.countP_singleton]
    cases criterion with
    | custom other =>
      show (if decide (other = name) = true then 1 else 0) = if other = name then 1 else 0
      simp only [decide_eq_true_eq]
    | _ => rfl
  | combined operator left right ihLeft ihRight =>
    rw [leaves, List.countP_append, ihLeft, ihRight, occurrences]

theorem requiresInfo_eq_true_iff {selector : Selector} :
    selector.requiresInfo tests = true ↔
      ∃ criterion ∈ selector.leaves, criterion.requiresInfo tests = true := by
  induction selector with
  | leaf criterion => simp [requiresInfo, leaves]
  | combined operator left right ihLeft ihRight =>
    rw [requiresInfo, Bool.or_eq_true, ihLeft, ihRight, leaves]
    simp only [List.mem_append, or_and_right, exists_or]

/-! ### Selectors that look at the address alone -/

theorem selects_of_address_eq {selector : Selector} (hinfo : selector.requiresInfo tests = false)
    (hcustom : ∀ name, .custom name ∈ selector.leaves → (tests name).LooksAtAddress)
    (haddress : m.address = m'.address) : selector.selects tests m = selector.selects tests m' := by
  rw [Bool.eq_iff_iff, selects_eq_true_iff_holds, selects_eq_true_iff_holds]
  refine holds_congr fun criterion hleaf => ?_
  have hplain : criterion.requiresInfo tests = false := by
    rw [← Bool.not_eq_true]
    intro hneeds
    rw [requiresInfo_eq_true_iff.2 ⟨criterion, hleaf, hneeds⟩] at hinfo
    cases hinfo
  have hasked (name : String) (hname : criterion = .custom name) :
      (tests name).LooksAtAddress := hcustom name (hname ▸ hleaf)
  rw [Criterion.isMet_of_address_eq hplain hasked haddress]

/-! ### In a dispatcher -/

theorem foldl_note_asked (asked : List Criterion) (d : Dispatcher) :
    asked.foldl (fun d criterion => d.note (.asked criterion)) d =
      { d with journal := (asked.map Occurrence.asked).reverse ++ d.journal } := by
  induction asked generalizing d with
  | nil => rfl
  | cons criterion asked ih =>
    rw [List.foldl_cons, ih, List.map_cons, List.reverse_cons, List.append_assoc]
    rfl

/-- A selector comes to the verdict of its formula over the verdicts of its leaves.  Each leaf is
asked once, from left to right, whatever the others answer, so that a custom test is called as often
as it occurs; a dispatcher that evaluates the selector notes just these questions.  The selector
depends on type tags if some leaf does, and if none does, its verdict is one for all messages with
one address. -/
theorem evaluate_exact (env : Surroundings) (selector : Selector) :
    (∀ m,
      (selector.selects env.tests m = true ↔
        selector.Holds fun criterion => criterion.isMet env.tests m) ∧
      (selector.evaluate env.tests m).2 = selector.leaves ∧
      ∀ name, (selector.evaluate env.tests m).2.countP (· == .custom name) =
        selector.occurrences name) ∧
    (∀ m d, Dispatcher.selects env selector m d =
      .ok (selector.selects env.tests m)
        { d with journal := (selector.leaves.map Occurrence.asked).reverse ++ d.journal }) ∧
    (selector.requiresInfo env.tests = true ↔
      ∃ criterion ∈ selector.leaves, criterion.requiresInfo env.tests = true) ∧
    (selector.requiresInfo env.tests = false →
      (∀ name, .custom name ∈ selector.leaves → (env.tests name).LooksAtAddress) →
      ∀ m m' : Message, m.address = m'.address →
        selector.selects env.tests m = selector.selects env.tests m') := by
  refine ⟨fun m => ⟨selects_eq_true_iff_holds, asked_eq_leaves env.tests m selector,
      fun name => ?_⟩,
    fun m d => ?_, requiresInfo_eq_true_iff,
    fun hinfo hcustom m m' haddress => selects_of_address_eq hinfo hcustom haddress⟩
  · rw [asked_eq_leaves, countP_leaves]
  · rw [Dispatcher.selects_eq_ok, Dispatcher.noteAsked, asked_eq_leaves, foldl_note_asked]

/-- Surroundings with a custom test for every address, which looks at nothing else. -/
def addressed : Surroundings :=
  { Dispatcher.quiet with tests := fun name => { verdict := fun m => m.address = name } }

/-- A selector with a custom test on both sides of an alternative that its first side settles. -/
def repetitive : Selector :=
  .combined .or (.combined .xor (.leaf (.custom "/x")) (.address "/y"))
    (.combined .and (.address "/y") (.leaf (.custom "/x")))

/-- The test is asked twice, and the verdict stays when arguments and an info are added. -/
theorem evaluate_exact_repetitive :
    repetitive.requiresInfo addressed.tests = false ∧
      (∀ name, .custom name ∈ repetitive.leaves → (addressed.tests name).LooksAtAddress) ∧
      repetitive.selects addressed.tests { address := "/x" } = true ∧
      repetitive.selects addressed.tests
        { address := "/x", arguments := [.int 1], info := some ⟨"f"⟩ } = true ∧
      (repetitive.evaluate addressed.tests { address := "/x" }).2.countP
        (· == .custom "/x") = 2 := by
  obtain ⟨hverdict, -, -, haddress⟩ := evaluate_exact addressed repetitive
  have hinfo : repetitive.requiresInfo addressed.tests = false := by decide
  have htests (name : String) (_ : .custom name ∈ repetitive.leaves) :
      (addressed.tests name).LooksAtAddress := by
    intro m m' h
    show decide (m.address = name) = decide (m'.address = name)
    rw [h]
  have hselects : repetitive.selects addressed.tests { address := "/x" } = true := by
    decide +kernel
  refine ⟨hinfo, htests, hselects, ?_, (hverdict _).2.2 "/x"⟩
  rw [← hselects]
  exact haddress hinfo htests _ _ rfl

end Selector

end OpenSound
