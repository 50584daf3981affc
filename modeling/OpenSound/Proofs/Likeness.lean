import OpenSound.Proofs.Firing
import OpenSound.Proofs.Path
import OpenSound.Proofs.Verdicts

/-!
# Selectors that are alike

Selectors are compared by their shape and by three different measures at their leaves: address
patterns by their parts, regular expressions and patterns for type tags by their texts, and custom
tests by their identity.  All the same the comparison is an equivalence, and selectors that are
alike behave alike (`Selector.equality_sound`), so that a registration is never removed for another
one that behaves differently.  An address pattern has the same parts with and without a slash in
front and with and without one behind.
-/

namespace OpenSound

/-! ### An equivalence -/

namespace Criterion.Alike

variable {a b c : Criterion}

theorem refl (a : Criterion) : a.Alike a := by
  cases a with
  | address pattern => exact .address rfl
  | regexAddress regex => exact .regexAddress rfl
  | typeTags pattern => exact .typeTags pattern
  | regexTypeTags regex => exact .regexTypeTags rfl
  | custom name => exact .custom name

theorem symm (h : a.Alike b) : b.Alike a := by
  cases h with
  | address h => exact .address h.symm
  | regexAddress h => exact .regexAddress h.symm
  | typeTags pattern => exact .typeTags pattern
  | regexTypeTags h => exact .regexTypeTags h.symm
  | custom name => exact .custom name

theorem trans (h : a.Alike b) (h' : b.Alike c) : a.Alike c := by
  cases h with
  | address h =>
    cases h' with
    | address h' => exact .address (h.trans h')
  | regexAddress h =>
    cases h' with
    | regexAddress h' => exact .regexAddress (h.trans h')
  | typeTags pattern => exact h'
  | regexTypeTags h =>
    cases h' with
    | regexTypeTags h' => exact .regexTypeTags (h.trans h')
  | custom name => exact h'

end Criterion.Alike

namespace Selector.Alike

variable {a b c : Selector}

theorem refl (a : Selector) : a.Alike a := by
  induction a with
  | leaf criterion => exact .leaf (.refl criterion)
  | combined operator left right ihLeft ihRight => exact .combined operator ihLeft ihRight

theorem symm (h : a.Alike b) : b.Alike a := by
  induction h with
  | leaf h => exact .leaf h.symm
  | combined operator _ _ ihLeft ihRight => exact .combined operator ihLeft ihRight

theorem trans (h : a.Alike b) (h' : b.Alike c) : a.Alike c := by
  induction h generalizing c with
  | leaf h =>
    cases h' with
    | leaf h' => exact .leaf (h.trans h')
  | combined operator _ _ ihLeft ihRight =>
    cases h' with
    | combined _ left right => exact .combined operator (ihLeft left) (ihRight right)

end Selector.Alike

theorem Selector.equivalence_beq : Equivalence fun a b : Selector => (a == b) = true where
  refl a := beq_iff_alike.2 (.refl a)
  symm h := beq_iff_alike.2 (beq_iff_alike.1 h).symm
  trans h h' := beq_iff_alike.2 ((beq_iff_alike.1 h).trans (beq_iff_alike.1 h'))

/-! ### Behaviour -/

section Behaviour

variable (tests : CustomTests) (m : Message)

/-- A pattern matches by its parts. -/
theorem AddressPattern.isMatch_of_parts_eq {p q : AddressPattern} (h : p.parts = q.parts)
    (address : String) : p.isMatch address = q.isMatch address := by
  rw [isMatch, isMatch, h]

theorem WholeRegex.isMatch_of_source_eq {r s : WholeRegex} (h : r.source = s.source)
    (text : String) : r.isMatch text = s.isMatch text := by
  rw [isMatch, isMatch, regex_eq_of_source_eq h]

theorem Criterion.Alike.isMet_eq {a b : Criterion} (h : a.Alike b) :
    a.isMet tests m = b.isMet tests m := by
  cases h with
  | address h => exact AddressPattern.isMatch_of_parts_eq h m.address
  | regexAddress h => exact WholeRegex.isMatch_of_source_eq h m.address
  | typeTags pattern => rfl
  | regexTypeTags h => exact WholeRegex.isMatch_of_source_eq h m.typeTags
  | custom name => rfl

theorem Criterion.Alike.requiresInfo_eq {a b : Criterion} (h : a.Alike b) :
    a.requiresInfo tests = b.requiresInfo tests := by
  cases h <;> rfl

theorem Selector.Alike.selects_eq {a b : Selector} (h : a.Alike b) :
    a.selects tests m = b.selects tests m := by
  induction h with
  | leaf h => exact h.isMet_eq tests m
  | combined operator _ _ ihLeft ihRight =>
    rw [selects_combined, selects_combined, ihLeft, ihRight]

theorem Selector.Alike.requiresInfo_eq {a b : Selector} (h : a.Alike b) :
    a.requiresInfo tests = b.requiresInfo tests := by
  induction h with
  | leaf h => exact h.requiresInfo_eq tests
  | combined operator _ _ ihLeft ihRight =>
    rw [Selector.requiresInfo, Selector.requiresInfo, ihLeft, ihRight]

end Behaviour

/-! ### Slashes at the ends of a pattern -/

namespace Address

theorem partsBefore_nil : partsBefore [] = [] := by decide

theorem partsBehind_of_head? {path : List Char} (hne : path ≠ []) (hhead : path.head? ≠ some '/') :
    partsBehind path = splitParts path := by
  unfold splitParts partsBehind
  dsimp only
  rw [if_neg hhead, List.getLast?_cons_of_ne_nil hne]

theorem splitParts_slash {path : List Char} (hne : path ≠ []) (hhead : path.head? ≠ some '/') :
    splitParts ('/' :: path) = splitParts path := by
  rw [← partsBehind_of_head? hne hhead, ← List.nil_append (partsBehind path), ← partsBefore_nil]
  exact splitParts_append [] path

end Address

namespace AddressPattern

/-- A pattern has the same parts without the slash in front of it, if something other than a slash
stands behind that. -/
theorem parts_slash_append {text : String} (hne : text ≠ "")
    (hhead : text.toList.head? ≠ some '/') :
    (⟨"/" ++ text⟩ : AddressPattern).parts = (⟨text⟩ : AddressPattern).parts := by
  have hpath : text.toList ≠ [] := mt String.toList_eq_nil_iff.1 hne
  unfold parts
  rw [String.toList_append]
  exact Address.splitParts_slash hpath hhead

/-- A pattern has the same parts without the slash behind it, if something other than a slash stands
in front of that. -/
theorem parts_append_slash {text : String} (hne : text ≠ "")
    (hlast : text.toList.getLast? ≠ some '/') :
    (⟨text ++ "/"⟩ : AddressPattern).parts = (⟨text⟩ : AddressPattern).parts := by
  have hpath : text.toList ≠ [] := mt String.toList_eq_nil_iff.1 hne
  unfold parts
  rw [String.toList_append]
  show Address.splitParts (text.toList ++ ['/']) = _
  rw [Address.splitParts_append_slash, Address.splitParts_of_getLast? hpath hlast]

theorem hash_of_parts_eq {p q : AddressPattern} (h : p.parts = q.parts) : hash p = hash q :=
  congrArg (fun parts : List (List Char) => hash (parts.map String.ofList)) h

end AddressPattern

/-! ### Removal -/

/-- What is removed is the first registration of the listener under a selector that is alike. -/
theorem Dispatcher.exists_of_removeListener {tests : CustomTests} {d d' : Dispatcher}
    {selector : Selector} {listener : String}
    (h : d.removeListener tests selector listener = (true, d')) :
    ∃ front r back, d.registrations.entries = front ++ r :: back ∧
      r.Concerns selector listener ∧ d'.registrations.entries = front ++ back := by
  have hremove : d.registrations.remove? tests selector listener = _ :=
    remove?_ofEntries tests d.registrations.entries selector listener
  rw [removeListener, hremove] at h
  split_ifs at h with hlists
  · obtain ⟨front, r, back, hroll, -, hconcerns, hstruck⟩ := Roll.exists_of_lists hlists
    obtain ⟨-, rfl⟩ := Prod.mk.inj h
    exact ⟨front, r, back, hroll, hconcerns, hstruck⟩
  · cases h

/-- Equality of selectors is an equivalence, and selectors that are equal come to the same verdicts
and depend on type tags alike.  So what is removed for a selector behaves as that selector does.
Address patterns are equal when their parts are, whatever text they were made from, and then they
have one hash and match the same addresses; this is so for a pattern with a slash put in front of it
or behind it, unless it has one there or is empty. -/
theorem Selector.equality_sound :
    (Equivalence fun a b : Selector => (a == b) = true) ∧
    (∀ a b : Selector, (a == b) = true → ∀ tests,
      (∀ m, a.selects tests m = b.selects tests m) ∧
        a.requiresInfo tests = b.requiresInfo tests) ∧
    (∀ tests (d d' : Dispatcher) selector listener,
      d.removeListener tests selector listener = (true, d') →
      ∃ front r back, d.registrations.entries = front ++ r :: back ∧
        d'.registrations.entries = front ++ back ∧ r.listener = listener ∧
        (∀ m, r.selector.selects tests m = selector.selects tests m) ∧
        r.selector.requiresInfo tests = selector.requiresInfo tests) ∧
    (∀ p q : AddressPattern, ((p == q) = true ↔ p.parts = q.parts) ∧
      ((p == q) = true → hash p = hash q ∧ ∀ address, p.isMatch address = q.isMatch address)) ∧
    ∀ text : String, text ≠ "" →
      (text.toList.head? ≠ some '/' →
        ((⟨"/" ++ text⟩ : AddressPattern) == ⟨text⟩) = true) ∧
      (text.toList.getLast? ≠ some '/' →
        ((⟨text ++ "/"⟩ : AddressPattern) == ⟨text⟩) = true) := by
  refine ⟨equivalence_beq, fun a b hbeq tests => ?_, fun tests d d' selector listener hremove => ?_,
    fun p q => ⟨AddressPattern.beq_iff, fun hbeq => ?_⟩, fun text hne => ⟨fun hhead => ?_,
    fun hlast => ?_⟩⟩
  · have halike := beq_iff_alike.1 hbeq
    exact ⟨fun m => halike.selects_eq tests m, halike.requiresInfo_eq tests⟩
  · obtain ⟨front, r, back, hentries, ⟨halike, hlistener⟩, hleft⟩ :=
      Dispatcher.exists_of_removeListener hremove
    exact ⟨front, r, back, hentries, hleft, hlistener, fun m => halike.selects_eq tests m,
      halike.requiresInfo_eq tests⟩
  · have hparts := AddressPattern.beq_iff.1 hbeq
    exact ⟨AddressPattern.hash_of_parts_eq hparts, AddressPattern.isMatch_of_parts_eq hparts⟩
  · exact AddressPattern.beq_iff.2 (AddressPattern.parts_slash_append hne hhead)
  · exact AddressPattern.beq_iff.2 (AddressPattern.parts_append_slash hne hlast)

/-- One selector of a path and a custom test, written with a slash in front of the path and written
with one behind it. -/
def slashedInFront : Selector := .combined .xor (.address "/x/*") (.leaf (.custom "t"))

def slashedBehind : Selector := .combined .xor (.address "x/*/") (.leaf (.custom "t"))

/-- A dispatcher with two registrations of one listener. -/
def withSlashes : Dispatcher :=
  { Dispatcher.new {} .empty with
    registrations := .ofEntries Dispatcher.quiet.tests
      [⟨.address "/x/*", "a"⟩, ⟨slashedInFront, "a"⟩] }

/-- A registration is removed for the selector that is written otherwise, and the one in front of it
stays. -/
theorem Selector.equality_sound_slashedBehind :
    (slashedInFront == slashedBehind) = true ∧
      slashedInFront.selects Dispatcher.quiet.tests { address := "/x/y" } =
        slashedBehind.selects Dispatcher.quiet.tests { address := "/x/y" } ∧
      (∃ d', withSlashes.removeListener Dispatcher.quiet.tests slashedBehind "a" = (true, d') ∧
        d'.registrations.entries.length = 1 ∧
        ∃ front r back, withSlashes.registrations.entries = front ++ r :: back ∧
          d'.registrations.entries = front ++ back ∧ r.listener = "a" ∧
          r.selector.selects Dispatcher.quiet.tests { address := "/x/y" } = true) ∧
      "x/y" ≠ "" ∧ "x/y".toList.head? ≠ some '/' ∧
      ((⟨"/" ++ "x/y"⟩ : AddressPattern) == ⟨"x/y"⟩) = true := by
  obtain ⟨-, hbehaves, hremoves, -, hslashes⟩ := equality_sound
  have hbeq : (slashedInFront == slashedBehind) = true := by decide +kernel
  have hverdict : slashedBehind.selects Dispatcher.quiet.tests { address := "/x/y" } = true := by
    decide +kernel
  have hremoved : withSlashes.removeListener Dispatcher.quiet.tests slashedBehind "a" =
      (true, (withSlashes.removeListener Dispatcher.quiet.tests slashedBehind "a").2) :=
    Prod.ext (by decide +kernel) rfl
  obtain ⟨front, r, back, hentries, hleft, hlistener, hselects, -⟩ := hremoves _ _ _ _ _ hremoved
  have hhead : "x/y".toList.head? ≠ some '/' := by decide
  refine ⟨hbeq, (hbehaves _ _ hbeq _).1 _, ⟨_, hremoved, by decide +kernel, front, r, back,
    hentries, hleft, hlistener, (hselects _).trans hverdict⟩, by decide, hhead, ?_⟩
  exact (hslashes "x/y" (by decide)).1 hhead

end OpenSound
