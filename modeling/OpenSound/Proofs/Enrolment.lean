import OpenSound.Dispatcher

/-!
# Registrations as a plain list

A `Roll` is a plain list of registrations: a new one goes to its end, and the first one of a
listener under a selector that is alike is struck off.  Whatever is registered and removed, a
dispatcher holds the registrations of the roll in its order, gives the answers of the roll, and
knows at every moment whether some selector on the roll depends on type tags
(`Dispatcher.registrations_follow_roll`).

`Selector.Alike` says which selectors are taken for the same one: trees of the same shape, whose
leaves are written alike or are the same custom test.
-/

namespace OpenSound

/-! ### Selectors that are alike -/

/-- Criteria that are taken for the same one.  Address patterns count by their parts, regular
expressions and patterns for type tags by their text, and custom tests by their identity. -/
inductive Criterion.Alike : Criterion → Criterion → Prop
  | address {a b : AddressPattern} (h : a.parts = b.parts) : Alike (.address a) (.address b)
  | regexAddress {a b : WholeRegex} (h : a.source = b.source) :
    Alike (.regexAddress a) (.regexAddress b)
  | typeTags (pattern : String) : Alike (.typeTags pattern) (.typeTags pattern)
  | regexTypeTags {a b : WholeRegex} (h : a.source = b.source) :
    Alike (.regexTypeTags a) (.regexTypeTags b)
  | custom (name : String) : Alike (.custom name) (.custom name)

/-- Selectors that are taken for the same one: the same operators around criteria that are alike. -/
inductive Selector.Alike : Selector → Selector → Prop
  | leaf {a b : Criterion} (h : a.Alike b) : Alike (.leaf a) (.leaf b)
  | combined (operator : Operator) {a b c d : Selector} (left : Alike a c) (right : Alike b d) :
    Alike (.combined operator a b) (.combined operator c d)

theorem AddressPattern.beq_iff {a b : AddressPattern} : (a == b) = true ↔ a.parts = b.parts :=
  beq_iff_eq (α := List (List Char))

theorem Criterion.beq_iff_alike {a b : Criterion} : (a == b) = true ↔ a.Alike b := by
  constructor
  · intro h
    change a.equal b = true at h
    cases a <;> cases b <;> simp only [equal, decide_eq_true_eq, Bool.false_eq_true] at h
    · exact .address (AddressPattern.beq_iff.1 h)
    · exact .regexAddress h
    · subst h
      exact .typeTags _
    · exact .regexTypeTags h
    · subst h
      exact .custom _
  · intro h
    change a.equal b = true
    cases h with
    | address h => exact AddressPattern.beq_iff.2 h
    | regexAddress h => exact decide_eq_true h
    | typeTags pattern => exact decide_eq_true rfl
    | regexTypeTags h => exact decide_eq_true h
    | custom name => exact decide_eq_true rfl

theorem Selector.beq_iff_alike {a b : Selector} : (a == b) = true ↔ a.Alike b := by
  change a.equal b = true ↔ a.Alike b
  constructor
  · intro h
    induction a generalizing b with
    | leaf a =>
      cases b with
      | leaf b => exact .leaf (Criterion.beq_iff_alike.1 h)
      | combined t c d => cases h
    | combined s a a' ih ih' =>
      cases b with
      | leaf b => cases h
      | combined t c d =>
        simp only [equal, Bool.and_eq_true, decide_eq_true_eq] at h
        obtain ⟨⟨rfl, hleft⟩, hright⟩ := h
        exact .combined s (ih hleft) (ih' hright)
  · intro h
    induction h with
    | leaf h => exact Criterion.beq_iff_alike.2 h
    | combined operator left right ihLeft ihRight =>
      simp only [equal, Bool.and_eq_true, decide_true, true_and]
      exact ⟨ihLeft, ihRight⟩

/-! ### Rolls -/

/-- Whether the registration is the listener's, under a selector that is alike. -/
def Registration.Concerns (r : Registration) (selector : Selector) (listener : String) : Prop :=
  r.selector.Alike selector ∧ r.listener = listener

theorem Registration.isFor_iff_concerns {r : Registration} {selector : Selector}
    {listener : String} : r.isFor selector listener = true ↔ r.Concerns selector listener := by
  rw [isFor, Bool.and_eq_true, Selector.beq_iff_alike, decide_eq_true_eq]
  rfl

instance (r : Registration) (selector : Selector) (listener : String) :
    Decidable (r.Concerns selector listener) :=
  decidable_of_iff _ Registration.isFor_iff_concerns

/-- A call that concerns the registrations. -/
inductive RegistrationCall where
  | add (selector : Selector) (listener : String)
  | remove (selector : Selector) (listener : String)

/-- Registrations as a plain list. -/
abbrev Roll := List Registration

namespace Roll

/-- Whether there is an entry for the listener under a selector that is alike. -/
def Lists (roll : Roll) (selector : Selector) (listener : String) : Prop :=
  ∃ r ∈ roll, r.Concerns selector listener

instance (roll : Roll) (selector : Selector) (listener : String) :
    Decidable (roll.Lists selector listener) :=
  inferInstanceAs (Decidable (∃ r ∈ roll, r.Concerns selector listener))

/-- What a call makes of the roll: a new entry goes to the end, and of the entries to be removed the
first one is struck off. -/
def take (roll : Roll) : RegistrationCall → Roll
  | .add selector listener => roll ++ [⟨selector, listener⟩]
  | .remove selector listener => roll.eraseP fun r => r.Concerns selector listener

/-- What a call is answered: whether there was an entry to be struck off, if that was asked for. -/
def answer? (roll : Roll) : RegistrationCall → Option Bool
  | .add _ _ => none
  | .remove selector listener => some (decide (roll.Lists selector listener))

variable {roll : Roll} {selector : Selector} {listener : String}

/-- What is struck off is the first entry that is meant; the others stay in their order. -/
theorem exists_of_lists (h : roll.Lists selector listener) :
    ∃ front r back, roll = front ++ r :: back ∧
      (∀ earlier ∈ front, ¬ earlier.Concerns selector listener) ∧ r.Concerns selector listener ∧
      roll.take (.remove selector listener) = front ++ back := by
  obtain ⟨r, hr, hconcerns⟩ := h
  obtain ⟨first, front, back, hfront, hfirst, hroll, hstruck⟩ :=
    List.exists_of_eraseP (p := fun r : Registration => decide (r.Concerns selector listener)) hr
      (decide_eq_true hconcerns)
  refine ⟨front, first, back, hroll, fun earlier hearlier hmeant => ?_, of_decide_eq_true hfirst,
    hstruck⟩
  exact hfront earlier hearlier (decide_eq_true hmeant)

/-- Where there is no entry to be struck off, the roll stays as it is. -/
theorem take_remove_of_not_lists (h : ¬ roll.Lists selector listener) :
    roll.take (.remove selector listener) = roll :=
  List.eraseP_of_forall_not fun r hr hconcerns => h ⟨r, hr, of_decide_eq_true hconcerns⟩

/-- What calls make of the roll, one after the other, and what they are answered. -/
def takeAll : List RegistrationCall → Roll → List (Option Bool) × Roll
  | [], roll => ([], roll)
  | call :: calls, roll =>
    let (answers, after) := takeAll calls (roll.take call)
    (roll.answer? call :: answers, after)

end Roll

/-! ### Dispatchers -/

namespace Dispatcher

variable (tests : CustomTests)

/-- Answers a call that concerns the registrations. -/
def register (d : Dispatcher) : RegistrationCall → Option Bool × Dispatcher
  | .add selector listener => (none, d.addListener tests selector listener)
  | .remove selector listener =>
    let (found, d) := d.removeListener tests selector listener
    (some found, d)

/-- Answers calls one after the other. -/
def registerAll : List RegistrationCall → Dispatcher → List (Option Bool) × Dispatcher
  | [], d => ([], d)
  | call :: calls, d =>
    let (answer, d) := d.register tests call
    let (answers, d) := registerAll calls d
    (answer :: answers, d)

/-- The dispatcher with the registrations of a roll. -/
def withRoll (d : Dispatcher) (roll : Roll) : Dispatcher :=
  { d with registrations := .ofEntries tests roll }

variable {tests} {d : Dispatcher} {roll : Roll}

theorem infoRequired_withRoll :
    (d.withRoll tests roll).registrations.infoRequired = true ↔
      ∃ r ∈ roll, r.selector.requiresInfo tests = true :=
  List.any_eq_true

/-- A registration is sought by a place, which is that of the first entry on the roll. -/
theorem remove?_ofEntries (tests : CustomTests) (roll : Roll) (selector : Selector) (listener : String) :
    (Registrations.ofEntries tests roll).remove? tests selector listener =
      if roll.Lists selector listener then
        some (.ofEntries tests (roll.take (.remove selector listener)))
      else none := by
  have hfor : (fun r : Registration => r.isFor selector listener)
      = fun r => decide (r.Concerns selector listener) := by
    funext r
    rw [Bool.eq_iff_iff, Registration.isFor_iff_concerns, decide_eq_true_eq]
  unfold Registrations.remove? Registrations.ofEntries Roll.take
  dsimp only
  rw [hfor, List.eraseP_eq_eraseIdx]
  by_cases h : roll.Lists selector listener
  · rw [if_pos h]
    obtain ⟨r, hr, hconcerns⟩ := h
    have hany : roll.any (fun r => decide (r.Concerns selector listener)) = true :=
      List.any_eq_true.2 ⟨r, hr, decide_eq_true hconcerns⟩
    rw [← List.findIdx?_isSome, Option.isSome_iff_exists] at hany
    obtain ⟨index, hindex⟩ := hany
    rw [hindex]
    rfl
  · rw [if_neg h, Option.map_eq_none_iff, List.findIdx?_eq_none_iff]
    exact fun r hr => decide_eq_false fun hconcerns => h ⟨r, hr, hconcerns⟩

theorem removeListener_of_lists {selector : Selector} {listener : String}
    (h : roll.Lists selector listener) :
    (d.withRoll tests roll).removeListener tests selector listener
      = (true, d.withRoll tests (roll.take (.remove selector listener))) := by
  have hremove := remove?_ofEntries tests roll selector listener
  rw [if_pos h] at hremove
  simp only [removeListener, withRoll, hremove]

/-- Without an entry for it nothing is removed, and nothing else changes either. -/
theorem removeListener_of_not_lists {selector : Selector} {listener : String}
    (h : ¬ roll.Lists selector listener) :
    (d.withRoll tests roll).removeListener tests selector listener
      = (false, d.withRoll tests roll) := by
  have hremove := remove?_ofEntries tests roll selector listener
  rw [if_neg h] at hremove
  simp only [removeListener, withRoll, hremove]

/-- One call. -/
theorem register_withRoll (call : RegistrationCall) :
    (d.withRoll tests roll).register tests call
      = (roll.answer? call, d.withRoll tests (roll.take call)) := by
  cases call with
  | add selector listener => rfl
  | remove selector listener =>
    simp only [register, Roll.answer?]
    by_cases h : roll.Lists selector listener
    · rw [removeListener_of_lists h, decide_eq_true h]
    · rw [removeListener_of_not_lists h, decide_eq_false h, Roll.take_remove_of_not_lists h]

/-- All calls. -/
theorem registerAll_withRoll (calls : List RegistrationCall) :
    registerAll tests calls (d.withRoll tests roll)
      = ((Roll.takeAll calls roll).1, d.withRoll tests (Roll.takeAll calls roll).2) := by
  induction calls generalizing roll with
  | nil => rfl
  | cons call calls ih =>
    unfold registerAll Roll.takeAll
    rw [register_withRoll]
    dsimp only
    rw [ih]

/-- Whatever is registered and removed, the registrations are those of the roll and in its order,
the answers are those of the roll, and it is known whether some selector on the roll depends on type
tags.  A removal strikes off the first entry for the listener under a selector that is alike, and
changes nothing if there is none. -/
theorem registrations_follow_roll (tests : CustomTests) (settings : Settings) (registry : Registry)
    (calls : List RegistrationCall) :
    let start := Dispatcher.new settings registry
    let (answers, d) := registerAll tests calls start
    let (expected, roll) := Roll.takeAll calls []
    answers = expected ∧ d.registrations.entries = roll ∧ d.listenerCount = roll.length ∧
      (d.registrations.infoRequired = true ↔ ∃ r ∈ roll, r.selector.requiresInfo tests = true) ∧
      d = { start with registrations := d.registrations } ∧
      ∀ selector listener,
        (∃ front r back, roll = front ++ r :: back ∧
          (∀ earlier ∈ front, ¬ earlier.Concerns selector listener) ∧ r.Concerns selector listener ∧
          ∃ d', d.removeListener tests selector listener = (true, d') ∧
            d'.registrations.entries = front ++ back) ∨
        ((∀ r ∈ roll, ¬ r.Concerns selector listener) ∧
          d.removeListener tests selector listener = (false, d)) := by
  intro start
  have hstart : start = start.withRoll tests [] := rfl
  rw [hstart, registerAll_withRoll]
  dsimp only
  generalize (Roll.takeAll calls []).2 = roll
  refine ⟨rfl, rfl, rfl, infoRequired_withRoll, rfl, fun selector listener => ?_⟩
  by_cases h : roll.Lists selector listener
  · obtain ⟨front, r, back, hroll, hfront, hconcerns, hstruck⟩ := Roll.exists_of_lists h
    exact .inl ⟨front, r, back, hroll, hfront, hconcerns, _, removeListener_of_lists h, hstruck⟩
  · exact .inr ⟨fun r hr hconcerns => h ⟨r, hr, hconcerns⟩, removeListener_of_not_lists h⟩

end Dispatcher

end OpenSound
