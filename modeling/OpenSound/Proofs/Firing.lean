import OpenSound.Proofs.Agreement
import OpenSound.Proofs.Enrolment
import OpenSound.Proofs.Snapshot

/-!
# Who fires, whoever asks for type tags

Listeners are told of a message with its type tags if some selector depends on these, and of the
message as it came otherwise.  Type tags that are worked out for a message are those that selectors
read off its arguments anyway, and a message for which none can be worked out stays as it is.  So a
selector without custom tests comes to one verdict (`Dispatcher.selects_told`), and a registration
fires or does not whatever the other registrations depend on (`Dispatcher.plainFiring_eq_filter`).

Custom tests are left out, as they may look at the info of a message itself.
-/

namespace OpenSound

theorem Selector.selects_of_settled_eq {tests : CustomTests} {m m' : Message}
    (hm : m.settled = m'.settled) {selector : Selector} (h : selector.isPlain = true) :
    selector.selects tests m = selector.selects tests m' :=
  congrArg Prod.fst (evaluate_of_settled_eq hm h)

/-- Whether the registration has no custom tests and its selector selects the message. -/
def Registration.answers (tests : CustomTests) (m : Message) (r : Registration) : Bool :=
  r.selector.isPlain && r.selector.selects tests m

namespace Dispatcher

/-- The registrations that fire for a message: those whose selectors select it as the listeners are
told of it. -/
def firing (tests : CustomTests) (d : Dispatcher) (m : Message) : List Registration :=
  d.registrations.entries.filter (·.selector.selects tests (d.told m))

/-- Those without custom tests among the registrations that fire. -/
def plainFiring (tests : CustomTests) (d : Dispatcher) (m : Message) : List Registration :=
  (d.firing tests m).filter (·.selector.isPlain)

variable {tests : CustomTests} {d : Dispatcher} {m : Message}

/-! ### Verdicts -/

/-- The type tags of a message without an info are worked out, or it stays as it is. -/
theorem withTypeTags_of_info_eq_none (h : m.info = none) :
    (∃ info, ({ registry := d.registry } : Codec).messageInfo m = .ok info ∧
        d.withTypeTags m = m.withInfo info) ∨
      ∃ e, ({ registry := d.registry } : Codec).messageInfo m = .error e ∧
        d.withTypeTags m = m := by
  rw [withTypeTags, h]
  rcases ({ registry := d.registry } : Codec).messageInfo m with e | info
  · exact .inr ⟨e, rfl, rfl⟩
  · exact .inl ⟨info, rfl, rfl⟩

theorem settled_told (d : Dispatcher) (m : Message) : (d.told m).settled = m.settled := by
  rw [told]
  split_ifs
  · exact d.settled_withTypeTags m
  · rfl

theorem selects_told {selector : Selector} (h : selector.isPlain = true) :
    selector.selects tests (d.told m) = selector.selects tests m :=
  Selector.selects_of_settled_eq (d.settled_told m) h

/-- What fires is read off the registrations and the message, whether type tags are worked out or
not. -/
theorem plainFiring_eq_filter (tests : CustomTests) (d : Dispatcher) (m : Message) :
    d.plainFiring tests m = d.registrations.entries.filter (·.answers tests m) := by
  rw [plainFiring, firing, List.filter_filter]
  refine List.filter_congr fun r _ => ?_
  rw [Registration.answers]
  rcases hplain : r.selector.isPlain with _ | _
  · rfl
  · rw [selects_told hplain]

/-! ### Registrations that come and go -/

theorem plainFiring_addListener (tests : CustomTests) (d : Dispatcher) (m : Message)
    (selector : Selector) (listener : String) :
    (d.addListener tests selector listener).plainFiring tests m =
      d.plainFiring tests m ++
        [(⟨selector, listener⟩ : Registration)].filter (·.answers tests m) := by
  rw [plainFiring_eq_filter, plainFiring_eq_filter, ← List.filter_append]
  rfl

/-- A registration is removed from its place, or there is none to be removed. -/
theorem removeListener_cases (tests : CustomTests) (d : Dispatcher) (selector : Selector)
    (listener : String) :
    (∃ front r back, d.registrations.entries = front ++ r :: back ∧
        r.Concerns selector listener ∧
        (d.removeListener tests selector listener).2.registrations.entries = front ++ back) ∨
      (d.removeListener tests selector listener).2 = d := by
  have hremove : d.registrations.remove? tests selector listener = _ :=
    remove?_ofEntries tests d.registrations.entries selector listener
  rw [removeListener, hremove]
  split_ifs with hlists
  · obtain ⟨front, r, back, hroll, -, hconcerns, hstruck⟩ := Roll.exists_of_lists hlists
    exact .inl ⟨front, r, back, hroll, hconcerns, hstruck⟩
  · exact .inr rfl

theorem plainFiring_removeListener (tests : CustomTests) (d : Dispatcher) (m : Message)
    (selector : Selector) (listener : String) :
    (∃ front r back, d.registrations.entries = front ++ r :: back ∧
        r.Concerns selector listener ∧
        d.plainFiring tests m = front.filter (·.answers tests m) ++
          [r].filter (·.answers tests m) ++ back.filter (·.answers tests m) ∧
        (d.removeListener tests selector listener).2.plainFiring tests m =
          front.filter (·.answers tests m) ++ back.filter (·.answers tests m)) ∨
      (d.removeListener tests selector listener).2 = d := by
  refine (d.removeListener_cases tests selector listener).imp_left ?_
  rintro ⟨front, r, back, hentries, hconcerns, hleft⟩
  refine ⟨front, r, back, hentries, hconcerns, ?_, ?_⟩
  · rw [plainFiring_eq_filter, hentries, List.append_cons, List.filter_append, List.filter_append]
  · rw [plainFiring_eq_filter, hleft, List.filter_append]

/-- A message without an info gets the type tags that can be worked out for it, and otherwise stays
as it is; either way, a selector without custom tests comes to the verdict that it comes to without
them.  So those who are called for a message, up to one who breaks off, are found by the verdicts on
the message as it is: a registration that is added or removed comes in or drops out by itself,
whether it depends on type tags or not, and of the other ones those fire that fired before. -/
theorem fires_regardless_of_info (env : Surroundings) (d : Dispatcher) (m : Message) :
    (m.info = none →
      (∃ info, ({ registry := d.registry } : Codec).messageInfo m = .ok info ∧
          d.withTypeTags m = m.withInfo info) ∨
        ∃ e, ({ registry := d.registry } : Codec).messageInfo m = .error e ∧
          d.withTypeTags m = m) ∧
    (∀ selector : Selector, selector.isPlain = true →
      selector.selects env.tests (d.withTypeTags m) = selector.selects env.tests m) ∧
    (∀ process source time, ∃ called,
      GoesRound env process ⟨source, time, d.told m⟩ (d.handOver time m) d.registrations.entries
        called (deliver env process source time m d) ∧
      ((∃ d', deliver env process source time m d = .ok () d') ∧
          called = d.firing env.tests m ∨
        (∃ e d', deliver env process source time m d = .error e d') ∧
          called <+: d.firing env.tests m)) ∧
    d.plainFiring env.tests m = d.registrations.entries.filter (·.answers env.tests m) ∧
    ∀ selector listener,
      (d.addListener env.tests selector listener).plainFiring env.tests m =
        d.plainFiring env.tests m ++
          [(⟨selector, listener⟩ : Registration)].filter (·.answers env.tests m) ∧
      ((∃ front r back, d.registrations.entries = front ++ r :: back ∧
          r.Concerns selector listener ∧
          d.plainFiring env.tests m = front.filter (·.answers env.tests m) ++
            [r].filter (·.answers env.tests m) ++ back.filter (·.answers env.tests m) ∧
          (d.removeListener env.tests selector listener).2.plainFiring env.tests m =
            front.filter (·.answers env.tests m) ++ back.filter (·.answers env.tests m)) ∨
        (d.removeListener env.tests selector listener).2 = d) := by
  refine ⟨withTypeTags_of_info_eq_none, fun selector hplain => ?_, fun process source time => ?_,
    plainFiring_eq_filter env.tests d m, fun selector listener => ⟨?_, ?_⟩⟩
  · exact Selector.selects_of_settled_eq (d.settled_withTypeTags m) hplain
  · obtain ⟨called, hround⟩ := exists_goesRound_deliver env process source time m d
    exact ⟨called, hround, hround.called_eq⟩
  · exact plainFiring_addListener env.tests d m selector listener
  · exact plainFiring_removeListener env.tests d m selector listener

/-- A selector that looks at the type tags and at the address, and takes just one of the two. -/
def tagsOrAddress : Selector := .combined .xor (.typeTags "[[]i]?") (.address "/b")

/-- A dispatcher in which one registration alone depends on type tags. -/
def partlyTagged : Dispatcher :=
  { new {} .standard with
    registrations := .ofEntries quiet.tests [⟨.address "/a", "a"⟩, ⟨tagsOrAddress, "b"⟩,
      ⟨.address "/*", "c"⟩] }

def writableMessage : Message :=
  { address := "/a", arguments := [.array [.int 1], .string "x"] }

/-- There is no handler for the last argument. -/
def unwritableMessage : Message :=
  { address := "/a", arguments := [.array [.int 1], .custom 'x' []] }

/-- Type tags are worked out for one message and not for the other, both are selected by their tags,
and when nobody depends on type tags any more, the other listeners are called as before. -/
theorem fires_regardless_of_info_partlyTagged :
    (writableMessage.info = none ∧
      partlyTagged.withTypeTags writableMessage = writableMessage.withInfo ⟨"[i]s"⟩) ∧
    (unwritableMessage.info = none ∧
      partlyTagged.withTypeTags unwritableMessage = unwritableMessage) ∧
    (tagsOrAddress.isPlain = true ∧
      tagsOrAddress.selects quiet.tests (partlyTagged.withTypeTags writableMessage) =
        tagsOrAddress.selects quiet.tests writableMessage ∧
      tagsOrAddress.selects quiet.tests writableMessage = true) ∧
    (partlyTagged.plainFiring quiet.tests unwritableMessage).map (·.listener) = ["a", "b", "c"] ∧
    (partlyTagged.removeListener quiet.tests tagsOrAddress "b").2.registrations.infoRequired =
      false ∧
    ((partlyTagged.removeListener quiet.tests tagsOrAddress "b").2.plainFiring quiet.tests
      unwritableMessage).map (·.listener) = ["a", "c"] := by
  obtain ⟨hwritten, hverdict, -⟩ :=
    fires_regardless_of_info quiet partlyTagged writableMessage
  obtain ⟨hunwritten, -⟩ := fires_regardless_of_info quiet partlyTagged unwritableMessage
  have hinfo : ({ registry := partlyTagged.registry } : Codec).messageInfo writableMessage =
      .ok ⟨"[i]s"⟩ := by decide +kernel
  have herror : ({ registry := partlyTagged.registry } : Codec).messageInfo unwritableMessage =
      .error (.unknownType 'x') := by decide +kernel
  have hplain : tagsOrAddress.isPlain = true := by decide
  refine ⟨⟨rfl, ?_⟩, ⟨rfl, ?_⟩, ⟨hplain, hverdict _ hplain, by decide +kernel⟩,
    by decide +kernel, by decide +kernel, by decide +kernel⟩
  · obtain ⟨info, hok, htold⟩ | ⟨e, hfails, -⟩ := hwritten rfl
    · rw [hinfo] at hok
      rw [htold, Except.ok.inj hok]
    · rw [hinfo] at hfails
      cases hfails
  · obtain ⟨info, hok, -⟩ | ⟨e, -, htold⟩ := hunwritten rfl
    · rw [herror] at hok
      cases hok
    · exact htold

end Dispatcher

end OpenSound
