import OpenSound.Proofs.Traversal

/-!
# Delivery by snapshot

While a message goes round the registrations, the listeners that are called may add and remove some
and dispatch packets of their own.  The round goes by the registrations as they stood when it began
(`Dispatcher.exists_goesRound`): every selector of that list is evaluated once, and the listeners of
those that select the message are called, once for each registration, in the order of the list.
What the listeners change is found by the next message that is handed to them
(`Dispatcher.Delivers.flows`), and by those of the packets they dispatch.
-/

namespace OpenSound

namespace Dispatcher

/-- How a step ends: in a state, and broken off or not. -/
abbrev Outcome := EStateM.Result Interruption Dispatcher Unit

/-! ### A message among registrations -/

/-- The message as the listeners are told of it: with its type tags, if a selector depends on
them. -/
def told (d : Dispatcher) (m : Message) : Message :=
  if d.registrations.infoRequired then d.withTypeTags m else m

/-- Notes that a selector is evaluated, which asks each of its criteria once. -/
def noteAsked (tests : CustomTests) (d : Dispatcher) (selector : Selector) (m : Message) :
    Dispatcher :=
  (selector.evaluate tests m).2.foldl (fun d criterion => d.note (.asked criterion)) d

/-- A message goes round registrations, whatever the state has become by the time that it gets to
one of them: the selector is evaluated once, and if it selects the message, the listener is called
once.  If the call is broken off, the round ends with it. -/
inductive GoesRound (env : Surroundings) (process : Arrival → Source → Step Unit) (event : Event) :
    Dispatcher → (entries called : List Registration) → Outcome → Prop
  | done {d} : GoesRound env process event d [] [] (.ok () d)
  | passed {d registration entries called outcome} :
      registration.selector.selects env.tests event.message = false →
      GoesRound env process event (d.noteAsked env.tests registration.selector event.message)
        entries called outcome →
      GoesRound env process event d (registration :: entries) called outcome
  | called {d d' registration entries called outcome} :
      registration.selector.selects env.tests event.message = true →
      call env process registration.listener (.message event)
        (d.noteAsked env.tests registration.selector event.message) = .ok () d' →
      GoesRound env process event d' entries called outcome →
      GoesRound env process event d (registration :: entries) (registration :: called) outcome
  | brokenOff {d d' registration entries e} :
      registration.selector.selects env.tests event.message = true →
      call env process registration.listener (.message event)
        (d.noteAsked env.tests registration.selector event.message) = .error e d' →
      GoesRound env process event d (registration :: entries) [registration] (.error e d')

section Round

variable {env : Surroundings} {process : Arrival → Source → Step Unit} {event : Event}
  {d : Dispatcher} {registration : Registration} {entries called : List Registration}
  {outcome : Outcome}

theorem selects_eq_ok (env : Surroundings) (selector : Selector) (m : Message) (d : Dispatcher) :
    selects env selector m d =
      .ok (selector.selects env.tests m) (d.noteAsked env.tests selector m) := rfl

theorem offer_of_selects (h : registration.selector.selects env.tests event.message = true) :
    offer env process event registration d =
      call env process registration.listener (.message event)
        (d.noteAsked env.tests registration.selector event.message) := by
  have hasked := selects_eq_ok env registration.selector event.message d
  rw [h] at hasked
  exact bind_of_eq_ok hasked

theorem offer_of_not_selects (h : registration.selector.selects env.tests event.message = false) :
    offer env process event registration d =
      .ok () (d.noteAsked env.tests registration.selector event.message) := by
  have hasked := selects_eq_ok env registration.selector event.message d
  rw [h] at hasked
  exact bind_of_eq_ok hasked

variable (env process event) in
/-- Offering a message to registrations lets it go round them. -/
theorem exists_goesRound (entries : List Registration) (d : Dispatcher) :
    ∃ called, GoesRound env process event d entries called
      (entries.forM (offer env process event) d) := by
  -- the list stays the one that was read at the start, while the state may become any other
  induction entries generalizing d with
  | nil => exact ⟨[], .done⟩
  | cons registration entries ih =>
    rcases hselects : registration.selector.selects env.tests event.message with _ | _
    · obtain ⟨called, hround⟩ := ih (d.noteAsked env.tests registration.selector event.message)
      rw [forM_cons_of_eq_ok (offer_of_not_selects hselects)]
      exact ⟨called, .passed hselects hround⟩
    · have hoffer : offer env process event registration d = _ := offer_of_selects hselects
      rcases hcall : call env process registration.listener (.message event)
        (d.noteAsked env.tests registration.selector event.message) with ⟨_, d'⟩ | ⟨e, d'⟩
      · obtain ⟨called, hround⟩ := ih d'
        rw [forM_cons_of_eq_ok (hoffer.trans hcall)]
        exact ⟨registration :: called, .called hselects hcall hround⟩
      · rw [forM_cons_of_eq_error (hoffer.trans hcall)]
        exact ⟨[registration], .brokenOff hselects hcall⟩

variable (env process) in
/-- A message that is delivered goes round the registrations as they stand. -/
theorem exists_goesRound_deliver (source : Source) (time : TimeTag) (m : Message)
    (d : Dispatcher) :
    ∃ called, GoesRound env process ⟨source, time, d.told m⟩ (d.handOver time m)
      d.registrations.entries called (deliver env process source time m d) :=
  exists_goesRound env process ⟨source, time, d.told m⟩ d.registrations.entries
    (d.handOver time m)

/-- Those are called whose selectors select the message, up to the one with which the round is
broken off. -/
theorem GoesRound.called_eq (h : GoesRound env process event d entries called outcome) :
    (∃ d', outcome = .ok () d') ∧
        called = entries.filter (·.selector.selects env.tests event.message) ∨
      (∃ e d', outcome = .error e d') ∧
        called <+: entries.filter (·.selector.selects env.tests event.message) := by
  induction h with
  | done => exact .inl ⟨⟨_, rfl⟩, rfl⟩
  | passed hselects _ ih => rwa [List.filter_cons, if_neg (ne_true_of_eq_false hselects)]
  | called hselects _ _ ih =>
    rw [List.filter_cons, if_pos hselects]
    rcases ih with ⟨hok, rfl⟩ | ⟨herror, hprefix⟩
    · exact .inl ⟨hok, rfl⟩
    · exact .inr ⟨herror, (List.prefix_cons_inj _).2 hprefix⟩
  | brokenOff hselects _ =>
    rw [List.filter_cons, if_pos hselects]
    exact .inr ⟨⟨_, _, rfl⟩, (List.prefix_cons_inj _).2 List.nil_prefix⟩

end Round

/-! ### The messages of a packet -/

/-- Nothing has happened but that the clock may have been read. -/
def OnlyClockRead (d d' : Dispatcher) : Prop := d' = { d with readings := d'.readings }

/-- A message that is handed to the listeners, with the state that it finds and the one that it
leaves. -/
structure Delivery where
  time : TimeTag
  message : Message
  before : Dispatcher
  after : Dispatcher

/-- Messages are gone through in order.  Each is handed to the listeners, or the bundle around it is
put off with all that is in it.  If the handing over of one is broken off, or a bundle cannot be put
off, the rest is left. -/
inductive Delivers (env : Surroundings) (process : Arrival → Source → Step Unit) (source : Source) :
    Dispatcher → List (TimeTag × Message) → List Delivery → Outcome → Prop
  | done {d d'} :
      OnlyClockRead d d' →
      Delivers env process source d [] [] (.ok () d')
  | delivered {d before after time m messages deliveries outcome} :
      OnlyClockRead d before →
      deliver env process source time m before = .ok () after →
      Delivers env process source after messages deliveries outcome →
      Delivers env process source d ((time, m) :: messages)
        (⟨time, m, before, after⟩ :: deliveries) outcome
  | brokenOff {d before after time m messages e} :
      OnlyClockRead d before →
      deliver env process source time m before = .error e after →
      Delivers env process source d ((time, m) :: messages) [⟨time, m, before, after⟩]
        (.error e after)
  | putOff {d before after time elements delay messages deliveries outcome} :
      OnlyClockRead d before →
      defer env source time elements delay before = .ok () after →
      Delivers env process source after messages deliveries outcome →
      Delivers env process source d (Packet.timedAll time elements ++ messages) deliveries outcome
  | failed {d before after time elements delay messages e} :
      OnlyClockRead d before →
      defer env source time elements delay before = .error e after →
      Delivers env process source d (Packet.timedAll time elements ++ messages) [] (.error e after)

/-- The first message finds the registrations that there are, and each other one finds those that
the message before it has left. -/
def Flows : Registrations → List Delivery → Registrations → Prop
  | registrations, [], left => left = registrations
  | registrations, delivery :: rest, left =>
    delivery.before.registrations = registrations ∧
      Flows delivery.after.registrations rest left

section Course

variable {env : Surroundings} {process : Arrival → Source → Step Unit} {source : Source}
  {d d' d'' : Dispatcher} {messages messages' : List (TimeTag × Message)}
  {deliveries deliveries' : List Delivery} {outcome : Outcome}

theorem OnlyClockRead.refl (d : Dispatcher) : OnlyClockRead d d := rfl

theorem onlyClockRead_read (d : Dispatcher) :
    OnlyClockRead d { d with readings := d.readings + 1 } := rfl

theorem OnlyClockRead.registrations_eq (h : OnlyClockRead d d') :
    d'.registrations = d.registrations := by
  rw [h]

theorem OnlyClockRead.trans (h : OnlyClockRead d d') (h' : OnlyClockRead d' d'') :
    OnlyClockRead d d'' := by
  rw [OnlyClockRead, h', h]

theorem Delivers.of_onlyClockRead (h : OnlyClockRead d d')
    (hdelivers : Delivers env process source d' messages deliveries outcome) :
    Delivers env process source d messages deliveries outcome := by
  cases hdelivers with
  | done hread => exact .done (h.trans hread)
  | delivered hread hdeliver hrest => exact .delivered (h.trans hread) hdeliver hrest
  | brokenOff hread hdeliver => exact .brokenOff (h.trans hread) hdeliver
  | putOff hread hdefer hrest => exact .putOff (h.trans hread) hdefer hrest
  | failed hread hdefer => exact .failed (h.trans hread) hdefer

theorem Delivers.append (h : Delivers env process source d messages deliveries (.ok () d'))
    (h' : Delivers env process source d' messages' deliveries' outcome) :
    Delivers env process source d (messages ++ messages') (deliveries ++ deliveries') outcome := by
  generalize hend : (EStateM.Result.ok () d' : Outcome) = o at h
  induction h with
  | done hread =>
    cases hend
    exact h'.of_onlyClockRead hread
  | delivered hread hdeliver _ ih => exact .delivered hread hdeliver (ih hend)
  | brokenOff _ _ => cases hend
  | putOff hread hdefer _ ih =>
    rw [List.append_assoc]
    exact .putOff hread hdefer (ih hend)
  | failed _ _ => cases hend

/-- What would come behind messages is left if it does not come to their end. -/
theorem Delivers.append_of_error {e : Interruption}
    (h : Delivers env process source d messages deliveries (.error e d'))
    (messages' : List (TimeTag × Message)) :
    Delivers env process source d (messages ++ messages') deliveries (.error e d') := by
  generalize hend : (EStateM.Result.error e d' : Outcome) = o at h
  induction h with
  | done _ => cases hend
  | delivered hread hdeliver _ ih => exact .delivered hread hdeliver (ih hend)
  | brokenOff hread hdeliver => exact .brokenOff hread hdeliver
  | putOff hread hdefer _ ih =>
    rw [List.append_assoc]
    exact .putOff hread hdefer (ih hend)
  | failed hread hdefer =>
    rw [List.append_assoc]
    exact .failed hread hdefer

/-- Nobody registers or deregisters while a bundle is put off. -/
theorem leads_registrations_defer {time : TimeTag} {elements : List Packet} {delay : Nat} :
    Leads (fun d d' => d'.registrations = d.registrations)
      (fun _ d d' => d'.registrations = d.registrations)
      (defer env source time elements delay) := by
  intro d
  rcases defer_cases env source time elements delay d with hrun | ⟨-, hrun⟩
  · rw [hrun]
    rfl
  · rw [hrun]

/-- Between one message and the next, nobody registers or deregisters. -/
theorem Delivers.flows {x : Step Unit}
    (h : Delivers env process source d messages deliveries (x d')) :
    Flows d.registrations deliveries (endState x d').registrations := by
  -- all that follows one delivery ends where the step ends
  generalize hend : x d' = outcome at h
  induction h with
  | done hread =>
    rw [endState, hend]
    exact hread.registrations_eq
  | delivered hread _ _ ih => exact ⟨hread.registrations_eq, ih hend⟩
  | brokenOff hread _ =>
    rw [endState, hend]
    exact ⟨hread.registrations_eq, rfl⟩
  | putOff hread hdefer _ ih =>
    rw [← hread.registrations_eq, ← leads_registrations_defer.of_eq_ok hdefer]
    exact ih hend
  | failed hread hdefer =>
    rw [endState, hend]
    exact (leads_registrations_defer.of_eq_error hdefer).trans hread.registrations_eq

end Course

/-! ### Steps that go through messages -/

/-- From every state, the step goes through the messages. -/
def GoesThrough (env : Surroundings) (process : Arrival → Source → Step Unit) (source : Source)
    (messages : List (TimeTag × Message)) (x : Step Unit) : Prop :=
  ∀ d, ∃ deliveries, Delivers env process source d messages deliveries (x d)

section GoesThrough

variable {env : Surroundings} {process : Arrival → Source → Step Unit} {source : Source}
  {messages messages' : List (TimeTag × Message)} {x y : Step Unit}

theorem goesThrough_pure : GoesThrough env process source [] (pure ()) :=
  fun d => ⟨[], .done (.refl d)⟩

theorem goesThrough_deliver (time : TimeTag) (m : Message) :
    GoesThrough env process source [(time, m)] (deliver env process source time m) := by
  intro d
  rcases hdeliver : deliver env process source time m d with ⟨_, d'⟩ | ⟨e, d'⟩
  · exact ⟨_, .delivered (.refl d) hdeliver (.done (.refl d'))⟩
  · exact ⟨_, .brokenOff (.refl d) hdeliver⟩

theorem goesThrough_defer (time : TimeTag) (elements : List Packet) (delay : Nat) :
    GoesThrough env process source (Packet.timedAll time elements)
      (defer env source time elements delay) := by
  intro d
  rw [← List.append_nil (Packet.timedAll time elements)]
  rcases hrun : defer env source time elements delay d with ⟨_, d'⟩ | ⟨e, d'⟩
  · exact ⟨[], .putOff (.refl d) hrun (.done (.refl d'))⟩
  · exact ⟨[], .failed (.refl d) hrun⟩

theorem GoesThrough.bind (hx : GoesThrough env process source messages x)
    (hy : GoesThrough env process source messages' y) :
    GoesThrough env process source (messages ++ messages') (do x; y) := by
  intro d
  obtain ⟨deliveries, hdelivers⟩ := hx d
  rcases hrun : x d with ⟨_, d'⟩ | ⟨e, d'⟩
  · rw [hrun] at hdelivers
    rw [bind_of_eq_ok hrun]
    obtain ⟨deliveries', hdelivers'⟩ := hy d'
    exact ⟨_, hdelivers.append hdelivers'⟩
  · rw [hrun] at hdelivers
    rw [bind_of_eq_error hrun]
    exact ⟨_, hdelivers.append_of_error messages'⟩

/-- A step may look at the state and at the clock first. -/
theorem GoesThrough.get_bind {f : Dispatcher → Step Unit}
    (hf : ∀ d, GoesThrough env process source messages (f d)) :
    GoesThrough env process source messages (get >>= f) :=
  fun d => hf d d

theorem GoesThrough.now_bind {f : Instant → Step Unit}
    (hf : ∀ t, GoesThrough env process source messages (f t)) :
    GoesThrough env process source messages (now env >>= f) := by
  intro d
  rw [bind_of_eq_ok (now_eq_ok d)]
  obtain ⟨deliveries, hdelivers⟩ := hf (d.moment env) { d with readings := d.readings + 1 }
  exact ⟨deliveries, hdelivers.of_onlyClockRead (onlyClockRead_read d)⟩

theorem goesThrough_handle_bundle {tag : TimeTag} {elements : List Packet} (time : TimeTag)
    (h : GoesThrough env process source (Packet.timedAll tag elements)
      (handleAll env process source tag elements)) :
    GoesThrough env process source (Packet.timedAll tag elements)
      (handle env process source time (.bundle tag elements)) := by
  rw [handle]
  refine .get_bind fun d => ?_
  split
  · exact h
  · refine .now_bind fun t => ?_
    split
    · exact h
    · exact goesThrough_defer tag elements _

variable (env process source)

theorem goesThrough_handleAll (time : TimeTag) (packets : List Packet) :
    GoesThrough env process source (Packet.timedAll time packets)
      (handleAll env process source time packets) := by
  induction packets using Packet.list_induction generalizing time with
  | nil => exact goesThrough_pure
  | message m rest ih => exact (goesThrough_deliver time m).bind (ih time)
  | bundle tag elements rest ihElements ih =>
    exact (goesThrough_handle_bundle time (ihElements tag)).bind (ih time)

theorem goesThrough_handle (time : TimeTag) (packet : Packet) :
    GoesThrough env process source (packet.timed time)
      (handle env process source time packet) := by
  cases packet with
  | message m => exact goesThrough_deliver time m
  | bundle tag elements =>
    exact goesThrough_handle_bundle time (goesThrough_handleAll env process source tag elements)

end GoesThrough

/-- A message that is handed to the listeners goes round the registrations as they stand when that
begins, whatever the listeners do: the selectors are evaluated in order, each once, and those
listeners are called whose selectors select the message, in order, each once for each registration
and all with the same event.  If a call is broken off, so is the round.  A dispatched packet goes
through its messages, each of which finds the registrations that the one before it has left, and so
does a bundle that was put off. -/
theorem delivers_by_snapshot (env : Surroundings) :
    (∀ process source time m (d : Dispatcher), ∃ called,
      GoesRound env process ⟨source, time, d.told m⟩ (d.handOver time m) d.registrations.entries
        called (deliver env process source time m d) ∧
      ((∃ d', deliver env process source time m d = .ok () d') ∧
          called = d.registrations.entries.filter (·.selector.selects env.tests (d.told m)) ∨
        (∃ e d', deliver env process source time m d = .error e d') ∧
          called <+: d.registrations.entries.filter (·.selector.selects env.tests (d.told m)))) ∧
    (∀ nesting packet source (d : Dispatcher), ∃ deliveries,
      Delivers env (process env nesting) source (d.accept packet) (packet.timed .immediate)
        deliveries (dispatch env (nesting + 1) packet source d) ∧
      Flows d.registrations deliveries
        (endState (dispatch env (nesting + 1) packet source) d).registrations) ∧
    ∀ nesting (bundle : Deferred) (d : Dispatcher), ∃ deliveries,
      Delivers env (process env nesting) bundle.source d
        (Packet.timedAll bundle.time bundle.elements) deliveries (release env nesting bundle d) ∧
      Flows d.registrations deliveries (endState (release env nesting bundle) d).registrations := by
  refine ⟨fun process source time m d => ?_, fun nesting packet source d => ?_,
    fun nesting bundle d => ?_⟩
  · obtain ⟨called, hround⟩ := exists_goesRound_deliver env process source time m d
    exact ⟨called, hround, hround.called_eq⟩
  · have haccepted := goesThrough_handle env (process env nesting) source .immediate packet
    obtain ⟨deliveries, hdelivers⟩ := haccepted (d.accept packet)
    have hrun : dispatch env (nesting + 1) packet source d =
        handle env (process env nesting) source .immediate packet (d.accept packet) := by
      rw [dispatch, process_packet]
      rfl
    rw [← hrun] at hdelivers
    exact ⟨deliveries, hdelivers, hdelivers.flows⟩
  · have hreleased := goesThrough_handleAll env (process env nesting) bundle.source bundle.time
      bundle.elements
    rw [← release_eq_handleAll] at hreleased
    obtain ⟨deliveries, hdelivers⟩ := hreleased d
    exact ⟨deliveries, hdelivers, hdelivers.flows⟩

/-- Surroundings in which a listener, at every message under one address, removes another listener
and, if there was one to be removed, adds a third one and dispatches a message of its own. -/
def unruly : Surroundings :=
  { quiet with
    react := fun listener _ notice =>
      match notice with
      | .message event =>
        if listener = "a" ∧ event.message.address = "/x" then
          .ask (.change (.remove (.address "/x") "b")) fun removed =>
            if removed = some true then
              .ask (.change (.add (.address "/x") "c")) fun _ =>
                .ask (.process (.packet (.message { address := "/y" })) none) fun _ => .done
            else .done
        else .done
      | _ => .done }

/-- A dispatcher with a listener that is registered twice for the same messages. -/
def doubled : Dispatcher :=
  { new {} .empty with
    registrations := .ofEntries unruly.tests [⟨.address "/x", "a"⟩, ⟨.address "/x", "b"⟩,
      ⟨.address "/x", "b"⟩, ⟨.address "/y", "a"⟩] }

def twofold : Packet :=
  .bundle .immediate [.message { address := "/x" }, .message { address := "/x" }]

/-- The listener that is registered twice is called twice for the first message, though one of its
registrations has been removed by then, and once for the second one; the listener that is added at
the first message is called for the second one alone. -/
theorem delivers_by_snapshot_doubled :
    (∃ called, GoesRound unruly (process unruly 1) ⟨none, .immediate, { address := "/x" }⟩
        (doubled.handOver .immediate { address := "/x" }) doubled.registrations.entries called
        (deliver unruly (process unruly 1) none .immediate { address := "/x" } doubled) ∧
      called.map (·.listener) = ["a", "b", "b"]) ∧
    (∃ deliveries, Delivers unruly (process unruly 1) none (doubled.accept twofold)
        (twofold.timed .immediate) deliveries (dispatch unruly 2 twofold none doubled) ∧
      Flows doubled.registrations deliveries
        (endState (dispatch unruly 2 twofold none) doubled).registrations) ∧
    (endState (dispatch unruly 2 twofold none) doubled).journal.filterMap (fun
        | .called listener event _ => some (listener, event.message.address)
        | _ => none) =
      [("c", "/x"), ("b", "/x"), ("a", "/y"), ("a", "/x"),
        ("b", "/x"), ("b", "/x"), ("a", "/y"), ("a", "/x")] := by
  obtain ⟨hround, hdispatch, -⟩ := delivers_by_snapshot unruly
  have hends : interruption?
      (deliver unruly (process unruly 1) none .immediate { address := "/x" }) doubled = none := by
    decide +kernel
  refine ⟨?_, hdispatch 1 twofold none doubled, by decide +kernel⟩
  obtain ⟨called, hcalled, ⟨-, rfl⟩ | ⟨⟨e, d', hbroken⟩, -⟩⟩ :=
    hround (process unruly 1) none .immediate { address := "/x" } doubled
  · exact ⟨_, hcalled, by decide +kernel⟩
  · rw [interruption?, hbroken] at hends
    cases hends

end Dispatcher

end OpenSound
