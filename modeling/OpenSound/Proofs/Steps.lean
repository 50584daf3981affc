import OpenSound.Dispatcher.Delivery

/-!
# Where steps lead

`Leads Q E s` says of a step that it leads from each state to one that `Q` relates it to if it
succeeds, and that `E` relates it to, beside the reason, if it is broken off.  Most of what a
dispatcher does is to call listeners, which change who listens and have the dispatcher deal with one
thing or another.  `IsFrame env Q E` collects what is asked of the relations so that they hold
across all that, as long as they hold across what the listeners have it deal with (`IsFrame.inform`,
`IsFrame.report`).
-/

namespace OpenSound

/-- Whether listeners are the reason that this is noted: that a dispatcher looks for them or calls
them. -/
def Occurrence.isOfListeners : Occurrence → Bool
  | asked _ => true
  | called _ _ _ => true
  | badData _ _ _ => true
  | _ => false

namespace Dispatcher

section Runs

variable {α β : Type} {env : Surroundings} {x : Step α} {f : α → Step β} {d d' : Dispatcher}

theorem bind_of_eq_ok {a : α} (h : x d = .ok a d') : (x >>= f) d = f a d' := by
  show EStateM.bind x f d = _
  rw [EStateM.bind, h]

theorem bind_of_eq_error {e : Interruption} (h : x d = .error e d') :
    (x >>= f) d = .error e d' := by
  show EStateM.bind x f d = _
  rw [EStateM.bind, h]

theorem forM_cons_of_eq_ok {step : α → Step Unit} {a : α} {as : List α} (h : step a d = .ok () d') :
    (a :: as).forM step d = as.forM step d' := bind_of_eq_ok h

theorem forM_cons_of_eq_error {step : α → Step Unit} {a : α} {as : List α} {e : Interruption}
    (h : step a d = .error e d') : (a :: as).forM step d = .error e d' := bind_of_eq_error h

theorem get_eq_ok (d : Dispatcher) : (get : Step Dispatcher) d = .ok d d := rfl

theorem set_eq_ok (d d' : Dispatcher) : (set d' : Step PUnit) d = .ok .unit d' := rfl

theorem now_eq_ok (d : Dispatcher) :
    now env d = .ok (d.moment env) { d with readings := d.readings + 1 } := rfl

/-- The state in which a step ends, whether it is broken off or not. -/
def endState (s : Step α) (d : Dispatcher) : Dispatcher :=
  match s d with
  | .ok _ d' => d'
  | .error _ d' => d'

end Runs

/-- Why the step is broken off, if it is. -/
def interruption? {α : Type} (s : Step α) (d : Dispatcher) : Option Interruption :=
  match s d with
  | .ok _ _ => none
  | .error e _ => some e

theorem eq_ok_of_interruption? {s : Step Unit} {d : Dispatcher} (h : interruption? s d = none) :
    s d = .ok () (endState s d) := by
  rcases hrun : s d with ⟨_, d'⟩ | ⟨e, d'⟩
  · rw [endState, hrun]
  · rw [interruption?, hrun] at h
    cases h

theorem eq_error_of_interruption? {s : Step Unit} {d : Dispatcher} {e : Interruption}
    (h : interruption? s d = some e) : s d = .error e (endState s d) := by
  rcases hrun : s d with ⟨_, d'⟩ | ⟨e', d'⟩
  · rw [interruption?, hrun] at h
    cases h
  · rw [interruption?, hrun] at h
    rw [endState, hrun]
    cases h
    rfl

/-! ### Listeners -/

/-- Calls the listener of the registration if its selector selects the message. -/
def offer (env : Surroundings) (process : Arrival → Source → Step Unit) (event : Event)
    (registration : Registration) : Step Unit := do
  if ← selects env registration.selector event.message then
    call env process registration.listener (.message event)

section Listeners

variable (env : Surroundings) (process : Arrival → Source → Step Unit)

/-- A listener that is called is noted and does what it does. -/
theorem call_apply (listener : String) (notice : Notice) (d : Dispatcher) :
    call env process listener notice d =
      follow env process listener (env.react listener d.journal notice)
        (d.note (notice.occurrence listener d.scheduler.currentThread?)) := rfl

/-- A message is offered to the registrations as they stand. -/
theorem inform_apply (source : Source) (time : TimeTag) (m : Message) (d : Dispatcher) :
    inform env process source time m d =
      d.registrations.entries.forM
        (offer env process
          ⟨source, time, if d.registrations.infoRequired then d.withTypeTags m else m⟩) d := rfl

/-- The listeners for bad data are told as they stand. -/
theorem report_apply (source : Source) (failure : Malformed) (d : Dispatcher) :
    report env process source failure d =
      d.badDataListeners.forM (call env process · (.badData source failure)) d := rfl

end Listeners

/-- A change concerns nothing but who listens. -/
theorem exists_change_eq (tests : CustomTests) (d : Dispatcher) (change : Change) :
    ∃ registrations badDataListeners,
      (d.change tests change).2 = { d with registrations, badDataListeners } := by
  cases change with
  | add selector listener => exact ⟨_, _, rfl⟩
  | remove selector listener =>
    rw [Dispatcher.change, removeListener]
    split
    · exact ⟨_, _, rfl⟩
    · exact ⟨_, _, rfl⟩
  | addBadData listener => exact ⟨_, _, rfl⟩
  | removeBadData listener => exact ⟨_, _, rfl⟩

theorem perform_change (env : Surroundings) (process : Arrival → Source → Step Unit)
    (caller : String) (change : Change) (d : Dispatcher) :
    perform env process caller (.change change) d =
      .ok (d.change env.tests change).1
        ((d.change env.tests change).2.note
          (.changed caller change (d.change env.tests change).1)) := rfl

section Answered

variable {s : Step Unit} {d d' : Dispatcher}

theorem answered_of_eq_ok (h : s d = .ok () d') : answered s d = .ok (.ok ()) d' := by
  rw [answered, h]

theorem answered_of_eq_failed {error : ScheduleError} (h : s d = .error (.failed error) d') :
    answered s d = .ok (.error error) d' := by
  rw [answered, h]

theorem answered_of_eq_error {e : Interruption} (h : s d = .error e d')
    (he : ∀ error, e ≠ .failed error) : answered s d = .error e d' := by
  rw [answered, h]
  cases e with
  | failed error => exact absurd rfl (he error)
  | _ => rfl

end Answered

/-! ### Putting off -/

/-- The dispatcher with the bundle put off until the deadline. -/
def holdBack (d : Dispatcher) (bundle : Deferred) (delay : Nat) (deadline : Instant) : Dispatcher :=
  { d.note (.deferred bundle.time bundle.elements delay) with
    scheduler := d.scheduler.submit deadline bundle }

section Defer

variable (env : Surroundings) (source : Source) (time : TimeTag) (elements : List Packet)
  (delay : Nat) (d : Dispatcher)

theorem defer_apply :
    defer env source time elements delay d =
      if d.scheduler.isShutDown || env.thread (d.readings + 1) then
        .ok () (({ d with readings := d.readings + 1 } : Dispatcher).holdBack
          ⟨time, elements, source⟩ delay ((d.moment env).after delay))
      else .error (.failed .noThread) { d with readings := d.readings + 1 } := by
  rw [defer, bind_of_eq_ok (now_eq_ok d), bind_of_eq_ok (get_eq_ok _)]
  dsimp only
  rw [Scheduler.schedule]
  by_cases hthread : (d.scheduler.isShutDown || env.thread (d.readings + 1)) = true
  · rw [if_pos hthread, if_pos hthread]
    rfl
  · rw [if_neg hthread, if_neg hthread]
    rfl

/-- The clock is read, and then the bundle is put off, unless the scheduler lacks its thread. -/
theorem defer_cases :
    let d' := { d with readings := d.readings + 1 }
    defer env source time elements delay d =
        .ok () (d'.holdBack ⟨time, elements, source⟩ delay ((d.moment env).after delay)) ∨
      env.thread (d.readings + 1) = false ∧
        defer env source time elements delay d = .error (.failed .noThread) d' := by
  rw [defer_apply]
  by_cases hthread : (d.scheduler.isShutDown || env.thread (d.readings + 1)) = true
  · rw [if_pos hthread]
    exact .inl rfl
  · rw [if_neg hthread]
    rw [Bool.not_eq_true, Bool.or_eq_false_iff] at hthread
    exact .inr ⟨hthread.2, rfl⟩

end Defer

/-! ### Relations between the ends -/

/-- The step leads to a state that the first relation allows if it succeeds, and the second one, for
the reason that there is, if it is broken off. -/
def Leads {α : Type} (Q : Dispatcher → Dispatcher → Prop)
    (E : Interruption → Dispatcher → Dispatcher → Prop) (s : Step α) : Prop :=
  ∀ d, match s d with
    | .ok _ d' => Q d d'
    | .error e d' => E e d d'

/-- The step leads to a state that the relation allows, whether it is broken off or not. -/
abbrev LeadsTo {α : Type} (Q : Dispatcher → Dispatcher → Prop) (s : Step α) : Prop :=
  Leads Q (fun _ => Q) s

section Leads

variable {α β : Type} {Q Q' R : Dispatcher → Dispatcher → Prop}
  {E E' F : Interruption → Dispatcher → Dispatcher → Prop} {x : Step α} {f : α → Step β}
  {d d' : Dispatcher}

theorem Leads.of_eq_ok (h : Leads Q E x) {a : α} (hrun : x d = .ok a d') : Q d d' := by
  have hd := h d
  rwa [hrun] at hd

theorem Leads.of_eq_error (h : Leads Q E x) {e : Interruption} (hrun : x d = .error e d') :
    E e d d' := by
  have hd := h d
  rwa [hrun] at hd

theorem Leads.endState (h : LeadsTo Q x) (d : Dispatcher) : Q d (endState x d) := by
  rcases hrun : x d with ⟨a, d'⟩ | ⟨e, d'⟩
  · rw [Dispatcher.endState, hrun]
    exact h.of_eq_ok hrun
  · rw [Dispatcher.endState, hrun]
    exact h.of_eq_error hrun

theorem leads_pure (h : ∀ d, Q d d) (a : α) : Leads Q E (pure a) := h

theorem leads_throw {e : Interruption} (h : ∀ d, E e d d) : Leads Q E (throw e : Step α) := h

theorem leads_get (h : ∀ d, Q d d) : Leads Q E get := h

theorem leads_modify {change : Dispatcher → Dispatcher} (h : ∀ d, Q d (change d)) :
    Leads Q E (modify change) := h

theorem Leads.bind (hx : Leads Q E x) (hf : ∀ a, Leads Q' E' (f a))
    (hok : ∀ d d' d'', Q d d' → Q' d' d'' → R d d'') (hleft : ∀ e d d', E e d d' → F e d d')
    (hright : ∀ e d d' d'', Q d d' → E' e d' d'' → F e d d'') : Leads R F (x >>= f) := by
  intro d
  rcases hrun : x d with ⟨a, d'⟩ | ⟨e, d'⟩
  · rw [bind_of_eq_ok hrun]
    rcases hnext : f a d' with ⟨b, d''⟩ | ⟨e, d''⟩
    · exact hok d d' d'' (hx.of_eq_ok hrun) ((hf a).of_eq_ok hnext)
    · exact hright e d d' d'' (hx.of_eq_ok hrun) ((hf a).of_eq_error hnext)
  · rw [bind_of_eq_error hrun]
    exact hleft e d d' (hx.of_eq_error hrun)

/-- A failure that becomes an answer leads where success may lead. -/
theorem Leads.answered {s : Step Unit} (h : Leads Q E s)
    (hcaught : ∀ error d d', E (.failed error) d d' → Q d d') : Leads Q E (answered s) := by
  intro d
  rcases hrun : s d with ⟨_, d'⟩ | ⟨e, d'⟩
  · rw [answered_of_eq_ok hrun]
    exact h.of_eq_ok hrun
  · by_cases he : ∃ error, e = .failed error
    · obtain ⟨error, rfl⟩ := he
      rw [answered_of_eq_failed hrun]
      exact hcaught error d d' (h.of_eq_error hrun)
    · rw [answered_of_eq_error hrun (not_exists.1 he)]
      exact h.of_eq_error hrun

end Leads

/-- Relations that hold across one step after the other. -/
structure IsPath (Q : Dispatcher → Dispatcher → Prop)
    (E : Interruption → Dispatcher → Dispatcher → Prop) : Prop where
  refl (d : Dispatcher) : Q d d
  trans {d d' d'' : Dispatcher} : Q d d' → Q d' d'' → Q d d''
  trans_brokenOff {e : Interruption} {d d' d'' : Dispatcher} : Q d d' → E e d' d'' → E e d d''

namespace IsPath

variable {α β : Type} {Q : Dispatcher → Dispatcher → Prop}
  {E : Interruption → Dispatcher → Dispatcher → Prop} (path : IsPath Q E)

include path

theorem bind {x : Step α} {f : α → Step β} (hx : Leads Q E x) (hf : ∀ a, Leads Q E (f a)) :
    Leads Q E (x >>= f) :=
  hx.bind hf (fun _ _ _ => path.trans) (fun _ _ _ => id) fun _ _ _ _ => path.trans_brokenOff

theorem forM {f : α → Step PUnit} (hf : ∀ a, Leads Q E (f a)) (as : List α) :
    Leads Q E (as.forM f) := by
  induction as with
  | nil => exact leads_pure path.refl _
  | cons a as ih => exact path.bind (hf a) fun _ => ih

end IsPath

/-- Relations that hold across what the calling of listeners does by itself, and across one step
after the other. -/
structure IsFrame (env : Surroundings) (Q : Dispatcher → Dispatcher → Prop)
    (E : Interruption → Dispatcher → Dispatcher → Prop) : Prop extends IsPath Q E where
  panicked (text : String) (d : Dispatcher) : E (.panicked text) d d
  tooDeep (d : Dispatcher) : E .tooDeep d d
  /-- What was done before a dispatch failed stays done. -/
  caught (error : ScheduleError) (d d' : Dispatcher) : E (.failed error) d d' → Q d d'
  note (d : Dispatcher) (occurrence : Occurrence) :
    occurrence.isOfListeners = true → Q d (d.note occurrence)
  change (d : Dispatcher) (caller : String) (change : Change) :
    Q d ((d.change env.tests change).2.note (.changed caller change (d.change env.tests change).1))

namespace IsFrame

variable {env : Surroundings} {Q : Dispatcher → Dispatcher → Prop}
  {E : Interruption → Dispatcher → Dispatcher → Prop}

/-- A relation that does not regard whether a step is broken off. -/
theorem of_trans (refl : ∀ d, Q d d) (trans : ∀ {d d' d''}, Q d d' → Q d' d'' → Q d d'')
    (note : ∀ (d : Dispatcher) (occurrence : Occurrence),
      occurrence.isOfListeners = true → Q d (d.note occurrence))
    (change : ∀ (d : Dispatcher) (caller : String) (change : Change),
      Q d ((d.change env.tests change).2.note
        (.changed caller change (d.change env.tests change).1))) :
    IsFrame env Q fun _ => Q where
  refl := refl
  trans := trans
  panicked _ := refl
  tooDeep := refl
  trans_brokenOff := trans
  caught _ _ _ := id
  note := note
  change := change

variable (frame : IsFrame env Q E)

include frame

theorem selects (selector : Selector) (m : Message) : Leads Q E (selects env selector m) := by
  have hasked : ∀ (asked : List Criterion) (d : Dispatcher),
      Q d (asked.foldl (fun d criterion => d.note (.asked criterion)) d) := by
    intro asked
    induction asked with
    | nil => exact frame.refl
    | cons criterion asked ih =>
      exact fun d => frame.trans (frame.note d (.asked criterion) rfl) (ih _)
  exact frame.bind (leads_modify (hasked _)) fun _ => leads_pure frame.refl _

variable {process : Arrival → Source → Step Unit}
  (hprocess : ∀ arrival source, Leads Q E (process arrival source))

include hprocess

theorem perform (caller : String) (action : Action) :
    Leads Q E (perform env process caller action) := by
  cases action with
  | change change => exact fun d => frame.change d caller change
  | process arrival source => exact (hprocess arrival source).answered frame.caught
  | inspect => exact frame.bind (leads_get frame.refl) fun _ => leads_pure frame.refl _

/-- Across a reaction, action by action. -/
theorem follow (caller : String) (reaction : Reaction) :
    Leads Q E (follow env process caller reaction) := by
  induction reaction with
  | done => exact leads_pure frame.refl _
  | panic text => exact leads_throw (frame.panicked text)
  | ask action next ih => exact frame.bind (frame.perform hprocess caller action) ih

theorem call (listener : String) (notice : Notice)
    (hnotice : ∀ thread, (notice.occurrence listener thread).isOfListeners = true) :
    Leads Q E (call env process listener notice) := by
  have hnote : Leads Q E (modify fun d =>
      d.note (notice.occurrence listener d.scheduler.currentThread?)) :=
    leads_modify fun d => frame.note d _ (hnotice _)
  -- the state that is set is the one that was got, with a note
  intro d
  exact frame.bind hnote
    (fun _ => frame.follow hprocess listener (env.react listener d.journal notice)) d

theorem offer (event : Event) (registration : Registration) :
    Leads Q E (offer env process event registration) := by
  refine frame.bind (frame.selects registration.selector event.message) fun selected => ?_
  cases selected with
  | true => exact frame.call hprocess registration.listener (.message event) fun _ => rfl
  | false => exact leads_pure frame.refl _

/-- What holds across all that listeners have a dispatcher deal with holds across the calling of
listeners for a message. -/
theorem inform (source : Source) (time : TimeTag) (m : Message) :
    Leads Q E (inform env process source time m) := by
  intro d
  rw [inform_apply]
  exact frame.forM (frame.offer hprocess _) d.registrations.entries d

/-- It holds as well across the calling of listeners for bad data. -/
theorem report (source : Source) (failure : Malformed) :
    Leads Q E (report env process source failure) := by
  intro d
  rw [report_apply]
  exact frame.forM (fun listener => frame.call hprocess listener (.badData source failure)
    fun _ => rfl) d.badDataListeners d

end IsFrame

end Dispatcher

end OpenSound
