import OpenSound.Proofs.Twins

/-!
# Bad data kept apart

`Dispatcher.hushed` forgets what a dispatcher noted of packets that could not be read, and who
listens for them.  Listeners keep bad data apart if at such calls they do nothing that concerns
other packets, and the other way round (`Surroundings.KeepsApart`).  Then all that changes as a
dispatcher deals with bad data is what is forgotten (`leads_process_failure`), and two dispatchers
between which nothing else makes a difference deal with packets alike, at once and when bundles that
were put off are taken apart (`isLastingTwin_undisturbed`).
-/

namespace OpenSound

/-- Whether it is word of a packet that could not be read. -/
def Arrival.isFailure : Arrival → Bool
  | packet _ => false
  | failure _ => true

/-- Whether it concerns those who listen for bad data. -/
def Change.isOfBadData : Change → Bool
  | addBadData _ => true
  | removeBadData _ => true
  | _ => false

/-- Whether a listener is told of a packet that could not be read. -/
def Notice.isOfBadData : Notice → Bool
  | message _ => false
  | badData _ _ => true
  | arrival _ arrived => arrived.isFailure

/-- Whether this was noted of a packet that could not be read, or of those who listen for such. -/
def Occurrence.isOfBadData : Occurrence → Bool
  | badData _ _ _ => true
  | told _ _ arrival => arrival.isFailure
  | changed _ change _ => change.isOfBadData
  | _ => false

theorem Notice.isOfBadData_occurrence (notice : Notice) (listener : String)
    (thread : Option String) :
    (notice.occurrence listener thread).isOfBadData = notice.isOfBadData := by
  cases notice <;> rfl

/-! ### Listeners -/

/-- What a listener does that keeps to bad data or, if `bad` is false, to all else.  Those who
listen for bad data may be changed at any time, as long as the answer makes no difference. -/
inductive Reaction.KeepsTo (bad : Bool) : Reaction → Prop
  | done : KeepsTo bad .done
  | panic (text : String) : KeepsTo bad (.panic text)
  | inspect {next : Figures → Reaction} :
      (∀ figures, KeepsTo bad (next figures)) → KeepsTo bad (.ask .inspect next)
  | change {change : Change} {next : Option Bool → Reaction} :
      change.isOfBadData = bad → (∀ answer, KeepsTo bad (next answer)) →
      KeepsTo bad (.ask (.change change) next)
  | process {arrival : Arrival} {source : Source} {next : Except ScheduleError Unit → Reaction} :
      arrival.isFailure = bad → (∀ answer, KeepsTo bad (next answer)) →
      KeepsTo bad (.ask (.process arrival source) next)
  | unheeded {change : Change} {reaction : Reaction} :
      change.isOfBadData = true → KeepsTo bad reaction →
      KeepsTo bad (.ask (.change change) fun _ => reaction)

/-- A journal without what was noted of bad data. -/
def hush (journal : List Occurrence) : List Occurrence :=
  journal.filter fun occurrence => !occurrence.isOfBadData

/-- At bad data the listeners do nothing that concerns other packets.  At other calls they do
nothing that concerns bad data, and do not go by what was noted of such. -/
structure Surroundings.KeepsApart (env : Surroundings) : Prop where
  keepsTo (listener : String) (journal : List Occurrence) (notice : Notice) :
    (env.react listener journal notice).KeepsTo notice.isOfBadData
  ignores (listener : String) {journal journal' : List Occurrence} {notice : Notice} :
    notice.isOfBadData = false → hush journal = hush journal' →
      env.react listener journal notice = env.react listener journal' notice

namespace Dispatcher

/-! ### Forgetting bad data -/

/-- The dispatcher without all that concerns bad data. -/
def hushed (d : Dispatcher) : Dispatcher :=
  { d with badDataListeners := [], journal := hush d.journal }

section Hushed

variable {d : Dispatcher} {occurrence : Occurrence}

theorem hushed_note (h : occurrence.isOfBadData = false) :
    (d.note occurrence).hushed = d.hushed.note occurrence := by
  have hjournal : hush (occurrence :: d.journal) = occurrence :: hush d.journal :=
    List.filter_cons_of_pos (by rw [h]; decide)
  rw [note, hushed, hjournal]
  rfl

theorem hushed_note_of_isOfBadData (h : occurrence.isOfBadData = true) :
    (d.note occurrence).hushed = d.hushed := by
  have hjournal : hush (occurrence :: d.journal) = hush d.journal :=
    List.filter_cons_of_neg (by rw [h]; decide)
  rw [note, hushed, hjournal]
  rfl

variable (tests : CustomTests) (d) {change : Change}

/-- What is forgotten makes no difference to other changes. -/
theorem change_hushed (h : change.isOfBadData = false) :
    d.hushed.change tests change =
      ((d.change tests change).1, (d.change tests change).2.hushed) := by
  cases change with
  | add selector listener => rfl
  | remove selector listener =>
    have hregistrations : d.hushed.registrations = d.registrations := rfl
    rw [Dispatcher.change, Dispatcher.change, removeListener, removeListener, hregistrations]
    rcases d.registrations.remove? tests selector listener with _ | registrations
    · rfl
    · rfl
  | _ => cases h

theorem hushed_change (h : change.isOfBadData = true) (caller : String) (answer : Option Bool) :
    ((d.change tests change).2.note (.changed caller change answer)).hushed = d.hushed := by
  have hbad : (Occurrence.changed caller change answer).isOfBadData = true := h
  rw [hushed_note_of_isOfBadData hbad]
  cases change with
  | addBadData listener => rfl
  | removeBadData listener => rfl
  | _ => cases h

/-- What can be read off the journal without regard to bad data. -/
theorem filterMap_hushed {β : Type} {f : Occurrence → Option β}
    (h : ∀ occurrence : Occurrence, occurrence.isOfBadData = true → f occurrence = none) :
    d.hushed.journal.filterMap f = d.journal.filterMap f := by
  show (List.filter _ d.journal).filterMap f = _
  rw [List.filterMap_filter]
  refine List.filterMap_congr fun occurrence _ => ?_
  by_cases hbad : occurrence.isOfBadData = true
  · rw [hbad, h occurrence hbad]
    rfl
  · rw [if_pos (by simpa using hbad)]

end Hushed

/-- The dispatchers differ in nothing but what concerns bad data. -/
def Undisturbed (d d' : Dispatcher) : Prop := d.hushed = d'.hushed

theorem Undisturbed.eq {d d' : Dispatcher} {β : Type} (h : Undisturbed d d') (f : Dispatcher → β)
    (hf : ∀ d, f d.hushed = f d) : f d = f d' :=
  (hf d).symm.trans ((congrArg f h).trans (hf d'))

theorem Undisturbed.map {d d' : Dispatcher} (h : Undisturbed d d') (f : Dispatcher → Dispatcher)
    (hf : ∀ d, (f d).hushed = f d.hushed) : Undisturbed (f d) (f d') :=
  (hf d).trans ((congrArg f h).trans (hf d').symm)

theorem isPath_undisturbed : IsPath Undisturbed fun _ => Undisturbed where
  refl _ := rfl
  trans := Eq.trans
  trans_brokenOff := Eq.trans

section KeepsApart

variable {env : Surroundings}

/-! ### Dealing with bad data -/

section BadData

variable {process : Arrival → Source → Step Unit}
  (hprocess : ∀ failure source, LeadsTo Undisturbed (process (.failure failure) source))

include hprocess

theorem leads_follow_keepsTo (caller : String) {reaction : Reaction} (h : reaction.KeepsTo true) :
    LeadsTo Undisturbed (follow env process caller reaction) := by
  have path := isPath_undisturbed
  induction h with
  | done => exact leads_pure path.refl _
  | panic text => exact leads_throw path.refl
  | inspect _ ih =>
    refine path.bind (x := perform env process caller .inspect) ?_ ih
    exact path.bind (leads_get path.refl) fun _ => leads_pure path.refl _
  | change hbad _ ih => exact path.bind (fun d => (hushed_change d env.tests hbad caller _).symm) ih
  | @process arrival source next hbad _ ih =>
    cases arrival with
    | packet packet => cases hbad
    | failure failure => exact path.bind ((hprocess failure source).answered fun _ _ _ => id) ih
  | unheeded hbad _ ih =>
    exact path.bind (fun d => (hushed_change d env.tests hbad caller _).symm) fun _ => ih

theorem leads_call_badData (henv : env.KeepsApart) (listener : String) {notice : Notice}
    (h : notice.isOfBadData = true) : LeadsTo Undisturbed (call env process listener notice) := by
  have hnote : LeadsTo Undisturbed (modify fun d =>
      d.note (notice.occurrence listener d.scheduler.currentThread?)) := leads_modify fun d => by
    refine (hushed_note_of_isOfBadData ?_).symm
    rw [notice.isOfBadData_occurrence, h]
  -- the state that is set is the one that was got, with a note
  intro d
  have hkeeps := henv.keepsTo listener d.journal notice
  rw [h] at hkeeps
  exact isPath_undisturbed.bind hnote (fun _ => leads_follow_keepsTo hprocess listener hkeeps) d

end BadData

/-- Whatever comes of bad data, nothing else is disturbed. -/
theorem leads_process_failure (henv : env.KeepsApart) (nesting : Nat) (failure : Malformed)
    (source : Source) : LeadsTo Undisturbed (process env nesting (.failure failure) source) := by
  have path := isPath_undisturbed
  induction nesting generalizing failure source with
  | zero => exact leads_throw path.refl
  | succ nesting ih =>
    exact fun d =>
      path.forM (fun listener => leads_call_badData ih henv listener rfl) d.badDataListeners d

/-! ### Dealing with packets -/

section Packets

variable {process process' : Arrival → Source → Step Unit}
  (hprocess : ∀ arrival arrival', arrival = arrival' ∧ arrival.isFailure = false →
    ∀ source, Agree Undisturbed (process arrival source) (process' arrival' source))

theorem agree_modify_hushed {change : Dispatcher → Dispatcher}
    (h : ∀ d, (change d).hushed = change d.hushed) :
    Agree Undisturbed (modify change) (modify change) := agree_modify fun _ _ hd => hd.map change h

theorem agree_selects_hushed (selector : Selector) (m : Message) :
    Agree Undisturbed (selects env selector m) (selects env selector m) := by
  have hasked : ∀ (asked : List Criterion) (d : Dispatcher),
      (asked.foldl (fun d criterion => d.note (.asked criterion)) d).hushed =
        asked.foldl (fun d criterion => d.note (.asked criterion)) d.hushed := by
    intro asked
    induction asked with
    | nil => exact fun _ => rfl
    | cons criterion asked ih =>
      intro d
      rw [List.foldl_cons, List.foldl_cons, ih, hushed_note rfl]
  exact (agree_modify_hushed (hasked _)).bind fun _ => agree_pure _

include hprocess

theorem agree_follow_keepsTo (caller : String) {reaction : Reaction} (h : reaction.KeepsTo false) :
    Agree Undisturbed (follow env process caller reaction)
      (follow env process' caller reaction) := by
  induction h with
  | done => exact agree_pure _
  | panic text => exact agree_throw _
  | inspect _ ih =>
    refine Agree.bind (fun d d' hd => ?_) ih
    have hfigures : d.figures = d'.figures := hd.eq figures fun _ => rfl
    show Ends Undisturbed (.ok d.figures d) (.ok d'.figures d')
    rw [hfigures]
    exact .ok _ hd
  | @change change next hgood _ ih =>
    refine Agree.bind (fun d d' hd => ?_) ih
    have hanswer : (d.change env.tests change).1 = (d'.change env.tests change).1 :=
      hd.eq (fun d => (d.change env.tests change).1) fun d => by
        rw [change_hushed d env.tests hgood]
    have hchanged : Undisturbed (d.change env.tests change).2 (d'.change env.tests change).2 :=
      hd.map (fun d => (d.change env.tests change).2) fun d => by
        rw [change_hushed d env.tests hgood]
    rw [perform_change, perform_change, hanswer]
    exact .ok _ (hchanged.map (note · _) fun _ => hushed_note hgood)
  | process hgood _ ih => exact (hprocess _ _ ⟨rfl, hgood⟩ _).answered.bind ih
  | unheeded hbad _ ih =>
    -- the answers may differ here
    intro d d' hd
    refine ih _ _ ?_
    exact (hushed_change d env.tests hbad caller _).trans
      (hd.trans (hushed_change d' env.tests hbad caller _).symm)

theorem agree_call_hushed (henv : env.KeepsApart) (listener : String) {notice : Notice}
    (h : notice.isOfBadData = false) :
    Agree Undisturbed (call env process listener notice) (call env process' listener notice) := by
  intro d d' hd
  have hthread : d.scheduler.currentThread? = d'.scheduler.currentThread? :=
    hd.eq (fun d => d.scheduler.currentThread?) fun _ => rfl
  have hreact := henv.ignores listener h (congrArg journal hd)
  have hkeeps := henv.keepsTo listener d'.journal notice
  rw [h] at hkeeps
  rw [call_apply, call_apply, hthread, hreact]
  refine agree_follow_keepsTo hprocess listener hkeeps _ _ ?_
  rw [← notice.isOfBadData_occurrence listener d'.scheduler.currentThread?] at h
  exact hd.map (note · _) fun _ => hushed_note h

end Packets

/-- Packets are dealt with alike, whatever there was of bad data. -/
theorem isLastingTwin_undisturbed (henv : env.KeepsApart) :
    IsLastingTwin env id (fun a a' => a = a' ∧ a.isFailure = false) Undisturbed where
  packet {p arrival} h := ⟨p, h.1.symm, rfl⟩
  failure h := by cases h.2
  settings h := h.eq Dispatcher.settings fun _ => rfl
  registrations h := h.eq Dispatcher.registrations fun _ => rfl
  isShutDown h := h.eq (fun d => d.scheduler.isShutDown) fun _ => rfl
  readings h := h.eq Dispatcher.readings fun _ => rfl
  slept h := h.eq Dispatcher.slept fun _ => rfl
  read h := h.map (fun d => { d with readings := d.readings + 1 }) fun _ => rfl
  accept {d d' p p'} h hp := by
    rw [Packet.map_id, Packet.map_id] at hp
    rw [hp]
    exact h.map (accept · p') fun _ => rfl
  handOver time m m' h hm := by
    rw [show m = m' from hm]
    exact h.map (handOver · time m') fun _ => rfl
  holdBack {d d'} source time {elements elements'} delay deadline h helements := by
    rw [Packet.mapAll_id, Packet.mapAll_id] at helements
    rw [helements]
    refine h.map (holdBack · ⟨time, elements', source⟩ delay deadline) fun d => ?_
    have hnote : (d.note (.deferred time elements' delay)).hushed =
        d.hushed.note (.deferred time elements' delay) := hushed_note rfl
    rw [holdBack, holdBack, ← hnote]
    rfl
  withTypeTags {d d' m m'} h hm := by
    rw [show m = m' from hm]
    exact h.eq (withTypeTags · m') fun _ => rfl
  selects {d d' r m m'} _ _ hm := by
    rw [show m = m' from hm]
    exact agree_selects_hushed r.selector m'
  call hprocess listener source time m m' hm := by
    rw [show m = m' from hm]
    exact agree_call_hushed hprocess henv listener rfl
  start_eq_none {d d' t index} h hstart := by
    have hscheduler : d.scheduler = d'.scheduler := h.eq Dispatcher.scheduler fun _ => rfl
    rwa [hscheduler] at hstart
  start_eq_some {d d' t index bundle scheduler} h hstart := by
    have hscheduler : d.scheduler = d'.scheduler := h.eq Dispatcher.scheduler fun _ => rfl
    rw [hscheduler] at hstart
    exact ⟨bundle, scheduler, hstart, rfl, rfl, rfl, h.map (started · scheduler) fun _ => rfl⟩
  finish h := h.map (fun d => { d with scheduler := d.scheduler.finish }) fun _ => rfl
  wait readings nanos h := h.map
    (fun d => { d with readings := d.readings + readings, slept := d.slept + nanos }) fun _ => rfl

end KeepsApart

end Dispatcher

end OpenSound
