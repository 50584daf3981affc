import OpenSound.Proofs.Onward
import OpenSound.Proofs.Routing
import OpenSound.Proofs.Snapshot

/-!
# What a panic cuts short

A listener that panics breaks off the dispatch that called it, and nothing else.  To say what has
been cut off, what is left to do at any point of a dispatch is laid out as a list of `Frame`s, the
innermost first, so that a dispatch can be gone on with (`resumeAll`).  Beside the dispatch that is
broken off runs one in which the listeners panic no more (`Surroundings.GoesOn`): it comes through
the very state in which the other one was broken off, with just these frames still to do
(`CutShort`).  Where the dispatch is that of a bundle that was put off, the bundle counts as done,
and the tasks that wait are none the worse for it (`Course`).
-/

open scoped List

namespace OpenSound

/-! ### Panics -/

namespace Reaction

/-- A listener that does not panic, whatever the answers. -/
inductive IsCalm : Reaction → Prop
  | done : IsCalm .done
  | ask {action : Action} {next : action.Answer → Reaction} :
      (∀ answer, IsCalm (next answer)) → IsCalm (.ask action next)

/-- Where the first reaction panics, the second one goes on in some way without a panic; it does the
same otherwise. -/
inductive GoesOn : Reaction → Reaction → Prop
  | done : GoesOn .done .done
  | panic (text : String) {reaction : Reaction} : reaction.IsCalm → GoesOn (.panic text) reaction
  | ask {action : Action} {next next' : action.Answer → Reaction} :
      (∀ answer, GoesOn (next answer) (next' answer)) →
      GoesOn (.ask action next) (.ask action next')

/-- The reaction that is done where the other one panics. -/
def returning : Reaction → Reaction
  | done => .done
  | panic _ => .done
  | ask action next => .ask action fun answer => (next answer).returning

theorem goesOn_returning (reaction : Reaction) : reaction.GoesOn reaction.returning := by
  induction reaction with
  | done => exact .done
  | panic text => exact .panic text .done
  | ask action next ih => exact .ask ih

theorem GoesOn.isCalm {reaction reaction' : Reaction} (h : reaction.GoesOn reaction') :
    reaction'.IsCalm := by
  induction h with
  | done => exact .done
  | panic text hcalm => exact hcalm
  | ask _ ih => exact .ask ih

theorem IsCalm.goesOn {reaction : Reaction} (h : reaction.IsCalm) : reaction.GoesOn reaction := by
  induction h with
  | done => exact .done
  | ask _ ih => exact .ask ih

end Reaction

/-- Whether a listener was called. -/
def Occurrence.isCall : Occurrence → Bool
  | called _ _ _ => true
  | badData _ _ _ => true
  | told (.user _) _ _ => true
  | _ => false

def Action.isProcess : Action → Bool
  | process _ _ => true
  | _ => false

/-- What a listener asked for, with the answer. -/
structure Deed where
  action : Action
  answer : action.Answer

/-- The first reaction comes to the second one by the deeds. -/
inductive Reaction.Reaches : Reaction → List Deed → Reaction → Prop
  | refl (reaction : Reaction) : Reaches reaction [] reaction
  | ask {action : Action} {next : action.Answer → Reaction} {deeds : List Deed}
      {reaction : Reaction} (answer : action.Answer) :
      Reaches (next answer) deeds reaction →
      Reaches (.ask action next) (⟨action, answer⟩ :: deeds) reaction

theorem Reaction.Reaches.concat {reaction : Reaction} {deeds : List Deed} {action : Action}
    {next : action.Answer → Reaction} (h : reaction.Reaches deeds (.ask action next))
    (answer : action.Answer) : reaction.Reaches (deeds ++ [⟨action, answer⟩]) (next answer) := by
  generalize hend : Reaction.ask action next = last at h
  induction h with
  | refl reaction =>
    cases hend
    exact .ask answer (.refl _)
  | ask answer' _ ih => exact .ask answer' (ih hend)

theorem Reaction.IsCalm.of_reaches {reaction reaction' : Reaction} {deeds : List Deed}
    (hcalm : reaction.IsCalm) (h : reaction.Reaches deeds reaction') : reaction'.IsCalm := by
  induction h with
  | refl reaction => exact hcalm
  | ask answer _ ih =>
    cases hcalm with
    | ask hnext => exact ih (hnext answer)

/-- What listeners do when they are called. -/
abbrev React := String → List Occurrence → Notice → Reaction

/-- The surroundings with other listeners. -/
def Surroundings.reacting (env : Surroundings) (react : React) : Surroundings := { env with react }

/-- These listeners never panic.  They do what those of the surroundings do, and where one of those
panics, they go on in some way. -/
def Surroundings.GoesOn (env : Surroundings) (react : React) : Prop :=
  ∀ listener journal notice,
    (env.react listener journal notice).GoesOn (react listener journal notice)

/-- The listeners that return where others panic. -/
def Surroundings.returning (env : Surroundings) : React :=
  fun listener journal notice => (env.react listener journal notice).returning

theorem Surroundings.goesOn_returning (env : Surroundings) : env.GoesOn env.returning :=
  fun _ _ _ => Reaction.goesOn_returning _

/-- Listeners that never panic go on as they do. -/
theorem Surroundings.GoesOn.reacting {env : Surroundings} {react : React} (h : env.GoesOn react) :
    (env.reacting react).GoesOn react :=
  fun listener journal notice => (h listener journal notice).isCalm.goesOn

/-! ### What is left to do -/

/-- What is left to do at some point of a dispatch behind what is being done, where the listeners
may have the dispatcher called `nesting` levels deep. -/
inductive Frame where
  /-- What a listener does with the answer, when it had the dispatcher deal with something. -/
  | answer (nesting : Nat) (listener : String) (next : Except ScheduleError Unit → Reaction)
  /-- The registrations that have not been looked at for the message. -/
  | entries (nesting : Nat) (event : Event) (entries : List Registration)
  /-- The listeners for bad data that have not been called. -/
  | badData (nesting : Nat) (source : Source) (failure : Malformed) (listeners : List String)
  /-- The elements of a bundle that have not been handled. -/
  | packets (nesting : Nat) (source : Source) (time : TimeTag) (packets : List Packet)

namespace Dispatcher

/-- Does the step and then what is left to do behind it. -/
def enclose (env : Surroundings) (s : Step Unit) : Frame → Step Unit
  | .answer nesting listener next => do
    let answer ← answered s
    follow env (process env nesting) listener (next answer)
  | .entries nesting event entries => do
    s
    entries.forM (offer env (process env nesting) event)
  | .badData nesting source failure listeners => do
    s
    listeners.forM (call env (process env nesting) · (.badData source failure))
  | .packets nesting source time packets => do
    s
    handleAll env (process env nesting) source time packets

/-- Does the step and then all that is left to do, the innermost first. -/
def resumeAll (env : Surroundings) (s : Step Unit) (frames : List Frame) : Step Unit :=
  frames.foldl (enclose env) s

theorem resumeAll_concat (env : Surroundings) (s : Step Unit) (frames : List Frame)
    (frame : Frame) :
    resumeAll env s (frames ++ [frame]) = enclose env (resumeAll env s frames) frame :=
  List.foldl_concat ..

section Congr

variable {s t : Step Unit} {d d' : Dispatcher}

theorem bind_congr_of_eq {α : Type} {f : Unit → Step α} (h : s d = t d') :
    (s >>= f) d = (t >>= f) d' := by
  show EStateM.bind s f d = EStateM.bind t f d'
  rw [EStateM.bind, EStateM.bind, h]

/-- What is left to do does not depend on how one came to where it begins. -/
theorem enclose_congr (env : Surroundings) (frame : Frame) (h : s d = t d') :
    enclose env s frame d = enclose env t frame d' := by
  cases frame with
  | answer nesting listener next =>
    have hanswered : answered s d = answered t d' := by
      rw [answered, answered, h]
    show EStateM.bind (answered s) _ d = EStateM.bind (answered t) _ d'
    rw [EStateM.bind, EStateM.bind, hanswered]
  | entries nesting event entries => exact bind_congr_of_eq h
  | badData nesting source failure listeners => exact bind_congr_of_eq h
  | packets nesting source time packets => exact bind_congr_of_eq h

end Congr

theorem leads_onward_enclose (env : Surroundings) {s : Step Unit} (frame : Frame)
    (h : LeadsTo (Onward env.tests) s) :
    LeadsTo (Onward env.tests) (enclose env s frame) := by
  have onward := isRunFrame_onward env
  cases frame with
  | answer nesting listener next =>
    exact onward.bind (h.answered onward.caught) fun answer =>
      onward.follow (onward.process nesting) listener (next answer)
  | entries nesting event entries =>
    exact onward.bind h fun _ => onward.forM (onward.offer (onward.process nesting) event) entries
  | badData nesting source failure listeners =>
    exact onward.bind h fun _ => onward.forM
      (fun listener => onward.call (onward.process nesting) listener _ fun _ => rfl) listeners
  | packets nesting source time packets =>
    exact onward.bind h fun _ => onward.handleAll (onward.process nesting) time packets

theorem leads_onward_resumeAll (env : Surroundings) {s : Step Unit} (frames : List Frame)
    (h : LeadsTo (Onward env.tests) s) :
    LeadsTo (Onward env.tests) (resumeAll env s frames) := by
  induction frames generalizing s with
  | nil => exact h
  | cons frame frames ih => exact ih (leads_onward_enclose env frame h)

/-! ### Where a listener panics -/

/-- In the first state the listener does the deeds, and it comes to the second state with them. -/
inductive Performed (env : Surroundings) (process : Arrival → Source → Step Unit)
    (listener : String) : List Deed → Dispatcher → Dispatcher → Prop
  | nil (d : Dispatcher) : Performed env process listener [] d d
  | cons {deed : Deed} {deeds : List Deed} {d d' d'' : Dispatcher} :
      perform env process listener deed.action d = .ok deed.answer d' →
      Performed env process listener deeds d' d'' →
      Performed env process listener (deed :: deeds) d d''

theorem Performed.concat {env : Surroundings} {process : Arrival → Source → Step Unit}
    {listener : String} {deeds : List Deed} {d d' d'' : Dispatcher}
    (h : Performed env process listener deeds d d') {action : Action} {answer : action.Answer}
    (hrun : perform env process listener action d' = .ok answer d'') :
    Performed env process listener (deeds ++ [⟨action, answer⟩]) d d'' := by
  induction h with
  | nil d => exact .cons hrun (.nil d'')
  | cons hfirst _ ih => exact .cons hfirst (ih hrun)

/-- A call of a listener that panics. -/
structure Stop where
  /-- How deep the listener may have the dispatcher called. -/
  nesting : Nat
  listener : String
  notice : Notice
  /-- The state in which the listener was called. -/
  before : Dispatcher
  /-- What the listener did before it panicked. -/
  done : List Deed

/-- The call as the journal has it. -/
def Stop.call (stop : Stop) : Occurrence :=
  stop.notice.occurrence stop.listener stop.before.scheduler.currentThread?

theorem Stop.isCall_call (stop : Stop) : stop.call.isCall = true := by
  rw [call]
  cases stop.notice <;> rfl

/-- In the given state the listener panics, having done everything that comes before that. -/
structure Stop.Panics (stop : Stop) (env : Surroundings) (text : String) (d : Dispatcher) :
    Prop where
  react : (env.react stop.listener stop.before.journal stop.notice).Reaches stop.done (.panic text)
  performed : Performed env (process env stop.nesting) stop.listener stop.done
    (stop.before.note stop.call) d

/-- Two ends of what began in the state `d` or behind it, the second with listeners that do not
panic.  They are the same, unless the first is a panic; then the second comes of going on from
there. -/
inductive CutShort (env : Surroundings) (react : React) (d : Dispatcher) :
    EStateM.Result Interruption Dispatcher Unit → EStateM.Result Interruption Dispatcher Unit → Prop
  | ok (d' : Dispatcher) : CutShort env react d (.ok () d') (.ok () d')
  | failed (error : ScheduleError) (d' : Dispatcher) :
      CutShort env react d (.error (.failed error) d') (.error (.failed error) d')
  | tooDeep (d' : Dispatcher) : CutShort env react d (.error .tooDeep d') (.error .tooDeep d')
  | panicked {text d'} (stop : Stop) (more : Reaction) (left : List Frame) :
      Onward env.tests d stop.before → Onward env.tests stop.before d' → stop.Panics env text d' →
      (react stop.listener stop.before.journal stop.notice).Reaches stop.done more →
      CutShort env react d (.error (.panicked text) d')
        (resumeAll (env.reacting react)
          (follow (env.reacting react) (process (env.reacting react) stop.nesting) stop.listener more)
          left d')

/-- Steps of which the first is cut short where a listener panics, and the second goes on. -/
def CutsShort (env : Surroundings) (react : React) (s s' : Step Unit) : Prop :=
  ∀ d, CutShort env react d (s d) (s' d)

/-- A step that no panic breaks off. -/
def NeverPanics {α : Type} (s : Step α) : Prop := ∀ d text d', s d ≠ .error (.panicked text) d'

theorem neverPanics_pure {α : Type} (a : α) : NeverPanics (pure a) := fun _ _ _ => nofun

theorem neverPanics_defer (env : Surroundings) (source : Source) (time : TimeTag)
    (elements : List Packet) (delay : Nat) :
    NeverPanics (defer env source time elements delay) := by
  intro d text d'
  rcases defer_cases env source time elements delay d with hrun | ⟨-, hrun⟩
  · rw [hrun]
    nofun
  · rw [hrun]
    nofun

section Rules

variable {env : Surroundings} {react : React}

theorem CutShort.of_onward {d d' : Dispatcher}
    {result result' : EStateM.Result Interruption Dispatcher Unit}
    (h : CutShort env react d' result result') (hd : Onward env.tests d d') :
    CutShort env react d result result' := by
  cases h with
  | ok d'' => exact .ok d''
  | failed error d'' => exact .failed error d''
  | tooDeep d'' => exact .tooDeep d''
  | panicked stop more left hbefore hafter hpanics hreact =>
    exact .panicked stop more left (hd.trans hbefore) hafter hpanics hreact

theorem cutsShort_of_neverPanics {s : Step Unit} (h : NeverPanics s) : CutsShort env react s s := by
  intro d
  rcases hrun : s d with ⟨_, d'⟩ | ⟨e, d'⟩
  · exact .ok d'
  · cases e with
    | panicked text => exact absurd hrun (h d text d')
    | failed error => exact .failed error d'
    | tooDeep => exact .tooDeep d'

/-- Behind a step that always succeeds. -/
theorem CutsShort.bind_of_ok {α : Type} {x : Step α} {f f' : α → Step Unit}
    (hx : ∀ d, ∃ a d', x d = .ok a d') (hlead : LeadsTo (Onward env.tests) x)
    (hf : ∀ a, CutsShort env react (f a) (f' a)) : CutsShort env react (x >>= f) (x >>= f') := by
  intro d
  obtain ⟨a, d', hrun⟩ := hx d
  rw [bind_of_eq_ok hrun, bind_of_eq_ok hrun]
  exact (hf a d').of_onward (hlead.of_eq_ok hrun)

/-- What comes behind a step is left to do when the step is cut short. -/
theorem CutsShort.seq {s s' f f' : Step Unit} (frame : Frame) (hs : CutsShort env react s s')
    (hframe : ∀ t, enclose (env.reacting react) t frame = do t; f')
    (hlead : LeadsTo (Onward env.tests) s) (hf : CutsShort env react f f') :
    CutsShort env react (do s; f) (do s'; f') := by
  intro d
  have hd := hs d
  generalize hrun : s d = result at hd
  generalize hrun' : s' d = result' at hd
  cases hd with
  | ok d' =>
    rw [bind_of_eq_ok hrun, bind_of_eq_ok hrun']
    exact (hf d').of_onward (hlead.of_eq_ok hrun)
  | failed error d' =>
    rw [bind_of_eq_error hrun, bind_of_eq_error hrun']
    exact .failed error d'
  | tooDeep d' =>
    rw [bind_of_eq_error hrun, bind_of_eq_error hrun']
    exact .tooDeep d'
  | panicked stop more left hbefore hafter hpanics hreact =>
    -- what was left of the first part comes first
    rw [bind_of_eq_error hrun, ← hframe, enclose_congr _ frame hrun', ← resumeAll_concat]
    exact .panicked stop more (left ++ [frame]) hbefore hafter hpanics hreact

/-- A listener that had the dispatcher deal with something goes on by the answer.  If that is cut
short, so is the listener. -/
theorem CutShort.answered_bind {d₀ d : Dispatcher} {s s' : Step Unit} {nesting : Nat}
    {listener : String} {f : Except ScheduleError Unit → Step Unit}
    {next : Except ScheduleError Unit → Reaction} (hs : CutShort env react d₀ (s d) (s' d))
    (hf : ∀ answer d', answered s d = .ok answer d' →
      CutShort env react d₀ (f answer d')
        (follow (env.reacting react) (process (env.reacting react) nesting) listener (next answer)
          d')) :
    CutShort env react d₀ ((answered s >>= f) d)
      (enclose (env.reacting react) s' (.answer nesting listener next) d) := by
  rw [enclose]
  generalize hrun : s d = result at hs
  generalize hrun' : s' d = result' at hs
  cases hs with
  | ok d' =>
    have hanswered := answered_of_eq_ok hrun
    rw [bind_of_eq_ok hanswered, bind_of_eq_ok (answered_of_eq_ok hrun')]
    exact hf _ d' hanswered
  | failed error d' =>
    have hanswered := answered_of_eq_failed hrun
    rw [bind_of_eq_ok hanswered, bind_of_eq_ok (answered_of_eq_failed hrun')]
    exact hf _ d' hanswered
  | tooDeep d' =>
    rw [bind_of_eq_error (answered_of_eq_error hrun nofun),
      bind_of_eq_error (answered_of_eq_error hrun' nofun)]
    exact .tooDeep d'
  | panicked stop more left hbefore hafter hpanics hreact =>
    have hleft := enclose_congr (env.reacting react) (.answer nesting listener next) hrun'
    rw [enclose, ← resumeAll_concat] at hleft
    rw [bind_of_eq_error (answered_of_eq_error hrun nofun), hleft]
    exact .panicked stop more _ hbefore hafter hpanics hreact

theorem CutsShort.forM {γ : Type} {f f' : γ → Step Unit} (frame : List γ → Frame)
    (hframe : ∀ cs t, enclose (env.reacting react) t (frame cs) = do t; cs.forM f')
    (hlead : ∀ c, LeadsTo (Onward env.tests) (f c))
    (hf : ∀ c, CutsShort env react (f c) (f' c)) (cs : List γ) :
    CutsShort env react (cs.forM f) (cs.forM f') := by
  induction cs with
  | nil => exact cutsShort_of_neverPanics (neverPanics_pure _)
  | cons c cs ih => exact .seq (frame cs) (hf c) (hframe cs) (hlead c) ih

end Rules

/-! ### A dispatch beside one without panics -/

section Simulation

variable {env : Surroundings} {react : React} {nesting : Nat}

section Listeners

variable (hreact : env.GoesOn react)
  (hprocess : ∀ arrival source, CutsShort env react (process env nesting arrival source)
    (process (env.reacting react) nesting arrival source))

include hprocess

/-- Here a panic comes from: what the listener would have gone on with is left to do.  The deeds are
those that the listener has done since it was called. -/
theorem cutShort_follow {listener : String} {notice : Notice} {before d : Dispatcher}
    {deeds : List Deed} {reaction reaction' : Reaction} (hgoes : reaction.GoesOn reaction')
    (hreaches : (env.react listener before.journal notice).Reaches deeds reaction)
    (hreaches' : (react listener before.journal notice).Reaches deeds reaction')
    (hperformed : Performed env (process env nesting) listener deeds
      (before.note (notice.occurrence listener before.scheduler.currentThread?)) d)
    (honward : Onward env.tests before d) :
    CutShort env react before (follow env (process env nesting) listener reaction d)
      (follow (env.reacting react) (process (env.reacting react) nesting) listener reaction' d) := by
  induction hgoes generalizing deeds d with
  | done => exact .ok d
  | panic text _ =>
    exact .panicked ⟨nesting, listener, notice, before, deeds⟩ _ [] (.refl before) honward
      ⟨hreaches, hperformed⟩ hreaches'
  | @ask action next next' _ ih =>
    have hstep : ∀ answer d', perform env (process env nesting) listener action d = .ok answer d' →
        CutShort env react before (follow env (process env nesting) listener (next answer) d')
          (follow (env.reacting react) (process (env.reacting react) nesting) listener (next' answer)
            d') := by
      intro answer d' hrun
      have hlead := (isRunFrame_onward env).perform ((isRunFrame_onward env).process nesting)
        listener action
      exact ih answer (hreaches.concat answer) (hreaches'.concat answer) (hperformed.concat hrun)
        (honward.trans (hlead.of_eq_ok hrun))
    cases action with
    | change change => exact hstep _ _ rfl
    | inspect => exact hstep _ _ rfl
    | process arrival source =>
      exact ((hprocess arrival source d).of_onward honward).answered_bind hstep

include hreact

theorem cutsShort_call (listener : String) (notice : Notice)
    (hnotice : ∀ thread, (notice.occurrence listener thread).isOfListeners = true) :
    CutsShort env react (call env (process env nesting) listener notice)
      (call (env.reacting react) (process (env.reacting react) nesting) listener notice) := by
  intro d
  rw [call_apply, call_apply]
  exact cutShort_follow hprocess (hreact listener d.journal notice) (.refl _) (.refl _) (.nil _)
    (onward_note (hnotice _))

theorem cutsShort_offer (event : Event) (registration : Registration) :
    CutsShort env react (offer env (process env nesting) event registration)
      (offer (env.reacting react) (process (env.reacting react) nesting) event registration) := by
  refine .bind_of_ok (x := selects env registration.selector event.message) (fun d => ⟨_, _, rfl⟩)
    ((isRunFrame_onward env).selects _ _) fun selected => ?_
  split_ifs
  · exact cutsShort_call hreact hprocess registration.listener (.message event) fun _ => rfl
  · exact cutsShort_of_neverPanics (neverPanics_pure _)

theorem cutsShort_entries (event : Event) (entries : List Registration) :
    CutsShort env react (entries.forM (offer env (process env nesting) event))
      (entries.forM
        (offer (env.reacting react) (process (env.reacting react) nesting) event)) :=
  .forM (.entries nesting event) (fun _ _ => rfl)
    ((isRunFrame_onward env).offer ((isRunFrame_onward env).process nesting) event)
    (cutsShort_offer hreact hprocess event) entries

theorem cutsShort_report (source : Source) (failure : Malformed) :
    CutsShort env react (report env (process env nesting) source failure)
      (report (env.reacting react) (process (env.reacting react) nesting) source failure) := by
  intro d
  rw [report_apply, report_apply]
  refine CutsShort.forM (.badData nesting source failure) (fun _ _ => rfl)
    (fun listener => ?_) (fun listener => ?_) d.badDataListeners d
  · exact (isRunFrame_onward env).call ((isRunFrame_onward env).process nesting) listener _
      fun _ => rfl
  · exact cutsShort_call hreact hprocess listener _ fun _ => rfl

theorem cutsShort_deliver (source : Source) (time : TimeTag) (m : Message) :
    CutsShort env react (deliver env (process env nesting) source time m)
      (deliver (env.reacting react) (process (env.reacting react) nesting) source time m) := by
  refine .bind_of_ok (fun d => ⟨_, _, rfl⟩)
    (leads_modify fun d => (isRunFrame_onward env).handOver d time m) fun _ => ?_
  intro d
  rw [inform_apply, inform_apply]
  exact cutsShort_entries hreact hprocess _ d.registrations.entries d

omit hreact hprocess in
theorem cutsShort_handle_bundle {source : Source} {tag : TimeTag} {elements : List Packet}
    (time : TimeTag)
    (h : CutsShort env react (handleAll env (process env nesting) source tag elements)
      (handleAll (env.reacting react) (process (env.reacting react) nesting) source tag elements)) :
    CutsShort env react (handle env (process env nesting) source time (.bundle tag elements))
      (handle (env.reacting react) (process (env.reacting react) nesting) source time
        (.bundle tag elements)) := by
  rw [handle, handle]
  refine .bind_of_ok (fun d => ⟨_, _, rfl⟩) (leads_get (isRunFrame_onward env).refl) fun d => ?_
  split_ifs
  · exact h
  · refine .bind_of_ok (x := now env) (fun d => ⟨_, _, rfl⟩) (isRunFrame_onward env).now fun t => ?_
    rcases tag.delayFrom? t with _ | delay
    · exact h
    · exact cutsShort_of_neverPanics (neverPanics_defer env source tag elements delay)

theorem cutsShort_handleAll (source : Source) (time : TimeTag) (packets : List Packet) :
    CutsShort env react (handleAll env (process env nesting) source time packets)
      (handleAll (env.reacting react) (process (env.reacting react) nesting) source time
        packets) := by
  have onward := isRunFrame_onward env
  induction packets using Packet.list_induction generalizing time with
  | nil =>
    rw [handleAll, handleAll]
    exact cutsShort_of_neverPanics (neverPanics_pure _)
  | message m rest ih =>
    rw [handleAll, handleAll, handle, handle]
    exact .seq (.packets nesting source time rest) (cutsShort_deliver hreact hprocess source time m)
      (fun _ => rfl) (onward.deliver (onward.process nesting) time m) (ih time)
  | bundle tag elements rest ihElements ih =>
    rw [handleAll, handleAll]
    exact .seq (.packets nesting source time rest) (cutsShort_handle_bundle time (ihElements tag))
      (fun _ => rfl) (onward.handle (onward.process nesting) time (.bundle tag elements)) (ih time)

theorem cutsShort_handle (source : Source) (time : TimeTag) (packet : Packet) :
    CutsShort env react (handle env (process env nesting) source time packet)
      (handle (env.reacting react) (process (env.reacting react) nesting) source time packet) := by
  cases packet with
  | message m =>
    rw [handle, handle]
    exact cutsShort_deliver hreact hprocess source time m
  | bundle tag elements =>
    exact cutsShort_handle_bundle time (cutsShort_handleAll hreact hprocess source tag elements)

end Listeners

variable (hreact : env.GoesOn react)

include hreact

theorem cutsShort_process (nesting : Nat) (arrival : Arrival) (source : Source) :
    CutsShort env react (process env nesting arrival source)
      (process (env.reacting react) nesting arrival source) := by
  induction nesting generalizing arrival source with
  | zero => exact fun d => .tooDeep d
  | succ nesting ih =>
    cases arrival with
    | failure failure => exact cutsShort_report hreact ih source failure
    | packet packet =>
      rw [process_packet, process_packet]
      exact .bind_of_ok (fun d => ⟨_, _, rfl⟩)
        (leads_modify fun d => (isRunFrame_onward env).accept d packet)
        fun _ => cutsShort_handle hreact ih source .immediate packet

theorem cutsShort_release (nesting : Nat) (bundle : Deferred) :
    CutsShort env react (release env nesting bundle)
      (release (env.reacting react) nesting bundle) := by
  rw [release_eq_handleAll, release_eq_handleAll]
  exact cutsShort_handleAll hreact (cutsShort_process hreact nesting) bundle.source bundle.time
    bundle.elements

end Simulation

/-! ### What is cut off -/

/-- The calls of listeners of any kind, the last one first. -/
def callings (d : Dispatcher) : List Occurrence := d.journal.filter Occurrence.isCall

/-- What began in the state `d` was broken off in the state `d'`, when the listener that `stop`
names panicked.  With listeners that go on, the same is done by `s`. -/
structure BrokenOff (env : Surroundings) (react : React) (stop : Stop) (text : String)
    (s : Step Unit) (d d' : Dispatcher) : Prop where
  panics : stop.Panics env text d'
  /-- Without the panic, all goes on from the state in which the listener panicked. -/
  left : ∃ more left,
    (react stop.listener stop.before.journal stop.notice).Reaches stop.done more ∧
    s d = resumeAll (env.reacting react)
      (follow (env.reacting react) (process (env.reacting react) stop.nesting) stop.listener more)
      left d'
  /-- The last call is the one that panicked, but for calls that the listener brought about itself.
  -/
  callings : ∃ inner, d'.callings = inner ++ stop.call :: stop.before.callings ∧
    ((∀ deed ∈ stop.done, deed.action.isProcess = false) → inner = [])
  before : Onward env.tests d stop.before
  onward : Onward env.tests d d'
  ahead : Onward env.tests d' (endState s d)

section BrokenOff

variable {env : Surroundings} {react : React} {d d' : Dispatcher} {text : String}

theorem Onward.callings_suffix {tests : CustomTests} (h : Onward tests d d') :
    d.callings <:+ d'.callings := h.suffix.filter _

theorem Performed.onward {nesting : Nat} {listener : String} {deeds : List Deed}
    (h : Performed env (process env nesting) listener deeds d d') : Onward env.tests d d' := by
  have onward := isRunFrame_onward env
  induction h with
  | nil d => exact .refl d
  | cons hrun _ ih =>
    exact ((onward.perform (onward.process nesting) listener _).of_eq_ok hrun).trans ih

/-- Listeners are called by nothing but what a dispatcher has to deal with. -/
theorem Performed.callings_eq {process : Arrival → Source → Step Unit} {listener : String}
    {deeds : List Deed} (h : Performed env process listener deeds d d')
    (hplain : ∀ deed ∈ deeds, deed.action.isProcess = false) : d'.callings = d.callings := by
  induction h with
  | nil d => rfl
  | @cons deed deeds d d₁ d₂ hrun _ ih =>
    rw [List.forall_mem_cons] at hplain
    refine (ih hplain.2).trans ?_
    obtain ⟨action, answer⟩ := deed
    cases action with
    | process arrival source => cases hplain.1
    | inspect =>
      cases hrun
      rfl
    | change change =>
      obtain ⟨registrations, badDataListeners, hchange⟩ := exists_change_eq env.tests d change
      rw [perform_change, hchange] at hrun
      cases hrun
      rfl

theorem Stop.Panics.callings {stop : Stop} (h : stop.Panics env text d) :
    ∃ inner, d.callings = inner ++ stop.call :: stop.before.callings ∧
      ((∀ deed ∈ stop.done, deed.action.isProcess = false) → inner = []) := by
  have hnote : (stop.before.note stop.call).callings = stop.call :: stop.before.callings :=
    List.filter_cons_of_pos stop.isCall_call
  obtain ⟨inner, hinner⟩ := h.performed.onward.callings_suffix
  rw [hnote] at hinner
  refine ⟨inner, hinner.symm, fun hplain => ?_⟩
  have hcallings := h.performed.callings_eq hplain
  rw [← hinner, hnote] at hcallings
  exact List.append_left_eq_self.1 hcallings

theorem CutsShort.exists_brokenOff {s s' : Step Unit} (h : CutsShort env react s s')
    (hrun : s d = .error (.panicked text) d') :
    ∃ stop, BrokenOff env react stop text s' d d' := by
  have hd := h d
  rw [hrun] at hd
  generalize hrun' : s' d = result at hd
  cases hd with
  | panicked stop more left hbefore hafter hpanics hreact =>
    refine ⟨stop, hpanics, ⟨more, left, hreact, hrun'⟩, hpanics.callings, hbefore,
      hbefore.trans hafter, ?_⟩
    have onward := isRunFrame_onward (env.reacting react)
    have hahead := (leads_onward_resumeAll (env.reacting react) left
      (onward.follow (onward.process stop.nesting) stop.listener more)).endState d'
    rwa [endState, ← hrun'] at hahead

/-- What is not broken off by a panic has met with none. -/
theorem CutsShort.eq_of_ne_panicked {s s' : Step Unit} (h : CutsShort env react s s')
    (hrun : ∀ text d', s d ≠ .error (.panicked text) d') : s' d = s d := by
  have hd := h d
  generalize hs : s d = result at hd hrun ⊢
  generalize s' d = result' at hd ⊢
  cases hd with
  | panicked => exact absurd rfl (hrun _ _)
  | _ => rfl

/-- Where no listener panics, nothing is broken off by a panic. -/
theorem CutsShort.neverPanics {s : Step Unit} (hreact : env.GoesOn react)
    (h : CutsShort (env.reacting react) react s s) : NeverPanics s := by
  intro d text d' hrun
  obtain ⟨stop, hbroken⟩ := h.exists_brokenOff hrun
  have hcalm := (hreact stop.listener stop.before.journal stop.notice).isCalm
  cases hcalm.of_reaches hbroken.panics.react

end BrokenOff

/-! ### Bundles that are fired -/

/-- The states of a dispatcher between the steps of a run in which listeners may panic, each with
the bundles that were fired, the last one first. -/
inductive Course (env : Surroundings) : List Deferred → Dispatcher → Prop
  | start (settings : Settings) (registry : Registry) : Course env [] (new settings registry)
  | listen {fired d} (registrations : Registrations) (badDataListeners : List String) :
      Course env fired d → Course env fired { d with registrations, badDataListeners }
  | wait {fired d} (readings nanos : Nat) :
      Course env fired d →
      Course env fired { d with readings := d.readings + readings, slept := d.slept + nanos }
  | process {fired d} (nesting : Nat) (arrival : Arrival) (source : Source) :
      Course env fired d →
      Course env fired (endState (Dispatcher.process env nesting arrival source) d)
  | fire {fired d} (nesting index : Nat) :
      Course env fired d →
      Course env ((d.scheduler.start? (d.moment env) index).toList.map Prod.fst ++ fired)
        (endState (Dispatcher.fire env nesting index) d)

/-- What holds between two steps: no task runs, the count of those that are pending is right, and
every bundle that was put off has been fired or waits. -/
structure Kept (fired : List Deferred) (d : Dispatcher) : Prop where
  running : d.scheduler.running = none
  isShutDown : d.scheduler.isShutDown = false
  pending : d.scheduler.pending = d.scheduler.waiting.length
  putOff : d.putOff.Perm
    (fired.map Deferred.content ++ d.scheduler.waiting.map Task.content)

/-- The dispatcher as it starts the task at the place. -/
def starting (d : Dispatcher) (index : Nat) (task : Task Deferred) : Dispatcher :=
  { d with
    readings := d.readings + 1
    scheduler := { d.scheduler with
      waiting := d.scheduler.waiting.eraseIdx index, running := some task } }

section Kept

variable {env : Surroundings} {fired : List Deferred} {d d' : Dispatcher} {index : Nat}
  {task : Task Deferred}

theorem kept_new (settings : Settings) (registry : Registry) : Kept [] (new settings registry) :=
  ⟨rfl, rfl, rfl, .refl _⟩

theorem Kept.of_onward (h : Kept fired d) (honward : Onward env.tests d d') : Kept fired d' := by
  obtain ⟨tasks, hscheduler, hputOff⟩ := honward.scheduler h.isShutDown
  have hpending := h.pending
  have hlength : (d.scheduler.waiting ++ tasks).length =
      d.scheduler.waiting.length + tasks.length := List.length_append
  refine ⟨?_, ?_, ?_, ?_⟩
  · rw [hscheduler]
    exact h.running
  · rw [hscheduler]
    exact h.isShutDown
  · rw [hscheduler]
    show d.scheduler.pending + tasks.length = (d.scheduler.waiting ++ tasks).length
    omega
  · rw [hputOff, hscheduler]
    show List.Perm _ (_ ++ (d.scheduler.waiting ++ tasks).map Task.content)
    calc (tasks.map Task.content).reverse ++ d.putOff
      _ ~ tasks.map Task.content ++ (fired.map Deferred.content ++
            d.scheduler.waiting.map Task.content) := (List.reverse_perm _).append h.putOff
      _ ~ (fired.map Deferred.content ++ d.scheduler.waiting.map Task.content) ++
            tasks.map Task.content := List.perm_append_comm
      _ = _ := by rw [List.map_append, List.append_assoc]

/-- A task that is due starts. -/
theorem Kept.start? (h : Kept fired d) (htask : d.scheduler.waiting[index]? = some task)
    (hdue : task.isDue (d.moment env) = true) :
    d.scheduler.start? (d.moment env) index =
      some (task.job, (d.starting index task).scheduler) := by
  rw [Scheduler.start?, htask, h.running]
  simp [hdue, starting]

/-- Whatever comes of a bundle that was fired, its task is ended. -/
theorem endState_fire {nesting : Nat} {bundle : Deferred} {scheduler : Scheduler Deferred}
    (h : d.scheduler.start? (d.moment env) index = some (bundle, scheduler)) :
    endState (Dispatcher.fire env nesting index) d =
      let d' := endState (release env nesting bundle)
        { d with readings := d.readings + 1, scheduler }
      { d' with scheduler := d'.scheduler.finish } := by
  rw [endState, fire_eq_ended h]
  dsimp only
  rw [endState]
  rcases release env nesting bundle { d with readings := d.readings + 1, scheduler } with
    ⟨_, d'⟩ | ⟨e, d'⟩
  · rfl
  · cases e <;> rfl

/-- What the scheduler is when a task that was started has come to its end. -/
theorem Kept.finish_of_onward (h : Kept fired d) (htask : d.scheduler.waiting[index]? = some task)
    (honward : Onward env.tests (d.starting index task) d') :
    ∃ tasks, d'.scheduler.finish = { d.scheduler with
        waiting := d.scheduler.waiting.eraseIdx index ++ tasks
        pending := d.scheduler.pending - 1 + tasks.length } ∧
      d'.putOff = (tasks.map Task.content).reverse ++ d.putOff := by
  obtain ⟨tasks, hscheduler, hputOff⟩ := honward.scheduler h.isShutDown
  refine ⟨tasks, ?_, hputOff⟩
  obtain ⟨hindex, -⟩ := List.getElem?_eq_some_iff.1 htask
  have hpending := h.pending
  have hcount : d.scheduler.pending + tasks.length - 1 =
      d.scheduler.pending - 1 + tasks.length := by omega
  rw [hscheduler, Scheduler.finish_of_running_eq_some rfl, ← hcount, ← h.running]
  rfl

/-- When a task has come to its end, its bundle counts as fired. -/
theorem Kept.of_finish (h : Kept fired d) (htask : d.scheduler.waiting[index]? = some task)
    (honward : Onward env.tests (d.starting index task) d') :
    Kept (task.job :: fired) { d' with scheduler := d'.scheduler.finish } := by
  obtain ⟨tasks, hscheduler, hputOff⟩ := h.finish_of_onward htask honward
  obtain ⟨hindex, rfl⟩ := List.getElem?_eq_some_iff.1 htask
  rw [hscheduler]
  refine ⟨h.running, h.isShutDown, ?_, ?_⟩
  · have hpending := h.pending
    have hlength := List.length_eraseIdx_of_lt hindex
    show d.scheduler.pending - 1 + tasks.length = (_ ++ tasks).length
    rw [List.length_append]
    omega
  · have hperm := (List.getElem_cons_eraseIdx_perm hindex).map Task.content
    show d'.putOff.Perm (_ ++ (d.scheduler.waiting.eraseIdx index ++ tasks).map Task.content)
    rw [hputOff]
    calc (tasks.map Task.content).reverse ++ d.putOff
      _ ~ tasks.map Task.content ++ (fired.map Deferred.content ++
            d.scheduler.waiting.map Task.content) := (List.reverse_perm _).append h.putOff
      _ ~ (fired.map Deferred.content ++ d.scheduler.waiting.map Task.content) ++
            tasks.map Task.content := List.perm_append_comm
      _ ~ (fired.map Deferred.content ++ (d.scheduler.waiting[index].content ::
            (d.scheduler.waiting.eraseIdx index).map Task.content)) ++ tasks.map Task.content :=
          ((List.Perm.refl _).append hperm.symm).append_right _
      _ ~ (d.scheduler.waiting[index].content :: (fired.map Deferred.content ++
            (d.scheduler.waiting.eraseIdx index).map Task.content)) ++ tasks.map Task.content :=
          List.perm_middle.append_right _
      _ = _ := by
          rw [List.map_append, List.map_cons, List.cons_append, List.cons_append, List.append_assoc]
          rfl

theorem Kept.of_fire (h : Kept fired d) (nesting index : Nat) :
    Kept ((d.scheduler.start? (d.moment env) index).toList.map Prod.fst ++ fired)
      (endState (Dispatcher.fire env nesting index) d) := by
  rcases hstart : d.scheduler.start? (d.moment env) index with _ | ⟨bundle, scheduler⟩
  · rw [endState, fire_of_start?_eq_none hstart]
    exact h.of_onward ((isRunFrame_onward env).read d)
  · rw [endState_fire hstart]
    obtain ⟨task, htask, rfl, -, rfl⟩ := Scheduler.exists_of_start?_eq_some hstart
    exact h.of_finish htask (((isRunFrame_onward env).release nesting task.job).endState _)

theorem Course.kept (h : Course env fired d) : Kept fired d := by
  induction h with
  | start settings registry => exact kept_new settings registry
  | listen registrations badDataListeners _ ih =>
    exact ⟨ih.running, ih.isShutDown, ih.pending, ih.putOff⟩
  | @wait fired d readings nanos _ ih =>
    have hwait : Onward env.tests d
        { d with readings := d.readings + readings, slept := d.slept + nanos } :=
      .of_eq rfl rfl rfl rfl
    exact ih.of_onward hwait
  | process nesting arrival source _ ih =>
    exact ih.of_onward (((isRunFrame_onward env).process nesting arrival source).endState _)
  | fire nesting index _ ih => exact ih.of_fire nesting index

end Kept

/-! ### Panics in dispatches and in bundles that are fired -/

/-- A panic breaks off the dispatch that it happens in.  The calls are those of the dispatch without
panics up to the listener that panicked, the bundles put off until then wait, those who listen are
left as the changes made until then have them, and without the panic all would go on from the very
state that is left.  A bundle that was put off is taken apart when it is due, whatever became of
others; if a listener panics meanwhile, that bundle alone is broken off, and counts as no longer
pending. -/
theorem panic_cuts_short {env : Surroundings} {react : React} (hreact : env.GoesOn react) :
    (∀ (nesting : Nat) (arrival : Arrival) (source : Source) (d : Dispatcher),
      let calm := process (env.reacting react) nesting arrival source
      ((∀ text d', process env nesting arrival source d ≠ .error (.panicked text) d') →
        calm d = process env nesting arrival source d) ∧
      (∀ text d', process env nesting arrival source d = .error (.panicked text) d' →
        (∃ stop, BrokenOff env react stop text calm d d') ∧
        d'.callings <:+ (endState calm d).callings ∧ d'.putOff <:+ (endState calm d).putOff ∧
        d'.changes <:+ (endState calm d).changes ∧
        (∃ changes, d'.changes = changes ++ d.changes ∧
          d'.lists = changes.foldr (Change.after env.tests) d.lists) ∧
        (d.scheduler.isShutDown = false → ∃ tasks, d'.scheduler = d.scheduler.holding tasks ∧
          d'.putOff = (tasks.map Task.content).reverse ++ d.putOff)) ∧
      NeverPanics calm) ∧
    ∀ (fired : List Deferred) (d : Dispatcher), Course env fired d →
      d.scheduler.pending = d.scheduler.waiting.length ∧
      d.putOff.Perm (fired.map Deferred.content ++ d.scheduler.waiting.map Task.content) ∧
      ∀ (nesting index : Nat) (task : Task Deferred),
        d.scheduler.waiting[index]? = some task → task.isDue (d.moment env) = true →
        let start := d.starting index task
        let calm := release (env.reacting react) nesting task.job
        fire env nesting index d = ended (release env nesting task.job start) ∧
        (∃ tasks, (endState (fire env nesting index) d).scheduler = { d.scheduler with
            waiting := d.scheduler.waiting.eraseIdx index ++ tasks
            pending := d.scheduler.pending - 1 + tasks.length } ∧
          (endState (fire env nesting index) d).putOff =
            (tasks.map Task.content).reverse ++ d.putOff) ∧
        (∃ deliveries, Delivers env (process env nesting) task.job.source start
          (Packet.timedAll task.job.time task.job.elements) deliveries
          (release env nesting task.job start)) ∧
        (∀ d', release env nesting task.job start = .ok () d' → calm start = .ok () d' ∧
          (env.HasThread →
            Accounted (Packet.timedAll task.job.time task.job.elements : List (TimeTag × Message))
              start d')) ∧
        ∀ text d', release env nesting task.job start = .error (.panicked text) d' →
          (∃ stop, BrokenOff env react stop text calm start d') ∧
          d'.callings <:+ (endState calm start).callings ∧
          ∃ changes, d'.changes = changes ++ d.changes ∧
            d'.lists = changes.foldr (Change.after env.tests) d.lists := by
  refine ⟨fun nesting arrival source d => ⟨fun hrun => ?_, fun text d' hrun => ?_, ?_⟩,
    fun fired d hcourse => ?_⟩
  · exact (cutsShort_process hreact nesting arrival source).eq_of_ne_panicked hrun
  · obtain ⟨stop, hbroken⟩ :=
      (cutsShort_process hreact nesting arrival source).exists_brokenOff hrun
    exact ⟨⟨stop, hbroken⟩, hbroken.ahead.callings_suffix, hbroken.ahead.putOff_suffix,
      hbroken.ahead.changes_suffix, hbroken.onward.lists, hbroken.onward.scheduler⟩
  · exact (cutsShort_process hreact.reacting nesting arrival source).neverPanics hreact
  · have hkept := hcourse.kept
    refine ⟨hkept.pending, hkept.putOff, fun nesting index task htask hdue => ?_⟩
    have hstart := hkept.start? htask hdue
    have honward := ((isRunFrame_onward env).release nesting task.job).endState
      (d.starting index task)
    have hrelease := cutsShort_release hreact nesting task.job
    refine ⟨fire_eq_ended hstart, ?_, ?_, fun d' hrun => ⟨?_, fun hthread => ?_⟩,
      fun text d' hrun => ?_⟩
    · rw [endState_fire hstart]
      exact hkept.finish_of_onward htask honward
    · rw [release_eq_handleAll]
      exact goesThrough_handleAll env (process env nesting) task.job.source task.job.time
        task.job.elements (d.starting index task)
    · refine (hrelease.eq_of_ne_panicked fun text d'' hpanic => ?_).trans hrun
      rw [hrun] at hpanic
      cases hpanic
    · exact (accounts_release hthread nesting task.job).of_eq_ok hrun hkept.isShutDown
    · obtain ⟨stop, hbroken⟩ := hrelease.exists_brokenOff hrun
      exact ⟨⟨stop, hbroken⟩, hbroken.ahead.callings_suffix, hbroken.onward.lists⟩

/-- Surroundings in which a listener panics at messages with a certain address, when it has added a
listener for bad data. -/
def brittle : Surroundings :=
  { quiet with
    react := fun listener _ notice =>
      match notice with
      | .message event =>
        if listener = "brittle" ∧ event.message.address = "/b" then
          .ask (.change (.addBadData "mourner")) fun _ => .panic "snapped"
        else .done
      | _ => .done }

/-- Messages and bundles that have to wait, of which the first one has a message that is panicked
at, too. -/
def riskyBundle : Packet :=
  .bundle .immediate [.message { address := "/a" },
    .bundle (inSeconds 10) [.message { address := "/b" }],
    .bundle (inSeconds 20) [.message { address := "/a" }], .message { address := "/b" },
    .message { address := "/c" }, .bundle (inSeconds 30) []]

/-- A dispatcher with a listener behind the one that panics. -/
def watched : Dispatcher :=
  { new {} .empty with
    registrations := .ofEntries quiet.tests
      [⟨.address "/b", "brittle"⟩, ⟨.address "/?", "watcher"⟩] }

/-- The dispatch of the bundle has been broken off. -/
def afterPanic : Dispatcher := endState (process brittle 1 (.packet riskyBundle) none) watched

/-- The bundles that were put off are due by now. -/
def beforeTurns : Dispatcher :=
  { afterPanic with
    readings := afterPanic.readings + 0
    slept := afterPanic.slept + 25000000000 }

/-- The bundle with the message that is panicked at. -/
def failing : Task Deferred := beforeTurns.scheduler.waiting.get ⟨0, by decide +kernel⟩

/-- The bundle with the message that is panicked at has had its turn. -/
def afterTurn : Dispatcher := endState (Dispatcher.fire brittle 1 0) beforeTurns

/-- The bundle behind it. -/
def following : Task Deferred := afterTurn.scheduler.waiting.get ⟨0, by decide +kernel⟩

theorem panic_cuts_short_riskyBundle :
    brittle.GoesOn brittle.returning ∧
    process brittle 1 (.packet riskyBundle) none watched =
      .error (.panicked "snapped") afterPanic ∧
    (afterPanic.calls.map fun call => (call.listener, call.address)) =
      [("brittle", "/b"), ("watcher", "/a")] ∧
    (∃ stop, BrokenOff brittle brittle.returning stop "snapped"
      (process (brittle.reacting brittle.returning) 1 (.packet riskyBundle) none) watched
      afterPanic) ∧
    (watched.badDataListeners = [] ∧ afterPanic.badDataListeners = ["mourner"] ∧
      ∃ changes, afterPanic.changes = changes ++ watched.changes ∧
        afterPanic.lists = changes.foldr (Change.after brittle.tests) watched.lists) ∧
    watched.scheduler.isShutDown = false ∧
    (∃ tasks, afterPanic.scheduler = watched.scheduler.holding tasks ∧
      afterPanic.putOff = (tasks.map Task.content).reverse ++ watched.putOff) ∧
    (Course brittle [] beforeTurns ∧ beforeTurns.scheduler.waiting[0]? = some failing ∧
      failing.isDue (beforeTurns.moment brittle) = true ∧
      ∃ stop d', BrokenOff brittle brittle.returning stop "snapped"
        (release (brittle.reacting brittle.returning) 1 failing.job)
        (beforeTurns.starting 0 failing) d') ∧
    beforeTurns.scheduler.pending = 2 ∧ afterTurn.scheduler.pending = 1 ∧
    Course brittle [failing.job] afterTurn ∧ afterTurn.scheduler.waiting[0]? = some following ∧
    following.isDue (afterTurn.moment brittle) = true ∧ brittle.HasThread ∧
    ∃ d', release brittle 1 following.job (afterTurn.starting 0 following) = .ok () d' ∧
      Accounted (Packet.timedAll following.job.time following.job.elements :
        List (TimeTag × Message)) (afterTurn.starting 0 following) d' := by
  have hreact : brittle.GoesOn brittle.returning := brittle.goesOn_returning
  obtain ⟨hprocess, hcourse⟩ := panic_cuts_short hreact
  have hpanic : process brittle 1 (.packet riskyBundle) none watched =
      .error (.panicked "snapped") afterPanic := eq_error_of_interruption? (by decide +kernel)
  obtain ⟨hbroken, -, -, -, hlists, htasks⟩ :=
    (hprocess 1 (.packet riskyBundle) none watched).2.1 _ _ hpanic
  have hwatched : Course brittle [] watched := .listen watched.registrations [] (.start {} .empty)
  have hbefore : Course brittle [] beforeTurns :=
    .wait 0 25000000000 (.process 1 (.packet riskyBundle) none hwatched)
  have hfailing : beforeTurns.scheduler.waiting[0]? = some failing := List.getElem?_eq_getElem _
  have hdue : failing.isDue (beforeTurns.moment brittle) = true := by decide +kernel
  have hfails : release brittle 1 failing.job (beforeTurns.starting 0 failing) =
      .error (.panicked "snapped") _ := eq_error_of_interruption? (by decide +kernel)
  obtain ⟨-, -, hturn⟩ := hcourse [] beforeTurns hbefore
  obtain ⟨⟨stop, hstop⟩, -⟩ := (hturn 1 0 failing hfailing hdue).2.2.2.2 _ _ hfails
  have hafter : Course brittle [failing.job] afterTurn := by
    have hfire := hbefore.fire 1 0
    rwa [hbefore.kept.start? hfailing hdue] at hfire
  have hfollowing : afterTurn.scheduler.waiting[0]? = some following := List.getElem?_eq_getElem _
  have hdue' : following.isDue (afterTurn.moment brittle) = true := by decide +kernel
  have hsucceeds : release brittle 1 following.job (afterTurn.starting 0 following) = .ok () _ :=
    eq_ok_of_interruption? (by decide +kernel)
  have hthread : brittle.HasThread := fun _ => rfl
  obtain ⟨-, -, hturn'⟩ := hcourse [failing.job] afterTurn hafter
  obtain ⟨-, haccounted⟩ := (hturn' 1 0 following hfollowing hdue').2.2.2.1 _ hsucceeds
  exact ⟨hreact, hpanic, by decide +kernel, hbroken, ⟨rfl, by decide +kernel, hlists⟩, rfl,
    htasks rfl, ⟨hbefore, hfailing, hdue, stop, _, hstop⟩, by decide +kernel, by decide +kernel, hafter,
    hfollowing, hdue', hthread, _, hsucceeds, haccounted hthread⟩

end Dispatcher

end OpenSound
