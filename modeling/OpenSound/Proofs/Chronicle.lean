import OpenSound.Proofs.Conservation

/-!
# Chronicles

A dispatcher does not remember in which bundles a message lay, nor when their time tags were looked
at.  A chronicle does: it has an entry for every message that was handed over and for every bundle
that waits.  The functions of `Recorded` are those of a dispatcher with a chronicle kept beside the
state.  Without the chronicle they are the functions they are named for (`Erases`), and so the runs
with a chronicle are the runs (`run_iff_exists_chronicled`).
-/

namespace OpenSound

namespace Dispatcher

/-- A bundle that was come to: its time tag, and what the clock shows when the tag is looked at.
For the tag that asks for delivery at once the clock is not read. -/
structure Look where
  tag : TimeTag
  moment : Instant

/-- A message that was handed over. -/
structure Handing where
  time : TimeTag
  message : Message
  /-- The bundles around it, the innermost first. -/
  looks : List Look
  /-- What the clock showed by then. -/
  moment : Instant

/-- What is remembered besides. -/
structure Chronicle where
  /-- The messages that were handed over, the last one first. -/
  handings : List Handing := []
  /-- For each task that waits, the bundle that was put off and those around it. -/
  waiting : List (List Look) := []

/-- The bundles of a task that waits. -/
def Chronicle.looksAt (c : Chronicle) (index : Nat) : List Look := c.waiting.getD index []

variable (env : Surroundings)

/-- What the clock showed when it was last read, which is no more than it shows by now. -/
def shown (d : Dispatcher) : Instant := (env.clock (d.readings - 1)).after d.slept

/-- A step that keeps a chronicle.  What it has written stays written if it is broken off. -/
abbrev Recorded := EStateM Interruption (Dispatcher × Chronicle)

namespace Recorded

/-- Does a step that is of no account for the chronicle. -/
def lift {α : Type} (s : Step α) : Recorded α := fun (d, c) =>
  match s d with
  | .ok a d => .ok a (d, c)
  | .error e d => .error e (d, c)

/-- Writes to the chronicle. -/
def write (f : Chronicle → Chronicle) : Recorded Unit := modify fun (d, c) => (d, f c)

/-- What a step comes to for its caller. -/
def answered (s : Recorded Unit) : Recorded (Except ScheduleError Unit) := fun p =>
  match s p with
  | .ok _ p => .ok (.ok ()) p
  | .error (.failed e) p => .ok (.error e) p
  | .error (.panicked text) p => .error (.panicked text) p
  | .error .tooDeep p => .error .tooDeep p

/-- Does what a listener asks for. -/
def perform (process : Arrival → Source → Recorded Unit) (caller : String) :
    (action : Action) → Recorded action.Answer
  | .process arrival source => answered (process arrival source)
  -- no other action has the dispatcher deal with anything
  | .change change => lift (Dispatcher.perform env (fun _ _ => pure ()) caller (.change change))
  | .inspect => lift (Dispatcher.perform env (fun _ _ => pure ()) caller .inspect)

/-- Does what a listener does. -/
def follow (process : Arrival → Source → Recorded Unit) (caller : String) : Reaction → Recorded Unit
  | .done => pure ()
  | .panic text => throw (.panicked text)
  | .ask action next => do
    let answer ← perform env process caller action
    follow process caller (next answer)

/-- Calls a listener. -/
def call (process : Arrival → Source → Recorded Unit) (listener : String) (notice : Notice) :
    Recorded Unit := do
  let d ← lift get
  lift (set (d.note (notice.occurrence listener d.scheduler.currentThread?)))
  follow env process listener (env.react listener d.journal notice)

/-- Calls the listeners whose selectors select the message. -/
def inform (process : Arrival → Source → Recorded Unit) (source : Source) (time : TimeTag)
    (m : Message) : Recorded Unit := do
  let d ← lift get
  let message := if d.registrations.infoRequired then d.withTypeTags m else m
  d.registrations.entries.forM fun registration => do
    if ← lift (selects env registration.selector message) then
      call env process registration.listener (.message ⟨source, time, message⟩)

/-- Calls the listeners for bad data. -/
def report (process : Arrival → Source → Recorded Unit) (source : Source) (failure : Malformed) :
    Recorded Unit := do
  let d ← lift get
  d.badDataListeners.forM fun listener => call env process listener (.badData source failure)

/-- Hands a message to the listeners. -/
def deliver (process : Arrival → Source → Recorded Unit) (source : Source) (looks : List Look)
    (time : TimeTag) (m : Message) : Recorded Unit := do
  let d ← lift get
  write fun c => { c with handings := ⟨time, m, looks, d.shown env⟩ :: c.handings }
  lift (modify fun d => d.handOver time m)
  inform env process source time m

/-- Puts off a bundle.  One that the scheduler does not take does not wait. -/
def defer (source : Source) (looks : List Look) (time : TimeTag) (elements : List Packet)
    (delay : Nat) : Recorded Unit := do
  lift (Dispatcher.defer env source time elements delay)
  write fun c => { c with waiting := c.waiting ++ [looks] }

section Packets

variable (process : Arrival → Source → Recorded Unit) (source : Source)

mutual

/-- Handles a packet that lies in the bundles that were looked at. -/
def handle (looks : List Look) (time : TimeTag) : Packet → Recorded Unit
  | .message m => deliver env process source looks time m
  | .bundle tag elements => do
    let d ← lift get
    match ← lift (delay? env tag) with
    | none => handleAll (⟨tag, d.moment env⟩ :: looks) tag elements
    | some delay => defer env source (⟨tag, d.moment env⟩ :: looks) tag elements delay

def handleAll (looks : List Look) (time : TimeTag) : List Packet → Recorded Unit
  | [] => pure ()
  | packet :: rest => do
    handle looks time packet
    handleAll looks time rest

end

end Packets

/-- Deals with what arrives.  A packet that arrives lies in no bundle. -/
def process : (nesting : Nat) → Arrival → Source → Recorded Unit
  | 0, _, _ => throw .tooDeep
  | nesting + 1, .packet packet, source => do
    lift (modify fun d => d.accept packet)
    handle env (process nesting) source [] .immediate packet
  | nesting + 1, .failure failure, source => report env (process nesting) source failure

/-- Takes apart a bundle that was put off. -/
def release (nesting : Nat) (looks : List Look) (bundle : Deferred) : Recorded Unit :=
  handleAll env (process env nesting) bundle.source looks bundle.time bundle.elements

end Recorded

/-! ### Without the chronicle -/

/-- How something ends, without the chronicle. -/
def erased {α : Type} :
    EStateM.Result Interruption (Dispatcher × Chronicle) α →
      EStateM.Result Interruption Dispatcher α
  | .ok a p => .ok a p.1
  | .error e p => .error e p.1

/-- Without its chronicle, the first step is the second one. -/
def Erases {α : Type} (s : Recorded α) (s' : Step α) : Prop := ∀ d c, erased (s (d, c)) = s' d

section Erases

variable {α β : Type} {x : Recorded α} {x' : Step α} {f : α → Recorded β} {f' : α → Step β}

theorem erases_pure (a : α) : Erases (pure a) (pure a) := fun _ _ => rfl

theorem erases_throw (e : Interruption) : Erases (throw e : Recorded α) (throw e) := fun _ _ => rfl

theorem erases_lift (s : Step α) : Erases (Recorded.lift s) s := by
  intro d c
  show erased (match s d with
    | .ok a d' => .ok a (d', c)
    | .error e d' => .error e (d', c)) = s d
  rcases s d with ⟨a, d'⟩ | ⟨e, d'⟩
  · rfl
  · rfl

theorem Erases.bind (hx : Erases x x') (hf : ∀ a, Erases (f a) (f' a)) :
    Erases (x >>= f) (x' >>= f') := by
  intro d c
  have hd := hx d c
  show erased (EStateM.bind x f (d, c)) = EStateM.bind x' f' d
  rw [EStateM.bind, EStateM.bind, ← hd]
  rcases x (d, c) with ⟨a, d', c'⟩ | ⟨e, d', c'⟩
  · exact hf a d' c'
  · rfl

theorem Erases.forM {γ : Type} {f : γ → Recorded PUnit} {f' : γ → Step PUnit}
    (hf : ∀ a, Erases (f a) (f' a)) (as : List γ) : Erases (as.forM f) (as.forM f') := by
  induction as with
  | nil => exact erases_pure _
  | cons a as ih => exact (hf a).bind fun _ => ih

/-- What is written to the chronicle does not count. -/
theorem Erases.write_bind (hx : Erases x x') (g : Chronicle → Chronicle) :
    Erases (do Recorded.write g; x) x' := fun d c => hx d (g c)

theorem Erases.bind_write {x : Recorded Unit} {x' : Step Unit} (hx : Erases x x')
    (g : Chronicle → Chronicle) : Erases (do x; Recorded.write g) x' := by
  have hwrite : Erases (Recorded.write g) (pure ()) := fun _ _ => rfl
  have hbind := hx.bind fun _ => hwrite
  rwa [bind_pure_unit] at hbind

/-- Nor does a look at the state. -/
theorem Erases.get_bind {y : Dispatcher → Recorded α} (hy : ∀ d, Erases (y d) x') :
    Erases (Recorded.lift get >>= y) x' := fun d c => hy d d c

theorem Erases.answered {s : Recorded Unit} {s' : Step Unit} (h : Erases s s') :
    Erases (Recorded.answered s) (answered s') := by
  intro d c
  have hd := h d c
  rw [Recorded.answered, Dispatcher.answered, ← hd]
  rcases s (d, c) with ⟨_, d', c'⟩ | ⟨e, d', c'⟩
  · rfl
  · cases e <;> rfl

end Erases

variable {env} {process : Arrival → Source → Recorded Unit}
  {process' : Arrival → Source → Step Unit} {source : Source}

theorem erases_defer (looks : List Look) (time : TimeTag) (elements : List Packet) (delay : Nat) :
    Erases (Recorded.defer env source looks time elements delay)
      (defer env source time elements delay) := (erases_lift _).bind_write _

theorem erases_handle_bundle {tag : TimeTag} {elements : List Packet} (looks : List Look)
    (time : TimeTag)
    (h : ∀ looks, Erases (Recorded.handleAll env process source looks tag elements)
      (handleAll env process' source tag elements)) :
    Erases (Recorded.handle env process source looks time (.bundle tag elements))
      (handle env process' source time (.bundle tag elements)) := by
  rw [Recorded.handle, handle_eq_visit, Walk.visit, ← handleAll_eq_visitAll]
  refine Erases.get_bind fun d => (erases_lift _).bind fun delay => ?_
  cases delay with
  | none => exact h _
  | some delay => exact erases_defer _ tag elements delay

section Listeners

variable (hprocess : ∀ arrival source, Erases (process arrival source) (process' arrival source))

include hprocess

theorem erases_perform (caller : String) (action : Action) :
    Erases (Recorded.perform env process caller action) (perform env process' caller action) := by
  cases action with
  | process arrival source => exact (hprocess arrival source).answered
  | change change => exact erases_lift (perform env process' caller (.change change))
  | inspect => exact erases_lift (perform env process' caller .inspect)

theorem erases_follow (caller : String) (reaction : Reaction) :
    Erases (Recorded.follow env process caller reaction)
      (follow env process' caller reaction) := by
  induction reaction with
  | done => exact erases_pure _
  | panic text => exact erases_throw _
  | ask action next ih => exact (erases_perform hprocess caller action).bind ih

theorem erases_call (listener : String) (notice : Notice) :
    Erases (Recorded.call env process listener notice) (call env process' listener notice) :=
  (erases_lift _).bind fun _ => (erases_lift _).bind fun _ => erases_follow hprocess listener _

theorem erases_inform (time : TimeTag) (m : Message) :
    Erases (Recorded.inform env process source time m) (inform env process' source time m) := by
  refine (erases_lift _).bind fun d => Erases.forM (fun registration => ?_) _
  refine (erases_lift _).bind fun selected => ?_
  cases selected with
  | true => exact erases_call hprocess _ _
  | false => exact erases_pure _

theorem erases_report (source : Source) (failure : Malformed) :
    Erases (Recorded.report env process source failure) (report env process' source failure) :=
  (erases_lift _).bind fun _ => Erases.forM (fun listener => erases_call hprocess listener _) _

theorem erases_deliver (looks : List Look) (time : TimeTag) (m : Message) :
    Erases (Recorded.deliver env process source looks time m)
      (deliver env process' source time m) :=
  Erases.get_bind fun _ => Erases.write_bind
    ((erases_lift _).bind fun _ => erases_inform hprocess time m) _

theorem erases_handleAll (looks : List Look) (time : TimeTag) (packets : List Packet) :
    Erases (Recorded.handleAll env process source looks time packets)
      (handleAll env process' source time packets) := by
  induction packets using Packet.list_induction generalizing looks time with
  | nil => exact erases_pure _
  | message m rest ih =>
    rw [Recorded.handleAll, handleAll, Recorded.handle, handle]
    exact (erases_deliver hprocess looks time m).bind fun _ => ih looks time
  | bundle tag elements rest ihElements ih =>
    rw [Recorded.handleAll, handleAll]
    exact (erases_handle_bundle looks time fun looks => ihElements looks tag).bind
      fun _ => ih looks time

theorem erases_handle (looks : List Look) (time : TimeTag) (packet : Packet) :
    Erases (Recorded.handle env process source looks time packet)
      (handle env process' source time packet) := by
  cases packet with
  | message m =>
    rw [Recorded.handle, handle]
    exact erases_deliver hprocess looks time m
  | bundle tag elements =>
    exact erases_handle_bundle looks time fun looks =>
      erases_handleAll hprocess looks tag elements

end Listeners

theorem erases_process (nesting : Nat) (arrival : Arrival) (source : Source) :
    Erases (Recorded.process env nesting arrival source)
      (Dispatcher.process env nesting arrival source) := by
  induction nesting generalizing arrival source with
  | zero => exact erases_throw _
  | succ nesting ih =>
    cases arrival with
    | failure failure => exact erases_report ih source failure
    | packet packet =>
      rw [process_packet]
      exact (erases_lift _).bind fun _ => erases_handle ih [] .immediate packet

theorem erases_release (nesting : Nat) (looks : List Look) (bundle : Deferred) :
    Erases (Recorded.release env nesting looks bundle) (release env nesting bundle) := by
  rw [release_eq_handleAll]
  exact erases_handleAll (erases_process nesting) looks bundle.time bundle.elements

/-- A step that succeeds does so with a chronicle as well, and leads to the same state. -/
theorem Erases.eq_ok_iff {s : Recorded Unit} {s' : Step Unit} (h : Erases s s') {c : Chronicle}
    {d d' : Dispatcher} : s' d = .ok () d' ↔ ∃ c', s (d, c) = .ok () (d', c') := by
  rw [← h d c]
  rcases s (d, c) with ⟨_, d₁, c₁⟩ | ⟨e, d₁, c₁⟩ <;> simp [erased]

/-! ### Runs -/

/-- The states of a dispatcher between the steps of a run, each with its chronicle. -/
inductive Chronicled (env : Surroundings) : Dispatcher → Chronicle → Prop
  | start (settings : Settings) (registry : Registry) : Chronicled env (new settings registry) {}
  | listen {d c} (registrations : Registrations) (badDataListeners : List String) :
      Chronicled env d c → Chronicled env { d with registrations, badDataListeners } c
  | wait {d c} (readings nanos : Nat) :
      Chronicled env d c →
      Chronicled env { d with readings := d.readings + readings, slept := d.slept + nanos } c
  | process {d d' c c' nesting arrival source} :
      Chronicled env d c →
      Recorded.process env nesting arrival source (d, c) = .ok () (d', c') →
      Chronicled env d' c'
  | fire {d d' c c' nesting index bundle scheduler} :
      Chronicled env d c →
      d.scheduler.start? (d.moment env) index = some (bundle, scheduler) →
      Recorded.release env nesting (c.looksAt index) bundle
          ({ d with readings := d.readings + 1, scheduler },
            { c with waiting := c.waiting.eraseIdx index }) = .ok () (d', c') →
      Chronicled env { d' with scheduler := d'.scheduler.finish } c'

theorem Chronicled.run {d : Dispatcher} {c : Chronicle} (h : Chronicled env d c) : Run env d := by
  induction h with
  | start settings registry => exact .start settings registry
  | listen registrations badDataListeners _ ih => exact .listen registrations badDataListeners ih
  | wait readings nanos _ ih => exact .wait readings nanos ih
  | process _ hrun ih => exact .process ih ((erases_process _ _ _).eq_ok_iff.2 ⟨_, hrun⟩)
  | @fire d d' _ _ nesting index bundle scheduler _ hstart hrun ih =>
    have hrelease := (erases_release nesting _ bundle).eq_ok_iff.2 ⟨_, hrun⟩
    have hcompletes : Completes env nesting index d := by
      rw [Completes, hstart]
      exact ⟨d', hrelease⟩
    exact .fire ih hcompletes (fire_of_start?_eq_some hstart hrelease)

theorem exists_chronicled_of_fire {nesting index : Nat} {d d' : Dispatcher} {c : Chronicle}
    {fired : Bool} (hd : Chronicled env d c) (hcompletes : Completes env nesting index d)
    (h : Dispatcher.fire env nesting index d = .ok fired d') : ∃ c', Chronicled env d' c' := by
  rcases hstart : d.scheduler.start? (d.moment env) index with _ | ⟨bundle, scheduler⟩
  · -- nothing is done but to read the clock
    rw [fire_of_start?_eq_none hstart] at h
    cases h
    exact ⟨c, hd.wait 1 0⟩
  · rw [Completes, hstart] at hcompletes
    obtain ⟨ended, hrelease⟩ := hcompletes
    rw [fire_of_start?_eq_some hstart hrelease] at h
    cases h
    obtain ⟨c', hrun⟩ := (erases_release nesting (c.looksAt index) bundle).eq_ok_iff.1 hrelease
    exact ⟨c', hd.fire hstart hrun⟩

/-- Every run has a chronicle, and whatever has one is a run. -/
theorem run_iff_exists_chronicled {d : Dispatcher} : Run env d ↔ ∃ c, Chronicled env d c := by
  refine ⟨fun h => ?_, fun ⟨_, h⟩ => h.run⟩
  induction h with
  | start settings registry => exact ⟨_, .start settings registry⟩
  | listen registrations badDataListeners _ ih =>
    obtain ⟨c, hc⟩ := ih
    exact ⟨c, hc.listen registrations badDataListeners⟩
  | wait readings nanos _ ih =>
    obtain ⟨c, hc⟩ := ih
    exact ⟨c, hc.wait readings nanos⟩
  | process _ hrun ih =>
    obtain ⟨c, hc⟩ := ih
    obtain ⟨c', hrun'⟩ := (erases_process _ _ _).eq_ok_iff.1 hrun
    exact ⟨c', hc.process hrun'⟩
  | fire _ hcompletes hfire ih =>
    obtain ⟨c, hc⟩ := ih
    exact exists_chronicled_of_fire hc hcompletes hfire

end Dispatcher

end OpenSound
