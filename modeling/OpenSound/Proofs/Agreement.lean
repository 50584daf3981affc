import OpenSound.Proofs.RoundTrip
import OpenSound.Proofs.Twins

/-!
# Messages with and without infos

A message that came over the wire carries its type tags as an info; one that was made in memory need
not.  `Message.settled` gives either of them the info that its type tags come to, so that messages
that are equal when settled differ in nothing else.  Selectors without custom tests cannot tell such
messages apart, and where listeners do not either (`Surroundings.IsImpartial`), two dispatchers go
on alike that were alike (`isLastingTwin_alike`), whatever they are given, as long as it is equal
when settled.
-/

namespace OpenSound

/-! ### Settled packets -/

/-- The message with its type tags as its info, whether it came with one or not. -/
def Message.settled (m : Message) : Message := m.withInfo ⟨m.typeTags⟩

/-- The packet with every message in it settled. -/
def Packet.settled (packet : Packet) : Packet := packet.map Message.settled

def Packet.settledAll (packets : List Packet) : List Packet := mapAll Message.settled packets

def Arrival.settled : Arrival → Arrival
  | packet p => .packet p.settled
  | failure f => .failure f

def Event.settled (event : Event) : Event := { event with message := event.message.settled }

def Notice.settled : Notice → Notice
  | message event => .message event.settled
  | badData source failure => .badData source failure
  | arrival source arrived => .arrival source arrived.settled

def Occurrence.settled : Occurrence → Occurrence
  | called listener event thread => called listener event.settled thread
  | deferred time elements delay => deferred time (Packet.settledAll elements) delay
  | told listener source arrival => told listener source arrival.settled
  | occurrence => occurrence

def Deferred.settled (bundle : Deferred) : Deferred :=
  { bundle with elements := Packet.settledAll bundle.elements }

def Task.settled (task : Task Deferred) : Task Deferred := { task with job := task.job.settled }

def Scheduler.settled (s : Scheduler Deferred) : Scheduler Deferred :=
  { s with waiting := s.waiting.map Task.settled, running := s.running.map Task.settled }

theorem Message.settled_eq_iff {m m' : Message} :
    m.settled = m'.settled ↔
      m.address = m'.address ∧ m.arguments = m'.arguments ∧ m.typeTags = m'.typeTags := by
  simp only [settled, withInfo, mk.injEq, Option.some.injEq, MessageInfo.mk.injEq]

theorem Message.typeTags_of_info_eq_none {m : Message} (h : m.info = none) :
    m.typeTags = String.ofList (Argument.typeTagsOf m.arguments) := by
  rw [typeTags, h]

/-- Type tags that are worked out for a message are those that it had before. -/
theorem Dispatcher.settled_withTypeTags (d : Dispatcher) (m : Message) :
    (d.withTypeTags m).settled = m.settled := by
  rw [withTypeTags]
  rcases hinfo : m.info with _ | info
  · rcases htags : ({ registry := d.registry } : Codec).typeTags m.arguments with e | tags
    · rw [Codec.messageInfo, htags]
      rfl
    · rw [Codec.messageInfo, htags]
      show m.withInfo ⟨tags⟩ = m.withInfo ⟨m.typeTags⟩
      rw [Codec.eq_of_typeTags htags, Message.typeTags_of_info_eq_none hinfo]
  · rfl

theorem Scheduler.currentThread?_settled (s : Scheduler Deferred) :
    s.settled.currentThread? = s.currentThread? := Option.map_map ..

/-- What is noted of a call settles as what the listener is told does. -/
theorem Notice.settled_occurrence {notice notice' : Notice} (h : notice.settled = notice'.settled)
    (listener : String) (thread : Option String) :
    (notice.occurrence listener thread).settled = (notice'.occurrence listener thread).settled := by
  cases notice with
  | message event =>
    cases notice' with
    | message event' =>
      have hevent := Notice.message.inj h
      rw [occurrence, occurrence, Occurrence.settled, Occurrence.settled, hevent]
    | _ => cases h
  | badData source failure =>
    cases notice' <;> cases h
    rfl
  | arrival source arrived =>
    cases notice' with
    | arrival source' arrived' =>
      obtain ⟨rfl, harrived⟩ := Notice.arrival.inj h
      rw [occurrence, occurrence, Occurrence.settled, Occurrence.settled, harrived]
    | _ => cases h

/-! ### Selectors -/

/-- Whether the criterion is no custom test. -/
def Criterion.isPlain : Criterion → Bool
  | custom _ => false
  | _ => true

/-- Whether there is no custom test in the selector. -/
def Selector.isPlain : Selector → Bool
  | leaf criterion => criterion.isPlain
  | combined _ left right => left.isPlain && right.isPlain

/-- Whether the change does not register a selector with a custom test. -/
def Change.isPlain : Change → Bool
  | add selector _ => selector.isPlain
  | _ => true

section Selectors

variable {tests : CustomTests} {m m' : Message}

theorem Criterion.isMet_of_settled_eq (hm : m.settled = m'.settled) {criterion : Criterion}
    (h : criterion.isPlain = true) : criterion.isMet tests m = criterion.isMet tests m' := by
  obtain ⟨haddress, -, htags⟩ := Message.settled_eq_iff.1 hm
  cases criterion with
  | address pattern => rw [isMet, isMet, haddress]
  | regexAddress regex => rw [isMet, isMet, haddress]
  | typeTags pattern => rw [isMet, isMet, htags]
  | regexTypeTags regex => rw [isMet, isMet, htags]
  | custom name => cases h

/-- Without custom tests, a selector looks at nothing but the address and the type tags. -/
theorem Selector.evaluate_of_settled_eq (hm : m.settled = m'.settled) {selector : Selector}
    (h : selector.isPlain = true) : selector.evaluate tests m = selector.evaluate tests m' := by
  induction selector with
  | leaf criterion => rw [evaluate, evaluate, Criterion.isMet_of_settled_eq hm h]
  | combined operator left right ihLeft ihRight =>
    rw [isPlain, Bool.and_eq_true] at h
    rw [evaluate, evaluate, ihLeft h.1, ihRight h.2]

end Selectors

/-- Reactions that come to the same, whatever the answers, where the packets that listeners have
dispatched may differ in infos.  No selectors with custom tests are registered. -/
inductive Reaction.Alike : Reaction → Reaction → Prop
  | done : Alike .done .done
  | panic (text : String) : Alike (.panic text) (.panic text)
  | change {change : Change} {next next' : Option Bool → Reaction} :
      change.isPlain = true → (∀ answer, Alike (next answer) (next' answer)) →
      Alike (.ask (.change change) next) (.ask (.change change) next')
  | process {arrival arrival' : Arrival} {source : Source}
      {next next' : Except ScheduleError Unit → Reaction} :
      arrival.settled = arrival'.settled → (∀ answer, Alike (next answer) (next' answer)) →
      Alike (.ask (.process arrival source) next) (.ask (.process arrival' source) next')
  | inspect {next next' : Figures → Reaction} :
      (∀ answer, Alike (next answer) (next' answer)) →
      Alike (.ask .inspect next) (.ask .inspect next')

/-- Listeners that do the same when they are told the same, where a message tells its address, its
arguments and its type tags. -/
def Surroundings.IsImpartial (env : Surroundings) : Prop :=
  ∀ (listener : String) {journal journal' : List Occurrence} {notice notice' : Notice},
    journal.map Occurrence.settled = journal'.map Occurrence.settled →
    notice.settled = notice'.settled →
    (env.react listener journal notice).Alike (env.react listener journal' notice')

/-! ### Dispatchers that are alike -/

namespace Dispatcher

/-- No selector that is registered has a custom test. -/
def IsPlain (d : Dispatcher) : Prop :=
  ∀ registration ∈ d.registrations.entries, registration.selector.isPlain = true

/-- Dispatchers between which only infos make a difference, and that have no custom tests. -/
structure Alike (d d' : Dispatcher) : Prop where
  settings : d.settings = d'.settings
  registry : d.registry = d'.registry
  registrations : d.registrations = d'.registrations
  badDataListeners : d.badDataListeners = d'.badDataListeners
  scheduler : d.scheduler.settled = d'.scheduler.settled
  readings : d.readings = d'.readings
  slept : d.slept = d'.slept
  journal : d.journal.map Occurrence.settled = d'.journal.map Occurrence.settled
  dispatched : d.dispatched.map Packet.settled = d'.dispatched.map Packet.settled
  handed : d.handed.map (Prod.map id Message.settled) = d'.handed.map (Prod.map id Message.settled)
  isPlain : d.IsPlain

theorem Alike.refl {d : Dispatcher} (h : d.IsPlain) : Alike d d :=
  ⟨rfl, rfl, rfl, rfl, rfl, rfl, rfl, rfl, rfl, rfl, h⟩

theorem Alike.pending {d d' : Dispatcher} (h : Alike d d') :
    d.scheduler.pending = d'.scheduler.pending := by
  show d.scheduler.settled.pending = d'.scheduler.settled.pending
  rw [h.scheduler]

theorem Alike.isShutDown {d d' : Dispatcher} (h : Alike d d') :
    d.scheduler.isShutDown = d'.scheduler.isShutDown := by
  show d.scheduler.settled.isShutDown = d'.scheduler.settled.isShutDown
  rw [h.scheduler]

theorem Alike.note {d d' : Dispatcher} (h : Alike d d') {occurrence occurrence' : Occurrence}
    (ho : occurrence.settled = occurrence'.settled) :
    Alike (d.note occurrence) (d'.note occurrence') :=
  { h with journal := congrArg₂ List.cons ho h.journal }

/-! ### Messages -/

variable {env : Surroundings}

theorem agree_selects {m m' : Message} (hm : m.settled = m'.settled) {selector : Selector}
    (h : selector.isPlain = true) :
    Agree Alike (selects env selector m) (selects env selector m') := by
  have hasked : ∀ (asked : List Criterion) (d d' : Dispatcher), Alike d d' →
      Alike (asked.foldl (fun d criterion => d.note (.asked criterion)) d)
        (asked.foldl (fun d criterion => d.note (.asked criterion)) d') := by
    intro asked
    induction asked with
    | nil => exact fun _ _ => id
    | cons criterion asked ih => exact fun d d' hd => ih _ _ (hd.note rfl)
  rw [selects, selects, Selector.evaluate_of_settled_eq hm h]
  exact (agree_modify (hasked _)).bind fun _ => agree_pure _

theorem Alike.addListener {d d' : Dispatcher} (h : Alike d d') (tests : CustomTests)
    {selector : Selector} (hplain : selector.isPlain = true) (listener : String) :
    Alike (d.addListener tests selector listener) (d'.addListener tests selector listener) := by
  refine { h with registrations := ?_, isPlain := fun registration hmem => ?_ }
  · rw [Dispatcher.addListener, Dispatcher.addListener, h.registrations]
  · rcases List.mem_append.1 hmem with hmem | hmem
    · exact h.isPlain registration hmem
    · rw [List.mem_singleton.1 hmem]
      exact hplain

theorem Alike.removeListener {d d' : Dispatcher} (h : Alike d d') (tests : CustomTests)
    (selector : Selector) (listener : String) :
    (d.removeListener tests selector listener).1 = (d'.removeListener tests selector listener).1 ∧
      Alike (d.removeListener tests selector listener).2
        (d'.removeListener tests selector listener).2 := by
  rw [Dispatcher.removeListener, Dispatcher.removeListener, ← h.registrations]
  rcases hremoved : d.registrations.remove? tests selector listener with _ | registrations
  · exact ⟨rfl, h⟩
  · refine ⟨rfl, { h with registrations := rfl, isPlain := fun registration hmem => ?_ }⟩
    obtain ⟨index, -, rfl⟩ := Option.map_eq_some_iff.1 hremoved
    exact h.isPlain registration (List.mem_of_mem_eraseIdx hmem)

theorem Alike.change {d d' : Dispatcher} (h : Alike d d') (tests : CustomTests) {change : Change}
    (hplain : change.isPlain = true) :
    (d.change tests change).1 = (d'.change tests change).1 ∧
      Alike (d.change tests change).2 (d'.change tests change).2 := by
  cases change with
  | add selector listener => exact ⟨rfl, h.addListener tests hplain listener⟩
  | remove selector listener =>
    obtain ⟨hsuccess, hremoved⟩ := h.removeListener tests selector listener
    exact ⟨congrArg some hsuccess, hremoved⟩
  | addBadData listener =>
    exact ⟨rfl, { h with badDataListeners := congrArg (· ++ [listener]) h.badDataListeners }⟩
  | removeBadData listener =>
    have hcontains : d.badDataListeners.contains listener =
        d'.badDataListeners.contains listener := by
      rw [h.badDataListeners]
    exact ⟨congrArg some hcontains,
      { h with badDataListeners := congrArg (·.erase listener) h.badDataListeners }⟩

section Listeners

variable {process process' : Arrival → Source → Step Unit}
  (hprocess : ∀ arrival arrival', arrival.settled = arrival'.settled →
    ∀ source, Agree Alike (process arrival source) (process' arrival' source))

include hprocess

theorem agree_follow (caller : String) {reaction reaction' : Reaction}
    (h : reaction.Alike reaction') :
    Agree Alike (follow env process caller reaction) (follow env process' caller reaction') := by
  induction h with
  | done => exact agree_pure _
  | panic text => exact agree_throw _
  | @change change next next' hplain _ ih =>
    refine Agree.bind (fun d d' hd => ?_) ih
    obtain ⟨hanswer, hchanged⟩ := hd.change env.tests hplain
    rw [perform_change, perform_change, hanswer]
    exact .ok _ (hchanged.note rfl)
  | process harrival _ ih => exact (hprocess _ _ harrival _).answered.bind ih
  | inspect _ ih =>
    refine Agree.bind (fun d d' hd => ?_) ih
    have hfigures : d.figures = d'.figures := by
      rw [figures, figures, listenerCount, listenerCount, hd.registrations, hd.pending]
    show Ends Alike (.ok d.figures d) (.ok d'.figures d')
    rw [hfigures]
    exact .ok _ hd

theorem agree_call (henv : env.IsImpartial) (listener : String) {notice notice' : Notice}
    (h : notice.settled = notice'.settled) :
    Agree Alike (call env process listener notice) (call env process' listener notice') := by
  intro d d' hd
  have hthread : d.scheduler.currentThread? = d'.scheduler.currentThread? := by
    rw [← Scheduler.currentThread?_settled, hd.scheduler, Scheduler.currentThread?_settled]
  rw [call_apply, call_apply, hthread]
  exact agree_follow hprocess listener (henv listener hd.journal h) _ _
    (hd.note (Notice.settled_occurrence h listener _))

theorem agree_report (henv : env.IsImpartial) (source : Source) (failure : Malformed) :
    Agree Alike (report env process source failure) (report env process' source failure) := by
  intro d d' hd
  rw [report_apply, report_apply, ← hd.badDataListeners]
  exact Agree.forM (fun listener _ => agree_call hprocess henv listener rfl) d d' hd

end Listeners

/-! ### Bundles -/

theorem settled_submit (s : Scheduler Deferred) (deadline : Instant) (bundle : Deferred) :
    (s.submit deadline bundle).settled = s.settled.submit deadline bundle.settled := by
  rw [Scheduler.submit, Scheduler.submit]
  show _ = if s.isShutDown = true then _ else _
  split_ifs
  · rfl
  · simp only [Scheduler.settled, List.map_append, List.map_cons, List.map_nil, Task.settled]

/-- It does not matter for the start of a task whether tasks are settled. -/
theorem start?_settled (s : Scheduler Deferred) (now : Instant) (index : Nat) :
    s.settled.start? now index = (s.start? now index).map (Prod.map Deferred.settled .settled) := by
  rw [Scheduler.start?, Scheduler.start?, Scheduler.settled]
  dsimp only
  rw [List.getElem?_map, Option.isNone_map]
  rcases s.waiting[index]? with _ | task
  · rfl
  · show (if (s.running.isNone && task.isDue now) = true then _ else none) =
      Option.map _ (if (s.running.isNone && task.isDue now) = true then _ else none)
    split_ifs
    · show some (_, _) = some (_, _)
      rw [Scheduler.settled, List.eraseIdx_map]
      rfl
    · rfl

theorem settled_finish (s : Scheduler Deferred) : s.finish.settled = s.settled.finish := by
  rcases s with ⟨threadName, waiting, running, pending, isShutDown⟩
  cases running <;> rfl

/-- Arrivals that are equal when settled are dealt with alike, whether dispatchers are given them or
listeners bring them about. -/
theorem isLastingTwin_alike (henv : env.IsImpartial) :
    IsLastingTwin env Message.settled (fun a a' => a.settled = a'.settled) Alike where
  packet {p arrival} h := by
    cases arrival with
    | packet p' => exact ⟨p', rfl, Arrival.packet.inj h⟩
    | failure failure => cases h
  failure {f arrival} h := by
    cases arrival with
    | packet p' => cases h
    | failure f' =>
      obtain rfl := Arrival.failure.inj h
      exact ⟨f, rfl, fun _ _ hprocess source => agree_report hprocess henv source f⟩
  settings h := h.settings
  registrations h := h.registrations
  isShutDown h := h.isShutDown
  readings h := h.readings
  slept h := h.slept
  read h := { h with readings := congrArg (· + 1) h.readings }
  accept h hp := { h with dispatched := congrArg₂ List.cons hp h.dispatched }
  handOver time m m' h hm := by
    have hfirst : Prod.map id Message.settled (time, m) =
        Prod.map id Message.settled (time, m') := by
      rw [Prod.map_apply, Prod.map_apply, hm]
    exact { h with handed := congrArg₂ List.cons hfirst h.handed }
  holdBack {d d'} source time {elements elements'} delay deadline h helements := by
    have hnote : Alike (d.note (.deferred time elements delay))
        (d'.note (.deferred time elements' delay)) :=
      h.note (congrArg (Occurrence.deferred time · delay) helements)
    refine { hnote with scheduler := ?_ }
    show (d.scheduler.submit deadline _).settled = (d'.scheduler.submit deadline _).settled
    rw [settled_submit, settled_submit, h.scheduler]
    exact congrArg (fun elements => d'.scheduler.settled.submit deadline ⟨time, elements, source⟩)
      helements
  withTypeTags _ hm := by rw [settled_withTypeTags, settled_withTypeTags, hm]
  selects h hmem hm := agree_selects hm (h.isPlain _ hmem)
  call hprocess listener source time m m' hm :=
    agree_call hprocess henv listener (congrArg (Notice.message ⟨source, time, ·⟩) hm)
  start_eq_none {d d' t index} h hstart := by
    have hsettled := start?_settled d.scheduler t index
    rwa [h.scheduler, start?_settled, hstart, Option.map_none, Option.map_eq_none_iff] at hsettled
  start_eq_some {d d' t index bundle scheduler} h hstart := by
    have hsettled := start?_settled d.scheduler t index
    rw [h.scheduler, start?_settled, hstart, Option.map_some, Option.map_eq_some_iff] at hsettled
    obtain ⟨⟨bundle', scheduler'⟩, hstart', hequal⟩ := hsettled
    obtain ⟨hbundle, hscheduler⟩ := Prod.mk.inj hequal
    obtain ⟨htime, helements, hsource⟩ := Deferred.mk.inj hbundle
    exact ⟨bundle', scheduler', hstart', htime.symm, hsource.symm, helements.symm,
      { h with readings := congrArg (· + 1) h.readings, scheduler := hscheduler.symm }⟩
  finish {d d'} h := by
    refine { h with scheduler := ?_ }
    show d.scheduler.finish.settled = d'.scheduler.finish.settled
    rw [settled_finish, settled_finish, h.scheduler]
  wait readings nanos h :=
    { h with
      readings := congrArg (· + readings) h.readings
      slept := congrArg (· + nanos) h.slept }

end Dispatcher

end OpenSound
