import OpenSound.Proofs.Conservation

/-!
# What a dispatch leaves behind

Whether it comes to its end or is broken off, a dispatch only adds to the journal and to the tasks
that wait.  Each task that it adds is one of the bundles it put off, and those who listen are left
as the changes have them that the journal tells of (`Onward`).  `IsRunFrame env Q E` collects what
is asked of relations so that they hold across a whole dispatch, whatever the listeners do; it is
enough to look at the single changes that a dispatch makes.
-/

namespace OpenSound

/-! ### Relations across a dispatch -/

namespace Dispatcher

/-- Relations that hold across each of the changes that a dispatch makes, and across one step after
the other. -/
structure IsRunFrame (env : Surroundings) (Q : Dispatcher → Dispatcher → Prop)
    (E : Interruption → Dispatcher → Dispatcher → Prop) : Prop extends IsFrame env Q E where
  accept (d : Dispatcher) (packet : Packet) : Q d (d.accept packet)
  handOver (d : Dispatcher) (time : TimeTag) (m : Message) : Q d (d.handOver time m)
  read (d : Dispatcher) : Q d { d with readings := d.readings + 1 }
  holdBack (d : Dispatcher) (bundle : Deferred) (delay : Nat) (deadline : Instant) :
    Q d (d.holdBack bundle delay deadline)
  failed (error : ScheduleError) (d : Dispatcher) : E (.failed error) d d

namespace IsRunFrame

variable {env : Surroundings} {Q : Dispatcher → Dispatcher → Prop}
  {E : Interruption → Dispatcher → Dispatcher → Prop} (frame : IsRunFrame env Q E)

include frame

section Steps

variable {process : Arrival → Source → Step Unit} {source : Source}

theorem now : Leads Q E (now env) := frame.read

theorem defer (time : TimeTag) (elements : List Packet) (delay : Nat) :
    Leads Q E (defer env source time elements delay) := by
  intro d
  rcases defer_cases env source time elements delay d with hrun | ⟨-, hrun⟩
  · rw [hrun]
    exact frame.trans (frame.read d) (frame.holdBack _ _ _ _)
  · rw [hrun]
    exact frame.trans_brokenOff (frame.read d) (frame.failed _ _)

theorem handle_bundle {tag : TimeTag} {elements : List Packet} (time : TimeTag)
    (h : Leads Q E (handleAll env process source tag elements)) :
    Leads Q E (handle env process source time (.bundle tag elements)) := by
  rw [handle]
  refine frame.bind (leads_get frame.refl) fun d => ?_
  split_ifs
  · exact h
  · refine frame.bind frame.now fun t => ?_
    split
    · exact h
    · exact frame.defer tag elements _

variable (hprocess : ∀ arrival source, Leads Q E (process arrival source))

include hprocess

theorem deliver (time : TimeTag) (m : Message) :
    Leads Q E (deliver env process source time m) :=
  frame.bind (leads_modify fun d => frame.handOver d time m) fun _ =>
    frame.inform hprocess source time m

theorem handleAll (time : TimeTag) (packets : List Packet) :
    Leads Q E (handleAll env process source time packets) := by
  induction packets using Packet.list_induction generalizing time with
  | nil => exact leads_pure frame.refl _
  | message m rest ih => exact frame.bind (frame.deliver hprocess time m) fun _ => ih time
  | bundle tag elements rest ihElements ih =>
    exact frame.bind (frame.handle_bundle time (ihElements tag)) fun _ => ih time

theorem handle (time : TimeTag) (packet : Packet) :
    Leads Q E (handle env process source time packet) := by
  cases packet with
  | message m => exact frame.deliver hprocess time m
  | bundle tag elements => exact frame.handle_bundle time (frame.handleAll hprocess tag elements)

end Steps

theorem process (nesting : Nat) (arrival : Arrival) (source : Source) :
    Leads Q E (Dispatcher.process env nesting arrival source) := by
  induction nesting generalizing arrival source with
  | zero => exact leads_throw frame.tooDeep
  | succ nesting ih =>
    cases arrival with
    | failure failure => exact frame.report ih source failure
    | packet packet =>
      rw [process_packet]
      exact frame.bind (leads_modify fun d => frame.accept d packet) fun _ =>
        frame.handle ih .immediate packet

theorem release (nesting : Nat) (bundle : Deferred) : Leads Q E (release env nesting bundle) := by
  rw [release_eq_handleAll]
  exact frame.handleAll (frame.process nesting) bundle.time bundle.elements

end IsRunFrame

end Dispatcher

/-! ### Going onward -/

/-- Whether a packet listener was told something. -/
def Occurrence.isTelling : Occurrence → Bool
  | told _ _ _ => true
  | _ => false

/-- The change of who listens, if it was one. -/
def Occurrence.change? : Occurrence → Option Change
  | changed _ change _ => some change
  | _ => none

/-- Who listens to a dispatcher. -/
structure Lists where
  registrations : Registrations
  badDataListeners : List String

/-- Those who listen after the change. -/
def Change.after (tests : CustomTests) (change : Change) (lists : Lists) : Lists :=
  match change with
  | add selector listener =>
    { lists with registrations := lists.registrations.add tests selector listener }
  | remove selector listener =>
    { lists with
      registrations :=
        (lists.registrations.remove? tests selector listener).getD lists.registrations }
  | addBadData listener =>
    { lists with badDataListeners := lists.badDataListeners ++ [listener] }
  | removeBadData listener =>
    { lists with badDataListeners := lists.badDataListeners.erase listener }

/-- The bundle that was put off. -/
def Deferred.content (bundle : Deferred) : TimeTag × List Packet := (bundle.time, bundle.elements)

/-- The bundle that the task will take apart. -/
def Task.content (task : Task Deferred) : TimeTag × List Packet := task.job.content

/-- The scheduler with more tasks that wait. -/
def Scheduler.holding {α : Type} (s : Scheduler α) (tasks : List (Task α)) : Scheduler α :=
  { s with waiting := s.waiting ++ tasks, pending := s.pending + tasks.length }

theorem Scheduler.holding_nil {α : Type} (s : Scheduler α) : s.holding [] = s := by
  rw [holding, List.append_nil]
  rfl

theorem Scheduler.holding_holding {α : Type} (s : Scheduler α) (tasks more : List (Task α)) :
    (s.holding tasks).holding more = s.holding (tasks ++ more) := by
  rw [holding, holding, holding, List.length_append, List.append_assoc, Nat.add_assoc]

namespace Dispatcher

def lists (d : Dispatcher) : Lists := ⟨d.registrations, d.badDataListeners⟩

/-- The changes of who listens, the last one first. -/
def changes (d : Dispatcher) : List Change := d.journal.filterMap Occurrence.change?

/-- The bundles that were put off, the last one first. -/
def putOff (d : Dispatcher) : List (TimeTag × List Packet) :=
  d.deferrals.map fun (time, elements, _) => (time, elements)

theorem lists_change (tests : CustomTests) (d : Dispatcher) (change : Change) :
    (d.change tests change).2.lists = change.after tests d.lists := by
  cases change with
  | add selector listener => rfl
  | remove selector listener =>
    rw [Dispatcher.change, removeListener]
    show _ = Lists.mk ((d.registrations.remove? tests selector listener).getD d.registrations) _
    split
    · next hremove =>
      rw [hremove]
      rfl
    · next hremove =>
      rw [hremove]
      rfl
  | addBadData listener => rfl
  | removeBadData listener => rfl

/-- From the first state to the second one, the journal and the tasks that wait have only grown.
Those who listen are who they are after the changes that the journal tells of, and the tasks that
came are the bundles that it says were put off. -/
structure Onward (tests : CustomTests) (d d' : Dispatcher) : Prop where
  settings : d'.settings = d.settings
  journal : ∃ since, d'.journal = since ++ d.journal ∧ ∀ o ∈ since, o.isTelling = false
  lists : ∃ changes, d'.changes = changes ++ d.changes ∧
    d'.lists = changes.foldr (Change.after tests) d.lists
  scheduler : d.scheduler.isShutDown = false →
    ∃ tasks, d'.scheduler = d.scheduler.holding tasks ∧
      d'.putOff = (tasks.map Task.content).reverse ++ d.putOff

section Onward

variable {tests : CustomTests} {d d' d'' : Dispatcher}

/-- A change that concerns neither the journal nor the tasks nor who listens. -/
theorem Onward.of_eq (hsettings : d'.settings = d.settings) (hlists : d'.lists = d.lists)
    (hjournal : d'.journal = d.journal) (hscheduler : d'.scheduler = d.scheduler) :
    Onward tests d d' := by
  refine ⟨hsettings, ⟨[], hjournal, List.forall_mem_nil _⟩, ⟨[], ?_, hlists⟩, fun _ => ⟨[], ?_, ?_⟩⟩
  · rw [changes, hjournal]
    rfl
  · rw [Scheduler.holding_nil, hscheduler]
  · rw [putOff, deferrals, hjournal]
    rfl

theorem Onward.refl (d : Dispatcher) : Onward tests d d := .of_eq rfl rfl rfl rfl

theorem Onward.trans (h : Onward tests d d') (h' : Onward tests d' d'') : Onward tests d d'' := by
  obtain ⟨since, hsince, htellings⟩ := h.journal
  obtain ⟨since', hsince', htellings'⟩ := h'.journal
  obtain ⟨changes, hchanges, hlists⟩ := h.lists
  obtain ⟨changes', hchanges', hlists'⟩ := h'.lists
  refine ⟨h'.settings.trans h.settings,
    ⟨since' ++ since, ?_, List.forall_mem_append.2 ⟨htellings', htellings⟩⟩,
    ⟨changes' ++ changes, ?_, ?_⟩, fun hopen => ?_⟩
  · rw [hsince', hsince, List.append_assoc]
  · rw [hchanges', hchanges, List.append_assoc]
  · rw [hlists', hlists, List.foldr_append]
  · obtain ⟨tasks, hscheduler, hputOff⟩ := h.scheduler hopen
    have hstill : d'.scheduler.isShutDown = false := by
      rw [hscheduler]
      exact hopen
    obtain ⟨more, hscheduler', hputOff'⟩ := h'.scheduler hstill
    refine ⟨tasks ++ more, ?_, ?_⟩
    · rw [hscheduler', hscheduler, Scheduler.holding_holding]
    · rw [hputOff', hputOff, List.map_append, List.reverse_append, List.append_assoc]

theorem Onward.suffix (h : Onward tests d d') : d.journal <:+ d'.journal := by
  obtain ⟨since, hsince, -⟩ := h.journal
  exact ⟨since, hsince.symm⟩

theorem Onward.putOff_suffix (h : Onward tests d d') : d.putOff <:+ d'.putOff :=
  (h.suffix.filterMap _).map _

theorem Onward.changes_suffix (h : Onward tests d d') : d.changes <:+ d'.changes :=
  h.suffix.filterMap _

theorem onward_note {occurrence : Occurrence} (h : occurrence.isOfListeners = true) :
    Onward tests d (d.note occurrence) := by
  have htelling : occurrence.isTelling = false := by
    cases occurrence <;> first | rfl | cases h
  have hchange : occurrence.change? = none := by
    cases occurrence <;> first | rfl | cases h
  refine ⟨rfl, ⟨[occurrence], rfl, List.forall_mem_singleton.2 htelling⟩,
    ⟨[], List.filterMap_cons_none hchange, rfl⟩, fun _ => ⟨[], ?_, ?_⟩⟩
  · rw [Scheduler.holding_nil]
    rfl
  · rw [putOff, (nothingDeferred_note h).deferrals]
    rfl

/-- A change of who listens stands in the journal. -/
theorem onward_change (d : Dispatcher) (caller : String) (change : Change) (answer : Option Bool) :
    Onward tests d ((d.change tests change).2.note (.changed caller change answer)) := by
  have hlists := lists_change tests d change
  obtain ⟨registrations, badDataListeners, hchange⟩ := exists_change_eq tests d change
  rw [hchange] at hlists ⊢
  refine ⟨rfl, ⟨[_], rfl, List.forall_mem_singleton.2 rfl⟩, ⟨[change], rfl, hlists⟩,
    fun _ => ⟨[], ?_, rfl⟩⟩
  rw [Scheduler.holding_nil]
  rfl

/-- A bundle that is put off becomes a task. -/
theorem onward_holdBack (d : Dispatcher) (bundle : Deferred) (delay : Nat) (deadline : Instant) :
    Onward tests d (d.holdBack bundle delay deadline) := by
  refine ⟨rfl, ⟨[_], rfl, List.forall_mem_singleton.2 rfl⟩, ⟨[], rfl, rfl⟩, fun hopen => ?_⟩
  exact ⟨[⟨deadline, bundle⟩], Scheduler.submit_of_isShutDown_eq_false hopen deadline bundle, rfl⟩

theorem isRunFrame_onward (env : Surroundings) :
    IsRunFrame env (Onward env.tests) fun _ => Onward env.tests where
  toIsFrame := .of_trans .refl .trans (fun _ _ => onward_note)
    fun d caller change => onward_change d caller change _
  accept _ _ := .of_eq rfl rfl rfl rfl
  handOver _ _ _ := .of_eq rfl rfl rfl rfl
  read _ := .of_eq rfl rfl rfl rfl
  holdBack := onward_holdBack
  failed _ := .refl

end Onward

end Dispatcher

end OpenSound
