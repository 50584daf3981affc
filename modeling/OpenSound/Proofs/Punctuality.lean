import Mathlib.Data.List.Forall2
import OpenSound.Proofs.Chronicle
import OpenSound.Proofs.Delays

/-!
# Nothing comes early

When a message is handed over, every bundle around it is due, at whatever level: the clock has
reached the instant that the time tag of the bundle named when it was looked at (`Settings.IsPast`).
A bundle that is taken apart in its place was due when it was looked at.  One that was put off waits
for the instant of its own tag, and by then all those around it are past already; what lies inside
is looked at again after that.  No bundle goes without a look: those that a chronicle names are the
ones in which the message lay when it was dispatched (`Encloses`).
-/

namespace OpenSound

/-- A clock that never goes backwards. -/
def Surroundings.NeverGoesBack (env : Surroundings) : Prop :=
  ∀ m n, m ≤ n → (env.clock m).nanoseconds ≤ (env.clock n).nanoseconds

namespace Packet

mutual

/-- The messages of the packet at any depth, in order, each with the time tags of all bundles around
it, the innermost first. -/
def enclosed (tags : List TimeTag) : Packet → List (List TimeTag × Message)
  | message m => [(tags, m)]
  | bundle tag elements => enclosedAll (tag :: tags) elements

def enclosedAll (tags : List TimeTag) : List Packet → List (List TimeTag × Message)
  | [] => []
  | packet :: rest => packet.enclosed tags ++ enclosedAll tags rest

end

end Packet

namespace Dispatcher

/-- At the moment, all bundles that were looked at are due, unless bundles always are. -/
def Settings.IsPast (s : Settings) (looks : List Look) (t : Instant) : Prop :=
  s.alwaysImmediate = false → ∀ look ∈ looks, look.tag ≠ .immediate →
    (look.tag.near look.moment).nanoseconds ≤ t.nanoseconds

section IsPast

variable {s : Settings} {look : Look} {looks : List Look} {t t' : Instant}

theorem Settings.isPast_nil (s : Settings) (t : Instant) : s.IsPast [] t :=
  fun _ => List.forall_mem_nil _

theorem Settings.IsPast.mono (h : s.IsPast looks t) (hle : t.nanoseconds ≤ t'.nanoseconds) :
    s.IsPast looks t' := fun hs look hlook hne => (h hs look hlook hne).trans hle

theorem Settings.IsPast.cons (h : s.IsPast looks t)
    (hlook : s.alwaysImmediate = false → look.tag ≠ .immediate →
      (look.tag.near look.moment).nanoseconds ≤ t.nanoseconds) :
    s.IsPast (look :: looks) t :=
  fun hs => List.forall_mem_cons.2 ⟨hlook hs, h hs⟩

end IsPast

/-- Some packet that was dispatched has the message inside, in bundles with just these time tags. -/
def Encloses (d : Dispatcher) (tags : List TimeTag) (m : Message) : Prop :=
  ∃ packet ∈ d.dispatched, (tags, m) ∈ packet.enclosed []

/-- The packets lie in the bundles that were looked at, and in no others, and at the moment all of
these are due. -/
structure Due (d : Dispatcher) (looks : List Look) (packets : List Packet) (t : Instant) : Prop where
  isPast : d.settings.IsPast looks t
  encloses : ∀ inner ∈ Packet.enclosedAll (looks.map Look.tag) packets, d.Encloses inner.1 inner.2

/-- What a chronicle says of the state it was kept beside. -/
structure Punctual (c : Chronicle) (d : Dispatcher) : Prop where
  /-- No message came early. -/
  handings : ∀ h ∈ c.handings, d.Due h.looks [.message h.message] h.moment
  /-- No task that waits can come early. -/
  waiting : List.Forall₂ (fun looks task => d.Due looks task.job.elements task.deadline) c.waiting
    d.scheduler.waiting
  /-- No message was left out. -/
  handed : c.handings.map (fun h => (h.time, h.message)) = d.handed
  isShutDown : d.scheduler.isShutDown = false

variable {env : Surroundings}

/-- Nothing was taken back from the first state to the second one. -/
structure Follows (d d' : Dispatcher) : Prop where
  settings : d'.settings = d.settings
  dispatched : d.dispatched ⊆ d'.dispatched

/-- The second state comes after the first one. -/
structure Later (env : Surroundings) (d d' : Dispatcher) : Prop extends Follows d d' where
  shown : (d.shown env).nanoseconds ≤ (d'.shown env).nanoseconds

/-- Neither messages nor tasks were touched. -/
structure Untouched (env : Surroundings) (d d' : Dispatcher) : Prop extends Later env d d' where
  handed : d'.handed = d.handed
  scheduler : d'.scheduler = d.scheduler

section Later

variable {d d' d'' : Dispatcher} {looks : List Look} {packets : List Packet}

theorem Follows.of_eq (hsettings : d'.settings = d.settings)
    (hdispatched : d'.dispatched = d.dispatched) : Follows d d' :=
  ⟨hsettings, fun _ h => hdispatched ▸ h⟩

theorem Later.refl (d : Dispatcher) : Later env d d := ⟨.of_eq rfl rfl, Int.le_refl _⟩

theorem Later.trans (h : Later env d d') (h' : Later env d' d'') : Later env d d'' :=
  ⟨⟨h'.settings.trans h.settings, fun _ hmem => h'.dispatched (h.dispatched hmem)⟩,
    h.shown.trans h'.shown⟩

theorem Due.of_follows {t : Instant} (h : d.Due looks packets t) (hfollows : Follows d d') :
    d'.Due looks packets t := by
  refine ⟨hfollows.settings ▸ h.isPast, fun inner hinner => ?_⟩
  obtain ⟨packet, hpacket, hmem⟩ := h.encloses inner hinner
  exact ⟨packet, hfollows.dispatched hpacket, hmem⟩

theorem Due.of_later (h : d.Due looks packets (d.shown env)) (hlater : Later env d d') :
    d'.Due looks packets (d'.shown env) := by
  have hdue := h.of_follows hlater.toFollows
  exact ⟨hdue.isPast.mono hlater.shown, hdue.encloses⟩

theorem Due.nil (d : Dispatcher) (t : Instant) : d.Due [] [] t :=
  ⟨d.settings.isPast_nil t, List.forall_mem_nil _⟩

theorem due_cons {packet : Packet} {t : Instant} :
    d.Due looks (packet :: packets) t ↔ d.Due looks [packet] t ∧ d.Due looks packets t := by
  have hcons : Packet.enclosedAll (looks.map Look.tag) (packet :: packets) =
      Packet.enclosedAll (looks.map Look.tag) [packet] ++
        Packet.enclosedAll (looks.map Look.tag) packets := by
    simp [Packet.enclosedAll]
  refine ⟨fun ⟨hpast, h⟩ => ?_, fun ⟨h, h'⟩ => ⟨h.isPast, ?_⟩⟩
  · rw [hcons, List.forall_mem_append] at h
    exact ⟨⟨hpast, h.1⟩, hpast, h.2⟩
  · rw [hcons, List.forall_mem_append]
    exact ⟨h.encloses, h'.encloses⟩

/-- Inside a bundle, its time tag comes to those around. -/
theorem Due.inside {tag : TimeTag} {elements : List Packet} {t t' moment : Instant}
    (h : d.Due looks [.bundle tag elements] t)
    (hpast : d.settings.IsPast (⟨tag, moment⟩ :: looks) t') :
    d.Due (⟨tag, moment⟩ :: looks) elements t' := by
  have hinside : Packet.enclosedAll (looks.map Look.tag) [.bundle tag elements] =
      Packet.enclosedAll (tag :: looks.map Look.tag) elements := by
    simp [Packet.enclosedAll, Packet.enclosed]
  refine ⟨hpast, ?_⟩
  have hencloses := h.encloses
  rwa [hinside] at hencloses

theorem Punctual.of_follows {c : Chronicle} (hc : Punctual c d) (hfollows : Follows d d')
    (hhanded : d'.handed = d.handed) (hwaiting : d'.scheduler.waiting = d.scheduler.waiting)
    (hisShutDown : d'.scheduler.isShutDown = d.scheduler.isShutDown) : Punctual c d' := by
  refine ⟨fun h hmem => (hc.handings h hmem).of_follows hfollows, ?_, hc.handed.trans hhanded.symm,
    hisShutDown.trans hc.isShutDown⟩
  rw [hwaiting]
  exact hc.waiting.imp fun _ _ h => h.of_follows hfollows

theorem Untouched.punctual {c : Chronicle} (h : Untouched env d d') (hc : Punctual c d) :
    Punctual c d' :=
  hc.of_follows h.toFollows h.handed (by rw [h.scheduler]) (by rw [h.scheduler])

theorem Untouched.of_eq (hsettings : d'.settings = d.settings)
    (hdispatched : d'.dispatched = d.dispatched) (hreadings : d'.readings = d.readings)
    (hslept : d'.slept = d.slept) (hhanded : d'.handed = d.handed)
    (hscheduler : d'.scheduler = d.scheduler) : Untouched env d d' := by
  refine ⟨⟨.of_eq hsettings hdispatched, ?_⟩, hhanded, hscheduler⟩
  rw [shown, shown, hreadings, hslept]

theorem Untouched.refl (d : Dispatcher) : Untouched env d d := .of_eq rfl rfl rfl rfl rfl rfl

theorem Untouched.trans (h : Untouched env d d') (h' : Untouched env d' d'') :
    Untouched env d d'' :=
  ⟨h.toLater.trans h'.toLater, h'.handed.trans h.handed, h'.scheduler.trans h.scheduler⟩

theorem isFrame_untouched (env : Surroundings) :
    IsFrame env (Untouched env) fun _ => Untouched env :=
  .of_trans .refl .trans (fun _ _ _ => .of_eq rfl rfl rfl rfl rfl rfl) fun d caller change => by
    obtain ⟨registrations, badDataListeners, hchange⟩ := exists_change_eq env.tests d change
    rw [hchange]
    exact .of_eq rfl rfl rfl rfl rfl rfl

end Later

/-- How a step ends that began in the state: its chronicle is right, even if it was broken off. -/
def InTime (env : Surroundings) {α : Type} (d : Dispatcher) :
    EStateM.Result Interruption (Dispatcher × Chronicle) α → Prop
  | .ok _ p => Punctual p.2 p.1 ∧ Later env d p.1
  | .error _ p => Punctual p.2 p.1 ∧ Later env d p.1

theorem InTime.of_later {α : Type} {d d' : Dispatcher}
    {result : EStateM.Result Interruption (Dispatcher × Chronicle) α} (h : InTime env d' result)
    (hlater : Later env d d') : InTime env d result := by
  cases result with
  | ok a p => exact ⟨h.1, hlater.trans h.2⟩
  | error e p => exact ⟨h.1, hlater.trans h.2⟩

/-- A step that has to do with packets in the bundles that were looked at: if these are due when it
begins, its chronicle is right when it ends. -/
def Timely (env : Surroundings) {α : Type} (looks : List Look) (packets : List Packet)
    (s : Recorded α) : Prop :=
  ∀ c d, Punctual c d → d.Due looks packets (d.shown env) → InTime env d (s (d, c))

section Timely

variable {α β : Type} {looks : List Look} {packets : List Packet} {x : Recorded α}
  {f : α → Recorded β}

/-- Where a step begins later, what was due is due still. -/
theorem Timely.of_later (h : Timely env looks packets x) {c : Chronicle} {d d' : Dispatcher}
    (hc : Punctual c d') (hlater : Later env d d') (hdue : d.Due looks packets (d.shown env)) :
    InTime env d (x (d', c)) := (h c d' hc (hdue.of_later hlater)).of_later hlater

theorem timely_pure (a : α) : Timely env looks packets (pure a : Recorded α) :=
  fun _ d hc _ => ⟨hc, Later.refl d⟩

theorem timely_throw (e : Interruption) : Timely env looks packets (throw e : Recorded α) :=
  fun _ d hc _ => ⟨hc, Later.refl d⟩

theorem InTime.bind {c : Chronicle} {d : Dispatcher} {more : List Packet}
    (hx : InTime env d (x (d, c))) (hf : ∀ a, Timely env looks more (f a))
    (hdue : d.Due looks more (d.shown env)) : InTime env d ((x >>= f) (d, c)) := by
  show InTime env d (EStateM.bind x f (d, c))
  rw [EStateM.bind]
  rcases hrun : x (d, c) with ⟨a, d', c'⟩ | ⟨e, d', c'⟩
  · rw [hrun] at hx
    exact (hf a).of_later hx.1 hx.2 hdue
  · rw [hrun] at hx
    exact hx

theorem Timely.bind (hx : Timely env looks packets x) (hf : ∀ a, Timely env looks packets (f a)) :
    Timely env looks packets (x >>= f) :=
  fun c d hc hdue => (hx c d hc hdue).bind hf hdue

theorem Timely.forM {γ : Type} {f : γ → Recorded PUnit}
    (hf : ∀ a, Timely env looks packets (f a)) (as : List γ) :
    Timely env looks packets (as.forM f) := by
  induction as with
  | nil => exact timely_pure _
  | cons a as ih => exact (hf a).bind fun _ => ih

/-- What is timely without packets is so with any. -/
theorem Timely.of_nil (h : Timely env [] [] x) : Timely env looks packets x :=
  fun c d hc _ => h c d hc (.nil d _)

theorem Timely.answered {s : Recorded Unit} (h : Timely env looks packets s) :
    Timely env looks packets (Recorded.answered s) := by
  intro c d hc hdue
  have hin := h c d hc hdue
  rw [Recorded.answered]
  rcases hrun : s (d, c) with ⟨_, p⟩ | ⟨e, p⟩
  · rw [hrun] at hin
    exact hin
  · rw [hrun] at hin
    cases e <;> exact hin

theorem timely_lift {s : Step α} (h : LeadsTo (Untouched env) s) :
    Timely env looks packets (Recorded.lift s) := by
  intro c d hc _
  rw [Recorded.lift]
  rcases hrun : s d with ⟨a, d'⟩ | ⟨e, d'⟩
  · have huntouched := h.of_eq_ok hrun
    exact ⟨huntouched.punctual hc, huntouched.toLater⟩
  · have huntouched := h.of_eq_error hrun
    exact ⟨huntouched.punctual hc, huntouched.toLater⟩

end Timely

/-! ### Messages -/

variable {process : Arrival → Source → Recorded Unit} {source : Source} {looks : List Look}

section Listeners

variable (hprocess : ∀ arrival source, Timely env [] [] (process arrival source))

include hprocess

theorem timely_perform (caller : String) (action : Action) :
    Timely env [] [] (Recorded.perform env process caller action) := by
  have hother : ∀ action, LeadsTo (Untouched env)
      (perform env (fun _ _ => pure ()) caller action) :=
    (isFrame_untouched env).perform (fun _ _ => leads_pure .refl _) caller
  cases action with
  | process arrival source => exact (hprocess arrival source).answered
  | change change => exact timely_lift (hother (.change change))
  | inspect => exact timely_lift (hother .inspect)

theorem timely_follow (caller : String) (reaction : Reaction) :
    Timely env [] [] (Recorded.follow env process caller reaction) := by
  induction reaction with
  | done => exact timely_pure _
  | panic text => exact timely_throw _
  | ask action next ih => exact (timely_perform hprocess caller action).bind ih

theorem timely_call (listener : String) (notice : Notice) :
    Timely env [] [] (Recorded.call env process listener notice) := by
  intro c d hc hdue
  have hnote : Untouched env d (d.note (notice.occurrence listener d.scheduler.currentThread?)) :=
    .of_eq rfl rfl rfl rfl rfl rfl
  exact (timely_follow hprocess listener (env.react listener d.journal notice)).of_later
    (hnote.punctual hc) hnote.toLater hdue

theorem timely_inform (time : TimeTag) (m : Message) :
    Timely env [] [] (Recorded.inform env process source time m) := by
  refine (timely_lift (leads_get .refl)).bind fun d => .forM (fun r => ?_) _
  refine (timely_lift ((isFrame_untouched env).selects r.selector _)).bind fun selected => ?_
  cases selected with
  | true => exact timely_call hprocess _ _
  | false => exact timely_pure _

theorem timely_report (source : Source) (failure : Malformed) :
    Timely env [] [] (Recorded.report env process source failure) :=
  (timely_lift (leads_get .refl)).bind fun _ => .forM (fun _ => timely_call hprocess _ _) _

theorem timely_deliver (time : TimeTag) (m : Message) :
    Timely env looks [.message m] (Recorded.deliver env process source looks time m) := by
  intro c d hc hdue
  have hlater : Later env d (d.handOver time m) := ⟨.of_eq rfl rfl, Int.le_refl _⟩
  have hhanded : Punctual { c with handings := ⟨time, m, looks, d.shown env⟩ :: c.handings }
      (d.handOver time m) := by
    have hfollows := hlater.toFollows
    refine ⟨List.forall_mem_cons.2 ⟨hdue.of_follows hfollows, fun h hmem => ?_⟩, ?_, ?_,
      hc.isShutDown⟩
    · exact (hc.handings h hmem).of_follows hfollows
    · exact hc.waiting.imp fun _ _ h => h.of_follows hfollows
    · rw [List.map_cons, hc.handed]
      rfl
  exact (timely_inform hprocess time m).of_nil.of_later hhanded hlater hdue

end Listeners

/-! ### Bundles -/

/-- A look at the time tag of a bundle: the clock is read unless the bundle is due anyway. -/
theorem delay?_eq_ok (tag : TimeTag) (d : Dispatcher) :
    (d.settings.alwaysImmediate = true ∨ tag = .immediate) ∧ delay? env tag d = .ok none d ∨
      delay? env tag d =
        .ok (tag.delayFrom? (d.moment env)) { d with readings := d.readings + 1 } := by
  have hrun : delay? env tag d =
      (if d.settings.alwaysImmediate || tag.isImmediate then pure none
        else do return tag.delayFrom? (← now env) : Step (Option Nat)) d := rfl
  rw [hrun]
  by_cases hdue : d.settings.alwaysImmediate = true ∨ tag = .immediate
  · rw [if_pos (by simpa [TimeTag.isImmediate] using hdue)]
    exact .inl ⟨hdue, rfl⟩
  · rw [if_neg (by simpa [TimeTag.isImmediate] using hdue)]
    exact .inr rfl

/-- What becomes of a bundle after a look at its time tag. -/
theorem handle_bundle_eq {tag : TimeTag} {elements : List Packet} {time : TimeTag}
    {c : Chronicle} {d d' : Dispatcher} {delay : Option Nat} (h : delay? env tag d = .ok delay d') :
    Recorded.handle env process source looks time (.bundle tag elements) (d, c) =
      (match delay with
        | none => Recorded.handleAll env process source (⟨tag, d.moment env⟩ :: looks) tag elements
        | some delay =>
          Recorded.defer env source (⟨tag, d.moment env⟩ :: looks) tag elements delay) (d', c) := by
  have hlook : Recorded.lift (delay? env tag) (d, c) = .ok delay (d', c) := by
    rw [Recorded.lift, h]
  have hbind (f : Option Nat → Recorded Unit) :
      EStateM.bind (Recorded.lift (delay? env tag)) f (d, c) = f delay (d', c) := by
    rw [EStateM.bind, hlook]
  rw [Recorded.handle]
  show EStateM.bind (Recorded.lift (delay? env tag)) _ (d, c) = _
  exact hbind _

/-- A task that is submitted will not come early if what it has to do with is due at its
deadline. -/
theorem punctual_submit {c : Chronicle} {d : Dispatcher} {deadline : Instant} (hc : Punctual c d)
    (bundle : Deferred) (hdue : d.Due looks bundle.elements deadline) :
    Punctual { c with waiting := c.waiting ++ [looks] }
      { d with scheduler := d.scheduler.submit deadline bundle } := by
  rw [Scheduler.submit_of_isShutDown_eq_false hc.isShutDown]
  have hfollows : Follows d { d with scheduler := { d.scheduler with
      waiting := d.scheduler.waiting ++ [⟨deadline, bundle⟩]
      pending := d.scheduler.pending + 1 } } := .of_eq rfl rfl
  refine ⟨fun h hmem => (hc.handings h hmem).of_follows hfollows, ?_, hc.handed, hc.isShutDown⟩
  exact List.rel_append (hc.waiting.imp fun _ _ h => h.of_follows hfollows)
    (.cons (hdue.of_follows hfollows) .nil)

section Packets

variable (hclock : env.NeverGoesBack)

include hclock

theorem shown_le_moment (d : Dispatcher) :
    (d.shown env).nanoseconds ≤ (d.moment env).nanoseconds :=
  Int.add_le_add_right (hclock _ _ (Nat.sub_le ..)) _

/-- Waiting and reading the clock only lets time go by. -/
theorem untouched_wait (d : Dispatcher) (readings nanos : Nat) :
    Untouched env d
      { d with readings := d.readings + readings, slept := d.slept + nanos } := by
  refine ⟨⟨.of_eq rfl rfl, Int.add_le_add (hclock _ _ ?_) ?_⟩, rfl, rfl⟩
  · exact Nat.sub_le_sub_right (Nat.le_add_right ..) 1
  · exact Int.ofNat_le.2 (Nat.le_add_right ..)

theorem untouched_now (d : Dispatcher) : Untouched env d { d with readings := d.readings + 1 } :=
  untouched_wait hclock d 1 0

/-- A bundle may be put off for a while if it is due when the while is over. -/
theorem inTime_defer {c : Chronicle} {d : Dispatcher} {delay : Nat} (hc : Punctual c d)
    (time : TimeTag) (elements : List Packet)
    (hdue : d.Due looks elements ((d.moment env).after delay)) :
    InTime env d (Recorded.defer env source looks time elements delay (d, c)) := by
  have hnow := untouched_now hclock d
  rw [Recorded.defer]
  show InTime env d (EStateM.bind (Recorded.lift (defer env source time elements delay)) _ (d, c))
  rw [EStateM.bind, Recorded.lift]
  rcases defer_cases env source time elements delay d with hrun | ⟨-, hrun⟩
  · rw [hrun]
    have hnote : Untouched env d
        ({ d with readings := d.readings + 1 }.note (.deferred time elements delay)) :=
      hnow.trans (.of_eq rfl rfl rfl rfl rfl rfl)
    have hsubmit := punctual_submit (hnote.punctual hc) ⟨time, elements, source⟩
      (hdue.of_follows hnote.toFollows)
    exact ⟨hsubmit, .of_eq rfl rfl, hnow.shown⟩
  · rw [hrun]
    exact ⟨hnow.punctual hc, hnow.toLater⟩

/-- Where a bundle is taken apart it is due, and where it is put off it will be. -/
theorem timely_handle_bundle {tag : TimeTag} {elements : List Packet} (time : TimeTag)
    (h : ∀ looks,
      Timely env looks elements (Recorded.handleAll env process source looks tag elements)) :
    Timely env looks [.bundle tag elements]
      (Recorded.handle env process source looks time (.bundle tag elements)) := by
  intro c d hc hdue
  have hnow := untouched_now hclock d
  have hmoment : d.settings.IsPast looks (d.moment env) :=
    hdue.isPast.mono (shown_le_moment hclock d)
  rcases delay?_eq_ok tag d with ⟨hanyway, hrun⟩ | hrun
  · rw [handle_bundle_eq hrun]
    refine h _ c d hc (hdue.inside (hdue.isPast.cons fun hs hne => ?_))
    exact absurd hanyway (by simp [hs, hne])
  · rw [handle_bundle_eq hrun]
    rcases hdelay : tag.delayFrom? (d.moment env) with _ | delay
    · have hpast : d.settings.IsPast (⟨tag, d.moment env⟩ :: looks) (d.moment env) :=
        hmoment.cons fun _ hne => (TimeTag.delayFrom?_eq_none_iff.1 hdelay).resolve_left hne
      exact (h _ c _ (hnow.punctual hc) ((hdue.inside hpast).of_follows hnow.toFollows)).of_later
        hnow.toLater
    · -- the clock is read once more before the bundle is put off
      have hagain : (d.moment env).nanoseconds ≤
          (({ d with readings := d.readings + 1 } : Dispatcher).moment env).nanoseconds :=
        shown_le_moment hclock { d with readings := d.readings + 1 }
      have hpast : d.settings.IsPast (⟨tag, d.moment env⟩ :: looks)
          ((({ d with readings := d.readings + 1 } : Dispatcher).moment env).after delay) := by
        refine (hmoment.mono ?_).cons fun _ _ => ?_
        · exact hagain.trans (Int.le_add_of_nonneg_right (Int.natCast_nonneg delay))
        · rw [← (TimeTag.delayFrom?_eq_some_iff.1 hdelay).2.2]
          exact Int.add_le_add_right hagain _
      exact (inTime_defer hclock (hnow.punctual hc) tag elements
        ((hdue.inside hpast).of_follows hnow.toFollows)).of_later hnow.toLater

section Listeners

variable (hprocess : ∀ arrival source, Timely env [] [] (process arrival source))

include hprocess

theorem timely_handleAll (looks : List Look) (time : TimeTag) (packets : List Packet) :
    Timely env looks packets (Recorded.handleAll env process source looks time packets) := by
  induction packets using Packet.list_induction generalizing looks time with
  | nil => exact timely_pure _
  | message m rest ih =>
    intro c d hc hdue
    obtain ⟨hfirst, hrest⟩ := due_cons.1 hdue
    rw [Recorded.handleAll, Recorded.handle]
    exact (timely_deliver hprocess time m c d hc hfirst).bind (fun _ => ih looks time) hrest
  | bundle tag elements rest ihElements ih =>
    intro c d hc hdue
    obtain ⟨hfirst, hrest⟩ := due_cons.1 hdue
    have hbundle : Timely env looks [.bundle tag elements]
        (Recorded.handle env process source looks time (.bundle tag elements)) :=
      timely_handle_bundle hclock time fun looks => ihElements looks tag
    rw [Recorded.handleAll]
    exact (hbundle c d hc hfirst).bind (fun _ => ih looks time) hrest

theorem timely_handle (looks : List Look) (time : TimeTag) (packet : Packet) :
    Timely env looks [packet] (Recorded.handle env process source looks time packet) := by
  cases packet with
  | message m =>
    rw [Recorded.handle]
    exact timely_deliver hprocess time m
  | bundle tag elements =>
    exact timely_handle_bundle hclock time fun looks =>
      timely_handleAll hclock hprocess looks tag elements

end Listeners

theorem timely_process (nesting : Nat) (arrival : Arrival) (source : Source) :
    Timely env [] [] (Recorded.process env nesting arrival source) := by
  induction nesting generalizing arrival source with
  | zero => exact timely_throw _
  | succ nesting ih =>
    cases arrival with
    | failure failure => exact timely_report ih source failure
    | packet packet =>
      intro c d hc _
      have hlater : Later env d (d.accept packet) :=
        ⟨⟨rfl, List.subset_cons_self ..⟩, Int.le_refl _⟩
      have hdue : (d.accept packet).Due [] [packet] ((d.accept packet).shown env) := by
        refine ⟨Settings.isPast_nil _ _, fun inner hinner => ⟨packet, List.mem_cons_self, ?_⟩⟩
        simpa [Packet.enclosedAll] using hinner
      have hpunctual : Punctual c (d.accept packet) := hc.of_follows hlater.toFollows rfl rfl rfl
      exact (timely_handle hclock ih [] .immediate packet c _ hpunctual hdue).of_later hlater

theorem timely_release (nesting : Nat) (looks : List Look) (bundle : Deferred) :
    Timely env looks bundle.elements (Recorded.release env nesting looks bundle) :=
  timely_handleAll hclock (timely_process hclock nesting) looks bundle.time bundle.elements

end Packets

/-! ### Runs -/

theorem punctual_new (settings : Settings) (registry : Registry) :
    Punctual {} (new settings registry) := ⟨List.forall_mem_nil _, .nil, rfl, rfl⟩

theorem forall₂_eraseIdx {α β : Type} {R : α → β → Prop} {as : List α} {bs : List β}
    (h : List.Forall₂ R as bs) (index : Nat) :
    List.Forall₂ R (as.eraseIdx index) (bs.eraseIdx index) := by
  rw [List.eraseIdx_eq_take_drop_succ, List.eraseIdx_eq_take_drop_succ]
  exact List.rel_append (List.forall₂_take index h) (List.forall₂_drop (index + 1) h)

section Tasks

variable {c : Chronicle} {d : Dispatcher} {index : Nat} {bundle : Deferred}
  {scheduler : Scheduler Deferred}

theorem Punctual.due_looksAt (hc : Punctual c d) {task : Task Deferred}
    (h : d.scheduler.waiting[index]? = some task) :
    d.Due (c.looksAt index) task.job.elements task.deadline := by
  obtain ⟨hindex, rfl⟩ := List.getElem?_eq_some_iff.1 h
  have hlooks : index < c.waiting.length := hc.waiting.length_eq ▸ hindex
  rw [Chronicle.looksAt, List.getD_eq_getElem?_getD, List.getElem?_eq_getElem hlooks]
  exact hc.waiting.get hlooks hindex

/-- When a task starts, its bundle and those around it are due. -/
theorem Punctual.start (hc : Punctual c d)
    (h : d.scheduler.start? (d.moment env) index = some (bundle, scheduler)) :
    Punctual { c with waiting := c.waiting.eraseIdx index }
        { d with readings := d.readings + 1, scheduler } ∧
      Due { d with readings := d.readings + 1, scheduler } (c.looksAt index) bundle.elements
        (d.moment env) := by
  obtain ⟨task, htask, rfl, ⟨-, hdue⟩, rfl⟩ := Scheduler.exists_of_start?_eq_some h
  have hfollows : Follows d { d with
      readings := d.readings + 1
      scheduler := { d.scheduler with
        waiting := d.scheduler.waiting.eraseIdx index, running := some task } } := .of_eq rfl rfl
  have hothers := hc.waiting.imp fun _ _ h => h.of_follows hfollows
  have hlooks := (hc.due_looksAt htask).of_follows hfollows
  exact ⟨⟨fun h hmem => (hc.handings h hmem).of_follows hfollows, forall₂_eraseIdx hothers index,
    hc.handed, hc.isShutDown⟩, hlooks.isPast.mono (of_decide_eq_true hdue), hlooks.encloses⟩

theorem Punctual.finish (hc : Punctual c d) :
    Punctual c { d with scheduler := d.scheduler.finish } := by
  have hfinish : d.scheduler.finish.waiting = d.scheduler.waiting ∧
      d.scheduler.finish.isShutDown = d.scheduler.isShutDown := by
    rw [Scheduler.finish]
    split <;> exact ⟨rfl, rfl⟩
  exact hc.of_follows (.of_eq rfl rfl) rfl hfinish.1 hfinish.2

end Tasks

theorem Chronicled.punctual (hclock : env.NeverGoesBack) {d : Dispatcher} {c : Chronicle}
    (h : Chronicled env d c) : Punctual c d := by
  induction h with
  | start settings registry => exact punctual_new settings registry
  | listen registrations badDataListeners _ ih => exact ih.of_follows (.of_eq rfl rfl) rfl rfl rfl
  | wait readings nanos _ ih => exact (untouched_wait hclock _ readings nanos).punctual ih
  | @process d _ _ _ nesting arrival source _ hrun ih =>
    have hin := timely_process hclock nesting arrival source _ d ih (.nil d _)
    rw [hrun] at hin
    exact hin.1
  | @fire d _ _ _ nesting index bundle _ _ hstart hrun ih =>
    obtain ⟨hstarted, hdue⟩ := ih.start hstart
    have hin := timely_release hclock nesting _ bundle _ _ hstarted hdue
    rw [hrun] at hin
    exact hin.1.finish

/-- Nothing comes early.  In a run with a clock that never goes backwards, where bundles are not
always due, every message is handed over after the moments that the time tags of all bundles around
it named when the bundles were looked at; a tag that asks for delivery at once names none. -/
theorem Run.never_early {env : Surroundings} {d : Dispatcher} (hclock : env.NeverGoesBack)
    (halways : d.settings.alwaysImmediate = false) (h : Run env d) :
    (∃ c, Chronicled env d c) ∧
    ∀ c, Chronicled env d c →
      c.handings.map (fun handing => (handing.time, handing.message)) = d.handed ∧
      ∀ handing ∈ c.handings,
        d.Encloses (handing.looks.map Look.tag) handing.message ∧
        ∀ look ∈ handing.looks, look.tag ≠ .immediate →
          (look.tag.near look.moment).nanoseconds ≤ handing.moment.nanoseconds := by
  refine ⟨run_iff_exists_chronicled.1 h, fun c hc => ?_⟩
  have hpunctual := hc.punctual hclock
  refine ⟨hpunctual.handed, fun handing hmem => ?_⟩
  have hdue := hpunctual.handings handing hmem
  exact ⟨hdue.encloses _ List.mem_cons_self, hdue.isPast halways⟩

/-- Of two bundles that were put off as one, the outer one is due by now and the inner one is
not. -/
def betweenBundles : Dispatcher :=
  { afterDispatch with
    readings := afterDispatch.readings + 0
    slept := afterDispatch.slept + 12000000000 }

/-- The inner bundle was put off again when the outer one was taken apart, and is due by now. -/
def afterOuter : Dispatcher :=
  let d := endState (Dispatcher.fire quiet 1 0) betweenBundles
  { d with readings := d.readings + 0, slept := d.slept + 9000000000 }

def afterInner : Dispatcher := endState (Dispatcher.fire quiet 1 0) afterOuter

theorem run_afterInner : Run quiet afterInner := by
  have hdispatch : Dispatcher.dispatch quiet 1 futureBundle none (new {} .empty) =
      .ok () afterDispatch := rfl
  have hwait : Run quiet betweenBundles :=
    .wait 0 12000000000 (.process (.start {} .empty) hdispatch)
  have houter : Completes quiet 1 0 betweenBundles := by
    with_unfolding_all exact ⟨_, rfl⟩
  have hfireOuter : Dispatcher.fire quiet 1 0 betweenBundles =
      .ok true (endState (Dispatcher.fire quiet 1 0) betweenBundles) := by
    with_unfolding_all rfl
  have hagain : Run quiet afterOuter := .wait 0 9000000000 (.fire hwait houter hfireOuter)
  have hinner : Completes quiet 1 0 afterOuter := by
    with_unfolding_all exact ⟨_, rfl⟩
  have hfireInner : Dispatcher.fire quiet 1 0 afterOuter = .ok true afterInner := by
    with_unfolding_all rfl
  exact .fire hagain hinner hfireInner

theorem never_early_afterInner :
    quiet.NeverGoesBack ∧ afterInner.settings.alwaysImmediate = false ∧ Run quiet afterInner ∧
    ∃ c, Chronicled quiet afterInner c ∧
      c.handings.map (fun handing => (handing.time, handing.message)) =
        [(inSeconds 20, { address := "/b" }), (inSeconds 10, { address := "/c" }),
          (inSeconds 10, { address := "/a" })] ∧
      ∀ handing ∈ c.handings,
        afterInner.Encloses (handing.looks.map Look.tag) handing.message ∧
        ∀ look ∈ handing.looks, look.tag ≠ .immediate →
          (look.tag.near look.moment).nanoseconds ≤ handing.moment.nanoseconds := by
  have hclock : quiet.NeverGoesBack := by
    intro m n hle
    show (0 : Int) + (m * 1000 : Nat) ≤ 0 + (n * 1000 : Nat)
    omega
  have halways : afterInner.settings.alwaysImmediate = false := by with_unfolding_all rfl
  obtain ⟨⟨c, hc⟩, h⟩ := Run.never_early hclock halways run_afterInner
  obtain ⟨hhanded, hpast⟩ := h c hc
  exact ⟨hclock, halways, run_afterInner, c, hc, hhanded.trans (by with_unfolding_all rfl), hpast⟩

end Dispatcher

end OpenSound
