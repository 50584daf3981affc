import Mathlib.Algebra.Order.Group.Multiset
import OpenSound.Proofs.Traversal

/-!
# No message is lost

Between two steps of a run, every message of every packet that was dispatched either has been handed
to the listeners, once and under the time tag of the innermost bundle around it, or lies in a bundle
that still waits.  `Accounts s messages` says of a step that it hands over or puts off just these
messages, besides those of what the listeners dispatch meanwhile; from it follows what a whole run
keeps (`Run.handed_add_waiting`).  All this is where the scheduler has its thread
(`Surroundings.HasThread`), as a bundle that cannot be handed to the scheduler is lost.
-/

namespace OpenSound

/-- Whenever the scheduler needs its thread, it is there or can be started. -/
def Surroundings.HasThread (env : Surroundings) : Prop := ∀ n, env.thread n = true

namespace Dispatcher

/-- The messages that were handed to the listeners, each with the time tag it was handed over
with. -/
def handedMessages (d : Dispatcher) : Multiset (TimeTag × Message) := d.handed

/-- The messages in the bundles that wait, each with the time tag of the innermost bundle around
it. -/
def waitingMessages (d : Dispatcher) : Multiset (TimeTag × Message) :=
  (d.scheduler.waiting.flatMap fun task => Packet.timedAll task.job.time task.job.elements :
    List (TimeTag × Message))

/-- The messages in all packets that were dispatched, each with the time tag of the innermost bundle
around it. -/
def dispatchedMessages (d : Dispatcher) : Multiset (TimeTag × Message) :=
  (d.dispatched.flatMap (Packet.timed .immediate) : List (TimeTag × Message))

/-- From the first state to the second one, the messages were handed over or put off, and so were
those of the packets that were dispatched meanwhile. -/
structure Accounted (messages : Multiset (TimeTag × Message)) (d d' : Dispatcher) : Prop where
  balance : d'.handedMessages + d'.waitingMessages + d.dispatchedMessages =
    d.handedMessages + d.waitingMessages + d'.dispatchedMessages + messages
  running : d'.scheduler.running = d.scheduler.running
  isShutDown : d'.scheduler.isShutDown = d.scheduler.isShutDown
  pending : d'.scheduler.pending + d.scheduler.waiting.length =
    d.scheduler.pending + d'.scheduler.waiting.length

/-- A change that concerns neither messages nor the scheduler. -/
theorem Accounted.of_eq {d d' : Dispatcher} (hhanded : d'.handed = d.handed)
    (hscheduler : d'.scheduler = d.scheduler) (hdispatched : d'.dispatched = d.dispatched) :
    Accounted 0 d d' := by
  refine ⟨?_, by rw [hscheduler], by rw [hscheduler], by rw [hscheduler]⟩
  simp only [handedMessages, waitingMessages, dispatchedMessages, hhanded, hscheduler, hdispatched,
    add_zero]

theorem Accounted.refl (d : Dispatcher) : Accounted 0 d d := .of_eq rfl rfl rfl

theorem Accounted.trans {messages more : Multiset (TimeTag × Message)} {d d' d'' : Dispatcher}
    (h : Accounted messages d d') (h' : Accounted more d' d'') :
    Accounted (messages + more) d d'' := by
  refine ⟨?_, h'.running.trans h.running, h'.isShutDown.trans h.isShutDown, ?_⟩
  · have hbalance := congrArg₂ (· + ·) h.balance h'.balance
    -- what the state in between holds stands on both sides
    apply add_right_cancel (b := d'.handedMessages + d'.waitingMessages + d'.dispatchedMessages)
    calc _ = d'.handedMessages + d'.waitingMessages + d.dispatchedMessages +
          (d''.handedMessages + d''.waitingMessages + d'.dispatchedMessages) := by ac_rfl
      _ = _ := hbalance
      _ = _ := by ac_rfl
  · have := h.pending
    have := h'.pending
    omega

theorem Accounted.zero_trans {messages : Multiset (TimeTag × Message)} {d d' d'' : Dispatcher}
    (h : Accounted 0 d d') (h' : Accounted messages d' d'') : Accounted messages d d'' := by
  rw [← zero_add messages]
  exact h.trans h'

/-- A step that hands over or puts off the messages, if it succeeds at all, and that never fails for
want of a thread. -/
def Accounts {α : Type} (s : Step α) (messages : Multiset (TimeTag × Message)) : Prop :=
  Leads (fun d d' => d.scheduler.isShutDown = false → Accounted messages d d')
    (fun e _ _ => ∀ error, e ≠ .failed error) s

theorem isFrame_accounted (env : Surroundings) :
    IsFrame env (fun d d' => d.scheduler.isShutDown = false → Accounted 0 d d')
      fun e _ _ => ∀ error, e ≠ .failed error where
  refl d _ := .refl d
  trans h h' hopen := (h hopen).zero_trans (h' ((h hopen).isShutDown.trans hopen))
  panicked _ _ _ := Interruption.noConfusion
  tooDeep _ _ := Interruption.noConfusion
  trans_brokenOff _ h := h
  caught error _ _ h := absurd rfl (h error)
  note _ _ _ _ := .of_eq rfl rfl rfl
  change d caller change _ := by
    obtain ⟨registrations, badDataListeners, hchange⟩ := exists_change_eq env.tests d change
    rw [hchange]
    exact .of_eq rfl rfl rfl

section Accounts

variable {α β : Type} {messages more : Multiset (TimeTag × Message)}

theorem accounts_modify {f : Dispatcher → Dispatcher}
    (h : ∀ d, d.scheduler.isShutDown = false → Accounted messages d (f d)) :
    Accounts (modify f) messages := leads_modify h

theorem Accounts.bind {x : Step α} {f : α → Step β} (hx : Accounts x messages)
    (hf : ∀ a, Accounts (f a) more) : Accounts (x >>= f) (messages + more) := by
  refine Leads.bind hx hf (fun d d' d'' h h' hopen => ?_) (fun _ _ _ => id) fun _ _ _ _ _ => id
  exact (h hopen).trans (h' ((h hopen).isShutDown.trans hopen))

/-- Behind a step that does nothing with messages. -/
theorem Accounts.zero_bind {x : Step α} {f : α → Step β} (hx : Accounts x 0)
    (hf : ∀ a, Accounts (f a) messages) : Accounts (x >>= f) messages := by
  rw [← zero_add messages]
  exact hx.bind hf

end Accounts

/-! ### Messages -/

variable {env : Surroundings} {process : Arrival → Source → Step Unit} {source : Source}

theorem accounts_get : Accounts get 0 := leads_get fun d _ => .refl d

theorem accounts_now : Accounts (now env) 0 := fun _ _ => .of_eq rfl rfl rfl

theorem accounted_handOver (d : Dispatcher) (time : TimeTag) (m : Message) :
    Accounted {(time, m)} d (d.handOver time m) := by
  have hhanded : (d.handOver time m).handedMessages = {(time, m)} + d.handedMessages := by
    rw [Multiset.singleton_add]
    rfl
  refine ⟨?_, rfl, rfl, rfl⟩
  rw [hhanded]
  show {(time, m)} + d.handedMessages + d.waitingMessages + d.dispatchedMessages =
    d.handedMessages + d.waitingMessages + d.dispatchedMessages + {(time, m)}
  ac_rfl

theorem accounts_deliver (hprocess : ∀ arrival source, Accounts (process arrival source) 0)
    (time : TimeTag) (m : Message) :
    Accounts (deliver env process source time m) {(time, m)} := by
  rw [← add_zero {(time, m)}]
  exact .bind (accounts_modify fun d _ => accounted_handOver d time m) fun _ =>
    (isFrame_accounted env).inform hprocess source time m

/-! ### Bundles -/

theorem accounted_submit (d : Dispatcher) (deadline : Instant) (bundle : Deferred)
    (hopen : d.scheduler.isShutDown = false) :
    Accounted (Packet.timedAll bundle.time bundle.elements : List (TimeTag × Message)) d
      { d with scheduler := d.scheduler.submit deadline bundle } := by
  rw [Scheduler.submit_of_isShutDown_eq_false hopen]
  refine ⟨?_, rfl, rfl, ?_⟩
  · have hwaiting : ({ d with scheduler := { d.scheduler with
          waiting := d.scheduler.waiting ++ [⟨deadline, bundle⟩]
          pending := d.scheduler.pending + 1 } } : Dispatcher).waitingMessages =
        d.waitingMessages + (Packet.timedAll bundle.time bundle.elements :
          List (TimeTag × Message)) := by
      simp [waitingMessages]
    rw [hwaiting]
    show d.handedMessages + _ + d.dispatchedMessages =
      d.handedMessages + d.waitingMessages + d.dispatchedMessages + _
    ac_rfl
  · simp only [List.length_append, List.length_singleton]
    omega

theorem accounts_defer (hthread : env.HasThread) (time : TimeTag) (elements : List Packet)
    (delay : Nat) :
    Accounts (defer env source time elements delay)
      (Packet.timedAll time elements : List (TimeTag × Message)) := by
  intro d
  rcases defer_cases env source time elements delay d with hrun | ⟨hnone, -⟩
  · rw [hrun]
    intro hopen
    have hnote : Accounted 0 d
        ({ d with readings := d.readings + 1 }.note (.deferred time elements delay)) :=
      .of_eq rfl rfl rfl
    exact hnote.zero_trans (accounted_submit _ _ ⟨time, elements, source⟩ hopen)
  · rw [hthread] at hnone
    cases hnone

theorem accounts_handle_bundle (hthread : env.HasThread) {tag : TimeTag} {elements : List Packet}
    (time : TimeTag) (h : Accounts (handleAll env process source tag elements)
      (Packet.timedAll tag elements : List (TimeTag × Message))) :
    Accounts (handle env process source time (.bundle tag elements))
      (Packet.timedAll tag elements : List (TimeTag × Message)) := by
  rw [handle]
  refine accounts_get.zero_bind fun d => ?_
  split_ifs
  · exact h
  · refine accounts_now.zero_bind fun t => ?_
    split
    · exact h
    · exact accounts_defer hthread tag elements _

section Packets

variable (hthread : env.HasThread)
  (hprocess : ∀ arrival source, Accounts (process arrival source) 0)

include hthread hprocess

theorem accounts_handleAll (time : TimeTag) (packets : List Packet) :
    Accounts (handleAll env process source time packets)
      (Packet.timedAll time packets : List (TimeTag × Message)) := by
  induction packets using Packet.list_induction generalizing time with
  | nil => exact leads_pure (isFrame_accounted env).refl _
  | message m rest ih =>
    rw [handleAll, handle, Packet.timedAll, Packet.timed, ← Multiset.coe_add]
    exact (accounts_deliver hprocess time m).bind fun _ => ih time
  | bundle tag elements rest ihElements ih =>
    rw [handleAll, Packet.timedAll, Packet.timed, ← Multiset.coe_add]
    exact (accounts_handle_bundle hthread time (ihElements tag)).bind fun _ => ih time

theorem accounts_handle (time : TimeTag) (packet : Packet) :
    Accounts (handle env process source time packet)
      (packet.timed time : List (TimeTag × Message)) := by
  cases packet with
  | message m =>
    rw [handle, Packet.timed]
    exact accounts_deliver hprocess time m
  | bundle tag elements =>
    rw [Packet.timed]
    exact accounts_handle_bundle hthread time (accounts_handleAll hthread hprocess tag elements)

end Packets

/-- Once the messages of an accepted packet are accounted for, the packet is. -/
theorem Accounted.of_accept {d d' : Dispatcher} {packet : Packet}
    (h : Accounted (packet.timed .immediate : List (TimeTag × Message)) (d.accept packet) d') :
    Accounted 0 d d' := by
  have hprocessed : (d.accept packet).dispatchedMessages =
      (packet.timed .immediate : List (TimeTag × Message)) + d.dispatchedMessages := by
    simp [dispatchedMessages, accept]
  refine ⟨?_, h.running, h.isShutDown, h.pending⟩
  have hbalance := h.balance
  rw [hprocessed] at hbalance
  apply add_right_cancel (b := (packet.timed .immediate : Multiset (TimeTag × Message)))
  calc d'.handedMessages + d'.waitingMessages + d.dispatchedMessages +
        (packet.timed .immediate : List (TimeTag × Message))
      = d'.handedMessages + d'.waitingMessages +
        ((packet.timed .immediate : List (TimeTag × Message)) + d.dispatchedMessages) := by ac_rfl
    _ = d.handedMessages + d.waitingMessages + d'.dispatchedMessages +
        (packet.timed .immediate : List (TimeTag × Message)) := hbalance
    _ = _ := by rw [add_zero]

section Dispatches

variable (hthread : env.HasThread)

include hthread

/-- The messages of a packet that arrives are accounted for by what is done with it. -/
theorem accounts_process (nesting : Nat) (arrival : Arrival) (source : Source) :
    Accounts (Dispatcher.process env nesting arrival source) 0 := by
  induction nesting generalizing arrival source with
  | zero => exact leads_throw ((isFrame_accounted env).tooDeep)
  | succ nesting ih =>
    cases arrival with
    | failure failure => exact (isFrame_accounted env).report ih source failure
    | packet packet =>
      rw [process_packet]
      -- the packet is owed from here on, and settled by what is done with it
      have haccept : Leads (fun d d' => d' = d.accept packet) (fun _ _ _ => False)
          (modify fun d => d.accept packet) := leads_modify fun _ => rfl
      refine haccept.bind (fun _ => accounts_handle hthread ih .immediate packet) ?_
        (fun _ _ _ => False.elim) fun _ _ _ _ _ => id
      rintro d _ d' rfl h hopen
      exact (h hopen).of_accept

theorem accounts_release (nesting : Nat) (bundle : Deferred) :
    Accounts (release env nesting bundle)
      (Packet.timedAll bundle.time bundle.elements : List (TimeTag × Message)) := by
  rw [release_eq_handleAll]
  exact accounts_handleAll hthread (accounts_process hthread nesting) bundle.time bundle.elements

end Dispatches

/-! ### Runs -/

/-- If the task is due and starts now, it runs to its end: no listener panics meanwhile. -/
def Completes (env : Surroundings) (nesting index : Nat) (d : Dispatcher) : Prop :=
  match d.scheduler.start? (d.moment env) index with
  | none => True
  | some (bundle, scheduler) =>
    ∃ d', release env nesting bundle { d with readings := d.readings + 1, scheduler } = .ok () d'

/-- The states of a dispatcher between the steps of a run.  Packets are dispatched, bad data are
reported, listeners come and go, the clock goes on, and tasks that wait are fired in any order, as
far as they are due. -/
inductive Run (env : Surroundings) : Dispatcher → Prop
  | start (settings : Settings) (registry : Registry) : Run env (new settings registry)
  | listen {d} (registrations : Registrations) (badDataListeners : List String) :
      Run env d → Run env { d with registrations, badDataListeners }
  | wait {d} (readings nanos : Nat) :
      Run env d →
      Run env { d with readings := d.readings + readings, slept := d.slept + nanos }
  | process {d d' nesting arrival source} :
      Run env d → Dispatcher.process env nesting arrival source d = .ok () d' → Run env d'
  | fire {d d' nesting index fired} :
      Run env d → Completes env nesting index d →
      Dispatcher.fire env nesting index d = .ok fired d' → Run env d'

/-- What holds between two steps: no task runs, and every message is accounted for. -/
structure Balanced (d : Dispatcher) : Prop where
  balance : d.handedMessages + d.waitingMessages = d.dispatchedMessages
  running : d.scheduler.running = none
  isShutDown : d.scheduler.isShutDown = false
  pending : d.scheduler.pending = d.scheduler.waiting.length

theorem Balanced.of_accounted {d d' : Dispatcher} (h : Balanced d) (h' : Accounted 0 d d') :
    Balanced d' := by
  refine ⟨?_, h'.running.trans h.running, h'.isShutDown.trans h.isShutDown, ?_⟩
  · have hbalance := h'.balance
    rw [h.balance, add_zero, add_comm] at hbalance
    exact add_left_cancel hbalance
  · have := h.pending
    have := h'.pending
    omega

theorem balanced_new (settings : Settings) (registry : Registry) :
    Balanced (new settings registry) := ⟨rfl, rfl, rfl, rfl⟩

theorem fire_of_start?_eq_none {nesting index : Nat} {d : Dispatcher}
    (h : d.scheduler.start? (d.moment env) index = none) :
    Dispatcher.fire env nesting index d = .ok false { d with readings := d.readings + 1 } := by
  rw [Dispatcher.fire, bind_of_eq_ok (now_eq_ok d), bind_of_eq_ok (get_eq_ok _)]
  dsimp only
  rw [h]
  rfl

/-- What comes of a task that was fired, when its bundle has come to an end. -/
def ended :
    EStateM.Result Interruption Dispatcher Unit → EStateM.Result Interruption Dispatcher Bool
  | .ok _ d => .ok true { d with scheduler := d.scheduler.finish }
  | .error (.panicked _) d => .ok true { d with scheduler := d.scheduler.finish }
  | .error (.failed _) d => .ok true { d with scheduler := d.scheduler.finish }
  | .error .tooDeep d => .error .tooDeep { d with scheduler := d.scheduler.finish }

theorem fire_eq_ended {nesting index : Nat} {d : Dispatcher} {bundle : Deferred}
    {scheduler : Scheduler Deferred}
    (h : d.scheduler.start? (d.moment env) index = some (bundle, scheduler)) :
    Dispatcher.fire env nesting index d =
      ended (release env nesting bundle { d with readings := d.readings + 1, scheduler }) := by
  rw [Dispatcher.fire, bind_of_eq_ok (now_eq_ok d), bind_of_eq_ok (get_eq_ok _)]
  dsimp only
  rw [h]
  exact bind_of_eq_ok (set_eq_ok _ _)

theorem fire_of_start?_eq_some {nesting index : Nat} {d d' : Dispatcher} {bundle : Deferred}
    {scheduler : Scheduler Deferred}
    (h : d.scheduler.start? (d.moment env) index = some (bundle, scheduler))
    (hrelease : release env nesting bundle { d with readings := d.readings + 1, scheduler } =
      .ok () d') :
    Dispatcher.fire env nesting index d =
      .ok true { d' with scheduler := d'.scheduler.finish } := by
  rw [fire_eq_ended h, hrelease, ended]

/-- The messages that wait are those of a task and those of the other tasks. -/
theorem waitingMessages_eq_add {d : Dispatcher} {task : Task Deferred} {index : Nat}
    (h : d.scheduler.waiting[index]? = some task) (readings : Nat)
    (running : Option (Task Deferred)) :
    d.waitingMessages =
      ({ d with readings, scheduler := { d.scheduler with
          waiting := d.scheduler.waiting.eraseIdx index, running } } : Dispatcher).waitingMessages +
        (Packet.timedAll task.job.time task.job.elements : List (TimeTag × Message)) := by
  obtain ⟨hindex, rfl⟩ := List.getElem?_eq_some_iff.1 h
  have hperm := (List.getElem_cons_eraseIdx_perm hindex).flatMap_right fun task =>
    Packet.timedAll task.job.time task.job.elements
  rw [List.flatMap_cons] at hperm
  rw [add_comm, waitingMessages, waitingMessages, Multiset.coe_add]
  exact (Multiset.coe_eq_coe.2 hperm).symm

/-- When a task has run to its end, all messages are accounted for again. -/
theorem Balanced.of_release (hthread : env.HasThread) {nesting index : Nat} {d d' : Dispatcher}
    {bundle : Deferred} {scheduler : Scheduler Deferred} (hd : Balanced d)
    (h : d.scheduler.start? (d.moment env) index = some (bundle, scheduler))
    (hrelease : release env nesting bundle { d with readings := d.readings + 1, scheduler } =
      .ok () d') :
    Balanced { d' with scheduler := d'.scheduler.finish } := by
  obtain ⟨task, htask, rfl, -, rfl⟩ := Scheduler.exists_of_start?_eq_some h
  have haccounted := (accounts_release hthread nesting task.job).of_eq_ok hrelease hd.isShutDown
  have hwaiting := waitingMessages_eq_add htask (d.readings + 1) (some task)
  rw [Scheduler.finish_of_running_eq_some haccounted.running]
  refine ⟨?_, rfl, haccounted.isShutDown.trans hd.isShutDown, ?_⟩
  · have hbalance := haccounted.balance
    apply add_right_cancel (b := d.dispatchedMessages)
    calc d'.handedMessages + d'.waitingMessages + d.dispatchedMessages
        = _ := hbalance
      _ = d.handedMessages + d.waitingMessages + d'.dispatchedMessages := by
        rw [hwaiting]
        show d.handedMessages + _ + _ + _ = _
        ac_rfl
      _ = d'.dispatchedMessages + d.dispatchedMessages := by rw [hd.balance, add_comm]
  · have hpending := haccounted.pending
    have hcount := hd.pending
    obtain ⟨hindex, -⟩ := List.getElem?_eq_some_iff.1 htask
    have hlength := List.length_eraseIdx_of_lt hindex
    dsimp only at hpending ⊢
    omega

theorem Balanced.of_fire (hthread : env.HasThread) {nesting index : Nat} {d d' : Dispatcher}
    {fired : Bool} (hd : Balanced d) (hcompletes : Completes env nesting index d)
    (h : Dispatcher.fire env nesting index d = .ok fired d') : Balanced d' := by
  rcases hstart : d.scheduler.start? (d.moment env) index with _ | ⟨bundle, scheduler⟩
  · rw [fire_of_start?_eq_none hstart] at h
    cases h
    exact hd.of_accounted (.of_eq rfl rfl rfl)
  · rw [Completes, hstart] at hcompletes
    obtain ⟨ended, hrelease⟩ := hcompletes
    rw [fire_of_start?_eq_some hstart hrelease] at h
    cases h
    exact hd.of_release hthread hstart hrelease

theorem Run.balanced (hthread : env.HasThread) {d : Dispatcher} (h : Run env d) : Balanced d := by
  induction h with
  | start settings registry => exact balanced_new settings registry
  | listen registrations badDataListeners _ ih => exact ih.of_accounted (.of_eq rfl rfl rfl)
  | wait readings nanos _ ih => exact ih.of_accounted (.of_eq rfl rfl rfl)
  | process _ hrun ih =>
    exact ih.of_accounted ((accounts_process hthread _ _ _).of_eq_ok hrun ih.isShutDown)
  | fire _ hcompletes hfire ih => exact ih.of_fire hthread hcompletes hfire

/-- Where the scheduler has its thread, the messages that were handed over and those that wait
between two steps of a run are the messages of all packets that were dispatched.  When nothing is
pending, all of them were handed over, each as often as it came. -/
theorem Run.handed_add_waiting {env : Surroundings} (hthread : env.HasThread) {d : Dispatcher}
    (h : Run env d) :
    d.handedMessages + d.waitingMessages = d.dispatchedMessages ∧
      (d.scheduler.pending = 0 → d.handedMessages = d.dispatchedMessages) := by
  have hbalanced := h.balanced hthread
  refine ⟨hbalanced.balance, fun hpending => ?_⟩
  have hwaiting : d.scheduler.waiting = [] :=
    List.eq_nil_of_length_eq_zero (hbalanced.pending.symm.trans hpending)
  have hnone : d.waitingMessages = 0 := by
    rw [waitingMessages, hwaiting]
    rfl
  rw [← hbalanced.balance, hnone, add_zero]

/-- A bundle that has to wait, around one that has to wait longer. -/
def futureBundle : Packet :=
  .bundle (inSeconds 10) [.message { address := "/a" },
    .bundle (inSeconds 20) [.message { address := "/b" }], .message { address := "/c" }]

/-- The bundle has been put off. -/
def afterDispatch : Dispatcher :=
  endState (Dispatcher.dispatch quiet 1 futureBundle none) (new {} .empty)

/-- Both bundles are due by now. -/
def afterWait : Dispatcher :=
  { afterDispatch with
    readings := afterDispatch.readings + 0
    slept := afterDispatch.slept + 25000000000 }

def afterFire : Dispatcher := endState (Dispatcher.fire quiet 1 0) afterWait

theorem completes_afterWait : Completes quiet 1 0 afterWait := by
  show ∃ d', release quiet 1 _ _ = .ok () d'
  rw [release_eq_handleAll]
  exact ⟨_, rfl⟩

theorem handed_afterFire :
    quiet.HasThread ∧ Run quiet afterFire ∧ afterFire.scheduler.pending = 0 ∧
      afterFire.handedMessages = afterFire.dispatchedMessages ∧
      afterFire.handed = [(inSeconds 10, { address := "/c" }),
        (inSeconds 20, { address := "/b" }), (inSeconds 10, { address := "/a" })] := by
  have hdispatch : Dispatcher.dispatch quiet 1 futureBundle none (new {} .empty) =
      .ok () afterDispatch := rfl
  have hwait : Run quiet afterWait := .wait 0 25000000000 (.process (.start {} .empty) hdispatch)
  have hfire : Dispatcher.fire quiet 1 0 afterWait = .ok true afterFire := by
    with_unfolding_all rfl
  have hrun : Run quiet afterFire := .fire hwait completes_afterWait hfire
  have hpending : afterFire.scheduler.pending = 0 := by with_unfolding_all rfl
  have hthread : quiet.HasThread := fun _ => rfl
  have hhanded := (Run.handed_add_waiting hthread hrun).2 hpending
  exact ⟨hthread, hrun, hpending, hhanded, by with_unfolding_all rfl⟩

end Dispatcher

end OpenSound
