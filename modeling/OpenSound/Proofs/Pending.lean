import Mathlib.Algebra.Order.Group.Multiset
import Mathlib.Data.Multiset.Range
import Mathlib.Logic.Relation
import OpenSound.Scheduler

/-!
# Pending tasks

A `Ledger` is a scheduler with a record of its tasks: each task that is accepted gets a ticket, and
the ledger knows which tickets were started, which tasks came to their end, panicked, or were
discarded.  `Ledger.Step` is everything that can happen, in any order: a task is handed in, perhaps
by the one that runs; one that is due starts; the one that runs ends; the owner drops the scheduler,
which closes it; and its thread ends, which waits for the task that runs.

The count of the scheduler is the number of tickets that are not settled, no step takes more off it
than there is, and no ticket is started twice (`Ledger.pending_exact`).  Once the drop is complete
the count is zero and nothing runs any more, whatever is handed in.
-/

namespace OpenSound

/-- The ticket of a task. -/
def Task.ticket {α : Type} (task : Task (Nat × α)) : Nat := task.job.1

/-- A scheduler and the record of its tasks, which are known by the tickets `0`, `1`, … -/
structure Ledger (α : Type) where
  scheduler : Scheduler (Nat × α)
  /-- How many tasks were accepted. -/
  accepted : Nat := 0
  started : Multiset Nat := 0
  /-- The tasks that came to their end. -/
  finished : Multiset Nat := 0
  panicked : Multiset Nat := 0
  discarded : Multiset Nat := 0

namespace Ledger

variable {α : Type} {l l' : Ledger α}

/-- The record of a scheduler that was just made. -/
def new (threadName : String) : Ledger α := { scheduler := { threadName } }

/-- The tickets of the tasks that are over: finished, panicked or discarded. -/
def settled (l : Ledger α) : Multiset Nat := l.finished + l.panicked + l.discarded

/-- The tickets that were given out and are not settled. -/
def unsettled (l : Ledger α) : Multiset Nat :=
  (Multiset.range l.accepted).filter (· ∉ l.settled)

/-- The tickets of the tasks that wait. -/
def waiting (l : Ledger α) : Multiset Nat := l.scheduler.waiting.map Task.ticket

/-- The ticket of the task that runs. -/
def running (l : Ledger α) : Multiset Nat := l.scheduler.running.toList.map Task.ticket

/-- A task is handed in, and gets the next ticket if it is accepted. -/
def take (l : Ledger α) (deadline : Instant) (job : α) : Ledger α :=
  { l with
    scheduler := l.scheduler.submit deadline (l.accepted, job)
    accepted := if l.scheduler.isShutDown then l.accepted else l.accepted + 1 }

/-- The owner begins to drop the scheduler. -/
def close (l : Ledger α) : Ledger α := { l with scheduler := l.scheduler.close }

/-- The thread of the scheduler ends. -/
def tearDown (l : Ledger α) : Ledger α :=
  { l with scheduler := l.scheduler.tearDown, discarded := l.discarded + l.waiting }

/-- What can happen to a scheduler. -/
inductive Step : Ledger α → Ledger α → Prop
  /-- A task is handed in without an error. -/
  | take {l : Ledger α} {thread : Bool} {deadline : Instant} {job : α}
    (h : l.scheduler.schedule thread deadline (l.accepted, job) =
      .ok (l.take deadline job).scheduler) :
    Step l (l.take deadline job)
  | start {l : Ledger α} {now : Instant} {index : Nat} {job : Nat × α} {s : Scheduler (Nat × α)}
    (h : l.scheduler.start? now index = some (job, s)) :
    Step l { l with scheduler := s, started := job.1 ::ₘ l.started }
  | finish {l : Ledger α} {task : Task (Nat × α)} (h : l.scheduler.running = some task) :
    Step l { l with scheduler := l.scheduler.finish, finished := task.ticket ::ₘ l.finished }
  | panic {l : Ledger α} {task : Task (Nat × α)} (h : l.scheduler.running = some task) :
    Step l { l with scheduler := l.scheduler.finish, panicked := task.ticket ::ₘ l.panicked }
  | close (l : Ledger α) : Step l l.close
  /-- Once it is closed, the thread ends between two tasks. -/
  | tearDown {l : Ledger α} (closed : l.scheduler.isShutDown = true)
    (idle : l.scheduler.running = none) : Step l l.tearDown

/-- The second state comes after the first one. -/
abbrev Reaches : Ledger α → Ledger α → Prop := Relation.ReflTransGen Step

/-- The drop of the scheduler began in the first state and is complete in the second one. -/
def Drops (l l' : Ledger α) : Prop :=
  ∃ last, Reaches l.close last ∧ last.scheduler.running = none ∧ l' = last.tearDown

/-! ### Every ticket is somewhere -/

/-- Every ticket is settled, with the task that runs, or with a task that waits; what was started is
with the task that runs, or finished or panicked; and the count is that of the tasks that run and
wait. -/
structure Balanced (l : Ledger α) : Prop where
  tickets : l.settled + (l.running + l.waiting) = Multiset.range l.accepted
  started : l.started = l.finished + l.panicked + l.running
  pending : l.scheduler.pending = (l.running + l.waiting).card

theorem balanced_new (threadName : String) : Balanced (new threadName : Ledger α) :=
  ⟨rfl, rfl, rfl⟩

/-- A scheduler that is closed discards what is handed in. -/
theorem take_of_closed (h : l.scheduler.isShutDown = true) (deadline : Instant) (job : α) :
    l.take deadline job = l := by
  rw [take, Scheduler.submit, if_pos h, if_pos h]

/-- A task that is accepted waits under the next ticket. -/
theorem Balanced.take (h : l.Balanced) (deadline : Instant) (job : α) :
    (l.take deadline job).Balanced := by
  by_cases hclosed : l.scheduler.isShutDown = true
  · rw [take_of_closed hclosed]
    exact h
  rw [Ledger.take, if_neg hclosed, Scheduler.submit_of_isShutDown_eq_false (Bool.eq_false_iff.2 hclosed)]
  have hwaiting : ((l.scheduler.waiting ++ [Task.mk deadline (l.accepted, job)]).map Task.ticket :
      Multiset Nat) = l.waiting + {l.accepted} := by
    rw [List.map_append, ← Multiset.coe_add]
    rfl
  refine ⟨?_, h.started, ?_⟩
  · change l.settled + (l.running + ↑(List.map Task.ticket _)) = _
    rw [hwaiting, Multiset.range_succ, ← Multiset.singleton_add, ← h.tickets]
    ac_rfl
  · change l.scheduler.pending + 1 = (l.running + ↑(List.map Task.ticket _)).card
    rw [hwaiting, ← add_assoc, Multiset.card_add, ← h.pending]
    rfl

/-- A task that starts is one of those that wait. -/
theorem waiting_eq_cons {task : Task (Nat × α)} {index : Nat}
    (h : l.scheduler.waiting[index]? = some task) :
    l.waiting = task.ticket ::ₘ ((l.scheduler.waiting.eraseIdx index).map Task.ticket : List Nat) := by
  obtain ⟨hindex, rfl⟩ := List.getElem?_eq_some_iff.1 h
  exact (Multiset.coe_eq_coe.2
    ((List.getElem_cons_eraseIdx_perm hindex).map Task.ticket)).symm

/-- The ticket of the task that starts goes from those that wait to the one that runs. -/
theorem Balanced.start (h : l.Balanced) {now : Instant} {index : Nat} {job : Nat × α}
    {s : Scheduler (Nat × α)} (hstart : l.scheduler.start? now index = some (job, s)) :
    Balanced { l with scheduler := s, started := job.1 ::ₘ l.started } := by
  obtain ⟨task, htask, rfl, ⟨hidle, -⟩, rfl⟩ := Scheduler.exists_of_start?_eq_some hstart
  have hrunning : l.running = 0 := by
    rw [running, hidle]
    rfl
  have htickets := h.tickets
  have hstarted := h.started
  have hpending := h.pending
  rw [hrunning, waiting_eq_cons htask] at htickets hpending
  rw [hrunning] at hstarted
  refine ⟨?_, ?_, ?_⟩
  · rw [zero_add, ← Multiset.singleton_add] at htickets
    exact htickets
  · change task.ticket ::ₘ l.started = l.finished + l.panicked + {task.ticket}
    rw [hstarted, add_zero, ← Multiset.singleton_add]
    exact add_comm _ _
  · rw [zero_add, ← Multiset.singleton_add] at hpending
    exact hpending

/-- The ticket of the task that ends is settled, whether it was completed or not. -/
theorem Balanced.finish (h : l.Balanced) {task : Task (Nat × α)}
    (hrunning : l.scheduler.running = some task) (finished panicked : Multiset Nat)
    (hended : finished + panicked = {task.ticket} + (l.finished + l.panicked)) :
    Balanced { l with scheduler := l.scheduler.finish, finished, panicked } := by
  have hone : l.running = {task.ticket} := by
    rw [running, hrunning]
    rfl
  have htickets := h.tickets
  have hstarted := h.started
  have hpending := h.pending
  rw [hone] at htickets hstarted hpending
  rw [Scheduler.finish_of_running_eq_some hrunning]
  refine ⟨?_, ?_, ?_⟩
  · change finished + panicked + l.discarded + (0 + l.waiting) = Multiset.range l.accepted
    rw [hended, ← htickets, settled, zero_add]
    ac_rfl
  · change l.started = finished + panicked + 0
    rw [hstarted, hended, add_zero, add_comm]
  · change l.scheduler.pending - 1 = (0 + l.waiting).card
    rw [hpending, zero_add, Multiset.card_add, Multiset.card_singleton, Nat.add_sub_cancel_left]

/-- The tasks that wait are discarded, and they are what the count loses. -/
theorem Balanced.tearDown (h : l.Balanced) (hidle : l.scheduler.running = none) :
    l.tearDown.Balanced := by
  have hnone : l.running = 0 := by
    rw [running, hidle]
    rfl
  have htickets := h.tickets
  have hpending := h.pending
  rw [hnone, zero_add] at htickets hpending
  refine ⟨?_, h.started, ?_⟩
  · change l.finished + l.panicked + (l.discarded + l.waiting) + (l.running + 0) = _
    rw [hnone, add_zero, add_zero, ← add_assoc]
    exact htickets
  · change l.scheduler.pending - l.scheduler.waiting.length = (l.running + 0).card
    rw [hpending, hnone, waiting, Multiset.coe_card, List.length_map, Nat.sub_self]
    rfl

theorem Balanced.step (h : l.Balanced) (hstep : Step l l') : l'.Balanced := by
  cases hstep with
  | take _ => exact h.take _ _
  | start hstart => exact h.start hstart
  | @finish task hrunning =>
    refine h.finish hrunning _ l.panicked ?_
    rw [← Multiset.singleton_add, add_assoc]
  | @panic task hrunning =>
    refine h.finish hrunning l.finished _ ?_
    rw [← Multiset.singleton_add]
    ac_rfl
  | close => exact ⟨h.tickets, h.started, h.pending⟩
  | tearDown closed idle => exact h.tearDown idle

theorem Balanced.reaches (h : l.Balanced) (hreaches : Reaches l l') : l'.Balanced := by
  induction hreaches with
  | refl => exact h
  | tail _ hstep ih => exact ih.step hstep

/-! ### What follows from the balance -/

theorem Balanced.nodup (h : l.Balanced) : (l.settled + (l.running + l.waiting)).Nodup := by
  rw [h.tickets]
  exact Multiset.nodup_range _

/-- The tickets that are not settled are those of the tasks that run and wait. -/
theorem Balanced.unsettled_eq (h : l.Balanced) : l.unsettled = l.running + l.waiting := by
  have hdisjoint := (Multiset.nodup_add.1 h.nodup).2.2
  rw [unsettled, ← h.tickets, Multiset.filter_add, Multiset.filter_eq_nil.2, zero_add,
    Multiset.filter_eq_self]
  · exact fun ticket hticket hsettled => Multiset.disjoint_left.1 hdisjoint hsettled hticket
  · exact fun ticket hsettled hnot => hnot hsettled

theorem Balanced.started_add (h : l.Balanced) :
    l.started + (l.discarded + l.waiting) = Multiset.range l.accepted := by
  rw [← h.tickets, h.started, settled]
  ac_rfl

/-- No ticket is started twice, and none that was discarded was started. -/
theorem Balanced.started_nodup (h : l.Balanced) :
    l.started.Nodup ∧ Disjoint l.started l.discarded := by
  have hnodup : (l.started + (l.discarded + l.waiting)).Nodup := by
    rw [h.started_add]
    exact Multiset.nodup_range _
  obtain ⟨hstarted, -, hdisjoint⟩ := Multiset.nodup_add.1 hnodup
  exact ⟨hstarted, hdisjoint.mono_right (Multiset.le_add_right _ _)⟩

/-! ### The drop -/

/-- A scheduler that is closed takes a task without an error, and discards it. -/
theorem schedule_of_closed (h : l.scheduler.isShutDown = true) (thread : Bool) (deadline : Instant)
    (job : Nat × α) : l.scheduler.schedule thread deadline job = .ok l.scheduler := by
  rw [Scheduler.schedule, Scheduler.submit, h]
  rfl

/-- Once it is closed, a scheduler stays closed and accepts nothing. -/
theorem Step.closed (h : Step l l') (hclosed : l.scheduler.isShutDown = true) :
    l'.scheduler.isShutDown = true ∧ l'.accepted = l.accepted := by
  cases h with
  | take _ =>
    rw [take_of_closed hclosed]
    exact ⟨hclosed, rfl⟩
  | start hstart =>
    obtain ⟨task, -, -, -, rfl⟩ := Scheduler.exists_of_start?_eq_some hstart
    exact ⟨hclosed, rfl⟩
  | finish hrunning =>
    rw [Scheduler.finish_of_running_eq_some hrunning]
    exact ⟨hclosed, rfl⟩
  | panic hrunning =>
    rw [Scheduler.finish_of_running_eq_some hrunning]
    exact ⟨hclosed, rfl⟩
  | close => exact ⟨rfl, rfl⟩
  | tearDown closed idle => exact ⟨hclosed, rfl⟩

theorem Reaches.closed (h : Reaches l l') (hclosed : l.scheduler.isShutDown = true) :
    l'.scheduler.isShutDown = true ∧ l'.accepted = l.accepted := by
  induction h with
  | refl => exact ⟨hclosed, rfl⟩
  | tail _ hstep ih =>
    obtain ⟨hclosed', haccepted⟩ := hstep.closed ih.1
    exact ⟨hclosed', haccepted.trans ih.2⟩

/-- Nothing waits or runs, and nothing will. -/
structure IsOver (l : Ledger α) : Prop where
  closed : l.scheduler.isShutDown = true
  idle : l.scheduler.running = none
  empty : l.scheduler.waiting = []

theorem IsOver.step (h : l.IsOver) (hstep : Step l l') : l'.IsOver ∧ l'.started = l.started := by
  have hclosed := (hstep.closed h.closed).1
  cases hstep with
  | take _ =>
    rw [take_of_closed h.closed]
    exact ⟨h, rfl⟩
  | start hstart =>
    obtain ⟨task, htask, -⟩ := Scheduler.exists_of_start?_eq_some hstart
    rw [h.empty] at htask
    cases htask
  | finish hrunning =>
    rw [h.idle] at hrunning
    cases hrunning
  | panic hrunning =>
    rw [h.idle] at hrunning
    cases hrunning
  | close => exact ⟨⟨hclosed, h.idle, h.empty⟩, rfl⟩
  | tearDown closed idle => exact ⟨⟨hclosed, h.idle, rfl⟩, rfl⟩

theorem IsOver.reaches (h : l.IsOver) (hreaches : Reaches l l') :
    l'.IsOver ∧ l'.started = l.started := by
  induction hreaches with
  | refl => exact ⟨h, rfl⟩
  | tail _ hstep ih =>
    obtain ⟨hover, hstarted⟩ := ih.1.step hstep
    exact ⟨hover, hstarted.trans ih.2⟩

theorem Balanced.pending_eq_zero (h : l.Balanced) (hover : l.IsOver) : l.scheduler.pending = 0 := by
  rw [h.pending, running, waiting, hover.idle, hover.empty]
  rfl

/-- When the drop is complete, every task was either started or discarded. -/
theorem Balanced.started_or_discarded (h : l.Balanced) (hover : l.IsOver) {ticket : Nat}
    (hticket : ticket < l.accepted) : ticket ∈ l.started ∨ ticket ∈ l.discarded := by
  have hmem : ticket ∈ l.started + (l.discarded + l.waiting) := by
    rw [h.started_add]
    exact Multiset.mem_range.2 hticket
  have hnone : l.waiting = 0 := by
    rw [waiting, hover.empty]
    rfl
  rwa [hnone, add_zero, Multiset.mem_add] at hmem

theorem Drops.isOver (h : Drops l l') : l'.IsOver ∧ Reaches l l' ∧ l'.accepted = l.accepted := by
  obtain ⟨last, hlast, hidle, rfl⟩ := h
  obtain ⟨hclosed, haccepted⟩ := Reaches.closed hlast rfl
  refine ⟨⟨hclosed, hidle, rfl⟩, ?_, haccepted⟩
  exact .trans (.single (.close l)) (.tail hlast (.tearDown hclosed hidle))

/-- A drop can be completed without starting another task. -/
theorem exists_drops (l : Ledger α) : ∃ l', Drops l l' ∧ l'.started = l.started := by
  rcases hrunning : l.scheduler.running with _ | task
  · exact ⟨l.close.tearDown, ⟨l.close, .refl, hrunning, rfl⟩, rfl⟩
  · let last : Ledger α :=
      { l.close with
        scheduler := l.close.scheduler.finish, finished := task.ticket ::ₘ l.close.finished }
    have hstep : Step l.close last := @Step.finish _ _ task hrunning
    have hidle : last.scheduler.running = none := congrArg Scheduler.running
      (Scheduler.finish_of_running_eq_some (s := l.close.scheduler) hrunning)
    exact ⟨last.tearDown, ⟨last, .single hstep, hidle, rfl⟩, rfl⟩

/-- Whatever happens, the count of a scheduler is the number of the tasks that were accepted and
have neither finished nor panicked nor been discarded, and the task that runs is one of them; no
more is taken off the count than there is; and every task is started at most once, and not after it
was discarded.  From the moment at which the owner drops the scheduler, a task that is handed in is
taken without an error and not accepted.  When the drop is complete, which takes no more than the
end of the task that runs, all tasks that were not started are discarded, nothing is pending, and
nothing starts any more. -/
theorem pending_exact {threadName : String} {l : Ledger α} (h : Reaches (new threadName) l) :
    l.scheduler.pending = l.unsettled.card ∧ l.running ≤ l.unsettled ∧
      (∀ task, l.scheduler.running = some task →
        l.scheduler.finish.pending + 1 = l.scheduler.pending) ∧
      l.scheduler.tearDown.pending + l.scheduler.waiting.length = l.scheduler.pending ∧
      (l.started.Nodup ∧ Disjoint l.started l.discarded ∧ ∀ ticket ∈ l.started, ticket < l.accepted) ∧
      (∀ later, Reaches l.close later → later.accepted = l.accepted ∧
        ∀ thread deadline job,
          later.scheduler.schedule thread deadline job = .ok later.scheduler) ∧
      (∃ l', Drops l l' ∧ l'.started = l.started) ∧
      ∀ l', Drops l l' →
        l'.scheduler.pending = 0 ∧
        (∀ ticket < l.accepted, ticket ∈ l'.started ∨ ticket ∈ l'.discarded) ∧
        ∀ later, Reaches l' later → later.scheduler.pending = 0 ∧ later.started = l'.started := by
  have hl : l.Balanced := (balanced_new threadName).reaches h
  have hcount : l.scheduler.pending = l.running.card + l.scheduler.waiting.length := by
    rw [hl.pending, Multiset.card_add, waiting, Multiset.coe_card, List.length_map]
  refine ⟨?_, ?_, fun task hrunning => ?_, ?_, ?_, fun later hlater => ?_, exists_drops l,
    fun l' hdrops => ?_⟩
  · rw [hl.unsettled_eq, hl.pending]
  · rw [hl.unsettled_eq]
    exact Multiset.le_add_right _ _
  · have hone : l.running = {task.ticket} := by
      rw [running, hrunning]
      rfl
    rw [hone, Multiset.card_singleton] at hcount
    rw [Scheduler.finish_of_running_eq_some hrunning]
    dsimp only
    omega
  · change l.scheduler.pending - l.scheduler.waiting.length + l.scheduler.waiting.length = _
    omega
  · obtain ⟨hnodup, hdisjoint⟩ := hl.started_nodup
    refine ⟨hnodup, hdisjoint, fun ticket hticket => Multiset.mem_range.1 ?_⟩
    rw [← hl.started_add]
    exact Multiset.mem_add.2 (.inl hticket)
  · obtain ⟨hclosed, haccepted⟩ := hlater.closed rfl
    exact ⟨haccepted, schedule_of_closed hclosed⟩
  · obtain ⟨hover, hreaches, haccepted⟩ := hdrops.isOver
    have hl' := hl.reaches hreaches
    refine ⟨hl'.pending_eq_zero hover, fun ticket hticket => ?_, fun later hlater => ?_⟩
    · exact hl'.started_or_discarded hover (haccepted.symm ▸ hticket)
    · obtain ⟨hover', hstarted⟩ := hover.reaches hlater
      exact ⟨(hl'.reaches hlater).pending_eq_zero hover', hstarted⟩

/-- Of two tasks that were handed in, the first one runs. -/
def firstRuns : Ledger Char where
  scheduler :=
    { threadName := "timer", waiting := [⟨⟨9⟩, (1, 'b')⟩], running := some ⟨⟨3⟩, (0, 'a')⟩, pending := 2 }
  accepted := 2
  started := {0}

/-- The task that ran has handed in a third one and panicked. -/
def afterPanic : Ledger Char :=
  let l := firstRuns.take ⟨5⟩ 'c'
  { l with scheduler := l.scheduler.finish, panicked := {0} }

theorem reaches_afterPanic : Reaches (new "timer") afterPanic := by
  have hfirst : Reaches (new "timer") ((new "timer").take ⟨3⟩ 'a') :=
    .single (@Step.take _ _ true _ _ rfl)
  have hsecond := hfirst.tail (@Step.take _ _ true ⟨9⟩ 'b' rfl)
  have hstart := hsecond.tail (@Step.start _ _ ⟨4⟩ 0 _ _ rfl)
  have hthird : Reaches firstRuns (firstRuns.take ⟨5⟩ 'c') :=
    .single (@Step.take _ _ true _ _ rfl)
  exact (hstart.trans hthird).tail (@Step.panic _ _ ⟨⟨3⟩, (0, 'a')⟩ rfl)

/-- Two of the three tasks are pending after that, and dropping the scheduler discards them. -/
theorem pending_exact_afterPanic :
    Reaches (new "timer") afterPanic ∧ afterPanic.scheduler.pending = 2 ∧
      afterPanic.unsettled.card = 2 ∧
      ∃ l', Drops afterPanic l' ∧ l'.scheduler.pending = 0 ∧ 2 ∈ l'.discarded ∧ 2 ∉ l'.started := by
  obtain ⟨hcount, -, -, -, -, -, ⟨l', hdrops, hstarted⟩, hdropped⟩ := pending_exact reaches_afterPanic
  obtain ⟨hzero, hall, -⟩ := hdropped l' hdrops
  have hnot : 2 ∉ l'.started := by
    rw [hstarted]
    decide
  exact ⟨reaches_afterPanic, rfl, hcount.symm, l', hdrops, hzero,
    (hall 2 (by decide)).resolve_left hnot, hnot⟩

end Ledger

end OpenSound
