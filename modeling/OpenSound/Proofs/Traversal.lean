import OpenSound.Proofs.Steps

/-!
# Taking bundles apart

A dispatcher goes through bundles with a stack of what is left of each.  `Dispatcher.handle` says
the same by recursion on the packet: a message is delivered under the time tag around it, a bundle
that is due is taken apart in its place, and one that is not due is put off as a whole.  Both do
the same, action by action.  Where bundles are always due, all that is done is to deliver the
messages in order, each under the time tag of its bundle (`Packet.timed`).
-/

namespace OpenSound

namespace Packet

mutual

/-- The messages of the packet at any depth, in order, each with the time tag of the innermost
bundle around it. -/
def timed (time : TimeTag) : Packet → List (TimeTag × Message)
  | message m => [(time, m)]
  | bundle tag elements => timedAll tag elements

def timedAll (time : TimeTag) : List Packet → List (TimeTag × Message)
  | [] => []
  | packet :: rest => packet.timed time ++ timedAll time rest

end

end Packet

/-! ### Stack and recursion -/

namespace Walk

variable {m : Type → Type} [Monad m] (walk : Walk m)

mutual

/-- Goes through a packet by recursion, under the time tag of the bundle around it. -/
def visit (time : TimeTag) : Packet → m Unit
  | .message content => walk.deliver time content
  | .bundle nested elements => do
    match ← walk.delay? nested with
    | none => visitAll nested elements
    | some delay => walk.defer nested elements delay

def visitAll (time : TimeTag) : List Packet → m Unit
  | [] => pure ()
  | packet :: rest => do
    visit time packet
    visitAll time rest

end

variable [LawfulMonad m]

/-- What is left of a bundle is gone through before what is left around it. -/
theorem run_cons (time : TimeTag) (elements : List Packet) (outer : List Remainder) :
    walk.run ((time, elements) :: outer) = (do walk.visitAll time elements; walk.run outer) := by
  induction elements using Packet.list_induction generalizing time outer with
  | nil =>
    rw [run, visitAll, pure_bind]
  | message content rest ih =>
    rw [run, visitAll, visit, bind_assoc]
    exact bind_congr fun _ => ih time outer
  | bundle nested elements rest ihElements ih =>
    rw [run, visitAll, visit, bind_assoc, bind_assoc]
    refine bind_congr fun delay => ?_
    cases delay with
    | none =>
      -- the nested bundle goes on top of the stack
      show walk.run ((nested, elements) :: (time, rest) :: outer) = _
      rw [ihElements, ih]
    | some delay =>
      show (do walk.defer nested elements delay; walk.run ((time, rest) :: outer)) = _
      rw [ih]

theorem run_singleton (time : TimeTag) (elements : List Packet) :
    walk.run [(time, elements)] = walk.visitAll time elements := by
  rw [run_cons, run, bind_pure]

theorem packet_eq_visit (packet : Packet) : walk.packet packet = walk.visit .immediate packet := by
  cases packet with
  | message content => rw [Walk.packet, visit]
  | bundle time elements =>
    rw [Walk.packet, visit]
    refine bind_congr fun delay => ?_
    cases delay with
    | none => exact run_singleton walk time elements
    | some delay => rfl

end Walk

namespace Dispatcher

variable (env : Surroundings) (process : Arrival → Source → Step Unit) (source : Source)

mutual

/-- What handling a packet comes to under the time tag of the bundle around it.  A bundle is due if
bundles always are, if its tag asks for delivery at once, or if the clock leaves no delay. -/
def handle (time : TimeTag) : Packet → Step Unit
  | .message m => deliver env process source time m
  | .bundle tag elements => do
    if (← get).settings.alwaysImmediate = true ∨ tag = .immediate then handleAll tag elements
    else
      match tag.delayFrom? (← now env) with
      | none => handleAll tag elements
      | some delay => defer env source tag elements delay

def handleAll (time : TimeTag) : List Packet → Step Unit
  | [] => pure ()
  | packet :: rest => do
    handle time packet
    handleAll time rest

end

variable {env process source}

theorem handle_bundle_eq_visit {tag : TimeTag} {elements : List Packet} (time : TimeTag)
    (h : handleAll env process source tag elements =
      (walk env process source).visitAll tag elements) :
    handle env process source time (.bundle tag elements) =
      (walk env process source).visit time (.bundle tag elements) := by
  rw [handle, Walk.visit, h]
  show _ = delay? env tag >>= _
  rw [delay?, bind_assoc]
  refine bind_congr fun d => ?_
  by_cases hdue : d.settings.alwaysImmediate = true ∨ tag = .immediate
  · rw [if_pos hdue, if_pos (by simpa [TimeTag.isImmediate] using hdue), pure_bind]
  · rw [if_neg hdue, if_neg (by simpa [TimeTag.isImmediate] using hdue), bind_assoc]
    refine bind_congr fun t => ?_
    rw [pure_bind]
    rfl

theorem handleAll_eq_visitAll (time : TimeTag) (packets : List Packet) :
    handleAll env process source time packets =
      (walk env process source).visitAll time packets := by
  induction packets using Packet.list_induction generalizing time with
  | nil => rfl
  | message m rest ih =>
    rw [handleAll, Walk.visitAll, ih]
    rfl
  | bundle tag elements rest ihElements ih =>
    rw [handleAll, Walk.visitAll, ih, handle_bundle_eq_visit time (ihElements tag)]

theorem handle_eq_visit (time : TimeTag) (packet : Packet) :
    handle env process source time packet = (walk env process source).visit time packet := by
  cases packet with
  | message m => rfl
  | bundle tag elements => exact handle_bundle_eq_visit time (handleAll_eq_visitAll tag elements)

/-! ### Bundles that are always due -/

/-- The bundles that were put off, the last one first. -/
def deferrals (d : Dispatcher) : List (TimeTag × List Packet × Nat) :=
  d.journal.filterMap fun
    | .deferred time elements delay => some (time, elements, delay)
    | _ => none

/-- Nothing was put off between the two states, and none of the conditions for that has changed. -/
structure NothingDeferred (d d' : Dispatcher) : Prop where
  settings : d'.settings = d.settings
  scheduler : d'.scheduler = d.scheduler
  deferrals : d'.deferrals = d.deferrals

theorem NothingDeferred.refl (d : Dispatcher) : NothingDeferred d d := ⟨rfl, rfl, rfl⟩

theorem NothingDeferred.trans {d d' d'' : Dispatcher} (h : NothingDeferred d d')
    (h' : NothingDeferred d' d'') : NothingDeferred d d'' :=
  ⟨h'.settings.trans h.settings, h'.scheduler.trans h.scheduler, h'.deferrals.trans h.deferrals⟩

/-- A step that puts nothing off where bundles are always due, even if it is broken off. -/
def NeverDefers {α : Type} : Step α → Prop :=
  Leads (fun d d' => d.settings.alwaysImmediate = true → NothingDeferred d d')
    fun _ d d' => d.settings.alwaysImmediate = true → NothingDeferred d d'

theorem nothingDeferred_note {d : Dispatcher} {occurrence : Occurrence}
    (h : occurrence.isOfListeners = true) : NothingDeferred d (d.note occurrence) := by
  refine ⟨rfl, rfl, ?_⟩
  cases occurrence with
  | deferred time elements delay => cases h
  | _ => rfl

/-- Bundles are still due behind a step that puts nothing off. -/
theorem nothingDeferred_trans {d d' d'' : Dispatcher}
    (h : d.settings.alwaysImmediate = true → NothingDeferred d d')
    (h' : d'.settings.alwaysImmediate = true → NothingDeferred d' d'')
    (hd : d.settings.alwaysImmediate = true) : NothingDeferred d d'' :=
  (h hd).trans (h' (by rw [(h hd).settings, hd]))

theorem nothingDeferred_change (tests : CustomTests) (d : Dispatcher) (caller : String)
    (change : Change) (answer : Option Bool) :
    NothingDeferred d ((d.change tests change).2.note (.changed caller change answer)) := by
  obtain ⟨registrations, badDataListeners, hchange⟩ := exists_change_eq tests d change
  rw [hchange]
  exact ⟨rfl, rfl, rfl⟩

theorem isFrame_nothingDeferred (env : Surroundings) :
    IsFrame env (fun d d' => d.settings.alwaysImmediate = true → NothingDeferred d d')
      fun _ d d' => d.settings.alwaysImmediate = true → NothingDeferred d d' :=
  .of_trans (fun d _ => .refl d) nothingDeferred_trans (fun _ _ h _ => nothingDeferred_note h)
    fun d caller change _ => nothingDeferred_change env.tests d caller change _

/-- Behind a step that puts nothing off, it is enough to look where bundles are due. -/
theorem bind_congr_of_neverDefers {α β : Type} {x y : Step α} {f g : α → Step β} {d : Dispatcher}
    (hd : d.settings.alwaysImmediate = true) (hxy : x d = y d) (hy : NeverDefers y)
    (hfg : ∀ a d', d'.settings.alwaysImmediate = true → f a d' = g a d') :
    (x >>= f) d = (y >>= g) d := by
  rcases hrun : y d with ⟨a, d'⟩ | ⟨e, d'⟩
  · rw [bind_of_eq_ok hrun, bind_of_eq_ok (hxy.trans hrun)]
    exact hfg a d' (by rw [(hy.of_eq_ok hrun hd).settings, hd])
  · rw [bind_of_eq_error hrun, bind_of_eq_error (hxy.trans hrun)]

variable (env process source) in
/-- Delivers messages in order, each under its time tag. -/
def deliverAll (messages : List (TimeTag × Message)) : Step Unit :=
  messages.forM fun (time, m) => deliver env process source time m

theorem deliverAll_cons (time : TimeTag) (m : Message) (messages : List (TimeTag × Message)) :
    deliverAll env process source ((time, m) :: messages) = (do
      deliver env process source time m
      deliverAll env process source messages) := List.forM_cons ..

theorem deliverAll_append (messages rest : List (TimeTag × Message)) :
    deliverAll env process source (messages ++ rest) = (do
      deliverAll env process source messages
      deliverAll env process source rest) := List.forM_append

theorem handle_bundle_of_alwaysImmediate (time tag : TimeTag) (elements : List Packet)
    {d : Dispatcher} (hd : d.settings.alwaysImmediate = true) :
    handle env process source time (.bundle tag elements) d =
      handleAll env process source tag elements d := by
  rw [handle]
  show (if _ then _ else _ : Step Unit) d = _
  rw [if_pos (.inl hd)]

section Listeners

variable (hprocess : ∀ arrival source, NeverDefers (process arrival source))

include hprocess

theorem neverDefers_deliver (time : TimeTag) (m : Message) :
    NeverDefers (deliver env process source time m) :=
  (isFrame_nothingDeferred env).bind (leads_modify fun _ _ => ⟨rfl, rfl, rfl⟩) fun _ =>
    (isFrame_nothingDeferred env).inform hprocess source time m

theorem neverDefers_deliverAll (messages : List (TimeTag × Message)) :
    NeverDefers (deliverAll env process source messages) :=
  (isFrame_nothingDeferred env).forM (fun (time, m) => neverDefers_deliver hprocess time m) messages

/-- Where bundles are always due, all that is done with packets is to deliver their messages. -/
theorem handleAll_of_alwaysImmediate (time : TimeTag) (packets : List Packet) {d : Dispatcher}
    (hd : d.settings.alwaysImmediate = true) :
    handleAll env process source time packets d =
      deliverAll env process source (Packet.timedAll time packets) d := by
  induction packets using Packet.list_induction generalizing time d with
  | nil => rfl
  | message m rest ih =>
    rw [handleAll, handle, Packet.timedAll, Packet.timed, List.singleton_append, deliverAll_cons]
    exact bind_congr_of_neverDefers hd rfl (neverDefers_deliver hprocess time m)
      fun _ _ hd' => ih time hd'
  | bundle tag elements rest ihElements ih =>
    rw [handleAll, Packet.timedAll, Packet.timed, deliverAll_append]
    refine bind_congr_of_neverDefers hd ?_ (neverDefers_deliverAll hprocess _)
      fun _ _ hd' => ih time hd'
    rw [handle_bundle_of_alwaysImmediate time tag elements hd]
    exact ihElements tag hd

theorem handle_of_alwaysImmediate (time : TimeTag) (packet : Packet) {d : Dispatcher}
    (hd : d.settings.alwaysImmediate = true) :
    handle env process source time packet d =
      deliverAll env process source (packet.timed time) d := by
  cases packet with
  | message m =>
    rw [handle, Packet.timed, deliverAll_cons]
    show _ = (deliver env process source time m >>= fun _ => pure ()) d
    rw [bind_pure_unit]
  | bundle tag elements =>
    rw [handle_bundle_of_alwaysImmediate time tag elements hd, Packet.timed]
    exact handleAll_of_alwaysImmediate hprocess tag elements hd

end Listeners

theorem process_packet (nesting : Nat) (packet : Packet) (source : Source) :
    Dispatcher.process env (nesting + 1) (.packet packet) source = (do
      modify fun d => d.accept packet
      handle env (Dispatcher.process env nesting) source .immediate packet) := by
  rw [Dispatcher.process, handle_eq_visit, Walk.packet_eq_visit]

theorem release_eq_handleAll (nesting : Nat) (bundle : Deferred) :
    release env nesting bundle =
      handleAll env (Dispatcher.process env nesting) bundle.source bundle.time
        bundle.elements := by
  rw [release, handleAll_eq_visitAll, Walk.run_singleton]

/-- Where bundles are always due, nothing is put off whatever arrives, and whatever the listeners
do. -/
theorem neverDefers_process (nesting : Nat) (arrival : Arrival) (source : Source) :
    NeverDefers (Dispatcher.process env nesting arrival source) := by
  induction nesting generalizing arrival source with
  | zero => exact leads_throw ((isFrame_nothingDeferred env).tooDeep)
  | succ nesting ih =>
    cases arrival with
    | failure failure => exact (isFrame_nothingDeferred env).report ih source failure
    | packet packet =>
      rw [process_packet]
      refine (isFrame_nothingDeferred env).bind (leads_modify fun _ _ => ⟨rfl, rfl, rfl⟩)
        fun _ d => ?_
      by_cases hd : d.settings.alwaysImmediate = true
      · rw [handle_of_alwaysImmediate ih .immediate packet hd]
        exact neverDefers_deliverAll ih _ d
      · split
        · exact fun hd' => absurd hd' hd
        · exact fun hd' => absurd hd' hd

/-- Dispatching a packet, and releasing a bundle that was put off, do what the recursion says.
Where bundles are always due, nothing is put off, and the messages are delivered in order. -/
theorem dispatch_eq_handle (env : Surroundings) (nesting : Nat) :
    (∀ packet source, Dispatcher.dispatch env (nesting + 1) packet source = (do
      modify fun d => d.accept packet
      handle env (Dispatcher.process env nesting) source .immediate packet)) ∧
    (∀ bundle, release env nesting bundle =
      handleAll env (Dispatcher.process env nesting) bundle.source bundle.time
        bundle.elements) ∧
    ∀ packet source (d : Dispatcher), d.settings.alwaysImmediate = true →
      Dispatcher.dispatch env (nesting + 1) packet source d =
        (do
          modify fun d => d.accept packet
          deliverAll env (Dispatcher.process env nesting) source (packet.timed .immediate)
            : Step Unit) d ∧
      NothingDeferred d (endState (Dispatcher.dispatch env (nesting + 1) packet source) d) := by
  refine ⟨process_packet nesting, release_eq_handleAll nesting, fun packet source d hd => ⟨?_, ?_⟩⟩
  · rw [dispatch, process_packet]
    exact handle_of_alwaysImmediate (neverDefers_process nesting) .immediate packet hd
  · exact (neverDefers_process (nesting + 1) (.packet packet) source).endState d hd

/-- Surroundings in which the listeners do nothing, and the clock starts in 1970. -/
def quiet : Surroundings where
  tests _ := { verdict := fun _ => false }
  clock := Surroundings.ticking ⟨0⟩
  react _ _ _ := .done

/-- A bundle around another one, with a message in front of it and one behind it. -/
def nestedBundle : Packet :=
  .bundle ⟨5⟩ [.message { address := "/a" }, .bundle ⟨7⟩ [.message { address := "/b" }],
    .message { address := "/c" }]

/-- The time tag of a moment of the year 1970, in seconds. -/
def inSeconds (seconds : UInt32) : TimeTag := .ofParts (2208988800 + seconds) 0

/-- A bundle that has to wait, around one that has to wait less long. -/
def held : Deferred where
  time := inSeconds 10
  elements := [.message { address := "/b" },
    .bundle (inSeconds 5) [.message { address := "/c" }]]
  source := none

/-- A bundle around that one, with a message in front of it and one behind it. -/
def siblings : Packet :=
  .bundle .immediate [.message { address := "/a" }, .bundle held.time held.elements,
    .message { address := "/d" }]

/-- A dispatcher with a listener for all addresses of one letter. -/
def listening : Dispatcher :=
  { new {} .empty with registrations := .ofEntries quiet.tests [⟨.address "/?", "watcher"⟩] }

def afterSiblings : Dispatcher := endState (Dispatcher.dispatch quiet 1 siblings none) listening

/-- The bundle that was put off has been taken apart. -/
def afterHeld : Dispatcher :=
  endState (release quiet 1 held) { afterSiblings with slept := 10000000000 }

/-- What the listeners were called for, the last thing first. -/
def heard (d : Dispatcher) : List (String × TimeTag × String) :=
  d.journal.filterMap fun
    | .called listener event _ => some (listener, event.time, event.message.address)
    | _ => none

theorem dispatch_nestedBundle :
    (new { alwaysImmediate := true } .empty).settings.alwaysImmediate = true ∧
    Dispatcher.dispatch quiet 1 nestedBundle none (new { alwaysImmediate := true } .empty) =
      .ok () { new { alwaysImmediate := true } .empty with
        dispatched := [nestedBundle]
        handed := [(⟨5⟩, { address := "/c" }), (⟨7⟩, { address := "/b" }),
          (⟨5⟩, { address := "/a" })] } ∧
    (do
      modify fun d => d.accept siblings
      handle quiet (Dispatcher.process quiet 0) none .immediate siblings : Step Unit) listening =
        .ok () afterSiblings ∧
    afterSiblings.heard = [("watcher", .immediate, "/d"), ("watcher", .immediate, "/a")] ∧
    afterSiblings.deferrals = [(held.time, held.elements, 10000000000)] ∧
    handleAll quiet (Dispatcher.process quiet 1) held.source held.time held.elements
      { afterSiblings with slept := 10000000000 } = .ok () afterHeld ∧
    afterHeld.heard = [("watcher", inSeconds 5, "/c"), ("watcher", held.time, "/b")] ++
      afterSiblings.heard := by
  have hdue : (new { alwaysImmediate := true } .empty).settings.alwaysImmediate = true := rfl
  obtain ⟨hdispatch, -, himmediate⟩ := dispatch_eq_handle quiet 0
  obtain ⟨-, hrelease, -⟩ := dispatch_eq_handle quiet 1
  obtain ⟨hrun, -⟩ := himmediate nestedBundle none _ hdue
  refine ⟨hdue, hrun.trans rfl, ?_, by decide +kernel, ?_, ?_, by decide +kernel⟩
  · rw [← hdispatch siblings none]
    exact eq_ok_of_interruption? (by decide +kernel)
  · with_unfolding_all rfl
  · rw [← hrelease held]
    exact eq_ok_of_interruption? (by decide +kernel)

end Dispatcher

end OpenSound
