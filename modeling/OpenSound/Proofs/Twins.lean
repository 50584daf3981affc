import OpenSound.Proofs.Conservation

/-!
# Two dispatchers side by side

`Agree R s s'` says of two steps that they end in the same way, with one answer or for one reason,
wherever they begin in states that `R` relates, and that the states in which they end are related
again.  Packets may differ in their messages as far as a function on messages does not see
(`Packet.map`).  `IsTwin` collects what is asked of a relation for such packets to be dealt with
alike (`IsTwin.process`), and bundles that were put off to be taken apart alike (`IsTwin.fire`);
what has to be shown for each relation is how it bears the single changes, and the calls of
listeners.
-/

namespace OpenSound

/-! ### Packets with other messages -/

namespace Packet

variable (g : Message → Message)

mutual

/-- The packet with the function applied to every message in it. -/
def map : Packet → Packet
  | message m => message (g m)
  | bundle time elements => bundle time (mapAll elements)

def mapAll : List Packet → List Packet
  | [] => []
  | packet :: rest => packet.map :: mapAll rest

end

theorem mapAll_id (packets : List Packet) : mapAll id packets = packets := by
  induction packets using list_induction with
  | nil => rfl
  | message m rest ih => rw [mapAll, map, ih, id]
  | bundle time elements rest ihElements ih => rw [mapAll, map, ihElements, ih]

theorem map_id (packet : Packet) : packet.map id = packet := by
  cases packet with
  | message m => rfl
  | bundle time elements => rw [map, mapAll_id]

section Map

variable {g} {m : Message} {time : TimeTag} {elements rest packets' : List Packet}
  {packet packet' : Packet}

theorem exists_of_map_message (h : (message m).map g = packet'.map g) :
    ∃ m', packet' = message m' ∧ g m = g m' := by
  cases packet' with
  | message m' => exact ⟨m', rfl, message.inj h⟩
  | bundle time' elements' => cases h

theorem exists_of_map_bundle (h : (bundle time elements).map g = packet'.map g) :
    ∃ elements', packet' = bundle time elements' ∧ mapAll g elements = mapAll g elements' := by
  cases packet' with
  | message m' => cases h
  | bundle time' elements' =>
    obtain ⟨rfl, helements⟩ := bundle.inj h
    exact ⟨elements', rfl, helements⟩

theorem exists_of_mapAll_cons (h : mapAll g (packet :: rest) = mapAll g packets') :
    ∃ packet' rest', packets' = packet' :: rest' ∧ packet.map g = packet'.map g ∧
      mapAll g rest = mapAll g rest' := by
  cases packets' with
  | nil => cases h
  | cons packet' rest' => exact ⟨packet', rest', rfl, List.cons.inj h⟩

end Map

end Packet

namespace Dispatcher

/-! ### Steps that agree -/

/-- Ends of the same kind, with one answer or for one reason, in states that are related. -/
inductive Ends (R : Dispatcher → Dispatcher → Prop) {α : Type} :
    EStateM.Result Interruption Dispatcher α → EStateM.Result Interruption Dispatcher α → Prop
  | ok (a : α) {d d' : Dispatcher} : R d d' → Ends R (.ok a d) (.ok a d')
  | error (e : Interruption) {d d' : Dispatcher} : R d d' → Ends R (.error e d) (.error e d')

/-- Steps that end alike where they began alike. -/
def Agree (R : Dispatcher → Dispatcher → Prop) {α : Type} (s s' : Step α) : Prop :=
  ∀ d d', R d d' → Ends R (s d) (s' d')

section Agree

variable {R : Dispatcher → Dispatcher → Prop} {α β : Type} {x x' : Step α} {f f' : α → Step β}

theorem Ends.endState {d d' : Dispatcher} (h : Ends R (x d) (x' d')) :
    R (endState x d) (endState x' d') := by
  rw [Dispatcher.endState, Dispatcher.endState]
  generalize x d = result at h ⊢
  generalize x' d' = result' at h ⊢
  cases h with
  | ok a hd => exact hd
  | error e hd => exact hd

theorem agree_pure (a : α) : Agree R (pure a) (pure a) := fun _ _ h => .ok a h

theorem agree_throw (e : Interruption) : Agree R (throw e : Step α) (throw e) :=
  fun _ _ h => .error e h

theorem agree_modify {change change' : Dispatcher → Dispatcher}
    (h : ∀ d d', R d d' → R (change d) (change' d')) :
    Agree R (modify change) (modify change') := fun d d' hd => .ok _ (h d d' hd)

theorem Ends.bind {d d' : Dispatcher} (hx : Ends R (x d) (x' d'))
    (hf : ∀ a, Agree R (f a) (f' a)) : Ends R ((x >>= f) d) ((x' >>= f') d') := by
  show Ends R (EStateM.bind x f d) (EStateM.bind x' f' d')
  rw [EStateM.bind, EStateM.bind]
  generalize x d = result at hx ⊢
  generalize x' d' = result' at hx ⊢
  cases hx with
  | ok a h => exact hf a _ _ h
  | error e h => exact .error e h

theorem Agree.bind (hx : Agree R x x') (hf : ∀ a, Agree R (f a) (f' a)) :
    Agree R (x >>= f) (x' >>= f') := fun d d' h => (hx d d' h).bind hf

/-- Behind a look at the states, these are known to be related. -/
theorem agree_get_bind {y y' : Dispatcher → Step α}
    (h : ∀ d d', R d d' → Ends R (y d d) (y' d' d')) :
    Agree R (get >>= y) (get >>= y') := h

theorem Agree.forM {γ : Type} {f f' : γ → Step PUnit} {as : List γ}
    (hf : ∀ a ∈ as, Agree R (f a) (f' a)) : Agree R (as.forM f) (as.forM f') := by
  induction as with
  | nil => exact agree_pure _
  | cons a as ih =>
    refine (hf a List.mem_cons_self).bind fun _ => ?_
    exact ih fun b hb => hf b (List.mem_cons_of_mem _ hb)

theorem Agree.answered {s s' : Step Unit} (h : Agree R s s') :
    Agree R (answered s) (answered s') := by
  intro d d' hd
  rw [Dispatcher.answered, Dispatcher.answered]
  have hends := h d d' hd
  generalize s d = result at hends ⊢
  generalize s' d' = result' at hends ⊢
  cases hends with
  | ok a hd' => exact .ok _ hd'
  | error e hd' =>
    cases e with
    | failed error => exact .ok _ hd'
    | panicked text => exact .error _ hd'
    | tooDeep => exact .error _ hd'

end Agree

/-! ### Relations between dispatchers -/

/-- A relation between dispatchers that deal alike with whatever arrives, where arrivals are told
apart no further than `like` does, and messages no further than `g` does. -/
structure IsTwin (env : Surroundings) (g : Message → Message) (like : Arrival → Arrival → Prop)
    (R : Dispatcher → Dispatcher → Prop) : Prop where
  packet {p : Packet} {arrival : Arrival} :
    like (.packet p) arrival → ∃ p', arrival = .packet p' ∧ p.map g = p'.map g
  failure {f : Malformed} {arrival : Arrival} :
    like (.failure f) arrival → ∃ f', arrival = .failure f' ∧
      ∀ process process' : Arrival → Source → Step Unit,
        (∀ a a', like a a' → ∀ source, Agree R (process a source) (process' a' source)) →
        ∀ source, Agree R (report env process source f) (report env process' source f')
  settings {d d' : Dispatcher} : R d d' → d.settings = d'.settings
  registrations {d d' : Dispatcher} : R d d' → d.registrations = d'.registrations
  isShutDown {d d' : Dispatcher} : R d d' → d.scheduler.isShutDown = d'.scheduler.isShutDown
  readings {d d' : Dispatcher} : R d d' → d.readings = d'.readings
  slept {d d' : Dispatcher} : R d d' → d.slept = d'.slept
  read {d d' : Dispatcher} :
    R d d' → R { d with readings := d.readings + 1 } { d' with readings := d'.readings + 1 }
  accept {d d' : Dispatcher} {p p' : Packet} :
    R d d' → p.map g = p'.map g → R (d.accept p) (d'.accept p')
  handOver {d d' : Dispatcher} (time : TimeTag) {m m' : Message} :
    R d d' → g m = g m' → R (d.handOver time m) (d'.handOver time m')
  holdBack {d d' : Dispatcher} (source : Source) (time : TimeTag) {elements elements' : List Packet}
    (delay : Nat) (deadline : Instant) :
    R d d' → Packet.mapAll g elements = Packet.mapAll g elements' →
      R (d.holdBack ⟨time, elements, source⟩ delay deadline)
        (d'.holdBack ⟨time, elements', source⟩ delay deadline)
  withTypeTags {d d' : Dispatcher} {m m' : Message} :
    R d d' → g m = g m' → g (d.withTypeTags m) = g (d'.withTypeTags m')
  selects {d d' : Dispatcher} {r : Registration} {m m' : Message} :
    R d d' → r ∈ d.registrations.entries → g m = g m' →
      Agree R (selects env r.selector m) (selects env r.selector m')
  /-- Listeners that are told of a message do the same. -/
  call {process process' : Arrival → Source → Step Unit}
    (hprocess : ∀ a a', like a a' → ∀ source, Agree R (process a source) (process' a' source))
    (listener : String) (source : Source) (time : TimeTag) {m m' : Message} :
    g m = g m' →
      Agree R (call env process listener (.message ⟨source, time, m⟩))
        (call env process' listener (.message ⟨source, time, m'⟩))

namespace IsTwin

variable {env : Surroundings} {g : Message → Message} {like : Arrival → Arrival → Prop}
  {R : Dispatcher → Dispatcher → Prop} (twin : IsTwin env g like R)

include twin

theorem now : Agree R (now env) (now env) := by
  intro d d' h
  have hmoment : d.moment env = d'.moment env := by
    rw [moment, moment, twin.readings h, twin.slept h]
  rw [now_eq_ok, now_eq_ok, hmoment]
  exact .ok _ (twin.read h)

theorem defer (source : Source) (time : TimeTag) {elements elements' : List Packet}
    (h : Packet.mapAll g elements = Packet.mapAll g elements') (delay : Nat) :
    Agree R (defer env source time elements delay) (defer env source time elements' delay) := by
  intro d d' hd
  have hmoment : d.moment env = d'.moment env := by
    rw [moment, moment, twin.readings hd, twin.slept hd]
  rw [defer_apply, defer_apply, ← twin.isShutDown hd, ← hmoment]
  have hread := twin.read hd
  rw [← twin.readings hd] at hread ⊢
  split_ifs
  · exact .ok _ (twin.holdBack source time delay _ hread h)
  · exact .error _ hread

section Packets

variable {process process' : Arrival → Source → Step Unit} {source : Source}

theorem handle_bundle {tag : TimeTag} {elements elements' : List Packet} (time : TimeTag)
    (h : Packet.mapAll g elements = Packet.mapAll g elements')
    (hall : Agree R (handleAll env process source tag elements)
      (handleAll env process' source tag elements')) :
    Agree R (handle env process source time (.bundle tag elements))
      (handle env process' source time (.bundle tag elements')) := by
  rw [handle, handle]
  refine agree_get_bind fun d d' hd => ?_
  rw [twin.settings hd]
  split_ifs
  · exact hall d d' hd
  · refine twin.now.bind (fun t => ?_) d d' hd
    split
    · exact hall
    · exact twin.defer source tag h _

variable (hprocess : ∀ a a', like a a' → ∀ source, Agree R (process a source) (process' a' source))

include hprocess

theorem inform (time : TimeTag) {m m' : Message} (hm : g m = g m') :
    Agree R (inform env process source time m) (inform env process' source time m') := by
  refine agree_get_bind fun d d' hd => ?_
  have hmessage : g (if d.registrations.infoRequired then d.withTypeTags m else m) =
      g (if d.registrations.infoRequired then d'.withTypeTags m' else m') := by
    split_ifs
    · exact twin.withTypeTags hd hm
    · exact hm
  have hoffer : ∀ registration ∈ d.registrations.entries, Agree R
      (offer env process
        ⟨source, time, if d.registrations.infoRequired then d.withTypeTags m else m⟩ registration)
      (offer env process'
        ⟨source, time, if d.registrations.infoRequired then d'.withTypeTags m' else m'⟩
        registration) := by
    intro registration hmem
    refine (twin.selects hd hmem hmessage).bind fun selected => ?_
    cases selected with
    | true => exact twin.call hprocess registration.listener source time hmessage
    | false => exact agree_pure _
  rw [← twin.registrations hd]
  exact Agree.forM hoffer d d' hd

theorem deliver (time : TimeTag) {m m' : Message} (hm : g m = g m') :
    Agree R (deliver env process source time m) (deliver env process' source time m') :=
  (agree_modify fun _ _ hd => twin.handOver time hd hm).bind fun _ =>
    twin.inform hprocess time hm

theorem handleAll (time : TimeTag) {packets packets' : List Packet}
    (h : Packet.mapAll g packets = Packet.mapAll g packets') :
    Agree R (handleAll env process source time packets)
      (handleAll env process' source time packets') := by
  induction packets using Packet.list_induction generalizing time packets' with
  | nil =>
    cases packets' with
    | nil => exact agree_pure _
    | cons packet' rest' => cases h
  | message m rest ih =>
    obtain ⟨packet', rest', rfl, hpacket, hrest⟩ := Packet.exists_of_mapAll_cons h
    obtain ⟨m', rfl, hm⟩ := Packet.exists_of_map_message hpacket
    rw [Dispatcher.handleAll, Dispatcher.handleAll, Dispatcher.handle, Dispatcher.handle]
    exact (twin.deliver hprocess time hm).bind fun _ => ih time hrest
  | bundle tag elements rest ihElements ih =>
    obtain ⟨packet', rest', rfl, hpacket, hrest⟩ := Packet.exists_of_mapAll_cons h
    obtain ⟨elements', rfl, helements⟩ := Packet.exists_of_map_bundle hpacket
    rw [Dispatcher.handleAll, Dispatcher.handleAll]
    exact (twin.handle_bundle time helements (ihElements tag helements)).bind fun _ => ih time hrest

theorem handle (time : TimeTag) {packet packet' : Packet} (h : packet.map g = packet'.map g) :
    Agree R (handle env process source time packet) (handle env process' source time packet') := by
  cases packet with
  | message m =>
    obtain ⟨m', rfl, hm⟩ := Packet.exists_of_map_message h
    rw [Dispatcher.handle, Dispatcher.handle]
    exact twin.deliver hprocess time hm
  | bundle tag elements =>
    obtain ⟨elements', rfl, helements⟩ := Packet.exists_of_map_bundle h
    exact twin.handle_bundle time helements (twin.handleAll hprocess tag helements)

end Packets

/-- What arrives is dealt with alike. -/
theorem process (nesting : Nat) {arrival arrival' : Arrival} (h : like arrival arrival')
    (source : Source) :
    Agree R (Dispatcher.process env nesting arrival source)
      (Dispatcher.process env nesting arrival' source) := by
  induction nesting generalizing arrival arrival' source with
  | zero => exact agree_throw _
  | succ nesting ih =>
    cases arrival with
    | failure failure =>
      obtain ⟨failure', rfl, hreport⟩ := twin.failure h
      exact hreport _ _ (fun _ _ h' source => ih h' source) source
    | packet packet =>
      obtain ⟨packet', rfl, hpacket⟩ := twin.packet h
      rw [process_packet, process_packet]
      exact (agree_modify fun _ _ hd => twin.accept hd hpacket).bind fun _ =>
        twin.handle (fun _ _ h' source => ih h' source) .immediate hpacket

theorem release (nesting : Nat) {bundle bundle' : Deferred} (htime : bundle.time = bundle'.time)
    (hsource : bundle.source = bundle'.source)
    (helements : Packet.mapAll g bundle.elements = Packet.mapAll g bundle'.elements) :
    Agree R (release env nesting bundle) (release env nesting bundle') := by
  rw [release_eq_handleAll, release_eq_handleAll, htime, hsource]
  exact twin.handleAll (fun _ _ h source => twin.process nesting h source) bundle'.time helements

end IsTwin

/-! ### Bundles that are fired -/

/-- The dispatcher as it starts a task. -/
def started (d : Dispatcher) (scheduler : Scheduler Deferred) : Dispatcher :=
  { d with readings := d.readings + 1, scheduler }

/-- Relations that hold across the start and the end of tasks, besides. -/
structure IsLastingTwin (env : Surroundings) (g : Message → Message)
    (like : Arrival → Arrival → Prop) (R : Dispatcher → Dispatcher → Prop) : Prop
    extends IsTwin env g like R where
  start_eq_none {d d' : Dispatcher} {t : Instant} {index : Nat} :
    R d d' → d.scheduler.start? t index = none → d'.scheduler.start? t index = none
  start_eq_some {d d' : Dispatcher} {t : Instant} {index : Nat} {bundle : Deferred}
    {scheduler : Scheduler Deferred} :
    R d d' → d.scheduler.start? t index = some (bundle, scheduler) →
      ∃ bundle' scheduler', d'.scheduler.start? t index = some (bundle', scheduler') ∧
        bundle.time = bundle'.time ∧ bundle.source = bundle'.source ∧
        Packet.mapAll g bundle.elements = Packet.mapAll g bundle'.elements ∧
        R (d.started scheduler) (d'.started scheduler')
  finish {d d' : Dispatcher} :
    R d d' →
      R { d with scheduler := d.scheduler.finish } { d' with scheduler := d'.scheduler.finish }
  wait {d d' : Dispatcher} (readings nanos : Nat) :
    R d d' →
      R { d with readings := d.readings + readings, slept := d.slept + nanos }
        { d' with readings := d'.readings + readings, slept := d'.slept + nanos }

variable (env : Surroundings) in
/-- Waits for so many nanoseconds and then fires a task, time and again. -/
def fireAll (nesting : Nat) : List (Nat × Nat) → Step Unit
  | [] => pure ()
  | (nanos, index) :: rest => do
    modify fun d => { d with slept := d.slept + nanos }
    discard (fire env nesting index)
    fireAll nesting rest

namespace IsLastingTwin

variable {env : Surroundings} {g : Message → Message} {like : Arrival → Arrival → Prop}
  {R : Dispatcher → Dispatcher → Prop} (twin : IsLastingTwin env g like R)

include twin

theorem ended {result result' : EStateM.Result Interruption Dispatcher Unit}
    (h : Ends R result result') : Ends R (ended result) (ended result') := by
  cases h with
  | ok a hd => exact .ok true (twin.finish hd)
  | error e hd =>
    cases e with
    | panicked text => exact .ok true (twin.finish hd)
    | failed error => exact .ok true (twin.finish hd)
    | tooDeep => exact .error .tooDeep (twin.finish hd)

/-- Bundles that were put off are taken apart alike. -/
theorem fire (nesting index : Nat) : Agree R (fire env nesting index) (fire env nesting index) := by
  intro d d' hd
  have hmoment : d.moment env = d'.moment env := by
    rw [moment, moment, twin.readings hd, twin.slept hd]
  rcases hstart : d.scheduler.start? (d.moment env) index with _ | ⟨bundle, scheduler⟩
  · have hstart' := twin.start_eq_none hd hstart
    rw [hmoment] at hstart'
    rw [fire_of_start?_eq_none hstart, fire_of_start?_eq_none hstart']
    exact .ok false (twin.read hd)
  · obtain ⟨bundle', scheduler', hstart', htime, hsource, helements, hstarted⟩ :=
      twin.start_eq_some hd hstart
    rw [hmoment] at hstart'
    rw [fire_eq_ended hstart, fire_eq_ended hstart']
    exact twin.ended (twin.release nesting htime hsource helements _ _ hstarted)

theorem fireAll (nesting : Nat) (turns : List (Nat × Nat)) :
    Agree R (fireAll env nesting turns) (fireAll env nesting turns) := by
  induction turns with
  | nil => exact agree_pure _
  | cons turn rest ih =>
    exact (agree_modify fun _ _ hd => twin.wait 0 turn.1 hd).bind fun _ =>
      ((twin.fire nesting turn.2).bind fun _ => agree_pure _).bind fun _ => ih

end IsLastingTwin

end Dispatcher

end OpenSound
