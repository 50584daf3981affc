import OpenSound.Proofs.Apart
import OpenSound.Proofs.Interruption
import OpenSound.Receiver

/-!
# Bad data beside good data

A receiver tells its packet listeners of every buffer, one after the other: of the packet, or else
of the failure.  Nothing keeps a listener from its turn but that one before it was broken off
(`Receiver.forM_tell`), and where no listener panics, that comes of nothing but calls that go too
deep (`Receiver.leads_receive_isCalm`).  Where listeners keep bad data apart, buffers that can be
read lead to the same, whatever came between them (`Receiver.undisturbed_takeAll`).
-/

namespace OpenSound

/-- The packet that a packet listener was told of. -/
def Occurrence.reception? : Occurrence → Option (PacketListener × Source × Packet)
  | told listener source (.packet packet) => some (listener, source, packet)
  | _ => none

/-- No listener panics. -/
def Surroundings.IsCalm (env : Surroundings) : Prop :=
  ∀ listener journal notice, (env.react listener journal notice).IsCalm

namespace Dispatcher

/-- What packet listeners were told, the last thing first. -/
def tellings (d : Dispatcher) : List Occurrence := d.journal.filter Occurrence.isTelling

/-- The packets that packet listeners were told of, the last one first. -/
def receptions (d : Dispatcher) : List (PacketListener × Source × Packet) :=
  d.journal.filterMap Occurrence.reception?

theorem Onward.tellings {tests : CustomTests} {d d' : Dispatcher} (h : Onward tests d d') :
    d'.tellings = d.tellings := by
  obtain ⟨since, hsince, hnone⟩ := h.journal
  have hfilter : since.filter Occurrence.isTelling = [] :=
    List.filter_eq_nil_iff.2 fun o ho => by
      rw [hnone o ho]
      decide
  rw [Dispatcher.tellings, hsince, List.filter_append, hfilter]
  rfl

theorem Undisturbed.calls {d d' : Dispatcher} (h : Undisturbed d d') : d.calls = d'.calls :=
  h.eq Dispatcher.calls fun d => filterMap_hushed d fun o ho => by
    cases o <;> first | rfl | cases ho

theorem Undisturbed.deferrals {d d' : Dispatcher} (h : Undisturbed d d') :
    d.deferrals = d'.deferrals :=
  h.eq Dispatcher.deferrals fun d => filterMap_hushed d fun o ho => by
    cases o <;> first | rfl | cases ho

theorem Undisturbed.receptions {d d' : Dispatcher} (h : Undisturbed d d') :
    d.receptions = d'.receptions :=
  h.eq Dispatcher.receptions fun d => filterMap_hushed d fun o ho => by
    cases o with
    | told listener source arrival =>
      cases arrival with
      | packet packet => cases ho
      | failure failure => rfl
    | _ => rfl

/-! ### Listeners that do not panic -/

section IsCalm

variable {env : Surroundings}

theorem neverPanics_process (henv : env.IsCalm) (nesting : Nat) (arrival : Arrival)
    (source : Source) : NeverPanics (process env nesting arrival source) := by
  have hgoes : env.GoesOn env.react :=
    fun listener journal notice => (henv listener journal notice).goesOn
  exact (cutsShort_process hgoes.reacting nesting arrival source).neverPanics hgoes

theorem isPath_tooDeep : IsPath (fun _ _ => True) fun e _ _ => e = .tooDeep where
  refl _ := trivial
  trans _ _ := trivial
  trans_brokenOff _ := id

theorem leads_answered_of_neverPanics {s : Step Unit} (h : NeverPanics s) :
    Leads (fun _ _ => True) (fun e _ _ => e = .tooDeep) (answered s) := by
  intro d
  rcases hrun : s d with ⟨_, d'⟩ | ⟨e, d'⟩
  · rw [answered_of_eq_ok hrun]
    trivial
  · cases e with
    | panicked text => exact absurd hrun (h d text d')
    | failed error =>
      rw [answered_of_eq_failed hrun]
      trivial
    | tooDeep => rw [answered_of_eq_error hrun nofun]

theorem leads_follow_isCalm {process : Arrival → Source → Step Unit}
    (hprocess : ∀ arrival source, NeverPanics (process arrival source)) (caller : String)
    {reaction : Reaction} (h : reaction.IsCalm) :
    Leads (fun _ _ => True) (fun e _ _ => e = .tooDeep) (follow env process caller reaction) := by
  induction h with
  | done => exact leads_pure isPath_tooDeep.refl _
  | @ask action next _ ih =>
    refine isPath_tooDeep.bind (x := perform env process caller action) ?_ ih
    cases action with
    | change change => exact fun _ => trivial
    | process arrival source => exact leads_answered_of_neverPanics (hprocess arrival source)
    | inspect => exact fun _ => trivial

end IsCalm

end Dispatcher

/-! ### Buffers -/

namespace Receiver

open Dispatcher

section Tellings

variable (env : Surroundings) (nesting : Nat) (source : Source) (arrival : Arrival)

/-- What comes of it when a listener is told something tells no packet listener of anything. -/
theorem leads_tell (listener : PacketListener) :
    Leads (fun d d' => d'.tellings = .told listener source arrival :: d.tellings)
      (fun _ d d' => d'.tellings = .told listener source arrival :: d.tellings)
      (tell env nesting source arrival listener) := by
  have onward := isRunFrame_onward env
  have hnote : Leads (fun d d' => d' = d.note (.told listener source arrival)) (fun _ _ _ => False)
      (modify fun d => d.note (.told listener source arrival)) := fun _ => rfl
  have hseq {s : Step Unit} (hs : LeadsTo (Onward env.tests) s) :
      Leads (fun d d' => d'.tellings = .told listener source arrival :: d.tellings)
        (fun _ d d' => d'.tellings = .told listener source arrival :: d.tellings)
        (do modify fun d => d.note (.told listener source arrival); s) := by
    refine hnote.bind (fun _ => hs) ?_ (fun _ _ _ => False.elim) ?_
    · rintro d _ d' rfl h
      exact h.tellings
    · rintro e d _ d' rfl h
      exact h.tellings
  cases listener with
  | dispatcher =>
    exact hseq (onward.bind ((onward.process nesting arrival source).answered onward.caught)
      fun _ => leads_pure onward.refl ())
  | user name =>
    intro d
    exact hseq (onward.follow (onward.process nesting) name
      (env.react name d.journal (.arrival source arrival))) d

/-- The listeners are told one after the other.  One that is broken off keeps those behind it from
being told. -/
theorem forM_tell (listeners : List PacketListener) (d : Dispatcher) :
    (∃ d', listeners.forM (tell env nesting source arrival) d = .ok () d' ∧
      d'.tellings = (listeners.map (.told · source arrival)).reverse ++ d.tellings) ∨
    ∃ told listener rest e before d', listeners = told ++ listener :: rest ∧
      tell env nesting source arrival listener before = .error e d' ∧
      listeners.forM (tell env nesting source arrival) d = .error e d' ∧
      d'.tellings = ((told ++ [listener]).map (.told · source arrival)).reverse ++ d.tellings := by
  induction listeners generalizing d with
  | nil => exact .inl ⟨d, rfl, rfl⟩
  | cons listener rest ih =>
    rcases hrun : tell env nesting source arrival listener d with ⟨_, d'⟩ | ⟨e, d'⟩
    · have htold := (leads_tell env nesting source arrival listener).of_eq_ok hrun
      rw [forM_cons_of_eq_ok hrun]
      rcases ih d' with
        ⟨d'', hrest, htold'⟩ | ⟨told, last, others, e, before, d'', rfl, htell, hrest, htold'⟩
      · refine .inl ⟨d'', hrest, ?_⟩
        rw [htold', htold, List.map_cons, List.reverse_cons, List.append_assoc]
        rfl
      · refine .inr ⟨listener :: told, last, others, e, before, d'', rfl, htell, hrest, ?_⟩
        rw [htold', htold, List.cons_append, List.map_cons, List.reverse_cons, List.append_assoc]
        rfl
    · have htold := (leads_tell env nesting source arrival listener).of_eq_error hrun
      exact .inr ⟨[], listener, rest, e, d, d', rfl, hrun, forM_cons_of_eq_error hrun, htold⟩

/-- Where no listener panics, none that is told is broken off, unless calls go too deep. -/
theorem leads_receive_isCalm {env : Surroundings} (henv : env.IsCalm) (r : Receiver)
    (data : Bytes) :
    Leads (fun _ _ => True) (fun e _ _ => e = .tooDeep) (r.receive env nesting data source) := by
  have path := isPath_tooDeep
  refine path.bind (path.forM (fun listener => ?_) r.listeners) fun _ => leads_pure path.refl _
  cases listener with
  | dispatcher =>
    refine path.bind (leads_modify path.refl) fun _ => path.bind ?_ fun _ => leads_pure path.refl _
    exact leads_answered_of_neverPanics (neverPanics_process henv nesting _ source)
  | user name =>
    exact fun d => leads_follow_isCalm (neverPanics_process henv nesting) name (henv name _ _) _

end Tellings

section Apart

variable {env : Surroundings} (henv : env.KeepsApart) (nesting : Nat) (source : Source)
  {r : Receiver} {data : Bytes}

include henv

/-- A buffer that cannot be read disturbs nothing. -/
theorem leads_receive_failure {failure : Malformed} (h : r.codec.decode data = .error failure) :
    LeadsTo Undisturbed (r.receive env nesting data source) := by
  have path := isPath_undisturbed
  have hprocess := leads_process_failure henv nesting
  have harrival : r.codec.arrival data = .failure failure := by rw [Codec.arrival, h]
  rw [receive, harrival]
  refine path.bind (path.forM (fun listener => ?_) r.listeners) fun _ => leads_pure path.refl _
  cases listener with
  | dispatcher =>
    refine path.bind (leads_modify fun d => ?_) fun _ => path.bind ?_ fun _ =>
      leads_pure path.refl _
    · exact (hushed_note_of_isOfBadData rfl).symm
    · exact (hprocess failure source).answered fun _ _ _ => id
  | user name => exact leads_call_badData hprocess henv name rfl

/-- A buffer that can be read leads to the same, whatever there was of bad data. -/
theorem agree_receive {packet : Packet} (h : r.codec.decode data = .ok packet) :
    Agree Undisturbed (r.receive env nesting data source) (r.receive env nesting data source) := by
  have twin := (isLastingTwin_undisturbed henv).toIsTwin
  have harrival : r.codec.arrival data = .packet packet := by rw [Codec.arrival, h]
  rw [receive, harrival]
  refine (Agree.forM fun listener _ => ?_).bind fun _ => agree_pure _
  cases listener with
  | dispatcher =>
    have hnote : Agree Undisturbed
        (modify fun d => d.note (.told .dispatcher source (.packet packet)))
        (modify fun d => d.note (.told .dispatcher source (.packet packet))) :=
      agree_modify_hushed fun _ => hushed_note rfl
    refine hnote.bind fun _ => ?_
    exact (twin.process nesting ⟨rfl, rfl⟩ source).answered.bind fun _ => agree_pure _
  | user name =>
    exact agree_call_hushed (fun _ _ h source => twin.process nesting h source) henv name rfl

end Apart

/-- A failure tells of the whole buffer, however deep the fault lies. -/
theorem data_of_decode_eq_error {codec : Codec} {data : Bytes} {failure : Malformed}
    (h : codec.decode data = .error failure) : failure.data = data := by
  rw [Codec.decode] at h
  rcases hdecode : codec.decodeWithin codec.limits.maxBundleDepth data with cause | packet
  · rw [hdecode] at h
    cases h
    rfl
  · rw [hdecode] at h
    cases h

/-! ### One buffer after the other -/

/-- What happens while buffers arrive. -/
inductive Turn where
  | receive (data : Bytes) (source : Source)
  | listen (registrations : Registrations) (badDataListeners : List String)
  | wait (readings nanos : Nat)
  | fire (index : Nat)

/-- Whether it is no buffer that cannot be read. -/
def isGood (r : Receiver) : Turn → Bool
  | .receive data _ => (r.codec.decode data).isOk
  | _ => true

/-- The state behind a turn, even if it was broken off. -/
def take (env : Surroundings) (nesting : Nat) (r : Receiver) (d : Dispatcher) : Turn → Dispatcher
  | .receive data source => endState (r.receive env nesting data source) d
  | .listen registrations badDataListeners => { d with registrations, badDataListeners }
  | .wait readings nanos => { d with readings := d.readings + readings, slept := d.slept + nanos }
  | .fire index => endState (Dispatcher.fire env nesting index) d

/-- The state behind turns that were taken one after the other. -/
def takeAll (env : Surroundings) (nesting : Nat) (r : Receiver) (turns : List Turn)
    (d : Dispatcher) : Dispatcher := turns.foldl (take env nesting r) d

theorem takeAll_cons (env : Surroundings) (nesting : Nat) (r : Receiver) (turn : Turn)
    (turns : List Turn) (d : Dispatcher) :
    r.takeAll env nesting (turn :: turns) d =
      r.takeAll env nesting turns (r.take env nesting d turn) := rfl

section Turns

variable {env : Surroundings} {nesting : Nat} {r : Receiver} {turn : Turn} {d d' : Dispatcher}
  (henv : env.KeepsApart)

include henv

theorem undisturbed_take_of_isGood_eq_false (h : r.isGood turn = false) (d : Dispatcher) :
    Undisturbed d (r.take env nesting d turn) := by
  cases turn with
  | receive data source =>
    rcases hdecode : r.codec.decode data with failure | packet
    · exact (leads_receive_failure henv nesting source hdecode).endState d
    · rw [isGood, hdecode] at h
      cases h
  | _ => cases h

theorem undisturbed_take (hd : Undisturbed d d') (h : r.isGood turn = true) :
    Undisturbed (r.take env nesting d turn) (r.take env nesting d' turn) := by
  cases turn with
  | receive data source =>
    rcases hdecode : r.codec.decode data with failure | packet
    · rw [isGood, hdecode] at h
      cases h
    · exact (agree_receive henv nesting source hdecode _ _ hd).endState
  | listen registrations badDataListeners =>
    -- the listeners for bad data are forgotten anyway
    exact hd.map (fun d => { d with registrations }) fun _ => rfl
  | wait readings nanos => exact (isLastingTwin_undisturbed henv).wait readings nanos hd
  | fire index => exact ((isLastingTwin_undisturbed henv).fire nesting index _ _ hd).endState

/-- Buffers that cannot be read may as well be left out. -/
theorem undisturbed_takeAll (turns : List Turn) (hd : Undisturbed d d') :
    Undisturbed (r.takeAll env nesting turns d)
      (r.takeAll env nesting (turns.filter r.isGood) d') := by
  induction turns generalizing d d' with
  | nil => exact hd
  | cons turn turns ih =>
    rw [takeAll_cons]
    by_cases hgood : r.isGood turn = true
    · rw [List.filter_cons_of_pos hgood, takeAll_cons]
      exact ih (undisturbed_take henv hd hgood)
    · rw [List.filter_cons_of_neg hgood]
      have hturn : Undisturbed d (r.take env nesting d turn) :=
        undisturbed_take_of_isGood_eq_false henv (Bool.eq_false_iff.2 hgood) d
      exact ih (hturn.symm.trans hd)

end Turns

/-- Each buffer has the packet listeners told, each once and in order, of the packet, or else of the
failure that is the answer, and that has the whole buffer.  Only where a listener is broken off are
those behind it not told, and where no listener panics, that comes of nothing but calls that go too
deep.  If the listeners keep bad data apart, a buffer that cannot be read changes nothing else:
nothing is dispatched, handed to listeners or put off.  Without such buffers among the others, the
same packets are told of, the same listeners are called, and the same bundles are put off. -/
theorem bad_data_disturbs_nothing (env : Surroundings) (nesting : Nat) (r : Receiver) :
    (∀ data source d,
      let arrival := r.codec.arrival data
      let told listeners := (listeners.map (Occurrence.told · source arrival)).reverse
      ((∃ d', r.receive env nesting data source d = .ok arrival.failure? d' ∧
          d'.tellings = told r.listeners ++ d.tellings) ∨
        ∃ front listener rest e before d', r.listeners = front ++ listener :: rest ∧
          tell env nesting source arrival listener before = .error e d' ∧
          r.receive env nesting data source d = .error e d' ∧
          d'.tellings = told (front ++ [listener]) ++ d.tellings) ∧
      (env.IsCalm → interruption? (r.receive env nesting data source) d ≠ some .tooDeep →
        ∃ d', r.receive env nesting data source d = .ok arrival.failure? d' ∧
          d'.tellings = told r.listeners ++ d.tellings)) ∧
    (∀ data packet, r.codec.decode data = .ok packet → r.codec.arrival data = .packet packet) ∧
    (∀ data failure, r.codec.decode data = .error failure →
      r.codec.arrival data = .failure failure ∧ failure.data = data) ∧
    (env.KeepsApart →
      (∀ data failure source d, r.codec.decode data = .error failure →
        (endState (r.receive env nesting data source) d).hushed = d.hushed) ∧
      ∀ turns d,
        let all := r.takeAll env nesting turns d
        let good := r.takeAll env nesting (turns.filter r.isGood) d
        all.receptions = good.receptions ∧ all.calls = good.calls ∧ all.deferrals = good.deferrals ∧
          all.hushed = good.hushed) := by
  refine ⟨fun data source d => ?_, fun data packet hdecode => by rw [Codec.arrival, hdecode],
    fun data failure hdecode => ⟨by rw [Codec.arrival, hdecode], data_of_decode_eq_error hdecode⟩,
    fun henv => ⟨fun data failure source d hdecode => ?_, fun turns d => ?_⟩⟩
  · have htells := forM_tell env nesting source (r.codec.arrival data) r.listeners d
    rcases htells with
      ⟨d', hrun, htold⟩ | ⟨front, listener, rest, e, before, d', hfront, htell, hrun, htold⟩
    · have hreceive : r.receive env nesting data source d =
          .ok (r.codec.arrival data).failure? d' := bind_of_eq_ok hrun
      exact ⟨.inl ⟨d', hreceive, htold⟩, fun _ _ => ⟨d', hreceive, htold⟩⟩
    · have hreceive : r.receive env nesting data source d = .error e d' := bind_of_eq_error hrun
      refine ⟨.inr ⟨front, listener, rest, e, before, d', hfront, htell, hreceive, htold⟩,
        fun hcalm hdeep => ?_⟩
      obtain rfl := (leads_receive_isCalm nesting source hcalm r data).of_eq_error hreceive
      rw [interruption?, hreceive] at hdeep
      exact absurd rfl hdeep
  · exact ((leads_receive_failure henv nesting source hdecode).endState d).symm
  · have hundisturbed : Undisturbed (r.takeAll env nesting turns d)
        (r.takeAll env nesting (turns.filter r.isGood) d) := undisturbed_takeAll henv turns rfl
    exact ⟨hundisturbed.receptions, hundisturbed.calls, hundisturbed.deferrals, hundisturbed⟩

/-- Surroundings in which a listener brings about a message, one for bad data listens no more than
once, and one that is told of failures has others listen. -/
def watchful : Surroundings :=
  { quiet with
    react := fun listener _ notice =>
      match notice with
      | .message event =>
        if listener = "first" then
          .ask (.process (.packet (.message { address := "/c" })) event.source) fun _ => .done
        else .done
      | .badData _ _ => .ask (.change (.removeBadData listener)) fun _ => .done
      | .arrival _ (.packet _) => .done
      | .arrival _ (.failure _) => .ask (.change (.addBadData "spare")) fun _ => .done }

/-- A receiver with another packet listener behind the dispatcher. -/
def station : Receiver := { listeners := [.dispatcher, .user "log"] }

/-- A dispatcher with a listener for bad data. -/
def guarded : Dispatcher := { attentive with badDataListeners := ["once"] }

/-- A bundle of which only the innermost message cannot be read: its type tag is unknown. -/
def flawedBytes : Bytes := mixedBytes.set 61 63

/-- Why the bundle cannot be read. -/
def flaw : Malformed := ⟨.unknownType '?', flawedBytes⟩

/-- A bundle that can be read, between some that cannot. -/
def mixedTurns : List Turn :=
  [.receive flawedBytes none, .receive mixedBytes none, .receive flawedBytes none,
    .wait 0 12000000000, .receive flawedBytes none, .fire 0]

theorem bad_data_disturbs_nothing_mixedTurns :
    watchful.IsCalm ∧ watchful.KeepsApart ∧ station.codec.decode flawedBytes = .error flaw ∧
    interruption? (station.receive watchful 2 flawedBytes none) guarded ≠ some .tooDeep ∧
    (∃ d', station.receive watchful 2 flawedBytes none guarded = .ok (some flaw) d' ∧
      d'.tellings = [.told (.user "log") none (.failure flaw),
        .told .dispatcher none (.failure flaw)]) ∧
    (∃ packet d', station.codec.decode mixedBytes = .ok packet ∧
      station.receive watchful 2 mixedBytes none guarded = .ok none d' ∧
      d'.tellings = [.told (.user "log") none (.packet packet),
        .told .dispatcher none (.packet packet)]) ∧
    mixedTurns.filter station.isGood =
      [.receive mixedBytes none, .wait 0 12000000000, .fire 0] ∧
    (station.takeAll watchful 2 mixedTurns guarded).badDataListeners = ["spare"] ∧
    ((station.takeAll watchful 2 mixedTurns guarded).calls.map fun call =>
      (call.listener, call.address)) =
        [("second", "/b"), ("second", "/a"), ("second", "/c"), ("first", "/a")] ∧
    (station.takeAll watchful 2 mixedTurns guarded).calls =
      (station.takeAll watchful 2 [.receive mixedBytes none, .wait 0 12000000000, .fire 0]
        guarded).calls := by
  have hcalm : watchful.IsCalm := by
    intro listener journal notice
    rcases notice with event | ⟨_, _⟩ | ⟨_, packet | failure⟩
    · show Reaction.IsCalm (if listener = "first" then _ else _)
      split_ifs
      · exact .ask fun _ => .done
      · exact .done
    · exact .ask fun _ => .done
    · exact .done
    · exact .ask fun _ => .done
  have hapart : watchful.KeepsApart := by
    refine ⟨fun listener journal notice => ?_, fun _ _ _ _ _ _ => rfl⟩
    rcases notice with event | ⟨_, _⟩ | ⟨_, packet | failure⟩
    · show Reaction.KeepsTo false (if listener = "first" then _ else _)
      split_ifs
      · exact .process rfl fun _ => .done
      · exact .done
    · exact .change rfl fun _ => .done
    · exact .done
    · exact .change rfl fun _ => .done
  have hflawed : station.codec.decode flawedBytes = .error flaw := by with_unfolding_all rfl
  have hgood : mixedTurns.filter station.isGood =
      [.receive mixedBytes none, .wait 0 12000000000, .fire 0] := by with_unfolding_all rfl
  have hdeep : interruption? (station.receive watchful 2 flawedBytes none) guarded ≠
      some .tooDeep := by decide +kernel
  have hdeep' : interruption? (station.receive watchful 2 mixedBytes none) guarded ≠
      some .tooDeep := by decide +kernel
  obtain ⟨htold, hread, hunread, hkept⟩ := bad_data_disturbs_nothing watchful 2 station
  obtain ⟨-, hturns⟩ := hkept hapart
  have hrefused := (htold flawedBytes none guarded).2 hcalm hdeep
  rw [(hunread flawedBytes flaw hflawed).1] at hrefused
  refine ⟨hcalm, hapart, hflawed, hdeep, hrefused, ?_, hgood, by decide +kernel,
    by decide +kernel, ?_⟩
  · rcases hdecode : station.codec.decode mixedBytes with failure | packet
    · have hok : (station.codec.decode mixedBytes).isOk = true := by decide +kernel
      rw [hdecode] at hok
      cases hok
    · have hreceived := (htold mixedBytes none guarded).2 hcalm hdeep'
      rw [hread mixedBytes packet hdecode] at hreceived
      exact ⟨packet, hreceived.choose, rfl, hreceived.choose_spec⟩
  · have hcalls := (hturns mixedTurns guarded).2.1
    rwa [hgood] at hcalls

end Receiver

end OpenSound
