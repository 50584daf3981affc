import OpenSound.Proofs.Agreement
import OpenSound.Proofs.Prefixes

/-!
# Routing over the wire

It makes no difference to the listeners whether a packet is dispatched as it was made or as it was
read back from the wire.  What is read back carries infos, and these say what the type tags were
without them (`Packet.settled_described`).  So both packets lead to the same calls
(`Dispatcher.calls`), at once and whenever bundles that were put off are taken apart.
-/

namespace OpenSound

/-! ### Packets that are read back -/

theorem Message.settled_described {m : Message} (h : m.info = none) :
    m.described.settled = m.settled :=
  Message.settled_eq_iff.2 ⟨rfl, rfl, (typeTags_of_info_eq_none h).symm⟩

namespace Packet

theorem settledAll_describedAll {packets : List Packet}
    (h : ∀ m ∈ messagesOf packets, m.info = none) :
    settledAll (describedAll packets) = settledAll packets := by
  rw [settledAll, settledAll]
  induction packets using Packet.list_induction with
  | nil => rfl
  | message m rest ih =>
    rw [messagesOf_message_cons, List.forall_mem_cons] at h
    rw [describedAll, described, mapAll, mapAll, map, map, Message.settled_described h.1, ih h.2]
  | bundle time elements rest ihElements ih =>
    rw [messagesOf_bundle_cons, List.forall_mem_append] at h
    rw [describedAll, described, mapAll, mapAll, map, map, ihElements h.1, ih h.2]

/-- The infos that come over the wire are those that the messages amount to without any. -/
theorem settled_described {p : Packet} (h : ∀ m ∈ p.messages, m.info = none) :
    p.described.settled = p.settled := by
  cases p with
  | message m =>
    rw [described, settled, settled, map, map,
      Message.settled_described (h m (List.mem_singleton_self m))]
  | bundle time elements => exact congrArg (bundle time) (settledAll_describedAll h)

end Packet

/-! ### Calls -/

/-- What a listener was told of a message. -/
structure Call where
  listener : String
  source : Source
  time : TimeTag
  address : String
  arguments : List Argument

def Occurrence.call? : Occurrence → Option Call
  | called listener event _ =>
    some ⟨listener, event.source, event.time, event.message.address, event.message.arguments⟩
  | _ => none

namespace Dispatcher

/-- The calls of listeners, the last one first. -/
def calls (d : Dispatcher) : List Call := d.journal.filterMap Occurrence.call?

/-- The bundles that were put off, the last one first, with every message in them settled. -/
def settledDeferrals (d : Dispatcher) : List (TimeTag × List Packet × Nat) :=
  d.deferrals.map fun (time, elements, delay) => (time, Packet.settledAll elements, delay)

theorem Alike.calls {d d' : Dispatcher} (h : Alike d d') : d.calls = d'.calls := by
  have hsettled : ∀ d : Dispatcher,
      d.calls = (d.journal.map Occurrence.settled).filterMap Occurrence.call? := by
    intro d
    rw [Dispatcher.calls, List.filterMap_map]
    refine List.filterMap_congr fun occurrence _ => ?_
    cases occurrence <;> rfl
  rw [hsettled, h.journal, ← hsettled]

theorem Alike.settledDeferrals {d d' : Dispatcher} (h : Alike d d') :
    d.settledDeferrals = d'.settledDeferrals := by
  have hsettled : ∀ d : Dispatcher, d.settledDeferrals =
      { d with journal := d.journal.map Occurrence.settled }.deferrals := by
    intro d
    rw [Dispatcher.settledDeferrals, deferrals, deferrals, List.map_filterMap, List.filterMap_map]
    refine List.filterMap_congr fun occurrence _ => ?_
    cases occurrence <;> rfl
  rw [hsettled, hsettled, deferrals, deferrals, h.journal]

/-- A packet whose messages have no infos, and what is read of it after it was written, are routed
alike.  They are dispatched with one outcome, and the journals show the same criteria asked and the
same calls and deferrals.  The calls and deferrals are the same, too, while bundles that were put
off are taken apart. -/
theorem dispatch_decoded_alike (codec : Codec) {p : Packet} {b : Bytes}
    (hinfo : ∀ m ∈ p.messages, m.info = none) (hascii : p.hasAsciiChars = true)
    (hencode : codec.encode p = .ok b) {env : Surroundings} (henv : env.IsImpartial) :
    ∃ q, codec.decode b = .ok q ∧
      ∀ (nesting : Nat) (source : Source) (d : Dispatcher),
        d.IsPlain →
        Ends Alike (Dispatcher.dispatch env nesting p source d)
          (Dispatcher.dispatch env nesting q source d) ∧
        ∀ turns : List (Nat × Nat),
          let direct := endState (fireAll env nesting turns)
            (endState (Dispatcher.dispatch env nesting p source) d)
          let decoded := endState (fireAll env nesting turns)
            (endState (Dispatcher.dispatch env nesting q source) d)
          direct.calls = decoded.calls ∧ direct.settledDeferrals = decoded.settledDeferrals := by
  obtain ⟨hwritable, -, rfl⟩ := Codec.encodeFitting_eq_ok_iff.1 hencode
  have hlayout := Codec.packetLayout_of_encoding hascii (Codec.encoding_eq_ok_iff.2 ⟨hwritable, rfl⟩)
  refine ⟨p.described, Codec.decode_of_packetLayout hlayout, fun nesting source d hplain => ?_⟩
  have htwin := isLastingTwin_alike henv
  have hlike : (Arrival.packet p).settled = (Arrival.packet p.described).settled :=
    congrArg Arrival.packet (Packet.settled_described hinfo).symm
  have hdispatch := htwin.process nesting hlike source d d (.refl hplain)
  refine ⟨hdispatch, fun turns => ?_⟩
  have hfire : Alike _ _ := (htwin.fireAll nesting turns _ _ hdispatch.endState).endState
  exact ⟨hfire.calls, hfire.settledDeferrals⟩

/-- A message that is handed over at once, and one that has to wait. -/
def mixedBundle : Packet :=
  .bundle .immediate [.message { address := "/a", arguments := [.int 7] },
    .bundle (inSeconds 10) [.message { address := "/b", arguments := [.nil] }]]

def mixedBytes : Bytes :=
  Bytes.ofText "#bundle" ++ [0, 0, 0, 0, 0, 0, 0, 0, 1] ++
    [0, 0, 0, 12] ++ Bytes.ofText "/a" ++ [0, 0] ++ Bytes.ofText ",i" ++ [0, 0] ++ [0, 0, 0, 7] ++
    [0, 0, 0, 28] ++ Bytes.ofText "#bundle" ++ [0, 131, 170, 126, 138, 0, 0, 0, 0] ++
      [0, 0, 0, 8] ++ Bytes.ofText "/b" ++ [0, 0] ++ Bytes.ofText ",N" ++ [0, 0]

/-- A regular expression for the type tags of one argument, an integer or nothing. -/
def singleTag : WholeRegex where
  source := "i|N"
  regex := (Regex.parse? "^(?:i|N)$").get (by with_unfolding_all rfl)
  reads := by with_unfolding_all rfl

/-- A dispatcher that looks at addresses and type tags by patterns and by a regular expression. -/
def attentive : Dispatcher :=
  { new {} .standard with
    registrations := .ofEntries quiet.tests [
      ⟨.addressAndTypeTags "/a" "i*", "first"⟩,
      ⟨.combined .or (.leaf (.regexTypeTags singleTag)) (.address "/c"), "second"⟩] }

theorem dispatch_decoded_alike_mixedBundle :
    (∀ m ∈ mixedBundle.messages, m.info = none) ∧ mixedBundle.hasAsciiChars = true ∧
    ({} : Codec).encode mixedBundle = .ok mixedBytes ∧ quiet.IsImpartial ∧
    attentive.IsPlain ∧
    ∃ q, ({} : Codec).decode mixedBytes = .ok q ∧
      (endState (fireAll quiet 1 [(12000000000, 0)])
        (endState (Dispatcher.dispatch quiet 1 q none) attentive)).calls =
        [⟨"second", none, inSeconds 10, "/b", [.nil]⟩, ⟨"second", none, .immediate, "/a", [.int 7]⟩,
          ⟨"first", none, .immediate, "/a", [.int 7]⟩] := by
  have hinfo : ∀ m ∈ mixedBundle.messages, m.info = none :=
    List.forall_mem_cons.2 ⟨rfl, List.forall_mem_cons.2 ⟨rfl, List.forall_mem_nil _⟩⟩
  have hascii : mixedBundle.hasAsciiChars = true := by decide
  have hencode : ({} : Codec).encode mixedBundle = .ok mixedBytes := by decide +kernel
  have hquiet : quiet.IsImpartial := fun _ _ _ _ _ _ _ => .done
  have hplain : attentive.IsPlain :=
    List.forall_mem_cons.2 ⟨rfl, List.forall_mem_cons.2 ⟨rfl, List.forall_mem_nil _⟩⟩
  obtain ⟨q, hdecode, halike⟩ := dispatch_decoded_alike {} hinfo hascii hencode hquiet
  obtain ⟨hcalls, -⟩ := (halike 1 none attentive hplain).2 [(12000000000, 0)]
  refine ⟨hinfo, hascii, hencode, hquiet, hplain, q, hdecode, hcalls.symm.trans ?_⟩
  with_unfolding_all rfl

end Dispatcher

end OpenSound
