import OpenSound.Proofs.Relaxation

/-!
# Sinks

A packet is written into a sink as a whole or not at all (`Codec.writeInto_all_or_nothing`).  The
packet is put together apart from the sink, so that whatever turns out to be wrong with it, however
deep inside, the sink has not been touched by then; and it goes into the sink exactly when a codec
that allows packets of just the free size would write it.  The size that the codec itself allows
does not enter into it, as no step of the writer looks at it (`Codec.encoding_maxPacketSize`).
-/

namespace OpenSound

namespace Codec

/-! ### What becomes of the sink -/

namespace Sink

/-- The bytes have been put into the first free places of the sink, and nothing else in it has
changed. -/
structure IsFilled (sink : Sink) (data : Bytes) (filled : Sink) : Prop where
  length_eq : filled.storage.length = sink.storage.length
  before : ∀ i < sink.used, filled.storage[i]? = sink.storage[i]?
  written : ∀ i < data.length, filled.storage[sink.used + i]? = data[i]?
  behind : ∀ i, sink.used + data.length ≤ i → filled.storage[i]? = sink.storage[i]?
  used_eq : filled.used = sink.used + data.length
  available_eq : filled.available + data.length = sink.available

theorem isFilled_write {sink : Sink} {data : Bytes} (h : data.length ≤ sink.available)
    (hused : sink.used ≤ sink.storage.length) : sink.IsFilled data (sink.write data) := by
  have hfront : (sink.storage.take sink.used).length = sink.used :=
    List.length_take_of_le hused
  have hmiddle : (sink.storage.take sink.used ++ data).length = sink.used + data.length := by
    rw [List.length_append, hfront]
  have hlength : (sink.write data).storage.length = sink.storage.length := by
    unfold available at h
    rw [write, List.length_append, hmiddle, List.length_drop]
    omega
  refine ⟨hlength, fun i hi => ?_, fun i hi => ?_, fun i hi => ?_, rfl, ?_⟩
  · rw [write, List.append_assoc, List.getElem?_append_left (by omega),
      List.getElem?_take_of_lt hi]
  · rw [write, List.append_assoc, List.getElem?_append_right (by omega), hfront,
      Nat.add_sub_cancel_left, List.getElem?_append_left hi]
  · rw [write, List.getElem?_append_right (by omega), hmiddle, List.getElem?_drop,
      Nat.add_sub_cancel' hi]
  · unfold available at h ⊢
    rw [hlength]
    show _ - (sink.used + data.length) + _ = _
    omega

end Sink

/-! ### What the writer does not look at -/

theorem encoding_of_maxPacketSize_le (codec : Codec) {size : Nat}
    (h : codec.limits.maxPacketSize ≤ size) (p : Packet) :
    ({ codec with limits.maxPacketSize := size } : Codec).encoding p = codec.encoding p := by
  rcases (relaxes_maxPacketSize codec h).encodeWithin (Nat.add_comm _ _) p with
    hsame | ⟨_, herror, needed, rfl⟩
  · rw [encoding_eq_encodeWithin, encoding_eq_encodeWithin]
    exact hsame
  · rw [← encoding_eq_encodeWithin] at herror
    exact absurd herror (avoidsOverrun_encoding p needed _)

/-- How large packets may be is not asked while one is put together. -/
theorem encoding_maxPacketSize (codec : Codec) (size : Nat) (p : Packet) :
    ({ codec with limits.maxPacketSize := size } : Codec).encoding p = codec.encoding p := by
  rcases Nat.le_total codec.limits.maxPacketSize size with h | h
  · exact encoding_of_maxPacketSize_le codec h p
  · exact (encoding_of_maxPacketSize_le { codec with limits.maxPacketSize := size } h p).symm

theorem encode_maxPacketSize (codec : Codec) (size : Nat) (p : Packet) :
    ({ codec with limits.maxPacketSize := size } : Codec).encode p =
      codec.encodeFitting size p := by
  rw [encode, encodeFitting, encodeFitting, encoding_maxPacketSize]

/-! ### Writing into a sink -/

/-- The free space is compared with the size of the packet once the whole of it has been put
together. -/
theorem writeInto_apply (codec : Codec) (p : Packet) (sink : Sink) :
    codec.writeInto p sink = match codec.encodeFitting sink.available p with
      | .ok d => .ok d.length (sink.write d)
      | .error e => .error e sink := by
  rw [encodeFitting]
  rcases hdata : codec.encoding p with e | data
  · rw [writeInto, hdata]
    rfl
  · have hrun : codec.writeInto p sink =
        (if data.length ≤ sink.available then do set (sink.write data); return data.length
          else throw (.bufferOverrun data.length sink.available) :
            EStateM EncodeError Sink Nat) sink := by
      rw [writeInto, hdata]
      rfl
    rw [hrun]
    show _ = match (if data.length ≤ sink.available then _ else _ : Except EncodeError Bytes) with
      | .ok d => EStateM.Result.ok d.length (sink.write d)
      | .error e => .error e sink
    split_ifs
    · rfl
    · rfl

/-- A packet is written into a sink exactly when a codec that allows packets of the free size writes
it.  Its bytes are then found in the first free places, the rest of the sink is as it was, and as
many places fewer are free; otherwise the error is that of the codec, and the sink is as it was.  An
overrun tells the size of the packet and the free size.  The size that the codec allows makes no
difference. -/
theorem writeInto_all_or_nothing (codec : Codec) (p : Packet) (sink : Sink) :
    (∀ d, ({ codec with limits.maxPacketSize := sink.available } : Codec).encode p = .ok d →
      ∃ filled, codec.writeInto p sink = .ok d.length filled ∧ sink.IsFilled d filled) ∧
    (∀ e, ({ codec with limits.maxPacketSize := sink.available } : Codec).encode p = .error e →
      codec.writeInto p sink = .error e sink) ∧
    (∀ needed available,
      codec.writeInto p sink = .error (.bufferOverrun needed available) sink ↔
        codec.IsWritable p ∧ sink.available < p.encoded.length ∧ needed = p.encoded.length ∧
          available = sink.available) ∧
    ∀ size, ({ codec with limits.maxPacketSize := size } : Codec).writeInto p sink =
      codec.writeInto p sink := by
  rw [encode_maxPacketSize, writeInto_apply]
  refine ⟨fun d hd => ?_, fun e he => ?_, fun needed available => ?_, fun size => ?_⟩
  · obtain ⟨-, hfit, rfl⟩ := encodeFitting_eq_ok_iff.1 hd
    have hpos := (length_encoded p).1
    have hused : sink.used ≤ sink.storage.length := by
      unfold Sink.available at hfit
      omega
    rw [hd]
    exact ⟨_, rfl, Sink.isFilled_write hfit hused⟩
  · rw [he]
  · rw [← encodeFitting_eq_overrun_iff]
    rcases codec.encodeFitting sink.available p with e | d
    · simp only [EStateM.Result.error.injEq, and_true, Except.error.injEq]
    · exact iff_of_false nofun nofun
  · rw [writeInto_apply, encodeFitting, encodeFitting, encoding_maxPacketSize]

/-- A slice of memory with four places in use, and so many that are free. -/
def sinkWithRoom (room : Nat) : Sink := { storage := List.replicate (4 + room) 0xaa, used := 4 }

/-- A codec that writes no packet of its own accord. -/
def closefisted : Codec := { limits.maxPacketSize := 0 }

/-- A bundle whose last message, in a bundle of its own, has a text that cannot be written. -/
def spoiledPacket : Packet :=
  .bundle .immediate [
    .message { address := "/a", arguments := [.int 1] },
    .bundle .immediate [.message { address := "/b", arguments := [.string "a\x00b"] }]]

/-- The packet of 64 bytes is written where there is room for 68, and not where there is room for
60. -/
theorem writeInto_all_or_nothing_sinkWithRoom :
    (({ closefisted with limits.maxPacketSize := 68 } : Codec).encode nestedPacket =
        .ok nestedBytes ∧
      ∃ filled, closefisted.writeInto nestedPacket (sinkWithRoom 68) = .ok 64 filled ∧
        (sinkWithRoom 68).IsFilled nestedBytes filled) ∧
    (({ closefisted with limits.maxPacketSize := 60 } : Codec).encode nestedPacket =
        .error (.bufferOverrun 64 60) ∧
      closefisted.writeInto nestedPacket (sinkWithRoom 60) =
        .error (.bufferOverrun 64 60) (sinkWithRoom 60)) ∧
    ({ closefisted with limits.maxPacketSize := 68 } : Codec).encode spoiledPacket =
        .error .embeddedNul ∧
      closefisted.writeInto spoiledPacket (sinkWithRoom 68) =
        .error .embeddedNul (sinkWithRoom 68) := by
  have hfits : ({ closefisted with limits.maxPacketSize := 68 } : Codec).encode nestedPacket =
      .ok nestedBytes := by decide +kernel
  have hlarge : ({ closefisted with limits.maxPacketSize := 60 } : Codec).encode nestedPacket =
      .error (.bufferOverrun 64 60) := by decide +kernel
  have hspoiled : ({ closefisted with limits.maxPacketSize := 68 } : Codec).encode spoiledPacket =
      .error .embeddedNul := by decide +kernel
  exact ⟨⟨hfits, (writeInto_all_or_nothing closefisted nestedPacket (sinkWithRoom 68)).1 _ hfits⟩,
    ⟨hlarge, (writeInto_all_or_nothing closefisted nestedPacket (sinkWithRoom 60)).2.1 _ hlarge⟩,
    hspoiled, (writeInto_all_or_nothing closefisted spoiledPacket (sinkWithRoom 68)).2.1 _ hspoiled⟩

end Codec

end OpenSound
