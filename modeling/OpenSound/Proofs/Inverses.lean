import OpenSound.Proofs.Cursors
import OpenSound.Proofs.Payloads

/-!
# Reading undoes writing

Texts, payloads of a known length and payloads behind their length are written by
`Appender.putText`, `putPadded` and `putBlob`.  Where a cursor stands, and whatever lies behind,
each of them is read as a value exactly if the bytes that lie ahead are those that are written for
the value (`primitives_inverse`).  What is written is filled up with zeros to a multiple of four
bytes (`Bytes.IsFilledUp`), counted from where it begins and not from the start of the buffer.
-/

namespace OpenSound

namespace Bytes

/-- The data with zeros behind it: at least `least` of them, and no more than reach a multiple of
four bytes. -/
def IsFilledUp (least : Nat) (data d : Bytes) : Prop :=
  ∃ zeros, d = data ++ List.replicate zeros 0 ∧ least ≤ zeros ∧ zeros < least + 4 ∧ d.length % 4 = 0

theorem isFilledUp_padded (least : Nat) (data : Bytes) :
    IsFilledUp least data (padded (data ++ List.replicate least 0)) := by
  have hlt := paddedLength_lt (data.length + least)
  have hle := le_paddedLength (data.length + least)
  have hlength : (data ++ List.replicate least 0).length = data.length + least := by
    rw [List.length_append, List.length_replicate]
  refine ⟨paddedLength (data.length + least) - data.length, ?_, by omega, by omega, ?_⟩
  · have hzeros : paddedLength (data.length + least) - data.length =
        least + (paddedLength (data.length + least) - (data.length + least)) := by omega
    rw [padded, hlength, List.append_assoc, List.replicate_append_replicate, hzeros]
  · rw [length_padded]
    exact paddedLength_mod_four _

end Bytes

/-- A reader of a layout advances over the bytes that lie ahead exactly when they are laid out
so. -/
theorem Reader.Recognizes.eq_ok_advance_iff {α : Type} {r : Reader α} {L : Layout α}
    (h : Recognizes r L) {c : Cursor} {a : α} {k : Nat} :
    r c = .ok a (c.advance k) ↔ k ≤ c.remaining ∧ L (c.rest.take k) a := by
  rw [h]
  constructor
  · rintro ⟨taken, htaken, hrest, hposition⟩
    obtain rfl : k = taken.length := Nat.add_left_cancel hposition
    obtain ⟨hle, -⟩ := Cursor.eq_advance_of_rest_eq_append hrest hposition
    rw [hrest, List.take_left]
    exact ⟨hle, htaken⟩
  · rintro ⟨hle, htaken⟩
    have hlength : (c.rest.take k).length = k := List.length_take_of_le hle
    exact ⟨_, htaken, (List.take_append_drop k c.rest).symm, congrArg (c.position + ·) hlength.symm⟩

namespace Appender

/-- The step puts the bytes behind whatever is in the buffer. -/
def Puts (step : Appender Unit) (d : Bytes) : Prop :=
  ∀ written, step written = .ok () (written ++ d)

/-- The step fails and leaves the buffer as it was. -/
def Refuses (step : Appender Unit) (cause : EncodeError) : Prop :=
  ∀ written, step written = .error cause written

theorem puts_putAll_iff {x : Except EncodeError Bytes} {d : Bytes} :
    Puts (putAll x) d ↔ x = .ok d := by
  constructor
  · intro h
    rcases x with cause | data
    · cases h []
    · have hput : EStateM.Result.ok () ([] ++ data) = .ok () ([] ++ d) := h []
      cases hput
      rfl
  · rintro rfl written
    rfl

theorem refuses_putAll (cause : EncodeError) : Refuses (putAll (.error cause)) cause := fun _ => rfl

/-! ### What is put -/

variable {d : Bytes}

theorem puts_putText_iff {s : String} : Puts (putText s) d ↔ Layout.text d s := by
  rw [putText_eq, puts_putAll_iff, paddedText?_eq_ok_iff]

theorem puts_putPadded_iff {data : Bytes} : Puts (putPadded data) d ↔ d = Bytes.padded data := by
  have hput : put (Bytes.padded data) = putAll (.ok (Bytes.padded data)) := rfl
  rw [putPadded_eq, hput, puts_putAll_iff, Except.ok.injEq, eq_comm]

theorem puts_putBlob_iff {data : Bytes} : Puts (putBlob data) d ↔ Layout.blob d data := by
  rw [putBlob_eq, puts_putAll_iff, sizedBlob?_eq_ok_iff]

theorem putText_cases (s : String) :
    (0 ∉ Bytes.ofText s ∧ ∃ d, Puts (putText s) d ∧ Bytes.IsFilledUp 1 (Bytes.ofText s) d) ∨
      0 ∈ Bytes.ofText s ∧ Refuses (putText s) .embeddedNul := by
  by_cases hzero : 0 ∈ Bytes.ofText s
  · refine .inr ⟨hzero, ?_⟩
    rw [putText_eq, Bytes.paddedText?, if_pos hzero]
    exact refuses_putAll _
  · exact .inl ⟨hzero, _, puts_putText_iff.2 ⟨hzero, rfl⟩, Bytes.isFilledUp_padded 1 _⟩

theorem exists_puts_putPadded (data : Bytes) :
    ∃ d, Puts (putPadded data) d ∧ Bytes.IsFilledUp 0 data d := by
  have hfilled := Bytes.isFilledUp_padded 0 data
  rw [List.replicate_zero, List.append_nil] at hfilled
  exact ⟨_, puts_putPadded_iff.2 rfl, hfilled⟩

theorem putBlob_cases (data : Bytes) :
    (data.length ≤ Bytes.maxLengthPrefix ∧ ∃ d, Puts (putBlob data) d ∧
        Bytes.IsFilledUp 0 (Bytes.bigEndian 4 data.length ++ data) d) ∨
      Bytes.maxLengthPrefix < data.length ∧ Refuses (putBlob data) (.tooLarge data.length) := by
  by_cases hle : data.length ≤ Bytes.maxLengthPrefix
  · obtain ⟨zeros, hzeros, hleast, hmost, hmod⟩ := Bytes.isFilledUp_padded 0 data
    rw [List.replicate_zero, List.append_nil] at hzeros hmod
    refine .inl ⟨hle, _, puts_putBlob_iff.2 ⟨hle, rfl⟩, zeros, ?_, hleast, hmost, ?_⟩
    · rw [hzeros, List.append_assoc]
    · rw [List.length_append, Bytes.length_bigEndian]
      omega
  · refine .inr ⟨Nat.not_le.1 hle, ?_⟩
    rw [putBlob_eq, Bytes.sizedBlob?, Bytes.lengthPrefix?, if_neg hle]
    exact refuses_putAll _

/-- Wherever a cursor stands, a value is read and `k` bytes are taken exactly if these `k` bytes are
what is written for the value.  A text and its filling of at least one zero are written unless the
text holds a zero itself, a payload and its filling always, and a blob behind its length unless that
is too large; otherwise nothing is written. -/
theorem primitives_inverse :
    (∀ c s k, Reader.text c = .ok s (c.advance k) ↔
      k ≤ c.remaining ∧ Puts (putText s) (c.rest.take k)) ∧
    (∀ n c data k, Reader.padded n c = .ok data (c.advance k) ↔
      k ≤ c.remaining ∧ data.length = n ∧ Puts (putPadded data) (c.rest.take k)) ∧
    (∀ c data k, Reader.blob c = .ok data (c.advance k) ↔
      k ≤ c.remaining ∧ Puts (putBlob data) (c.rest.take k)) ∧
    (∀ s,
      (0 ∉ Bytes.ofText s ∧ ∃ d, Puts (putText s) d ∧ Bytes.IsFilledUp 1 (Bytes.ofText s) d) ∨
        0 ∈ Bytes.ofText s ∧ Refuses (putText s) .embeddedNul) ∧
    (∀ data, ∃ d, Puts (putPadded data) d ∧ Bytes.IsFilledUp 0 data d) ∧
    ∀ data,
      (data.length ≤ Bytes.maxLengthPrefix ∧ ∃ d, Puts (putBlob data) d ∧
          Bytes.IsFilledUp 0 (Bytes.bigEndian 4 data.length ++ data) d) ∨
        Bytes.maxLengthPrefix < data.length ∧ Refuses (putBlob data) (.tooLarge data.length) := by
  refine ⟨fun c s k => ?_, fun n c data k => ?_, fun c data k => ?_, putText_cases,
    exists_puts_putPadded, putBlob_cases⟩
  · rw [Reader.recognizes_text.eq_ok_advance_iff, puts_putText_iff]
  · rw [(Reader.recognizes_padded n).eq_ok_advance_iff, puts_putPadded_iff]
    rfl
  · rw [Reader.recognizes_blob.eq_ok_advance_iff, puts_putBlob_iff]

end Appender

end OpenSound
