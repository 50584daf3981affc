import OpenSound.Proofs.Canonical

/-!
# Payloads there and back

A handler appends a payload to a buffer in several steps, and what it has appended would stay there
if a later one failed.  None does: everything is looked at before the first byte is put
(`Handler.append_apply`).  So a handler that refuses an argument leaves the buffer as it was.

What is appended is read back as the argument, and what is refused is read from nothing, with one
exception (`Handler.append_then_decode`): the code of a character is written whatever it is, and
read only in ASCII.
-/

namespace OpenSound

/-- A step that appends to a buffer.  What has been appended stays there when a later step fails. -/
abbrev Appender (α : Type) := EStateM EncodeError Bytes α

namespace Appender

def put (data : Bytes) : Appender Unit := modify (· ++ data)

/-- A text, and the zeros that end and fill it. -/
def putText (text : String) : Appender Unit := do
  let body := Bytes.ofText text
  if 0 ∈ body then throw .embeddedNul
  put body
  put (List.replicate (paddedLength (body.length + 1) - body.length) 0)

/-- A payload, and the zeros that fill it up to a multiple of four. -/
def putPadded (data : Bytes) : Appender Unit := do
  put data
  put (List.replicate (paddedLength data.length - data.length) 0)

/-- A payload behind its own length. -/
def putBlob (data : Bytes) : Appender Unit := do
  if data.length > Bytes.maxLengthPrefix then throw (.tooLarge data.length)
  put (Bytes.bigEndian 4 data.length)
  putPadded data

/-- The bytes at once, or the failure with nothing put. -/
def putAll : Except EncodeError Bytes → Appender Unit
  | .ok data => put data
  | .error cause => throw cause

theorem put_bind_put (front back : Bytes) : (do put front; put back) = put (front ++ back) := by
  funext written
  show EStateM.Result.ok () (written ++ front ++ back) = .ok () (written ++ (front ++ back))
  rw [List.append_assoc]

theorem putPadded_eq (data : Bytes) : putPadded data = put (Bytes.padded data) :=
  put_bind_put ..

/-- The zero behind a text is one of those that fill it. -/
theorem body_append_zeros (body : Bytes) :
    body ++ List.replicate (paddedLength (body.length + 1) - body.length) 0 =
      Bytes.padded (body ++ [0]) := by
  have hle := le_paddedLength (body.length + 1)
  have hzeros : paddedLength (body.length + 1) - body.length =
      paddedLength (body.length + 1) - (body.length + 1) + 1 := by omega
  rw [Bytes.padded, List.length_append, List.length_singleton, hzeros, List.replicate_succ,
    List.append_assoc, List.singleton_append]

theorem putText_eq (text : String) : putText text = putAll (Bytes.paddedText? text) := by
  unfold putText Bytes.paddedText?
  dsimp only
  split_ifs
  · rfl
  · show (do put _; put _) = put _
    rw [put_bind_put, body_append_zeros]

theorem putBlob_eq (data : Bytes) : putBlob data = putAll (Bytes.sizedBlob? data) := by
  unfold putBlob Bytes.sizedBlob? Bytes.lengthPrefix?
  by_cases hle : data.length ≤ Bytes.maxLengthPrefix
  · rw [if_neg (Nat.not_lt.2 hle), if_pos hle]
    show (do put _; putPadded data) = put _
    rw [putPadded_eq, put_bind_put]
  · rw [if_pos (Nat.not_le.1 hle), if_neg hle]
    rfl

end Appender

namespace Handler

open Appender in
/-- Appends the payload of the argument to a buffer, step by step. -/
def append (handler : Handler) (argument : Argument) : Appender Unit :=
  match handler, argument with
  | string, .string text => putText text
  | symbol, .symbol text => putText text
  | blob, .blob data => putBlob data
  | fixedWidth tag width, .custom given data =>
    if given = tag ∧ data.length = width then putPadded data
    else throw (.typeMismatch tag .custom)
  | handler, argument =>
    -- numbers and quads are put at once
    putAll (handler.encode argument)

/-- The handler reads the payload as the argument, wherever it lies and whatever lies behind it, and
stops right there. -/
def ReadsBack (handler : Handler) (payload : Bytes) (argument : Argument) : Prop :=
  ∀ position rest, handler.decode ⟨position, payload ++ rest⟩ =
    .ok argument ⟨position + payload.length, rest⟩

/-- There is nothing that the handler reads as the argument. -/
def NeverReads (handler : Handler) (argument : Argument) : Prop :=
  ∀ c c', handler.decode c ≠ .ok argument c'

section

variable {handler : Handler} {argument : Argument}

theorem append_eq_putAll : handler.append argument = Appender.putAll (handler.encode argument) := by
  unfold append
  -- what is put in steps comes to what is put at once
  split
  · exact Appender.putText_eq _
  · exact Appender.putText_eq _
  · exact Appender.putBlob_eq _
  next tag width given data =>
    rw [encode]
    split_ifs
    · exact Appender.putPadded_eq data
    · rfl
  · rfl

/-- The payload is behind what was in the buffer, or the buffer is as it was. -/
theorem append_apply (handler : Handler) (argument : Argument) (written : Bytes) :
    handler.append argument written =
      match handler.encode argument with
      | .ok payload => .ok () (written ++ payload)
      | .error cause => .error cause written := by
  rw [append_eq_putAll]
  rcases handler.encode argument with cause | payload
  · rfl
  · rfl

theorem length_mod_four_of_encode {payload : Bytes} (h : handler.encode argument = .ok payload) :
    payload.length % 4 = 0 := by
  rw [(encode_eq_ok_iff.1 h).2.2.2]
  exact Codec.length_encoded_argument_mod_four argument

/-- Only an argument that can be written is read, and no character outside ASCII is. -/
theorem encode_of_decode {c c' : Cursor} (h : handler.decode c = .ok argument c') :
    handler.encode argument = .ok argument.encoded ∧ argument.hasAsciiChars = true := by
  obtain ⟨_, hpayload, -⟩ := (handler.recognizes_decode c argument c').1 h
  have hencode := Codec.eq_encoded_or_char_of_payload hpayload
  exact ⟨hencode.1, hencode.2.1⟩

theorem readsBack_of_encode {payload : Bytes} (h : handler.encode argument = .ok payload)
    (hascii : argument.hasAsciiChars = true) : handler.ReadsBack payload argument :=
  handler.recognizes_decode.apply (payload_of_encode hascii h)

theorem neverReads_of_not_ascii (hascii : argument.hasAsciiChars = false) :
    handler.NeverReads argument := by
  intro c c' h
  have := (encode_of_decode h).2
  rw [hascii] at this
  cases this

theorem neverReads_of_encode_eq_error {cause : EncodeError}
    (h : handler.encode argument = .error cause) : handler.NeverReads argument := by
  intro c c' hread
  have := (encode_of_decode hread).1
  rw [h] at this
  cases this

end

/-- What a handler appends is a multiple of four bytes behind those that were in the buffer.  They
are read back as the argument, unless that is a character outside ASCII, which is read from
nothing.  An argument that the handler refuses leaves the buffer alone and is read from nothing. -/
theorem append_then_decode (handler : Handler) (argument : Argument) (written : Bytes) :
    (∀ buffer, handler.append argument written = .ok () buffer →
      ∃ payload, buffer = written ++ payload ∧ payload.length % 4 = 0 ∧
        (argument.hasAsciiChars = true → handler.ReadsBack payload argument) ∧
        (argument.hasAsciiChars = false → handler.NeverReads argument)) ∧
    (∀ cause buffer, handler.append argument written = .error cause buffer →
      buffer = written ∧ handler.NeverReads argument) := by
  rw [append_apply]
  rcases h : handler.encode argument with cause | payload
  · refine ⟨nofun, ?_⟩
    rintro _ _ ⟨⟩
    exact ⟨rfl, neverReads_of_encode_eq_error h⟩
  · refine ⟨?_, nofun⟩
    rintro _ ⟨⟩
    exact ⟨payload, rfl, length_mod_four_of_encode h, readsBack_of_encode h,
      neverReads_of_not_ascii⟩

/-- Five bytes of an extension type behind a byte that was there before, and a text that cannot be
written. -/
theorem append_then_decode_extension :
    ((fixedWidth 'x' 5).append (.custom 'x' [1, 2, 3, 4, 5]) [9] =
        .ok () [9, 1, 2, 3, 4, 5, 0, 0, 0] ∧
      ∃ payload, [9, 1, 2, 3, 4, 5, 0, 0, 0] = [9] ++ payload ∧ payload.length % 4 = 0 ∧
        ((Argument.custom 'x' [1, 2, 3, 4, 5]).hasAsciiChars = true →
          (fixedWidth 'x' 5).ReadsBack payload (.custom 'x' [1, 2, 3, 4, 5])) ∧
        ((Argument.custom 'x' [1, 2, 3, 4, 5]).hasAsciiChars = false →
          (fixedWidth 'x' 5).NeverReads (.custom 'x' [1, 2, 3, 4, 5]))) ∧
    string.append (.string "a\x00b") [9] = .error .embeddedNul [9] ∧
      ([9] : Bytes) = [9] ∧ string.NeverReads (.string "a\x00b") :=
  ⟨⟨rfl, (append_then_decode (fixedWidth 'x' 5) (.custom 'x' [1, 2, 3, 4, 5]) [9]).1 _ rfl⟩,
    rfl, (append_then_decode string (.string "a\x00b") [9]).2 .embeddedNul _ rfl⟩

/-- The code 200 is written as a character and not read as one. -/
theorem append_char_beyond_ascii :
    char.append (.char 200) [] = .ok () [200, 0, 0, 0] ∧
      char.decode (.ofBytes [200, 0, 0, 0]) = .error (.nonAsciiChar 200) ⟨4, []⟩ :=
  ⟨rfl, rfl⟩

end Handler

end OpenSound
