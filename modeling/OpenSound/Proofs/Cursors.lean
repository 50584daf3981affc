import OpenSound.Proofs.Layout

/-!
# Where a cursor is left

Whatever is read from a cursor in whatever order, and whether it succeeds or fails, the cursor
stands inside the bytes that it was made from and shows those from its place on (`Cursor.IsWithin`);
it never goes back.  An operation that succeeds has taken exactly what it interprets, which
`Recognizes` says.  The ways in which one fails are those of `Operation.Fails`, each with the place
where it leaves the cursor: where it was, unless a part of a larger whole had been taken already.  A
payload whose length overflows when it is rounded up (`Operation.Overflows`) breaks the program off
with the cursor where it was, whether or not sums are checked.
-/

namespace OpenSound

namespace Cursor

/-- The cursor stands in the bytes, and the rest of them lies ahead. -/
structure IsWithin (c : Cursor) (d : Bytes) : Prop where
  position_le : c.position ≤ d.length
  rest_eq : c.rest = d.drop c.position

variable {c c' : Cursor} {d : Bytes}

theorem isWithin_ofBytes (d : Bytes) : (ofBytes d).IsWithin d := ⟨Nat.zero_le _, rfl⟩

theorem IsWithin.position_add_remaining (h : c.IsWithin d) :
    c.position + c.remaining = d.length := by
  have hle := h.position_le
  rw [remaining, h.rest_eq, List.length_drop]
  omega

theorem IsWithin.advance {n : Nat} (h : c.IsWithin d) (hn : n ≤ c.remaining) :
    (c.advance n).IsWithin d := by
  have hlength := h.position_add_remaining
  refine ⟨?_, ?_⟩
  · show c.position + n ≤ d.length
    omega
  · show c.rest.drop n = d.drop (c.position + n)
    rw [h.rest_eq, List.drop_drop]

theorem advance_advance (c : Cursor) (m n : Nat) : (c.advance m).advance n = c.advance (m + n) := by
  simp only [Cursor.advance, List.drop_drop, Nat.add_assoc]

/-- Behind bytes that were taken, the cursor is where they end. -/
theorem eq_advance_of_rest_eq_append {taken : Bytes} (hrest : c.rest = taken ++ c'.rest)
    (hposition : c'.position = c.position + taken.length) :
    taken.length ≤ c.remaining ∧ c' = c.advance taken.length := by
  refine ⟨?_, ?_⟩
  · rw [remaining, hrest, List.length_append]
    exact Nat.le_add_right _ _
  · rw [eq_advance_iff, hrest, List.drop_left]
    exact ⟨rfl, hposition⟩

end Cursor

namespace Bytes

/-- The front is followed by `i` zeros and then by a byte that is not zero, all of them among the
first `total` bytes. -/
def IsSpoilt (front : Bytes) (total i : Nat) (d : Bytes) : Prop :=
  ∃ b tail, d = front ++ List.replicate i 0 ++ b :: tail ∧ b ≠ 0 ∧ front.length + i < total

theorem IsSpoilt.begins {front d : Bytes} {total i : Nat} (h : IsSpoilt front total i d) :
    front <+: d := by
  obtain ⟨b, tail, rfl, -⟩ := h
  rw [List.append_assoc]
  exact List.prefix_append _ _

theorem isSpoilt_append_iff {before front d : Bytes} {total i : Nat} :
    IsSpoilt (before ++ front) (before.length + total) i (before ++ d) ↔
      IsSpoilt front total i d := by
  unfold IsSpoilt
  simp only [List.append_assoc, List.append_cancel_left_eq, List.length_append, Nat.add_assoc,
    Nat.add_lt_add_iff_left]

theorem firstNonZero?_eq_some_iff {d : Bytes} {i : Nat} :
    firstNonZero? d = some i ↔ ∃ b tail, d = List.replicate i 0 ++ b :: tail ∧ b ≠ 0 := by
  induction d generalizing i with
  | nil => exact iff_of_false nofun (by simp)
  | cons first d ih =>
    unfold firstNonZero? at ih ⊢
    rw [List.findIdx?_cons]
    split_ifs with hfirst
    · have hne : first ≠ 0 := of_decide_eq_true hfirst
      constructor
      · rintro ⟨⟩
        exact ⟨first, d, rfl, hne⟩
      · rintro ⟨b, tail, heq, -⟩
        cases i with
        | zero => rfl
        | succ i => exact absurd (List.cons.inj heq).1 hne
    · obtain rfl : first = 0 := by simpa using hfirst
      rw [Option.map_eq_some_iff]
      constructor
      · rintro ⟨j, hj, rfl⟩
        obtain ⟨b, tail, rfl, hb⟩ := ih.1 hj
        exact ⟨b, tail, rfl, hb⟩
      · rintro ⟨b, tail, heq, hb⟩
        cases i with
        | zero => exact absurd (List.cons.inj heq).1.symm hb
        | succ i => exact ⟨i, ih.2 ⟨b, tail, (List.cons.inj heq).2, hb⟩, rfl⟩

/-- What the search for a byte that is not zero finds behind a front. -/
theorem firstNonZero?_eq_some_iff_isSpoilt {front d : Bytes} {n total i : Nat} (hfront : front <+: d)
    (hlength : front.length = n) :
    firstNonZero? ((d.take total).drop n) = some i ↔ IsSpoilt front total i d := by
  obtain ⟨behind, rfl⟩ := hfront
  subst hlength
  rw [List.drop_take, List.drop_left, firstNonZero?_eq_some_iff]
  constructor
  · rintro ⟨b, tail, htake, hb⟩
    refine ⟨b, tail ++ behind.drop (total - front.length), ?_, hb, ?_⟩
    · conv_lhs => rw [← List.take_append_drop (total - front.length) behind, htake]
      simp only [List.append_assoc, List.cons_append]
    · have hlength := congrArg List.length htake
      rw [List.length_take, List.length_append, List.length_replicate, List.length_cons] at hlength
      omega
  · rintro ⟨b, tail, heq, hb, hlt⟩
    rw [List.append_assoc] at heq
    obtain rfl := List.append_cancel_left heq
    obtain ⟨left, hleft⟩ : ∃ left, total - front.length - i = left + 1 :=
      ⟨total - front.length - i - 1, by omega⟩
    refine ⟨b, tail.take left, ?_, hb⟩
    rw [List.take_append, List.take_of_length_le (by rw [List.length_replicate]; omega),
      List.length_replicate, hleft, List.take_succ_cons]

/-- A text is filled up when it fits and no byte that fills it differs from zero. -/
theorem padded_prefix_iff {body d : Bytes} (hfront : body ++ [0] <+: d) :
    padded (body ++ [0]) <+: d ↔ paddedLength (body.length + 1) ≤ d.length ∧
      firstNonZero? ((d.take (paddedLength (body.length + 1))).drop (body.length + 1)) = none := by
  have hlength : (padded (body ++ [0])).length = paddedLength (body.length + 1) := by
    rw [length_padded, List.length_append, List.length_singleton]
  obtain ⟨tail, rfl⟩ := hfront
  rw [← List.append_cons, List.prefix_iff_eq_take, hlength, eq_comm]
  constructor
  · intro htake
    have hfits : paddedLength (body.length + 1) ≤ (body ++ 0 :: tail).length := by
      rw [← hlength, ← htake]
      exact List.length_take_le' _ _
    exact ⟨hfits, (take_eq_padded_iff hfits).1 htake⟩
  · rintro ⟨hfits, hfilled⟩
    exact (take_eq_padded_iff hfits).2 hfilled

end Bytes

/-! ### Lengths in machine words -/

/-- The mask without the two lowest bits cuts a number down to a multiple of four. -/
theorem land_mask {n : Nat} (h : n < UInt64.size) : n &&& 18446744073709551612 = n / 4 * 4 := by
  have hmask : 18446744073709551612 = (2 ^ 62 - 1) <<< 2 := by decide
  have hshift : n / 4 * 4 = (n >>> 2) <<< 2 := by
    rw [Nat.shiftRight_eq_div_pow, Nat.shiftLeft_eq]
  rw [hmask, hshift]
  refine Nat.eq_of_testBit_eq fun i => ?_
  simp only [Nat.testBit_and, Nat.testBit_shiftLeft, Nat.testBit_shiftRight,
    Nat.testBit_two_pow_sub_one]
  by_cases hlow : 2 ≤ i
  · rw [Nat.add_sub_cancel' hlow]
    by_cases hhigh : i < 64
    · simp [hlow, show i - 2 < 62 by omega]
    · have hbit : n.testBit i = false :=
        Nat.testBit_lt_two_pow
          (h.trans_le (Nat.pow_le_pow_right Nat.two_pos (Nat.not_lt.1 hhigh)))
      simp [hbit]
  · simp [hlow]

/-- In a machine word a length is rounded up as it is, if that fits. -/
theorem paddedWord_of_lt {n : UInt64} (checked : Bool) (h : n.toNat + 3 < UInt64.size) :
    ∃ total, paddedWord checked n = .ok total ∧ total.toNat = paddedLength n.toNat := by
  refine ⟨(n + 3) &&& ~~~3, ?_, ?_⟩
  · simp [paddedWord, Nat.not_le.2 h]
  · have hsum : (n + 3).toNat = n.toNat + 3 := by
      rw [UInt64.toNat_add]
      exact Nat.mod_eq_of_lt h
    rw [UInt64.toNat_and, hsum]
    exact land_mask h

/-- A length that overflows when it is rounded up is refused, or becomes nothing at all. -/
theorem paddedWord_of_le {n : UInt64} (h : UInt64.size ≤ n.toNat + 3) :
    (∃ text, paddedWord true n = .error text) ∧ paddedWord false n = .ok 0 := by
  refine ⟨⟨_, by simp [paddedWord, h]; rfl⟩, ?_⟩
  have hlt := n.toNat_lt
  obtain hn | hn | hn : n = 18446744073709551613 ∨ n = 18446744073709551614 ∨
      n = 18446744073709551615 := by
    simp only [← UInt64.toNat_inj]
    have hsize : UInt64.size = 18446744073709551616 := rfl
    simp
    omega
  all_goals subst hn; rfl

namespace Reader

variable {α β : Type} {c c' : Cursor} {cause : ParseError}

/-! ### Steps that fail -/

theorem bind_eq_error {r : Reader α} {next : α → Reader β} :
    (r >>= next) c = .error cause c' ↔
      r c = .error cause c' ∨ ∃ a c₁, r c = .ok a c₁ ∧ next a c₁ = .error cause c' := by
  cases h : r c with
  | error => simp [bind, EStateM.bind, h]
  | ok a c₁ => simp [bind, EStateM.bind, h, and_assoc]

theorem map_eq_error {r : Reader α} {f : α → β} :
    (f <$> r) c = .error cause c' ↔ r c = .error cause c' := by
  cases h : r c with
  | error => simp [Functor.map, EStateM.map, h]
  | ok a c₁ => simp [Functor.map, EStateM.map, h]

theorem throw_eq_error {e : ParseError} :
    (throw e : Reader α) c = .error cause c' ↔ cause = e ∧ c' = c := by
  constructor
  · intro h
    cases h
    exact ⟨rfl, rfl⟩
  · rintro ⟨rfl, rfl⟩
    rfl

theorem take_eq_error_iff {n : Nat} :
    take n c = .error cause c' ↔ c.remaining < n ∧ cause = .truncated n c.remaining ∧ c' = c := by
  unfold take Cursor.remaining
  dsimp only
  rw [List.length_take]
  split_ifs with hlength
  · exact iff_of_false nofun fun h => by omega
  · constructor
    · rintro ⟨⟩
      exact ⟨by omega, rfl, rfl⟩
    · rintro ⟨-, rfl, rfl⟩
      rfl

/-! ### Attempts -/

theorem get_eq_ok {ε : Type} (c : Cursor) : (get : EStateM ε Cursor Cursor) c = .ok c c := rfl

theorem attempt_eq_ok_iff {r : Reader α} {a : α} :
    r.attempt c = .ok a c' ↔ r c = .ok a c' := by
  cases h : r c with
  | error => simp [attempt, EStateM.adaptExcept, h]
  | ok => simp [attempt, EStateM.adaptExcept, h]

theorem attempt_eq_failed_iff {r : Reader α} :
    r.attempt c = .error (.failed cause) c' ↔ r c = .error cause c' := by
  cases h : r c with
  | error => simp [attempt, EStateM.adaptExcept, h]
  | ok => simp [attempt, EStateM.adaptExcept, h]

theorem attempt_ne_panicked {r : Reader α} {text : String} :
    r.attempt c ≠ .error (.panicked text) c' := by
  cases h : r c with
  | error => simp [attempt, EStateM.adaptExcept, h]
  | ok => simp [attempt, EStateM.adaptExcept, h]

/-- A length that can be rounded up is read as `padded` reads it. -/
theorem attemptPadded_eq {length : UInt64} {n : Length} (h : length.toNat = n) (checked : Bool) :
    attemptPadded checked length = (Reader.padded n).attempt := by
  funext c
  have hfits : length.toNat + 3 < UInt64.size := h ▸ Nat.add_lt_of_lt_sub n.isLt
  obtain ⟨total, hword, htotal⟩ := paddedWord_of_lt checked hfits
  rw [h] at htotal
  simp only [attemptPadded, hword, Reader.padded, attempt, EStateM.adaptExcept, bind, EStateM.bind,
    get_eq_ok, htotal, h]
  rcases htake : take (paddedLength n) c with ⟨slot, c₁⟩ | ⟨cause, c₁⟩
  · obtain ⟨hfront, rfl, rfl⟩ := take_eq_ok.1 htake
    have hlong : ¬ (c.rest.take (paddedLength n)).length < n := by
      rw [List.length_take, Nat.min_eq_left hfront]
      exact Nat.not_lt.2 (le_paddedLength n)
    simp only [if_neg hlong]
    cases Bytes.firstNonZero? ((c.rest.take (paddedLength n)).drop n) <;> rfl
  · rfl

/-- A length that overflows breaks off, and nothing has been taken. -/
theorem attemptPadded_of_le {length : UInt64} (h : UInt64.size ≤ length.toNat + 3) (checked : Bool)
    (c : Cursor) : ∃ text, attemptPadded checked length c = .error (.panicked text) c := by
  obtain ⟨⟨text, htrue⟩, hfalse⟩ := paddedWord_of_le h
  cases checked with
  | true =>
    refine ⟨text, ?_⟩
    simp only [attemptPadded, htrue]
    rfl
  | false =>
    have hpos : ([] : Bytes).length < length.toNat := by
      have hsize : UInt64.size = 18446744073709551616 := rfl
      rw [List.length_nil]
      omega
    -- nothing is taken, and the payload would begin behind that
    have htake : (take (0 : UInt64).toNat).attempt c = .ok [] c := rfl
    simp only [attemptPadded, hfalse, bind, EStateM.bind, get_eq_ok, htake]
    rw [if_pos hpos]
    exact ⟨_, rfl⟩

/-- What a cursor can be asked for.  Arrays are taken as their bytes, and floating-point numbers are
read as their bits. -/
inductive Operation where
  | take (n : Nat)
  | uint32 | uint64 | int32 | int64
  | text
  /-- A payload of the given length and what fills it up. -/
  | padded (length : UInt64)
  | blob
deriving DecidableEq, Repr

namespace Operation

/-- What the operation finds. -/
abbrev Value : Operation → Type
  | take _ | padded _ | blob => Bytes
  | uint32 => UInt32
  | uint64 => UInt64
  | int32 => Int32
  | int64 => Int64
  | text => String

/-- Does the operation, with sums of lengths `checked` or wrapping around. -/
def run (checked : Bool) : (op : Operation) → Attempt op.Value
  | take n => (Reader.take n).attempt
  | uint32 => Reader.uint32.attempt
  | uint64 => Reader.uint64.attempt
  | int32 => Reader.int32.attempt
  | int64 => Reader.int64.attempt
  | text => Reader.text.attempt
  | padded length => Reader.attemptPadded checked length
  | blob => Reader.blob.attempt

/-- Whether a length overflows when it is rounded up. -/
def Overflows : Operation → Prop
  | padded length => UInt64.size ≤ length.toNat + 3
  | _ => False

/-- Which bytes the operation takes for which value. -/
def layout : (op : Operation) → Layout op.Value
  | take n => fun d data => d.length = n ∧ data = d
  | uint32 => Layout.uint32
  | uint64 => Layout.uint64
  | int32 => Layout.int32
  | int64 => Layout.int64
  | text => Layout.text
  | padded length => fun d data =>
    length.toNat + 3 < UInt64.size ∧ Layout.padded length.toNat d data
  | blob => Layout.blob

/-- A payload that does not overflow is that of a length which fits. -/
theorem exists_length_of_not_overflows {length : UInt64} (h : ¬ (padded length).Overflows) :
    ∃ n : Length, length.toNat = n :=
  ⟨⟨length.toNat, Nat.lt_sub_of_add_lt (Nat.not_le.1 h)⟩, rfl⟩

/-- An operation breaks off exactly if a length overflows, and it leaves the cursor where it was. -/
theorem run_eq_panicked_iff {checked : Bool} {op : Operation} :
    (∃ text, op.run checked c = .error (.panicked text) c') ↔ op.Overflows ∧ c' = c := by
  cases op with
  | padded length =>
    by_cases hover : (padded length).Overflows
    · obtain ⟨text, hrun⟩ := attemptPadded_of_le hover checked c
      rw [run, hrun]
      constructor
      · rintro ⟨_, h⟩
        cases h
        exact ⟨hover, rfl⟩
      · rintro ⟨-, rfl⟩
        exact ⟨text, rfl⟩
    · obtain ⟨n, hn⟩ := exists_length_of_not_overflows hover
      refine iff_of_false ?_ fun h => hover h.1
      rintro ⟨text, hrun⟩
      rw [run, attemptPadded_eq hn] at hrun
      exact attempt_ne_panicked hrun
  | _ => exact iff_of_false (fun ⟨_, h⟩ => attempt_ne_panicked h) (·.1)

/-- An operation succeeds on exactly the bytes that its layout has for the value. -/
theorem run_eq_ok_iff {checked : Bool} {op : Operation} {a : op.Value} :
    op.run checked c = .ok a c' ↔ ∃ taken, op.layout taken a ∧ c.rest = taken ++ c'.rest ∧
      c'.position = c.position + taken.length := by
  cases op with
  | take n => exact attempt_eq_ok_iff.trans (recognizes_take n _ _ _)
  | uint32 => exact attempt_eq_ok_iff.trans (recognizes_uint32 _ _ _)
  | uint64 => exact attempt_eq_ok_iff.trans (recognizes_uint64 _ _ _)
  | int32 => exact attempt_eq_ok_iff.trans (recognizes_int32 _ _ _)
  | int64 => exact attempt_eq_ok_iff.trans (recognizes_int64 _ _ _)
  | text => exact attempt_eq_ok_iff.trans (recognizes_text _ _ _)
  | padded length =>
    by_cases hover : (padded length).Overflows
    · obtain ⟨text, hrun⟩ := attemptPadded_of_le hover checked c
      refine iff_of_false ?_ ?_
      · rw [run, hrun]
        nofun
      · rintro ⟨taken, ⟨hfits, -⟩, -⟩
        exact Nat.not_le.2 hfits hover
    · obtain ⟨n, hn⟩ := exists_length_of_not_overflows hover
      rw [run, attemptPadded_eq hn, attempt_eq_ok_iff, recognizes_padded, ← hn]
      simp only [layout, Nat.not_le.1 hover, true_and]
  | blob => exact attempt_eq_ok_iff.trans (recognizes_blob _ _ _)

/-! ### Failures -/

/-- How many bytes the operation takes, whatever they are. -/
def width? : Operation → Option Nat
  | take n => some n
  | uint32 | int32 => some 4
  | uint64 | int64 => some 8
  | text | padded _ | blob => none

/-- The ways in which an operation fails at a cursor, with the error and the cursor that it
leaves. -/
inductive Fails (c : Cursor) : Operation → ParseError → Cursor → Prop
  /-- Less lies ahead than is taken; nothing is taken. -/
  | short {op n} : op.width? = some n → c.remaining < n → Fails c op (.truncated n c.remaining) c
  /-- No zero lies ahead that would end the text; nothing is taken. -/
  | unterminated : 0 ∉ c.rest → Fails c text (.unterminatedString c.position) c
  /-- The bytes end before the text is filled up; nothing is taken. -/
  | textShort {body} : 0 ∉ body → body ++ [0] <+: c.rest →
      c.remaining < paddedLength (body.length + 1) →
      Fails c text (.truncated (paddedLength (body.length + 1)) c.remaining) c
  /-- The text is not filled up with zeros; nothing is taken. -/
  | textSpoilt {body i} : 0 ∉ body → paddedLength (body.length + 1) ≤ c.remaining →
      Bytes.IsSpoilt (body ++ [0]) (paddedLength (body.length + 1)) i c.rest →
      Fails c text (.invalidPadding (c.position + body.length + 1 + i)) c
  /-- No text has the encoding that lies ahead; nothing is taken. -/
  | notUtf8 {body} : 0 ∉ body → Bytes.padded (body ++ [0]) <+: c.rest →
      (∀ s, Bytes.ofText s ≠ body) → Fails c text (.invalidUtf8 c.position) c
  /-- The bytes end before the payload is filled up; nothing is taken. -/
  | paddedShort {length} : ¬ (padded length).Overflows → c.remaining < paddedLength length.toNat →
      Fails c (padded length) (.truncated (paddedLength length.toNat) c.remaining) c
  /-- The payload is not filled up with zeros; it has been taken all the same. -/
  | paddedSpoilt {length data i} : ¬ (padded length).Overflows → data.length = length.toNat →
      paddedLength length.toNat ≤ c.remaining →
      Bytes.IsSpoilt data (paddedLength length.toNat) i c.rest →
      Fails c (padded length) (.invalidPadding (c.position + length.toNat + i))
        (c.advance (paddedLength length.toNat))
  /-- The bytes end before the length of a blob does; nothing is taken. -/
  | blobShort : c.remaining < 4 → Fails c blob (.truncated 4 c.remaining) c
  /-- The length in front of a blob is negative; the length has been taken. -/
  | blobNegative {length : Int32} : Bytes.bigEndian 4 length.toUInt32.toNat <+: c.rest →
      length < 0 → Fails c blob (.invalidBlobLength length) (c.advance 4)
  /-- The bytes end before the payload of a blob is filled up; the length has been taken. -/
  | payloadShort {n} : n ≤ Bytes.maxLengthPrefix → Bytes.bigEndian 4 n <+: c.rest →
      c.remaining < 4 + paddedLength n →
      Fails c blob (.truncated (paddedLength n) (c.remaining - 4)) (c.advance 4)
  /-- The payload of a blob is not filled up with zeros; the length and the payload have been
  taken. -/
  | payloadSpoilt {data i} : data.length ≤ Bytes.maxLengthPrefix →
      4 + paddedLength data.length ≤ c.remaining →
      Bytes.IsSpoilt (Bytes.bigEndian 4 data.length ++ data) (4 + paddedLength data.length) i c.rest →
      Fails c blob (.invalidPadding (c.position + 4 + data.length + i))
        (c.advance (4 + paddedLength data.length))

section Text

variable {body : Bytes}

theorem text_of_not_mem (h : 0 ∉ c.rest) :
    Reader.text c = .error (.unterminatedString c.position) c := by
  have hend : c.rest.dropWhile (· ≠ 0) = [] := by
    rw [List.dropWhile_eq_nil_iff]
    intro b hb
    exact decide_eq_true (ne_of_mem_of_not_mem hb h)
  unfold Reader.text
  dsimp only
  rw [hend]
  rfl

/-- What becomes of a text with the given bytes in front of its zero. -/
theorem text_of_front (hzero : 0 ∉ body) (hfront : body ++ [0] <+: c.rest) :
    Reader.text c =
      if c.remaining < paddedLength (body.length + 1) then
        .error (.truncated (paddedLength (body.length + 1)) c.remaining) c
      else match Bytes.firstNonZero? ((c.rest.take (paddedLength (body.length + 1))).drop
          (body.length + 1)) with
        | some i => .error (.invalidPadding (c.position + body.length + 1 + i)) c
        | none =>
          match Bytes.toText? body with
          | none => .error (.invalidUtf8 c.position) c
          | some s => .ok s (c.advance (paddedLength (body.length + 1))) := by
  obtain ⟨tail, htail⟩ := hfront
  have hrest : c.rest = body ++ 0 :: tail := by rw [← htail, ← List.append_cons]
  have hbefore : c.rest.takeWhile (· ≠ 0) = body := by
    rw [hrest, takeWhile_append_separator hzero]
  have hbehind : c.rest.dropWhile (· ≠ 0) = 0 :: tail := by
    rw [hrest, dropWhile_append_separator hzero]
  have hshort : (c.rest.take (paddedLength (body.length + 1))).length <
      paddedLength (body.length + 1) ↔ c.remaining < paddedLength (body.length + 1) := by
    rw [List.length_take, Cursor.remaining]
    omega
  unfold Reader.text
  dsimp only
  rw [hbefore, hbehind, if_neg (by simp)]
  by_cases hlt : c.remaining < paddedLength (body.length + 1)
  · rw [if_pos (hshort.2 hlt), if_pos hlt]
  · exact (if_neg (mt hshort.1 hlt)).trans (if_neg hlt).symm

theorem text_eq_error_iff : Reader.text c = .error cause c' ↔ Fails c text cause c' := by
  constructor
  · intro h
    by_cases hmem : 0 ∈ c.rest
    · obtain ⟨body, tail, hrest, hzero⟩ := List.eq_append_cons_of_mem hmem
      have hfront : body ++ [0] <+: c.rest := ⟨tail, by rw [hrest, ← List.append_cons]⟩
      rw [text_of_front hzero hfront] at h
      split_ifs at h with hshort
      · cases h
        exact .textShort hzero hfront hshort
      have hfits := Nat.not_lt.1 hshort
      split at h
      next i hi =>
        cases h
        exact .textSpoilt hzero hfits
          ((Bytes.firstNonZero?_eq_some_iff_isSpoilt hfront List.length_append).1 hi)
      next hfilled =>
        split at h
        next hnone =>
          cases h
          refine .notUtf8 hzero ((Bytes.padded_prefix_iff hfront).2 ⟨hfits, hfilled⟩) ?_
          rintro s rfl
          rw [Bytes.toText?_ofText] at hnone
          cases hnone
        · cases h
    · rw [text_of_not_mem hmem] at h
      cases h
      exact .unterminated hmem
  · intro h
    cases h with
    | short hn _ => cases hn
    | unterminated hmem => exact text_of_not_mem hmem
    | textShort hzero hfront hshort => rw [text_of_front hzero hfront, if_pos hshort]
    | @textSpoilt body i hzero hfits hspoilt =>
      have hfront := hspoilt.begins
      have hlength : (body ++ [0]).length = body.length + 1 := List.length_append
      have hi := (Bytes.firstNonZero?_eq_some_iff_isSpoilt hfront hlength).2 hspoilt
      rw [text_of_front hzero hfront, if_neg (Nat.not_lt.2 hfits), hi]
    | @notUtf8 body hzero hpadded hnone =>
      have hfront : body ++ [0] <+: c.rest := (List.prefix_append _ _).trans hpadded
      obtain ⟨hfits, hfilled⟩ := (Bytes.padded_prefix_iff hfront).1 hpadded
      have hshort : ¬ c.remaining < paddedLength (body.length + 1) := Nat.not_lt.2 hfits
      rw [text_of_front hzero hfront, if_neg hshort, hfilled]
      dsimp only
      rcases htext : Bytes.toText? body with _ | s
      · rfl
      · exact absurd (Bytes.ofText_of_toText? htext) (hnone s)

end Text

section Padded

theorem padded_eq_error_iff {length : Length} :
    Reader.padded length c = .error cause c' ↔
      (c.remaining < paddedLength length ∧ cause = .truncated (paddedLength length) c.remaining ∧
        c' = c) ∨
      paddedLength length ≤ c.remaining ∧ ∃ i, ∃ data : Bytes, data.length = length ∧
        Bytes.IsSpoilt data (paddedLength length) i c.rest ∧
          cause = .invalidPadding (c.position + length + i) ∧
          c' = c.advance (paddedLength length) := by
  rw [Reader.padded, get_bind, bind_eq_error, take_eq_error_iff]
  refine or_congr_right ?_
  constructor
  · rintro ⟨slot, c₁, hslot, h⟩
    obtain ⟨hfits, rfl, rfl⟩ := take_eq_ok.1 hslot
    have hlength : (c.rest.take length).length = length := by
      rw [List.length_take]
      exact Nat.min_eq_left ((le_paddedLength length).trans hfits)
    rcases hi : Bytes.firstNonZero? ((c.rest.take (paddedLength length)).drop length) with _ | i
    · rw [hi] at h
      cases h
    · rw [hi] at h
      obtain ⟨rfl, rfl⟩ := throw_eq_error.1 h
      exact ⟨hfits, i, _, hlength,
        (Bytes.firstNonZero?_eq_some_iff_isSpoilt (List.take_prefix _ _) hlength).1 hi, rfl, rfl⟩
  · rintro ⟨hfits, i, data, hdata, hspoilt, rfl, rfl⟩
    have hi := (Bytes.firstNonZero?_eq_some_iff_isSpoilt hspoilt.begins hdata).2 hspoilt
    refine ⟨_, _, take_eq_ok.2 ⟨hfits, rfl, rfl⟩, ?_⟩
    rw [hi]
    rfl

theorem attemptPadded_eq_failed_iff_fails {length : UInt64} {checked : Bool} :
    attemptPadded checked length c = .error (.failed cause) c' ↔
      Fails c (padded length) cause c' := by
  by_cases hover : (padded length).Overflows
  · obtain ⟨text, hrun⟩ := attemptPadded_of_le hover checked c
    rw [hrun]
    refine iff_of_false nofun fun h => ?_
    cases h with
    | short hn _ => cases hn
    | paddedShort hfits _ | paddedSpoilt hfits _ _ _ => exact hfits hover
  obtain ⟨n, hn⟩ := exists_length_of_not_overflows hover
  rw [attemptPadded_eq hn, attempt_eq_failed_iff, padded_eq_error_iff, ← hn]
  constructor
  · rintro (⟨hshort, rfl, rfl⟩ | ⟨hfits, i, data, hdata, hspoilt, rfl, rfl⟩)
    · exact .paddedShort hover hshort
    · exact .paddedSpoilt hover hdata hfits hspoilt
  · intro h
    cases h with
    | short hn _ => cases hn
    | paddedShort _ hshort => exact .inl ⟨hshort, rfl, rfl⟩
    | paddedSpoilt _ hdata hfits hspoilt =>
      exact .inr ⟨hfits, _, _, hdata, hspoilt, rfl, rfl⟩

end Padded

section Blob

theorem rest_eq_append {d : Bytes} (hfront : d <+: c.rest) :
    c.rest = d ++ (c.advance d.length).rest := by
  obtain ⟨tail, hrest⟩ := hfront
  rw [Cursor.advance, ← hrest, List.drop_left]

theorem int32_eq_ok_iff {length : Int32} :
    Reader.int32 c = .ok length c' ↔
      Bytes.bigEndian 4 length.toUInt32.toNat <+: c.rest ∧ c' = c.advance 4 := by
  constructor
  · intro h
    obtain ⟨_, rfl, hrest, hposition⟩ := (recognizes_int32 _ _ _).1 h
    obtain ⟨-, rfl⟩ := Cursor.eq_advance_of_rest_eq_append hrest hposition
    rw [Bytes.length_bigEndian]
    exact ⟨⟨_, hrest.symm⟩, rfl⟩
  · rintro ⟨hfront, rfl⟩
    have hrest := rest_eq_append hfront
    rw [Bytes.length_bigEndian] at hrest
    refine (recognizes_int32 _ _ _).2 ⟨_, rfl, hrest, ?_⟩
    rw [Bytes.length_bigEndian]
    rfl

theorem int32_eq_error_iff :
    Reader.int32 c = .error cause c' ↔
      c.remaining < 4 ∧ cause = .truncated 4 c.remaining ∧ c' = c := by
  unfold Reader.int32 Reader.uint32 Reader.number
  rw [map_eq_error, map_eq_error, map_eq_error, take_eq_error_iff]

/-- Behind a length, the bytes that fill up a payload are those that fill it up by itself. -/
theorem isSpoilt_advance_iff {n total i : Nat} {data : Bytes}
    (hfront : Bytes.bigEndian 4 n <+: c.rest) :
    Bytes.IsSpoilt data total i (c.advance 4).rest ↔
      Bytes.IsSpoilt (Bytes.bigEndian 4 n ++ data) (4 + total) i c.rest := by
  have hlength := Bytes.length_bigEndian 4 n
  have hrest := rest_eq_append hfront
  have happend := @Bytes.isSpoilt_append_iff (Bytes.bigEndian 4 n) data (c.advance 4).rest total i
  rw [hlength] at hrest happend
  rw [hrest, happend]

theorem blob_eq_error_iff_fails : Reader.blob c = .error cause c' ↔ Fails c blob cause c' := by
  have hremaining : (c.advance 4).remaining = c.remaining - 4 := List.length_drop
  rw [Reader.blob, bind_eq_error, int32_eq_error_iff]
  constructor
  · rintro (⟨hshort, rfl, rfl⟩ | ⟨length, c₁, hlength, h⟩)
    · exact .blobShort hshort
    obtain ⟨hfront, rfl⟩ := int32_eq_ok_iff.1 hlength
    split_ifs at h with hnegative
    · obtain ⟨rfl, rfl⟩ := throw_eq_error.1 h
      exact .blobNegative hfront hnegative
    rw [Bytes.toNat_toUInt32_of_nonneg hnegative] at hfront
    have hle := Bytes.toNat_toInt_le length
    have hfour := hfront.length_le
    rw [Bytes.length_bigEndian, ← Cursor.remaining] at hfour
    rw [padded_eq_error_iff, Length.val_ofInt32] at h
    rcases h with ⟨hshort, rfl, rfl⟩ | ⟨hfits, i, data, hdata, hspoilt, rfl, rfl⟩
    · rw [hremaining] at hshort ⊢
      exact .payloadShort hle hfront (by omega)
    · rw [hremaining] at hfits
      rw [← hdata] at hfront hle hfits hspoilt ⊢
      rw [Cursor.advance_advance]
      exact .payloadSpoilt hle (by omega) ((isSpoilt_advance_iff hfront).1 hspoilt)
  · intro h
    cases h with
    | short hn _ => cases hn
    | blobShort hshort => exact .inl ⟨hshort, rfl, rfl⟩
    | @blobNegative length hfront hnegative =>
      refine .inr ⟨length, _, int32_eq_ok_iff.2 ⟨hfront, rfl⟩, ?_⟩
      rw [if_pos hnegative]
      rfl
    | payloadShort hle hfront hshort =>
      obtain ⟨length, hnegative, rfl⟩ := Bytes.exists_toNat_toInt_eq hle
      have hfour := hfront.length_le
      rw [Bytes.length_bigEndian, ← Cursor.remaining] at hfour
      rw [← Bytes.toNat_toUInt32_of_nonneg hnegative] at hfront
      refine .inr ⟨length, _, int32_eq_ok_iff.2 ⟨hfront, rfl⟩, ?_⟩
      rw [if_neg hnegative, padded_eq_error_iff, Length.val_ofInt32, hremaining]
      exact .inl ⟨by omega, rfl, rfl⟩
    | @payloadSpoilt data i hle hfits hspoilt =>
      obtain ⟨length, hnegative, hlength⟩ := Bytes.exists_toNat_toInt_eq hle
      have hfront := (List.prefix_append _ _).trans hspoilt.begins
      have hbehind := (isSpoilt_advance_iff hfront).2 hspoilt
      rw [← hlength, ← Bytes.toNat_toUInt32_of_nonneg hnegative] at hfront
      refine .inr ⟨length, _, int32_eq_ok_iff.2 ⟨hfront, rfl⟩, ?_⟩
      rw [if_neg hnegative, padded_eq_error_iff, Length.val_ofInt32, hremaining, hlength]
      exact .inr ⟨by omega, i, data, rfl, hbehind, rfl, (Cursor.advance_advance ..).symm⟩

end Blob

theorem fails_iff_short {op : Operation} {n : Nat} (hop : op.width? = some n) :
    Fails c op cause c' ↔ c.remaining < n ∧ cause = .truncated n c.remaining ∧ c' = c := by
  constructor
  · intro h
    cases h with
    | short hn hshort =>
      cases hop.symm.trans hn
      exact ⟨hshort, rfl, rfl⟩
    | _ => cases hop
  · rintro ⟨hshort, rfl, rfl⟩
    exact .short hop hshort

/-- An operation fails in the ways of `Fails` and in no other way. -/
theorem run_eq_failed_iff {checked : Bool} {op : Operation} :
    op.run checked c = .error (.failed cause) c' ↔ op.Fails c cause c' := by
  cases op with
  | padded length => exact attemptPadded_eq_failed_iff_fails
  | text => exact attempt_eq_failed_iff.trans text_eq_error_iff
  | blob => exact attempt_eq_failed_iff.trans blob_eq_error_iff_fails
  | take n =>
    exact attempt_eq_failed_iff.trans (take_eq_error_iff.trans (fails_iff_short rfl).symm)
  | uint32 | uint64 =>
    exact attempt_eq_failed_iff.trans
      ((map_eq_error.trans (map_eq_error.trans take_eq_error_iff)).trans (fails_iff_short rfl).symm)
  | int32 =>
    exact attempt_eq_failed_iff.trans (int32_eq_error_iff.trans (fails_iff_short rfl).symm)
  | int64 =>
    exact attempt_eq_failed_iff.trans
      ((map_eq_error.trans (map_eq_error.trans (map_eq_error.trans take_eq_error_iff))).trans
        (fails_iff_short rfl).symm)

/-- No failure leaves the cursor further on than the bytes go. -/
theorem Fails.exists_advance {op : Operation} (h : op.Fails c cause c') :
    ∃ n ≤ c.remaining, c' = c.advance n := by
  cases h with
  | paddedSpoilt _ _ hfits _ | payloadSpoilt _ hfits _ => exact ⟨_, hfits, rfl⟩
  | blobNegative hfront _ | payloadShort _ hfront _ =>
    have hle := hfront.length_le
    rw [Bytes.length_bigEndian] at hle
    exact ⟨4, hle, rfl⟩
  | _ => exact ⟨0, Nat.zero_le _, rfl⟩

/-! ### Operations in a row -/

variable (checked : Bool)

/-- The cursor behind the operation, whether it succeeds, fails or breaks off. -/
def step (op : Operation) (c : Cursor) : Cursor :=
  match op.run checked c with
  | .ok _ c' => c'
  | .error _ c' => c'

/-- The cursor behind operations in a row.  A failure does not end them. -/
def steps (ops : List Operation) (c : Cursor) : Cursor :=
  ops.foldl (fun c op => op.step checked c) c

/-- An operation takes some of the bytes that lie ahead, be it none. -/
theorem exists_step_eq_advance (op : Operation) (c : Cursor) :
    ∃ n ≤ c.remaining, op.step checked c = c.advance n := by
  unfold step
  split
  next a c' h =>
    obtain ⟨taken, -, hrest, hposition⟩ := run_eq_ok_iff.1 h
    exact ⟨taken.length, Cursor.eq_advance_of_rest_eq_append hrest hposition⟩
  next fault c' h =>
    cases fault with
    | failed cause => exact (run_eq_failed_iff.1 h).exists_advance
    | panicked text =>
      obtain ⟨-, rfl⟩ := run_eq_panicked_iff.1 ⟨text, h⟩
      exact ⟨0, Nat.zero_le _, rfl⟩

theorem isWithin_step {d : Bytes} (op : Operation) (h : c.IsWithin d) :
    (op.step checked c).IsWithin d := by
  obtain ⟨n, hn, hstep⟩ := op.exists_step_eq_advance checked c
  rw [hstep]
  exact h.advance hn

theorem isWithin_steps {d : Bytes} (ops : List Operation) (h : c.IsWithin d) :
    (steps checked ops c).IsWithin d := by
  induction ops generalizing c with
  | nil => exact h
  | cons op ops ih => exact ih (op.isWithin_step checked h)

theorem position_le_step (op : Operation) (c : Cursor) :
    c.position ≤ (op.step checked c).position := by
  obtain ⟨n, -, hstep⟩ := op.exists_step_eq_advance checked c
  rw [hstep]
  exact Nat.le_add_right _ _

theorem position_le_steps (ops : List Operation) (c : Cursor) :
    c.position ≤ (steps checked ops c).position := by
  induction ops generalizing c with
  | nil => exact Nat.le_refl _
  | cons op ops ih => exact (op.position_le_step checked c).trans (ih _)

/-- Whatever was read before, a cursor stands inside the bytes that it was made from and the rest of
them lies ahead, and it does not go back.  An operation succeeds on exactly the bytes that it then
has taken, fails in one of the ways of `Fails`, which say where the cursor is left, or breaks off
because its length overflows, and the cursor has not moved then.  It makes no difference whether
sums are checked. -/
theorem cursor_stays_within :
    (∀ d ops, (steps checked ops (.ofBytes d)).position ≤ d.length ∧
      (steps checked ops (.ofBytes d)).position + (steps checked ops (.ofBytes d)).remaining =
        d.length ∧
      (steps checked ops (.ofBytes d)).rest = d.drop (steps checked ops (.ofBytes d)).position ∧
      ∀ more, (steps checked ops (.ofBytes d)).position ≤
        (steps checked (ops ++ more) (.ofBytes d)).position) ∧
    ∀ (op : Operation) c,
      (∀ a c', op.run checked c = .ok a c' ↔
        ∃ taken, op.layout taken a ∧ c.rest = taken ++ c'.rest ∧
          c'.position = c.position + taken.length) ∧
      (∀ cause c', op.run checked c = .error (.failed cause) c' ↔ op.Fails c cause c') ∧
      ∀ c', (∃ text, op.run checked c = .error (.panicked text) c') ↔ op.Overflows ∧ c' = c := by
  refine ⟨fun d ops => ?_, fun op c => ⟨fun a c' => run_eq_ok_iff,
    fun cause c' => run_eq_failed_iff, fun c' => run_eq_panicked_iff⟩⟩
  have hwithin := isWithin_steps checked ops (Cursor.isWithin_ofBytes d)
  refine ⟨hwithin.position_le, hwithin.position_add_remaining, hwithin.rest_eq, fun more => ?_⟩
  unfold steps
  rw [List.foldl_append]
  exact position_le_steps checked more _

end Operation

end Reader

end OpenSound
