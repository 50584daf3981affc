import Mathlib.Data.List.Basic
import Mathlib.Data.List.Induction
import Mathlib.Tactic.Common
import OpenSound.Proofs.Search
import OpenSound.Wire

/-!
# Layouts

A layout relates strings of bytes with the values that they lay out.  `Reader.Recognizes r L` says
that a reader takes exactly the strings of the layout `L` from the front of what lies ahead, yields
what they lay out, and looks no further.  Reading steps compose as their layouts do
(`Recognizes.bind`), so the layouts of the primitives (`recognizes_text`, `recognizes_blob`, …) are
all that is ever said about cursors.
-/

namespace OpenSound

/-- A way of laying out values as bytes: which strings of bytes stand for which value. -/
abbrev Layout (α : Type) := Bytes → α → Prop

theorem Cursor.eq_advance_iff {c c' : Cursor} {n : Nat} :
    c' = c.advance n ↔ c'.rest = c.rest.drop n ∧ c'.position = c.position + n := by
  cases c'
  simp only [advance, mk.injEq]
  exact and_comm

namespace Layout

variable {α β : Type}

/-- A value that takes up no bytes. -/
def empty (a : α) : Layout α := fun d b => d = [] ∧ b = a

/-- The same bytes as values of another type. -/
def map (L : Layout α) (f : α → β) : Layout β := fun d b => ∃ a, L d a ∧ f a = b

/-- Numbers lie with their most significant byte first, those with a sign as their two's
complement. -/
def uint32 : Layout UInt32 := fun d v => d = Bytes.bigEndian 4 v.toNat

def uint64 : Layout UInt64 := fun d v => d = Bytes.bigEndian 8 v.toNat

def int32 : Layout Int32 := fun d v => d = Bytes.bigEndian 4 v.toUInt32.toNat

def int64 : Layout Int64 := fun d v => d = Bytes.bigEndian 8 v.toUInt64.toNat

/-- A text: its encoding in UTF-8, which holds no zero, a zero behind it, and further zeros up to a
multiple of four bytes. -/
def text : Layout String := fun d s =>
  0 ∉ Bytes.ofText s ∧ d = Bytes.padded (Bytes.ofText s ++ [0])

/-- A payload of a known length, and zeros up to a multiple of four bytes. -/
def padded (length : Nat) : Layout Bytes := fun d data =>
  data.length = length ∧ d = Bytes.padded data

/-- A payload behind its own length. -/
def blob : Layout Bytes := fun d data =>
  data.length ≤ Bytes.maxLengthPrefix ∧ d = Bytes.bigEndian 4 data.length ++ Bytes.padded data

end Layout

namespace Bytes

/-! ### Numbers -/

/-- Bytes are the digits of the number they stand for. -/
theorem bigEndian_ofBigEndian (digits : Bytes) :
    bigEndian digits.length (ofBigEndian digits) = digits := by
  induction digits using List.reverseRecOn with
  | nil => rfl
  | append_singleton digits digit ih =>
    have hn : ofBigEndian (digits ++ [digit]) = ofBigEndian digits * 256 + digit.toNat := by
      simp [ofBigEndian]
    have hd := digit.toNat_lt
    have hdiv : (ofBigEndian digits * 256 + digit.toNat) / 256 = ofBigEndian digits := by omega
    have hlow : UInt8.ofNat (ofBigEndian digits * 256 + digit.toNat) = digit := by
      rw [← UInt8.toNat_inj, UInt8.toNat_ofNat']
      omega
    rw [List.length_append, List.length_singleton, bigEndian, hn, hdiv, hlow, ih]

theorem ofBigEndian_lt (digits : Bytes) : ofBigEndian digits < Nat.pow 256 digits.length := by
  rw [← bigEndian_ofBigEndian digits, ofBigEndian_bigEndian, length_bigEndian]
  exact Nat.mod_lt _ (Nat.pow_pos (by decide))

theorem ofBigEndian_bigEndian_of_lt {width n : Nat} (h : n < Nat.pow 256 width) :
    ofBigEndian (bigEndian width n) = n := by
  rw [ofBigEndian_bigEndian]
  exact Nat.mod_eq_of_lt h

/-! ### Lengths -/

theorem toNat_toInt_le (length : Int32) : length.toInt.toNat ≤ maxLengthPrefix := by
  have := length.toNatClampNeg_lt
  rw [Int32.toNat_toInt]
  exact Nat.le_of_lt_succ this

theorem toNat_toUInt32_of_nonneg {length : Int32} (h : ¬ length < 0) :
    length.toUInt32.toNat = length.toInt.toNat := by
  rw [Int32.toNat_toInt]
  exact Int32.toNat_toUInt32_of_le (Int32.not_lt.1 h)

/-- Every length up to the largest has a prefix that is not negative. -/
theorem exists_toNat_toInt_eq {n : Nat} (h : n ≤ maxLengthPrefix) :
    ∃ length : Int32, ¬ length < 0 ∧ length.toInt.toNat = n := by
  have hn : n < 2 ^ 31 := Nat.lt_succ_of_le h
  refine ⟨Int32.ofNat n, ?_, ?_⟩
  · rw [Int32.not_lt, Int32.le_iff_toInt_le, Int32.toInt_ofNat_of_lt hn, Int32.toInt_zero]
    omega
  · rw [Int32.toNat_toInt, Int32.toNatClampNeg_ofNat_of_lt hn]

/-! ### Texts -/

theorem ofText_ofList_cons (c : Char) (cs : List Char) :
    ofText (String.ofList (c :: cs)) = String.utf8EncodeChar c ++ ofText (String.ofList cs) := by
  simp only [ofText, String.toUTF8_eq_toByteArray, String.toByteArray_ofList,
    List.utf8Encode_cons (l := cs), ByteArray.data_append, Array.toList_append]
  simp [List.utf8Encode]

/-- A byte of ASCII occurs in the encoding of a character only as the whole of it. -/
theorem eq_of_mem_utf8EncodeChar {c : Char} {b : UInt8} (hb : b < 128)
    (h : b ∈ String.utf8EncodeChar c) :
    c.toNat = b.toNat ∧ String.utf8EncodeChar c = [b] := by
  have hb' : b.toNat < 128 := hb
  have hc : c.val.toNat < 1114112 := by
    have := c.valid
    simp only [UInt32.isValidChar, Nat.isValidChar] at this
    omega
  unfold String.utf8EncodeChar at h ⊢
  dsimp only at h ⊢
  split_ifs at h ⊢ <;>
    simp only [List.mem_cons, List.not_mem_nil, or_false, ← UInt8.toNat_inj,
      UInt8.toNat_ofNat'] at h
  · refine ⟨?_, by rw [← UInt8.toNat_inj.1 (h.trans (UInt8.toNat_ofNat' ..).symm)]⟩
    simp only [Char.toNat]
    omega
  all_goals omega

theorem utf8EncodeChar_of_lt {c : Char} (h : c.toNat < 128) :
    String.utf8EncodeChar c = [c.toUInt8] := by
  unfold String.utf8EncodeChar
  exact if_pos (Nat.le_of_lt_succ h)

theorem toNat_toUInt8_of_lt {c : Char} (h : c.toNat < 128) : c.toUInt8.toNat = c.toNat := by
  rw [Char.toUInt8, UInt32.toNat_toUInt8]
  exact Nat.mod_eq_of_lt (Nat.lt_of_lt_of_le h (by decide))

/-- A text begins with a character of ASCII exactly when its encoding begins with that byte. -/
theorem head?_ofText_eq_some_iff {s : String} {c : Char} (hc : c.toNat < 128) :
    (ofText s).head? = some c.toUInt8 ↔ s.toList.head? = some c := by
  have hlow : c.toUInt8.toNat = c.toNat := toNat_toUInt8_of_lt hc
  have hs : String.ofList s.toList = s := String.ofList_toList
  rcases hl : s.toList with _ | ⟨first, cs⟩
  · rw [hl] at hs
    subst hs
    exact iff_of_false (by simp [ofText]) (by simp)
  · rw [hl] at hs
    rw [← hs, ofText_ofList_cons, List.head?_cons, Option.some.injEq]
    constructor
    · intro h
      have hmem : c.toUInt8 ∈ String.utf8EncodeChar first := by
        obtain ⟨b, bs, hb⟩ := List.exists_cons_of_ne_nil (String.utf8EncodeChar_ne_nil (c := first))
        rw [hb] at h ⊢
        exact List.mem_of_head? h
      have hlt : c.toUInt8 < 128 := by
        rw [UInt8.lt_iff_toNat_lt, hlow]
        exact hc
      have := (eq_of_mem_utf8EncodeChar hlt hmem).1
      exact Char.toNat_inj.1 (this.trans hlow)
    · rintro rfl
      rw [utf8EncodeChar_of_lt hc]
      rfl

/-! ### Padding -/

theorem firstNonZero?_eq_none_iff {d : Bytes} :
    firstNonZero? d = none ↔ d = List.replicate d.length 0 := by
  simp [firstNonZero?, List.eq_replicate_iff]

/-- A slot is filled up with zeros when no byte behind its payload differs from zero. -/
theorem eq_padded_take_iff {slot : Bytes} {n : Nat} (h : slot.length = paddedLength n) :
    slot = padded (slot.take n) ↔ firstNonZero? (slot.drop n) = none := by
  have hn : (slot.take n).length = n := by
    have := le_paddedLength n
    rw [List.length_take]
    omega
  rw [firstNonZero?_eq_none_iff, List.length_drop, padded, hn, h]
  constructor
  · intro e
    conv_lhs => rw [e]
    exact List.drop_left' hn
  · intro e
    rw [← e, List.take_append_drop]

/-- A body with a zero behind it is filled up with zeros when no byte of the filling differs. -/
theorem take_eq_padded_iff {body tail : Bytes}
    (hlong : paddedLength (body.length + 1) ≤ (body ++ 0 :: tail).length) :
    (body ++ 0 :: tail).take (paddedLength (body.length + 1)) = padded (body ++ [0]) ↔
      firstNonZero? (((body ++ 0 :: tail).take (paddedLength (body.length + 1))).drop
        (body.length + 1)) = none := by
  have hslot : ((body ++ 0 :: tail).take (paddedLength (body.length + 1))).length =
      paddedLength (body.length + 1) := by
    rw [List.length_take, Nat.min_eq_left hlong]
  have hfront : ((body ++ 0 :: tail).take (paddedLength (body.length + 1))).take
      (body.length + 1) = body ++ [0] := by
    rw [List.take_take, Nat.min_eq_left (le_paddedLength _), List.append_cons]
    exact List.take_left' (List.length_append ..)
  rw [← eq_padded_take_iff hslot, hfront]

end Bytes

theorem Layout.ne_nil_of_text {d : Bytes} {s : String} (h : Layout.text d s) : d ≠ [] := by
  rw [h.2]
  simp [Bytes.padded]

/-- A text of the layout begins with a character of ASCII exactly when its bytes do. -/
theorem Layout.head?_eq_some_iff {d : Bytes} {s : String} (h : Layout.text d s) {c : Char}
    (hpos : 0 < c.toNat) (hc : c.toNat < 128) :
    d.head? = some c.toUInt8 ↔ s.toList.head? = some c := by
  rw [← Bytes.head?_ofText_eq_some_iff hc, h.2, Bytes.padded, List.append_assoc, List.head?_append]
  have hne : (0 : UInt8) ≠ c.toUInt8 := by
    intro e
    have := congrArg UInt8.toNat e
    rw [Bytes.toNat_toUInt8_of_lt hc, UInt8.toNat_zero] at this
    omega
  rcases (Bytes.ofText s).head? with _ | b
  · simp [hne]
  · simp

namespace Reader

variable {α β : Type}

/-- The reader takes a string of the layout from the front of what lies ahead and yields the value
that it lays out; where no such string lies ahead, it fails. -/
def Recognizes (r : Reader α) (L : Layout α) : Prop :=
  ∀ c a c', r c = .ok a c' ↔
    ∃ d, L d a ∧ c.rest = d ++ c'.rest ∧ c'.position = c.position + d.length

/-! ### Composition -/

theorem Recognizes.congr {r : Reader α} {L M : Layout α} (h : Recognizes r L)
    (e : ∀ d a, L d a ↔ M d a) : Recognizes r M := by
  intro c a c'
  simp only [h c a c', e]

/-- A reader that is given a string of its layout stops right behind it. -/
theorem Recognizes.apply {r : Reader α} {L : Layout α} (h : Recognizes r L) {d : Bytes} {a : α}
    (hd : L d a) (n : Nat) (rest : Bytes) :
    r ⟨n, d ++ rest⟩ = .ok a ⟨n + d.length, rest⟩ :=
  (h _ _ _).2 ⟨d, hd, rfl, rfl⟩

/-- No string of a layout that a reader recognizes begins with another one. -/
theorem Recognizes.append_inj {r : Reader α} {L : Layout α} (h : Recognizes r L)
    {d₁ d₂ rest₁ rest₂ : Bytes} {a₁ a₂ : α} (h₁ : L d₁ a₁) (h₂ : L d₂ a₂)
    (heq : d₁ ++ rest₁ = d₂ ++ rest₂) : d₁ = d₂ ∧ a₁ = a₂ ∧ rest₁ = rest₂ := by
  have hrun₁ := h.apply h₁ 0 rest₁
  have hrun₂ := h.apply h₂ 0 rest₂
  rw [heq, hrun₂] at hrun₁
  injection hrun₁ with ha hc
  obtain rfl : rest₂ = rest₁ := congrArg Cursor.rest hc
  exact ⟨List.append_cancel_right heq, ha.symm, rfl⟩

theorem recognizes_pure (a : α) : Recognizes (pure a) (Layout.empty a) := by
  intro c b c'
  constructor
  · intro h
    cases h
    exact ⟨[], ⟨rfl, rfl⟩, rfl, rfl⟩
  · rintro ⟨d, ⟨rfl, rfl⟩, hr, hp⟩
    cases c
    cases c'
    cases hr
    cases hp
    rfl

theorem recognizes_throw (e : ParseError) : Recognizes (throw e : Reader α) fun _ _ => False := by
  intro c a c'
  constructor
  · intro h
    cases h
  · rintro ⟨_, ⟨⟩, _⟩

/-- A reader behind a test that has to come out true. -/
theorem Recognizes.provided {p : Prop} [Decidable p] {r : Reader α} {L : Layout α}
    (h : Recognizes r L) (e : ParseError) :
    Recognizes (if p then r else throw e) fun d a => p ∧ L d a := by
  split_ifs with hp
  · exact h.congr fun d a => (and_iff_right hp).symm
  · exact (recognizes_throw e).congr fun d a => (iff_of_false id fun ha => hp ha.1)

/-- A reader behind a test that has to come out false. -/
theorem Recognizes.unless {p : Prop} [Decidable p] {r : Reader α} {L : Layout α}
    (h : Recognizes r L) (e : ParseError) :
    Recognizes (if p then throw e else r) fun d a => ¬ p ∧ L d a := by
  rw [← ite_not]
  exact h.provided e

theorem get_bind (f : Cursor → Reader α) (c : Cursor) : (get >>= f) c = f c c := rfl

/-- A reader may ask where it stands. -/
theorem Recognizes.get_bind {f : Cursor → Reader α} {L : Layout α}
    (hf : ∀ start, Recognizes (f start) L) : Recognizes (get >>= f) L :=
  fun c => hf c c

theorem Recognizes.bind {r : Reader α} {f : α → Reader β} {L : Layout α} {M : α → Layout β}
    (hr : Recognizes r L) (hf : ∀ a, Recognizes (f a) (M a)) :
    Recognizes (r >>= f) fun d b => ∃ a d₁ d₂, L d₁ a ∧ M a d₂ b ∧ d = d₁ ++ d₂ := by
  intro c b c'
  rw [bind_eq_ok]
  constructor
  · rintro ⟨a, c₁, h₁, h₂⟩
    obtain ⟨d₁, hd₁, hr₁, hp₁⟩ := (hr _ _ _).1 h₁
    obtain ⟨d₂, hd₂, hr₂, hp₂⟩ := (hf a _ _ _).1 h₂
    refine ⟨d₁ ++ d₂, ⟨a, d₁, d₂, hd₁, hd₂, rfl⟩, ?_, ?_⟩
    · rw [hr₁, hr₂, List.append_assoc]
    · rw [hp₂, hp₁, List.length_append, Nat.add_assoc]
  · rintro ⟨_, ⟨a, d₁, d₂, hd₁, hd₂, rfl⟩, hrest, hpos⟩
    refine ⟨a, ⟨c.position + d₁.length, d₂ ++ c'.rest⟩, ?_, ?_⟩
    · exact (hr _ _ _).2 ⟨d₁, hd₁, by rw [hrest, List.append_assoc], rfl⟩
    · exact (hf a _ _ _).2
        ⟨d₂, hd₂, rfl, by rw [hpos, List.length_append, Nat.add_assoc]⟩

theorem Recognizes.map {r : Reader α} {L : Layout α} (hr : Recognizes r L) (f : α → β) :
    Recognizes (f <$> r) (L.map f) := by
  intro c b c'
  rw [map_eq_ok]
  constructor
  · rintro ⟨a, h, rfl⟩
    obtain ⟨d, hd, hr, hp⟩ := (hr _ _ _).1 h
    exact ⟨d, ⟨a, hd, rfl⟩, hr, hp⟩
  · rintro ⟨d, ⟨a, hd, rfl⟩, hrest, hp⟩
    exact ⟨a, (hr _ _ _).2 ⟨d, hd, hrest, hp⟩, rfl⟩

/-! ### Primitives -/

theorem recognizes_take (n : Nat) : Recognizes (take n) fun d a => d.length = n ∧ a = d := by
  intro c a c'
  rw [take_eq_ok, Cursor.eq_advance_iff]
  constructor
  · rintro ⟨hn, rfl, hr, hp⟩
    have hlen : (c.rest.take n).length = n := by
      rw [List.length_take]
      omega
    exact ⟨c.rest.take n, ⟨hlen, rfl⟩, by rw [hr, List.take_append_drop], by rw [hlen, hp]⟩
  · rintro ⟨d, ⟨rfl, rfl⟩, hr, hp⟩
    refine ⟨?_, ?_, ?_, hp⟩
    · rw [hr, List.length_append]
      omega
    · rw [hr, List.take_left]
    · rw [hr, List.drop_left]

theorem recognizes_number (width : Nat) :
    Recognizes (number width) fun d n => n < Nat.pow 256 width ∧ d = Bytes.bigEndian width n := by
  refine ((recognizes_take width).map _).congr fun d n => ?_
  constructor
  · rintro ⟨_, ⟨rfl, rfl⟩, rfl⟩
    exact ⟨Bytes.ofBigEndian_lt _, (Bytes.bigEndian_ofBigEndian _).symm⟩
  · rintro ⟨hn, rfl⟩
    exact ⟨_, ⟨Bytes.length_bigEndian .., rfl⟩, Bytes.ofBigEndian_bigEndian_of_lt hn⟩

theorem recognizes_uint32 : Recognizes uint32 Layout.uint32 := by
  refine ((recognizes_number 4).map _).congr fun d v => ?_
  constructor
  · rintro ⟨n, ⟨hn, rfl⟩, rfl⟩
    rw [Layout.uint32, UInt32.toNat_ofNat_of_lt' hn]
  · rintro rfl
    exact ⟨v.toNat, ⟨v.toNat_lt, rfl⟩, UInt32.ofNat_toNat⟩

theorem recognizes_uint64 : Recognizes uint64 Layout.uint64 := by
  refine ((recognizes_number 8).map _).congr fun d v => ?_
  constructor
  · rintro ⟨n, ⟨hn, rfl⟩, rfl⟩
    rw [Layout.uint64, UInt64.toNat_ofNat_of_lt' hn]
  · rintro rfl
    exact ⟨v.toNat, ⟨v.toNat_lt, rfl⟩, UInt64.ofNat_toNat⟩

theorem recognizes_int32 : Recognizes int32 Layout.int32 := by
  refine (recognizes_uint32.map _).congr fun d v => ?_
  constructor
  · rintro ⟨u, rfl, rfl⟩
    rfl
  · rintro rfl
    exact ⟨v.toUInt32, rfl, rfl⟩

theorem recognizes_int64 : Recognizes int64 Layout.int64 := by
  refine (recognizes_uint64.map _).congr fun d v => ?_
  constructor
  · rintro ⟨u, rfl, rfl⟩
    rfl
  · rintro rfl
    exact ⟨v.toUInt64, rfl, rfl⟩

theorem recognizes_padded (n : Length) : Recognizes (padded n) (Layout.padded n) := by
  -- where the reader stands only shows in its error
  apply Recognizes.get_bind
  intro start
  refine ((recognizes_take _).bind (M := fun slot d a =>
    Bytes.firstNonZero? (slot.drop n) = none ∧ d = [] ∧ a = slot.take n) ?_).congr ?_
  · intro slot
    rcases hz : Bytes.firstNonZero? (slot.drop n) with _ | i
    · exact (recognizes_pure _).congr fun d a => by simp [Layout.empty]
    · exact (recognizes_throw _).congr fun d a => by simp
  · intro d a
    constructor
    · rintro ⟨slot, _, _, ⟨hlen, rfl⟩, ⟨hz, rfl, rfl⟩, rfl⟩
      have hle := le_paddedLength n
      refine ⟨by rw [List.length_take, hlen]; exact Nat.min_eq_left hle, ?_⟩
      rw [List.append_nil]
      exact (Bytes.eq_padded_take_iff hlen).2 hz
    · rintro ⟨ha, rfl⟩
      have htake : (Bytes.padded a).take n = a := by rw [← ha]; exact List.take_left
      have hlen : (Bytes.padded a).length = paddedLength n := by rw [← ha]; exact Bytes.length_padded a
      refine ⟨_, _, [], ⟨hlen, rfl⟩, ⟨?_, rfl, htake.symm⟩, (List.append_nil _).symm⟩
      rw [← Bytes.eq_padded_take_iff hlen, htake]

theorem recognizes_blob : Recognizes blob Layout.blob := by
  have step : ∀ length : Int32, Recognizes
      (if length < 0 then throw (.invalidBlobLength length) else padded (.ofInt32 length))
      fun d a => ¬ length < 0 ∧ Layout.padded length.toInt.toNat d a :=
    fun length => (recognizes_padded _).unless _
  refine (recognizes_int32.bind step).congr fun d a => ?_
  constructor
  · rintro ⟨length, _, _, rfl, ⟨h, ha, rfl⟩, rfl⟩
    rw [Bytes.toNat_toUInt32_of_nonneg h, ← ha]
    exact ⟨ha ▸ Bytes.toNat_toInt_le length, rfl⟩
  · rintro ⟨hle, rfl⟩
    obtain ⟨length, h, ha⟩ := Bytes.exists_toNat_toInt_eq hle
    refine ⟨length, _, _, rfl, ⟨h, ha.symm, rfl⟩, ?_⟩
    rw [Bytes.toNat_toUInt32_of_nonneg h, ha]

/-- What the reader of texts requires of the bytes ahead. -/
theorem text_eq_ok_iff {c c' : Cursor} {s : String} :
    text c = .ok s c' ↔
      ∃ tail, c.rest = Bytes.ofText s ++ 0 :: tail ∧ 0 ∉ Bytes.ofText s ∧
        paddedLength ((Bytes.ofText s).length + 1) ≤ c.rest.length ∧
        Bytes.firstNonZero? ((c.rest.take (paddedLength ((Bytes.ofText s).length + 1))).drop
          ((Bytes.ofText s).length + 1)) = none ∧
        c' = c.advance (paddedLength ((Bytes.ofText s).length + 1)) := by
  constructor
  · intro h
    unfold text at h
    dsimp only at h
    split_ifs at h with hend hlong
    split at h
    · cases h
    next hz =>
      split at h
      · cases h
      next s' hs =>
        cases h
        obtain ⟨zero, tail, htail⟩ := List.exists_cons_of_ne_nil (mt List.isEmpty_iff.2 hend)
        obtain ⟨hc, hzero⟩ := eq_append_of_dropWhile_eq_cons htail
        rw [List.length_take] at hlong
        rw [Bytes.ofText_of_toText? hs]
        exact ⟨tail, hc, hzero, by omega, hz, rfl⟩
  · rintro ⟨tail, hc, hzero, hlong, hz, rfl⟩
    have hbefore : c.rest.takeWhile (· ≠ 0) = Bytes.ofText s := by
      rw [hc, takeWhile_append_separator hzero]
    have hbehind : c.rest.dropWhile (· ≠ 0) = 0 :: tail := by
      rw [hc, dropWhile_append_separator hzero]
    unfold text
    dsimp only
    rw [hbefore, hbehind, if_neg (by simp), if_neg (by rw [List.length_take]; omega), hz]
    dsimp only
    rw [Bytes.toText?_ofText]

theorem recognizes_text : Recognizes text Layout.text := by
  intro c s c'
  rw [text_eq_ok_iff]
  have hlen : (Bytes.padded (Bytes.ofText s ++ [0])).length =
      paddedLength ((Bytes.ofText s).length + 1) := by
    rw [Bytes.length_padded, List.length_append, List.length_singleton]
  constructor
  · rintro ⟨tail, hc, hzero, hlong, hz, rfl⟩
    refine ⟨_, ⟨hzero, rfl⟩, ?_, ?_⟩
    · rw [hc] at hlong hz
      rw [← (Bytes.take_eq_padded_iff hlong).2 hz, ← hc]
      exact (List.take_append_drop ..).symm
    · rw [hlen]
      rfl
  · rintro ⟨_, ⟨hzero, rfl⟩, hr, hp⟩
    obtain ⟨tail, hc⟩ : ∃ tail, c.rest = Bytes.ofText s ++ 0 :: tail := by
      rw [hr, Bytes.padded]
      exact ⟨_, by rw [List.append_assoc, List.append_assoc]; rfl⟩
    have hlong : paddedLength ((Bytes.ofText s).length + 1) ≤ c.rest.length := by
      rw [hr, List.length_append]
      omega
    have htake : c.rest.take (paddedLength ((Bytes.ofText s).length + 1)) =
        Bytes.padded (Bytes.ofText s ++ [0]) := by
      rw [hr]
      exact List.take_left' hlen
    refine ⟨tail, hc, hzero, hlong, ?_, ?_⟩
    · rw [hc] at hlong htake ⊢
      exact (Bytes.take_eq_padded_iff hlong).1 htake
    · rw [Cursor.eq_advance_iff, hp, hlen, hr]
      exact ⟨(List.drop_left' hlen).symm, rfl⟩

end Reader

/-! ### Steps that may fail -/

theorem except_bind_eq_ok_iff {ε α β : Type} {x : Except ε α} {f : α → Except ε β} {b : β} :
    x >>= f = .ok b ↔ ∃ a, x = .ok a ∧ f a = .ok b := by
  rcases x with e | a <;> simp [bind, Except.bind]

theorem except_pure_eq_ok_iff {ε α : Type} {a b : α} :
    (pure a : Except ε α) = .ok b ↔ b = a := by
  simp [pure, Except.pure, eq_comm]

theorem except_map_eq_ok_iff {ε α β : Type} {x : Except ε α} {f : α → β} {b : β} :
    f <$> x = .ok b ↔ ∃ a, x = .ok a ∧ b = f a := by
  rcases x with e | a <;> simp [Functor.map, Except.map, eq_comm]

end OpenSound
