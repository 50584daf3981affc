/-!
# Byte strings

Everything on the wire is a string of bytes, laid out on a grid of four bytes.  `padded` fills a
string with zeros up to the grid, `bigEndian` writes a number with a fixed count of bytes and
`ofBigEndian` reads one, and `ofText` and `toText?` go between text and its encoding in UTF-8.
-/

namespace OpenSound

/-- A string of bytes. -/
abbrev Bytes := List UInt8

/-- The least multiple of four that is at least `n`. -/
def paddedLength (n : Nat) : Nat := (n + 3) / 4 * 4

theorem le_paddedLength (n : Nat) : n ≤ paddedLength n := by
  unfold paddedLength; omega

theorem paddedLength_mod_four (n : Nat) : paddedLength n % 4 = 0 := by
  unfold paddedLength; omega

theorem paddedLength_lt (n : Nat) : paddedLength n < n + 4 := by
  unfold paddedLength; omega

/-- A length that a machine word can hold even when it has been rounded up.  Nothing that is longer
fits into memory. -/
abbrev Length := Fin 18446744073709551613

/-- A length that came as a signed number of 32 bits; none below zero. -/
def Length.ofInt32 (n : Int32) : Length :=
  ⟨n.toInt.toNat, by have := n.toInt_lt; omega⟩

@[simp]
theorem Length.val_ofInt32 (n : Int32) : (ofInt32 n).val = n.toInt.toNat := rfl

/-- `paddedLength` as machine words compute it.  The sum may overflow: it wraps around then, or the
program breaks off where sums are `checked`. -/
def paddedWord (checked : Bool) (n : UInt64) : Except String UInt64 :=
  if checked && decide (UInt64.size ≤ n.toNat + 3) then .error "attempt to add with overflow"
  else .ok ((n + 3) &&& ~~~3)

namespace Bytes

/-- The bytes followed by zeros up to the next multiple of four. -/
def padded (data : Bytes) : Bytes :=
  data ++ List.replicate (paddedLength data.length - data.length) 0

@[simp]
theorem length_padded (data : Bytes) : (padded data).length = paddedLength data.length := by
  have := le_paddedLength data.length
  simp only [padded, List.length_append, List.length_replicate]
  omega

/-- The `width` lowest digits of `n` in base 256, the most significant first. -/
def bigEndian : (width : Nat) → (n : Nat) → Bytes
  | 0, _ => []
  | width + 1, n => bigEndian width (n / 256) ++ [UInt8.ofNat n]

/-- The number whose digits in base 256 are the bytes, the most significant first. -/
def ofBigEndian (digits : Bytes) : Nat :=
  digits.foldl (fun n digit => n * 256 + digit.toNat) 0

@[simp]
theorem length_bigEndian (width n : Nat) : (bigEndian width n).length = width := by
  induction width generalizing n with
  | zero => rfl
  | succ width ih => simp [bigEndian, ih]

/-- Reading the digits gives back as much of the number as they can hold. -/
theorem ofBigEndian_bigEndian (width n : Nat) :
    ofBigEndian (bigEndian width n) = n % Nat.pow 256 width := by
  induction width generalizing n with
  | zero => simp [bigEndian, ofBigEndian, Nat.mod_one]
  | succ width ih =>
    have step : ofBigEndian (bigEndian (width + 1) n) =
        ofBigEndian (bigEndian width (n / 256)) * 256 + n % 256 := by
      simp [bigEndian, ofBigEndian]
    rw [step, ih, Nat.pow_eq, Nat.pow_eq, Nat.pow_succ', Nat.mod_mul]
    omega

/-- The encoding of a text in UTF-8. -/
def ofText (text : String) : Bytes := text.toUTF8.data.toList

/-- The text that the bytes encode in UTF-8. -/
def toText? (data : Bytes) : Option String := String.fromUTF8? ⟨data.toArray⟩

theorem toText?_ofText (text : String) : toText? (ofText text) = some text := by
  have valid : ByteArray.IsValidUTF8 ⟨text.toUTF8.data⟩ := text.isValidUTF8
  simp only [toText?, ofText, Array.toArray_toList, String.fromUTF8?]
  exact dif_pos valid

theorem ofText_of_toText? {data : Bytes} {text : String} (h : toText? data = some text) :
    ofText text = data := by
  unfold toText? String.fromUTF8? at h
  split at h
  · cases h
    simp [ofText, String.fromUTF8]
  · cases h

/-- The encoding of one code point in the manner of UTF-8, surrogates included. -/
def ofCodePoint (code : Nat) : Bytes :=
  let tail (n : Nat) : UInt8 := UInt8.ofNat (0x80 + n % 0x40)
  if code < 0x80 then [UInt8.ofNat code]
  else if code < 0x800 then [UInt8.ofNat (0xc0 + code / 0x40), tail code]
  else if code < 0x10000 then
    [UInt8.ofNat (0xe0 + code / 0x1000), tail (code / 0x40), tail code]
  else [UInt8.ofNat (0xf0 + code / 0x40000), tail (code / 0x1000), tail (code / 0x40), tail code]

/-- The place of the first byte that is not zero. -/
def firstNonZero? (data : Bytes) : Option Nat := data.findIdx? (· ≠ 0)

end Bytes

end OpenSound
