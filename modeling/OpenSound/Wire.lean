import OpenSound.Error

/-!
# The wire

A `Cursor` stands somewhere in a string of bytes.  A `Reader` moves it on and yields a value, or
fails and leaves it where the failure found it; offsets in errors count from the start of the
bytes.  An `Attempt` may break off as well.  `Bytes.paddedText?` and `Bytes.sizedBlob?` write what
`Reader.text` and `Reader.blob` read.
A `Writer` goes on with the bytes that have been written so far.
-/

namespace OpenSound

/-- A place in a string of bytes: how many lie behind it, and those that lie ahead. -/
structure Cursor where
  position : Nat
  rest : Bytes
deriving DecidableEq, Repr, Inhabited

namespace Cursor

/-- The cursor before the first byte. -/
def ofBytes (data : Bytes) : Cursor := ⟨0, data⟩

/-- How many bytes lie ahead. -/
def remaining (c : Cursor) : Nat := c.rest.length

def isEmpty (c : Cursor) : Bool := c.rest.isEmpty

/-- The next byte, which stays ahead. -/
def peek? (c : Cursor) : Option UInt8 := c.rest.head?

/-- The cursor `n` bytes further on. -/
def advance (c : Cursor) (n : Nat) : Cursor := ⟨c.position + n, c.rest.drop n⟩

end Cursor

/-- A reading step: a value and the cursor after it, or an error and the cursor it leaves. -/
abbrev Reader (α : Type) := EStateM ParseError Cursor α

namespace Reader

/-- Takes exactly `n` bytes. -/
def take (n : Nat) : Reader Bytes := fun c =>
  let front := c.rest.take n
  if front.length = n then .ok front (c.advance n)
  else .error (.truncated n c.remaining) c

/-- A number of `width` bytes, the most significant first. -/
def number (width : Nat) : Reader Nat := Bytes.ofBigEndian <$> take width

def uint32 : Reader UInt32 := UInt32.ofNat <$> number 4

def uint64 : Reader UInt64 := UInt64.ofNat <$> number 8

def int32 : Reader Int32 := UInt32.toInt32 <$> uint32

def int64 : Reader Int64 := UInt64.toInt64 <$> uint64

/-- A text: its encoding, a zero, and further zeros up to a multiple of four bytes. -/
def text : Reader String := fun c =>
  let body := c.rest.takeWhile (· ≠ 0)
  let total := paddedLength (body.length + 1)
  let slot := c.rest.take total
  if (c.rest.dropWhile (· ≠ 0)).isEmpty then .error (.unterminatedString c.position) c
  else if slot.length < total then .error (.truncated total c.remaining) c
  else match Bytes.firstNonZero? (slot.drop (body.length + 1)) with
    | some i => .error (.invalidPadding (c.position + body.length + 1 + i)) c
    | none =>
      match Bytes.toText? body with
      | none => .error (.invalidUtf8 c.position) c
      | some s => .ok s (c.advance total)

/-- A payload of `length` bytes and the zeros that fill it up to a multiple of four.  When a filling
byte is not zero, the payload has been read all the same. -/
def padded (length : Length) : Reader Bytes := do
  let start := (← get).position
  let slot ← take (paddedLength length)
  match Bytes.firstNonZero? (slot.drop length) with
  | some i => throw (.invalidPadding (start + length + i))
  | none => pure (slot.take length)

/-- A payload behind its own length. -/
def blob : Reader Bytes := do
  let length ← int32
  if length < 0 then throw (.invalidBlobLength length) else padded (.ofInt32 length)

end Reader

/-- Why an attempt to read yields nothing. -/
inductive Fault where
  | failed (cause : ParseError)
  /-- The program broke off in the middle. -/
  | panicked (text : String)
deriving DecidableEq, Repr

/-- A reading step that may break off. -/
abbrev Attempt (α : Type) := EStateM Fault Cursor α

namespace Reader

/-- The step, which never breaks off. -/
def attempt {α : Type} (r : Reader α) : Attempt α := EStateM.adaptExcept .failed r

/-- What `padded` reads, for any length that a machine word can hold.  A length that overflows when
it is rounded up breaks the program off, when the sum is computed or when the payload turns out to
begin behind the end of what was taken. -/
def attemptPadded (checked : Bool) (length : UInt64) : Attempt Bytes := do
  let start := (← get).position
  match paddedWord checked length with
  | .error text => throw (.panicked text)
  | .ok total =>
    let slot ← (take total.toNat).attempt
    if slot.length < length.toNat then
      throw (.panicked
        s!"range start index {length.toNat} out of range for slice of length {slot.length}")
    else match Bytes.firstNonZero? (slot.drop length.toNat) with
      | some i => throw (.failed (.invalidPadding (start + length.toNat + i)))
      | none => pure (slot.take length.toNat)

/-! ### Steps that succeed -/

theorem bind_eq_ok {α β : Type} {r : Reader α} {next : α → Reader β} {c c' : Cursor} {b : β} :
    (r >>= next) c = .ok b c' ↔ ∃ a c₁, r c = .ok a c₁ ∧ next a c₁ = .ok b c' := by
  cases h : r c with
  | error => simp [bind, EStateM.bind, h]
  | ok a c₁ => simp [bind, EStateM.bind, h, and_assoc]

theorem map_eq_ok {α β : Type} {r : Reader α} {f : α → β} {c c' : Cursor} {b : β} :
    (f <$> r) c = .ok b c' ↔ ∃ a, r c = .ok a c' ∧ f a = b := by
  cases h : r c with
  | error => simp [Functor.map, EStateM.map, h]
  | ok a c₁ => simp [Functor.map, EStateM.map, h]; grind

theorem take_eq_ok {n : Nat} {c c' : Cursor} {data : Bytes} :
    take n c = .ok data c' ↔
      n ≤ c.rest.length ∧ data = c.rest.take n ∧ c' = c.advance n := by
  unfold take
  simp only [List.length_take]
  split
  · simp only [EStateM.Result.ok.injEq]
    constructor
    · rintro ⟨rfl, rfl⟩
      exact ⟨by omega, rfl, rfl⟩
    · rintro ⟨_, rfl, rfl⟩
      exact ⟨rfl, rfl⟩
  · simp only [reduceCtorEq, false_iff]
    omega

end Reader

namespace Bytes

/-- The largest length that a signed prefix of 32 bits can hold. -/
def maxLengthPrefix : Nat := 2147483647

/-- A text with a zero behind it and further zeros up to a multiple of four bytes.  A text that
holds a zero itself cannot be written. -/
def paddedText? (text : String) : Except EncodeError Bytes :=
  let body := ofText text
  if 0 ∈ body then .error .embeddedNul else .ok (padded (body ++ [0]))

/-- A length as a prefix of four bytes. -/
def lengthPrefix? (length : Nat) : Except EncodeError Bytes :=
  if length ≤ maxLengthPrefix then .ok (bigEndian 4 length) else .error (.tooLarge length)

/-- A payload behind its own length. -/
def sizedBlob? (data : Bytes) : Except EncodeError Bytes := do
  let front ← lengthPrefix? data.length
  return front ++ padded data

end Bytes

/-- A writing step: what becomes of the bytes written so far, or why they cannot be gone on with. -/
abbrev Writer (α : Type) := StateT Bytes (Except EncodeError) α

namespace Writer

/-- Writes bytes behind those written so far. -/
def put (data : Bytes) : Writer Unit := modify (· ++ data)

/-- Writes the length of what the body writes in front of it.  Four bytes are left free for the
length, and filled in when the body has been written. -/
def sized (body : Writer Unit) : Writer Unit := do
  let start := (← get).length
  put [0, 0, 0, 0]
  body
  let size ← Bytes.lengthPrefix? ((← get).length - start - 4)
  modify fun written => written.take start ++ size ++ written.drop (start + 4)

end Writer

end OpenSound
