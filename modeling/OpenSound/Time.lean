import OpenSound.Text.Hex

/-!
# Instants and time tags

An `Instant` is a moment on the wall clock, to the nanosecond.  A `TimeTag` counts seconds since
1900 in 32 bits and a binary fraction of a second in 32 more, so it names one instant in each era of
2³² seconds.  `TimeTag.ofInstant` forgets the era, `TimeTag.inEra` supplies one, and
`TimeTag.near` picks the era that lies closest to a reference.  One tag stands for no instant at
all: `TimeTag.immediate` asks for delivery at once.
-/

namespace OpenSound

/-- Nanoseconds in a second. -/
def nanosPerSecond : Nat := 1000000000

/-- Nanoseconds in a millisecond. -/
def nanosPerMillisecond : Nat := 1000000

/-- Seconds from the start of 1900 to the start of 1970. -/
def unixEpochSeconds : Nat := 2208988800

/-- Seconds in an era, the span after which time tags repeat. -/
def eraSeconds : Nat := 4294967296

/-- A moment on the wall clock. -/
structure Instant where
  /-- Nanoseconds since the start of 1970, negative before it. -/
  nanoseconds : Int
deriving DecidableEq, Repr, Inhabited

namespace Instant

/-- The moment `nanos` nanoseconds after a whole second. -/
def ofParts (seconds : Int) (nanos : Nat) : Instant := ⟨seconds * nanosPerSecond + nanos⟩

/-- The whole second at or before the moment, counted from the start of 1970. -/
def seconds (t : Instant) : Int := t.nanoseconds / nanosPerSecond

/-- Nanoseconds since that whole second. -/
def subsecond (t : Instant) : Nat := (t.nanoseconds % nanosPerSecond).toNat

/-- The moment `delay` nanoseconds later. -/
def after (t : Instant) (delay : Nat) : Instant := ⟨t.nanoseconds + delay⟩

/-- Whether a clock that counts whole seconds in 64 bits can show the moment. -/
def isOnClock (t : Instant) : Bool :=
  Int64.minValue.toInt ≤ t.seconds && t.seconds ≤ Int64.maxValue.toInt

/-- The whole second under which a reference is counted when an era is chosen.  From 1970 on it is
the second at or before the moment; earlier it is the last second strictly before it. -/
def referenceSecond (t : Instant) : Int :=
  if 0 ≤ t.nanoseconds then t.seconds else -(-t.nanoseconds / nanosPerSecond) - 1

theorem subsecond_lt (t : Instant) : t.subsecond < nanosPerSecond := by
  unfold subsecond nanosPerSecond; omega

/-- A moment is its whole second and the nanoseconds since. -/
theorem ofParts_seconds_subsecond (t : Instant) : ofParts t.seconds t.subsecond = t := by
  cases t
  simp only [ofParts, seconds, subsecond, nanosPerSecond, mk.injEq]
  omega

end Instant

/-- A time tag: whole seconds of an era in the upper half, a binary fraction in the lower half. -/
structure TimeTag where
  raw : UInt64
deriving DecidableEq, Repr, Inhabited

namespace TimeTag

/-- The tag that asks for delivery at once. -/
def immediate : TimeTag := ⟨1⟩

def isImmediate (tag : TimeTag) : Bool := tag = immediate

/-- The tag with the given seconds and fraction. -/
def ofParts (seconds fraction : UInt32) : TimeTag :=
  ⟨UInt64.ofNat (seconds.toNat * eraSeconds + fraction.toNat)⟩

/-- Whole seconds since the start of the era. -/
def seconds (tag : TimeTag) : Nat := tag.raw.toNat / eraSeconds

/-- The fraction of a second, in units of 2⁻³² seconds. -/
def fraction (tag : TimeTag) : Nat := tag.raw.toNat % eraSeconds

/-- The tag of an instant.  The fraction goes to the nearest unit, a half upwards. -/
def ofInstant (t : Instant) : TimeTag :=
  let seconds := (t.seconds + unixEpochSeconds) % eraSeconds
  let scaled := t.subsecond * eraSeconds
  let half := if nanosPerSecond ≤ scaled % nanosPerSecond * 2 then 1 else 0
  ofParts (UInt32.ofNat seconds.toNat) (UInt32.ofNat (scaled / nanosPerSecond + half))

/-- The instant that the tag names in an era; era 0 starts in 1900.  The fraction goes to the
nearest nanosecond, a half upwards, and may fill up the second. -/
def inEra (tag : TimeTag) (era : Int) : Instant :=
  let nanos := (tag.fraction * nanosPerSecond + eraSeconds / 2) / eraSeconds
  .ofParts (era * eraSeconds + tag.seconds - unixEpochSeconds) nanos

/-- The era in which the tag lies closest to the reference: its own era, or a neighbour when the
tag's seconds are more than half an era away. -/
def eraNear (tag : TimeTag) (reference : Instant) : Int :=
  let second := reference.referenceSecond + unixEpochSeconds
  let offset : Int := tag.seconds - second % eraSeconds
  let era := second / eraSeconds
  if (eraSeconds / 2 : Nat) < offset then era - 1
  else if offset < -(eraSeconds / 2 : Nat) then era + 1
  else era

/-- The instant that the tag names in the era closest to the reference. -/
def near (tag : TimeTag) (reference : Instant) : Instant := tag.inEra (tag.eraNear reference)

/-- The nanoseconds left until the tag is due, if it is not due yet.  The immediate tag always
is. -/
def delayFrom? (tag : TimeTag) (now : Instant) : Option Nat :=
  let left := (tag.near now).nanoseconds - now.nanoseconds
  if tag.isImmediate then none else if 0 < left then some left.toNat else none

/-- The tag of the moment `delay` nanoseconds from now, if the clock can show that moment. -/
def after? (now : Instant) (delay : Nat) : Option TimeTag :=
  if (now.after delay).isOnClock then some (ofInstant (now.after delay)) else none

/-- Tags are ordered by their raw value: by seconds, then by fraction. -/
instance : Ord TimeTag := ⟨fun a b => compare a.raw b.raw⟩

/-- The tag as text: its seconds in decimal, and its fraction in eight hexadecimal digits. -/
def display (tag : TimeTag) : String :=
  if tag.isImmediate then "immediate"
  else s!"{tag.seconds}." ++ String.ofList (Text.hexPadded 8 tag.fraction)

theorem seconds_ofParts (seconds fraction : UInt32) :
    (ofParts seconds fraction).seconds = seconds.toNat := by
  have hs := seconds.toNat_lt
  have hf := fraction.toNat_lt
  simp only [TimeTag.seconds, ofParts, eraSeconds, UInt64.toNat_ofNat']
  omega

theorem fraction_ofParts (seconds fraction : UInt32) :
    (ofParts seconds fraction).fraction = fraction.toNat := by
  have hs := seconds.toNat_lt
  have hf := fraction.toNat_lt
  simp only [TimeTag.fraction, ofParts, eraSeconds, UInt64.toNat_ofNat']
  omega

end TimeTag

end OpenSound
