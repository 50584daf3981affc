import Mathlib.Tactic.SplitIfs
import OpenSound.Time

/-!
# Instants survive as time tags

A time tag has room for 2³² fractions of a second, more than four for each nanosecond, so rounding
to the nearest fraction and from there to the nearest nanosecond leads back to where it began
(`fromFraction_toFraction`).  What a tag forgets is the era.  It can be told from any reference that
is less than half an era away, whether or not eras begin in between (`eraNear_ofInstant`).
-/

namespace OpenSound

namespace TimeTag

/-! ### Fractions -/

/-- Nanoseconds as a fraction of a second in units of 2⁻³² seconds, a half upwards. -/
def toFraction (nanos : Nat) : Nat :=
  nanos * eraSeconds / nanosPerSecond +
    if nanosPerSecond ≤ nanos * eraSeconds % nanosPerSecond * 2 then 1 else 0

/-- A fraction of a second as nanoseconds, a half upwards. -/
def fromFraction (fraction : Nat) : Nat :=
  (fraction * nanosPerSecond + eraSeconds / 2) / eraSeconds

/-- No fraction is rounded up to a whole second. -/
theorem toFraction_lt {nanos : Nat} (h : nanos < nanosPerSecond) : toFraction nanos < eraSeconds := by
  unfold toFraction
  unfold nanosPerSecond eraSeconds at *
  split_ifs <;> omega

/-- The two roundings cancel: the first is off by half a fraction at most, which is less than half a
nanosecond. -/
theorem fromFraction_toFraction (nanos : Nat) : fromFraction (toFraction nanos) = nanos := by
  unfold fromFraction toFraction nanosPerSecond eraSeconds
  -- what is divided in the end lies between `nanos` eras and one more
  apply Nat.div_eq_of_lt_le
  · split_ifs <;> omega
  · split_ifs <;> omega

/-! ### Eras -/

/-- The era that an instant falls in; era 0 starts in 1900. -/
def eraOf (t : Instant) : Int := (t.seconds + unixEpochSeconds) / eraSeconds

theorem seconds_ofInstant (t : Instant) :
    ((ofInstant t).seconds : Int) = (t.seconds + unixEpochSeconds) % eraSeconds := by
  have hlow : 0 ≤ (t.seconds + unixEpochSeconds) % eraSeconds := Int.emod_nonneg _ (by decide)
  have hhigh : (t.seconds + unixEpochSeconds) % eraSeconds < eraSeconds :=
    Int.emod_lt_of_pos _ (by decide)
  have hfits : ((t.seconds + unixEpochSeconds) % eraSeconds).toNat < UInt32.size := by
    rw [Int.toNat_lt hlow]
    exact hhigh
  rw [ofInstant, seconds_ofParts, UInt32.toNat_ofNat_of_lt' hfits, Int.toNat_of_nonneg hlow]

theorem fraction_ofInstant (t : Instant) : (ofInstant t).fraction = toFraction t.subsecond := by
  rw [ofInstant, fraction_ofParts]
  exact UInt32.toNat_ofNat_of_lt' (toFraction_lt t.subsecond_lt)

/-- In its own era, the tag of an instant names that instant. -/
theorem inEra_ofInstant (t : Instant) : (ofInstant t).inEra (eraOf t) = t := by
  have hnanos : ((ofInstant t).fraction * nanosPerSecond + eraSeconds / 2) / eraSeconds =
      t.subsecond := by
    rw [fraction_ofInstant]
    exact fromFraction_toFraction _
  have hseconds : eraOf t * eraSeconds + (ofInstant t).seconds - unixEpochSeconds = t.seconds := by
    rw [seconds_ofInstant, eraOf, Int.mul_comm, Int.mul_ediv_add_emod]
    exact Int.add_sub_cancel ..
  rw [inEra, hnanos, hseconds, Instant.ofParts_seconds_subsecond]

/-- Seen from less than half an era away, the tag of an instant belongs to the era of that
instant. -/
theorem eraNear_ofInstant {t reference : Instant} (hunix : 0 ≤ reference.nanoseconds)
    (hclose : (reference.seconds - t.seconds).natAbs < eraSeconds / 2) :
    (ofInstant t).eraNear reference = eraOf t := by
  have hreference : reference.referenceSecond = reference.seconds := if_pos hunix
  unfold eraNear eraOf
  rw [hreference, seconds_ofInstant]
  generalize reference.seconds = r at *
  generalize t.seconds = s at *
  unfold eraSeconds unixEpochSeconds at *
  -- the two lie in one era or in neighbouring ones, and the offset tells which
  dsimp only
  split_ifs <;> omega

/-- The tag of an instant leads back to that instant, to the nanosecond: in the era of the instant,
and in the era chosen for a reference from 1970 on that is less than half an era away. -/
theorem ofInstant_leads_back (t : Instant) :
    (ofInstant t).inEra ((t.seconds + unixEpochSeconds) / eraSeconds) = t ∧
      ∀ reference : Instant, 0 ≤ reference.nanoseconds →
        (reference.seconds - t.seconds).natAbs < eraSeconds / 2 →
        (ofInstant t).near reference = t := by
  refine ⟨inEra_ofInstant t, fun reference hunix hclose => ?_⟩
  rw [near, eraNear_ofInstant hunix hclose, inEra_ofInstant]

/-- The last nanosecond of era 0, seen from as far into era 1 as can be. -/
theorem ofInstant_leads_back_endOfEra :
    0 ≤ (Instant.ofParts 4233462142 5).nanoseconds ∧
      ((Instant.ofParts 4233462142 5).seconds -
        (Instant.ofParts 2085978495 999999999).seconds).natAbs < eraSeconds / 2 ∧
      ofInstant (.ofParts 2085978495 999999999) = .ofParts 4294967295 4294967292 ∧
      (ofInstant (.ofParts 2085978495 999999999)).near (.ofParts 4233462142 5) =
        .ofParts 2085978495 999999999 := by
  have hunix : 0 ≤ (Instant.ofParts 4233462142 5).nanoseconds := by decide
  have hclose : ((Instant.ofParts 4233462142 5).seconds -
      (Instant.ofParts 2085978495 999999999).seconds).natAbs < eraSeconds / 2 := by decide
  exact ⟨hunix, hclose, by decide, (ofInstant_leads_back _).2 _ hunix hclose⟩

end TimeTag

end OpenSound
