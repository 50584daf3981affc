import OpenSound.Proofs.Eras

/-!
# The era closest to a reference

The instants that a tag names lie an era apart from each other, so one of them is closest to a
reference exactly when it is no more than half an era away (`closest_iff_distance_le`).  The era is
chosen by whole seconds, and chosen well unless these are half an era apart to the second.  Then it
is up to the fractions on which side of the half the tag lies, and the fractions are not asked
(`near_closest_iff`).  A reference at a whole second before 1970 counts under the second before it,
as if it were a full second past that one.
-/

namespace OpenSound

namespace Instant

/-- How far two moments are apart, in nanoseconds. -/
def distance (t u : Instant) : Nat := (t.nanoseconds - u.nanoseconds).natAbs

/-- Nanoseconds since the second under which a reference is counted. -/
def sinceReferenceSecond (t : Instant) : Int := t.nanoseconds - t.referenceSecond * nanosPerSecond

/-- A reference lies in the second under which it is counted, or at the end of it. -/
theorem sinceReferenceSecond_bounds (t : Instant) :
    0 ≤ t.sinceReferenceSecond ∧ t.sinceReferenceSecond ≤ nanosPerSecond := by
  unfold sinceReferenceSecond referenceSecond seconds nanosPerSecond
  split_ifs <;> omega

end Instant

namespace TimeTag

/-- Nanoseconds in half an era. -/
def halfEra : Nat := eraSeconds / 2 * nanosPerSecond

/-- The seconds from the one under which the reference is counted to that of the tag, in the era
chosen for the reference. -/
def offsetNear (tag : TimeTag) (reference : Instant) : Int :=
  tag.eraNear reference * eraSeconds + tag.seconds - unixEpochSeconds - reference.referenceSecond

/-- By its seconds the tag is half an era away from the reference, and by its fraction it is
further. -/
def LiesBeyondHalf (tag : TimeTag) (reference : Instant) : Prop :=
  tag.offsetNear reference = (eraSeconds / 2 : Nat) ∧
      reference.sinceReferenceSecond < fromFraction tag.fraction ∨
    tag.offsetNear reference = -(eraSeconds / 2 : Nat) ∧
      fromFraction tag.fraction < reference.sinceReferenceSecond

section Distance

variable (tag : TimeTag) (reference : Instant)

theorem seconds_lt : tag.seconds < eraSeconds := by
  have h := tag.raw.toNat_lt
  unfold seconds eraSeconds
  omega

theorem fromFraction_fraction_le : fromFraction tag.fraction ≤ nanosPerSecond := by
  have h : tag.fraction < eraSeconds := Nat.mod_lt _ (by decide)
  unfold fromFraction eraSeconds nanosPerSecond at *
  omega

theorem nanoseconds_inEra (era : Int) :
    (tag.inEra era).nanoseconds =
      (era * eraSeconds + tag.seconds - unixEpochSeconds) * nanosPerSecond +
        fromFraction tag.fraction := rfl

/-- Instants of one tag are whole eras apart. -/
theorem nanoseconds_inEra_sub (era era' : Int) :
    (tag.inEra era).nanoseconds - (tag.inEra era').nanoseconds =
      (era - era') * (eraSeconds * nanosPerSecond : Nat) := by
  rw [nanoseconds_inEra, nanoseconds_inEra]
  unfold eraSeconds nanosPerSecond
  omega

/-- An instant of the tag is closest exactly when it is no more than half an era away: the ones next
to it lie on either side, an era away from it. -/
theorem closest_iff_distance_le (era : Int) :
    (∀ other, (tag.inEra era).distance reference ≤ (tag.inEra other).distance reference) ↔
      (tag.inEra era).distance reference ≤ halfEra := by
  have hapart := fun other => tag.nanoseconds_inEra_sub other era
  unfold Instant.distance halfEra eraSeconds nanosPerSecond at *
  constructor
  · intro h
    have hbefore := h (era - 1)
    have hbehind := h (era + 1)
    have := hapart (era - 1)
    have := hapart (era + 1)
    omega
  · intro h other
    have := hapart other
    rcases Int.lt_trichotomy other era with hlt | rfl | hgt
    · omega
    · exact Nat.le_refl _
    · omega

/-- The seconds are never more than half an era apart. -/
theorem offsetNear_bounds :
    -(eraSeconds / 2 : Nat) ≤ tag.offsetNear reference ∧
      tag.offsetNear reference ≤ (eraSeconds / 2 : Nat) := by
  have hseconds := tag.seconds_lt
  unfold offsetNear eraNear
  dsimp only
  unfold eraSeconds unixEpochSeconds at *
  split_ifs <;> omega

/-- The way from the reference to the instant, in seconds and what comes on top of them. -/
theorem nanoseconds_near_sub :
    (tag.near reference).nanoseconds - reference.nanoseconds =
      tag.offsetNear reference * nanosPerSecond +
        (fromFraction tag.fraction - reference.sinceReferenceSecond) := by
  rw [near, nanoseconds_inEra]
  unfold offsetNear Instant.sinceReferenceSecond nanosPerSecond
  omega

theorem distance_near_le_iff :
    (tag.near reference).distance reference ≤ halfEra ↔ ¬ tag.LiesBeyondHalf reference := by
  have hway := tag.nanoseconds_near_sub reference
  have hoffset := tag.offsetNear_bounds reference
  have hfraction := tag.fromFraction_fraction_le
  have hsince := reference.sinceReferenceSecond_bounds
  unfold LiesBeyondHalf Instant.distance halfEra eraSeconds nanosPerSecond at *
  omega

end Distance

/-- The instant chosen for a reference is one that the tag names.  None of the others is closer,
and it is no more than half an era away, unless the seconds are half an era apart and the fractions
take the tag beyond that.  Even then it is no more than a second beyond. -/
theorem near_closest_iff (tag : TimeTag) (reference : Instant) :
    (∃ era, tag.near reference = tag.inEra era) ∧
    ((∀ era, (tag.near reference).distance reference ≤ (tag.inEra era).distance reference) ↔
      ¬ tag.LiesBeyondHalf reference) ∧
    ((tag.near reference).distance reference ≤ halfEra ↔ ¬ tag.LiesBeyondHalf reference) ∧
    (tag.near reference).distance reference ≤ halfEra + nanosPerSecond := by
  have hhalf := tag.distance_near_le_iff reference
  refine ⟨⟨tag.eraNear reference, rfl⟩, ?_, hhalf, ?_⟩
  · rw [← hhalf]
    exact tag.closest_iff_distance_le reference (tag.eraNear reference)
  · have hway := tag.nanoseconds_near_sub reference
    have hoffset := tag.offsetNear_bounds reference
    have hfraction := tag.fromFraction_fraction_le
    have hsince := reference.sinceReferenceSecond_bounds
    unfold Instant.distance halfEra eraSeconds nanosPerSecond at *
    omega

/-- A tag that is put half a second further than half an era behind the start of era 1, though in
era 0 it comes closer, and one that is put a second further than half an era in front of the last
second before 1970, though in era 1 it comes closer. -/
theorem near_beyond_half :
    (near ⟨9223372039002259456⟩ (.ofParts 2085978496 0) = .ofParts 4233462144 500000000 ∧
      (near ⟨9223372039002259456⟩ (.ofParts 2085978496 0)).distance (.ofParts 2085978496 0) =
        halfEra + 500000000 ∧
      (inEra ⟨9223372039002259456⟩ 0).distance (.ofParts 2085978496 0) = halfEra - 500000000) ∧
    (near ⟨264162607785574400⟩ (.ofParts (-1) 0) = .ofParts (-2147483650) 0 ∧
      (near ⟨264162607785574400⟩ (.ofParts (-1) 0)).distance (.ofParts (-1) 0) =
        halfEra + 1000000000 ∧
      (inEra ⟨264162607785574400⟩ 1).distance (.ofParts (-1) 0) = halfEra - 1000000000) := by
  decide

end TimeTag

end OpenSound
