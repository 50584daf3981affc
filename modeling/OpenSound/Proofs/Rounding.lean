import OpenSound.Proofs.Closeness

/-!
# Time tags under rounding

Fractions of a second are rounded on the way from an instant to its tag, and again on the way from a
tag to an instant that it names.  Neither rounding disturbs the order: tags of one era are ordered
as their instants are, and the instants that tags name in one era are ordered as the tags
(`ofInstant_keeps_order`).  A tag that is read as an instant loses no more than half a nanosecond,
which is a little more than two units of its fraction, and it loses nothing when that is done again
(`ofInstant_inEra_settles`).
-/

namespace OpenSound

/-- The moment a number of eras later. -/
def Instant.erasLater (t : Instant) (eras : Int) : Instant :=
  ⟨t.nanoseconds + eras * (eraSeconds * nanosPerSecond : Nat)⟩

namespace TimeTag

variable {a b : TimeTag}

/-! ### Tags as numbers -/

theorem toNat_raw (tag : TimeTag) : tag.raw.toNat = tag.seconds * eraSeconds + tag.fraction :=
  (Nat.div_add_mod' _ _).symm

theorem fraction_lt (tag : TimeTag) : tag.fraction < eraSeconds := Nat.mod_lt _ (by decide)

theorem eq_of_seconds_eq_of_fraction_eq (hseconds : a.seconds = b.seconds)
    (hfraction : a.fraction = b.fraction) : a = b := by
  have hraw : a.raw.toNat = b.raw.toNat := by rw [toNat_raw, toNat_raw, hseconds, hfraction]
  cases a
  cases b
  exact congrArg mk (UInt64.toNat_inj.1 hraw)

theorem compare_eq_lt_iff : compare a b = .lt ↔ a.raw.toNat < b.raw.toNat :=
  Std.compare_eq_lt (α := UInt64)

theorem isLE_compare_iff : (compare a b).isLE = true ↔ a.raw.toNat ≤ b.raw.toNat :=
  Std.isLE_compare (α := UInt64)

/-! ### Both ways of rounding -/

theorem fromFraction_mono {f g : Nat} (h : f ≤ g) : fromFraction f ≤ fromFraction g :=
  Nat.div_le_div_right (Nat.add_le_add_right (Nat.mul_le_mul_right _ h) _)

/-- A unit of the fraction is the least part of a nanosecond, and no number of nanoseconds comes to
just that. -/
theorem toFraction_ne_one (nanos : Nat) : toFraction nanos ≠ 1 := by
  intro h
  have hback : fromFraction 1 = nanos := h ▸ fromFraction_toFraction nanos
  rw [← hback] at h
  exact absurd h (by decide)

/-- The fraction is no more than half a unit away from the nanoseconds. -/
theorem toFraction_nearest (nanos : Nat) :
    2 * (toFraction nanos * nanosPerSecond) ≤ 2 * (nanos * eraSeconds) + nanosPerSecond ∧
      2 * (nanos * eraSeconds) < 2 * (toFraction nanos * nanosPerSecond) + nanosPerSecond := by
  unfold toFraction eraSeconds nanosPerSecond
  split_ifs <;> omega

/-- The nanoseconds are no more than half of one away from the fraction. -/
theorem fromFraction_nearest (f : Nat) :
    2 * (fromFraction f * eraSeconds) ≤ 2 * (f * nanosPerSecond) + eraSeconds ∧
      2 * (f * nanosPerSecond) < 2 * (fromFraction f * eraSeconds) + eraSeconds := by
  unfold fromFraction eraSeconds nanosPerSecond
  omega

/-- Half a nanosecond is little more than two units, and with half a unit on top of it less than
three. -/
theorem toFraction_fromFraction_close (f : Nat) :
    toFraction (fromFraction f) ≤ f + 2 ∧ f ≤ toFraction (fromFraction f) + 2 := by
  have hback := toFraction_nearest (fromFraction f)
  have hthere := fromFraction_nearest f
  generalize toFraction (fromFraction f) = g at hback ⊢
  unfold eraSeconds nanosPerSecond at *
  omega

/-- The last two units of a second are rounded up to the next one. -/
theorem fromFraction_eq_nanosPerSecond_iff {f : Nat} (h : f < eraSeconds) :
    fromFraction f = nanosPerSecond ↔ eraSeconds ≤ f + 2 := by
  unfold fromFraction eraSeconds nanosPerSecond at *
  omega

/-! ### Order -/

theorem nanoseconds_inEra_mono (era : Int) (h : a.raw.toNat ≤ b.raw.toNat) :
    (a.inEra era).nanoseconds ≤ (b.inEra era).nanoseconds := by
  have hle : a.seconds ≤ b.seconds := Nat.div_le_div_right h
  rw [nanoseconds_inEra, nanoseconds_inEra]
  rcases Nat.lt_or_eq_of_le hle with hlt | heq
  · -- a fraction is rounded up to a second at most, and that is when the next one begins
    have hfraction := a.fromFraction_fraction_le
    unfold nanosPerSecond at *
    omega
  · rw [toNat_raw, toNat_raw, heq, Nat.add_le_add_iff_left] at h
    have hfraction := fromFraction_mono h
    rw [heq]
    omega

/-- The tags of one era name their instants in it, and reading tags in one era keeps their order. -/
theorem nanoseconds_le_of_toNat_raw_le {t u : Instant} (hera : eraOf t = eraOf u)
    (h : (ofInstant t).raw.toNat ≤ (ofInstant u).raw.toNat) : t.nanoseconds ≤ u.nanoseconds := by
  have hle := nanoseconds_inEra_mono (eraOf u) h
  have ht := inEra_ofInstant t
  rw [hera] at ht
  rwa [ht, inEra_ofInstant] at hle

theorem toNat_raw_ofInstant_lt_iff {t u : Instant} (hera : eraOf t = eraOf u) :
    (ofInstant t).raw.toNat < (ofInstant u).raw.toNat ↔ t.nanoseconds < u.nanoseconds := by
  constructor
  · intro h
    have hle := nanoseconds_le_of_toNat_raw_le hera (Nat.le_of_lt h)
    refine Int.lt_iff_le_and_ne.2 ⟨hle, fun heq => ?_⟩
    rw [show t = u from congrArg Instant.mk heq] at h
    exact Nat.lt_irrefl _ h
  · intro h
    refine Nat.lt_of_not_le fun hle => ?_
    exact Int.not_le.2 h (nanoseconds_le_of_toNat_raw_le hera.symm hle)

theorem isImmediate_ofInstant (t : Instant) : (ofInstant t).isImmediate = false := by
  refine decide_eq_false fun h => toFraction_ne_one t.subsecond ?_
  rw [← fraction_ofInstant, h]
  rfl

/-- In one era, the earlier of two instants has the smaller tag.  The fraction of a tag never fills
up the second, so it is kept as it is rounded and the seconds are those of the instant, and no
instant has the immediate tag.  The other way round, the smaller of two tags names no later instant
than the other one in any era, also where its fraction fills up the second. -/
theorem ofInstant_keeps_order :
    (∀ t u : Instant, eraOf t = eraOf u →
      (compare (ofInstant t) (ofInstant u) = .lt ↔ t.nanoseconds < u.nanoseconds)) ∧
    (∀ t : Instant, toFraction t.subsecond < eraSeconds ∧
      (ofInstant t).fraction = toFraction t.subsecond ∧
      ((ofInstant t).seconds : Int) = (t.seconds + unixEpochSeconds) % eraSeconds ∧
      (ofInstant t).isImmediate = false) ∧
    ∀ (a b : TimeTag) (era : Int), (compare a b).isLE = true →
      (a.inEra era).nanoseconds ≤ (b.inEra era).nanoseconds := by
  refine ⟨fun t u h => ?_, fun t => ?_, fun a b era h => ?_⟩
  · rw [compare_eq_lt_iff]
    exact toNat_raw_ofInstant_lt_iff h
  · exact ⟨toFraction_lt t.subsecond_lt, fraction_ofInstant t, seconds_ofInstant t,
      isImmediate_ofInstant t⟩
  · exact nanoseconds_inEra_mono era (isLE_compare_iff.1 h)

/-- Two instants before 1970, a nanosecond apart, and two tags, a unit apart, that name one instant
because the fraction of the first one fills up its second. -/
theorem ofInstant_keeps_order_fullSecond :
    (eraOf (.ofParts (-2) 999999999) = eraOf (.ofParts (-1) 0) ∧
      (Instant.ofParts (-2) 999999999).nanoseconds < (Instant.ofParts (-1) 0).nanoseconds ∧
      compare (ofInstant (.ofParts (-2) 999999999)) (ofInstant (.ofParts (-1) 0)) = .lt) ∧
    (compare (ofParts 5 4294967295) (ofParts 6 0)).isLE = true ∧
      (inEra (ofParts 5 4294967295) 1).nanoseconds ≤ (inEra (ofParts 6 0) 1).nanoseconds ∧
      inEra (ofParts 5 4294967295) 1 = inEra (ofParts 6 0) 1 := by
  obtain ⟨hinstants, -, htags⟩ := ofInstant_keeps_order
  have hera : eraOf (.ofParts (-2) 999999999) = eraOf (.ofParts (-1) 0) := by decide
  have hlt : (Instant.ofParts (-2) 999999999).nanoseconds < (Instant.ofParts (-1) 0).nanoseconds := by
    decide
  have hle : (compare (ofParts 5 4294967295) (ofParts 6 0)).isLE = true := by decide
  exact ⟨⟨hera, hlt, (hinstants _ _ hera).2 hlt⟩, hle, htags _ _ 1 hle, by decide⟩

/-! ### From a tag to an instant and back -/

/-- A tag does not say in which era it is. -/
theorem ofInstant_erasLater (t : Instant) (eras : Int) :
    ofInstant (t.erasLater eras) = ofInstant t := by
  have hseconds : (t.erasLater eras).seconds = t.seconds + eras * eraSeconds := by
    unfold Instant.erasLater Instant.seconds eraSeconds nanosPerSecond
    dsimp only
    omega
  have hsubsecond : (t.erasLater eras).subsecond = t.subsecond := by
    unfold Instant.erasLater Instant.subsecond eraSeconds nanosPerSecond
    dsimp only
    omega
  apply eq_of_seconds_eq_of_fraction_eq
  · rw [← Int.natCast_inj, seconds_ofInstant, seconds_ofInstant, hseconds, Int.add_right_comm,
      Int.add_mul_emod_self_right]
  · rw [fraction_ofInstant, fraction_ofInstant, hsubsecond]

section Back

variable (tag : TimeTag) (era era' : Int)

theorem inEra_eq_erasLater : tag.inEra era = (tag.inEra era').erasLater (era - era') := by
  have h := tag.nanoseconds_inEra_sub era era'
  rw [Int.sub_eq_iff_eq_add'] at h
  exact congrArg Instant.mk h

/-- It makes no difference in which era a tag is read. -/
theorem ofInstant_inEra_eq : ofInstant (tag.inEra era) = ofInstant (tag.inEra era') := by
  rw [tag.inEra_eq_erasLater era era', ofInstant_erasLater]

/-- The tag of an instant stays as it is when it is read in any era. -/
theorem ofInstant_inEra_ofInstant (t : Instant) :
    ofInstant ((ofInstant t).inEra era) = ofInstant t := by
  rw [ofInstant_inEra_eq _ era (eraOf t), inEra_ofInstant]

/-- The fraction that comes back, and the seconds, with one more if the fraction filled up its
second. -/
theorem fraction_ofInstant_inEra :
    (ofInstant (tag.inEra era)).fraction =
      toFraction (fromFraction tag.fraction % nanosPerSecond) := by
  have hsubsecond : (tag.inEra era).subsecond = fromFraction tag.fraction % nanosPerSecond := by
    rw [Instant.subsecond, nanoseconds_inEra]
    unfold nanosPerSecond
    omega
  rw [fraction_ofInstant, hsubsecond]

theorem seconds_ofInstant_inEra :
    (ofInstant (tag.inEra era)).seconds =
      (tag.seconds + fromFraction tag.fraction / nanosPerSecond) % eraSeconds := by
  have hseconds : (tag.inEra era).seconds = era * eraSeconds + tag.seconds - unixEpochSeconds +
      (fromFraction tag.fraction / nanosPerSecond : Nat) := by
    rw [Instant.seconds, nanoseconds_inEra]
    unfold nanosPerSecond
    omega
  rw [← Int.natCast_inj, seconds_ofInstant, hseconds]
  unfold eraSeconds
  omega

theorem parts_ofInstant_inEra_of_lt (h : fromFraction tag.fraction < nanosPerSecond) :
    (ofInstant (tag.inEra era)).seconds = tag.seconds ∧
      (ofInstant (tag.inEra era)).fraction = toFraction (fromFraction tag.fraction) := by
  rw [seconds_ofInstant_inEra, fraction_ofInstant_inEra, Nat.div_eq_of_lt h, Nat.mod_eq_of_lt h]
  exact ⟨Nat.mod_eq_of_lt tag.seconds_lt, rfl⟩

theorem parts_ofInstant_inEra_of_eq (h : fromFraction tag.fraction = nanosPerSecond) :
    (ofInstant (tag.inEra era)).seconds = (tag.seconds + 1) % eraSeconds ∧
      (ofInstant (tag.inEra era)).fraction = 0 := by
  rw [seconds_ofInstant_inEra, fraction_ofInstant_inEra, h]
  exact ⟨rfl, rfl⟩

end Back

theorem raw_close_of_seconds_eq (h : a.seconds = b.seconds) (hle : a.fraction ≤ b.fraction + 2)
    (hle' : b.fraction ≤ a.fraction + 2) : a.raw - b.raw ≤ 2 ∨ b.raw - a.raw ≤ 2 := by
  have ha := a.toNat_raw
  have hb := b.toNat_raw
  rw [h] at ha
  rw [UInt64.le_iff_toNat_le, UInt64.le_iff_toNat_le, UInt64.toNat_sub, UInt64.toNat_sub]
  have := a.raw.toNat_lt
  have := b.raw.toNat_lt
  simp only [UInt64.reduceToNat]
  omega

/-- The numbers go round, from the last second of an era to the first one of the next. -/
theorem raw_sub_le_of_next (h : a.seconds = (b.seconds + 1) % eraSeconds) (hzero : a.fraction = 0)
    (hle : eraSeconds ≤ b.fraction + 2) : a.raw - b.raw ≤ 2 := by
  have ha := a.toNat_raw
  have hb := b.toNat_raw
  have hlt := b.seconds_lt
  have hlt' := b.fraction_lt
  rw [h, hzero] at ha
  rw [UInt64.le_iff_toNat_le, UInt64.toNat_sub]
  simp only [UInt64.reduceToNat]
  unfold eraSeconds at *
  omega

/-- A tag that is read as an instant comes back as a tag that does not depend on the era in which it
was read, and that stays as it is when that is done again.  It is no more than two units away, where
the last unit of an era is followed by the first one of the next.  The seconds change only if the
fraction is so close to the next second that it is rounded up to it. -/
theorem ofInstant_inEra_settles (tag : TimeTag) :
    ∃ settled : TimeTag,
      (∀ era, ofInstant (tag.inEra era) = settled) ∧
      (∀ era, ofInstant (settled.inEra era) = settled) ∧
      (settled.raw - tag.raw ≤ 2 ∨ tag.raw - settled.raw ≤ 2) ∧
      (settled.seconds = tag.seconds ∨
        eraSeconds ≤ tag.fraction + 2 ∧ settled.fraction = 0 ∧
          settled.seconds = (tag.seconds + 1) % eraSeconds) := by
  refine ⟨ofInstant (tag.inEra 0), fun era => tag.ofInstant_inEra_eq era 0,
    fun era => ofInstant_inEra_ofInstant era _, ?_⟩
  rcases Nat.lt_or_eq_of_le tag.fromFraction_fraction_le with hlt | hfull
  · obtain ⟨hseconds, hfraction⟩ := tag.parts_ofInstant_inEra_of_lt 0 hlt
    have hclose := toFraction_fromFraction_close tag.fraction
    rw [← hfraction] at hclose
    exact ⟨raw_close_of_seconds_eq hseconds hclose.1 hclose.2, .inl hseconds⟩
  · obtain ⟨hseconds, hfraction⟩ := tag.parts_ofInstant_inEra_of_eq 0 hfull
    have hlast := (fromFraction_eq_nanosPerSecond_iff tag.fraction_lt).1 hfull
    exact ⟨.inl (raw_sub_le_of_next hseconds hfraction hlast), .inr ⟨hlast, hfraction, hseconds⟩⟩

/-- Two units may be lost, and at the end of an era the tag goes round to its start. -/
example :
    ofInstant (inEra ⟨7⟩ 0) = ⟨9⟩ ∧ ofInstant (inEra ⟨18446744073709551615⟩ 3) = ⟨0⟩ := by
  decide

end TimeTag

end OpenSound
