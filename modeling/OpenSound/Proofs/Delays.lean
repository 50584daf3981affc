import OpenSound.Proofs.Rounding

/-!
# How long a tag is waited for

A tag is waited for until the instant that it names in the era closest to the clock, unless it asks
for delivery at once (`delayFrom?_eq_some_iff`).  A tag that was made from an instant names just
that one if the clock is less than half an era away from it, so it is waited for to the nanosecond,
also when an era begins in the meantime (`delayFrom?_ofInstant`).
-/

namespace OpenSound

namespace TimeTag

section Delay

variable {tag : TimeTag} {now t : Instant}

theorem delayFrom?_immediate (now : Instant) : immediate.delayFrom? now = none := rfl

theorem delayFrom?_of_ne (hne : tag ≠ immediate) :
    tag.delayFrom? now =
      if now.nanoseconds < (tag.near now).nanoseconds then
        some ((tag.near now).nanoseconds - now.nanoseconds).toNat
      else none := by
  have hnot : ¬ tag.isImmediate = true := fun h => hne (of_decide_eq_true h)
  have hahead : 0 < (tag.near now).nanoseconds - now.nanoseconds ↔
      now.nanoseconds < (tag.near now).nanoseconds := by omega
  simp only [delayFrom?, if_neg hnot, hahead]

theorem delayFrom?_eq_some_iff {delay : Nat} :
    tag.delayFrom? now = some delay ↔
      tag ≠ immediate ∧ 0 < delay ∧ now.after delay = tag.near now := by
  by_cases himmediate : tag = immediate
  · rw [himmediate, delayFrom?_immediate]
    exact iff_of_false nofun fun h => h.1 rfl
  · have hafter : now.after delay = tag.near now ↔
        now.nanoseconds + delay = (tag.near now).nanoseconds := by
      rw [← Instant.mk.injEq]
      rfl
    rw [delayFrom?_of_ne himmediate, and_iff_right himmediate, hafter]
    split_ifs with hahead
    · rw [Option.some.injEq]
      omega
    · exact iff_of_false nofun (by omega)

theorem delayFrom?_eq_none_iff :
    tag.delayFrom? now = none ↔
      tag = immediate ∨ (tag.near now).nanoseconds ≤ now.nanoseconds := by
  by_cases himmediate : tag = immediate
  · rw [himmediate]
    exact iff_of_true (delayFrom?_immediate now) (.inl rfl)
  · rw [delayFrom?_of_ne himmediate, or_iff_right himmediate]
    split_ifs with hahead
    · exact iff_of_false nofun (by omega)
    · exact iff_of_true rfl (by omega)

theorem near_ofInstant (hunix : 0 ≤ now.nanoseconds)
    (hclose : (now.seconds - t.seconds).natAbs < eraSeconds / 2) : (ofInstant t).near now = t := by
  rw [near, eraNear_ofInstant hunix hclose, inEra_ofInstant]

/-- Seen from less than half an era away, the tag of an instant is waited for until that instant. -/
theorem delayFrom?_ofInstant (hunix : 0 ≤ now.nanoseconds)
    (hclose : (now.seconds - t.seconds).natAbs < eraSeconds / 2) :
    (ofInstant t).delayFrom? now =
      if now.nanoseconds < t.nanoseconds then some (t.nanoseconds - now.nanoseconds).toNat
      else none := by
  have hne : ofInstant t ≠ immediate := of_decide_eq_false (isImmediate_ofInstant t)
  rw [delayFrom?_of_ne hne, near_ofInstant hunix hclose]

end Delay

/-- Seen from a clock that shows 1970 or later, and less than half an era away, the tag of an
instant is waited for exactly until that instant if it lies ahead, and not at all if it does not,
whatever eras the two are in.  Any tag is waited for, for some time, if it is not the immediate one
and the instant that it names near the clock lies ahead, and then until that instant; otherwise it
is not. -/
theorem delayFrom?_exact (now : Instant) :
    (0 ≤ now.nanoseconds → ∀ t : Instant,
      (now.seconds - t.seconds).natAbs < eraSeconds / 2 →
      (now.nanoseconds < t.nanoseconds →
        (ofInstant t).delayFrom? now = some (t.nanoseconds - now.nanoseconds).toNat) ∧
      (t.nanoseconds ≤ now.nanoseconds → (ofInstant t).delayFrom? now = none)) ∧
    ∀ tag : TimeTag,
      (∀ delay, tag.delayFrom? now = some delay ↔
        tag ≠ immediate ∧ 0 < delay ∧ now.after delay = tag.near now) ∧
      (tag.delayFrom? now = none ↔
        tag = immediate ∨ (tag.near now).nanoseconds ≤ now.nanoseconds) := by
  refine ⟨fun hunix t hclose => ?_, fun tag => ?_⟩
  · rw [delayFrom?_ofInstant hunix hclose]
    exact ⟨fun hlt => if_pos hlt, fun hle => if_neg (Int.not_lt.2 hle)⟩
  · exact ⟨fun delay => delayFrom?_eq_some_iff, delayFrom?_eq_none_iff⟩

/-- A nanosecond before era 1 begins, an instant half a second into it is half a second and a
nanosecond ahead, and one at the end of era 0 is not. -/
theorem delayFrom?_exact_endOfEra :
    0 ≤ (Instant.ofParts 2085978495 999999999).nanoseconds ∧
      ((Instant.ofParts 2085978495 999999999).seconds -
        (Instant.ofParts 2085978496 500000000).seconds).natAbs < eraSeconds / 2 ∧
      (Instant.ofParts 2085978495 999999999).nanoseconds <
        (Instant.ofParts 2085978496 500000000).nanoseconds ∧
      ofInstant (.ofParts 2085978496 500000000) = .ofParts 0 2147483648 ∧
      (ofInstant (.ofParts 2085978496 500000000)).delayFrom? (.ofParts 2085978495 999999999) =
        some 500000001 ∧
      (ofInstant (.ofParts 2085978495 999999999)).delayFrom? (.ofParts 2085978495 999999999) =
        none := by
  have hunix : 0 ≤ (Instant.ofParts 2085978495 999999999).nanoseconds := by decide
  have hclose : ((Instant.ofParts 2085978495 999999999).seconds -
      (Instant.ofParts 2085978496 500000000).seconds).natAbs < eraSeconds / 2 := by decide
  have hahead : (Instant.ofParts 2085978495 999999999).nanoseconds <
      (Instant.ofParts 2085978496 500000000).nanoseconds := by decide
  obtain ⟨hexact, -⟩ := delayFrom?_exact (.ofParts 2085978495 999999999)
  exact ⟨hunix, hclose, hahead, by decide, (hexact hunix _ hclose).1 hahead,
    (hexact hunix _ (by decide)).2 (Int.le_refl _)⟩

end TimeTag

end OpenSound
