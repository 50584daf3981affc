import Mathlib.Data.List.Forall2
import OpenSound.Proofs.Canonical

/-!
# Bytes that are cut off

Every part of a packet tells where it ends, so bytes that were cut off or that have something behind
them are refused, with two exceptions.  A message may end right behind its address if the limits let
it do without type tags.  And a bundle goes up to the end of its bytes, so that cut off between two
of its elements (`bundleBytes`) it is a bundle with the first of them.
-/

namespace OpenSound

namespace Codec

variable {codec : Codec}

/-! ### Messages -/

/-- Of two messages of which one goes on where the other one ends, the shorter one ends behind its
address. -/
theorem MessageLayout.untagged_of_append {d more : Bytes} {m m' : Message}
    (h : codec.MessageLayout d m) (h' : codec.MessageLayout (d ++ more) m') (hmore : more ≠ []) :
    codec.limits.allowMissingTypeTags = true ∧ Layout.text d m'.address ∧
      m = { address := m'.address, arguments := [], info := some ⟨""⟩ } := by
  generalize hbytes : d ++ more = bytes at h'
  cases h with
  | @untagged _ address hallow htext _ =>
    cases h' with
    | untagged _ htext' _ =>
      rw [← List.append_nil bytes] at hbytes
      exact absurd (Reader.recognizes_text.append_inj htext htext' hbytes).2.2 hmore
    | tagged htext' _ _ _ =>
      rw [List.append_assoc] at hbytes
      obtain ⟨-, rfl, -⟩ := Reader.recognizes_text.append_inj htext htext' hbytes
      exact ⟨hallow, htext, rfl⟩
  | @tagged d₁ d₂ d₃ address tags arguments htext _ htext₂ hlayout =>
    rw [List.append_assoc, List.append_assoc] at hbytes
    cases h' with
    | untagged _ htext' _ =>
      rw [← List.append_nil bytes] at hbytes
      obtain ⟨-, -, hnil⟩ := Reader.recognizes_text.append_inj htext htext' hbytes
      exact absurd (List.append_eq_nil_iff.1 hnil).1 (Layout.ne_nil_of_text htext₂)
    | @tagged e₁ e₂ e₃ _ tags' _ htext' _ htext₂' hlayout' =>
      rw [List.append_assoc] at hbytes
      obtain ⟨-, -, hbehind⟩ := Reader.recognizes_text.append_inj htext htext' hbytes
      obtain ⟨-, htags, hpayloads⟩ := Reader.recognizes_text.append_inj htext₂ htext₂' hbehind
      obtain rfl := (String.append_right_inj _).1 htags
      -- the tags are the same, so both payloads end where one of them does
      have hread := @recognizes_readArguments codec tags tags.toList
      rw [← List.append_nil e₃] at hpayloads
      exact absurd (hread.append_inj hlayout hlayout' hpayloads).2.2 hmore

/-! ### Elements of bundles -/

/-- The bytes of a bundle with the time tag, the elements of which have the given bytes. -/
def bundleBytes (time : TimeTag) (elements : List Bytes) : Bytes :=
  bundleHeader ++ Bytes.bigEndian 8 time.raw.toNat ++ framed elements

theorem elementsLayout_iff_framed {level : Nat} {ds : Bytes} {packets : List Packet} :
    codec.ElementsLayout level ds packets ↔
      ∃ elements, ds = framed elements ∧
        List.Forall₂ (fun d p => d.length ≤ Bytes.maxLengthPrefix ∧ codec.PacketLayout level d p)
          elements packets := by
  constructor
  · intro h
    induction packets generalizing ds with
    | nil =>
      cases h
      exact ⟨[], rfl, .nil⟩
    | cons packet packets ih =>
      cases h with
      | @cons _ d _ ds _ hle hpacket hpackets =>
        obtain ⟨elements, rfl, helements⟩ := ih hpackets
        exact ⟨d :: elements, (framed_cons d elements).symm, .cons ⟨hle, hpacket⟩ helements⟩
  · rintro ⟨elements, rfl, helements⟩
    induction helements with
    | nil => exact .nil
    | cons hpacket _ ih =>
      rw [framed_cons]
      exact .cons hpacket.1 hpacket.2 ih

/-- Frames in a row begin with other frames in a row only if these are the first of them. -/
theorem exists_eq_append_of_framed {elements others : List Bytes} {more : Bytes}
    (helements : ∀ d ∈ elements, d.length ≤ Bytes.maxLengthPrefix)
    (hothers : ∀ d ∈ others, d.length ≤ Bytes.maxLengthPrefix)
    (h : framed others ++ more = framed elements) :
    ∃ rest, elements = others ++ rest ∧ more = framed rest := by
  induction others generalizing elements with
  | nil => exact ⟨elements, rfl, h⟩
  | cons d others ih =>
    rw [List.forall_mem_cons] at hothers
    rw [framed_cons, List.append_assoc] at h
    cases elements with
    | nil =>
      have hlength := congrArg List.length h
      simp [framed] at hlength
    | cons d' elements =>
      rw [List.forall_mem_cons] at helements
      rw [framed_cons] at h
      obtain ⟨rfl, hbehind⟩ := frame_append_inj hothers.1 helements.1 h
      obtain ⟨rest, rfl, hrest⟩ := ih helements.2 hothers.2 hbehind
      exact ⟨rest, rfl, hrest⟩

theorem forall_length_le_of_forall₂ {level : Nat} {elements : List Bytes} {packets : List Packet}
    (h : List.Forall₂ (fun d p => d.length ≤ Bytes.maxLengthPrefix ∧ codec.PacketLayout level d p)
      elements packets) : ∀ d ∈ elements, d.length ≤ Bytes.maxLengthPrefix := by
  induction h with
  | nil => exact List.forall_mem_nil _
  | cons hpacket _ ih => exact List.forall_mem_cons.2 ⟨hpacket.1, ih⟩

/-- A bundle is laid out by its elements, one behind the other. -/
theorem packetLayout_bundleBytes {level : Nat} {time : TimeTag} {elements : List Bytes}
    {packets : List Packet} (hlevel : level < codec.limits.maxBundleDepth)
    (helements : List.Forall₂ (fun d p => d.length ≤ Bytes.maxLengthPrefix ∧
      codec.PacketLayout (level + 1) d p) elements packets) :
    codec.PacketLayout level (bundleBytes time elements) (.bundle time packets) := by
  have hlayout := elementsLayout_iff_framed.2 ⟨elements, rfl, helements⟩
  exact .bundle (isFramed_bundle hlayout.length_mod_four) hlevel hlayout

/-- What a bundle begins with is a packet only if it is a bundle itself, with the same time tag and
the first of the elements. -/
theorem exists_take_of_prefix {level : Nat} {time : TimeTag} {elements : List Bytes} {d : Bytes}
    {p : Packet} (helements : ∀ e ∈ elements, e.length ≤ Bytes.maxLengthPrefix)
    (hbegins : d <+: bundleBytes time elements) (hne : d ≠ bundleBytes time elements)
    (h : codec.PacketLayout level d p) :
    ∃ k < elements.length, d = bundleBytes time (elements.take k) := by
  obtain ⟨more, hbytes⟩ := hbegins
  have hmark : d.head? = some '#'.toUInt8 := by
    rw [← List.head?_append_of_ne_nil d h.isFramed.1, hbytes, bundleBytes, List.append_assoc]
    exact head?_bundleHeader_append _
  cases h with
  | message _ hmessage _ => exact absurd hmark hmessage
  | @bundle _ inside time' _ _ _ hlayout =>
    obtain ⟨others, rfl, hothers⟩ := elementsLayout_iff_framed.1 hlayout
    rw [bundleBytes, List.append_assoc _ (framed others)] at hbytes
    obtain ⟨hfront, hframed⟩ := List.append_inj hbytes (by simp)
    obtain ⟨rest, rfl, rfl⟩ :=
      exists_eq_append_of_framed helements (forall_length_le_of_forall₂ hothers) hframed
    have hrest : rest ≠ [] := by
      rintro rfl
      rw [hfront, List.append_nil] at hne
      exact hne rfl
    refine ⟨others.length, ?_, ?_⟩
    · rw [List.length_append]
      exact Nat.lt_add_of_pos_right (List.length_pos_iff.2 hrest)
    · rw [List.take_left, hfront, bundleBytes]

/-! ### Packets -/

theorem packetLayout_of_decode {d : Bytes} {p : Packet} (h : codec.decode d = .ok p) :
    codec.PacketLayout 0 d p :=
  (decodeWithin_eq_ok_iff (Nat.zero_add _) d p).1 (decode_eq_ok_iff.1 h)

theorem decode_of_packetLayout {d : Bytes} {p : Packet} (h : codec.PacketLayout 0 d p) :
    codec.decode d = .ok p :=
  decode_eq_ok_iff.2 ((decodeWithin_eq_ok_iff (Nat.zero_add _) d p).2 h)

theorem messageLayout_of_decode {d : Bytes} {m : Message}
    (h : codec.decode d = .ok (.message m)) : codec.MessageLayout d m := by
  cases packetLayout_of_decode h with
  | message _ _ hm => exact hm

theorem exists_bundleBytes_of_decode {d : Bytes} {time : TimeTag} {packets : List Packet}
    (h : codec.decode d = .ok (.bundle time packets)) :
    ∃ elements, d = bundleBytes time elements ∧ 0 < codec.limits.maxBundleDepth ∧
      List.Forall₂ (fun e p => e.length ≤ Bytes.maxLengthPrefix ∧ codec.PacketLayout 1 e p)
        elements packets := by
  cases packetLayout_of_decode h with
  | bundle _ hlevel hlayout =>
    obtain ⟨elements, rfl, helements⟩ := elementsLayout_iff_framed.1 hlayout
    exact ⟨elements, rfl, hlevel, helements⟩

/-- If a message goes on where another one ends, then the shorter one is the address of the longer
one, and the limits let it do without type tags.  What a bundle begins with is a packet exactly if
it ends in front of one of the elements, and then it is the bundle of the elements before that. -/
theorem decode_cut_off (codec : Codec) :
    (∀ d d' m m', codec.decode d = .ok (.message m) → codec.decode d' = .ok (.message m') →
      d <+: d' → d ≠ d' →
      codec.limits.allowMissingTypeTags = true ∧ Layout.text d m'.address ∧
        m = { address := m'.address, arguments := [], info := some ⟨""⟩ }) ∧
    ∀ d time packets, codec.decode d = .ok (.bundle time packets) →
      ∃ elements, d = bundleBytes time elements ∧
        List.Forall₂ (fun e p => e.length ≤ Bytes.maxLengthPrefix ∧ codec.PacketLayout 1 e p)
          elements packets ∧
        (∀ d', d' <+: d → d' ≠ d →
          ((∃ p, codec.decode d' = .ok p) ↔
            ∃ k < elements.length, d' = bundleBytes time (elements.take k))) ∧
        ∀ k, codec.decode (bundleBytes time (elements.take k)) =
          .ok (.bundle time (packets.take k)) := by
  constructor
  · rintro d _ m m' h h' ⟨more, rfl⟩ hne
    have hmore : more ≠ [] := by
      rintro rfl
      exact hne (List.append_nil d).symm
    exact (messageLayout_of_decode h).untagged_of_append (messageLayout_of_decode h') hmore
  · intro d time packets h
    obtain ⟨elements, rfl, hlevel, helements⟩ := exists_bundleBytes_of_decode h
    have hcut : ∀ k, codec.decode (bundleBytes time (elements.take k)) =
        .ok (.bundle time (packets.take k)) := fun k =>
      decode_of_packetLayout (packetLayout_bundleBytes hlevel (List.forall₂_take k helements))
    refine ⟨elements, rfl, helements, fun d' hbegins hne => ⟨?_, ?_⟩, hcut⟩
    · rintro ⟨p, hp⟩
      exact exists_take_of_prefix (forall_length_le_of_forall₂ helements) hbegins hne
        (packetLayout_of_decode hp)
    · rintro ⟨k, -, rfl⟩
      exact ⟨_, hcut k⟩

/-- A message that ends behind its address. -/
def bareBytes : Bytes := Bytes.ofText "/a" ++ [0, 0]

/-- The same message with an argument. -/
def taggedBytes : Bytes := bareBytes ++ Bytes.ofText ",i" ++ [0, 0] ++ [0, 0, 0, 7]

/-- A bundle of both. -/
def pairBytes : Bytes :=
  bundleHeader ++ [0, 0, 0, 0, 0, 0, 0, 1] ++ [0, 0, 0, 4] ++ bareBytes ++ [0, 0, 0, 12] ++ taggedBytes

def bareMessage : Message := { address := "/a", arguments := [], info := some ⟨""⟩ }

def taggedMessage : Message := { address := "/a", arguments := [.int 7], info := some ⟨"i"⟩ }

theorem decode_cut_off_pairBytes :
    ({} : Codec).decode bareBytes = .ok (.message bareMessage) ∧
      ({} : Codec).decode taggedBytes = .ok (.message taggedMessage) ∧
      bareBytes <+: taggedBytes ∧ bareBytes ≠ taggedBytes ∧ Layout.text bareBytes "/a" ∧
      ({} : Codec).decode pairBytes =
        .ok (.bundle .immediate [.message bareMessage, .message taggedMessage]) ∧
      ∃ elements, pairBytes = bundleBytes .immediate elements ∧ elements.length = 2 ∧
        ((∃ p, ({} : Codec).decode (pairBytes.take 32) = .ok p) ↔
          ∃ k < 2, pairBytes.take 32 = bundleBytes .immediate (elements.take k)) ∧
        ({} : Codec).decode (bundleBytes .immediate (elements.take 1)) =
          .ok (.bundle .immediate [.message bareMessage]) := by
  have hbare : ({} : Codec).decode bareBytes = .ok (.message bareMessage) := by
    with_unfolding_all rfl
  have htagged : ({} : Codec).decode taggedBytes = .ok (.message taggedMessage) := by
    with_unfolding_all rfl
  have hbegins : bareBytes <+: taggedBytes := by decide
  have hne : bareBytes ≠ taggedBytes := by decide
  have hpair : ({} : Codec).decode pairBytes =
      .ok (.bundle .immediate [.message bareMessage, .message taggedMessage]) := by
    with_unfolding_all rfl
  obtain ⟨hmessage, hbundle⟩ := decode_cut_off {}
  obtain ⟨elements, hbytes, helements, hcut, htake⟩ := hbundle _ _ _ hpair
  have hlength : elements.length = 2 := helements.length_eq
  have hinside := hcut (pairBytes.take 32) (List.take_prefix ..) (by decide)
  rw [hlength] at hinside
  exact ⟨hbare, htagged, hbegins, hne, (hmessage _ _ _ _ hbare htagged hbegins hne).2.1, hpair,
    elements, hbytes, hlength, hinside, htake 1⟩

end Codec

end OpenSound
