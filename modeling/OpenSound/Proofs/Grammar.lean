import OpenSound.Codec
import OpenSound.Proofs.Layout

/-!
# The grammar of packets

Which strings of bytes are packets under a codec, and which packets they are, said without a reader:
`Handler.payload` lays out a single argument, `Codec.ArgumentsLayout` the payloads of a string of
type tags, `Codec.MessageLayout` a message and `Codec.PacketLayout` a packet.  Brackets among the
tags take up no bytes.  `level` and `depth` count what lies around: the bundles around a packet, and
the arrays around an argument.
-/

namespace OpenSound

/-- Four bytes, each of them a part of the value. -/
def Layout.quad (make : UInt8 → UInt8 → UInt8 → UInt8 → Argument) : Layout Argument :=
  fun d a => ∃ w x y z, d = [w, x, y, z] ∧ a = make w x y z

/-- A character of ASCII in the first of four bytes; the others are not looked at. -/
def Layout.char : Layout Argument :=
  fun d a => ∃ code x y z, code < 128 ∧ d = [code, x, y, z] ∧ a = .char code

/-- The payloads that a handler knows. -/
def Handler.payload : Handler → Layout Argument
  | int => Layout.int32.map .int
  | unsigned => Layout.uint32.map .unsigned
  | float => Layout.uint32.map .float
  | string => Layout.text.map .string
  | blob => Layout.blob.map .blob
  | long => Layout.int64.map .long
  | double => Layout.uint64.map .double
  | timeTag => Layout.uint64.map (.timeTag ⟨·⟩)
  | bool value => Layout.empty (.bool value)
  | nil => Layout.empty .nil
  | impulse => Layout.empty .impulse
  | char => Layout.char
  | color => Layout.quad fun a b c d => .color ⟨a, b, c, d⟩
  | midi => Layout.quad fun a b c d => .midi ⟨a, b, c, d⟩
  | symbol => Layout.text.map .symbol
  | fixedWidth tag width => (Layout.padded width).map (.custom tag)

namespace Codec

variable (codec : Codec)

/-- The payloads of a string of type tags inside `depth` arrays, one after the other.  The string is
a word of registered tags and balanced brackets, no deeper than the limit. -/
inductive ArgumentsLayout : (depth : Nat) → List Char → Bytes → List Argument → Prop
  | nil {depth} : ArgumentsLayout depth [] [] []
  | single {depth tag handler d argument tags ds arguments} :
      codec.registry.find? tag = some handler →
      handler.payload d argument →
      ArgumentsLayout depth tags ds arguments →
      ArgumentsLayout depth (tag :: tags) (d ++ ds) (argument :: arguments)
  | array {depth inner d items tags ds arguments} :
      depth < codec.limits.maxArrayDepth →
      ArgumentsLayout (depth + 1) inner d items →
      ArgumentsLayout depth tags ds arguments →
      ArgumentsLayout depth (Argument.openBracket :: (inner ++ Argument.closeBracket :: tags))
        (d ++ ds) (.array items :: arguments)

/-- A message: an address that starts with a slash and then nothing, if the limits allow that, or
type tags behind a comma and the payloads of the tags. -/
inductive MessageLayout : Bytes → Message → Prop
  | untagged {d address} :
      codec.limits.allowMissingTypeTags = true →
      Layout.text d address → address.toList.head? = some '/' →
      MessageLayout d { address, arguments := [], info := some ⟨""⟩ }
  | tagged {d₁ d₂ d₃ address tags arguments} :
      Layout.text d₁ address → address.toList.head? = some '/' →
      Layout.text d₂ ("," ++ tags) →
      codec.ArgumentsLayout 0 tags.toList d₃ arguments →
      MessageLayout (d₁ ++ d₂ ++ d₃) { address, arguments, info := some ⟨tags⟩ }

/-- What every packet is, whatever it holds: not empty, and a multiple of four bytes long. -/
def IsFramed (d : Bytes) : Prop := d ≠ [] ∧ d.length % 4 = 0

mutual

/-- A packet inside `level` bundles: a bundle if it starts with `#`, and a message otherwise. -/
inductive PacketLayout : (level : Nat) → Bytes → Packet → Prop
  | message {level d m} :
      IsFramed d → d.head? ≠ some '#'.toUInt8 →
      codec.MessageLayout d m →
      PacketLayout level d (.message m)
  | bundle {level d time elements} :
      IsFramed (bundleHeader ++ Bytes.bigEndian 8 time.raw.toNat ++ d) →
      level < codec.limits.maxBundleDepth →
      ElementsLayout (level + 1) d elements →
      PacketLayout level (bundleHeader ++ Bytes.bigEndian 8 time.raw.toNat ++ d)
        (.bundle time elements)

/-- The elements of a bundle, each a packet behind its length. -/
inductive ElementsLayout : (level : Nat) → Bytes → List Packet → Prop
  | nil {level} : ElementsLayout level [] []
  | cons {level d packet ds packets} :
      d.length ≤ Bytes.maxLengthPrefix →
      PacketLayout level d packet →
      ElementsLayout level ds packets →
      ElementsLayout level (Bytes.bigEndian 4 d.length ++ d ++ ds) (packet :: packets)

end

/-! ### Lengths and first bytes -/

variable {codec}

theorem length_mod_four_of_text {d : Bytes} {s : String} (h : Layout.text d s) :
    d.length % 4 = 0 := by
  rw [h.2, Bytes.length_padded]
  exact paddedLength_mod_four _

/-- Payloads keep to the grid of four bytes. -/
theorem length_mod_four_of_payload {handler : Handler} {d : Bytes} {argument : Argument}
    (h : handler.payload d argument) : d.length % 4 = 0 := by
  have hpadded : ∀ data, (Bytes.padded data).length % 4 = 0 := by
    intro data
    rw [Bytes.length_padded]
    exact paddedLength_mod_four _
  cases handler with
  | int | unsigned | float | long | double | timeTag =>
    obtain ⟨v, rfl, -⟩ := h
    rw [Bytes.length_bigEndian]
  | string | symbol =>
    obtain ⟨s, hs, -⟩ := h
    exact length_mod_four_of_text hs
  | blob =>
    obtain ⟨data, ⟨-, rfl⟩, -⟩ := h
    rw [List.length_append, Bytes.length_bigEndian, Nat.add_mod, hpadded]
  | bool | nil | impulse =>
    obtain ⟨rfl, -⟩ := h
    rfl
  | char =>
    obtain ⟨_, _, _, _, -, rfl, -⟩ := h
    simp
  | color | midi =>
    obtain ⟨_, _, _, _, rfl, -⟩ := h
    simp
  | fixedWidth tag width =>
    obtain ⟨data, ⟨-, rfl⟩, -⟩ := h
    exact hpadded data

theorem ArgumentsLayout.length_mod_four {depth : Nat} {tags : List Char} {d : Bytes}
    {arguments : List Argument} (h : codec.ArgumentsLayout depth tags d arguments) :
    d.length % 4 = 0 := by
  induction h with
  | nil => rfl
  | single _ hpayload _ ih =>
    rw [List.length_append, Nat.add_mod, length_mod_four_of_payload hpayload, ih]
  | array _ _ _ ihInner ih =>
    rw [List.length_append, Nat.add_mod, ihInner, ih]

theorem MessageLayout.isFramed {d : Bytes} {m : Message} (h : codec.MessageLayout d m) :
    IsFramed d := by
  cases h with
  | untagged _ htext _ =>
    exact ⟨Layout.ne_nil_of_text htext, length_mod_four_of_text htext⟩
  | tagged htext _ htext₂ hlayout =>
    refine ⟨?_, ?_⟩
    · simp [Layout.ne_nil_of_text htext]
    · have h₁ := length_mod_four_of_text htext
      have h₂ := length_mod_four_of_text htext₂
      have h₃ := hlayout.length_mod_four
      rw [List.length_append, List.length_append]
      omega

/-- A message begins with the slash of its address. -/
theorem MessageLayout.head? {d : Bytes} {m : Message} (h : codec.MessageLayout d m) :
    d.head? = some '/'.toUInt8 := by
  have hfront : ∀ (d : Bytes) (s : String), Layout.text d s → s.toList.head? = some '/' →
      d.head? = some '/'.toUInt8 :=
    fun d s htext hslash => (Layout.head?_eq_some_iff htext (by decide) (by decide)).2 hslash
  cases h with
  | untagged _ htext hslash => exact hfront _ _ htext hslash
  | tagged htext hslash _ _ =>
    rw [List.append_assoc, List.head?_append_of_ne_nil _ (Layout.ne_nil_of_text htext)]
    exact hfront _ _ htext hslash

theorem PacketLayout.isFramed {level : Nat} {d : Bytes} {p : Packet}
    (h : codec.PacketLayout level d p) : IsFramed d := by
  cases h with
  | message hframed _ _ => exact hframed
  | bundle hframed _ _ => exact hframed

theorem ElementsLayout.length_mod_four {level : Nat} {packets : List Packet} {d : Bytes}
    (h : codec.ElementsLayout level d packets) : d.length % 4 = 0 := by
  induction packets generalizing d with
  | nil =>
    cases h
    rfl
  | cons packet packets ih =>
    cases h with
    | cons _ hpacket hpackets =>
      have h₁ := hpacket.isFramed.2
      have h₂ := ih hpackets
      rw [List.length_append, List.length_append, Bytes.length_bigEndian]
      omega

theorem length_bundleHeader : bundleHeader.length = 8 := by decide

theorem isFramed_bundle {time : Nat} {d : Bytes} (h : d.length % 4 = 0) :
    IsFramed (bundleHeader ++ Bytes.bigEndian 8 time ++ d) := by
  have hlength : (bundleHeader ++ Bytes.bigEndian 8 time ++ d).length = 16 + d.length := by
    rw [List.length_append, List.length_append, length_bundleHeader, Bytes.length_bigEndian]
  refine ⟨?_, by omega⟩
  apply List.ne_nil_of_length_pos
  omega

end Codec

end OpenSound
