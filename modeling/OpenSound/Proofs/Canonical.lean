import OpenSound.Proofs.Encoding

/-!
# Canonical bytes

The reader lets through more than the writer yields: addresses that no message may have, messages
without type tags, and any bytes behind the code of a character.  Nothing else.  A string of bytes
that is read is written again unchanged exactly when all of its messages are canonical
(`Codec.CanonicalMessage`); whatever is written in its place is no shorter and is read as the same
packet.
-/

namespace OpenSound

namespace Codec

variable {codec : Codec}

/-! ### Messages in bytes -/

/-- Strings of bytes in a row, each behind its length. -/
def framed (elements : List Bytes) : Bytes :=
  elements.flatMap fun e => Bytes.bigEndian 4 e.length ++ e

/-- `MessageAt e d`: the bytes `e` of a message lie in the bytes `d` of a packet, at some depth. -/
inductive MessageAt : Bytes → Bytes → Prop
  | self {d} : d.head? ≠ some '#'.toUInt8 → MessageAt d d
  | element {e d time elements} :
      (∀ d ∈ elements, d.length ≤ Bytes.maxLengthPrefix) → d ∈ elements → MessageAt e d →
      MessageAt e (bundleHeader ++ Bytes.bigEndian 8 time ++ framed elements)

variable (codec)

/-- The payloads of a string of type tags, one after the other, every character among them with
zeros behind its code. -/
inductive CanonicalPayloads : List Char → Bytes → Prop
  | nil : CanonicalPayloads [] []
  | bracket {tag tags d} :
      tag = Argument.openBracket ∨ tag = Argument.closeBracket →
      CanonicalPayloads tags d →
      CanonicalPayloads (tag :: tags) d
  | single {tag handler d argument tags ds} :
      codec.registry.find? tag = some handler →
      handler.payload d argument →
      (handler = .char → d.drop 1 = [0, 0, 0]) →
      CanonicalPayloads tags ds →
      CanonicalPayloads (tag :: tags) (d ++ ds)

/-- A message as the writer lays it out: a valid address, type tags behind a comma, and canonical
payloads. -/
inductive CanonicalMessage : Bytes → Prop
  | tagged {d₁ d₂ d₃ address tags} :
      Layout.text d₁ address → Address.isValid address = true →
      Layout.text d₂ ("," ++ tags) →
      codec.CanonicalPayloads tags.toList d₃ →
      CanonicalMessage (d₁ ++ d₂ ++ d₃)

variable {codec}

theorem framed_cons (d : Bytes) (elements : List Bytes) :
    framed (d :: elements) = Bytes.bigEndian 4 d.length ++ d ++ framed elements :=
  List.flatMap_cons ..

/-- A length that fits its prefix can be told from the prefix. -/
theorem frame_append_inj {d₁ d₂ rest₁ rest₂ : Bytes} (h₁ : d₁.length ≤ Bytes.maxLengthPrefix)
    (h₂ : d₂.length ≤ Bytes.maxLengthPrefix)
    (h : Bytes.bigEndian 4 d₁.length ++ d₁ ++ rest₁ = Bytes.bigEndian 4 d₂.length ++ d₂ ++ rest₂) :
    d₁ = d₂ ∧ rest₁ = rest₂ := by
  have hsmall : Bytes.maxLengthPrefix < Nat.pow 256 4 := by decide
  rw [List.append_assoc, List.append_assoc] at h
  obtain ⟨hfront, h⟩ := List.append_inj h (by simp)
  have hlength : d₁.length = d₂.length := by
    rw [← Bytes.ofBigEndian_bigEndian_of_lt (Nat.lt_of_le_of_lt h₁ hsmall), hfront,
      Bytes.ofBigEndian_bigEndian_of_lt (Nat.lt_of_le_of_lt h₂ hsmall)]
  exact List.append_inj h hlength

theorem framed_inj {elements others : List Bytes}
    (helements : ∀ d ∈ elements, d.length ≤ Bytes.maxLengthPrefix)
    (hothers : ∀ d ∈ others, d.length ≤ Bytes.maxLengthPrefix)
    (h : framed elements = framed others) : elements = others := by
  induction elements generalizing others with
  | nil =>
    cases others with
    | nil => rfl
    | cons d others =>
      have := congrArg List.length h
      rw [framed_cons, List.length_append, List.length_append, Bytes.length_bigEndian] at this
      exact absurd this.symm (by simp [framed])
  | cons d elements ih =>
    cases others with
    | nil =>
      have := congrArg List.length h
      rw [framed_cons, List.length_append, List.length_append, Bytes.length_bigEndian] at this
      exact absurd this (by simp [framed])
    | cons d' others =>
      rw [List.forall_mem_cons] at helements hothers
      rw [framed_cons, framed_cons] at h
      obtain ⟨rfl, hrest⟩ := frame_append_inj helements.1 hothers.1 h
      rw [ih helements.2 hothers.2 hrest]

theorem forall_messageAt_iff_of_head? {P : Bytes → Prop} {d : Bytes}
    (h : d.head? ≠ some '#'.toUInt8) : (∀ e, MessageAt e d → P e) ↔ P d := by
  refine ⟨fun hall => hall d (.self h), fun hd e he => ?_⟩
  cases he with
  | self _ => exact hd
  | element _ _ _ =>
    rw [List.append_assoc] at h
    exact absurd (head?_bundleHeader_append _) h

theorem forall_messageAt_bundle_iff {P : Bytes → Prop} {time : Nat} {elements : List Bytes}
    (helements : ∀ d ∈ elements, d.length ≤ Bytes.maxLengthPrefix) :
    (∀ e, MessageAt e (bundleHeader ++ Bytes.bigEndian 8 time ++ framed elements) → P e) ↔
      ∀ d ∈ elements, ∀ e, MessageAt e d → P e := by
  constructor
  · intro hall d hd e he
    exact hall e (.element helements hd he)
  · intro hall e he
    generalize hbytes : bundleHeader ++ Bytes.bigEndian 8 time ++ framed elements = bytes at he
    cases he with
    | self hmark =>
      rw [← hbytes, List.append_assoc] at hmark
      exact absurd (head?_bundleHeader_append _) hmark
    | @element d _ others hothers hd he =>
      obtain ⟨-, hframed⟩ := List.append_inj hbytes (by simp)
      obtain rfl := framed_inj helements hothers hframed
      exact hall d hd e he

/-! ### Payloads -/

/-- A payload is what its handler writes, except for the bytes behind the code of a character. -/
theorem eq_encoded_or_char_of_payload {handler : Handler} {argument : Argument} {d : Bytes}
    (h : handler.payload d argument) :
    handler.encode argument = .ok argument.encoded ∧ argument.hasAsciiChars = true ∧
      (handler ≠ .char ∧ d = argument.encoded ∨
        ∃ code x y z, handler = .char ∧ d = [code, x, y, z] ∧
          argument.encoded = [code, 0, 0, 0]) := by
  cases handler with
  | int | unsigned | float | long | double | timeTag =>
    obtain ⟨v, rfl, rfl⟩ := h
    exact ⟨rfl, rfl, .inl ⟨by simp, rfl⟩⟩
  | string | symbol =>
    obtain ⟨text, htext, rfl⟩ := h
    exact ⟨paddedText?_eq_ok_iff.2 ⟨htext.1, rfl⟩, rfl, .inl ⟨by simp, htext.2⟩⟩
  | blob =>
    obtain ⟨data, ⟨hle, rfl⟩, rfl⟩ := h
    exact ⟨sizedBlob?_eq_ok_iff.2 ⟨hle, rfl⟩, rfl, .inl ⟨by simp, rfl⟩⟩
  | bool value =>
    obtain ⟨rfl, rfl⟩ := h
    exact ⟨if_pos (decide_eq_true rfl), rfl, .inl ⟨by simp, rfl⟩⟩
  | nil | impulse =>
    obtain ⟨rfl, rfl⟩ := h
    exact ⟨rfl, rfl, .inl ⟨by simp, rfl⟩⟩
  | char =>
    obtain ⟨code, x, y, z, hcode, rfl, rfl⟩ := h
    exact ⟨rfl, decide_eq_true hcode, .inr ⟨code, x, y, z, rfl, rfl, rfl⟩⟩
  | color | midi =>
    obtain ⟨w, x, y, z, rfl, rfl⟩ := h
    exact ⟨rfl, rfl, .inl ⟨by simp, rfl⟩⟩
  | fixedWidth tag width =>
    obtain ⟨data, ⟨hlength, rfl⟩, rfl⟩ := h
    exact ⟨if_pos ⟨rfl, hlength⟩, rfl, .inl ⟨by simp, rfl⟩⟩


theorem length_encoded_of_payload {handler : Handler} {argument : Argument} {d : Bytes}
    (h : handler.payload d argument) : argument.encoded.length = d.length := by
  obtain ⟨-, -, ⟨-, rfl⟩ | ⟨code, x, y, z, -, rfl, hencoded⟩⟩ := eq_encoded_or_char_of_payload h
  · rfl
  · rw [hencoded]
    rfl

theorem eq_encoded_iff_of_payload {handler : Handler} {argument : Argument} {d : Bytes}
    (h : handler.payload d argument) :
    d = argument.encoded ↔ (handler = .char → d.drop 1 = [0, 0, 0]) := by
  obtain ⟨-, -, ⟨hne, rfl⟩ | ⟨code, x, y, z, hchar, rfl, hencoded⟩⟩ :=
    eq_encoded_or_char_of_payload h
  · exact iff_of_true rfl fun hchar => absurd hchar hne
  · rw [hencoded]
    simp [hchar]

theorem typeTag?_of_accepts {handler : Handler} {argument : Argument}
    (h : handler.accepts argument = true) : argument.typeTag? = some handler.tag := by
  unfold Handler.accepts at h
  split at h
  case h_9 value given =>
    obtain rfl := of_decide_eq_true h
    cases value <;> rfl
  case h_16 =>
    simp only [Bool.and_eq_true, decide_eq_true_eq] at h
    rw [Argument.typeTag?, Handler.tag, h.1]
  case h_17 => cases h
  all_goals rfl

theorem typeTag?_of_payload {tag : Char} {handler : Handler} {argument : Argument} {d : Bytes}
    (hfind : codec.registry.find? tag = some handler) (h : handler.payload d argument) :
    argument.typeTag? = some tag := by
  have hencode := (eq_encoded_or_char_of_payload h).1
  rw [typeTag?_of_accepts (Handler.encode_eq_ok_iff.1 hencode).1, Registry.tag_of_find? hfind]

/-- An argument that has been read can be written. -/
theorem isWritableLeaf_of_payload {tag : Char} {handler : Handler} {argument : Argument} {d : Bytes}
    (hfind : codec.registry.find? tag = some handler) (htag : tag ≠ '\x00')
    (h : handler.payload d argument) : codec.IsWritableLeaf argument := by
  have hencode := (eq_encoded_or_char_of_payload h).1
  obtain ⟨haccepts, hnul, hlength, -⟩ := Handler.encode_eq_ok_iff.1 hencode
  have htypeTag := typeTag?_of_payload hfind h
  refine ⟨⟨tag, handler, htypeTag, hfind, haccepts⟩, ?_, hnul, hlength⟩
  rw [htypeTag]
  exact fun heq => htag (Option.some.inj heq)

theorem canonicalPayloads_bracket_iff {tag : Char} {tags : List Char} {d : Bytes}
    (htag : tag = Argument.openBracket ∨ tag = Argument.closeBracket) :
    codec.CanonicalPayloads (tag :: tags) d ↔ codec.CanonicalPayloads tags d := by
  refine ⟨fun h => ?_, .bracket htag⟩
  cases h with
  | bracket _ h => exact h
  | single hfind _ _ _ =>
    obtain ⟨hopen, hclose⟩ := Registry.ne_bracket_of_find? hfind
    exact absurd htag (not_or.2 ⟨hopen, hclose⟩)

/-- Where a payload ends can be told from its bytes. -/
theorem canonicalPayloads_single_iff {tag : Char} {tags : List Char} {handler : Handler}
    {argument : Argument} {d ds : Bytes} (hfind : codec.registry.find? tag = some handler)
    (hpayload : handler.payload d argument) :
    codec.CanonicalPayloads (tag :: tags) (d ++ ds) ↔
      d = argument.encoded ∧ codec.CanonicalPayloads tags ds := by
  rw [eq_encoded_iff_of_payload hpayload]
  refine ⟨fun h => ?_, fun h => .single hfind hpayload h.1 h.2⟩
  obtain ⟨hopen, hclose⟩ := Registry.ne_bracket_of_find? hfind
  generalize hbytes : d ++ ds = bytes at h
  cases h with
  | bracket htag _ => exact absurd htag (not_or.2 ⟨hopen, hclose⟩)
  | single hfind' hpayload' hchar h =>
    obtain rfl := Option.some.inj (hfind.symm.trans hfind')
    obtain ⟨rfl, -, rfl⟩ := handler.recognizes_decode.append_inj hpayload hpayload' hbytes
    exact ⟨hchar, h⟩

/-! ### Arguments -/

section Arguments

variable {depth : Nat} {tags : List Char} {d : Bytes} {arguments : List Argument}

theorem ArgumentsLayout.typeTagsOf_eq (h : codec.ArgumentsLayout depth tags d arguments) :
    Argument.typeTagsOf arguments = tags := by
  induction h with
  | nil => rfl
  | single hfind hpayload _ ih =>
    rw [Argument.typeTagsOf, typeTags_of_typeTag? (typeTag?_of_payload hfind hpayload), ih]
    rfl
  | array _ _ _ ihInner ih =>
    rw [Argument.typeTagsOf, Argument.typeTags, ihInner, ih, List.append_assoc]
    rfl

theorem ArgumentsLayout.arrayDepthOf_le (h : codec.ArgumentsLayout depth tags d arguments) :
    Argument.arrayDepthOf arguments ≤ codec.limits.maxArrayDepth - depth := by
  induction h with
  | nil => exact Nat.zero_le _
  | single hfind hpayload _ ih =>
    rw [Argument.arrayDepthOf, arrayDepth_of_typeTag? (typeTag?_of_payload hfind hpayload),
      Nat.zero_max]
    exact ih
  | array hlt _ _ ihInner ih =>
    rw [Argument.arrayDepthOf, Argument.arrayDepth]
    omega

theorem ArgumentsLayout.haveAsciiChars (h : codec.ArgumentsLayout depth tags d arguments) :
    Argument.haveAsciiChars arguments = true := by
  induction h with
  | nil => rfl
  | single _ hpayload _ ih =>
    rw [Argument.haveAsciiChars, (eq_encoded_or_char_of_payload hpayload).2.1, ih]
    rfl
  | array _ _ _ ihInner ih =>
    rw [Argument.haveAsciiChars, Argument.hasAsciiChars, ihInner, ih]
    rfl

theorem ArgumentsLayout.isWritableLeaf (h : codec.ArgumentsLayout depth tags d arguments)
    (hnul : '\x00' ∉ tags) : ∀ a ∈ Argument.leavesOf arguments, codec.IsWritableLeaf a := by
  induction h with
  | nil => exact List.forall_mem_nil _
  | single hfind hpayload _ ih =>
    rw [List.mem_cons, not_or] at hnul
    rw [Argument.leavesOf, leaves_of_typeTag? (typeTag?_of_payload hfind hpayload)]
    have hleaf := isWritableLeaf_of_payload hfind (Ne.symm hnul.1) hpayload
    exact List.forall_mem_cons.2 ⟨hleaf, ih hnul.2⟩
  | array _ _ _ ihInner ih =>
    rw [List.mem_cons, List.mem_append, List.mem_cons, not_or, not_or, not_or] at hnul
    rw [Argument.leavesOf, Argument.leaves]
    exact List.forall_mem_append.2 ⟨ihInner hnul.2.1, ih hnul.2.2.2⟩

theorem ArgumentsLayout.length_eq (h : codec.ArgumentsLayout depth tags d arguments) :
    d.length = (Argument.encodedLeaves arguments).length := by
  induction h with
  | nil => rfl
  | single hfind hpayload _ ih =>
    rw [encodedLeaves_cons_of_typeTag? (typeTag?_of_payload hfind hpayload), List.length_append,
      List.length_append, length_encoded_of_payload hpayload, ih]
  | array _ _ _ ihInner ih =>
    rw [encodedLeaves_array_cons, List.length_append, List.length_append, ihInner, ih]

/-- Among the payloads of more type tags, those of a balanced word are canonical when they are the
encodings of its arguments. -/
theorem ArgumentsLayout.canonicalPayloads_append_iff
    (h : codec.ArgumentsLayout depth tags d arguments) (more : List Char) (rest : Bytes) :
    codec.CanonicalPayloads (tags ++ more) (d ++ rest) ↔
      d = Argument.encodedLeaves arguments ∧ codec.CanonicalPayloads more rest := by
  induction h generalizing more rest with
  | nil => exact (and_iff_right rfl).symm
  | @single _ _ _ d argument _ ds arguments hfind hpayload _ ih =>
    have hlength := length_encoded_of_payload hpayload
    rw [List.cons_append, List.append_assoc, canonicalPayloads_single_iff hfind hpayload, ih,
      encodedLeaves_cons_of_typeTag? (typeTag?_of_payload hfind hpayload), ← and_assoc]
    refine and_congr_left fun _ => ⟨?_, fun heq => List.append_inj heq hlength.symm⟩
    rintro ⟨hd, hds⟩
    rw [← hd, ← hds]
  | @array _ _ d items _ ds arguments _ hinner _ ihInner ih =>
    rw [List.cons_append, List.append_assoc, List.cons_append, List.append_assoc,
      canonicalPayloads_bracket_iff (.inl rfl), ihInner, canonicalPayloads_bracket_iff (.inr rfl),
      ih, encodedLeaves_array_cons, ← and_assoc]
    refine and_congr_left fun _ => ⟨?_, fun heq => List.append_inj heq hinner.length_eq⟩
    rintro ⟨hd, hds⟩
    rw [← hd, ← hds]

theorem ArgumentsLayout.canonicalPayloads_iff (h : codec.ArgumentsLayout depth tags d arguments) :
    codec.CanonicalPayloads tags d ↔ d = Argument.encodedLeaves arguments := by
  have happend := h.canonicalPayloads_append_iff [] []
  rw [List.append_nil, List.append_nil] at happend
  rw [happend]
  exact and_iff_left .nil

end Arguments

/-! ### Messages -/

theorem MessageLayout.described_eq {d : Bytes} {m : Message} (h : codec.MessageLayout d m) :
    m.described = m := by
  cases h with
  | untagged _ _ _ => rfl
  | tagged _ _ _ hlayout =>
    rw [Message.described, hlayout.typeTagsOf_eq, String.ofList_toList]
    rfl

theorem MessageLayout.haveAsciiChars {d : Bytes} {m : Message} (h : codec.MessageLayout d m) :
    Argument.haveAsciiChars m.arguments = true := by
  cases h with
  | untagged _ _ _ => rfl
  | tagged _ _ _ hlayout => exact hlayout.haveAsciiChars

/-- The encoding of a message that has been read differs from its bytes in the payloads alone. -/
theorem encoded_eq_of_argumentsLayout {d₁ d₂ d₃ : Bytes} {address tags : String}
    {arguments : List Argument} {info : Option MessageInfo} (htext : Layout.text d₁ address)
    (htext₂ : Layout.text d₂ ("," ++ tags))
    (hlayout : codec.ArgumentsLayout 0 tags.toList d₃ arguments) :
    ({ address, arguments, info } : Message).encoded =
      d₁ ++ d₂ ++ Argument.encodedLeaves arguments := by
  obtain ⟨-, rfl⟩ := layout_text_iff.1 htext
  obtain ⟨-, rfl⟩ := layout_text_iff.1 htext₂
  rw [Message.encoded, hlayout.typeTagsOf_eq, String.ofList_toList]

/-- A message without type tags gains a place for them. -/
theorem length_lt_encoded_of_text {d : Bytes} {address : String} {info : Option MessageInfo}
    (htext : Layout.text d address) :
    d.length < ({ address, arguments := [], info } : Message).encoded.length := by
  obtain ⟨-, rfl⟩ := layout_text_iff.1 htext
  have hpos := length_textSlot_pos ("," ++ String.ofList (Argument.typeTagsOf []))
  rw [Message.encoded, List.length_append, List.length_append]
  dsimp only
  omega

theorem MessageLayout.length_le {d : Bytes} {m : Message} (h : codec.MessageLayout d m) :
    d.length ≤ m.encoded.length := by
  cases h with
  | untagged _ htext _ => exact Nat.le_of_lt (length_lt_encoded_of_text htext)
  | tagged htext _ htext₂ hlayout =>
    rw [encoded_eq_of_argumentsLayout htext htext₂ hlayout, List.length_append, List.length_append,
      List.length_append, List.length_append, hlayout.length_eq]

theorem MessageLayout.isWritableMessage_iff {d : Bytes} {m : Message}
    (h : codec.MessageLayout d m) :
    codec.IsWritableMessage m ↔ Address.isValid m.address = true := by
  refine ⟨fun hm => hm.isValid, fun hvalid => ?_⟩
  cases h with
  | untagged _ _ _ => exact ⟨hvalid, Nat.zero_le _, List.forall_mem_nil _⟩
  | tagged _ _ htext₂ hlayout =>
    have hnul := (layout_text_iff.1 htext₂).1
    rw [String.toList_append, List.mem_append, not_or] at hnul
    exact ⟨hvalid, hlayout.arrayDepthOf_le, hlayout.isWritableLeaf hnul.2⟩

/-- A message that has been read is its own encoding when it is canonical. -/
theorem MessageLayout.canonicalMessage_iff {d : Bytes} {m : Message}
    (h : codec.MessageLayout d m) :
    codec.CanonicalMessage d ↔ codec.IsWritableMessage m ∧ d = m.encoded := by
  rw [h.isWritableMessage_iff]
  cases h with
  | @untagged _ address _ htext _ =>
    refine iff_of_false (fun hcanonical => ?_) fun heq => ?_
    · generalize hbytes : d = bytes at hcanonical
      cases hcanonical with
      | @tagged d₁ d₂ d₃ _ _ htext₁ _ htext₂ _ =>
        -- the place of the address is all there is
        rw [List.append_assoc, ← List.append_nil d] at hbytes
        obtain ⟨-, -, hnil⟩ := Reader.recognizes_text.append_inj htext htext₁ hbytes
        exact Layout.ne_nil_of_text htext₂ (List.append_eq_nil_iff.1 hnil.symm).1
    · exact absurd (congrArg List.length heq.2) (Nat.ne_of_lt (length_lt_encoded_of_text htext))
  | @tagged d₁ d₂ d₃ address tags arguments htext _ htext₂ hlayout =>
    rw [encoded_eq_of_argumentsLayout htext htext₂ hlayout, List.append_cancel_left_eq,
      ← hlayout.canonicalPayloads_iff]
    constructor
    · intro hcanonical
      generalize hbytes : d₁ ++ d₂ ++ d₃ = bytes at hcanonical
      cases hcanonical with
      | @tagged e₁ e₂ e₃ _ _ htext' hvalid htext₂' hpayloads =>
        rw [List.append_assoc, List.append_assoc] at hbytes
        obtain ⟨-, rfl, hbehind⟩ := Reader.recognizes_text.append_inj htext htext' hbytes
        obtain ⟨-, htags, rfl⟩ := Reader.recognizes_text.append_inj htext₂ htext₂' hbehind
        obtain rfl := (String.append_right_inj _).1 htags
        exact ⟨hvalid, hpayloads⟩
    · rintro ⟨hvalid, hpayloads⟩
      exact .tagged htext hvalid htext₂ hpayloads

/-! ### Packets -/

/-- Induction on the elements of a bundle and on the elements of the bundles among them. -/
@[elab_as_elim]
theorem ElementsLayout.list_induction {P : Nat → Bytes → List Packet → Prop}
    (nil : ∀ level, P level [] [])
    (message : ∀ level d m ds packets, d.length ≤ Bytes.maxLengthPrefix →
      d.head? ≠ some '#'.toUInt8 → codec.MessageLayout d m → P level ds packets →
      P level (Bytes.bigEndian 4 d.length ++ d ++ ds) (.message m :: packets))
    (bundle : ∀ level d time inside elements ds packets, d.length ≤ Bytes.maxLengthPrefix →
      d = bundleHeader ++ Bytes.bigEndian 8 time.raw.toNat ++ inside →
      level < codec.limits.maxBundleDepth → P (level + 1) inside elements → P level ds packets →
      P level (Bytes.bigEndian 4 d.length ++ d ++ ds) (.bundle time elements :: packets))
    {level : Nat} {ds : Bytes} {packets : List Packet}
    (h : codec.ElementsLayout level ds packets) : P level ds packets := by
  induction packets using Packet.list_induction generalizing level ds with
  | nil =>
    cases h
    exact nil level
  | message m rest ih =>
    cases h with
    | cons hle hpacket hrest =>
      cases hpacket with
      | message _ hmark hm => exact message _ _ _ _ _ hle hmark hm (ih hrest)
  | bundle time elements rest ihElements ih =>
    cases h with
    | cons hle hpacket hrest =>
      cases hpacket with
      | bundle _ hlt helements =>
        exact bundle _ _ _ _ _ _ _ hle rfl hlt (ihElements helements) (ih hrest)

theorem ElementsLayout.described_eq {level : Nat} {ds : Bytes} {packets : List Packet}
    (h : codec.ElementsLayout level ds packets) :
    Packet.describedAll packets = packets ∧ Packet.haveAsciiChars packets = true := by
  refine ElementsLayout.list_induction ?_ ?_ ?_ h
  · exact fun _ => ⟨rfl, rfl⟩
  · intro _ _ m _ _ _ _ hm ih
    rw [Packet.describedAll, Packet.described, hm.described_eq, Packet.haveAsciiChars,
      Packet.hasAsciiChars, hm.haveAsciiChars, ih.1]
    exact ⟨rfl, ih.2⟩
  · intro _ _ _ _ _ _ _ _ _ _ ihElements ih
    rw [Packet.describedAll, Packet.described, ihElements.1, Packet.haveAsciiChars,
      Packet.hasAsciiChars, ihElements.2, ih.1]
    exact ⟨rfl, ih.2⟩

theorem ElementsLayout.bundleDepthOf_le {level : Nat} {ds : Bytes} {packets : List Packet}
    (h : codec.ElementsLayout level ds packets) :
    Packet.bundleDepthOf packets ≤ codec.limits.maxBundleDepth - level := by
  refine ElementsLayout.list_induction ?_ ?_ ?_ h
  · exact fun _ => Nat.zero_le _
  · intro _ _ _ _ _ _ _ _ ih
    rw [Packet.bundleDepthOf_message_cons]
    exact ih
  · intro _ _ _ _ _ _ _ _ _ _ ihElements ih
    rw [Packet.bundleDepthOf_bundle_cons]
    omega

theorem ElementsLayout.length_le {level : Nat} {ds : Bytes} {packets : List Packet}
    (h : codec.ElementsLayout level ds packets) :
    ds.length ≤ (Packet.encodedElements packets).length := by
  refine ElementsLayout.list_induction ?_ ?_ ?_ h
  · exact fun _ => Nat.le_refl _
  · intro _ _ _ _ _ _ _ hm ih
    have := hm.length_le
    rw [Packet.encodedElements, Packet.encoded]
    simp only [List.length_append, Bytes.length_bigEndian]
    omega
  · intro _ _ _ _ _ _ _ _ hd _ ihElements ih
    rw [Packet.encodedElements, Packet.encoded, hd]
    simp only [List.length_append, Bytes.length_bigEndian]
    omega

/-- The elements of a bundle that has been read are their own encodings when all messages in them
are canonical. -/
theorem ElementsLayout.exists_framed {level : Nat} {ds : Bytes} {packets : List Packet}
    (h : codec.ElementsLayout level ds packets) :
    ∃ elements, ds = framed elements ∧ (∀ d ∈ elements, d.length ≤ Bytes.maxLengthPrefix) ∧
      ((∀ d ∈ elements, ∀ e, MessageAt e d → codec.CanonicalMessage e) ↔
        (∀ m ∈ Packet.messagesOf packets, codec.IsWritableMessage m) ∧
          (∀ e ∈ Packet.elementsOf packets, e.encoded.length ≤ Bytes.maxLengthPrefix) ∧
          ds = Packet.encodedElements packets) := by
  refine ElementsLayout.list_induction ?_ ?_ ?_ h
  · refine fun _ => ⟨[], rfl, List.forall_mem_nil _, ?_⟩
    simp [Packet.messagesOf, Packet.elementsOf, Packet.encodedElements]
  · rintro level d m _ packets hle hmark hm ⟨elements, rfl, helements, ih⟩
    refine ⟨d :: elements, (framed_cons d elements).symm,
      List.forall_mem_cons.2 ⟨hle, helements⟩, ?_⟩
    rw [List.forall_mem_cons, forall_messageAt_iff_of_head? hmark, hm.canonicalMessage_iff, ih,
      Packet.messagesOf_message_cons, Packet.elementsOf_message_cons, Packet.encodedElements,
      List.forall_mem_cons, List.forall_mem_cons, Packet.encoded]
    constructor
    · rintro ⟨⟨hwritable, rfl⟩, hmessages, hsizes, heq⟩
      exact ⟨⟨hwritable, hmessages⟩, ⟨hle, hsizes⟩, by rw [heq]⟩
    · rintro ⟨⟨hwritable, hmessages⟩, ⟨hsize, hsizes⟩, heq⟩
      obtain ⟨hd, hds⟩ := frame_append_inj hle hsize heq
      exact ⟨⟨hwritable, hd⟩, hmessages, hsizes, hds⟩
  · rintro level d time _ inside _ packets hle rfl hlt ⟨elements', rfl, helements', ihInside⟩
      ⟨elements, rfl, helements, ih⟩
    refine ⟨_ :: elements, (framed_cons _ elements).symm,
      List.forall_mem_cons.2 ⟨hle, helements⟩, ?_⟩
    rw [List.forall_mem_cons, forall_messageAt_bundle_iff helements', ihInside, ih,
      Packet.messagesOf_bundle_cons, Packet.elementsOf_bundle_cons, Packet.encodedElements,
      List.forall_mem_append, List.forall_mem_cons, List.forall_mem_append, Packet.encoded]
    constructor
    · rintro ⟨⟨hm, hsizes', heq'⟩, hmessages, hsizes, heq⟩
      rw [heq'] at hle ⊢
      exact ⟨⟨hm, hmessages⟩, ⟨hle, hsizes', hsizes⟩, by rw [heq]⟩
    · rintro ⟨⟨hm, hmessages⟩, ⟨hsize, hsizes', hsizes⟩, heq⟩
      obtain ⟨hd, hds⟩ := frame_append_inj hle hsize heq
      exact ⟨⟨hm, hsizes', List.append_cancel_left hd⟩, hmessages, hsizes, hds⟩

theorem PacketLayout.described_eq {level : Nat} {d : Bytes} {p : Packet}
    (h : codec.PacketLayout level d p) : p.described = p ∧ p.hasAsciiChars = true := by
  cases h with
  | message _ _ hm =>
    rw [Packet.described, Packet.hasAsciiChars, hm.described_eq]
    exact ⟨rfl, hm.haveAsciiChars⟩
  | bundle _ _ helements =>
    rw [Packet.described, Packet.hasAsciiChars, helements.described_eq.1]
    exact ⟨rfl, helements.described_eq.2⟩

theorem PacketLayout.length_le {level : Nat} {d : Bytes} {p : Packet}
    (h : codec.PacketLayout level d p) : d.length ≤ p.encoded.length := by
  cases h with
  | message _ _ hm => exact hm.length_le
  | bundle _ _ helements =>
    have := helements.length_le
    simp only [Packet.encoded, List.length_append]
    omega

/-- A packet that has been read is its own encoding when all messages in it are canonical. -/
theorem PacketLayout.forall_messageAt_iff {d : Bytes} {p : Packet}
    (h : codec.PacketLayout 0 d p) :
    (∀ e, MessageAt e d → codec.CanonicalMessage e) ↔ codec.IsWritable p ∧ d = p.encoded := by
  cases h with
  | message _ hmark hm =>
    rw [forall_messageAt_iff_of_head? hmark, hm.canonicalMessage_iff, Packet.encoded]
    refine and_congr_left fun _ => ⟨fun h => ⟨Nat.zero_le _, ?_, ?_⟩, fun h => ?_⟩
    · rwa [Packet.messages, List.forall_mem_singleton]
    · simp [Packet.elements]
    · exact h.message _ (List.mem_singleton_self _)
  | @bundle _ _ time packets _ hlt hlayout =>
    obtain ⟨elements, rfl, helements, hiff⟩ := hlayout.exists_framed
    have hdepth := hlayout.bundleDepthOf_le
    rw [forall_messageAt_bundle_iff helements, hiff, Packet.encoded, List.append_cancel_left_eq]
    constructor
    · rintro ⟨hm, hsizes, heq⟩
      refine ⟨⟨?_, hm, hsizes⟩, heq⟩
      rw [Packet.bundleDepth]
      omega
    · rintro ⟨⟨-, hm, hsizes⟩, heq⟩
      exact ⟨hm, hsizes, heq⟩

/-- Bytes that are read are written again unchanged exactly when every message in them is canonical
and they are not too long.  Whatever is written for the packet is no shorter and is read as the same
packet again. -/
theorem encode_eq_self_iff_of_decode (codec : Codec) (d : Bytes) (p : Packet)
    (h : codec.decode d = .ok p) :
    (codec.encode p = .ok d ↔
      (∀ e, MessageAt e d → codec.CanonicalMessage e) ∧ d.length ≤ codec.limits.maxPacketSize) ∧
    ∀ b, codec.encode p = .ok b → d.length ≤ b.length ∧ codec.decode b = .ok p := by
  have hlayout := (decodeWithin_eq_ok_iff (Nat.zero_add _) d p).1 (decode_eq_ok_iff.1 h)
  constructor
  · rw [encode, encodeFitting_eq_ok_iff, hlayout.forall_messageAt_iff]
    constructor
    · rintro ⟨hp, hfit, rfl⟩
      exact ⟨⟨hp, rfl⟩, hfit⟩
    · rintro ⟨⟨hp, rfl⟩, hfit⟩
      exact ⟨hp, hfit, rfl⟩
  · intro b hb
    obtain ⟨hp, -, rfl⟩ := encodeFitting_eq_ok_iff.1 hb
    have hwritten : codec.encoding p = .ok p.encoded := encoding_eq_ok_iff.2 ⟨hp, rfl⟩
    have hback := packetLayout_of_encoding hlayout.described_eq.2 hwritten
    rw [hlayout.described_eq.1] at hback
    exact ⟨hlayout.length_le,
      decode_eq_ok_iff.2 ((decodeWithin_eq_ok_iff (Nat.zero_add _) _ p).2 hback)⟩

/-- A bundle of a message without type tags and of a character with bytes behind its code. -/
def looseBytes : Bytes :=
  Bytes.ofText "#bundle" ++ [0, 0, 0, 0, 0, 0, 0, 0, 1] ++
    [0, 0, 0, 4] ++ Bytes.ofText "/a" ++ [0, 0] ++
    [0, 0, 0, 12] ++ Bytes.ofText "/b" ++ [0, 0] ++ Bytes.ofText ",c" ++ [0, 0] ++ [65, 1, 2, 3]

def loosePacket : Packet :=
  .bundle .immediate [
    .message { address := "/a", arguments := [], info := some ⟨""⟩ },
    .message { address := "/b", arguments := [.char 65], info := some ⟨"c"⟩ }]

/-- What is written for the bundle, with type tags and with zeros behind the code. -/
def tightBytes : Bytes :=
  Bytes.ofText "#bundle" ++ [0, 0, 0, 0, 0, 0, 0, 0, 1] ++
    [0, 0, 0, 8] ++ Bytes.ofText "/a" ++ [0, 0] ++ Bytes.ofText "," ++ [0, 0, 0] ++
    [0, 0, 0, 12] ++ Bytes.ofText "/b" ++ [0, 0] ++ Bytes.ofText ",c" ++ [0, 0] ++ [65, 0, 0, 0]

theorem encode_loosePacket :
    ({} : Codec).decode looseBytes = .ok loosePacket ∧
      ({} : Codec).encode loosePacket = .ok tightBytes ∧
      looseBytes.length ≤ tightBytes.length ∧ ({} : Codec).decode tightBytes = .ok loosePacket ∧
      ¬ ∀ e, MessageAt e looseBytes → ({} : Codec).CanonicalMessage e := by
  have hdecode : ({} : Codec).decode looseBytes = .ok loosePacket := by with_unfolding_all rfl
  have hencode : ({} : Codec).encode loosePacket = .ok tightBytes := by decide +kernel
  obtain ⟨hself, hback⟩ := encode_eq_self_iff_of_decode {} looseBytes loosePacket hdecode
  refine ⟨hdecode, hencode, (hback _ hencode).1, (hback _ hencode).2, fun hcanonical => ?_⟩
  have hsame := hself.2 ⟨hcanonical, by decide⟩
  rw [hencode] at hsame
  exact absurd (Except.ok.inj hsame) (by decide)

end Codec

end OpenSound
