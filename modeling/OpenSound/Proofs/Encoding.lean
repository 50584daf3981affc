import OpenSound.Proofs.RoundTrip

/-!
# The encoding of a packet

`Packet.encoded` is the string of bytes that stands for a packet, whatever the codec: a message is
its address, its type tags and the payloads of its leaves, and a bundle holds each element behind
its length.  `Codec.IsWritable` says which packets a codec can write.  The writer settles the type
tags of a message before its payloads and looks every handler up twice; what it accepts in the end
are the packets that can be written, and what it yields is their encoding.  Only a writable packet
fails for its size.
-/

namespace OpenSound

/-! ### Leaves and depths -/

namespace Argument

mutual

/-- The arguments in the argument that are no arrays, in order. -/
def leaves : Argument → List Argument
  | array items => leavesOf items
  | argument => [argument]

def leavesOf : List Argument → List Argument
  | [] => []
  | argument :: rest => argument.leaves ++ leavesOf rest

end

mutual

/-- The length of the longest chain of arrays in arrays. -/
def arrayDepth : Argument → Nat
  | array items => arrayDepthOf items + 1
  | _ => 0

def arrayDepthOf : List Argument → Nat
  | [] => 0
  | argument :: rest => max argument.arrayDepth (arrayDepthOf rest)

end

end Argument

namespace Packet

mutual

/-- The messages of the packet at any depth, in order. -/
def messages : Packet → List Message
  | message m => [m]
  | bundle _ elements => messagesOf elements

def messagesOf : List Packet → List Message
  | [] => []
  | packet :: rest => packet.messages ++ messagesOf rest

end

mutual

/-- The packets that are elements of a bundle of the packet, at any depth. -/
def elements : Packet → List Packet
  | message _ => []
  | bundle _ packets => elementsOf packets

/-- The packets themselves, and their elements at any depth. -/
def elementsOf : List Packet → List Packet
  | [] => []
  | packet :: rest => packet :: packet.elements ++ elementsOf rest

end

mutual

/-- The length of the longest chain of bundles in bundles. -/
def bundleDepth : Packet → Nat
  | message _ => 0
  | bundle _ elements => bundleDepthOf elements + 1

def bundleDepthOf : List Packet → Nat
  | [] => 0
  | packet :: rest => max packet.bundleDepth (bundleDepthOf rest)

end

section Cons

variable (m : Message) (time : TimeTag) (packets rest : List Packet)

theorem messagesOf_message_cons : messagesOf (.message m :: rest) = m :: messagesOf rest := rfl

theorem messagesOf_bundle_cons :
    messagesOf (.bundle time packets :: rest) = messagesOf packets ++ messagesOf rest := rfl

theorem elementsOf_message_cons :
    elementsOf (.message m :: rest) = .message m :: elementsOf rest := rfl

theorem elementsOf_bundle_cons :
    elementsOf (.bundle time packets :: rest) =
      .bundle time packets :: (elementsOf packets ++ elementsOf rest) := rfl

theorem bundleDepthOf_message_cons : bundleDepthOf (.message m :: rest) = bundleDepthOf rest := by
  rw [bundleDepthOf, bundleDepth, Nat.zero_max]

theorem bundleDepthOf_bundle_cons :
    bundleDepthOf (.bundle time packets :: rest) =
      max (bundleDepthOf packets + 1) (bundleDepthOf rest) := rfl

end Cons

end Packet

/-! ### Encodings -/

/-- The place of a text: its bytes, a zero, and zeros up to a multiple of four bytes. -/
def Bytes.textSlot (text : String) : Bytes := padded (ofText text ++ [0])

/-- The payload of a leaf.  The payload of an array is that of its leaves. -/
def Argument.encoded : Argument → Bytes
  | int value => Bytes.bigEndian 4 value.toUInt32.toNat
  | unsigned value => Bytes.bigEndian 4 value.toNat
  | float bits => Bytes.bigEndian 4 bits.toNat
  | string text => Bytes.textSlot text
  | blob data => Bytes.bigEndian 4 data.length ++ Bytes.padded data
  | long value => Bytes.bigEndian 8 value.toUInt64.toNat
  | double bits => Bytes.bigEndian 8 bits.toNat
  | timeTag tag => Bytes.bigEndian 8 tag.raw.toNat
  | bool _ => []
  | nil => []
  | impulse => []
  | char code => [code, 0, 0, 0]
  | color value => value.toBytes
  | midi value => value.toBytes
  | symbol text => Bytes.textSlot text
  | array _ => []
  | custom _ data => Bytes.padded data

/-- The payloads of the leaves, one after the other. -/
def Argument.encodedLeaves (arguments : List Argument) : Bytes :=
  (leavesOf arguments).flatMap encoded

def Message.encoded (m : Message) : Bytes :=
  Bytes.textSlot m.address ++
    Bytes.textSlot ("," ++ String.ofList (Argument.typeTagsOf m.arguments)) ++
    Argument.encodedLeaves m.arguments

namespace Packet

mutual

def encoded : Packet → Bytes
  | message m => m.encoded
  | bundle time elements =>
    Codec.bundleHeader ++ Bytes.bigEndian 8 time.raw.toNat ++ encodedElements elements

/-- The encodings of the packets, each behind its length. -/
def encodedElements : List Packet → Bytes
  | [] => []
  | packet :: rest =>
    Bytes.bigEndian 4 packet.encoded.length ++ packet.encoded ++ encodedElements rest

end

end Packet

/-! ### Packets that can be written -/

namespace Codec

variable (codec : Codec)

/-- The handler registered under the tag of the argument accepts it. -/
def Accepts (argument : Argument) : Prop :=
  ∃ tag handler, argument.typeTag? = some tag ∧ codec.registry.find? tag = some handler ∧
    handler.accepts argument = true

/-- A leaf that can be written: a handler accepts it, and neither its tag nor its payload has what
the wire cannot hold. -/
structure IsWritableLeaf (argument : Argument) : Prop where
  accepts : codec.Accepts argument
  tag_ne : argument.typeTag? ≠ some '\x00'
  nul_not_mem : ∀ text, argument.text? = some text → '\x00' ∉ text.toList
  length_le : ∀ data, argument.blob? = some data → data.length ≤ Bytes.maxLengthPrefix

structure IsWritableMessage (m : Message) : Prop where
  isValid : Address.isValid m.address = true
  arrayDepth_le : Argument.arrayDepthOf m.arguments ≤ codec.limits.maxArrayDepth
  leaf : ∀ argument ∈ Argument.leavesOf m.arguments, codec.IsWritableLeaf argument

/-- A packet that can be written, if there is room for it. -/
structure IsWritable (p : Packet) : Prop where
  bundleDepth_le : p.bundleDepth ≤ codec.limits.maxBundleDepth
  message : ∀ m ∈ p.messages, codec.IsWritableMessage m
  element_le : ∀ e ∈ p.elements, e.encoded.length ≤ Bytes.maxLengthPrefix

end Codec

/-! ### Payloads -/

/-- A character of ASCII is in a text exactly when its byte is in the encoding. -/
theorem Bytes.mem_ofText_iff {c : Char} {s : String} (hc : c.toNat < 128) :
    c.toUInt8 ∈ ofText s ↔ c ∈ s.toList := by
  have hlow : c.toUInt8.toNat = c.toNat := toNat_toUInt8_of_lt hc
  have hlt : c.toUInt8 < 128 := by
    rw [UInt8.lt_iff_toNat_lt, hlow]
    exact hc
  have step : ∀ cs : List Char, c.toUInt8 ∈ ofText (String.ofList cs) ↔ c ∈ cs := by
    intro cs
    induction cs with
    | nil => simp [ofText]
    | cons first cs ih =>
      rw [ofText_ofList_cons, List.mem_append, List.mem_cons, ih]
      refine or_congr_left ⟨fun h => ?_, ?_⟩
      · exact Char.toNat_inj.1 ((eq_of_mem_utf8EncodeChar hlt h).1.trans hlow).symm
      · rintro rfl
        rw [utf8EncodeChar_of_lt hc]
        exact List.mem_singleton_self _
  rw [← step, String.ofList_toList]

theorem Bytes.zero_mem_ofText_iff {s : String} : 0 ∈ ofText s ↔ '\x00' ∈ s.toList :=
  @mem_ofText_iff '\x00' s (by decide)

theorem layout_text_iff {d : Bytes} {s : String} :
    Layout.text d s ↔ '\x00' ∉ s.toList ∧ d = Bytes.textSlot s := by
  rw [← Bytes.zero_mem_ofText_iff]
  rfl

/-- A payload that is neither a text nor a blob is written as it stands. -/
theorem Handler.ok_eq_ok_iff_of_encoded {handler : Handler} {argument : Argument} {e d : Bytes}
    (haccepts : handler.accepts argument = true) (htext : argument.text? = none)
    (hblob : argument.blob? = none) (hencoded : argument.encoded = e) :
    (.ok e : Except EncodeError Bytes) = .ok d ↔
      handler.accepts argument = true ∧
        (∀ text, argument.text? = some text → '\x00' ∉ text.toList) ∧
        (∀ data, argument.blob? = some data → data.length ≤ Bytes.maxLengthPrefix) ∧
        d = argument.encoded := by
  rw [htext, hblob, hencoded, Except.ok.injEq]
  constructor
  · rintro rfl
    exact ⟨haccepts, nofun, nofun, rfl⟩
  · exact fun h => h.2.2.2.symm

/-- A handler writes the payload of the arguments that it accepts, unless the wire cannot hold
it. -/
theorem Handler.encode_eq_ok_iff {handler : Handler} {argument : Argument} {d : Bytes} :
    handler.encode argument = .ok d ↔
      handler.accepts argument = true ∧
        (∀ text, argument.text? = some text → '\x00' ∉ text.toList) ∧
        (∀ data, argument.blob? = some data → data.length ≤ Bytes.maxLengthPrefix) ∧
        d = argument.encoded := by
  unfold Handler.encode
  split
  case h_4 | h_12 =>
    rw [paddedText?_eq_ok_iff, layout_text_iff]
    simp [accepts, Argument.text?, Argument.blob?, Argument.encoded]
  case h_5 data =>
    rw [sizedBlob?_eq_ok_iff]
    constructor
    · rintro ⟨hle, rfl⟩
      refine ⟨rfl, nofun, ?_, rfl⟩
      rintro _ ⟨⟩
      exact hle
    · rintro ⟨-, -, hle, rfl⟩
      exact ⟨hle data rfl, rfl⟩
  case h_13 tag width given data =>
    split_ifs with hfit
    · exact ok_eq_ok_iff_of_encoded (by simpa [accepts] using hfit) rfl rfl rfl
    · exact iff_of_false nofun fun h => hfit (by simpa [accepts] using h.1)
  case h_14 hfixed =>
    -- what is left to accept has no payload
    split_ifs with haccepts
    · unfold accepts at haccepts
      split at haccepts
      case h_9 | h_10 | h_11 => exact ok_eq_ok_iff_of_encoded haccepts rfl rfl rfl
      case h_16 => exact (hfixed _ _ _ _ rfl rfl).elim
      all_goals simp_all
    · exact iff_of_false nofun fun h => haccepts h.1
  all_goals exact ok_eq_ok_iff_of_encoded rfl rfl rfl rfl

namespace Codec

variable {codec : Codec}

/-! ### Arguments -/

theorem leaves_of_typeTag? {argument : Argument} {tag : Char}
    (htag : argument.typeTag? = some tag) : argument.leaves = [argument] := by
  cases argument with
  | array items => cases htag
  | _ => rw [Argument.leaves]; nofun

theorem arrayDepth_of_typeTag? {argument : Argument} {tag : Char}
    (htag : argument.typeTag? = some tag) : argument.arrayDepth = 0 := by
  cases argument with
  | array items => cases htag
  | _ => rw [Argument.arrayDepth]; nofun

theorem encodedLeaves_cons_of_typeTag? {argument : Argument} {tag : Char} {rest : List Argument}
    (htag : argument.typeTag? = some tag) :
    Argument.encodedLeaves (argument :: rest) =
      argument.encoded ++ Argument.encodedLeaves rest := by
  rw [Argument.encodedLeaves, Argument.leavesOf, leaves_of_typeTag? htag]
  rfl

theorem encodedLeaves_array_cons (items rest : List Argument) :
    Argument.encodedLeaves (.array items :: rest) =
      Argument.encodedLeaves items ++ Argument.encodedLeaves rest := by
  rw [Argument.encodedLeaves, Argument.leavesOf, Argument.leaves]
  exact List.flatMap_append

theorem handlerFor_eq_ok_iff_of_typeTag? {argument : Argument} {tag : Char} {handler : Handler}
    (htag : argument.typeTag? = some tag) :
    codec.handlerFor argument = .ok handler ↔
      codec.registry.find? tag = some handler ∧ handler.accepts argument = true := by
  rw [handlerFor_eq_ok_iff, htag, Option.getD_some]

theorem accepts_iff_of_typeTag? {argument : Argument} {tag : Char}
    (htag : argument.typeTag? = some tag) :
    codec.Accepts argument ↔ ∃ handler, codec.handlerFor argument = .ok handler := by
  simp only [handlerFor_eq_ok_iff_of_typeTag? htag, Accepts, htag, Option.some.injEq,
    exists_and_left, exists_eq_left']

/-- Type tags are settled for arguments whose leaves are accepted and whose arrays are not too
deep. -/
theorem tagsOfWithin_eq_ok_iff {levels : Nat} {arguments : List Argument} {tags : List Char} :
    codec.tagsOfWithin levels arguments = .ok tags ↔
      Argument.arrayDepthOf arguments ≤ levels ∧
        (∀ a ∈ Argument.leavesOf arguments, codec.Accepts a) ∧
        tags = Argument.typeTagsOf arguments := by
  induction arguments using Argument.list_induction generalizing levels tags with
  | nil =>
    rw [tagsOfWithin, Except.ok.injEq, eq_comm]
    simp [Argument.arrayDepthOf, Argument.leavesOf, Argument.typeTagsOf]
  | leaf argument tag rest htag ih =>
    rw [tagsOfWithin_cons_eq_ok_iff, Argument.arrayDepthOf, Argument.leavesOf, Argument.typeTagsOf,
      arrayDepth_of_typeTag? htag, leaves_of_typeTag? htag, typeTags_of_typeTag? htag, Nat.zero_max,
      List.forall_mem_append, List.forall_mem_singleton, accepts_iff_of_typeTag? htag]
    simp only [tagsWithin_eq_ok_iff_of_typeTag? htag, ih]
    constructor
    · rintro ⟨_, _, ⟨handler, hhandler, rfl⟩, ⟨hdepth, haccepts, rfl⟩, rfl⟩
      rw [Registry.tag_of_find? (find?_of_handlerFor htag hhandler)]
      exact ⟨hdepth, ⟨⟨handler, hhandler⟩, haccepts⟩, rfl⟩
    · rintro ⟨hdepth, ⟨⟨handler, hhandler⟩, haccepts⟩, rfl⟩
      rw [← Registry.tag_of_find? (find?_of_handlerFor htag hhandler)]
      exact ⟨_, _, ⟨handler, hhandler, rfl⟩, ⟨hdepth, haccepts, rfl⟩, rfl⟩
  | array items rest ihItems ih =>
    rw [tagsOfWithin_cons_eq_ok_iff, Argument.arrayDepthOf, Argument.leavesOf, Argument.typeTagsOf,
      Argument.arrayDepth, Argument.leaves, Argument.typeTags, Nat.max_le, List.forall_mem_append]
    simp only [tagsWithin_array_eq_ok_iff, ihItems, ih]
    constructor
    · rintro ⟨_, _, ⟨levels, _, rfl, ⟨hitems, hinner, rfl⟩, rfl⟩, ⟨hdepth, haccepts, rfl⟩, rfl⟩
      exact ⟨⟨Nat.succ_le_succ hitems, hdepth⟩, ⟨hinner, haccepts⟩, rfl⟩
    · rintro ⟨⟨hitems, hdepth⟩, ⟨hinner, haccepts⟩, rfl⟩
      obtain ⟨left, rfl⟩ := Nat.exists_eq_add_of_le' (Nat.one_le_of_lt hitems)
      exact ⟨_, _, ⟨left, _, rfl, ⟨Nat.le_of_succ_le_succ hitems, hinner, rfl⟩, rfl⟩,
        ⟨hdepth, haccepts, rfl⟩, rfl⟩

/-- A leaf is written by the handler that accepts it, if the wire can hold it. -/
theorem payload_eq_ok_iff {argument : Argument} {tag : Char} {d : Bytes}
    (htag : argument.typeTag? = some tag) :
    codec.payload argument = .ok d ↔
      codec.Accepts argument ∧
        (∀ text, argument.text? = some text → '\x00' ∉ text.toList) ∧
        (∀ data, argument.blob? = some data → data.length ≤ Bytes.maxLengthPrefix) ∧
        d = argument.encoded := by
  rw [payload_eq_ok_iff_of_typeTag? htag, accepts_iff_of_typeTag? htag]
  constructor
  · rintro ⟨handler, hhandler, h⟩
    exact ⟨⟨handler, hhandler⟩, (Handler.encode_eq_ok_iff.1 h).2⟩
  · rintro ⟨⟨handler, hhandler⟩, h⟩
    have haccepts := ((handlerFor_eq_ok_iff_of_typeTag? htag).1 hhandler).2
    exact ⟨handler, hhandler, Handler.encode_eq_ok_iff.2 ⟨haccepts, h⟩⟩

theorem payloads_eq_ok_iff {arguments : List Argument} {d : Bytes} :
    codec.payloads arguments = .ok d ↔
      (∀ a ∈ Argument.leavesOf arguments, codec.payload a = .ok a.encoded) ∧
        d = Argument.encodedLeaves arguments := by
  induction arguments using Argument.list_induction generalizing d with
  | nil =>
    rw [payloads, Except.ok.injEq, eq_comm]
    simp [Argument.encodedLeaves, Argument.leavesOf]
  | leaf argument tag rest htag ih =>
    rw [payloads_cons_eq_ok_iff, encodedLeaves_cons_of_typeTag? htag, Argument.leavesOf,
      leaves_of_typeTag? htag, List.forall_mem_append, List.forall_mem_singleton]
    simp only [ih]
    constructor
    · rintro ⟨front, _, hfront, ⟨hrest, rfl⟩, rfl⟩
      obtain rfl := ((payload_eq_ok_iff htag).1 hfront).2.2.2
      exact ⟨⟨hfront, hrest⟩, rfl⟩
    · rintro ⟨⟨hfront, hrest⟩, rfl⟩
      exact ⟨_, _, hfront, ⟨hrest, rfl⟩, rfl⟩
  | array items rest ihItems ih =>
    rw [payloads_cons_eq_ok_iff, payload, encodedLeaves_array_cons, Argument.leavesOf,
      Argument.leaves, List.forall_mem_append]
    simp only [ihItems, ih]
    constructor
    · rintro ⟨_, _, ⟨hitems, rfl⟩, ⟨hrest, rfl⟩, rfl⟩
      exact ⟨⟨hitems, hrest⟩, rfl⟩
    · rintro ⟨⟨hitems, hrest⟩, rfl⟩
      exact ⟨_, _, ⟨hitems, rfl⟩, ⟨hrest, rfl⟩, rfl⟩

/-! ### Messages -/

/-- A character that is no bracket is among the type tags when a leaf is written under it. -/
theorem mem_typeTagsOf_iff {arguments : List Argument} {c : Char}
    (hopen : c ≠ Argument.openBracket) (hclose : c ≠ Argument.closeBracket) :
    c ∈ Argument.typeTagsOf arguments ↔
      ∃ a ∈ Argument.leavesOf arguments, a.typeTag? = some c := by
  induction arguments using Argument.list_induction with
  | nil => simp [Argument.typeTagsOf, Argument.leavesOf]
  | leaf argument tag rest htag ih =>
    rw [Argument.typeTagsOf, Argument.leavesOf, leaves_of_typeTag? htag, typeTags_of_typeTag? htag,
      List.mem_append, ih]
    simp [htag, eq_comm]
  | array items rest ihItems ih =>
    rw [Argument.typeTagsOf, Argument.leavesOf, Argument.typeTags, Argument.leaves,
      List.mem_append, ih]
    simp [hopen, hclose, ihItems, or_and_right, exists_or]

/-- A valid address has no reserved character. -/
theorem not_mem_of_isValid {address : String} {c : Char} (hc : c ∈ Address.reserved)
    (h : Address.isValid address = true) : c ∉ address.toList := by
  intro hmem
  unfold Address.isValid at h
  simp only [Bool.and_eq_true, Bool.not_eq_true', List.any_eq_false] at h
  exact h.2 c hmem (List.contains_iff_mem.2 hc)

theorem nul_not_mem_of_isValid {address : String} (h : Address.isValid address = true) :
    '\x00' ∉ address.toList :=
  not_mem_of_isValid (by decide) h

theorem layout_text_comma_iff {d : Bytes} {arguments : List Argument} :
    Layout.text d ("," ++ String.ofList (Argument.typeTagsOf arguments)) ↔
      (∀ a ∈ Argument.leavesOf arguments, a.typeTag? ≠ some '\x00') ∧
        d = Bytes.textSlot ("," ++ String.ofList (Argument.typeTagsOf arguments)) := by
  have hmem := @mem_typeTagsOf_iff arguments '\x00' (by decide) (by decide)
  rw [layout_text_iff]
  simp [hmem]

theorem encodeMessage_eq_ok_iff {m : Message} {d : Bytes} :
    codec.encodeMessage m = .ok d ↔ codec.IsWritableMessage m ∧ d = m.encoded := by
  rw [encodeMessage]
  split_ifs with hvalid
  swap
  · refine iff_of_false ?_ fun h => hvalid h.1.isValid
    rintro ⟨⟩
  simp only [except_bind_eq_ok_iff, except_pure_eq_ok_iff, paddedText?_eq_ok_iff,
    typeTags_eq_ok_iff, tagsOfWithin_eq_ok_iff, payloads_eq_ok_iff]
  constructor
  · rintro ⟨d₁, haddress, tags, ⟨hdepth, haccepts, htags⟩, d₂, htext, d₃, ⟨hpayloads, rfl⟩, rfl⟩
    obtain rfl : tags = String.ofList (Argument.typeTagsOf m.arguments) := by
      rw [← htags, String.ofList_toList]
    obtain ⟨hnul, rfl⟩ := layout_text_comma_iff.1 htext
    obtain ⟨-, rfl⟩ := layout_text_iff.1 haddress
    refine ⟨⟨hvalid, hdepth, fun a ha => ?_⟩, rfl⟩
    obtain ⟨tag, -, htag, -⟩ := haccepts a ha
    have h := (payload_eq_ok_iff htag).1 (hpayloads a ha)
    exact ⟨haccepts a ha, hnul a ha, h.2.1, h.2.2.1⟩
  · rintro ⟨⟨-, hdepth, hleaf⟩, rfl⟩
    have haddress := layout_text_iff.2 ⟨nul_not_mem_of_isValid hvalid, rfl⟩
    have htext := layout_text_comma_iff.2 ⟨fun a ha => (hleaf a ha).tag_ne, rfl⟩
    refine ⟨_, haddress, String.ofList (Argument.typeTagsOf m.arguments),
      ⟨hdepth, fun a ha => (hleaf a ha).accepts, String.toList_ofList⟩, _, htext, _,
      ⟨fun a ha => ?_, rfl⟩, rfl⟩
    obtain ⟨tag, -, htag, -⟩ := (hleaf a ha).accepts
    exact (payload_eq_ok_iff htag).2
      ⟨(hleaf a ha).accepts, (hleaf a ha).nul_not_mem, (hleaf a ha).length_le, rfl⟩

/-! ### Packets -/

theorem encodeElements_eq_ok_iff {levels : Nat} {packets : List Packet} {d : Bytes} :
    codec.encodeElements levels packets = .ok d ↔
      Packet.bundleDepthOf packets ≤ levels ∧
        (∀ m ∈ Packet.messagesOf packets, codec.IsWritableMessage m) ∧
        (∀ e ∈ Packet.elementsOf packets, e.encoded.length ≤ Bytes.maxLengthPrefix) ∧
        d = Packet.encodedElements packets := by
  induction packets using Packet.list_induction generalizing levels d with
  | nil =>
    rw [encodeElements, Except.ok.injEq, eq_comm]
    simp [Packet.bundleDepthOf, Packet.messagesOf, Packet.elementsOf, Packet.encodedElements]
  | message m rest ih =>
    rw [encodeElements_cons_eq_ok_iff, Packet.bundleDepthOf_message_cons,
      Packet.messagesOf_message_cons, Packet.elementsOf_message_cons, Packet.encodedElements,
      List.forall_mem_cons, List.forall_mem_cons, Packet.encoded]
    simp only [encodeWithin, encodeMessage_eq_ok_iff, ih]
    constructor
    · rintro ⟨_, _, ⟨hm, rfl⟩, hle, ⟨hdepth, hmessages, helements, rfl⟩, rfl⟩
      exact ⟨hdepth, ⟨hm, hmessages⟩, ⟨hle, helements⟩, rfl⟩
    · rintro ⟨hdepth, ⟨hm, hmessages⟩, ⟨hle, helements⟩, rfl⟩
      exact ⟨_, _, ⟨hm, rfl⟩, hle, ⟨hdepth, hmessages, helements, rfl⟩, rfl⟩
  | bundle time elements rest ihElements ih =>
    rw [encodeElements_cons_eq_ok_iff, Packet.bundleDepthOf_bundle_cons,
      Packet.messagesOf_bundle_cons, Packet.elementsOf_bundle_cons, Packet.encodedElements,
      Nat.max_le, List.forall_mem_append, List.forall_mem_cons, List.forall_mem_append,
      Packet.encoded]
    simp only [encodeWithin_bundle_eq_ok_iff, ihElements, ih]
    constructor
    · rintro ⟨_, _, ⟨left, _, rfl, ⟨hinside, hm, he, rfl⟩, rfl⟩, hle,
        ⟨hdepth, hmessages, helements, rfl⟩, rfl⟩
      exact ⟨⟨Nat.succ_le_succ hinside, hdepth⟩, ⟨hm, hmessages⟩, ⟨hle, he, helements⟩, rfl⟩
    · rintro ⟨⟨hinside, hdepth⟩, ⟨hm, hmessages⟩, ⟨hle, he, helements⟩, rfl⟩
      obtain ⟨left, rfl⟩ := Nat.exists_eq_add_of_le' (Nat.one_le_of_lt hinside)
      exact ⟨_, _, ⟨left, _, rfl, ⟨Nat.le_of_succ_le_succ hinside, hm, he, rfl⟩, rfl⟩, hle,
        ⟨hdepth, hmessages, helements, rfl⟩, rfl⟩

theorem encoding_eq_ok_iff {p : Packet} {d : Bytes} :
    codec.encoding p = .ok d ↔ codec.IsWritable p ∧ d = p.encoded := by
  rw [encoding_eq_encodeWithin]
  cases p with
  | message m =>
    rw [encodeWithin, encodeMessage_eq_ok_iff, Packet.encoded]
    refine and_congr_left fun _ => ⟨fun h => ⟨Nat.zero_le _, ?_, ?_⟩, fun h => ?_⟩
    · rwa [Packet.messages, List.forall_mem_singleton]
    · simp [Packet.elements]
    · exact h.message m (List.mem_singleton_self m)
  | bundle time elements =>
    simp only [encodeWithin_bundle_eq_ok_iff, encodeElements_eq_ok_iff]
    constructor
    · rintro ⟨left, _, hlevels, ⟨hdepth, hmessages, helements, rfl⟩, rfl⟩
      exact ⟨⟨hlevels ▸ Nat.succ_le_succ hdepth, hmessages, helements⟩, by rw [Packet.encoded]⟩
    · rintro ⟨⟨hdepth, hmessages, helements⟩, rfl⟩
      obtain ⟨left, hlevels⟩ := Nat.exists_eq_add_of_le' (Nat.one_le_of_lt hdepth)
      rw [hlevels] at hdepth
      exact ⟨left, _, hlevels, ⟨Nat.le_of_succ_le_succ hdepth, hmessages, helements, rfl⟩,
        by rw [Packet.encoded]⟩

/-! ### Sizes -/

theorem length_textSlot_mod_four (text : String) : (Bytes.textSlot text).length % 4 = 0 := by
  rw [Bytes.textSlot, Bytes.length_padded]
  exact paddedLength_mod_four _

theorem length_textSlot_pos (text : String) : 0 < (Bytes.textSlot text).length := by
  have h := le_paddedLength (Bytes.ofText text ++ [0]).length
  rw [List.length_append, List.length_singleton] at h
  rw [Bytes.textSlot, Bytes.length_padded, List.length_append, List.length_singleton]
  omega

theorem length_encoded_argument_mod_four (argument : Argument) :
    argument.encoded.length % 4 = 0 := by
  cases argument with
  | int | unsigned | float | long | double | timeTag =>
    rw [Argument.encoded, Bytes.length_bigEndian]
  | string text | symbol text => exact length_textSlot_mod_four text
  | blob data =>
    rw [Argument.encoded, List.length_append, Bytes.length_bigEndian, Bytes.length_padded,
      Nat.add_mod, paddedLength_mod_four]
  | custom tag data =>
    rw [Argument.encoded, Bytes.length_padded]
    exact paddedLength_mod_four _
  | _ => simp [Argument.encoded, Color.toBytes, MidiMessage.toBytes]

theorem length_encodedLeaves_mod_four (arguments : List Argument) :
    (Argument.encodedLeaves arguments).length % 4 = 0 := by
  rw [Argument.encodedLeaves]
  induction Argument.leavesOf arguments with
  | nil => rfl
  | cons leaf rest ih =>
    rw [List.flatMap_cons, List.length_append, Nat.add_mod, length_encoded_argument_mod_four, ih]

theorem length_encoded_message_mod_four (m : Message) : m.encoded.length % 4 = 0 := by
  have haddress := length_textSlot_mod_four m.address
  have htags := length_textSlot_mod_four
    ("," ++ String.ofList (Argument.typeTagsOf m.arguments))
  have hleaves := length_encodedLeaves_mod_four m.arguments
  rw [Message.encoded, List.length_append, List.length_append]
  omega

theorem length_encodedElements_mod_four (packets : List Packet) :
    (Packet.encodedElements packets).length % 4 = 0 := by
  induction packets using Packet.list_induction with
  | nil => rfl
  | message m rest ih =>
    have hm := length_encoded_message_mod_four m
    rw [Packet.encodedElements, List.length_append, List.length_append, Bytes.length_bigEndian,
      Packet.encoded]
    omega
  | bundle time elements rest ihElements ih =>
    rw [Packet.encodedElements, List.length_append, List.length_append, Bytes.length_bigEndian,
      Packet.encoded, List.length_append, List.length_append, length_bundleHeader,
      Bytes.length_bigEndian]
    omega

/-- An encoding is never empty and keeps to the grid of four bytes. -/
theorem length_encoded (p : Packet) : 0 < p.encoded.length ∧ p.encoded.length % 4 = 0 := by
  cases p with
  | message m =>
    have hmod := length_encoded_message_mod_four m
    have hpos := length_textSlot_pos m.address
    rw [Packet.encoded]
    refine ⟨?_, hmod⟩
    rw [Message.encoded, List.length_append, List.length_append]
    omega
  | bundle time elements =>
    have hmod := length_encodedElements_mod_four elements
    rw [Packet.encoded, List.length_append, List.length_append, length_bundleHeader,
      Bytes.length_bigEndian]
    omega

/-! ### Failures -/

/-- Nothing fails for want of room. -/
def AvoidsOverrun {α : Type} (x : Except EncodeError α) : Prop :=
  ∀ needed available, x ≠ .error (.bufferOverrun needed available)

section Overrun

variable {α β : Type}

theorem avoidsOverrun_ok (a : α) : AvoidsOverrun (.ok a) := nofun

theorem AvoidsOverrun.bind {x : Except EncodeError α} {f : α → Except EncodeError β}
    (hx : AvoidsOverrun x) (hf : ∀ a, AvoidsOverrun (f a)) : AvoidsOverrun (x >>= f) := by
  rcases x with e | a
  · rintro needed available ⟨⟩
    exact hx needed available rfl
  · exact hf a

theorem AvoidsOverrun.ite {c : Prop} [Decidable c] {x y : Except EncodeError α}
    (hx : AvoidsOverrun x) (hy : AvoidsOverrun y) : AvoidsOverrun (if c then x else y) := by
  split_ifs
  · exact hx
  · exact hy

theorem avoidsOverrun_paddedText? (text : String) : AvoidsOverrun (Bytes.paddedText? text) :=
  .ite nofun nofun

theorem avoidsOverrun_lengthPrefix? (length : Nat) : AvoidsOverrun (Bytes.lengthPrefix? length) :=
  .ite nofun nofun

theorem avoidsOverrun_encode (handler : Handler) (argument : Argument) :
    AvoidsOverrun (handler.encode argument) := by
  unfold Handler.encode
  split
  case h_4 | h_12 => exact avoidsOverrun_paddedText? _
  case h_5 => exact (avoidsOverrun_lengthPrefix? _).bind fun _ => avoidsOverrun_ok _
  case h_13 | h_14 => exact .ite nofun nofun
  all_goals exact avoidsOverrun_ok _

theorem avoidsOverrun_handlerFor (argument : Argument) :
    AvoidsOverrun (codec.handlerFor argument) := by
  unfold handlerFor
  dsimp only
  split
  · exact nofun
  · exact .ite nofun nofun

theorem avoidsOverrun_tagsOfWithin (levels : Nat) (arguments : List Argument) :
    AvoidsOverrun (codec.tagsOfWithin levels arguments) := by
  induction arguments using Argument.list_induction generalizing levels with
  | nil => exact avoidsOverrun_ok _
  | leaf argument tag rest htag ih =>
    rw [tagsOfWithin, tagsWithin_of_typeTag? htag]
    refine .bind ?_ fun _ => (ih levels).bind fun _ => avoidsOverrun_ok _
    exact (avoidsOverrun_handlerFor argument).bind fun _ => avoidsOverrun_ok _
  | array items rest ihItems ih =>
    rw [tagsOfWithin]
    refine .bind ?_ fun _ => (ih levels).bind fun _ => avoidsOverrun_ok _
    cases levels with
    | zero => rintro _ _ ⟨⟩
    | succ levels => exact (ihItems levels).bind fun _ => avoidsOverrun_ok _

theorem avoidsOverrun_payloads (arguments : List Argument) :
    AvoidsOverrun (codec.payloads arguments) := by
  induction arguments using Argument.list_induction with
  | nil => exact avoidsOverrun_ok _
  | leaf argument tag rest htag ih =>
    rw [payloads, payload_of_typeTag? htag]
    refine .bind ?_ fun _ => ih.bind fun _ => avoidsOverrun_ok _
    exact (avoidsOverrun_handlerFor argument).bind fun _ => avoidsOverrun_encode _ _
  | array items rest ihItems ih =>
    rw [payloads, payload]
    exact ihItems.bind fun _ => ih.bind fun _ => avoidsOverrun_ok _

theorem avoidsOverrun_encodeMessage (m : Message) : AvoidsOverrun (codec.encodeMessage m) := by
  refine .ite ?_ nofun
  refine (avoidsOverrun_paddedText? _).bind fun _ => .bind ?_ fun _ => ?_
  · exact (avoidsOverrun_tagsOfWithin _ _).bind fun _ => avoidsOverrun_ok _
  · exact (avoidsOverrun_paddedText? _).bind fun _ =>
      (avoidsOverrun_payloads _).bind fun _ => avoidsOverrun_ok _

theorem avoidsOverrun_encodeElements (levels : Nat) (packets : List Packet) :
    AvoidsOverrun (codec.encodeElements levels packets) := by
  induction packets using Packet.list_induction generalizing levels with
  | nil => exact avoidsOverrun_ok _
  | message m rest ih =>
    rw [encodeElements, encodeWithin]
    exact (avoidsOverrun_encodeMessage m).bind fun _ => (avoidsOverrun_lengthPrefix? _).bind
      fun _ => (ih levels).bind fun _ => avoidsOverrun_ok _
  | bundle time elements rest ihElements ih =>
    rw [encodeElements]
    refine .bind ?_ fun _ => (avoidsOverrun_lengthPrefix? _).bind
      fun _ => (ih levels).bind fun _ => avoidsOverrun_ok _
    cases levels with
    | zero => rintro _ _ ⟨⟩
    | succ levels => exact (ihElements levels).bind fun _ => avoidsOverrun_ok _

theorem avoidsOverrun_encoding (p : Packet) : AvoidsOverrun (codec.encoding p) := by
  rw [encoding_eq_encodeWithin]
  generalize codec.limits.maxBundleDepth = levels
  cases p with
  | message m => exact avoidsOverrun_encodeMessage m
  | bundle time elements =>
    cases levels with
    | zero => rintro _ _ ⟨⟩
    | succ levels => exact (avoidsOverrun_encodeElements levels _).bind fun _ => avoidsOverrun_ok _

end Overrun

/-! ### Outcomes -/

theorem encodeFitting_eq_ok_iff {available : Nat} {p : Packet} {d : Bytes} :
    codec.encodeFitting available p = .ok d ↔
      codec.IsWritable p ∧ p.encoded.length ≤ available ∧ d = p.encoded := by
  rw [encodeFitting, except_bind_eq_ok_iff]
  simp only [encoding_eq_ok_iff]
  constructor
  · rintro ⟨_, ⟨hp, rfl⟩, h⟩
    split_ifs at h with hfit
    exact ⟨hp, hfit, except_pure_eq_ok_iff.1 h⟩
  · rintro ⟨hp, hfit, rfl⟩
    exact ⟨_, ⟨hp, rfl⟩, if_pos hfit⟩

theorem encodeFitting_eq_overrun_iff {room needed available : Nat} {p : Packet} :
    codec.encodeFitting room p = .error (.bufferOverrun needed available) ↔
      codec.IsWritable p ∧ room < p.encoded.length ∧ needed = p.encoded.length ∧
        available = room := by
  rw [encodeFitting]
  rcases hdata : codec.encoding p with e | data
  · refine iff_of_false (fun h => ?_) fun h => ?_
    · cases h
      exact avoidsOverrun_encoding p needed available hdata
    · rw [encoding_eq_ok_iff.2 ⟨h.1, rfl⟩] at hdata
      cases hdata
  · obtain ⟨hp, rfl⟩ := encoding_eq_ok_iff.1 hdata
    rw [and_iff_right hp]
    show (if _ then _ else _) = _ ↔ _
    split_ifs with hfit
    · exact iff_of_false nofun fun h => Nat.not_lt.2 hfit h.1
    · rw [and_iff_right (Nat.lt_of_not_le hfit)]
      constructor
      · rintro ⟨⟩
        exact ⟨rfl, rfl⟩
      · rintro ⟨rfl, rfl⟩
        rfl

/-- A packet is written exactly when it can be written and there is room for it, and what is written
is its encoding.  It fails for its size exactly when that is all that is wrong with it. -/
theorem encode_eq_iff_isWritable (codec : Codec) (p : Packet) :
    (∀ d, codec.encode p = .ok d ↔
      codec.IsWritable p ∧ p.encoded.length ≤ codec.limits.maxPacketSize ∧ d = p.encoded) ∧
    ((∃ e, codec.encode p = .error e) ↔
      ¬ (codec.IsWritable p ∧ p.encoded.length ≤ codec.limits.maxPacketSize)) ∧
    (∀ needed available, codec.encode p = .error (.bufferOverrun needed available) ↔
      codec.IsWritable p ∧ codec.limits.maxPacketSize < p.encoded.length ∧
        needed = p.encoded.length ∧ available = codec.limits.maxPacketSize) ∧
    0 < p.encoded.length ∧ p.encoded.length % 4 = 0 := by
  refine ⟨fun d => encodeFitting_eq_ok_iff, ?_, fun _ _ => encodeFitting_eq_overrun_iff,
    length_encoded p⟩
  rw [encode]
  rcases hd : codec.encodeFitting codec.limits.maxPacketSize p with e | d
  · refine iff_of_true ⟨e, rfl⟩ fun h => ?_
    rw [encodeFitting_eq_ok_iff.2 ⟨h.1, h.2, rfl⟩] at hd
    cases hd
  · have h := encodeFitting_eq_ok_iff.1 hd
    exact iff_of_false nofun fun hnot => hnot ⟨h.1, h.2.1⟩

end Codec

end OpenSound
