import OpenSound.Proofs.Recognition
import OpenSound.Proofs.Writing

/-!
# Writing and reading back

What `Codec.encode` writes is a string of the grammar (`packetLayout_of_encoding`), for the
packet in which every message carries the info that describes its arguments (`Packet.described`).
The reader accepts the grammar, so it reads back the packet that was written.  Only a character
outside ASCII can be written and not be read.
-/

namespace OpenSound

/-! ### Descriptions -/

/-- The message with the type tags of its arguments as its info. -/
def Message.described (m : Message) : Message :=
  m.withInfo ⟨String.ofList (Argument.typeTagsOf m.arguments)⟩

namespace Packet

mutual

/-- The packet with the info of every message in it replaced by the one that describes its
arguments. -/
def described : Packet → Packet
  | message m => message m.described
  | bundle time elements => bundle time (describedAll elements)

def describedAll : List Packet → List Packet
  | [] => []
  | packet :: rest => packet.described :: describedAll rest

end

end Packet

namespace Argument

mutual

/-- Whether every character among the argument and the items in it belongs to ASCII. -/
def hasAsciiChars : Argument → Bool
  | char code => code < 128
  | array items => haveAsciiChars items
  | _ => true

def haveAsciiChars : List Argument → Bool
  | [] => true
  | argument :: rest => argument.hasAsciiChars && haveAsciiChars rest

end

end Argument

namespace Packet

mutual

/-- Whether every character in the messages of the packet belongs to ASCII. -/
def hasAsciiChars : Packet → Bool
  | message m => Argument.haveAsciiChars m.arguments
  | bundle _ elements => haveAsciiChars elements

def haveAsciiChars : List Packet → Bool
  | [] => true
  | packet :: rest => packet.hasAsciiChars && haveAsciiChars rest

end

end Packet

/-! ### Primitives -/

theorem paddedText?_eq_ok_iff {s : String} {d : Bytes} :
    Bytes.paddedText? s = .ok d ↔ Layout.text d s := by
  unfold Bytes.paddedText? Layout.text
  dsimp only
  split_ifs with h
  · exact iff_of_false nofun fun hd => hd.1 h
  · rw [Except.ok.injEq, and_iff_right h, eq_comm]

theorem lengthPrefix?_eq_ok_iff {n : Nat} {d : Bytes} :
    Bytes.lengthPrefix? n = .ok d ↔ n ≤ Bytes.maxLengthPrefix ∧ d = Bytes.bigEndian 4 n := by
  unfold Bytes.lengthPrefix?
  split_ifs with h
  · rw [Except.ok.injEq, and_iff_right h, eq_comm]
  · exact iff_of_false nofun fun hd => h hd.1

theorem sizedBlob?_eq_ok_iff {data d : Bytes} :
    Bytes.sizedBlob? data = .ok d ↔ Layout.blob d data := by
  unfold Bytes.sizedBlob? Layout.blob
  simp only [except_bind_eq_ok_iff, lengthPrefix?_eq_ok_iff]
  constructor
  · rintro ⟨front, ⟨hle, rfl⟩, h⟩
    cases h
    exact ⟨hle, rfl⟩
  · rintro ⟨hle, rfl⟩
    exact ⟨_, ⟨hle, rfl⟩, rfl⟩

/-- What a handler writes is a payload that it knows. -/
theorem payload_of_encode {handler : Handler} {argument : Argument} {d : Bytes}
    (hascii : argument.hasAsciiChars = true) (h : handler.encode argument = .ok d) :
    handler.payload d argument := by
  unfold Handler.encode at h
  split at h
  case h_1 | h_2 | h_3 | h_6 | h_7 | h_8 =>
    cases h
    exact ⟨_, rfl, rfl⟩
  case h_4 | h_12 => exact ⟨_, paddedText?_eq_ok_iff.1 h, rfl⟩
  case h_5 => exact ⟨_, sizedBlob?_eq_ok_iff.1 h, rfl⟩
  case h_9 =>
    cases h
    exact ⟨_, 0, 0, 0, of_decide_eq_true hascii, rfl, rfl⟩
  case h_10 | h_11 =>
    cases h
    exact ⟨_, _, _, _, rfl, rfl⟩
  case h_13 =>
    split_ifs at h with hfit
    cases h
    obtain ⟨rfl, hlen⟩ := hfit
    exact ⟨_, ⟨hlen, rfl⟩, rfl⟩
  next hfixed =>
    -- what is left to accept has no payload
    split_ifs at h with haccepts
    cases h
    unfold Handler.accepts at haccepts
    split at haccepts
    case h_9 =>
      obtain rfl := of_decide_eq_true haccepts
      exact ⟨rfl, rfl⟩
    case h_10 | h_11 => exact ⟨rfl, rfl⟩
    case h_16 => exact (hfixed _ _ _ _ rfl rfl).elim
    all_goals simp_all

namespace Codec

variable {codec : Codec}

/-! ### Arguments -/

theorem handlerFor_eq_ok_iff {argument : Argument} {handler : Handler} :
    codec.handlerFor argument = .ok handler ↔
      codec.registry.find? (argument.typeTag?.getD Argument.openBracket) = some handler ∧
        handler.accepts argument = true := by
  unfold handlerFor
  dsimp only
  rcases codec.registry.find? (argument.typeTag?.getD Argument.openBracket) with _ | found
  · simp
  · dsimp only
    split_ifs with haccepts
    · rw [Except.ok.injEq, Option.some.injEq]
      constructor
      · rintro rfl
        exact ⟨rfl, haccepts⟩
      · exact And.left
    · refine iff_of_false nofun ?_
      rintro ⟨h, haccepts'⟩
      cases h
      exact haccepts haccepts'

/-- Only an array has no type tag of its own. -/
theorem eq_array_or_typeTag?_eq_some (argument : Argument) :
    (∃ items, argument = .array items) ∨ ∃ tag, argument.typeTag? = some tag := by
  cases argument with
  | array items => exact .inl ⟨items, rfl⟩
  | bool value => cases value <;> exact .inr ⟨_, rfl⟩
  | _ => exact .inr ⟨_, rfl⟩

theorem typeTags_of_typeTag? {argument : Argument} {tag : Char} (h : argument.typeTag? = some tag) :
    argument.typeTags = [tag] := by
  cases argument with
  | array items => cases h
  | _ => simp only [Argument.typeTags, h, Option.toList]

/-- The handler for an argument with a type tag is the one registered under the tag. -/
theorem find?_of_handlerFor {argument : Argument} {tag : Char} {handler : Handler}
    (htag : argument.typeTag? = some tag) (h : codec.handlerFor argument = .ok handler) :
    codec.registry.find? tag = some handler := by
  have hfound := (handlerFor_eq_ok_iff.1 h).1
  rwa [htag, Option.getD_some] at hfound

theorem tagsWithin_of_typeTag? {levels : Nat} {argument : Argument} {tag : Char}
    (htag : argument.typeTag? = some tag) :
    codec.tagsWithin levels argument = (do
      let handler ← codec.handlerFor argument
      return [handler.tag]) := by
  rw [tagsWithin]
  · rintro items - rfl
    cases htag
  · rintro _ items - rfl
    cases htag

theorem tagsWithin_eq_ok_iff_of_typeTag? {levels : Nat} {argument : Argument} {tag : Char}
    {tags : List Char} (htag : argument.typeTag? = some tag) :
    codec.tagsWithin levels argument = .ok tags ↔
      ∃ handler, codec.handlerFor argument = .ok handler ∧ tags = [handler.tag] := by
  rw [tagsWithin_of_typeTag? htag]
  simp only [except_bind_eq_ok_iff, except_pure_eq_ok_iff]

theorem tagsWithin_array_eq_ok_iff {levels : Nat} {items : List Argument} {tags : List Char} :
    codec.tagsWithin levels (.array items) = .ok tags ↔
      ∃ levels' inner, levels = levels' + 1 ∧ codec.tagsOfWithin levels' items = .ok inner ∧
        tags = Argument.openBracket :: inner ++ [Argument.closeBracket] := by
  cases levels with
  | zero => simp [tagsWithin]
  | succ levels =>
    rw [tagsWithin]
    simp only [except_bind_eq_ok_iff, except_pure_eq_ok_iff, Nat.add_right_cancel_iff,
      exists_and_left, exists_eq_left']

theorem tagsOfWithin_cons_eq_ok_iff {levels : Nat} {argument : Argument} {rest : List Argument}
    {tags : List Char} :
    codec.tagsOfWithin levels (argument :: rest) = .ok tags ↔
      ∃ front back, codec.tagsWithin levels argument = .ok front ∧
        codec.tagsOfWithin levels rest = .ok back ∧ tags = front ++ back := by
  simp only [tagsOfWithin, except_bind_eq_ok_iff, except_pure_eq_ok_iff, exists_and_left]

theorem payload_eq_ok_iff_of_typeTag? {argument : Argument} {tag : Char} {d : Bytes}
    (htag : argument.typeTag? = some tag) :
    codec.payload argument = .ok d ↔
      ∃ handler, codec.handlerFor argument = .ok handler ∧ handler.encode argument = .ok d := by
  rw [payload_of_typeTag? htag]
  exact except_bind_eq_ok_iff

theorem payloads_cons_eq_ok_iff {argument : Argument} {rest : List Argument} {d : Bytes} :
    codec.payloads (argument :: rest) = .ok d ↔
      ∃ front back, codec.payload argument = .ok front ∧ codec.payloads rest = .ok back ∧
        d = front ++ back := by
  simp only [payloads, except_bind_eq_ok_iff, except_pure_eq_ok_iff, exists_and_left]

/-- The tags that are written describe the arguments. -/
theorem eq_typeTagsOf_of_tagsOfWithin {levels : Nat} {arguments : List Argument}
    {tags : List Char} (h : codec.tagsOfWithin levels arguments = .ok tags) :
    tags = Argument.typeTagsOf arguments := by
  induction levels using Nat.strong_induction_on generalizing arguments tags with
  | _ levels ihLevels =>
    induction arguments generalizing tags with
    | nil =>
      cases h
      rfl
    | cons argument rest ih =>
      obtain ⟨front, back, hfront, hback, rfl⟩ := tagsOfWithin_cons_eq_ok_iff.1 h
      rw [Argument.typeTagsOf, ih hback]
      congr 1
      rcases eq_array_or_typeTag?_eq_some argument with ⟨items, rfl⟩ | ⟨tag, htag⟩
      · obtain ⟨levels', inner, rfl, hinner, rfl⟩ := tagsWithin_array_eq_ok_iff.1 hfront
        rw [Argument.typeTags, ihLevels levels' (Nat.lt_succ_self _) hinner]
      · obtain ⟨handler, hhandler, rfl⟩ := (tagsWithin_eq_ok_iff_of_typeTag? htag).1 hfront
        have htagHandler := Registry.tag_of_find? (find?_of_handlerFor htag hhandler)
        rw [typeTags_of_typeTag? htag, htagHandler]

/-- What is written for the arguments of a message are the payloads of their type tags. -/
theorem argumentsLayout_of_payloads {levels depth : Nat} {arguments : List Argument}
    {tags : List Char} {d : Bytes} (hdepth : depth + levels = codec.limits.maxArrayDepth)
    (htags : codec.tagsOfWithin levels arguments = .ok tags)
    (hpayloads : codec.payloads arguments = .ok d)
    (hascii : Argument.haveAsciiChars arguments = true) :
    codec.ArgumentsLayout depth tags d arguments := by
  induction levels using Nat.strong_induction_on generalizing depth arguments tags d with
  | _ levels ihLevels =>
    induction arguments generalizing tags d with
    | nil =>
      cases htags
      cases hpayloads
      exact .nil
    | cons argument rest ih =>
      obtain ⟨front, back, hfront, hback, rfl⟩ := tagsOfWithin_cons_eq_ok_iff.1 htags
      obtain ⟨dfront, dback, hdfront, hdback, rfl⟩ := payloads_cons_eq_ok_iff.1 hpayloads
      rw [Argument.haveAsciiChars, Bool.and_eq_true] at hascii
      have hrest := ih hback hdback hascii.2
      rcases eq_array_or_typeTag?_eq_some argument with ⟨items, rfl⟩ | ⟨tag, htag⟩
      · obtain ⟨levels', inner, rfl, hinner, rfl⟩ := tagsWithin_array_eq_ok_iff.1 hfront
        rw [payload] at hdfront
        rw [Argument.hasAsciiChars] at hascii
        have hinside : depth + 1 + levels' = codec.limits.maxArrayDepth := by omega
        have hitems := ihLevels levels' (Nat.lt_succ_self _) hinside hinner hdfront hascii.1
        rw [List.append_assoc, List.singleton_append]
        exact .array (by omega) hitems hrest
      · obtain ⟨handler, hhandler, rfl⟩ := (tagsWithin_eq_ok_iff_of_typeTag? htag).1 hfront
        obtain ⟨handler', hhandler', hencode⟩ := (payload_eq_ok_iff_of_typeTag? htag).1 hdfront
        obtain rfl : handler = handler' := Except.ok.inj (hhandler.symm.trans hhandler')
        have hfound := find?_of_handlerFor htag hhandler
        rw [List.singleton_append, Registry.tag_of_find? hfound]
        exact .single hfound (payload_of_encode hascii.1 hencode) hrest

/-! ### Messages and packets -/

theorem typeTags_eq_ok_iff {arguments : List Argument} {tags : String} :
    codec.typeTags arguments = .ok tags ↔
      codec.tagsOfWithin codec.limits.maxArrayDepth arguments = .ok tags.toList := by
  rw [typeTags, except_bind_eq_ok_iff]
  constructor
  · rintro ⟨chars, h, htags⟩
    rw [except_pure_eq_ok_iff.1 htags, String.toList_ofList, h]
  · intro h
    exact ⟨_, h, by rw [String.ofList_toList]; rfl⟩

theorem eq_of_typeTags {arguments : List Argument} {tags : String}
    (h : codec.typeTags arguments = .ok tags) :
    tags = String.ofList (Argument.typeTagsOf arguments) := by
  rw [← eq_typeTagsOf_of_tagsOfWithin (typeTags_eq_ok_iff.1 h), String.ofList_toList]

theorem head?_of_isValid {address : String} (h : Address.isValid address = true) :
    address.toList.head? = some '/' := by
  unfold Address.isValid at h
  simp only [Bool.and_eq_true] at h
  exact of_decide_eq_true h.1.1

theorem messageLayout_of_encodeMessage {m : Message} {d : Bytes}
    (hascii : Argument.haveAsciiChars m.arguments = true)
    (h : codec.encodeMessage m = .ok d) : codec.MessageLayout d m.described := by
  rw [encodeMessage] at h
  split_ifs at h with hvalid
  simp only [except_bind_eq_ok_iff, except_pure_eq_ok_iff, paddedText?_eq_ok_iff] at h
  obtain ⟨d₁, haddress, tags, htags, d₂, htext, d₃, hpayloads, rfl⟩ := h
  have hlayout := argumentsLayout_of_payloads (Nat.zero_add _) (typeTags_eq_ok_iff.1 htags)
    hpayloads hascii
  have hmessage := MessageLayout.tagged haddress (head?_of_isValid hvalid) htext hlayout
  rwa [eq_of_typeTags htags] at hmessage

theorem encodeElements_cons_eq_ok_iff {levels : Nat} {packet : Packet} {rest : List Packet}
    {d : Bytes} :
    codec.encodeElements levels (packet :: rest) = .ok d ↔
      ∃ element back, codec.encodeWithin levels packet = .ok element ∧
        element.length ≤ Bytes.maxLengthPrefix ∧ codec.encodeElements levels rest = .ok back ∧
        d = Bytes.bigEndian 4 element.length ++ element ++ back := by
  simp only [encodeElements, except_bind_eq_ok_iff, except_pure_eq_ok_iff, lengthPrefix?_eq_ok_iff]
  constructor
  · rintro ⟨element, helement, _, ⟨hle, rfl⟩, back, hback, rfl⟩
    exact ⟨element, back, helement, hle, hback, rfl⟩
  · rintro ⟨element, back, helement, hle, hback, rfl⟩
    exact ⟨element, helement, _, ⟨hle, rfl⟩, back, hback, rfl⟩

theorem encodeWithin_bundle_eq_ok_iff {levels : Nat} {time : TimeTag} {elements : List Packet}
    {d : Bytes} :
    codec.encodeWithin levels (.bundle time elements) = .ok d ↔
      ∃ levels' body, levels = levels' + 1 ∧ codec.encodeElements levels' elements = .ok body ∧
        d = bundleHeader ++ Bytes.bigEndian 8 time.raw.toNat ++ body := by
  cases levels with
  | zero => simp [encodeWithin]
  | succ levels =>
    rw [encodeWithin]
    simp only [except_bind_eq_ok_iff, except_pure_eq_ok_iff, Nat.add_right_cancel_iff,
      exists_and_left, exists_eq_left']

/-- If packets are written as the grammar says, so are the elements of a bundle. -/
theorem elementsLayout_of_encodeElements {levels level : Nat}
    (hpacket : ∀ (p : Packet) (d : Bytes), p.hasAsciiChars = true →
      codec.encodeWithin levels p = .ok d → codec.PacketLayout level d p.described)
    {elements : List Packet} {d : Bytes} (hascii : Packet.haveAsciiChars elements = true)
    (h : codec.encodeElements levels elements = .ok d) :
    codec.ElementsLayout level d (Packet.describedAll elements) := by
  induction elements generalizing d with
  | nil =>
    cases h
    exact .nil
  | cons packet rest ih =>
    obtain ⟨element, back, helement, hle, hback, rfl⟩ := encodeElements_cons_eq_ok_iff.1 h
    rw [Packet.haveAsciiChars, Bool.and_eq_true] at hascii
    exact .cons hle (hpacket packet element hascii.1 helement) (ih hascii.2 hback)

/-- What is written for a packet is a string of the grammar. -/
theorem packetLayout_of_encodeWithin {levels level : Nat} {p : Packet} {d : Bytes}
    (hlevel : level + levels = codec.limits.maxBundleDepth) (hascii : p.hasAsciiChars = true)
    (h : codec.encodeWithin levels p = .ok d) : codec.PacketLayout level d p.described := by
  induction levels using Nat.strong_induction_on generalizing level p d with
  | _ levels ih =>
    cases p with
    | message m =>
      rw [encodeWithin] at h
      rw [Packet.hasAsciiChars] at hascii
      have hmessage := messageLayout_of_encodeMessage hascii h
      refine .message hmessage.isFramed ?_ hmessage
      rw [hmessage.head?]
      decide
    | bundle time elements =>
      obtain ⟨levels', body, rfl, hbody, rfl⟩ := encodeWithin_bundle_eq_ok_iff.1 h
      rw [Packet.hasAsciiChars] at hascii
      have hnext : level + 1 + levels' = codec.limits.maxBundleDepth := by omega
      have hpacket := fun (p : Packet) (d : Bytes) (hp : p.hasAsciiChars = true)
        (hd : codec.encodeWithin levels' p = .ok d) => ih levels' (Nat.lt_succ_self _) hnext hp hd
      have helements := elementsLayout_of_encodeElements hpacket hascii hbody
      exact .bundle (isFramed_bundle helements.length_mod_four) (by omega) helements

theorem packetLayout_of_encoding {p : Packet} {d : Bytes} (hascii : p.hasAsciiChars = true)
    (h : codec.encoding p = .ok d) : codec.PacketLayout 0 d p.described := by
  rw [encoding_eq_encodeWithin] at h
  exact packetLayout_of_encodeWithin (Nat.zero_add _) hascii h

/-- What is written is read back as the packet it was written from, every message in it with the
type tags that describe its arguments. -/
theorem decode_encode (codec : Codec) (p : Packet) (d : Bytes) (hascii : p.hasAsciiChars = true)
    (h : codec.encode p = .ok d) : codec.decode d = .ok p.described := by
  unfold encode encodeFitting at h
  obtain ⟨data, hdata, h⟩ := except_bind_eq_ok_iff.1 h
  split_ifs at h
  obtain rfl := except_pure_eq_ok_iff.1 h
  have hlayout := packetLayout_of_encoding hascii hdata
  exact decode_eq_ok_iff.2 ((decodeWithin_eq_ok_iff (Nat.zero_add _) d p.described).2 hlayout)

/-- A bundle of a message with an array in an array, and an empty bundle. -/
def nestedPacket : Packet :=
  .bundle .immediate [
    .message { address := "/a", arguments := [.int 1, .array [.array [.char 65], .nil]] },
    .bundle .immediate []]

def nestedBytes : Bytes :=
  Bytes.ofText "#bundle" ++ [0, 0, 0, 0, 0, 0, 0, 0, 1] ++
    [0, 0, 0, 24] ++ Bytes.ofText "/a" ++ [0, 0] ++
      Bytes.ofText ",i[[c]N]" ++ [0, 0, 0, 0] ++ [0, 0, 0, 1] ++ [65, 0, 0, 0] ++
    [0, 0, 0, 16] ++ Bytes.ofText "#bundle" ++ [0, 0, 0, 0, 0, 0, 0, 0, 1]

theorem decode_encode_nestedPacket :
    nestedPacket.hasAsciiChars = true ∧ ({} : Codec).encode nestedPacket = .ok nestedBytes ∧
      ({} : Codec).decode nestedBytes = .ok nestedPacket.described := by
  have hascii : nestedPacket.hasAsciiChars = true := by decide
  have hencode : ({} : Codec).encode nestedPacket = .ok nestedBytes := by decide +kernel
  exact ⟨hascii, hencode, decode_encode {} nestedPacket nestedBytes hascii hencode⟩

end Codec

end OpenSound
