import OpenSound.Proofs.Canonical

/-!
# The type tags of a message

Four ways lead to the type tags of a list of arguments: they are read off the arguments, settled
by a codec, announced as the info of a message, and written behind the comma of one.  All come to
the same (`Codec.typeTags_settled`), unless the codec finds fault with an argument.

`Argument.places` lists arguments and arrays in the order in which their tags come, each with the
number of arrays around it, and `Codec.fault?` says what is wrong with a place by itself.  The first
fault is the one that settling the tags fails with (`Codec.tagsOfWithin_eq_orFault`), and with it
every attempt to announce or write them.
-/

namespace OpenSound

/-! ### Places -/

/-- An argument and the number of arrays around it. -/
structure Argument.Place where
  arraysAround : Nat
  argument : Argument

namespace Argument

mutual

/-- The argument and the items in it, in the order of their first type tags. -/
def places (arraysAround : Nat) : Argument → List Place
  | array items => ⟨arraysAround, array items⟩ :: placesOf (arraysAround + 1) items
  | argument => [⟨arraysAround, argument⟩]

def placesOf (arraysAround : Nat) : List Argument → List Place
  | [] => []
  | argument :: rest => argument.places arraysAround ++ placesOf arraysAround rest

end

theorem placesOf_cons_of_typeTag? {argument : Argument} {tag : Char} {arraysAround : Nat}
    {rest : List Argument} (htag : argument.typeTag? = some tag) :
    placesOf arraysAround (argument :: rest) =
      ⟨arraysAround, argument⟩ :: placesOf arraysAround rest := by
  rw [placesOf]
  cases argument with
  | array items => cases htag
  | _ => rw [places, List.singleton_append]; nofun

theorem placesOf_array_cons {arraysAround : Nat} {items rest : List Argument} :
    placesOf arraysAround (array items :: rest) =
      ⟨arraysAround, array items⟩ ::
        (placesOf (arraysAround + 1) items ++ placesOf arraysAround rest) := by
  rw [placesOf, places, List.cons_append]

end Argument

/-! ### Faults -/

namespace Codec

variable {codec : Codec}

/-- What is wrong with a place by itself: an array has too many others around it, or there is no
handler for the tag of a leaf, or it does not accept the leaf. -/
def fault? (codec : Codec) (place : Argument.Place) : Option EncodeError :=
  match place.argument.typeTag? with
  | none =>
    if place.arraysAround < codec.limits.maxArrayDepth then none
    else some (.nestingTooDeep codec.limits.maxArrayDepth)
  | some tag =>
    match codec.registry.find? tag with
    | none => some (.unknownType tag)
    | some handler =>
      if handler.accepts place.argument then none
      else some (.typeMismatch tag place.argument.kind)

/-- The fault of the first place that has one. -/
def firstFault? (codec : Codec) (places : List Argument.Place) : Option EncodeError :=
  places.findSome? codec.fault?

theorem firstFault?_eq_some_iff {places : List Argument.Place} {e : EncodeError} :
    codec.firstFault? places = some e ↔
      ∃ before place behind, places = before ++ place :: behind ∧ codec.fault? place = some e ∧
        ∀ other ∈ before, codec.fault? other = none :=
  List.findSome?_eq_some_iff

theorem firstFault?_cons (place : Argument.Place) (places : List Argument.Place) :
    codec.firstFault? (place :: places) =
      (codec.fault? place).or (codec.firstFault? places) := by
  rw [firstFault?, List.findSome?_cons]
  rcases codec.fault? place with _ | e
  · rfl
  · rfl

theorem firstFault?_append (front back : List Argument.Place) :
    codec.firstFault? (front ++ back) = (codec.firstFault? front).or (codec.firstFault? back) :=
  List.findSome?_append

section OrFault

variable {α β : Type} {fault fault' : Option EncodeError} {a : α} {b : β}

/-- The value, or the fault if there is one. -/
def orFault (a : α) (fault : Option EncodeError) : Except EncodeError α :=
  fault.elim (.ok a) .error

theorem orFault_eq_error_iff {e : EncodeError} : orFault a fault = .error e ↔ fault = some e := by
  rcases fault with _ | e'
  · exact iff_of_false nofun nofun
  · rw [orFault, Option.elim_some, Except.error.injEq, Option.some.injEq]

/-- Of two faults in turn, the first one counts. -/
theorem orFault_bind {f : α → Except EncodeError β} (h : f a = orFault b fault') :
    orFault a fault >>= f = orFault b (fault.or fault') := by
  rcases fault with _ | e
  · exact h
  · rfl

theorem orFault_map (f : α → β) :
    (do let a ← orFault a fault; return f a) = orFault (f a) fault := by
  rcases fault with _ | e
  · rfl
  · rfl

end OrFault

theorem tagsWithin_eq_orFault_of_typeTag? {argument : Argument} {tag : Char} {levels : Nat}
    (arraysAround : Nat) (htag : argument.typeTag? = some tag) :
    codec.tagsWithin levels argument =
      orFault argument.typeTags (codec.fault? ⟨arraysAround, argument⟩) := by
  rw [tagsWithin_of_typeTag? htag, typeTags_of_typeTag? htag]
  unfold fault? handlerFor
  rw [htag]
  dsimp only [Option.getD_some]
  rcases hfind : codec.registry.find? tag with _ | handler
  · rfl
  · dsimp only
    split_ifs
    · rw [← Registry.tag_of_find? hfind]
      rfl
    · rfl

/-- Settling the type tags goes by the places: it fails with the first fault of them, and yields
what is read off the arguments if there is none. -/
theorem tagsOfWithin_eq_orFault {arraysAround levels : Nat} {arguments : List Argument}
    (hlevels : arraysAround + levels = codec.limits.maxArrayDepth) :
    codec.tagsOfWithin levels arguments =
      orFault (Argument.typeTagsOf arguments)
        (codec.firstFault? (Argument.placesOf arraysAround arguments)) := by
  -- inside an array there is one more around, and one level less is left
  induction arguments using Argument.list_induction generalizing arraysAround levels with
  | nil => rfl
  | leaf argument tag rest htag ih =>
    rw [tagsOfWithin, tagsWithin_eq_orFault_of_typeTag? arraysAround htag, ih hlevels,
      Argument.placesOf_cons_of_typeTag? htag, firstFault?_cons]
    exact orFault_bind (orFault_map _)
  | array items rest ihItems ih =>
    rw [tagsOfWithin, Argument.placesOf_array_cons, firstFault?_cons]
    cases levels with
    | zero =>
      have hdeep : codec.fault? ⟨arraysAround, .array items⟩ =
          some (.nestingTooDeep codec.limits.maxArrayDepth) := if_neg (Nat.not_lt.2 hlevels.ge)
      rw [hdeep]
      rfl
    | succ levels =>
      have hinside : arraysAround + 1 + levels = codec.limits.maxArrayDepth := by omega
      have hfine : codec.fault? ⟨arraysAround, .array items⟩ = none :=
        if_pos (show arraysAround < _ by omega)
      rw [hfine, Option.none_or, firstFault?_append, tagsWithin, ihItems hinside, ih hlevels,
        orFault_map]
      exact orFault_bind (orFault_map _)

theorem typeTags_eq_orFault (arguments : List Argument) :
    codec.typeTags arguments =
      orFault (String.ofList (Argument.typeTagsOf arguments))
        (codec.firstFault? (Argument.placesOf 0 arguments)) := by
  rw [typeTags, tagsOfWithin_eq_orFault (Nat.zero_add _), orFault_map]

theorem typeTags_eq_error_iff {arguments : List Argument} {e : EncodeError} :
    codec.typeTags arguments = .error e ↔
      codec.firstFault? (Argument.placesOf 0 arguments) = some e := by
  rw [typeTags_eq_orFault, orFault_eq_error_iff]

/-- A message that has a valid address is not written if its type tags cannot be settled. -/
theorem encode_message_of_typeTags_eq_error {m : Message} {e : EncodeError}
    (hvalid : Address.isValid m.address = true) (h : codec.typeTags m.arguments = .error e) :
    codec.encode (.message m) = .error e := by
  have haddress : Bytes.paddedText? m.address = .ok (Bytes.textSlot m.address) :=
    paddedText?_eq_ok_iff.2 (layout_text_iff.2 ⟨nul_not_mem_of_isValid hvalid, rfl⟩)
  rw [encode, encodeFitting, encoding_eq_encodeWithin, encodeWithin, encodeMessage, if_pos hvalid,
    haddress, h]
  rfl

end Codec

/-! ### Tags in bytes -/

/-- The text behind the first comma, up to the next zero. -/
def Bytes.tagsBehindComma? (d : Bytes) : Option String :=
  toText? (((d.dropWhile (· ≠ ','.toUInt8)).drop 1).takeWhile (· ≠ 0))

theorem Bytes.ofText_comma_append (tags : String) :
    ofText ("," ++ tags) = ','.toUInt8 :: ofText tags := by
  have hchars : "," ++ tags = String.ofList (',' :: tags.toList) := by
    rw [← String.toList_inj]
    simp
  rw [hchars, ofText_ofList_cons, String.ofList_toList]
  rfl

theorem Bytes.exists_textSlot_comma_append (tags : String) :
    ∃ zeros, textSlot ("," ++ tags) = ','.toUInt8 :: (ofText tags ++ 0 :: zeros) := by
  rw [textSlot, padded, ofText_comma_append]
  exact ⟨_, by rw [List.append_assoc]; rfl⟩

namespace Codec

variable {codec : Codec}

/-- There is no comma in the place of a valid address. -/
theorem comma_not_mem_textSlot {address : String} (h : Address.isValid address = true) :
    ','.toUInt8 ∉ Bytes.textSlot address := by
  rw [Bytes.textSlot, Bytes.padded, List.mem_append, List.mem_append,
    Bytes.mem_ofText_iff (by decide), List.mem_replicate, List.mem_singleton]
  rintro ((hcomma | hcomma) | ⟨-, hcomma⟩)
  · exact not_mem_of_isValid (by decide) h hcomma
  · exact absurd hcomma (by decide)
  · exact absurd hcomma (by decide)

/-- What stands behind the comma of a message are its type tags. -/
theorem IsWritableMessage.tagsBehindComma?_encoded {m : Message} (h : codec.IsWritableMessage m) :
    Bytes.tagsBehindComma? m.encoded = some (String.ofList (Argument.typeTagsOf m.arguments)) := by
  have hnul := (layout_text_comma_iff.2 ⟨fun a ha => (h.leaf a ha).tag_ne, rfl⟩).1
  rw [Bytes.ofText_comma_append, List.mem_cons, not_or] at hnul
  obtain ⟨zeros, hslot⟩ :=
    Bytes.exists_textSlot_comma_append (String.ofList (Argument.typeTagsOf m.arguments))
  rw [Bytes.tagsBehindComma?, Message.encoded, hslot, List.append_assoc, List.cons_append,
    List.append_assoc, dropWhile_append_separator (comma_not_mem_textSlot h.isValid),
    List.drop_one, List.tail_cons, List.cons_append, takeWhile_append_separator hnul.2,
    Bytes.toText?_ofText]

/-- The encoding of a message with a valid address begins as no bundle does. -/
theorem head?_encoded_ne_of_isValid {m : Message} (h : Address.isValid m.address = true) :
    m.encoded.head? ≠ some '#'.toUInt8 := by
  have haddress := layout_text_iff.2 ⟨nul_not_mem_of_isValid h, rfl⟩
  have hhead := (Layout.head?_eq_some_iff haddress (by decide) (by decide)).2 (head?_of_isValid h)
  rw [Message.encoded, List.append_assoc,
    List.head?_append_of_ne_nil _ (Layout.ne_nil_of_text haddress), hhead]
  decide

/-- The messages among packets lie in their encodings. -/
theorem exists_framed_of_encodedElements {packets : List Packet}
    (hvalid : ∀ m ∈ Packet.messagesOf packets, Address.isValid m.address = true)
    (hle : ∀ e ∈ Packet.elementsOf packets, e.encoded.length ≤ Bytes.maxLengthPrefix) :
    ∃ elements, Packet.encodedElements packets = framed elements ∧
      (∀ d ∈ elements, d.length ≤ Bytes.maxLengthPrefix) ∧
      ∀ m ∈ Packet.messagesOf packets, ∃ d ∈ elements, MessageAt m.encoded d := by
  induction packets using Packet.list_induction with
  | nil => exact ⟨[], rfl, nofun, nofun⟩
  | message m rest ih =>
    rw [Packet.messagesOf_message_cons, List.forall_mem_cons] at hvalid
    rw [Packet.elementsOf_message_cons, List.forall_mem_cons] at hle
    obtain ⟨elements, heq, hlengths, hmessages⟩ := ih hvalid.2 hle.2
    refine ⟨m.encoded :: elements, ?_, List.forall_mem_cons.2 ⟨hle.1, hlengths⟩, ?_⟩
    · rw [framed_cons, Packet.encodedElements, heq, Packet.encoded]
    · rw [Packet.messagesOf_message_cons, List.forall_mem_cons]
      have hself := MessageAt.self (head?_encoded_ne_of_isValid hvalid.1)
      exact ⟨⟨_, List.mem_cons_self, hself⟩,
        fun m' hm' => List.exists_mem_cons_of_exists (hmessages m' hm')⟩
  | bundle time inside rest ihInside ih =>
    rw [Packet.messagesOf_bundle_cons, List.forall_mem_append] at hvalid
    rw [Packet.elementsOf_bundle_cons, List.forall_mem_cons, List.forall_mem_append] at hle
    obtain ⟨elements, heq, hlengths, hmessages⟩ := ih hvalid.2 hle.2.2
    obtain ⟨elements', heq', hlengths', hmessages'⟩ := ihInside hvalid.1 hle.2.1
    refine ⟨(Packet.bundle time inside).encoded :: elements, ?_,
      List.forall_mem_cons.2 ⟨hle.1, hlengths⟩, ?_⟩
    · rw [framed_cons, Packet.encodedElements, heq]
    · rw [Packet.messagesOf_bundle_cons, List.forall_mem_append]
      constructor
      · intro m hm
        obtain ⟨d, hd, hat⟩ := hmessages' m hm
        refine ⟨_, List.mem_cons_self, ?_⟩
        rw [Packet.encoded, heq']
        exact .element hlengths' hd hat
      · exact fun m hm => List.exists_mem_cons_of_exists (hmessages m hm)

/-- Every message of a packet lies in the bytes that are written for the packet. -/
theorem IsWritable.messageAt {p : Packet} (h : codec.IsWritable p) {m : Message}
    (hm : m ∈ p.messages) : MessageAt m.encoded p.encoded := by
  have hvalid : ∀ m ∈ p.messages, Address.isValid m.address = true :=
    fun m hm => (h.message m hm).isValid
  cases p with
  | message m' =>
    obtain rfl := List.mem_singleton.1 hm
    exact .self (head?_encoded_ne_of_isValid (hvalid m hm))
  | bundle time packets =>
    obtain ⟨elements, heq, hlengths, hmessages⟩ :=
      exists_framed_of_encodedElements hvalid h.element_le
    obtain ⟨d, hd, hat⟩ := hmessages m hm
    rw [Packet.encoded, heq]
    exact .element hlengths hd hat

/-- What is written for a packet has in it every message of the packet, with its type tags behind
the comma. -/
theorem tagsBehindComma?_of_encode {p : Packet} {d : Bytes} (h : codec.encode p = .ok d)
    {m : Message} (hm : m ∈ p.messages) :
    MessageAt m.encoded d ∧
      Bytes.tagsBehindComma? m.encoded =
        some (String.ofList (Argument.typeTagsOf m.arguments)) := by
  obtain ⟨hp, -, rfl⟩ := encodeFitting_eq_ok_iff.1 h
  exact ⟨hp.messageAt hm, (hp.message m hm).tagsBehindComma?_encoded⟩

theorem exists_typeTags_iff {arguments : List Argument} :
    (∃ tags, codec.typeTags arguments = .ok tags) ↔
      Argument.arrayDepthOf arguments ≤ codec.limits.maxArrayDepth ∧
        ∀ a ∈ Argument.leavesOf arguments, codec.Accepts a := by
  constructor
  · rintro ⟨tags, htags⟩
    have h := tagsOfWithin_eq_ok_iff.1 (typeTags_eq_ok_iff.1 htags)
    exact ⟨h.1, h.2.1⟩
  · rintro ⟨hdepth, haccepts⟩
    refine ⟨String.ofList (Argument.typeTagsOf arguments), typeTags_eq_ok_iff.2 ?_⟩
    exact tagsOfWithin_eq_ok_iff.2 ⟨hdepth, haccepts, String.toList_ofList⟩

/-- The type tags of arguments are settled unless an array is nested too deeply or a leaf is not
accepted.  They are then those that are read off the arguments, the info announced for any message
with these arguments, and what stands behind the comma of such a message wherever it is written.
Otherwise settling them fails for the first place at fault, and announcing and writing a message
with these arguments does so as well. -/
theorem typeTags_settled (codec : Codec) (arguments : List Argument) :
    ((∃ tags, codec.typeTags arguments = .ok tags) ↔
      Argument.arrayDepthOf arguments ≤ codec.limits.maxArrayDepth ∧
        ∀ a ∈ Argument.leavesOf arguments, codec.Accepts a) ∧
    (∀ tags, codec.typeTags arguments = .ok tags →
      tags = String.ofList (Argument.typeTagsOf arguments) ∧
      ∀ m : Message, m.arguments = arguments →
        codec.messageInfo m = .ok ⟨tags⟩ ∧
        (∀ d, codec.encode (.message m) = .ok d → Bytes.tagsBehindComma? d = some tags) ∧
        ∀ p d, m ∈ p.messages → codec.encode p = .ok d →
          MessageAt m.encoded d ∧ Bytes.tagsBehindComma? m.encoded = some tags) ∧
    (∀ e, codec.typeTags arguments = .error e ↔
      ∃ before place behind, Argument.placesOf 0 arguments = before ++ place :: behind ∧
        codec.fault? place = some e ∧ ∀ other ∈ before, codec.fault? other = none) ∧
    ∀ e, codec.typeTags arguments = .error e → ∀ m : Message, m.arguments = arguments →
      codec.messageInfo m = .error e ∧
      (Address.isValid m.address = true → codec.encode (.message m) = .error e) := by
  refine ⟨exists_typeTags_iff, ?_,
    fun e => typeTags_eq_error_iff.trans firstFault?_eq_some_iff, ?_⟩
  · intro tags htags
    obtain rfl := eq_of_typeTags htags
    refine ⟨rfl, ?_⟩
    rintro m rfl
    have hinfo : codec.messageInfo m = .ok ⟨String.ofList (Argument.typeTagsOf m.arguments)⟩ := by
      rw [messageInfo, htags]
      rfl
    refine ⟨hinfo, ?_, fun p d hm hd => tagsBehindComma?_of_encode hd hm⟩
    intro d hd
    obtain ⟨hp, -, rfl⟩ := encodeFitting_eq_ok_iff.1 hd
    exact (hp.message m (List.mem_singleton_self m)).tagsBehindComma?_encoded
  · rintro e he m rfl
    refine ⟨?_, fun hvalid => encode_message_of_typeTags_eq_error hvalid he⟩
    rw [messageInfo, he]
    rfl

/-- A codec that takes no arrays in arrays. -/
def shallowCodec : Codec := { limits := { maxArrayDepth := 1 } }

def shallowMessage : Message :=
  { address := "/a", arguments := [.int 1, .array [.string "x", .nil]] }

/-- The array in an array comes before the argument that no handler is known for. -/
def deepMessage : Message :=
  { address := "/a", arguments := [.array [.int 1, .array []], .custom 'x' []] }

def shallowBytes : Bytes :=
  Bytes.ofText "#bundle" ++ [0, 0, 0, 0, 0, 0, 0, 0, 1] ++
    [0, 0, 0, 20] ++ Bytes.ofText "/a" ++ [0, 0] ++ Bytes.ofText ",i[sN]" ++ [0, 0] ++
      [0, 0, 0, 1] ++ Bytes.ofText "x" ++ [0, 0, 0]

theorem typeTags_settled_shallowMessage :
    (shallowCodec.typeTags shallowMessage.arguments = .ok "i[sN]" ∧
      shallowCodec.messageInfo shallowMessage = .ok ⟨"i[sN]"⟩ ∧
      shallowCodec.encode (.bundle .immediate [.message shallowMessage]) = .ok shallowBytes ∧
      MessageAt shallowMessage.encoded shallowBytes ∧
      Bytes.tagsBehindComma? shallowMessage.encoded = some "i[sN]") ∧
    (shallowCodec.typeTags deepMessage.arguments = .error (.nestingTooDeep 1) ∧
      Address.isValid deepMessage.address = true ∧
      shallowCodec.messageInfo deepMessage = .error (.nestingTooDeep 1) ∧
      shallowCodec.encode (.message deepMessage) = .error (.nestingTooDeep 1)) := by
  have htags : shallowCodec.typeTags shallowMessage.arguments = .ok "i[sN]" := by decide +kernel
  have hencode : shallowCodec.encode (.bundle .immediate [.message shallowMessage]) =
      .ok shallowBytes := by decide +kernel
  have hfault : shallowCodec.typeTags deepMessage.arguments = .error (.nestingTooDeep 1) := by
    decide +kernel
  have hvalid : Address.isValid deepMessage.address = true := by decide
  obtain ⟨-, hagree, -, -⟩ := typeTags_settled shallowCodec shallowMessage.arguments
  obtain ⟨-, -, -, hfail⟩ := typeTags_settled shallowCodec deepMessage.arguments
  obtain ⟨hinfo, -, hwritten⟩ := (hagree _ htags).2 shallowMessage rfl
  obtain ⟨hat, hbehind⟩ := hwritten _ _ (List.mem_singleton_self _) hencode
  have hfails := hfail _ hfault deepMessage rfl
  exact ⟨⟨htags, hinfo, hencode, hat, hbehind⟩, hfault, hvalid, hfails.1, hfails.2 hvalid⟩

end Codec

end OpenSound
