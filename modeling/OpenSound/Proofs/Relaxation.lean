import OpenSound.Proofs.Encoding

/-!
# Codecs that let more through

A codec that knows more types or has wider limits than another one (`Codec.Relaxes`) reads and
writes as the other one does, errors included.  Only what the other one refused for the type it did
not know, or for the limit, may turn out differently.  Both are run side by side (`SameUnless`):
they agree step by step up to such a refusal, and what the stricter codec refuses there it refuses
in the end.
-/

namespace OpenSound

/-! ### Outcomes side by side -/

section Outcomes

variable {ε α β : Type} {refused : ε → Prop}

/-- The second outcome is the first, unless the first is a refusal of the kind. -/
def SameUnless (refused : ε → Prop) (x y : Except ε α) : Prop :=
  y = x ∨ ∃ e, x = .error e ∧ refused e

theorem SameUnless.refl (x : Except ε α) : SameUnless refused x x := .inl rfl

theorem sameUnless_error {e : ε} (he : refused e) (y : Except ε α) :
    SameUnless refused (.error e) y := .inr ⟨e, rfl, he⟩

theorem SameUnless.bind {x y : Except ε α} {f g : α → Except ε β} (hx : SameUnless refused x y)
    (hf : ∀ a, SameUnless refused (f a) (g a)) : SameUnless refused (x >>= f) (y >>= g) := by
  rcases hx with rfl | ⟨e, rfl, he⟩
  · rcases y with e | a
    · exact .refl _
    · exact hf a
  · exact sameUnless_error he _

theorem SameUnless.ite {c : Prop} [Decidable c] {x y x' y' : Except ε α}
    (hx : SameUnless refused x x') (hy : SameUnless refused y y') :
    SameUnless refused (if c then x else y) (if c then x' else y') := by
  split_ifs
  · exact hx
  · exact hy

end Outcomes

namespace Reader

variable {α β : Type} {refused : ParseError → Prop}

/-- From every place, the second reader does what the first does, unless the first refuses in the
given way. -/
def SameUnless (refused : ParseError → Prop) (r s : Reader α) : Prop :=
  ∀ c, s c = r c ∨ ∃ e c', r c = .error e c' ∧ refused e

theorem SameUnless.refl (r : Reader α) : SameUnless refused r r := fun _ => .inl rfl

theorem sameUnless_throw {e : ParseError} (he : refused e) (s : Reader α) :
    SameUnless refused (throw e) s := fun c => .inr ⟨e, c, rfl, he⟩

theorem SameUnless.bind {r s : Reader α} {f g : α → Reader β} (hr : SameUnless refused r s)
    (hf : ∀ a, SameUnless refused (f a) (g a)) : SameUnless refused (r >>= f) (s >>= g) := by
  intro c
  show EStateM.bind s g c = EStateM.bind r f c ∨ _
  rcases hr c with hsame | ⟨e, c', hrefused, he⟩
  · rw [EStateM.bind, EStateM.bind, hsame]
    rcases hrun : r c with ⟨a, c'⟩ | ⟨e, c'⟩
    · rcases hf a c' with hrest | ⟨e, c'', hrest, he⟩
      · exact .inl hrest
      · refine .inr ⟨e, c'', ?_, he⟩
        rw [← hrest]
        show EStateM.bind r f c = _
        rw [EStateM.bind, hrun]
    · exact .inl rfl
  · refine .inr ⟨e, c', ?_, he⟩
    show EStateM.bind r f c = _
    rw [EStateM.bind, hrefused]

theorem SameUnless.run {r s : Reader α} (h : SameUnless refused r s) (d : Bytes) :
    OpenSound.SameUnless refused (Codec.run r d) (Codec.run s d) := by
  rcases h (.ofBytes d) with hsame | ⟨e, c', hrefused, he⟩
  · rw [Codec.run, Codec.run, hsame]
    exact .refl _
  · rw [Codec.run, hrefused]
    exact sameUnless_error he _

end Reader

/-! ### More types -/

namespace Registry

variable {r r' : Registry}

/-- After any number of registrations a tag has the handler it had, or it had none and one of the
new handlers is for it. -/
theorem find?_of_foldlM_register {handlers : List Handler}
    (h : handlers.foldlM register r = .ok r') (tag : Char) :
    r'.find? tag = r.find? tag ∨ r.find? tag = none ∧ ∃ handler ∈ handlers, handler.tag = tag := by
  induction handlers generalizing r with
  | nil =>
    cases h
    exact .inl rfl
  | cons first rest ih =>
    obtain ⟨next, hfirst, hrest⟩ := except_bind_eq_ok_iff.1 h
    obtain ⟨hfree, hfind⟩ := find?_of_register hfirst tag
    by_cases htag : first.tag = tag
    · exact .inr ⟨htag ▸ hfree, first, List.mem_cons_self, htag⟩
    · rw [if_neg htag] at hfind
      rcases ih hrest with hsame | ⟨hnone, new, hnew, htagNew⟩
      · exact .inl (hsame.trans hfind)
      · exact .inr ⟨hfind ▸ hnone, new, List.mem_cons_of_mem _ hnew, htagNew⟩

end Registry

/-! ### Relaxed codecs -/

/-- A limit is kept or raised, and raised only where running into it counts as a refusal of the
kind. -/
def Eased (refused : Prop) (limit limit' : Nat) : Prop :=
  limit ≤ limit' ∧ (limit ≠ limit' → refused)

theorem Eased.refl {refused : Prop} (limit : Nat) : Eased refused limit limit :=
  ⟨Nat.le_refl _, fun h => absurd rfl h⟩

namespace Codec

/-- The codec `codec'` knows what `codec` knows and allows what `codec` allows.  `unread` and
`unwritten` hold of the refusals of `codec` that are owed to a difference between the two. -/
structure Relaxes (codec codec' : Codec) (unread : ParseError → Prop)
    (unwritten : EncodeError → Prop) : Prop where
  find? : ∀ tag, codec'.registry.find? tag = codec.registry.find? tag ∨
    codec.registry.find? tag = none ∧ unread (.unknownType tag) ∧ unwritten (.unknownType tag)
  arrayDepth : Eased (unread (.nestingTooDeep codec.limits.maxArrayDepth) ∧
    unwritten (.nestingTooDeep codec.limits.maxArrayDepth))
    codec.limits.maxArrayDepth codec'.limits.maxArrayDepth
  bundleDepth : Eased (unread (.nestingTooDeep codec.limits.maxBundleDepth) ∧
    unwritten (.nestingTooDeep codec.limits.maxBundleDepth))
    codec.limits.maxBundleDepth codec'.limits.maxBundleDepth
  typeTags : codec'.limits.allowMissingTypeTags = codec.limits.allowMissingTypeTags ∨
    codec.limits.allowMissingTypeTags = false ∧ unread .missingTypeTags
  packetSize : Eased (∀ needed, unwritten (.bufferOverrun needed codec.limits.maxPacketSize))
    codec.limits.maxPacketSize codec'.limits.maxPacketSize

namespace Relaxes

variable {codec codec' : Codec} {unread : ParseError → Prop} {unwritten : EncodeError → Prop}

/-! ### Reading -/

theorem readArguments (h : Relaxes codec codec' unread unwritten) (all : String)
    (tags : List Char) (arrays : OpenArrays) :
    Reader.SameUnless unread (codec.readArguments all tags arrays)
      (codec'.readArguments all tags arrays) := by
  induction tags generalizing arrays with
  | nil => exact .refl _
  | cons tag tags ih =>
    rw [Codec.readArguments, Codec.readArguments]
    by_cases hopen : tag = Argument.openBracket
    · rw [if_pos hopen, if_pos hopen]
      obtain ⟨hle, hrefused⟩ := h.arrayDepth
      by_cases hdeep : codec.limits.maxArrayDepth ≤ arrays.outer.length
      · rw [if_pos hdeep]
        by_cases heq : codec.limits.maxArrayDepth = codec'.limits.maxArrayDepth
        · rw [← heq, if_pos hdeep]
          exact .refl _
        · exact Reader.sameUnless_throw (hrefused heq).1 _
      · rw [if_neg hdeep, if_neg (by omega)]
        exact ih arrays.opened
    · rw [if_neg hopen, if_neg hopen]
      by_cases hclose : tag = Argument.closeBracket
      · rw [if_pos hclose, if_pos hclose]
        rcases arrays.closed? with _ | closed
        · exact .refl _
        · exact ih closed
      · rw [if_neg hclose, if_neg hclose]
        rcases h.find? tag with hsame | ⟨hnone, hrefused, -⟩
        · rw [hsame]
          rcases codec.registry.find? tag with _ | handler
          · exact .refl _
          · exact (Reader.SameUnless.refl _).bind fun argument => ih (arrays.push argument)
        · rw [hnone]
          exact Reader.sameUnless_throw hrefused _

theorem readTypeTags (h : Relaxes codec codec' unread unwritten) :
    Reader.SameUnless unread codec.readTypeTags codec'.readTypeTags := by
  refine (Reader.SameUnless.refl _).bind fun c => ?_
  rcases c.peek? with _ | mark
  · rcases h.typeTags with hsame | ⟨hfalse, hrefused⟩
    · rw [hsame]
      exact .refl _
    · rw [hfalse]
      exact Reader.sameUnless_throw hrefused _
  · exact .refl _

theorem readMessage (h : Relaxes codec codec' unread unwritten) :
    Reader.SameUnless unread codec.readMessage codec'.readMessage := by
  refine (Reader.SameUnless.refl _).bind fun address => h.readTypeTags.bind fun tags => ?_
  exact (h.readArguments tags tags.toList {}).bind fun arguments => .refl _

theorem readElements {decodeElement decodeElement' : Bytes → Except ParseError Packet}
    (h : ∀ d, SameUnless unread (decodeElement d) (decodeElement' d)) (c : Cursor) :
    SameUnless unread (Codec.readElements decodeElement c)
      (Codec.readElements decodeElement' c) := by
  induction hlength : c.rest.length using Nat.strong_induction_on generalizing c with
  | _ length ih =>
    rcases hread : readElement c with ⟨element, c'⟩ | ⟨e, c'⟩
    · rw [readElements_of_readElement hread, readElements_of_readElement hread]
      have hshorter := readElement_shortens hread
      exact (h element).bind fun packet => (ih _ (hlength ▸ hshorter) c' rfl).bind fun _ => .refl _
    · -- neither of the two comes to an element
      rw [Codec.readElements, Codec.readElements]
      refine .ite (.refl _) ?_
      split
      · exact .refl _
      · next hread' =>
        rw [hread] at hread'
        cases hread'

theorem decodeBundle {decodeElement decodeElement' : Bytes → Except ParseError Packet}
    (h : ∀ d, SameUnless unread (decodeElement d) (decodeElement' d)) (d : Bytes) :
    SameUnless unread (Codec.decodeBundle decodeElement d)
      (Codec.decodeBundle decodeElement' d) := by
  rw [Codec.decodeBundle, Codec.decodeBundle]
  split
  · exact .refl _
  · next time c _ => exact (readElements h c).bind fun _ => .refl _

/-- The levels of bundles that are left differ by what the limits differ by. -/
theorem decodeWithin (h : Relaxes codec codec' unread unwritten) {levels levels' : Nat}
    (hlevels : levels + codec'.limits.maxBundleDepth = levels' + codec.limits.maxBundleDepth)
    (d : Bytes) :
    SameUnless unread (codec.decodeWithin levels d) (codec'.decodeWithin levels' d) := by
  obtain ⟨hle, hrefused⟩ := h.bundleDepth
  have hmessage : ∀ d, SameUnless unread (Packet.message <$> run codec.readMessage d)
      (Packet.message <$> run codec'.readMessage d) := by
    intro d
    rcases h.readMessage.run d with hsame | ⟨e, hrefused, he⟩
    · exact .inl (congrArg _ hsame)
    · exact .inr ⟨e, congrArg _ hrefused, he⟩
  induction levels generalizing levels' d with
  | zero =>
    rw [Codec.decodeWithin, Codec.decodeWithin.eq_def]
    refine .ite (.refl _) (.ite (.refl _) (.ite (.ite (.refl _) ?_) (hmessage d)))
    by_cases heq : codec.limits.maxBundleDepth = codec'.limits.maxBundleDepth
    · obtain rfl : levels' = 0 := by omega
      rw [heq]
      exact .refl _
    · exact sameUnless_error (hrefused heq).1 _
  | succ levels ih =>
    obtain ⟨left, rfl⟩ : ∃ left, levels' = left + 1 := ⟨levels' - 1, by omega⟩
    rw [Codec.decodeWithin, Codec.decodeWithin]
    refine .ite (.refl _) (.ite (.refl _) (.ite (.ite (.refl _) ?_) (hmessage d)))
    exact decodeBundle (ih (by omega)) d

theorem decode (h : Relaxes codec codec' unread unwritten) (d : Bytes) :
    codec'.decode d = codec.decode d ∨ ∃ e, codec.decode d = .error ⟨e, d⟩ ∧ unread e := by
  rw [Codec.decode, Codec.decode]
  rcases h.decodeWithin (Nat.add_comm _ _) d with hsame | ⟨e, hrefused, he⟩
  · exact .inl (by rw [hsame])
  · exact .inr ⟨e, by rw [hrefused]; rfl, he⟩

/-! ### Writing -/

theorem handlerFor (h : Relaxes codec codec' unread unwritten) (argument : Argument) :
    SameUnless unwritten (codec.handlerFor argument) (codec'.handlerFor argument) := by
  rw [Codec.handlerFor, Codec.handlerFor]
  rcases h.find? (argument.typeTag?.getD Argument.openBracket) with hsame | ⟨hnone, -, hrefused⟩
  · rw [hsame]
    exact .refl _
  · rw [hnone]
    exact sameUnless_error hrefused _

/-- The levels of arrays that are left differ by what the limits differ by. -/
theorem tagsOfWithin (h : Relaxes codec codec' unread unwritten) {levels levels' : Nat}
    (hlevels : levels + codec'.limits.maxArrayDepth = levels' + codec.limits.maxArrayDepth)
    (arguments : List Argument) :
    SameUnless unwritten (codec.tagsOfWithin levels arguments)
      (codec'.tagsOfWithin levels' arguments) := by
  induction arguments using Argument.list_induction generalizing levels levels' with
  | nil => exact .refl _
  | leaf argument tag rest htag ih =>
    rw [Codec.tagsOfWithin, Codec.tagsOfWithin, tagsWithin_of_typeTag? htag,
      tagsWithin_of_typeTag? htag]
    refine .bind ?_ fun _ => (ih hlevels).bind fun _ => .refl _
    exact (h.handlerFor argument).bind fun _ => .refl _
  | array items rest ihItems ih =>
    rw [Codec.tagsOfWithin, Codec.tagsOfWithin]
    refine .bind ?_ fun _ => (ih hlevels).bind fun _ => .refl _
    have hle := h.arrayDepth.1
    cases levels with
    | zero =>
      by_cases heq : codec.limits.maxArrayDepth = codec'.limits.maxArrayDepth
      · obtain rfl : levels' = 0 := by omega
        rw [tagsWithin, tagsWithin, heq]
        exact .refl _
      · exact sameUnless_error (h.arrayDepth.2 heq).2 _
    | succ levels =>
      obtain ⟨left, rfl⟩ : ∃ left, levels' = left + 1 := ⟨levels' - 1, by omega⟩
      exact (ihItems (by omega)).bind fun _ => .refl _

theorem payloads (h : Relaxes codec codec' unread unwritten) (arguments : List Argument) :
    SameUnless unwritten (codec.payloads arguments) (codec'.payloads arguments) := by
  induction arguments using Argument.list_induction with
  | nil => exact .refl _
  | leaf argument tag rest htag ih =>
    rw [Codec.payloads, Codec.payloads, payload_of_typeTag? htag, payload_of_typeTag? htag]
    refine .bind ?_ fun _ => ih.bind fun _ => .refl _
    exact (h.handlerFor argument).bind fun _ => .refl _
  | array items rest ihItems ih =>
    rw [Codec.payloads, Codec.payloads, payload, payload]
    exact ihItems.bind fun _ => ih.bind fun _ => .refl _

theorem encodeMessage (h : Relaxes codec codec' unread unwritten) (m : Message) :
    SameUnless unwritten (codec.encodeMessage m) (codec'.encodeMessage m) := by
  refine .ite ?_ (.refl _)
  refine (SameUnless.refl _).bind fun _ => .bind ?_ fun _ => ?_
  · exact (h.tagsOfWithin (Nat.add_comm _ _) m.arguments).bind fun _ => .refl _
  · exact (SameUnless.refl _).bind fun _ => (h.payloads m.arguments).bind fun _ => .refl _

section Bundles

variable {levels levels' : Nat}

/-- The levels of bundles that are left differ by what the limits differ by. -/
theorem encodeWithin_bundle (h : Relaxes codec codec' unread unwritten) {elements : List Packet}
    (hlevels : levels + codec'.limits.maxBundleDepth = levels' + codec.limits.maxBundleDepth)
    (time : TimeTag)
    (helements : ∀ {left left'},
      left + codec'.limits.maxBundleDepth = left' + codec.limits.maxBundleDepth →
      SameUnless unwritten (codec.encodeElements left elements)
        (codec'.encodeElements left' elements)) :
    SameUnless unwritten (codec.encodeWithin levels (.bundle time elements))
      (codec'.encodeWithin levels' (.bundle time elements)) := by
  obtain ⟨hle, hrefused⟩ := h.bundleDepth
  cases levels with
  | zero =>
    by_cases heq : codec.limits.maxBundleDepth = codec'.limits.maxBundleDepth
    · obtain rfl : levels' = 0 := by omega
      rw [encodeWithin, encodeWithin, heq]
      exact .refl _
    · exact sameUnless_error (hrefused heq).2 _
  | succ levels =>
    obtain ⟨left, rfl⟩ : ∃ left, levels' = left + 1 := ⟨levels' - 1, by omega⟩
    exact (helements (by omega)).bind fun _ => .refl _

theorem encodeElements (h : Relaxes codec codec' unread unwritten)
    (hlevels : levels + codec'.limits.maxBundleDepth = levels' + codec.limits.maxBundleDepth)
    (packets : List Packet) :
    SameUnless unwritten (codec.encodeElements levels packets)
      (codec'.encodeElements levels' packets) := by
  induction packets using Packet.list_induction generalizing levels levels' with
  | nil => exact .refl _
  | message m rest ih =>
    rw [Codec.encodeElements, Codec.encodeElements, Codec.encodeWithin, Codec.encodeWithin]
    exact (h.encodeMessage m).bind fun _ => (SameUnless.refl _).bind fun _ =>
      (ih hlevels).bind fun _ => .refl _
  | bundle time elements rest ihElements ih =>
    rw [Codec.encodeElements, Codec.encodeElements]
    exact (h.encodeWithin_bundle hlevels time ihElements).bind fun _ =>
      (SameUnless.refl _).bind fun _ => (ih hlevels).bind fun _ => .refl _

theorem encodeWithin (h : Relaxes codec codec' unread unwritten)
    (hlevels : levels + codec'.limits.maxBundleDepth = levels' + codec.limits.maxBundleDepth)
    (p : Packet) :
    SameUnless unwritten (codec.encodeWithin levels p) (codec'.encodeWithin levels' p) := by
  cases p with
  | message m =>
    rw [Codec.encodeWithin, Codec.encodeWithin]
    exact h.encodeMessage m
  | bundle time elements =>
    exact h.encodeWithin_bundle hlevels time fun hleft => h.encodeElements hleft elements

end Bundles

theorem encode (h : Relaxes codec codec' unread unwritten) (p : Packet) :
    SameUnless unwritten (codec.encode p) (codec'.encode p) := by
  obtain ⟨hle, hrefused⟩ := h.packetSize
  rw [Codec.encode, Codec.encode, encodeFitting, encodeFitting, encoding_eq_encodeWithin,
    encoding_eq_encodeWithin]
  refine (h.encodeWithin (Nat.add_comm _ _) p).bind fun data => ?_
  by_cases hfit : data.length ≤ codec.limits.maxPacketSize
  · rw [if_pos hfit, if_pos (Nat.le_trans hfit hle)]
    exact .refl _
  · rw [if_neg hfit]
    by_cases heq : codec.limits.maxPacketSize = codec'.limits.maxPacketSize
    · rw [← heq, if_neg hfit]
      exact .refl _
    · exact sameUnless_error (hrefused heq _) _

end Relaxes

/-! ### One relaxation at a time -/

section Single

variable (codec : Codec)

theorem relaxes_registry {handlers : List Handler} {registry : Registry}
    (h : handlers.foldlM Registry.register codec.registry = .ok registry) :
    Relaxes codec { codec with registry }
      (fun e => ∃ handler ∈ handlers, e = .unknownType handler.tag)
      (fun e => ∃ handler ∈ handlers, e = .unknownType handler.tag) where
  find? tag := by
    rcases Registry.find?_of_foldlM_register h tag with hsame | ⟨hnone, new, hnew, rfl⟩
    · exact .inl hsame
    · exact .inr ⟨hnone, ⟨new, hnew, rfl⟩, ⟨new, hnew, rfl⟩⟩
  arrayDepth := .refl _
  bundleDepth := .refl _
  typeTags := .inl rfl
  packetSize := .refl _

theorem relaxes_maxBundleDepth {depth : Nat} (h : codec.limits.maxBundleDepth ≤ depth) :
    Relaxes codec { codec with limits.maxBundleDepth := depth }
      (· = .nestingTooDeep codec.limits.maxBundleDepth)
      (· = .nestingTooDeep codec.limits.maxBundleDepth) where
  find? _ := .inl rfl
  arrayDepth := .refl _
  bundleDepth := ⟨h, fun _ => ⟨rfl, rfl⟩⟩
  typeTags := .inl rfl
  packetSize := .refl _

theorem relaxes_maxArrayDepth {depth : Nat} (h : codec.limits.maxArrayDepth ≤ depth) :
    Relaxes codec { codec with limits.maxArrayDepth := depth }
      (· = .nestingTooDeep codec.limits.maxArrayDepth)
      (· = .nestingTooDeep codec.limits.maxArrayDepth) where
  find? _ := .inl rfl
  arrayDepth := ⟨h, fun _ => ⟨rfl, rfl⟩⟩
  bundleDepth := .refl _
  typeTags := .inl rfl
  packetSize := .refl _

theorem relaxes_allowMissingTypeTags (h : codec.limits.allowMissingTypeTags = false) :
    Relaxes codec { codec with limits.allowMissingTypeTags := true }
      (· = .missingTypeTags) (fun _ => False) where
  find? _ := .inl rfl
  arrayDepth := .refl _
  bundleDepth := .refl _
  typeTags := .inr ⟨h, rfl⟩
  packetSize := .refl _

theorem relaxes_maxPacketSize {size : Nat} (h : codec.limits.maxPacketSize ≤ size) :
    Relaxes codec { codec with limits.maxPacketSize := size } (fun _ => False)
      (fun e => ∃ needed, e = .bufferOverrun needed codec.limits.maxPacketSize) where
  find? _ := .inl rfl
  arrayDepth := .refl _
  bundleDepth := .refl _
  typeTags := .inl rfl
  packetSize := ⟨h, fun _ needed => ⟨needed, rfl⟩⟩

end Single

/-- Registering more types, raising a limit or doing without type tags leaves every outcome as it
was, except for the refusals it takes away: of the types that are registered, of nesting beyond the
limit, of messages without type tags, and of packets beyond the size. -/
theorem outcomes_of_relaxed (codec : Codec) (d : Bytes) (p : Packet) :
    (∀ (handlers : List Handler) (registry : Registry),
      handlers.foldlM Registry.register codec.registry = .ok registry →
      (({ codec with registry } : Codec).decode d = codec.decode d ∨
        ∃ handler ∈ handlers, codec.decode d = .error ⟨.unknownType handler.tag, d⟩) ∧
      (({ codec with registry } : Codec).encode p = codec.encode p ∨
        ∃ handler ∈ handlers, codec.encode p = .error (.unknownType handler.tag))) ∧
    (∀ depth, codec.limits.maxBundleDepth ≤ depth →
      (({ codec with limits.maxBundleDepth := depth } : Codec).decode d = codec.decode d ∨
        codec.decode d = .error ⟨.nestingTooDeep codec.limits.maxBundleDepth, d⟩) ∧
      (({ codec with limits.maxBundleDepth := depth } : Codec).encode p = codec.encode p ∨
        codec.encode p = .error (.nestingTooDeep codec.limits.maxBundleDepth))) ∧
    (∀ depth, codec.limits.maxArrayDepth ≤ depth →
      (({ codec with limits.maxArrayDepth := depth } : Codec).decode d = codec.decode d ∨
        codec.decode d = .error ⟨.nestingTooDeep codec.limits.maxArrayDepth, d⟩) ∧
      (({ codec with limits.maxArrayDepth := depth } : Codec).encode p = codec.encode p ∨
        codec.encode p = .error (.nestingTooDeep codec.limits.maxArrayDepth))) ∧
    (codec.limits.allowMissingTypeTags = false →
      ({ codec with limits.allowMissingTypeTags := true } : Codec).decode d = codec.decode d ∨
        codec.decode d = .error ⟨.missingTypeTags, d⟩) ∧
    ∀ size, codec.limits.maxPacketSize ≤ size →
      ({ codec with limits.maxPacketSize := size } : Codec).encode p = codec.encode p ∨
        ∃ needed, codec.encode p = .error (.bufferOverrun needed codec.limits.maxPacketSize) := by
  refine ⟨fun handlers registry hregistry => ⟨?_, ?_⟩, fun depth hdepth => ⟨?_, ?_⟩,
    fun depth hdepth => ⟨?_, ?_⟩, fun hallow => ?_, fun size hsize => ?_⟩
  · refine ((relaxes_registry codec hregistry).decode d).imp_right ?_
    rintro ⟨_, hrefused, handler, hmem, rfl⟩
    exact ⟨handler, hmem, hrefused⟩
  · refine ((relaxes_registry codec hregistry).encode p).imp_right ?_
    rintro ⟨_, hrefused, handler, hmem, rfl⟩
    exact ⟨handler, hmem, hrefused⟩
  · refine ((relaxes_maxBundleDepth codec hdepth).decode d).imp_right ?_
    rintro ⟨_, hrefused, rfl⟩
    exact hrefused
  · refine ((relaxes_maxBundleDepth codec hdepth).encode p).imp_right ?_
    rintro ⟨_, hrefused, rfl⟩
    exact hrefused
  · refine ((relaxes_maxArrayDepth codec hdepth).decode d).imp_right ?_
    rintro ⟨_, hrefused, rfl⟩
    exact hrefused
  · refine ((relaxes_maxArrayDepth codec hdepth).encode p).imp_right ?_
    rintro ⟨_, hrefused, rfl⟩
    exact hrefused
  · refine ((relaxes_allowMissingTypeTags codec hallow).decode d).imp_right ?_
    rintro ⟨_, hrefused, rfl⟩
    exact hrefused
  · refine ((relaxes_maxPacketSize codec hsize).encode p).imp_right ?_
    rintro ⟨_, hrefused, needed, rfl⟩
    exact ⟨needed, hrefused⟩

/-- A codec of few types that insists on type tags. -/
def strict : Codec := { registry := .minimal, limits.allowMissingTypeTags := false }

/-- Values of two bytes each. -/
def twoBytes : Handler := .fixedWidth 'x' ⟨2, by decide⟩

/-- The few types, and two more. -/
def extended : Registry :=
  ⟨(Handler.required ++ [Handler.char, twoBytes]).foldr Registry.place [], by decide, by decide⟩

/-- A bundle of a character in an array. -/
def charPacket : Packet :=
  .bundle .immediate
    [.message { address := "/a", arguments := [.array [.char 65]], info := some ⟨"[c]"⟩ }]

def charBytes : Bytes :=
  bundleHeader ++ [0, 0, 0, 0, 0, 0, 0, 1] ++
    [0, 0, 0, 16] ++ Bytes.ofText "/a" ++ [0, 0] ++ Bytes.ofText ",[c]" ++ [0, 0, 0, 0] ++
      [65, 0, 0, 0]

theorem outcomes_of_relaxed_charBytes :
    [Handler.char, twoBytes].foldlM Registry.register strict.registry = .ok extended ∧
      ({ strict with registry := extended } : Codec).decode charBytes = .ok charPacket ∧
      (∃ handler ∈ [Handler.char, twoBytes],
        strict.decode charBytes = .error ⟨.unknownType handler.tag, charBytes⟩) ∧
      strict.limits.maxBundleDepth ≤ 65 ∧
      ({ strict with limits.maxBundleDepth := 65 } : Codec).decode charBytes =
        strict.decode charBytes ∧
      strict.limits.maxArrayDepth ≤ 65 ∧
      ({ strict with limits.maxArrayDepth := 65 } : Codec).encode charPacket =
        strict.encode charPacket ∧
      strict.limits.allowMissingTypeTags = false ∧
      ({ strict with limits.allowMissingTypeTags := true } : Codec).decode charBytes =
        strict.decode charBytes ∧
      strict.limits.maxPacketSize ≤ 70000 ∧
      ({ strict with limits.maxPacketSize := 70000 } : Codec).encode charPacket =
        strict.encode charPacket := by
  have hextended : [Handler.char, twoBytes].foldlM Registry.register strict.registry =
      .ok extended := by with_unfolding_all rfl
  have hread : ({ strict with registry := extended } : Codec).decode charBytes =
      .ok charPacket := by with_unfolding_all rfl
  have hrefused : strict.decode charBytes = .error ⟨.unknownType 'c', charBytes⟩ := by
    with_unfolding_all rfl
  have hunwritten : strict.encode charPacket = .error (.unknownType 'c') := by decide +kernel
  obtain ⟨hregistry, hbundles, harrays, htags, hsize⟩ :=
    outcomes_of_relaxed strict charBytes charPacket
  refine ⟨hextended, hread, ?_, by decide, ?_, by decide, ?_, rfl, ?_, by decide, ?_⟩
  · refine (hregistry _ _ hextended).1.resolve_left fun hsame => ?_
    rw [hread, hrefused] at hsame
    cases hsame
  · refine (hbundles 65 (by decide)).1.resolve_right fun h => ?_
    rw [hrefused] at h
    cases h
  · refine (harrays 65 (by decide)).2.resolve_right fun h => ?_
    rw [hunwritten] at h
    cases h
  · refine (htags rfl).resolve_right fun h => ?_
    rw [hrefused] at h
    cases h
  · refine (hsize 70000 (by decide)).resolve_right ?_
    rintro ⟨needed, h⟩
    rw [hunwritten] at h
    cases h

end Codec

end OpenSound
