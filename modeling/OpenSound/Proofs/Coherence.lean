import OpenSound.Proofs.Prefixes

/-!
# Type tags that stay true

A message that was read carries the type tags it was read with, and every operation that may change
the arguments drops them.  So the type tags of a message are those of its arguments when it has been
read (`Codec.MessageLayout.info_eq`), and remain so whatever becomes of the message
(`Message.IsCoherent.after`).  The writer settles on the same type tags.
-/

namespace OpenSound

/-! ### Changes -/

namespace Message

/-- The type tags of the message are those of its arguments. -/
def IsCoherent (m : Message) : Prop :=
  m.typeTags = String.ofList (Argument.typeTagsOf m.arguments)

/-- What may become of a message: one more argument, an edit of the arguments, another address. -/
inductive Change where
  | push (argument : Argument)
  | edit (change : List Argument → List Argument)
  | readdress (address : String)

namespace Change

/-- Puts another argument in the place of the one at the index, if there is one. -/
def replace (index : Nat) (argument : Argument) : Change := edit (·.set index argument)

/-- Takes all arguments away. -/
def clear : Change := edit fun _ => []

def apply : Change → Message → Message
  | push argument, m => m.push argument
  | edit change, m => m.edit change
  | readdress address, m => m.withAddress address

end Change

/-- The message after the changes, the first one made first. -/
def after (m : Message) (changes : List Change) : Message :=
  changes.foldl (fun m change => change.apply m) m

/-- Without an info the type tags are worked out. -/
theorem isCoherent_withArguments (m : Message) (arguments : List Argument) :
    (m.withArguments arguments).IsCoherent := rfl

/-- The info stays with the message under another address, and so do the arguments. -/
theorem IsCoherent.withAddress {m : Message} (h : m.IsCoherent) (address : String) :
    (m.withAddress address).IsCoherent := h

theorem IsCoherent.apply {m : Message} (h : m.IsCoherent) (change : Change) :
    (change.apply m).IsCoherent := by
  cases change with
  | push argument => exact isCoherent_withArguments m _
  | edit change => exact isCoherent_withArguments m _
  | readdress address => exact h.withAddress address

theorem IsCoherent.after {m : Message} (h : m.IsCoherent) (changes : List Change) :
    (m.after changes).IsCoherent := by
  induction changes generalizing m with
  | nil => exact h
  | cons change changes ih => exact ih (h.apply change)

end Message

namespace Codec

variable {codec : Codec}

/-! ### Messages that were read -/

section Messages

variable {d : Bytes} {m : Message}

theorem MessageLayout.info_eq (h : codec.MessageLayout d m) :
    m.info = some ⟨String.ofList (Argument.typeTagsOf m.arguments)⟩ :=
  congrArg Message.info h.described_eq.symm

theorem MessageLayout.isCoherent (h : codec.MessageLayout d m) : m.IsCoherent := by
  rw [Message.IsCoherent, Message.typeTags, h.info_eq]

theorem MessageLayout.arrayDepthOf_le (h : codec.MessageLayout d m) :
    Argument.arrayDepthOf m.arguments ≤ codec.limits.maxArrayDepth := by
  cases h with
  | untagged _ _ _ => exact Nat.zero_le _
  | tagged _ _ _ hlayout => exact hlayout.arrayDepthOf_le

/-- The handler that has read a leaf would write it. -/
theorem MessageLayout.accepts (h : codec.MessageLayout d m) :
    ∀ a ∈ Argument.leavesOf m.arguments, codec.Accepts a := by
  cases h with
  | untagged _ _ _ => exact List.forall_mem_nil _
  | tagged _ _ htext₂ hlayout =>
    have hnul := (layout_text_iff.1 htext₂).1
    rw [String.toList_append, List.mem_append, not_or] at hnul
    exact fun a ha => (hlayout.isWritableLeaf hnul.2 a ha).accepts

theorem MessageLayout.typeTags_eq (h : codec.MessageLayout d m) :
    codec.typeTags m.arguments = .ok (String.ofList (Argument.typeTagsOf m.arguments)) := by
  rw [typeTags_eq_ok_iff, tagsOfWithin_eq_ok_iff, String.toList_ofList]
  exact ⟨h.arrayDepthOf_le, h.accepts, rfl⟩

end Messages

/-! ### Packets that were read -/

theorem ElementsLayout.exists_messageLayout {level : Nat} {ds : Bytes} {packets : List Packet}
    (h : codec.ElementsLayout level ds packets) :
    ∀ m ∈ Packet.messagesOf packets, ∃ d, codec.MessageLayout d m := by
  refine ElementsLayout.list_induction ?_ ?_ ?_ h
  · exact fun _ => List.forall_mem_nil _
  · intro _ d m _ _ _ _ hm ih
    rw [Packet.messagesOf_message_cons]
    exact List.forall_mem_cons.2 ⟨⟨d, hm⟩, ih⟩
  · intro _ _ _ _ _ _ _ _ _ _ ihElements ih
    rw [Packet.messagesOf_bundle_cons]
    exact List.forall_mem_append.2 ⟨ihElements, ih⟩

section Packets

variable {level : Nat} {d : Bytes} {p : Packet}

theorem PacketLayout.exists_messageLayout (h : codec.PacketLayout level d p) :
    ∀ m ∈ p.messages, ∃ e, codec.MessageLayout e m := by
  cases h with
  | message _ _ hm => exact List.forall_mem_singleton.2 ⟨d, hm⟩
  | bundle _ _ helements => exact helements.exists_messageLayout

theorem PacketLayout.bundleDepth_le (h : codec.PacketLayout level d p) :
    p.bundleDepth ≤ codec.limits.maxBundleDepth - level := by
  cases h with
  | message _ _ _ => exact Nat.zero_le _
  | bundle _ hlevel helements =>
    have hinside := helements.bundleDepthOf_le
    rw [Packet.bundleDepth]
    omega

end Packets

/-- Every message in a packet that was read carries the type tags of its arguments, which are those
that the codec would write it with, and its type tags are those of its arguments after any changes
to it.  Neither arrays nor bundles are nested deeper than the limits allow. -/
theorem decode_coherent (codec : Codec) (d : Bytes) (p : Packet) (h : codec.decode d = .ok p) :
    (∀ m ∈ p.messages,
      (∃ tags, m.info = some ⟨tags⟩ ∧ tags = String.ofList (Argument.typeTagsOf m.arguments) ∧
        codec.typeTags m.arguments = .ok tags) ∧
      Argument.arrayDepthOf m.arguments ≤ codec.limits.maxArrayDepth ∧
      ∀ changes, (m.after changes).typeTags =
        String.ofList (Argument.typeTagsOf (m.after changes).arguments)) ∧
    p.bundleDepth ≤ codec.limits.maxBundleDepth := by
  have hlayout := packetLayout_of_decode h
  refine ⟨fun m hm => ?_, hlayout.bundleDepth_le⟩
  obtain ⟨e, hmessage⟩ := hlayout.exists_messageLayout m hm
  exact ⟨⟨_, hmessage.info_eq, rfl, hmessage.typeTags_eq⟩, hmessage.arrayDepthOf_le,
    hmessage.isCoherent.after⟩

/-- The only message in the bytes of `nestedPacket`. -/
def nestedMessage : Message :=
  { address := "/a"
    arguments := [.int 1, .array [.array [.char 65], .nil]]
    info := some ⟨"i[[c]N]"⟩ }

/-- All arguments are taken away, and there are two of them in the end. -/
def someChanges : List Message.Change :=
  [.clear, .push .nil, .readdress "/b", .replace 7 .nil, .replace 0 (.bool true),
    .push (.array [.impulse])]

theorem decode_coherent_nestedBytes :
    ({} : Codec).decode nestedBytes = .ok nestedPacket.described ∧
      nestedMessage ∈ nestedPacket.described.messages ∧
      ({} : Codec).typeTags nestedMessage.arguments = .ok "i[[c]N]" ∧
      nestedPacket.described.bundleDepth ≤ 64 ∧
      (nestedMessage.after someChanges).typeTags =
        String.ofList (Argument.typeTagsOf (nestedMessage.after someChanges).arguments) ∧
      (nestedMessage.after someChanges).typeTags = "T[I]" := by
  have hdecode : ({} : Codec).decode nestedBytes = .ok nestedPacket.described := by
    with_unfolding_all rfl
  have hmem : nestedMessage ∈ nestedPacket.described.messages := List.mem_singleton_self _
  obtain ⟨hmessages, hdepth⟩ := decode_coherent {} nestedBytes nestedPacket.described hdecode
  obtain ⟨⟨tags, hinfo, -, htags⟩, -, hchanges⟩ := hmessages nestedMessage hmem
  obtain rfl : "i[[c]N]" = tags := congrArg MessageInfo.typeTags (Option.some.inj hinfo)
  exact ⟨hdecode, hmem, htags, hdepth, hchanges someChanges, by decide +kernel⟩

end Codec

end OpenSound
