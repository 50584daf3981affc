import OpenSound.Proofs.Cursors
import OpenSound.Proofs.Prefixes

/-!
# What an error says

`Codec.Tells` is what each error says about the bytes that were refused.  The readers work on a
cursor that stays on the grid of four bytes (`Cursor.IsAligned`), since every payload that is read
ends there, and `Codec.Diagnoses` says of a reader that whatever it fails with there is true of the
bytes as a whole.  This holds of every reader that a message is read with.  A bundle adds nothing of
its own: it is refused for what its first faulty element by itself is refused for
(`decodeInside_bundleBytes_append`).
-/

namespace OpenSound

/-- The cursor stands in the bytes, on their grid of four. -/
structure Cursor.IsAligned (c : Cursor) (d : Bytes) : Prop extends c.IsWithin d where
  position_mod_four : c.position % 4 = 0

namespace Cursor

variable {c c' : Cursor} {d taken : Bytes}

theorem isAligned_ofBytes (d : Bytes) : (ofBytes d).IsAligned d := ⟨isWithin_ofBytes d, rfl⟩

theorem IsAligned.behind (h : c.IsAligned d) (hrest : c.rest = taken ++ c'.rest)
    (hposition : c'.position = c.position + taken.length) (htaken : taken.length % 4 = 0) :
    c'.IsAligned d := by
  obtain ⟨hle, rfl⟩ := eq_advance_of_rest_eq_append hrest hposition
  refine ⟨h.toIsWithin.advance hle, ?_⟩
  rw [hposition, Nat.add_mod, h.position_mod_four, htaken]

theorem IsWithin.remaining_le (h : c.IsWithin d) : c.remaining ≤ d.length := by
  rw [← h.position_add_remaining]
  exact Nat.le_add_left _ _

/-- Where the cursor has a byte ahead that spoils a padding, the bytes as a whole have it. -/
theorem IsWithin.exists_getElem?_of_isSpoilt {front : Bytes} {total i : Nat} (h : c.IsWithin d)
    (hspoilt : Bytes.IsSpoilt front total i c.rest) :
    ∃ b, d[c.position + (front.length + i)]? = some b ∧ b ≠ 0 := by
  obtain ⟨b, tail, hrest, hb, -⟩ := hspoilt
  refine ⟨b, ?_, hb⟩
  have hlength : (front ++ List.replicate i 0).length = front.length + i := by
    rw [List.length_append, List.length_replicate]
  rw [← List.getElem?_drop, ← h.rest_eq, hrest, ← hlength, List.getElem?_append_right (Nat.le_refl _),
    Nat.sub_self]
  rfl

end Cursor

namespace Codec

/-- The bytes begin with a text, and behind it there are type tags behind a comma. -/
def HasTypeTags (d : Bytes) (tags : String) : Prop :=
  ∃ d₁ d₂ d₃ address, d = d₁ ++ d₂ ++ d₃ ∧ Layout.text d₁ address ∧ Layout.text d₂ ("," ++ tags)

/-- What an error says about the bytes that are refused for it. -/
def Tells (codec : Codec) (d : Bytes) : ParseError → Prop
  | .empty => d = []
  | .truncated needed available => available < needed ∧ available ≤ d.length
  | .unaligned length => length = d.length ∧ length % 4 ≠ 0
  | .invalidPadding offset => ∃ b, d[offset]? = some b ∧ b ≠ 0
  | .unterminatedString offset => offset % 4 = 0 ∧ offset ≤ d.length ∧ 0 ∉ d.drop offset
  | .invalidUtf8 offset => offset % 4 = 0 ∧ ∃ body behind, d.drop offset = body ++ 0 :: behind ∧
      0 ∉ body ∧ ∀ text, Bytes.ofText text ≠ body
  | .invalidBundleHeader => d.head? = some '#'.toUInt8 ∧ ¬ bundleHeader <+: d
  -- lengths of elements are read in bundles only
  | .invalidElementLength _ => False
  | .invalidBlobLength length => length < 0
  | .missingTypeTagSeparator found => ∃ d₁ d₂ address, d = d₁ ++ found :: d₂ ∧
      Layout.text d₁ address ∧ found ≠ ','.toUInt8
  | .missingTypeTags => codec.limits.allowMissingTypeTags = false ∧ ∃ address, Layout.text d address
  | .invalidAddress address => ∃ d₁ d₂, d = d₁ ++ d₂ ∧ Layout.text d₁ address ∧
      address.toList.head? ≠ some '/'
  | .unbalancedArray tags => HasTypeTags d tags
  | .nestingTooDeep limit => limit = codec.limits.maxArrayDepth
  | .trailingBytes count => 0 < count ∧ count % 4 = 0 ∧ count ≤ d.length ∧
      ∃ m, codec.decode (d.take (d.length - count)) = .ok (.message m)
  | .unknownType tag => codec.registry.find? tag = none ∧ ∃ tags, HasTypeTags d tags ∧ tag ∈ tags.toList
  | .nonAsciiChar code => 128 ≤ code

/-- Whatever the reader fails with on the grid of the bytes is true of them. -/
def Diagnoses (codec : Codec) (d : Bytes) {α : Type} (r : Reader α) : Prop :=
  ∀ c cause c', c.IsAligned d → r c = .error cause c' → codec.Tells d cause

variable {codec : Codec} {d : Bytes} {α β : Type}

/-! ### Readers in general -/

theorem diagnoses_pure (a : α) : codec.Diagnoses d (pure a) := by
  rintro c cause c' - ⟨⟩

theorem diagnoses_throw {e : ParseError} (h : codec.Tells d e) :
    codec.Diagnoses d (throw e : Reader α) := by
  rintro c cause c' - hthrow
  rwa [(Reader.throw_eq_error.1 hthrow).1]

theorem Diagnoses.map {r : Reader α} (h : codec.Diagnoses d r) (f : α → β) :
    codec.Diagnoses d (f <$> r) :=
  fun c cause c' hc hmap => h c cause c' hc (Reader.map_eq_error.1 hmap)

/-- A step in front of others keeps the cursor on the grid when all that it recognizes does. -/
theorem Diagnoses.bind {r : Reader α} {M : Layout α} {next : α → Reader β}
    (h : codec.Diagnoses d r) (hr : Reader.Recognizes r M) (hM : ∀ d a, M d a → d.length % 4 = 0)
    (hnext : ∀ a, codec.Diagnoses d (next a)) : codec.Diagnoses d (r >>= next) := by
  intro c cause c' hc hbind
  rcases Reader.bind_eq_error.1 hbind with herror | ⟨a, c₁, hok, herror⟩
  · exact h c cause c' hc herror
  · obtain ⟨taken, htaken, hrest, hposition⟩ := (hr _ _ _).1 hok
    exact hnext a c₁ cause c' (hc.behind hrest hposition (hM _ _ htaken)) herror

/-! ### Payloads -/

open Reader Operation in
theorem diagnoses_operation (op : Operation) {r : Reader op.Value} (h : op.run true = r.attempt) :
    codec.Diagnoses d r := by
  intro c cause c' hc herror
  have hremaining := hc.remaining_le
  have hrun : op.run true c = .error (.failed cause) c' := by rwa [h, attempt_eq_failed_iff]
  cases run_eq_failed_iff.1 hrun with
  | short _ hshort | textShort _ _ hshort | paddedShort _ hshort | blobShort hshort =>
    exact ⟨hshort, hremaining⟩
  | payloadShort _ hfront hshort =>
    have hfour := hfront.length_le
    rw [Bytes.length_bigEndian, ← Cursor.remaining] at hfour
    exact ⟨by omega, by omega⟩
  | unterminated hmem =>
    rw [hc.rest_eq] at hmem
    exact ⟨hc.position_mod_four, hc.position_le, hmem⟩
  | notUtf8 hzero hpadded hnone =>
    obtain ⟨behind, hrest⟩ := (List.prefix_append _ _).trans hpadded
    refine ⟨hc.position_mod_four, _, behind, ?_, hzero, hnone⟩
    rw [← hc.rest_eq, ← hrest, ← List.append_cons]
  | blobNegative _ hnegative => exact hnegative
  | textSpoilt _ _ hspoilt =>
    have hbyte := hc.exists_getElem?_of_isSpoilt hspoilt
    rwa [List.length_append, List.length_singleton, ← Nat.add_assoc, ← Nat.add_assoc] at hbyte
  | paddedSpoilt _ hlength _ hspoilt =>
    have hbyte := hc.exists_getElem?_of_isSpoilt hspoilt
    rwa [hlength, ← Nat.add_assoc] at hbyte
  | payloadSpoilt _ _ hspoilt =>
    have hbyte := hc.exists_getElem?_of_isSpoilt hspoilt
    rwa [List.length_append, Bytes.length_bigEndian, ← Nat.add_assoc, ← Nat.add_assoc] at hbyte

theorem diagnoses_take (n : Nat) : codec.Diagnoses d (Reader.take n) :=
  diagnoses_operation (.take n) rfl

theorem diagnoses_readChar : codec.Diagnoses d Handler.readChar := by
  refine (diagnoses_take 4).bind (Reader.recognizes_take 4) ?_ fun slot => ?_
  · rintro d _ ⟨hlength, -⟩
    rw [hlength]
  · dsimp only
    split_ifs with hascii
    · exact diagnoses_pure _
    · exact diagnoses_throw (UInt8.not_lt.1 hascii)

theorem diagnoses_readQuad (make : UInt8 → UInt8 → UInt8 → UInt8 → Argument) :
    codec.Diagnoses d (Handler.readQuad make) := by
  intro c cause c' hc hbind
  rcases Reader.bind_eq_error.1 hbind with herror | ⟨slot, c₁, hslot, hmake⟩
  · exact diagnoses_take 4 c cause c' hc herror
  · -- four bytes have been taken, so there are four parts
    obtain ⟨_, ⟨hlength, rfl⟩, -⟩ := (Reader.recognizes_take 4 _ _ _).1 hslot
    obtain ⟨w, x, y, z, rfl⟩ := exists_eq_of_length_eq_four hlength
    cases hmake

theorem diagnoses_decode (handler : Handler) : codec.Diagnoses d handler.decode := by
  cases handler with
  | int => exact (diagnoses_operation .int32 rfl).map _
  | unsigned | float => exact (diagnoses_operation .uint32 rfl).map _
  | string | symbol => exact (diagnoses_operation .text rfl).map _
  | blob => exact (diagnoses_operation .blob rfl).map _
  | long => exact (diagnoses_operation .int64 rfl).map _
  | double | timeTag => exact (diagnoses_operation .uint64 rfl).map _
  | bool | nil | impulse => exact diagnoses_pure _
  | char => exact diagnoses_readChar
  | color | midi => exact diagnoses_readQuad _
  | fixedWidth tag width =>
    have hword : (UInt64.ofNat width).toNat = width :=
      UInt64.toNat_ofNat_of_lt' (width.isLt.trans (by decide))
    exact (diagnoses_operation (.padded _) (Reader.attemptPadded_eq hword true)).map _

theorem diagnoses_readArguments {all : String} (hall : HasTypeTags d all) (tags : List Char)
    (hsubset : tags ⊆ all.toList) (arrays : OpenArrays) :
    codec.Diagnoses d (readArguments codec all tags arrays) := by
  induction tags generalizing arrays with
  | nil =>
    unfold readArguments
    split_ifs
    · exact diagnoses_pure _
    · exact diagnoses_throw hall
  | cons tag tags ih =>
    obtain ⟨htag, htags⟩ := List.cons_subset.1 hsubset
    unfold readArguments
    split_ifs
    · exact diagnoses_throw rfl
    · exact ih htags _
    · split
      · exact diagnoses_throw hall
      · exact ih htags _
    · split
      next hfind => exact diagnoses_throw ⟨hfind, all, hall, htag⟩
      next handler _ =>
        exact (diagnoses_decode handler).bind handler.recognizes_decode
          (fun _ _ => length_mod_four_of_payload) fun argument => ih htags _

/-! ### Messages -/

theorem tells_of_readAddress {cause : ParseError} {c' : Cursor}
    (h : readAddress (.ofBytes d) = .error cause c') : codec.Tells d cause := by
  rcases Reader.bind_eq_error.1 h with herror | ⟨address, c₁, haddress, herror⟩
  · exact diagnoses_operation .text rfl _ _ _ (Cursor.isAligned_ofBytes d) herror
  · split_ifs at herror with hslash
    · cases herror
    obtain ⟨rfl, -⟩ := Reader.throw_eq_error.1 herror
    obtain ⟨d₁, htext, hrest, -⟩ := (Reader.recognizes_text _ _ _).1 haddress
    exact ⟨d₁, c₁.rest, hrest, htext, hslash⟩

theorem tells_of_readTypeTags {d₁ : Bytes} {address : String} {cause : ParseError} {c c' : Cursor}
    (hc : c.IsAligned d) (hd : d = d₁ ++ c.rest) (htext : Layout.text d₁ address)
    (h : readTypeTags codec c = .error cause c') : codec.Tells d cause := by
  rcases hhead : c.rest.head? with _ | mark
  · rw [readTypeTags_of_head?_eq_none hhead] at h
    split_ifs at h with hallow
    cases h
    rw [List.head?_eq_none_iff.1 hhead, List.append_nil] at hd
    subst hd
    exact ⟨Bool.eq_false_iff.2 hallow, address, htext⟩
  · rw [readTypeTags_of_head?_eq_some hhead] at h
    split_ifs at h with hmark
    · exact (diagnoses_operation .text rfl).map _ c cause c' hc h
    · obtain ⟨rfl, -⟩ := Reader.throw_eq_error.1 h
      obtain ⟨d₂, hrest⟩ := List.head?_eq_some_iff.1 hhead
      exact ⟨d₁, d₂, address, by rw [hd, hrest], htext, hmark⟩

theorem readEnd_eq_error_iff {cause : ParseError} {c c' : Cursor} :
    readEnd c = .error cause c' ↔ c.rest ≠ [] ∧ cause = .trailingBytes c.rest.length ∧ c' = c := by
  unfold readEnd Cursor.isEmpty
  split_ifs with hend
  · exact iff_of_false nofun fun h => h.1 (List.isEmpty_iff.1 hend)
  · constructor
    · rintro ⟨⟩
      exact ⟨mt List.isEmpty_iff.2 hend, rfl, rfl⟩
    · rintro ⟨-, rfl, rfl⟩
      rfl

/-- What stands in front of the bytes left over behind a message is the message. -/
theorem tells_trailingBytes {d d' : Bytes} {m : Message} (h : codec.MessageLayout d m)
    (hne : d' ≠ []) (hmod : (d ++ d').length % 4 = 0) :
    codec.Tells (d ++ d') (.trailingBytes d'.length) := by
  have hframed := h.isFramed
  have hmark : d.head? ≠ some '#'.toUInt8 := by
    rw [h.head?]
    decide
  rw [List.length_append, Nat.add_mod, hframed.2, Nat.zero_add, Nat.mod_mod] at hmod
  refine ⟨List.length_pos_iff.2 hne, hmod, ?_, m, ?_⟩
  · rw [List.length_append]
    exact Nat.le_add_left _ _
  · rw [List.length_append, Nat.add_sub_cancel, List.take_left]
    exact decode_of_packetLayout (.message hframed hmark h)

/-- Behind the type tags, a payload is refused or something is left over. -/
theorem tells_of_readPayloads {d₁ d₂ : Bytes} {address tags : String} {cause : ParseError}
    {c c' : Cursor} (hframed : IsFramed d) (hc : c.IsAligned d) (hd : d = d₁ ++ d₂ ++ c.rest)
    (htext : Layout.text d₁ address) (hslash : address.toList.head? = some '/')
    (htext₂ : Layout.text d₂ ("," ++ tags))
    (h : (do
      let arguments ← readArguments codec tags tags.toList {}
      readEnd
      return { address, arguments, info := some ⟨tags⟩ } : Reader Message) c = .error cause c') :
    codec.Tells d cause := by
  have hall : HasTypeTags d tags := ⟨d₁, d₂, c.rest, address, hd, htext, htext₂⟩
  rcases Reader.bind_eq_error.1 h with herror | ⟨arguments, c₁, harguments, h₁⟩
  · exact diagnoses_readArguments hall _ (List.Subset.refl _) _ _ _ _ hc herror
  obtain ⟨d₃, hlayout, hrest, -⟩ := (recognizes_readArguments _ _ _ _ _).1 harguments
  rcases Reader.bind_eq_error.1 h₁ with herror | ⟨_, c₂, -, hpure⟩
  · obtain ⟨hne, rfl, -⟩ := readEnd_eq_error_iff.1 herror
    rw [hrest, ← List.append_assoc] at hd
    rw [hd] at hframed ⊢
    exact tells_trailingBytes (.tagged htext hslash htext₂ hlayout) hne hframed.2
  · cases hpure

theorem tells_of_readMessage {cause : ParseError} {c' : Cursor} (hframed : IsFramed d)
    (h : readMessage codec (.ofBytes d) = .error cause c') : codec.Tells d cause := by
  have hc := Cursor.isAligned_ofBytes d
  rcases Reader.bind_eq_error.1 h with herror | ⟨address, c₁, haddress, h₁⟩
  · exact tells_of_readAddress herror
  obtain ⟨d₁, ⟨htext, hslash⟩, hrest₁, hposition₁⟩ := (recognizes_readAddress _ _ _).1 haddress
  have hd : d = d₁ ++ c₁.rest := hrest₁
  have hc₁ := hc.behind hrest₁ hposition₁ (length_mod_four_of_text htext)
  rcases Reader.bind_eq_error.1 h₁ with herror | ⟨tags, c₂, htags, h₂⟩
  · exact tells_of_readTypeTags hc₁ hd htext herror
  rcases readTypeTags_eq_ok_iff.1 htags with ⟨hnil, -, rfl, rfl⟩ | ⟨d₂, htext₂, hrest₂, hposition₂⟩
  · -- behind an address without type tags there is nothing to read and nothing left
    rcases Reader.bind_eq_error.1 h₂ with herror | ⟨arguments, c₃, harguments, h₃⟩
    · cases herror
    cases harguments
    rcases Reader.bind_eq_error.1 h₃ with herror | ⟨_, c₄, -, hpure⟩
    · exact absurd hnil (readEnd_eq_error_iff.1 herror).1
    · cases hpure
  · have hc₂ := hc₁.behind hrest₂ hposition₂ (length_mod_four_of_text htext₂)
    rw [hrest₂, ← List.append_assoc] at hd
    exact tells_of_readPayloads hframed hc₂ hd htext hslash htext₂ h₂

/-! ### Packets -/

/-- The bytes are framed as those of a packet are, and have the header of a bundle in front. -/
def IsBundle (d : Bytes) : Prop := IsFramed d ∧ bundleHeader <+: d

/-- What the bytes are read as when they stand inside `level` bundles. -/
def decodeInside (codec : Codec) (level : Nat) (d : Bytes) : Except ParseError Packet :=
  decodeWithin codec (codec.limits.maxBundleDepth - level) d

theorem decode_eq_error_iff {e : Malformed} :
    codec.decode d = .error e ↔ codec.decodeInside 0 d = .error e.cause ∧ e.data = d := by
  obtain ⟨cause, data⟩ := e
  unfold decode decodeInside
  rw [Nat.sub_zero]
  rcases decodeWithin codec codec.limits.maxBundleDepth d with found | p
  · simp only [Except.mapError, Except.error.injEq, Malformed.mk.injEq, @eq_comm _ d]
  · simp only [Except.mapError, reduceCtorEq, false_and]

theorem decodeWithin_of_not_isFramed {levels : Nat} {cause : ParseError} (hframed : ¬ IsFramed d)
    (h : decodeWithin codec levels d = .error cause) :
    cause = .empty ∧ d = [] ∨ cause = .unaligned d.length ∧ d.length % 4 ≠ 0 := by
  unfold decodeWithin at h
  split_ifs at h with hempty hmod
  · cases h
    exact .inl ⟨rfl, List.isEmpty_iff.1 hempty⟩
  · cases h
    exact .inr ⟨rfl, hmod⟩
  all_goals exact absurd ⟨mt List.isEmpty_iff.2 hempty, not_not.1 hmod⟩ hframed

theorem run_eq_error_iff {r : Reader α} {cause : ParseError} :
    run r d = .error cause ↔ ∃ c, r (.ofBytes d) = .error cause c := by
  unfold run
  split
  next h => simp [h]
  next h => simp [h]

theorem except_map_eq_error_iff {x : Except ParseError α} {f : α → β} {cause : ParseError} :
    f <$> x = .error cause ↔ x = .error cause := by
  cases x <;> simp [Functor.map, Except.map]

/-- Whatever bytes that are no bundle are refused for is true of them. -/
theorem tells_of_decodeInside {level : Nat} {cause : ParseError} (hbundle : ¬ IsBundle d)
    (h : codec.decodeInside level d = .error cause) : codec.Tells d cause := by
  by_cases hframed : IsFramed d
  swap
  · rcases decodeWithin_of_not_isFramed hframed h with ⟨rfl, hnil⟩ | ⟨rfl, hmod⟩
    · exact hnil
    · exact ⟨rfl, hmod⟩
  unfold decodeInside at h
  rw [decodeWithin_of_isFramed hframed] at h
  have hheader : ¬ bundleHeader <+: d := fun hheader => hbundle ⟨hframed, hheader⟩
  split_ifs at h with hmark hprefix
  · cases h
    exact ⟨hmark, hheader⟩
  · exact absurd (List.isPrefixOf_iff_prefix.1 (by simpa using hprefix)) hheader
  · obtain ⟨c, hread⟩ := run_eq_error_iff.1 (except_map_eq_error_iff.1 h)
    exact tells_of_readMessage hframed hread

/-! ### Bundles -/

theorem readElements_frame_append {decodeElement : Bytes → Except ParseError Packet} {d rest : Bytes}
    (hframed : IsFramed d) (hlength : d.length ≤ Bytes.maxLengthPrefix) (n : Nat) :
    readElements decodeElement ⟨n, Bytes.bigEndian 4 d.length ++ d ++ rest⟩ = (do
      let packet ← decodeElement d
      let packets ← readElements decodeElement
        ⟨n + (Bytes.bigEndian 4 d.length ++ d).length, rest⟩
      return packet :: packets) :=
  readElements_of_readElement (recognizes_readElement.apply ⟨hframed, hlength, rfl⟩ n rest)

/-- Elements are read up to the first one that is refused. -/
theorem readElements_framed_append {decodeElement : Bytes → Except ParseError Packet}
    {front : List Bytes} {faulty rest : Bytes} {cause : ParseError}
    (hfront : ∀ d ∈ front, IsFramed d ∧ d.length ≤ Bytes.maxLengthPrefix ∧
      ∃ p, decodeElement d = .ok p)
    (hframed : IsFramed faulty) (hlength : faulty.length ≤ Bytes.maxLengthPrefix)
    (hfaulty : decodeElement faulty = .error cause) (n : Nat) :
    readElements decodeElement ⟨n, framed (front ++ [faulty]) ++ rest⟩ = .error cause := by
  induction front generalizing n with
  | nil =>
    rw [List.nil_append, framed_cons, List.append_assoc, readElements_frame_append hframed hlength,
      hfaulty]
    rfl
  | cons d front ih =>
    obtain ⟨⟨hd, hdlength, p, hp⟩, hothers⟩ := List.forall_mem_cons.1 hfront
    rw [List.cons_append, framed_cons, List.append_assoc, readElements_frame_append hd hdlength, hp]
    show (readElements decodeElement _ >>= _) = _
    rw [ih hothers]
    rfl

theorem decodeBundle_bundleHeader_append (decodeElement : Bytes → Except ParseError Packet)
    (time : TimeTag) (ds : Bytes) :
    decodeBundle decodeElement (bundleHeader ++ Bytes.bigEndian 8 time.raw.toNat ++ ds) = (do
      let elements ← readElements decodeElement ⟨16, ds⟩
      return .bundle time elements) := by
  have hstart : (Cursor.ofBytes (bundleHeader ++ Bytes.bigEndian 8 time.raw.toNat ++ ds)).advance
      bundleHeader.length = ⟨bundleHeader.length, Bytes.bigEndian 8 time.raw.toNat ++ ds⟩ := by
    rw [Cursor.ofBytes, Cursor.advance, List.append_assoc, List.drop_left, Nat.zero_add]
  have hread := Reader.recognizes_uint64.apply (rfl : Layout.uint64 _ time.raw) bundleHeader.length ds
  rw [Bytes.length_bigEndian, length_bundleHeader] at hread
  unfold decodeBundle
  rw [hstart, length_bundleHeader, hread]

/-- A bundle is refused for what its first faulty element is refused for inside of it. -/
theorem decodeInside_bundleBytes_append {level : Nat} {time : TimeTag} {front : List Bytes}
    {faulty rest : Bytes} {cause : ParseError} (hlevel : level < codec.limits.maxBundleDepth)
    (hbundle : IsFramed (bundleBytes time (front ++ [faulty]) ++ rest))
    (hfront : ∀ d ∈ front, d.length ≤ Bytes.maxLengthPrefix ∧
      ∃ p, codec.decodeInside (level + 1) d = .ok p)
    (hframed : IsFramed faulty) (hlength : faulty.length ≤ Bytes.maxLengthPrefix)
    (hfaulty : codec.decodeInside (level + 1) faulty = .error cause) :
    codec.decodeInside level (bundleBytes time (front ++ [faulty]) ++ rest) = .error cause := by
  obtain ⟨levels, hlevels⟩ : ∃ levels, codec.limits.maxBundleDepth - level = levels + 1 :=
    ⟨codec.limits.maxBundleDepth - level - 1, by omega⟩
  have hinside : codec.limits.maxBundleDepth - (level + 1) = levels := by omega
  unfold decodeInside at hfront hfaulty ⊢
  rw [hinside] at hfront hfaulty
  have helements : ∀ d ∈ front, IsFramed d ∧ d.length ≤ Bytes.maxLengthPrefix ∧
      ∃ p, decodeWithin codec levels d = .ok p := by
    intro d hd
    obtain ⟨hle, p, hp⟩ := hfront d hd
    exact ⟨isFramed_of_decodeWithin_eq_ok hp, hle, p, hp⟩
  have hbytes : bundleBytes time (front ++ [faulty]) ++ rest =
      bundleHeader ++ (Bytes.bigEndian 8 time.raw.toNat ++ (framed (front ++ [faulty]) ++ rest)) := by
    simp only [bundleBytes, List.append_assoc]
  have hheader : bundleHeader.isPrefixOf (bundleBytes time (front ++ [faulty]) ++ rest) = true := by
    rw [hbytes]
    exact List.isPrefixOf_iff_prefix.2 (List.prefix_append _ _)
  rw [decodeWithin_of_isFramed hbundle, hlevels, hheader, hbytes, if_pos (head?_bundleHeader_append _),
    Bool.not_true, if_neg Bool.false_ne_true]
  dsimp only
  rw [← List.append_assoc, decodeBundle_bundleHeader_append,
    readElements_framed_append helements hframed hlength hfaulty]
  rfl

/-- Bytes that are no bundle are refused for something that is true of them, and a bundle is refused
for what its first faulty element by itself is refused for, at the level where it stands. -/
theorem decode_error_tells (codec : Codec) :
    (∀ d e, ¬ IsBundle d → codec.decode d = .error e → e.data = d ∧ codec.Tells d e.cause) ∧
    (∀ d e, codec.decode d = .error e ↔ codec.decodeInside 0 d = .error e.cause ∧ e.data = d) ∧
    ∀ level time front faulty rest cause, level < codec.limits.maxBundleDepth →
      IsFramed (bundleBytes time (front ++ [faulty]) ++ rest) →
      (∀ d ∈ front, d.length ≤ Bytes.maxLengthPrefix ∧
        ∃ p, codec.decodeInside (level + 1) d = .ok p) →
      IsFramed faulty → faulty.length ≤ Bytes.maxLengthPrefix →
      codec.decodeInside (level + 1) faulty = .error cause →
      codec.decodeInside level (bundleBytes time (front ++ [faulty]) ++ rest) = .error cause := by
  refine ⟨fun d e hbundle h => ?_, fun d e => decode_eq_error_iff, ?_⟩
  · obtain ⟨hcause, hdata⟩ := decode_eq_error_iff.1 h
    exact ⟨hdata, tells_of_decodeInside hbundle hcause⟩
  · intro level time front faulty rest cause hlevel hbundle hfront hframed hlength hfaulty
    exact decodeInside_bundleBytes_append hlevel hbundle hfront hframed hlength hfaulty

/-- A message with four bytes left over. -/
def longBytes : Bytes := taggedBytes ++ [0, 0, 0, 0]

/-- A bundle that ends in the middle of a frame, behind a message and the one with bytes left
over. -/
def brokenBytes : Bytes := bundleBytes .immediate ([bareBytes] ++ [longBytes]) ++ [0, 0, 0, 9]

theorem decode_error_tells_brokenBytes :
    ({} : Codec).decode longBytes = .error ⟨.trailingBytes 4, longBytes⟩ ∧ ¬ IsBundle longBytes ∧
      ({} : Codec).Tells longBytes (.trailingBytes 4) ∧
      ({} : Codec).decodeInside 1 bareBytes = .ok (.message bareMessage) ∧
      ({} : Codec).decodeInside 1 longBytes = .error (.trailingBytes 4) ∧
      ({} : Codec).decode brokenBytes = .error ⟨.trailingBytes 4, brokenBytes⟩ := by
  obtain ⟨htells, hdecode, hinside⟩ := decode_error_tells {}
  have hlong : ({} : Codec).decode longBytes = .error ⟨.trailingBytes 4, longBytes⟩ := by
    with_unfolding_all rfl
  have hbundle : ¬ IsBundle longBytes := fun h => absurd h.2 (by decide)
  have hbare : ({} : Codec).decodeInside 1 bareBytes = .ok (.message bareMessage) := by
    with_unfolding_all rfl
  have hfaulty : ({} : Codec).decodeInside 1 longBytes = .error (.trailingBytes 4) := by
    with_unfolding_all rfl
  have hbroken : ({} : Codec).decodeInside 0 brokenBytes = .error (.trailingBytes 4) :=
    hinside 0 .immediate [bareBytes] longBytes [0, 0, 0, 9] _ (by decide) ⟨by decide, by decide⟩
      (List.forall_mem_singleton.2 ⟨by decide, _, hbare⟩) ⟨by decide, by decide⟩ (by decide) hfaulty
  exact ⟨hlong, hbundle, (htells _ _ hbundle hlong).2, hbare, hfaulty,
    (hdecode _ _).2 ⟨hbroken, rfl⟩⟩

end Codec

end OpenSound
