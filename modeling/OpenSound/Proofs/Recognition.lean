import OpenSound.Codec.Decode
import OpenSound.Proofs.Grammar
import OpenSound.Proofs.Slots

/-!
# Reading is recognition

`Codec.decode` accepts a string of bytes exactly when the grammar derives a packet from it, and then
it yields that packet.  The reader of arguments keeps the open arrays on a stack where the grammar
nests; `readArguments_append` runs it through a balanced word, and `exists_layout_of_readArguments`
finds the balanced word that a run has gone through.
-/

namespace OpenSound

/-! ### Payloads -/

theorem exists_eq_of_length_eq_four {d : Bytes} (h : d.length = 4) :
    ∃ w x y z, d = [w, x, y, z] := by
  match d, h with
  | [w, x, y, z], _ => exact ⟨w, x, y, z, rfl⟩

open Reader in
theorem Handler.recognizes_readChar : Recognizes Handler.readChar Layout.char := by
  have step : ∀ slot : Bytes, Recognizes
      (if slot.headD 0 < 128 then pure (Argument.char (slot.headD 0))
        else throw (.nonAsciiChar (slot.headD 0)))
      fun d a => slot.headD 0 < 128 ∧ d = [] ∧ a = .char (slot.headD 0) :=
    fun slot => (recognizes_pure _).provided _
  refine ((recognizes_take 4).bind step).congr fun d a => ?_
  constructor
  · rintro ⟨_, slot, _, ⟨hlen, rfl⟩, ⟨h, rfl, rfl⟩, rfl⟩
    obtain ⟨code, x, y, z, rfl⟩ := exists_eq_of_length_eq_four hlen
    exact ⟨code, x, y, z, h, List.append_nil _, rfl⟩
  · rintro ⟨code, x, y, z, h, rfl, rfl⟩
    exact ⟨[code, x, y, z], _, [], ⟨rfl, rfl⟩, ⟨h, rfl, rfl⟩, rfl⟩

open Reader in
theorem Handler.recognizes_readQuad (make : UInt8 → UInt8 → UInt8 → UInt8 → Argument) :
    Recognizes (Handler.readQuad make) (Layout.quad make) := by
  refine ((recognizes_take 4).bind (M := fun slot d a =>
    ∃ w x y z, slot = [w, x, y, z] ∧ d = [] ∧ a = make w x y z) ?_).congr fun d a => ?_
  · intro slot
    split
    · exact (recognizes_pure _).congr fun d a => by simp [Layout.empty]
    next hslot =>
      refine (recognizes_throw _).congr fun d a => ?_
      simp only [false_iff]
      rintro ⟨w, x, y, z, h, -⟩
      exact hslot w x y z h
  constructor
  · rintro ⟨_, slot, _, ⟨hlen, rfl⟩, ⟨w, x, y, z, rfl, rfl, rfl⟩, rfl⟩
    exact ⟨w, x, y, z, List.append_nil _, rfl⟩
  · rintro ⟨w, x, y, z, rfl, rfl⟩
    exact ⟨_, _, [], ⟨rfl, rfl⟩, ⟨w, x, y, z, rfl, rfl, rfl⟩, rfl⟩

open Reader in
/-- A handler reads the payloads that it knows. -/
theorem Handler.recognizes_decode (handler : Handler) :
    Recognizes handler.decode handler.payload := by
  cases handler with
  | int => exact recognizes_int32.map _
  | unsigned => exact recognizes_uint32.map _
  | float => exact recognizes_uint32.map _
  | string => exact recognizes_text.map _
  | blob => exact recognizes_blob.map _
  | long => exact recognizes_int64.map _
  | double => exact recognizes_uint64.map _
  | timeTag => exact recognizes_uint64.map _
  | bool value => exact recognizes_pure _
  | nil => exact recognizes_pure _
  | impulse => exact recognizes_pure _
  | char => exact recognizes_readChar
  | color => exact recognizes_readQuad _
  | midi => exact recognizes_readQuad _
  | symbol => exact recognizes_text.map _
  | fixedWidth tag width => exact (recognizes_padded width).map _

namespace Codec

variable {codec : Codec}

/-! ### Arguments -/

namespace OpenArrays

theorem foldl_push (arrays : OpenArrays) (arguments : List Argument) :
    arguments.foldl push arrays = ⟨arguments.reverse ++ arrays.items, arrays.outer⟩ := by
  induction arguments generalizing arrays with
  | nil => rfl
  | cons argument arguments ih =>
    rw [List.foldl_cons, ih, push, List.reverse_cons, List.append_assoc]
    rfl

theorem closed?_foldl_push_opened (arrays : OpenArrays) (items : List Argument) :
    (items.foldl push arrays.opened).closed? = some (arrays.push (.array items)) := by
  rw [foldl_push]
  simp [opened, closed?, push]

end OpenArrays

theorem readArguments_openBracket {all : String} {tags : List Char} {arrays : OpenArrays}
    (h : arrays.outer.length < codec.limits.maxArrayDepth) :
    readArguments codec all (Argument.openBracket :: tags) arrays =
      readArguments codec all tags arrays.opened := by
  rw [readArguments, if_pos rfl, if_neg (Nat.not_le.2 h)]

theorem readArguments_closeBracket {all : String} {tags : List Char} {arrays around : OpenArrays}
    (h : arrays.closed? = some around) :
    readArguments codec all (Argument.closeBracket :: tags) arrays =
      readArguments codec all tags around := by
  rw [readArguments, if_neg (by decide), if_pos rfl, h]

theorem readArguments_single {all : String} {tag : Char} {tags : List Char} {arrays : OpenArrays}
    {handler : Handler} (h : codec.registry.find? tag = some handler) :
    readArguments codec all (tag :: tags) arrays =
      handler.decode >>= fun argument => readArguments codec all tags (arrays.push argument) := by
  have hb := Registry.ne_bracket_of_find? h
  rw [readArguments, if_neg hb.1, if_neg hb.2, h]

/-- The payloads of a balanced word are pushed, and the reader goes on behind the word. -/
theorem readArguments_append {depth : Nat} {tags : List Char} {d : Bytes}
    {arguments : List Argument} (h : codec.ArgumentsLayout depth tags d arguments) (all : String)
    (arrays : OpenArrays) (hdepth : arrays.outer.length = depth) (more : List Char) (n : Nat)
    (rest : Bytes) :
    readArguments codec all (tags ++ more) arrays ⟨n, d ++ rest⟩ =
      readArguments codec all more (arguments.foldl .push arrays) ⟨n + d.length, rest⟩ := by
  induction h generalizing arrays more n rest with
  | nil => rfl
  | @single depth tag handler d argument tags ds arguments hfind hpayload _ ih =>
    have hread := handler.recognizes_decode.apply hpayload n (ds ++ rest)
    rw [List.cons_append, readArguments_single hfind, List.append_assoc]
    simp only [bind, EStateM.bind, hread]
    rw [ih (arrays.push argument) hdepth, List.length_append, Nat.add_assoc]
    rfl
  | @array depth inner d items tags ds arguments hlt _ _ ihInner ih =>
    rw [List.cons_append, readArguments_openBracket (by omega), List.append_assoc,
      List.append_assoc, List.cons_append,
      ihInner arrays.opened (by simp [OpenArrays.opened, hdepth]),
      readArguments_closeBracket (OpenArrays.closed?_foldl_push_opened ..),
      ih (arrays.push (.array items)) hdepth, List.length_append, Nat.add_assoc]
    rfl

/-- A run that succeeds goes through a balanced word first.  The word ends with the tags or in front
of a closing bracket that it does not match, and the run goes on from there. -/
theorem exists_layout_of_readArguments {all : String} {arguments : List Argument} {c' : Cursor} :
    ∀ (tags : List Char) (arrays : OpenArrays) (c : Cursor),
      readArguments codec all tags arrays c = .ok arguments c' →
      ∃ inner more d new, tags = inner ++ more ∧
        (∀ tag tail, more = tag :: tail → tag = Argument.closeBracket) ∧
        codec.ArgumentsLayout arrays.outer.length inner d new ∧
        ∃ rest, c.rest = d ++ rest ∧
          readArguments codec all more (new.foldl .push arrays) ⟨c.position + d.length, rest⟩ =
            .ok arguments c' := by
  intro tags
  induction hn : tags.length using Nat.strongRecOn generalizing tags with
  | ind n ih =>
    intro arrays c h
    rcases tags with _ | ⟨tag, tags⟩
    · exact ⟨[], [], [], [], rfl, by simp, .nil, c.rest, rfl, h⟩
    subst hn
    by_cases hopen : tag = Argument.openBracket
    · subst hopen
      rw [readArguments, if_pos rfl] at h
      split_ifs at h with hdeep
      · cases h
      obtain ⟨inner, more, d, items, rfl, hmore, hinner, rest, hc, hrun⟩ :=
        ih _ (Nat.lt_succ_self _) tags rfl _ _ h
      -- the array is closed, since a run that ends inside of it fails
      rcases more with _ | ⟨tag, tail⟩
      · rw [OpenArrays.foldl_push] at hrun
        cases hrun
      obtain rfl := hmore tag tail rfl
      rw [readArguments_closeBracket (OpenArrays.closed?_foldl_push_opened ..)] at hrun
      obtain ⟨inner', more', d', new, rfl, hmore', hlayout, rest', hrest, hrun'⟩ :=
        ih tail.length (by simp only [List.length_append, List.length_cons]; omega) tail rfl _ _
          hrun
      dsimp only at hrest
      refine ⟨_, more', d ++ d', .array items :: new, ?_, hmore',
        .array (Nat.not_le.1 hdeep) hinner hlayout, rest', ?_, ?_⟩
      · simp
      · rw [hc, hrest, List.append_assoc]
      · rw [List.length_append, ← Nat.add_assoc]
        exact hrun'
    by_cases hclose : tag = Argument.closeBracket
    · subst hclose
      exact ⟨[], _, [], [], rfl, fun _ _ e => (List.cons.inj e).1.symm, .nil, c.rest, rfl, h⟩
    rw [readArguments, if_neg hopen, if_neg hclose] at h
    rcases hfind : codec.registry.find? tag with _ | handler
    · rw [hfind] at h
      cases h
    · rw [hfind] at h
      obtain ⟨argument, c₁, hdecode, hrun⟩ := Reader.bind_eq_ok.1 h
      obtain ⟨d, hd, hc, hpos⟩ := (handler.recognizes_decode _ _ _).1 hdecode
      obtain ⟨inner, more, d', new, rfl, hmore, hlayout, rest, hrest, hrun'⟩ :=
        ih _ (Nat.lt_succ_self _) tags rfl _ _ hrun
      refine ⟨tag :: inner, more, d ++ d', argument :: new, rfl, hmore,
        .single hfind hd hlayout, rest, ?_, ?_⟩
      · rw [hc, hrest, List.append_assoc]
      · rw [List.length_append, ← Nat.add_assoc, ← hpos]
        exact hrun'

/-- The reader of arguments reads the payloads of a string of type tags. -/
theorem recognizes_readArguments (all : String) (tags : List Char) :
    Reader.Recognizes (readArguments codec all tags {}) (codec.ArgumentsLayout 0 tags) := by
  intro c arguments c'
  constructor
  · intro h
    obtain ⟨inner, more, d, new, rfl, hmore, hlayout, rest, hc, hrun⟩ :=
      exists_layout_of_readArguments tags {} c h
    rw [OpenArrays.foldl_push] at hrun
    rcases more with _ | ⟨tag, tail⟩
    · simp only [readArguments, List.append_nil, List.reverse_reverse] at hrun
      cases hrun
      rw [List.append_nil]
      exact ⟨d, hlayout, hc, rfl⟩
    · obtain rfl := hmore tag tail rfl
      cases hrun
  · rintro ⟨d, hlayout, hc, hpos⟩
    have h := readArguments_append hlayout all {} rfl [] c.position c'.rest
    rw [← hc, List.append_nil, OpenArrays.foldl_push] at h
    rw [h, ← hpos]
    simp [readArguments, pure, EStateM.pure]

/-! ### Messages -/

theorem recognizes_readAddress :
    Reader.Recognizes readAddress fun d s => Layout.text d s ∧ s.toList.head? = some '/' := by
  have step : ∀ s : String, Reader.Recognizes
      (if s.toList.head? = some '/' then pure s else throw (.invalidAddress s))
      fun d a => s.toList.head? = some '/' ∧ d = [] ∧ a = s :=
    fun s => (Reader.recognizes_pure s).provided _
  refine (Reader.recognizes_text.bind step).congr fun d s => ?_
  constructor
  · rintro ⟨_, d, _, htext, ⟨hslash, rfl, rfl⟩, rfl⟩
    rw [List.append_nil]
    exact ⟨htext, hslash⟩
  · rintro ⟨htext, hslash⟩
    exact ⟨s, d, [], htext, ⟨hslash, rfl, rfl⟩, (List.append_nil d).symm⟩

theorem head?_eq_of_text_comma {d : Bytes} {tags : String} (h : Layout.text d ("," ++ tags)) :
    d.head? = some ','.toUInt8 := by
  rw [Layout.head?_eq_some_iff h (by decide) (by decide)]
  simp

/-- Taking the comma off a text that begins with one. -/
theorem text_map_drop_iff {d : Bytes} {tags : String} (h : d.head? = some ','.toUInt8) :
    Layout.text.map (fun s => String.ofList (s.toList.drop 1)) d tags ↔
      Layout.text d ("," ++ tags) := by
  constructor
  · rintro ⟨s, htext, rfl⟩
    have hs := (Layout.head?_eq_some_iff htext (by decide) (by decide)).1 h
    obtain ⟨cs, hcs⟩ := List.head?_eq_some_iff.1 hs
    have heq : "," ++ String.ofList (s.toList.drop 1) = s := by
      rw [← String.toList_inj, hcs]
      simp
    rwa [heq]
  · intro htext
    exact ⟨_, htext, by simp⟩

theorem readTypeTags_of_head?_eq_none {c : Cursor} (h : c.rest.head? = none) :
    readTypeTags codec c =
      if codec.limits.allowMissingTypeTags then .ok "" c else .error .missingTypeTags c := by
  rw [readTypeTags, Reader.get_bind, Cursor.peek?, h]
  split_ifs <;> rfl

theorem readTypeTags_of_head?_eq_some {c : Cursor} {mark : UInt8} (h : c.rest.head? = some mark) :
    readTypeTags codec c =
      (if mark = ','.toUInt8 then
          ((fun s => String.ofList (s.toList.drop 1)) <$> Reader.text : Reader String)
        else throw (.missingTypeTagSeparator mark)) c := by
  rw [readTypeTags, Reader.get_bind, Cursor.peek?, h]
  dsimp only
  rw [map_eq_pure_bind]

/-- Type tags are read behind a comma, and may be left out at the end of the bytes. -/
theorem readTypeTags_eq_ok_iff {c c' : Cursor} {tags : String} :
    readTypeTags codec c = .ok tags c' ↔
      (c.rest = [] ∧ codec.limits.allowMissingTypeTags = true ∧ tags = "" ∧ c' = c) ∨
      ∃ d, Layout.text d ("," ++ tags) ∧ c.rest = d ++ c'.rest ∧
        c'.position = c.position + d.length := by
  have hbehind := Reader.recognizes_text.map (fun s => String.ofList (s.toList.drop 1))
  -- a text is never empty, so its first byte is the one that lies ahead
  have hfront : ∀ d s, Layout.text d s → c.rest = d ++ c'.rest → c.rest.head? = d.head? := by
    intro d s htext hrest
    rw [hrest, List.head?_append_of_ne_nil _ (Layout.ne_nil_of_text htext)]
  rcases hhead : c.rest.head? with _ | mark
  · rw [readTypeTags_of_head?_eq_none hhead]
    constructor
    · intro h
      split_ifs at h with hallow
      cases h
      exact .inl ⟨List.head?_eq_none_iff.1 hhead, hallow, rfl, rfl⟩
    · rintro (⟨-, hallow, rfl, rfl⟩ | ⟨d, htext, hrest, -⟩)
      · rw [if_pos hallow]
      · rw [hfront d _ htext hrest, head?_eq_of_text_comma htext] at hhead
        cases hhead
  · rw [readTypeTags_of_head?_eq_some hhead]
    constructor
    · intro h
      split_ifs at h with hm
      · obtain ⟨d, hd, hrest, hpos⟩ := (hbehind _ _ _).1 h
        have hmark : d.head? = some ','.toUInt8 := by
          obtain ⟨s, htext, -⟩ := hd
          rw [← hfront d s htext hrest, hhead, hm]
        exact .inr ⟨d, (text_map_drop_iff hmark).1 hd, hrest, hpos⟩
      · cases h
    · rintro (⟨hnil, -⟩ | ⟨d, htext, hrest, hpos⟩)
      · rw [hnil] at hhead
        cases hhead
      · have hmark := head?_eq_of_text_comma htext
        have hm : mark = ','.toUInt8 := by
          rw [← hfront d _ htext hrest, hhead] at hmark
          exact Option.some.inj hmark
        rw [if_pos hm]
        exact (hbehind _ _ _).2
          ⟨d, (text_map_drop_iff (head?_eq_of_text_comma htext)).2 htext, hrest, hpos⟩

theorem run_eq_ok_iff {α : Type} {r : Reader α} {d : Bytes} {a : α} :
    run r d = .ok a ↔ ∃ c, r (.ofBytes d) = .ok a c := by
  unfold run
  split
  next h => simp [h]
  next h => simp [h]

theorem messageLayout_of_readMessage {d : Bytes} {m : Message} {c : Cursor}
    (h : readMessage codec (.ofBytes d) = .ok m c) : codec.MessageLayout d m := by
  obtain ⟨address, c₁, haddress, h⟩ := Reader.bind_eq_ok.1 h
  obtain ⟨tags, c₂, htags, h⟩ := Reader.bind_eq_ok.1 h
  obtain ⟨arguments, c₃, harguments, h⟩ := Reader.bind_eq_ok.1 h
  obtain ⟨_, c₄, hend, h⟩ := Reader.bind_eq_ok.1 h
  cases h
  obtain ⟨d₁, ⟨htext, hslash⟩, hrest₁, -⟩ := (recognizes_readAddress _ _ _).1 haddress
  obtain ⟨d₃, hlayout, hrest₃, -⟩ := (recognizes_readArguments _ _ _ _ _).1 harguments
  have hnil : c₃.rest = [] := by
    unfold readEnd at hend
    split_ifs at hend with he
    exact List.isEmpty_iff.1 he
  rw [hnil, List.append_nil] at hrest₃
  rcases readTypeTags_eq_ok_iff.1 htags with ⟨hc₁, hallow, rfl, rfl⟩ | ⟨d₂, htext₂, hrest₂, -⟩
  · rw [hc₁, List.append_nil] at hrest₁
    cases hlayout
    obtain rfl : d = d₁ := hrest₁
    exact .untagged hallow htext hslash
  · obtain rfl : d = d₁ ++ d₂ ++ d₃ := by
      rw [List.append_assoc, ← hrest₃, ← hrest₂, ← hrest₁]
      rfl
    exact .tagged htext hslash htext₂ hlayout

theorem readMessage_of_messageLayout {d : Bytes} {m : Message} (h : codec.MessageLayout d m) :
    readMessage codec (.ofBytes d) = .ok m ⟨d.length, []⟩ := by
  cases h with
  | @untagged _ address hallow htext hslash =>
    have haddress : readAddress (.ofBytes d) = .ok address ⟨d.length, []⟩ :=
      (recognizes_readAddress _ _ _).2
        ⟨d, ⟨htext, hslash⟩, (List.append_nil d).symm, (Nat.zero_add _).symm⟩
    have htags : readTypeTags codec ⟨d.length, []⟩ = .ok "" ⟨d.length, []⟩ :=
      readTypeTags_eq_ok_iff.2 (.inl ⟨rfl, hallow, rfl, rfl⟩)
    simp only [readMessage, bind, EStateM.bind, haddress, htags]
    rfl
  | @tagged d₁ d₂ d₃ address tags arguments htext hslash htext₂ hlayout =>
    have haddress := recognizes_readAddress.apply ⟨htext, hslash⟩ 0 (d₂ ++ d₃)
    have htags : readTypeTags codec ⟨0 + d₁.length, d₂ ++ d₃⟩ =
        .ok tags ⟨0 + d₁.length + d₂.length, d₃⟩ :=
      readTypeTags_eq_ok_iff.2 (.inr ⟨d₂, htext₂, rfl, rfl⟩)
    have harguments := (recognizes_readArguments tags tags.toList).apply hlayout
      (0 + d₁.length + d₂.length) []
    rw [List.append_nil] at harguments
    have hlength : (d₁ ++ d₂ ++ d₃).length = 0 + d₁.length + d₂.length + d₃.length := by
      rw [List.length_append, List.length_append, Nat.zero_add]
    rw [hlength, List.append_assoc]
    simp only [readMessage, bind, EStateM.bind, Cursor.ofBytes, haddress, htags, harguments]
    rfl

/-- A message is read from exactly the strings that lay it out. -/
theorem run_readMessage_eq_ok_iff {d : Bytes} {m : Message} :
    run (readMessage codec) d = .ok m ↔ codec.MessageLayout d m := by
  rw [run_eq_ok_iff]
  constructor
  · rintro ⟨c, h⟩
    exact messageLayout_of_readMessage h
  · intro h
    exact ⟨_, readMessage_of_messageLayout h⟩

/-! ### Bundles -/

theorem head?_bundleHeader : bundleHeader.head? = some '#'.toUInt8 := by decide

theorem head?_bundleHeader_append (d : Bytes) :
    (bundleHeader ++ d).head? = some '#'.toUInt8 := by
  rw [List.head?_append, head?_bundleHeader]
  rfl

/-- Which lengths of an element are refused, said of numbers. -/
theorem refused_length_iff {length : Int32} :
    length ≤ 0 ∨ length % 4 ≠ 0 ↔
      length < 0 ∨ length.toInt.toNat = 0 ∨ length.toInt.toNat % 4 ≠ 0 := by
  have hmod : length % 4 ≠ 0 ↔ length.toInt.tmod 4 ≠ 0 := by
    rw [Ne, ← Int32.toInt_inj, Int32.toInt_mod]
    rfl
  rw [hmod, Int32.le_iff_toInt_le, Int32.lt_iff_toInt_lt, Int32.toInt_zero]
  rcases Int.lt_or_le length.toInt 0 with h | h
  · simp [h, Int.le_of_lt h]
  · obtain ⟨n, hn⟩ := Int.eq_ofNat_of_zero_le h
    rw [hn, Int.tmod_eq_emod_of_nonneg (Int.natCast_nonneg n)]
    omega

theorem recognizes_readElement :
    Reader.Recognizes readElement fun d e =>
      IsFramed e ∧ e.length ≤ Bytes.maxLengthPrefix ∧ d = Bytes.bigEndian 4 e.length ++ e := by
  have step : ∀ length : Int32, Reader.Recognizes
      (if length ≤ 0 ∨ length % 4 ≠ 0 then throw (.invalidElementLength length)
        else Reader.take length.toInt.toNat)
      fun d e => ¬ (length ≤ 0 ∨ length % 4 ≠ 0) ∧ d.length = length.toInt.toNat ∧ e = d :=
    fun length => (Reader.recognizes_take _).unless _
  refine (Reader.recognizes_int32.bind step).congr fun d e => ?_
  simp only [refused_length_iff, not_or, not_not]
  constructor
  · rintro ⟨length, _, _, rfl, ⟨⟨hneg, hpos, hmod⟩, hlen, rfl⟩, rfl⟩
    rw [Bytes.toNat_toUInt32_of_nonneg hneg, ← hlen]
    refine ⟨⟨?_, by rwa [hlen]⟩, hlen ▸ Bytes.toNat_toInt_le length, rfl⟩
    rintro rfl
    exact hpos hlen.symm
  · rintro ⟨⟨hne, hmod⟩, hle, rfl⟩
    obtain ⟨length, hneg, hlen⟩ := Bytes.exists_toNat_toInt_eq hle
    refine ⟨length, _, e, rfl, ⟨⟨hneg, ?_, by rwa [hlen]⟩, hlen.symm, rfl⟩, ?_⟩
    · rw [hlen]
      exact fun h => hne (List.length_eq_zero_iff.1 h)
    · rw [Bytes.toNat_toUInt32_of_nonneg hneg, hlen]

theorem readElements_of_rest_eq_nil {decodeElement : Bytes → Except ParseError Packet} {c : Cursor}
    (h : c.rest = []) : readElements decodeElement c = .ok [] := by
  rw [readElements, if_pos (by simp [Cursor.isEmpty, h])]

theorem readElements_of_readElement {decodeElement : Bytes → Except ParseError Packet}
    {c c' : Cursor} {element : Bytes} (h : readElement c = .ok element c') :
    readElements decodeElement c = (do
      let packet ← decodeElement element
      let packets ← readElements decodeElement c'
      return packet :: packets) := by
  have hne : ¬ c.isEmpty = true := by
    intro e
    have := readElement_shortens h
    rw [List.isEmpty_iff.1 e] at this
    exact absurd this (Nat.not_lt_zero _)
  rw [readElements, if_neg hne]
  split
  next hread =>
    rw [h] at hread
    cases hread
  next hread =>
    rw [h] at hread
    cases hread
    rfl

theorem exists_readElement_of_readElements {decodeElement : Bytes → Except ParseError Packet}
    {c : Cursor} {packets : List Packet} (hne : c.rest ≠ [])
    (h : readElements decodeElement c = .ok packets) :
    ∃ element c', readElement c = .ok element c' := by
  rw [readElements, if_neg (by simp [Cursor.isEmpty, hne])] at h
  split at h
  · cases h
  next element c' hread => exact ⟨element, c', hread⟩

/-- When single packets are read as the grammar says, so are the elements of a bundle. -/
theorem readElements_eq_ok_iff {decodeElement : Bytes → Except ParseError Packet} {level : Nat}
    (hdec : ∀ d p, decodeElement d = .ok p ↔ codec.PacketLayout level d p) (c : Cursor)
    (packets : List Packet) :
    readElements decodeElement c = .ok packets ↔ codec.ElementsLayout level c.rest packets := by
  induction hn : c.rest.length using Nat.strongRecOn generalizing c packets with
  | ind n ih =>
    subst hn
    constructor
    · intro h
      by_cases hend : c.rest = []
      · rw [readElements_of_rest_eq_nil hend] at h
        cases h
        rw [hend]
        exact .nil
      obtain ⟨element, c', hread⟩ := exists_readElement_of_readElements hend h
      rw [readElements_of_readElement hread] at h
      simp only [except_bind_eq_ok_iff, except_pure_eq_ok_iff] at h
      obtain ⟨packet, hpacket, rest, hrest, rfl⟩ := h
      obtain ⟨_, ⟨-, hle, rfl⟩, hc, -⟩ := (recognizes_readElement _ _ _).1 hread
      rw [hc]
      exact .cons hle ((hdec _ _).1 hpacket) ((ih _ (readElement_shortens hread) c' _ rfl).1 hrest)
    · intro h
      generalize hrest : c.rest = bytes at h
      cases h with
      | nil => exact readElements_of_rest_eq_nil hrest
      | @cons _ d packet ds packets hle hpacket hpackets =>
        have hread := (recognizes_readElement c d
          ⟨c.position + (Bytes.bigEndian 4 d.length ++ d).length, ds⟩).2
            ⟨_, ⟨hpacket.isFramed, hle, rfl⟩, hrest, rfl⟩
        have htail := (ih _ (readElement_shortens hread) _ packets rfl).2 hpackets
        rw [readElements_of_readElement hread, (hdec d packet).2 hpacket, htail]
        rfl

theorem decodeBundle_eq_ok_iff {decodeElement : Bytes → Except ParseError Packet} {level : Nat}
    (hdec : ∀ d p, decodeElement d = .ok p ↔ codec.PacketLayout level d p) (d : Bytes)
    (p : Packet) :
    decodeBundle decodeElement (bundleHeader ++ d) = .ok p ↔
      ∃ time ds elements, d = Bytes.bigEndian 8 time.raw.toNat ++ ds ∧
        codec.ElementsLayout level ds elements ∧ p = .bundle time elements := by
  have hstart : (Cursor.ofBytes (bundleHeader ++ d)).advance bundleHeader.length =
      ⟨bundleHeader.length, d⟩ := by
    simp [Cursor.ofBytes, Cursor.advance]
  unfold decodeBundle
  rw [hstart]
  constructor
  · intro h
    split at h
    · cases h
    next time c hread =>
      obtain ⟨_, rfl, hrest, -⟩ := (Reader.recognizes_uint64 _ _ _).1 hread
      obtain ⟨elements, helements, h⟩ := except_bind_eq_ok_iff.1 h
      obtain rfl := except_pure_eq_ok_iff.1 h
      exact ⟨⟨time⟩, c.rest, elements, hrest, (readElements_eq_ok_iff hdec c _).1 helements, rfl⟩
  · rintro ⟨time, ds, elements, rfl, hlayout, rfl⟩
    have hread := Reader.recognizes_uint64.apply (rfl : Layout.uint64 _ time.raw)
      bundleHeader.length ds
    rw [hread]
    dsimp only
    rw [(readElements_eq_ok_iff hdec ⟨_, ds⟩ _).2 hlayout]
    rfl

/-! ### Packets -/

theorem decodeWithin_of_isFramed {levels : Nat} {d : Bytes} (h : IsFramed d) :
    decodeWithin codec levels d =
      if d.head? = some '#'.toUInt8 then
        if !bundleHeader.isPrefixOf d then .error .invalidBundleHeader
        else match levels with
          | 0 => .error (.nestingTooDeep codec.limits.maxBundleDepth)
          | levels + 1 => decodeBundle (decodeWithin codec levels) d
      else .message <$> run (readMessage codec) d := by
  rw [← head?_bundleHeader]
  unfold decodeWithin
  exact (if_neg (by simpa using h.1)).trans (if_neg (by simp [h.2]))

theorem isFramed_of_decodeWithin_eq_ok {levels : Nat} {d : Bytes} {p : Packet}
    (h : decodeWithin codec levels d = .ok p) : IsFramed d := by
  unfold decodeWithin at h
  split_ifs at h with hempty hmod
  all_goals exact ⟨by simpa using hempty, by simpa using hmod⟩

/-- Bytes that do not start like a bundle are read as a message. -/
theorem decodeWithin_message_iff {levels level : Nat} {d : Bytes} (hframed : IsFramed d)
    (hmark : d.head? ≠ some '#'.toUInt8) (p : Packet) :
    decodeWithin codec levels d = .ok p ↔ codec.PacketLayout level d p := by
  rw [decodeWithin_of_isFramed hframed, if_neg hmark]
  constructor
  · intro h
    obtain ⟨m, hm, rfl⟩ := except_map_eq_ok_iff.1 h
    exact .message hframed hmark (run_readMessage_eq_ok_iff.1 hm)
  · intro h
    cases h with
    | message _ _ hm =>
      rw [run_readMessage_eq_ok_iff.2 hm]
      rfl
    | bundle _ _ _ =>
      rw [List.append_assoc] at hmark
      exact absurd (head?_bundleHeader_append _) hmark

/-- A bundle is derived only from bytes behind the header, and only where one more level is
allowed. -/
theorem packetLayout_bundle_iff {level : Nat} {d : Bytes} (hframed : IsFramed d)
    (hmark : d.head? = some '#'.toUInt8) (p : Packet) :
    codec.PacketLayout level d p ↔
      level < codec.limits.maxBundleDepth ∧
      ∃ time ds elements, d = bundleHeader ++ (Bytes.bigEndian 8 time.raw.toNat ++ ds) ∧
        codec.ElementsLayout (level + 1) ds elements ∧ p = .bundle time elements := by
  constructor
  · intro h
    cases h with
    | message _ hne _ => exact absurd hmark hne
    | bundle _ hlt helements =>
      exact ⟨hlt, _, _, _, List.append_assoc .., helements, rfl⟩
  · rintro ⟨hlt, time, ds, elements, rfl, helements, rfl⟩
    rw [← List.append_assoc] at hframed ⊢
    exact .bundle hframed hlt helements

/-- Bytes that start like a bundle are read as one, as long as there is a level left for it. -/
theorem decodeWithin_bundle_iff {levels : Nat} {d : Bytes} (hframed : IsFramed d)
    (hmark : d.head? = some '#'.toUInt8) (p : Packet) :
    decodeWithin codec levels d = .ok p ↔
      ∃ left rest, levels = left + 1 ∧ d = bundleHeader ++ rest ∧
        decodeBundle (decodeWithin codec left) (bundleHeader ++ rest) = .ok p := by
  rw [decodeWithin_of_isFramed hframed, if_pos hmark]
  by_cases hheader : bundleHeader.isPrefixOf d
  · obtain ⟨rest, rfl⟩ := List.isPrefixOf_iff_prefix.1 hheader
    rw [hheader, Bool.not_true, if_neg Bool.false_ne_true]
    cases levels with
    | zero => exact iff_of_false nofun (by rintro ⟨_, _, ⟨⟩, -⟩)
    | succ left =>
      constructor
      · intro h
        exact ⟨left, rest, rfl, rfl, h⟩
      · rintro ⟨_, _, ⟨⟩, e, h⟩
        rwa [e]
  · rw [Bool.eq_false_iff.2 hheader, Bool.not_false, if_pos rfl]
    refine iff_of_false nofun ?_
    rintro ⟨_, rest, -, rfl, -⟩
    exact hheader (List.isPrefixOf_iff_prefix.2 (List.prefix_append ..))

/-- With `levels` levels of bundles left, the packets inside `level` bundles are read as the grammar
says. -/
theorem decodeWithin_eq_ok_iff {levels level : Nat}
    (hlevel : level + levels = codec.limits.maxBundleDepth) (d : Bytes) (p : Packet) :
    decodeWithin codec levels d = .ok p ↔ codec.PacketLayout level d p := by
  induction levels using Nat.strongRecOn generalizing level d p with
  | ind levels ih =>
    by_cases hframed : IsFramed d
    swap
    · exact iff_of_false (fun h => hframed (isFramed_of_decodeWithin_eq_ok h))
        (fun h => hframed h.isFramed)
    by_cases hmark : d.head? = some '#'.toUInt8
    swap
    · exact decodeWithin_message_iff hframed hmark p
    rw [packetLayout_bundle_iff hframed hmark, decodeWithin_bundle_iff hframed hmark]
    constructor
    · rintro ⟨left, rest, rfl, rfl, h⟩
      have hdec : ∀ d p, decodeWithin codec left d = .ok p ↔ codec.PacketLayout (level + 1) d p :=
        ih left (Nat.lt_succ_self left) (by omega)
      obtain ⟨time, ds, elements, rfl, helements, rfl⟩ := (decodeBundle_eq_ok_iff hdec _ _).1 h
      exact ⟨by omega, time, ds, elements, rfl, helements, rfl⟩
    · rintro ⟨hlt, time, ds, elements, rfl, helements, rfl⟩
      obtain ⟨left, rfl⟩ : ∃ left, levels = left + 1 := ⟨levels - 1, by omega⟩
      have hdec : ∀ d p, decodeWithin codec left d = .ok p ↔ codec.PacketLayout (level + 1) d p :=
        ih left (Nat.lt_succ_self left) (by omega)
      exact ⟨left, _, rfl, rfl,
        (decodeBundle_eq_ok_iff hdec _ _).2 ⟨time, ds, elements, rfl, helements, rfl⟩⟩

theorem decode_eq_ok_iff {d : Bytes} {p : Packet} :
    codec.decode d = .ok p ↔ decodeWithin codec codec.limits.maxBundleDepth d = .ok p := by
  rw [decode]
  rcases decodeWithin codec codec.limits.maxBundleDepth d with e | q <;> simp [Except.mapError]

/-- Bytes are read as a packet exactly when the grammar derives that packet from them. -/
theorem decode_eq_ok_iff_packetLayout (codec : Codec) (d : Bytes) (p : Packet) :
    codec.decode d = .ok p ↔ codec.PacketLayout 0 d p := by
  rw [decode_eq_ok_iff]
  exact decodeWithin_eq_ok_iff (Nat.zero_add _) d p

end Codec

end OpenSound
