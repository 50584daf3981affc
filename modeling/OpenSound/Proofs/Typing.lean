import Mathlib.Data.List.Forall2
import Mathlib.Tactic.Common
import OpenSound.Argument.Typed
import OpenSound.Command.Run
import OpenSound.Proofs.HexText
import OpenSound.Proofs.RoundTrip

/-!
# Messages typed by hand

`Argument.IsTyped` says which texts stand for an argument: the tag of its type, a colon and its
value, or a word for an argument without one.  The arguments are read from such texts whatever
stands in their strings.  A message that is typed so is written in hexadecimal exactly when the
encoder writes it, and it is read back from what is printed, also with other blanks
(`Command.encode_then_decode`).
-/

namespace OpenSound

/-- A row is read if every item is. -/
theorem mapM_eq_ok_of_forall₂ {α β ε : Type} {read : β → Except ε α} {values : List α}
    {texts : List β} (h : List.Forall₂ (fun value text => read text = .ok value) values texts) :
    texts.mapM read = .ok values := by
  induction h with
  | nil => rfl
  | cons hread hrest ih =>
    rw [List.mapM_cons, hread, ih]
    rfl

namespace Text

/-! ### Integers -/

/-- The ways to write an integer: zeros may stand in front of its digits, and a plus. -/
inductive WritesInt : Int → List Char → Prop
  | plain {digits : List Char} (nonempty : digits ≠ []) (all : ∀ c ∈ digits, c.isDigit = true) :
    WritesInt (natOfDigits digits) digits
  | plus {digits : List Char} (nonempty : digits ≠ []) (all : ∀ c ∈ digits, c.isDigit = true) :
    WritesInt (natOfDigits digits) ('+' :: digits)
  | minus {digits : List Char} (nonempty : digits ≠ []) (all : ∀ c ∈ digits, c.isDigit = true)
    (positive : 0 < natOfDigits digits) : WritesInt (-natOfDigits digits) ('-' :: digits)

theorem exists_writesInt (n : Int) : ∃ text, WritesInt n text := by
  have hdigits := natOfDigits_toDigits n.natAbs
  have hnonempty : Nat.toDigits 10 n.natAbs ≠ [] := Nat.toDigits_ne_nil
  have hall : ∀ c ∈ Nat.toDigits 10 n.natAbs, c.isDigit = true :=
    fun c => Nat.isDigit_of_mem_toDigits (by decide) (by decide)
  by_cases hn : n < 0
  · have hminus := WritesInt.minus hnonempty hall (by omega)
    rw [hdigits, show -(n.natAbs : Int) = n by omega] at hminus
    exact ⟨_, hminus⟩
  · have hplain := WritesInt.plain hnonempty hall
    rw [hdigits, show (n.natAbs : Int) = n by omega] at hplain
    exact ⟨_, hplain⟩

theorem le_foldl_digits (digits : List Char) (magnitude : Nat) :
    magnitude ≤ digits.foldl (fun n c => n * 10 + digitValue c) magnitude := by
  induction digits generalizing magnitude with
  | nil => exact Nat.le_refl _
  | cons c digits ih =>
    rw [List.foldl_cons]
    have := ih (magnitude * 10 + digitValue c)
    omega

/-- With a limit that the number keeps to, all its digits are taken. -/
theorem appendDigits_eq_ok {limit magnitude : Nat} {outside : IntegerError} {digits : List Char}
    (all : ∀ c ∈ digits, c.isDigit = true)
    (h : digits.foldl (fun n c => n * 10 + digitValue c) magnitude ≤ limit) :
    appendDigits limit outside magnitude digits =
      .ok (digits.foldl (fun n c => n * 10 + digitValue c) magnitude) := by
  induction digits generalizing magnitude with
  | nil => rfl
  | cons c digits ih =>
    have hlongest := le_foldl_digits digits (magnitude * 10 + digitValue c)
    rw [List.foldl_cons] at h
    rw [appendDigits, all c List.mem_cons_self, if_neg (by simp), if_neg (by omega),
      ih (fun d hd => all d (List.mem_cons_of_mem c hd)) h, List.foldl_cons]

theorem readMagnitude_eq_ok {limit : Nat} {outside : IntegerError} {digits : List Char}
    (nonempty : digits ≠ []) (all : ∀ c ∈ digits, c.isDigit = true) (h : natOfDigits digits ≤ limit) :
    readMagnitude limit outside digits = .ok (natOfDigits digits) := by
  rw [readMagnitude, if_neg (by simpa using nonempty), appendDigits_eq_ok all h]
  rfl

/-- Between any bounds it keeps to, an integer is read as it is written. -/
theorem readInteger_of_writesInt {least greatest n : Int} {text : List Char} (h : WritesInt n text)
    (hleast : least ≤ n) (hgreatest : n ≤ greatest) : readInteger least greatest text = .ok n := by
  cases h with
  | @plain digits nonempty all =>
    have hread : readMagnitude greatest.toNat .tooLarge text = .ok (natOfDigits text) :=
      readMagnitude_eq_ok nonempty all (by omega)
    obtain ⟨c, rest, rfl⟩ := List.exists_cons_of_ne_nil nonempty
    have hdigit := all c List.mem_cons_self
    unfold readInteger
    split
    · contradiction
    · next heq =>
      rw [(List.cons.inj heq).1] at hdigit
      cases hdigit
    · next heq =>
      rw [(List.cons.inj heq).1] at hdigit
      cases hdigit
    · rw [hread]
      rfl
  | @plus digits nonempty all =>
    rw [readInteger, readMagnitude_eq_ok nonempty all (by omega)]
    rfl
  | @minus digits nonempty all positive =>
    rw [readInteger, if_pos (by omega), readMagnitude_eq_ok nonempty all (by omega)]
    rfl

/-- A decimal digit is a hexadecimal one. -/
theorem hexValue?_of_isDigit {c : Char} (h : c.isDigit = true) :
    hexValue? c = some (c.toNat - '0'.toNat) := by
  simp only [Char.isDigit, Bool.and_eq_true, decide_eq_true_eq] at h
  exact if_pos h

theorem WritesInt.isBlank_eq_false {n : Int} {text : List Char} (h : WritesInt n text) :
    ∀ c ∈ text, isBlank c = false ∧ c ≠ ',' := by
  have hdigit {c : Char} (h : c.isDigit = true) : isBlank c = false ∧ c ≠ ',' := by
    refine ⟨isBlank_of_hexValue? (hexValue?_of_isDigit h), ?_⟩
    rintro rfl
    cases h
  intro c hc
  cases h with
  | plain nonempty all => exact hdigit (all c hc)
  | plus nonempty all =>
    rcases List.mem_cons.1 hc with rfl | hc
    · decide
    · exact hdigit (all c hc)
  | minus nonempty all positive =>
    rcases List.mem_cons.1 hc with rfl | hc
    · decide
    · exact hdigit (all c hc)

/-! ### Rows of bytes -/

/-- The text is a byte with blanks around it. -/
def WritesByte (b : UInt8) (text : List Char) : Prop :=
  ∃ lead digits trail, (∀ c ∈ lead, isBlank c = true) ∧ WritesInt b.toNat digits ∧
    (∀ c ∈ trail, isBlank c = true) ∧ text = lead ++ digits ++ trail

/-- The text is a row of bytes with commas between them. -/
def WritesRow (bytes : List UInt8) (text : List Char) : Prop :=
  ∃ parts, List.Forall₂ WritesByte bytes parts ∧ text = [','].intercalate parts

theorem trim_surrounded {lead word trail : List Char} (hlead : ∀ c ∈ lead, isBlank c = true)
    (hword : ∀ c ∈ word, isBlank c = false) (htrail : ∀ c ∈ trail, isBlank c = true) :
    trim (lead ++ word ++ trail) = word := by
  rw [trim, List.append_assoc, List.dropWhile_append_of_pos hlead]
  cases word with
  | nil => simp [List.dropWhile_eq_nil_iff.2 htrail]
  | cons c word =>
    have hback : (c :: word).reverse.dropWhile isBlank = (c :: word).reverse := by
      rw [List.dropWhile_eq_self_iff]
      intro hlength
      exact Bool.eq_false_iff.1 (hword _ (List.mem_reverse.1 (List.getElem_mem hlength)))
    rw [List.cons_append, List.dropWhile_cons_of_neg (by simp [hword]), ← List.cons_append,
      List.reverse_append, List.dropWhile_append_of_pos (by simpa using htrail), hback,
      List.reverse_reverse]

theorem splitCommas_eq_splitOn (text : List Char) :
    Argument.splitCommas text = text.splitOn ',' := by
  induction text with
  | nil => rfl
  | cons c text ih =>
    rw [List.splitOn, List.splitOnP_cons_eq_if_modifyHead, ← List.splitOn, ← ih]
    have hnonempty : Argument.splitCommas text ≠ [] := by
      rw [ih]
      exact List.splitOn_ne_nil _ _
    obtain ⟨part, parts, hparts⟩ := List.exists_cons_of_ne_nil hnonempty
    unfold Argument.splitCommas at hparts ⊢
    rw [List.foldr_cons, hparts]
    by_cases hc : c = ','
    · subst hc
      rfl
    · simp [hc]

theorem WritesByte.comma_not_mem {b : UInt8} {text : List Char} (h : WritesByte b text) :
    ',' ∉ text := by
  obtain ⟨lead, digits, trail, hlead, hdigits, htrail, rfl⟩ := h
  simp only [List.mem_append, not_or]
  refine ⟨⟨fun hmem => ?_, fun hmem => ?_⟩, fun hmem => ?_⟩
  · cases hlead ',' hmem
  · exact (hdigits.isBlank_eq_false ',' hmem).2 rfl
  · cases htrail ',' hmem

theorem readInteger_trim_of_writesByte {b : UInt8} {text : List Char} (h : WritesByte b text) :
    readInteger 0 255 (trim text) = .ok b.toNat := by
  obtain ⟨lead, digits, trail, hlead, hdigits, htrail, rfl⟩ := h
  have hb := b.toNat_lt
  rw [trim_surrounded hlead (fun c hc => (hdigits.isBlank_eq_false c hc).1) htrail]
  exact readInteger_of_writesInt hdigits (by omega) (by omega)

theorem splitCommas_of_writesByte {bytes : List UInt8} {parts : List (List Char)}
    (h : List.Forall₂ WritesByte bytes parts) (nonempty : parts ≠ []) :
    Argument.splitCommas ([','].intercalate parts) = parts := by
  have hparts : ∀ part ∈ parts, ',' ∉ part := by
    clear nonempty
    induction h with
    | nil => simp
    | cons hbyte hrest ih => simpa using ⟨hbyte.comma_not_mem, ih⟩
  rw [splitCommas_eq_splitOn, List.splitOn_intercalate ',' hparts nonempty]

/-- Four bytes in a row are read as they are written. -/
theorem quadOf_of_writesRow {a b c d : UInt8} {text : List Char} (h : WritesRow [a, b, c, d] text) :
    Argument.quadOf text = .ok (a, b, c, d) := by
  obtain ⟨parts, hparts, rfl⟩ := h
  have hsplit := splitCommas_of_writesByte hparts (by rintro rfl; cases hparts)
  unfold Argument.quadOf
  dsimp only
  rw [hsplit, mapM_eq_ok_of_forall₂ (hparts.imp fun byte part hbyte => ?_)]
  · rfl
  · rw [readInteger_trim_of_writesByte hbyte]
    simp

theorem exists_writesRow (bytes : List UInt8) : ∃ text, WritesRow bytes text := by
  have hbyte (b : UInt8) : ∃ part, WritesByte b part := by
    obtain ⟨digits, hdigits⟩ := exists_writesInt b.toNat
    exact ⟨digits, [], digits, [], by simp, hdigits, by simp, by simp⟩
  obtain ⟨parts, hparts⟩ : ∃ parts, List.Forall₂ WritesByte bytes parts := by
    induction bytes with
    | nil => exact ⟨[], .nil⟩
    | cons b bytes ih =>
      obtain ⟨part, hpart⟩ := hbyte b
      obtain ⟨parts, hparts⟩ := ih
      exact ⟨part :: parts, .cons hpart hparts⟩
  exact ⟨_, parts, hparts, rfl⟩

end Text

/-! ### Arguments -/

namespace Argument

open Text

/-- Whether the argument can be typed: it is no floating-point number, no array and of no extension
type, and a character belongs to ASCII. -/
def isTypable : Argument → Bool
  | float _ | double _ | array _ | custom _ _ => false
  | char code => code < 128
  | _ => true

/-- The ways to type an argument.  Decimal digits write integers and the bytes in a row, and
hexadecimal digits a blob; the text of a string or symbol may be any. -/
inductive IsTyped : Argument → String → Prop
  | int {v : Int32} {text : String} (h : WritesInt v.toInt text.toList) :
    IsTyped (.int v) ("i:" ++ text)
  | unsigned {v : UInt32} {text : String} (h : WritesInt v.toNat text.toList) :
    IsTyped (.unsigned v) ("u:" ++ text)
  | long {v : Int64} {text : String} (h : WritesInt v.toInt text.toList) :
    IsTyped (.long v) ("h:" ++ text)
  | string (text : String) : IsTyped (.string text) ("s:" ++ text)
  | symbol (text : String) : IsTyped (.symbol text) ("S:" ++ text)
  | blob {data : Bytes} {digits : List Char} {text : String} (hdigits : SpellsBytes data digits)
    (h : Respaces digits text.toList) : IsTyped (.blob data) ("b:" ++ text)
  | timeTag {tag : TimeTag} {text : String} (h : WritesInt tag.raw.toNat text.toList) :
    IsTyped (.timeTag tag) ("t:" ++ text)
  | char {code : UInt8} (h : code < 128) :
    IsTyped (.char code) ("c:" ++ String.singleton (Char.ofNat code.toNat))
  | midi {m : MidiMessage} {text : String} (h : WritesRow m.toBytes text.toList) :
    IsTyped (.midi m) ("m:" ++ text)
  | color {c : Color} {text : String} (h : WritesRow c.toBytes text.toList) :
    IsTyped (.color c) ("r:" ++ text)
  | true {text : String} (h : text = "T" ∨ text = "true") : IsTyped (.bool true) text
  | false {text : String} (h : text = "F" ∨ text = "false") : IsTyped (.bool false) text
  | nil {text : String} (h : text = "N" ∨ text = "nil") : IsTyped .nil text
  | impulse {text : String} (h : text = "I" ∨ text = "impulse") : IsTyped .impulse text

/-- Whatever the argument holds, there is a text for it. -/
theorem exists_isTyped {argument : Argument} (h : argument.isTypable = true) :
    ∃ text, IsTyped argument text := by
  have hint (n : Int) : ∃ text : String, WritesInt n text.toList := by
    obtain ⟨digits, hdigits⟩ := exists_writesInt n
    exact ⟨String.ofList digits, by simpa using hdigits⟩
  have hrow (bytes : List UInt8) : ∃ text : String, WritesRow bytes text.toList := by
    obtain ⟨row, hrow⟩ := exists_writesRow bytes
    exact ⟨String.ofList row, by simpa using hrow⟩
  cases argument with
  | int v => exact (hint v.toInt).elim fun _ h => ⟨_, .int h⟩
  | unsigned v => exact (hint v.toNat).elim fun _ h => ⟨_, .unsigned h⟩
  | long v => exact (hint v.toInt).elim fun _ h => ⟨_, .long h⟩
  | timeTag tag => exact (hint tag.raw.toNat).elim fun _ h => ⟨_, .timeTag h⟩
  | string text => exact ⟨_, .string text⟩
  | symbol text => exact ⟨_, .symbol text⟩
  | blob data =>
    have hspaces : Respaces (hexOfBytes data) (String.ofList (hexOfBytes data)).toList := by
      rw [String.toList_ofList]
      exact .bare rfl
    exact ⟨_, .blob (spellsBytes_hexOfBytes data) hspaces⟩
  | char code => exact ⟨_, .char (of_decide_eq_true h)⟩
  | midi m => exact (hrow m.toBytes).elim fun _ h => ⟨_, .midi h⟩
  | color c => exact (hrow c.toBytes).elim fun _ h => ⟨_, .color h⟩
  | bool value =>
    cases value with
    | true => exact ⟨_, .true (.inl rfl)⟩
    | false => exact ⟨_, .false (.inl rfl)⟩
  | nil => exact ⟨_, .nil (.inl rfl)⟩
  | impulse => exact ⟨_, .impulse (.inl rfl)⟩
  | float bits => cases h
  | double bits => cases h
  | array items => cases h
  | custom tag data => cases h

theorem exists_forall₂_isTyped {arguments : List Argument}
    (h : ∀ argument ∈ arguments, argument.isTypable = true) :
    ∃ texts, List.Forall₂ IsTyped arguments texts := by
  induction arguments with
  | nil => exact ⟨[], .nil⟩
  | cons argument rest ih =>
    obtain ⟨text, htext⟩ := exists_isTyped (h argument List.mem_cons_self)
    obtain ⟨texts, htexts⟩ := ih fun other hother => h other (List.mem_cons_of_mem argument hother)
    exact ⟨text :: texts, .cons htext htexts⟩

/-- No word has a colon as its second character. -/
theorem ofWord?_of_toList {text : String} {tag : Char} {value : List Char}
    (h : text.toList = tag :: ':' :: value) : ofWord? text = none := by
  have hne (word : String) (hword : word.toList[1]? ≠ some ':') : text ≠ word := by
    rintro rfl
    exact hword (by rw [h]; rfl)
  simp [ofWord?, hne]

/-- A tag, a colon and a value are read as the tag says. -/
theorem ofTyped_of_ofTagged? (tag : Char) {label text : String} {argument : Argument} {now : Instant}
    (hlabel : label.toList = [tag, ':']) (htag : tag ≠ ':')
    (h : ofTagged? now tag text.toList = some (.ok argument)) :
    ofTyped now (label ++ text) = .ok argument := by
  have htext : (label ++ text).toList = tag :: ':' :: text.toList := by
    rw [String.toList_append, hlabel]
    rfl
  unfold ofTyped
  rw [ofWord?_of_toList htext, htext]
  simp [h]

/-- The words for a moment are no integers. -/
theorem timeTagOf_of_writesInt (now : Instant) {tag : TimeTag} {text : List Char}
    (h : WritesInt tag.raw.toNat text) : timeTagOf now text = .ok tag := by
  have hraw := tag.raw.toNat_lt_size
  have hread : readInteger 0 (UInt64.size - 1) text = .ok tag.raw.toNat :=
    readInteger_of_writesInt h (by omega) (by omega)
  have hword {word : String}
      (hword : readInteger 0 (UInt64.size - 1) word.toList = .error .invalidDigit) :
      text ≠ word.toList := by
    rintro rfl
    rw [hword] at hread
    cases hread
  have hnow : text ≠ "now".toList := hword rfl
  have himmediate : text ≠ "immediate".toList := hword rfl
  rw [timeTagOf, if_neg hnow, if_neg himmediate, hread]
  simp

/-- What is typed is read as what it stands for. -/
theorem ofTyped_of_isTyped (now : Instant) {argument : Argument} {text : String}
    (h : IsTyped argument text) : ofTyped now text = .ok argument := by
  cases h with
  | @int v text h =>
    have hread := readInteger_of_writesInt h v.minValue_le_toInt v.toInt_le
    apply ofTyped_of_ofTagged? 'i' rfl (by decide)
    simp only [ofTagged?, hread, Except.map, Except.mapError, Int32.ofInt_toInt]
  | @unsigned v text h =>
    have hv := v.toNat_lt_size
    have hread : readInteger 0 (UInt32.size - 1) text.toList = .ok v.toNat :=
      readInteger_of_writesInt h (by omega) (by omega)
    apply ofTyped_of_ofTagged? 'u' rfl (by decide)
    simp only [ofTagged?, hread, Except.map, Except.mapError, Int.toNat_natCast, UInt32.ofNat_toNat]
  | @long v text h =>
    have hread := readInteger_of_writesInt h v.minValue_le_toInt v.toInt_le
    apply ofTyped_of_ofTagged? 'h' rfl (by decide)
    simp only [ofTagged?, hread, Except.map, Except.mapError, Int64.ofInt_toInt]
  | string text =>
    apply ofTyped_of_ofTagged? 's' rfl (by decide)
    simp only [ofTagged?, String.ofList_toList]
  | symbol text =>
    apply ofTyped_of_ofTagged? 'S' rfl (by decide)
    simp only [ofTagged?, String.ofList_toList]
  | @blob data digits text hdigits h =>
    have hread := readHex_of_respaces hdigits h
    apply ofTyped_of_ofTagged? 'b' rfl (by decide)
    simp only [ofTagged?, String.ofList_toList, hread, Except.map, Except.mapError]
  | @timeTag tag text h =>
    have htag := timeTagOf_of_writesInt now h
    apply ofTyped_of_ofTagged? 't' rfl (by decide)
    simp only [ofTagged?, htag, Except.map_ok]
  | @char code h =>
    have hcode : code.toNat < 128 := h
    have hall : ∀ n < 128, (Char.ofNat n).toNat = n := by decide
    apply ofTyped_of_ofTagged? 'c' rfl (by decide)
    simp [ofTagged?, hall code.toNat hcode, hcode]
  | @midi m text h =>
    apply ofTyped_of_ofTagged? 'm' rfl (by decide)
    rw [ofTagged?, quadOf_of_writesRow h]
    rfl
  | @color c text h =>
    apply ofTyped_of_ofTagged? 'r' rfl (by decide)
    rw [ofTagged?, quadOf_of_writesRow h]
    rfl
  | true h =>
    unfold ofTyped
    rcases h with rfl | rfl <;> rfl
  | false h =>
    unfold ofTyped
    rcases h with rfl | rfl <;> rfl
  | nil h =>
    unfold ofTyped
    rcases h with rfl | rfl <;> rfl
  | impulse h =>
    unfold ofTyped
    rcases h with rfl | rfl <;> rfl

theorem haveAsciiChars_of_isTypable {arguments : List Argument}
    (h : ∀ argument ∈ arguments, argument.isTypable = true) : haveAsciiChars arguments = true := by
  induction arguments with
  | nil => rfl
  | cons argument rest ih =>
    have hfirst := h argument List.mem_cons_self
    have hrest := ih fun other hother => h other (List.mem_cons_of_mem argument hother)
    rw [haveAsciiChars, hrest, Bool.and_true]
    cases argument with
    | char code => exact hfirst
    | array items => cases hfirst
    | _ => rfl

end Argument

/-! ### Commands -/

namespace Command

variable {now : Instant} {address : String} {arguments : List Argument} {texts : List String}

/-- What is written for a message of such arguments is decoded as that message. -/
theorem decode_eq_ok_described {codec : Codec} {data : Bytes}
    (typable : ∀ argument ∈ arguments, argument.isTypable = true)
    (h : codec.encode (.message { address, arguments }) = .ok data) :
    codec.decode data = .ok (.message (Message.described { address, arguments })) := by
  unfold Codec.encode Codec.encodeFitting at h
  obtain ⟨written, hwritten, h⟩ := except_bind_eq_ok_iff.1 h
  split_ifs at h
  obtain rfl := except_pure_eq_ok_iff.1 h
  have hascii : (Packet.message { address, arguments }).hasAsciiChars = true :=
    Argument.haveAsciiChars_of_isTypable typable
  have hlayout : codec.PacketLayout 0 data (.message (Message.described { address, arguments })) :=
    Codec.packetLayout_of_encoding hascii hwritten
  exact Codec.decode_eq_ok_iff.2 ((Codec.decodeWithin_eq_ok_iff (Nat.zero_add _) data _).2 hlayout)

/-- What the program prints for a message, and how it fails. -/
theorem run_encode (settings : Settings) (address : String)
    (h : List.Forall₂ (fun argument text => Argument.ofTyped now text = .ok argument)
      arguments texts) :
    run settings now (.encode address texts none) =
      match ({ limits := settings.codec } : Codec).encode (.message { address, arguments }) with
      | .ok data => { outputs := [{ text := String.ofList (Text.hexOfBytes data) ++ "\n" }] }
      | .error cause => { failure := some (.encoding cause) } := by
  have harguments : texts.mapM (fun text => (Argument.ofTyped now text).mapError
      CommandError.argument) = .ok arguments :=
    mapM_eq_ok_of_forall₂ (h.imp fun argument text hread => by rw [hread]; rfl)
  rw [run, encoded, harguments]
  change Outcome.ofExcept ((Codec.encode _ (.message { address, arguments })).mapError
    CommandError.encoding >>= _) = _
  rcases ({ limits := settings.codec } : Codec).encode (.message { address, arguments })
    with cause | data <;> rfl

/-- What is typed for arguments is read as these arguments.  The message of them is written exactly
when the encoder writes it, and what is printed then, with any blanks among the digits and perhaps
the mark in front, is decoded as that message. -/
theorem encode_then_decode (settings : Settings) (now : Instant) (address : String)
    (arguments : List Argument) (typable : ∀ argument ∈ arguments, argument.isTypable = true) :
    (∃ texts, List.Forall₂ Argument.IsTyped arguments texts) ∧
    ∀ texts, List.Forall₂ Argument.IsTyped arguments texts →
      List.Forall₂ (fun argument text => Argument.ofTyped now text = .ok argument) arguments texts ∧
      let codec : Codec := { limits := settings.codec }
      let message : Message := { address, arguments }
      let outcome := run settings now (.encode address texts none)
      (outcome.failure = none ↔ ∃ data, codec.encode (.message message) = .ok data) ∧
      (outcome.failure = none → ∀ text, Text.Respaces outcome.text.toList text.toList →
        ∃ data, codec.encode (.message message) = .ok data ∧ readHex text = .ok data ∧
          codec.decode data = .ok (.message message.described)) := by
  refine ⟨Argument.exists_forall₂_isTyped typable, fun texts htyped => ?_⟩
  have hread := htyped.imp fun argument text => Argument.ofTyped_of_isTyped now
  have hrun := run_encode settings address hread
  refine ⟨hread, ?_⟩
  dsimp only
  rw [hrun]
  rcases hencode : ({ limits := settings.codec } : Codec).encode (.message { address, arguments })
    with cause | data
  · refine ⟨⟨fun h => ?_, fun ⟨data, h⟩ => ?_⟩, fun h => ?_⟩
    · cases h
    · cases h
    · cases h
  · refine ⟨⟨fun _ => ⟨data, rfl⟩, fun _ => rfl⟩, fun _ text htext => ⟨data, rfl, ?_, ?_⟩⟩
    · have hdigits : Text.Respaces (Text.hexOfBytes data) text.toList := by
        apply htext.of_filter_eq
        have hline : Text.isBlank '\n' = true := by decide
        simp [Outcome.text, hline]
      rw [readHex, Text.readHex_of_respaces (Text.spellsBytes_hexOfBytes data) hdigits]
      rfl
    · exact decode_eq_ok_described typable hencode

/-- Arguments with a colon, a keyword and blanks in what is typed. -/
def typedArguments : List Argument := [.string "a:b T", .long (-9), .blob [0xca, 0xfe], .impulse]

def typedTexts : List String := ["s:a:b T", "h:-09", "b: 0xCA fE", "impulse"]

def typedBytes : Bytes :=
  Bytes.ofText "/typed" ++ [0, 0] ++ Bytes.ofText ",shbI" ++ [0, 0, 0] ++
    Bytes.ofText "a:b T" ++ [0, 0, 0] ++ [255, 255, 255, 255, 255, 255, 255, 247] ++
    [0, 0, 0, 2, 0xca, 0xfe, 0, 0]

theorem isTyped_typedTexts : List.Forall₂ Argument.IsTyped typedArguments typedTexts := by
  have hlong : Argument.IsTyped (.long (-9)) ("h:" ++ "-09") :=
    .long (@Text.WritesInt.minus ['0', '9'] (by simp) (by simp) (by decide))
  have hdigits : Text.SpellsBytes [0xca, 0xfe] ['C', 'A', 'f', 'E'] :=
    .cons (by decide) (by decide) (.cons (by decide) (by decide) .nil)
  have hblank : Text.isBlank ' ' = true := by decide
  have hspaces : Text.Respaces ['C', 'A', 'f', 'E'] " 0xCA fE".toList :=
    @Text.Respaces.marked _ [' '] ['C', 'A', ' ', 'f', 'E'] (by simp [hblank]) (by decide)
  exact .cons (.string "a:b T") (.cons hlong (.cons (.blob hdigits hspaces)
    (.cons (.impulse (.inr rfl)) .nil)))

theorem encode_then_decode_typedTexts :
    (∀ argument ∈ typedArguments, argument.isTypable = true) ∧
      (run {} ⟨0⟩ (.encode "/typed" typedTexts none)).failure = none ∧
      ∃ data, ({} : Codec).encode (.message { address := "/typed", arguments := typedArguments })
          = .ok data ∧
        readHex ("0x" ++ (run {} ⟨0⟩ (.encode "/typed" typedTexts none)).text) = .ok data ∧
        ({} : Codec).decode data =
          .ok (.message (Message.described { address := "/typed", arguments := typedArguments })) := by
  have htypable : ∀ argument ∈ typedArguments, argument.isTypable = true := by
    simp [typedArguments, Argument.isTypable]
  have hsome : ∃ data, ({} : Codec).encode
      (.message { address := "/typed", arguments := typedArguments }) = .ok data :=
    ⟨typedBytes, by decide +kernel⟩
  obtain ⟨-, htexts⟩ := encode_then_decode {} ⟨0⟩ "/typed" typedArguments htypable
  obtain ⟨-, hwritten, hback⟩ := htexts typedTexts isTyped_typedTexts
  have hnone := hwritten.2 hsome
  refine ⟨htypable, hnone, hback hnone _ ?_⟩
  rw [String.toList_append]
  exact @Text.Respaces.marked _ [] _ (by simp) rfl

end Command

end OpenSound
