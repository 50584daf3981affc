import Mathlib.Tactic.Common
import OpenSound.Packet.Json
import OpenSound.Proofs.JsonText

/-!
# Packets through JSON

The JSON document of a packet without floating-point numbers is read back as that packet, less its
infos, as long as no more arrays and objects lie inside each other than the reader follows; beyond
that it is read as nothing.  Each reader gives back what the writer of its type was given and counts
the levels on the way down, so the levels it asks for are the depth of what was written.
-/

namespace OpenSound

namespace Json

/-! ### Integers -/

theorem value?_ofInt_natural {n : Nat} (h : n ≤ Numeral.greatest64) :
    (Numeral.ofInt n).value? = some (.natural n) := by
  have hnegative : ¬ (n : Int) < 0 := by omega
  simp [Numeral.value?, Numeral.ofInt, Numeral.isWhole, hnegative,
    OpenSound.Text.natOfDigits_toDigits, h]

theorem value?_ofInt_negative {n : Int} (hn : n < 0) (h : Int64.minValue.toInt ≤ n) :
    (Numeral.ofInt n).value? = some (.negative n.natAbs) := by
  have hpositive : 0 < n.natAbs := by omega
  have hmagnitude : -(n.natAbs : Int) = n := by omega
  simp only [Numeral.value?, Numeral.ofInt, Numeral.isWhole, hn, decide_true,
    OpenSound.Text.natOfDigits_toDigits, hmagnitude, h, hpositive]
  rfl

/-- An integer of 64 bits, with or without sign, is read back between any bounds it lies in. -/
theorem integer?_ofInt {least greatest n : Int} (hleast : least ≤ n) (hgreatest : n ≤ greatest)
    (hmin : Int64.minValue.toInt ≤ least) (hmax : greatest ≤ Numeral.greatest64) :
    (number (.ofInt n)).integer? least greatest = some n := by
  have hvalue : ∃ value, (Numeral.ofInt n).value? = some value ∧ value.toInt? = some n := by
    by_cases hn : n < 0
    · refine ⟨_, value?_ofInt_negative hn (by omega), ?_⟩
      exact congrArg some (by omega)
    · obtain ⟨k, rfl⟩ := Int.eq_ofNat_of_zero_le (Int.not_lt.1 hn)
      exact ⟨_, value?_ofInt_natural (by omega), rfl⟩
  obtain ⟨value, hvalue, hint⟩ := hvalue
  simp [integer?, numberValue?, hvalue, hint, hleast, hgreatest]

theorem integer?_ofNat {bound n : Nat} (h : n < bound) (hmax : bound ≤ Numeral.greatest64 + 1) :
    (number (.ofInt n)).integer? 0 ((bound : Int) - 1) = some (n : Int) := by
  apply integer?_ofInt
  · omega
  · omega
  · decide
  · omega

theorem byte?_toNat (b : UInt8) : (b.toNat : Json).byte? = some b := by
  have hread : (b.toNat : Json).integer? 0 ((256 : Nat) - 1) = some (b.toNat : Int) :=
    integer?_ofNat b.toNat_lt (by decide)
  simp only [byte?, show (255 : Int) = (256 : Nat) - 1 from rfl, hread]
  simp

/-! ### Texts and structures -/

theorem string?_ofString (s : String) : (s : Json).string? = some s := Text.toString?_ofString s

theorem character?_toString (c : Char) : (c.toString : Json).character? = some c := by
  rw [character?, string?_ofString]
  simp

theorem namedFields?_ofFields (fields : List (String × Json)) :
    namedFields? (fields.map fun field => (.ofString field.1, field.2)) = some fields := by
  induction fields with
  | nil => rfl
  | cons field fields ih =>
    unfold namedFields? at ih ⊢
    rw [List.map_cons, List.mapM_cons, ih]
    simp [Text.toString?_ofString]

/-- A structure is read back from an object with its fields. -/
theorem structure?_ofFields {names : List String} {fields : List (String × Json)}
    (known : ∀ field ∈ fields, field.1 ∈ names) (nodup : (fields.map (·.1)).Nodup) :
    (ofFields fields).structure? names = some fields := by
  have hpartition : fields.partition (fun field => names.contains field.1) = (fields, []) := by
    rw [List.partition_eq_filter_filter, List.filter_eq_self.2, List.filter_eq_nil_iff.2]
    · exact fun field hfield => by simp [known field hfield]
    · exact fun field hfield => by simp [known field hfield]
  simp only [ofFields, structure?, namedFields?_ofFields, Option.bind_eq_bind, Option.bind_some,
    hpartition]
  exact if_pos ⟨nodup, rfl⟩

theorem mapM_byte?_map_toNat (data : Bytes) :
    (data.map fun b => (b.toNat : Json)).mapM byte? = some data := by
  induction data with
  | nil => rfl
  | cons b data ih =>
    rw [List.map_cons, List.mapM_cons, ih, byte?_toNat]
    rfl

/-- A row is read from as many levels as its deepest item has. -/
theorem mapM_cons_eq_ite {α : Type} {read : Json → Option α} {levels : Nat} {item : Json}
    {items : List Json} {a : α} {as : List α}
    (first : read item = if item.depth ≤ levels then some a else none)
    (rest : items.mapM read = if depthOf items ≤ levels then some as else none) :
    (item :: items).mapM read =
      if depthOf (item :: items) ≤ levels then some (a :: as) else none := by
  simp only [List.mapM_cons, first, rest, depthOf, Nat.max_le]
  by_cases hitem : item.depth ≤ levels
  · by_cases hitems : depthOf items ≤ levels <;> simp [hitem, hitems]
  · simp [hitem]

/-! ### What is written -/

theorem isWritten_ofFields {fields : List (String × Json)}
    (h : ∀ field ∈ fields, field.2.IsWritten) : (ofFields fields).IsWritten := by
  change FieldsAreWritten _
  induction fields with
  | nil => trivial
  | cons field fields ih =>
    exact ⟨⟨field.1, rfl⟩, h field List.mem_cons_self,
      ih fun other hother => h other (List.mem_cons_of_mem field hother)⟩

theorem isWritten_ofInt (n : Int) : (n : Json).IsWritten := ⟨n, rfl⟩

theorem isWritten_ofString (s : String) : (s : Json).IsWritten := ⟨s, rfl⟩

end Json

/-! ### Kinds -/

theorem Kind.ofKey?_key (kind : Kind) : ofKey? kind.key = some kind := by
  cases kind <;> decide


/-! ### Floating-point numbers and infos -/

namespace Argument

mutual

/-- Whether no floating-point number is among the argument and the items in it. -/
def isFloatFree : Argument → Bool
  | float _ | double _ => false
  | array items => areFloatFree items
  | _ => true

def areFloatFree : List Argument → Bool
  | [] => true
  | argument :: rest => argument.isFloatFree && areFloatFree rest

end

end Argument

namespace Packet

mutual

/-- Whether no floating-point number is among the arguments in the packet. -/
def isFloatFree : Packet → Bool
  | message m => Argument.areFloatFree m.arguments
  | bundle _ elements => areFloatFree elements

def areFloatFree : List Packet → Bool
  | [] => true
  | packet :: rest => packet.isFloatFree && areFloatFree rest

end

mutual

/-- The packet in which no message has an info. -/
def withoutInfo : Packet → Packet
  | message m => message { m with info := none }
  | bundle time elements => bundle time (withoutInfos elements)

def withoutInfos : List Packet → List Packet
  | [] => []
  | packet :: rest => packet.withoutInfo :: withoutInfos rest

end

end Packet

/-! ### Arguments -/

namespace Argument

open Json

theorem depth_bytesJson (data : Bytes) : (bytesJson data).depth = 1 := by
  have hitems : depthOf (data.map fun b => (b.toNat : Json)) = 0 := by
    induction data with
    | nil => rfl
    | cons b data ih => simp [depthOf, depth, ih]
  rw [bytesJson, depth, hitems]

theorem depth_tagged (kind : Kind) (value : Json) : (tagged kind value).depth = value.depth + 1 := by
  simp [tagged, ofFields, depth, fieldDepth]

theorem isWritten_bytesJson (data : Bytes) : (bytesJson data).IsWritten := by
  change AreWritten _
  induction data with
  | nil => trivial
  | cons b data ih => exact ⟨isWritten_ofInt b.toNat, ih⟩

theorem isWritten_tagged (kind : Kind) {value : Json} (h : value.IsWritten) :
    (tagged kind value).IsWritten := by
  apply isWritten_ofFields
  simpa using ⟨isWritten_ofString kind.key, h⟩

theorem bytes?_bytesJson (levels : Nat) (data : Bytes) :
    (bytesJson data).bytes? false levels = if 1 ≤ levels then some data else none := by
  simp only [bytesJson, bytes?, mapM_byte?_map_toNat]
  cases levels <;> rfl

theorem kindOf?_key (levels : Nat) (kind : Kind) :
    kindOf? false levels (kind.key : Json) = some kind := by
  simp [kindOf?, Text.toString?_ofString, Kind.ofKey?_key]

theorem described?_tagged (levels : Nat) (kind : Kind) (value : Json) :
    described? false levels (tagged kind value) = some ⟨kind, some value, false⟩ := by
  have hfields : (tagged kind value).structure? ["type", "value"]
      = some [("type", (kind.key : Json)), ("value", value)] :=
    structure?_ofFields (by simp) (by simp)
  unfold described?
  simp only [tagged, ofFields, List.map_cons, List.map_nil] at hfields ⊢
  rw [hfields]
  simp [List.lookup_cons, kindOf?_key]

theorem described?_untagged (levels : Nat) (kind : Kind) :
    described? false levels (.ofFields [("type", kind.key)]) = some ⟨kind, none, false⟩ := by
  have hfields : (ofFields [("type", (kind.key : Json))]).structure? ["type", "value"]
      = some [("type", (kind.key : Json))] :=
    structure?_ofFields (by simp) (by simp)
  unfold described?
  simp only [ofFields, List.map_cons, List.map_nil] at hfields ⊢
  rw [hfields]
  simp [List.lookup_cons, kindOf?_key]

/-- Four bytes are read back from the object that names them. -/
theorem quad?_ofFields (levels : Nat) {p q r s : String} (h : [p, q, r, s].Nodup)
    (make : UInt8 → UInt8 → UInt8 → UInt8 → Argument) (a b c d : UInt8) :
    (ofFields [(p, a.toNat), (q, b.toNat), (r, c.toNat), (s, d.toNat)]).quad? levels [p, q, r, s] make
      = if 1 ≤ levels then some (make a b c d) else none := by
  have hfields : (ofFields [(p, (a.toNat : Json)), (q, b.toNat), (r, c.toNat),
      (s, d.toNat)]).structure? [p, q, r, s] = some [(p, (a.toNat : Json)), (q, b.toNat),
      (r, c.toNat), (s, d.toNat)] :=
    structure?_ofFields (by simp) h
  simp only [List.nodup_cons, List.mem_cons, not_or, List.not_mem_nil] at h
  obtain ⟨⟨hpq, hpr, hps, -⟩, ⟨hqr, hqs, -⟩, ⟨hrs, -⟩, -⟩ := h
  cases levels with
  | zero => rfl
  | succ levels =>
    rw [quad?, if_neg (Nat.succ_ne_zero levels), hfields]
    simp [List.lookup_cons, byte?_toNat, beq_eq_false_iff_ne.2, Ne.symm, *]

theorem ofJson?_tagged (levels : Nat) {kind : Kind} (value : Json)
    (h : kind ≠ .nil ∧ kind ≠ .impulse ∧ kind ≠ .array) :
    ofJson? false (levels + 1) (tagged kind value) = valued? levels kind false value := by
  unfold ofJson?
  rw [described?_tagged]
  cases kind <;> first | rfl | simp at h

/-- An argument is read back from as many levels as its JSON has, if its value is. -/
theorem ofJson?_of_valued? {kind : Kind} {value : Json} {argument : Argument}
    (h : kind ≠ .nil ∧ kind ≠ .impulse ∧ kind ≠ .array)
    (read : ∀ levels,
      valued? levels kind false value = if value.depth ≤ levels then some argument else none)
    (levels : Nat) :
    ofJson? false levels (tagged kind value) =
      if (tagged kind value).depth ≤ levels then some argument else none := by
  rw [depth_tagged]
  cases levels with
  | zero => rfl
  | succ levels =>
    rw [ofJson?_tagged levels value h, read]
    simp only [Nat.add_le_add_iff_right]

theorem valued?_custom (levels : Nat) (tag : Char) (data : Bytes) :
    valued? levels .custom false (.ofFields [("tag", tag.toString), ("data", bytesJson data)]) =
      if 2 ≤ levels then some (custom tag data) else none := by
  have hfields : (ofFields [("tag", (tag.toString : Json)), ("data", bytesJson data)]).structure?
      ["tag", "data"] = some [("tag", (tag.toString : Json)), ("data", bytesJson data)] :=
    structure?_ofFields (by simp) (by simp)
  cases levels with
  | zero => rfl
  | succ levels =>
    simp only [valued?, ofFields, List.map_cons, List.map_nil] at hfields ⊢
    rw [hfields]
    by_cases h : 1 ≤ levels <;>
      simp [List.lookup_cons, -Char.toString_eq_singleton, character?_toString, bytes?_bytesJson, h]

theorem ofJson?_leaf {argument : Argument} {tag : Char} (h : argument.typeTag? = some tag)
    (free : argument.isFloatFree = true) (levels : Nat) :
    ofJson? false levels argument.toJson =
      if argument.toJson.depth ≤ levels then some argument else none := by
  cases argument with
  | int v =>
    have hread := integer?_ofInt v.minValue_le_toInt v.toInt_le (by decide) (by decide)
    apply ofJson?_of_valued? (by decide)
    intro levels
    rw [valued?, hread]
    simp [depth]
  | unsigned v =>
    have hread := integer?_ofNat v.toNat_lt_size (by decide)
    apply ofJson?_of_valued? (by decide)
    intro levels
    rw [valued?, hread]
    simp [depth]
  | long v =>
    have hread := integer?_ofInt v.minValue_le_toInt v.toInt_le (by decide) (by decide)
    apply ofJson?_of_valued? (by decide)
    intro levels
    rw [valued?, hread]
    simp [depth]
  | timeTag t =>
    have hread := integer?_ofNat t.raw.toNat_lt_size (by decide)
    apply ofJson?_of_valued? (by decide)
    intro levels
    rw [valued?, hread]
    simp [depth]
  | string t =>
    apply ofJson?_of_valued? (by decide)
    intro levels
    simp [valued?, depth, string?_ofString]
  | symbol t =>
    apply ofJson?_of_valued? (by decide)
    intro levels
    simp [valued?, depth, string?_ofString]
  | blob data =>
    apply ofJson?_of_valued? (by decide)
    intro levels
    rw [depth_bytesJson, valued?, bytes?_bytesJson]
    by_cases hlevels : 1 ≤ levels <;> simp [hlevels]
  | bool b =>
    apply ofJson?_of_valued? (by decide)
    intro levels
    rfl
  | char c =>
    apply ofJson?_of_valued? (by decide)
    intro levels
    simp [valued?, depth, byte?_toNat]
  | color c =>
    apply ofJson?_of_valued? (by decide)
    intro levels
    exact quad?_ofFields levels (by decide) _ _ _ _ _
  | midi m =>
    apply ofJson?_of_valued? (by decide)
    intro levels
    exact quad?_ofFields levels (by decide) _ _ _ _ _
  | custom tag data =>
    apply ofJson?_of_valued? (by decide)
    intro levels
    rw [valued?_custom]
    simp [ofFields, depth, fieldDepth, depth_bytesJson]
  | nil =>
    cases levels with
    | zero => rfl
    | succ levels =>
      simp only [toJson, ofJson?, described?_untagged]
      simp [ofFields, depth, fieldDepth]
  | impulse =>
    cases levels with
    | zero => rfl
    | succ levels =>
      simp only [toJson, ofJson?, described?_untagged]
      simp [ofFields, depth, fieldDepth]
  | float bits => cases free
  | double bits => cases free
  | array items => cases h

theorem isWritten_toJson_leaf {argument : Argument} {tag : Char}
    (h : argument.typeTag? = some tag) (free : argument.isFloatFree = true) :
    argument.toJson.IsWritten := by
  cases argument with
  | int v => exact isWritten_tagged _ (isWritten_ofInt v.toInt)
  | unsigned v => exact isWritten_tagged _ (isWritten_ofInt v.toNat)
  | long v => exact isWritten_tagged _ (isWritten_ofInt v.toInt)
  | timeTag t => exact isWritten_tagged _ (isWritten_ofInt t.raw.toNat)
  | char c => exact isWritten_tagged _ (isWritten_ofInt c.toNat)
  | string t => exact isWritten_tagged _ (isWritten_ofString t)
  | symbol t => exact isWritten_tagged _ (isWritten_ofString t)
  | bool b => exact isWritten_tagged _ trivial
  | blob data => exact isWritten_tagged _ (isWritten_bytesJson data)
  | color c =>
    apply isWritten_tagged
    apply isWritten_ofFields
    simp [isWritten_ofInt]
  | midi m =>
    apply isWritten_tagged
    apply isWritten_ofFields
    simp [isWritten_ofInt]
  | custom tag data =>
    apply isWritten_tagged
    apply isWritten_ofFields
    simp [isWritten_ofString, isWritten_bytesJson]
  | nil =>
    apply isWritten_ofFields
    simp [isWritten_ofString]
  | impulse =>
    apply isWritten_ofFields
    simp [isWritten_ofString]
  | float bits => cases free
  | double bits => cases free
  | array items => cases h

theorem areWritten_itemsToJson (arguments : List Argument) (free : areFloatFree arguments = true) :
    AreWritten (itemsToJson arguments) := by
  induction arguments using Argument.list_induction with
  | nil => trivial
  | leaf argument tag rest htag ih =>
    rw [areFloatFree, Bool.and_eq_true] at free
    exact ⟨isWritten_toJson_leaf htag free.1, ih free.2⟩
  | array items rest ihItems ihRest =>
    rw [areFloatFree, Bool.and_eq_true] at free
    exact ⟨isWritten_tagged .array (ihItems free.1), ihRest free.2⟩

theorem ofJson?_array {items : List Argument}
    (read : ∀ levels, (itemsToJson items).mapM (ofJson? false levels) =
      if depthOf (itemsToJson items) ≤ levels then some items else none) (levels : Nat) :
    ofJson? false levels (array items).toJson =
      if (array items).toJson.depth ≤ levels then some (array items) else none := by
  rw [toJson, depth_tagged, depth]
  match levels with
  | 0 => rfl
  | 1 =>
    simp only [ofJson?, described?_tagged]
    simp
  | levels + 2 =>
    simp only [ofJson?, described?_tagged, Option.bind_eq_bind, Option.bind_some, read]
    by_cases h : depthOf (itemsToJson items) ≤ levels <;> simp [h]

/-- Arguments without floating-point numbers are read back from as many levels as their JSON has. -/
theorem mapM_ofJson? (arguments : List Argument) (free : areFloatFree arguments = true)
    (levels : Nat) :
    (itemsToJson arguments).mapM (ofJson? false levels) =
      if depthOf (itemsToJson arguments) ≤ levels then some arguments else none := by
  induction arguments using Argument.list_induction generalizing levels with
  | nil => simp [itemsToJson, depthOf]
  | leaf argument tag rest htag ih =>
    rw [areFloatFree, Bool.and_eq_true] at free
    exact mapM_cons_eq_ite (ofJson?_leaf htag free.1 levels) (ih free.2 levels)
  | array items rest ihItems ihRest =>
    rw [areFloatFree, Bool.and_eq_true] at free
    exact mapM_cons_eq_ite (ofJson?_array (ihItems free.1) levels) (ihRest free.2 levels)

end Argument

/-! ### Messages and packets -/

open Json

theorem Message.ofJson?_toJson (m : Message) (free : Argument.areFloatFree m.arguments = true)
    (levels : Nat) :
    Message.ofJson? levels m.toJson =
      if m.toJson.depth ≤ levels then some { m with info := none } else none := by
  have hfields : m.toJson.structure? ["address", "arguments"] =
      some [("address", (m.address : Json)),
        ("arguments", .array (Argument.itemsToJson m.arguments))] :=
    structure?_ofFields (by simp) (by simp)
  have hdepth : m.toJson.depth = depthOf (Argument.itemsToJson m.arguments) + 2 := by
    simp [toJson, ofFields, depth, fieldDepth]
  rw [hdepth]
  match levels with
  | 0 => rfl
  | 1 =>
    simp only [ofJson?, hfields]
    simp [List.lookup_cons, row?]
  | levels + 2 =>
    have hread := Argument.mapM_ofJson? m.arguments free levels
    simp only [ofJson?, hfields, Option.bind_eq_bind, Option.bind_some]
    by_cases h : depthOf (Argument.itemsToJson m.arguments) ≤ levels <;>
      simp [List.lookup_cons, string?_ofString, row?, h, hread]

namespace Packet

theorem ofJson?_message {m : Message} (free : Argument.areFloatFree m.arguments = true)
    (levels : Nat) :
    ofJson? levels (message m).toJson =
      if (message m).toJson.depth ≤ levels then some (message m).withoutInfo else none := by
  have hdepth : (message m).toJson.depth = m.toJson.depth + 1 := by
    simp [toJson, ofFields, depth, fieldDepth]
  rw [hdepth]
  cases levels with
  | zero => rfl
  | succ levels =>
    have hread := Message.ofJson?_toJson m free levels
    simp only [toJson, ofFields, List.map_cons, List.map_nil]
    unfold ofJson?
    by_cases h : m.toJson.depth ≤ levels <;>
      simp [Text.toString?_ofString, hread, h, withoutInfo]

theorem ofJson?_bundle {time : TimeTag} {elements : List Packet}
    (read : ∀ levels, (elementsToJson elements).mapM (ofJson? levels) =
      if depthOf (elementsToJson elements) ≤ levels then some (withoutInfos elements) else none)
    (levels : Nat) :
    ofJson? levels (bundle time elements).toJson =
      if (bundle time elements).toJson.depth ≤ levels then some (bundle time elements).withoutInfo
      else none := by
  have hfields : (ofFields [("timetag", (time.raw.toNat : Json)),
      ("elements", .array (elementsToJson elements))]).structure? ["timetag", "elements"] =
        some [("timetag", (time.raw.toNat : Json)), ("elements", .array (elementsToJson elements))] :=
    structure?_ofFields (by simp) (by simp)
  have htime := integer?_ofNat time.raw.toNat_lt_size (by decide)
  have hdepth : (bundle time elements).toJson.depth = depthOf (elementsToJson elements) + 3 := by
    simp [toJson, ofFields, depth, fieldDepth]
  rw [hdepth]
  simp only [toJson, ofFields, List.map_cons, List.map_nil] at hfields ⊢
  match levels with
  | 0 => rfl
  | 1 => rw [ofJson?]; simp [Text.toString?_ofString]
  | 2 =>
    simp only [ofJson?, Text.toString?_ofString, Option.bind_eq_bind, Option.bind_some, hfields]
    simp [List.lookup_cons]
  | levels + 3 =>
    simp only [ofJson?, Text.toString?_ofString, Option.bind_eq_bind, Option.bind_some, hfields,
      List.lookup_cons, beq_self_eq_true, htime]
    by_cases h : depthOf (elementsToJson elements) ≤ levels <;> simp [read, h, withoutInfo]

/-- Packets without floating-point numbers are read back from as many levels as their JSON has. -/
theorem mapM_ofJson? (packets : List Packet) (free : areFloatFree packets = true) (levels : Nat) :
    (elementsToJson packets).mapM (ofJson? levels) =
      if depthOf (elementsToJson packets) ≤ levels then some (withoutInfos packets) else none := by
  induction packets using Packet.list_induction generalizing levels with
  | nil => simp [elementsToJson, withoutInfos, depthOf]
  | message m rest ih =>
    rw [areFloatFree, Bool.and_eq_true] at free
    exact mapM_cons_eq_ite (ofJson?_message free.1 levels) (ih free.2 levels)
  | bundle time elements rest ihElements ihRest =>
    rw [areFloatFree, Bool.and_eq_true] at free
    exact mapM_cons_eq_ite (ofJson?_bundle (ihElements free.1) levels) (ihRest free.2 levels)

theorem areWritten_elementsToJson (packets : List Packet) (free : areFloatFree packets = true) :
    AreWritten (elementsToJson packets) := by
  induction packets using Packet.list_induction with
  | nil => trivial
  | message m rest ih =>
    rw [areFloatFree, Bool.and_eq_true] at free
    have harguments : (Json.array (Argument.itemsToJson m.arguments)).IsWritten :=
      Argument.areWritten_itemsToJson m.arguments free.1
    have hmessage : m.toJson.IsWritten := by
      apply isWritten_ofFields
      simpa using ⟨isWritten_ofString m.address, harguments⟩
    refine ⟨?_, ih free.2⟩
    apply isWritten_ofFields
    simpa using hmessage
  | bundle time elements rest ihElements ihRest =>
    rw [areFloatFree, Bool.and_eq_true] at free
    have helements : (Json.array (elementsToJson elements)).IsWritten := ihElements free.1
    refine ⟨?_, ihRest free.2⟩
    apply isWritten_ofFields
    intro field hfield
    rw [List.mem_singleton.1 hfield]
    apply isWritten_ofFields
    simpa using ⟨isWritten_ofInt time.raw.toNat, helements⟩

/-- Both documents of a packet are read as the value they were written from. -/
theorem parse?_jsonText {p : Packet} (free : p.isFloatFree = true) (pretty : Bool) :
    parse? (p.jsonText pretty) = some p.toJson := by
  have hwritten : p.toJson.IsWritten :=
    (areWritten_elementsToJson [p] (by simp [areFloatFree, free])).1
  cases pretty with
  | false => exact parse?_compact hwritten
  | true => exact parse?_pretty hwritten

/-- A packet is read back from as many levels as its JSON has. -/
theorem ofJson?_toJson {p : Packet} (free : p.isFloatFree = true) (levels : Nat) :
    ofJson? levels p.toJson = if p.toJson.depth ≤ levels then some p.withoutInfo else none := by
  cases p with
  | message m => exact ofJson?_message free levels
  | bundle time elements => exact ofJson?_bundle (mapM_ofJson? elements free) levels

/-- The compact and the pretty document of a packet without floating-point numbers are read back as
that packet less its infos, if no more than 127 arrays and objects lie inside each other in them,
and as no packet otherwise. -/
theorem ofJsonText?_jsonText (p : Packet) (pretty : Bool) (free : p.isFloatFree = true) :
    ofJsonText? (p.jsonText pretty) =
      if p.toJson.depth ≤ 127 then some p.withoutInfo else none := by
  unfold ofJsonText?
  rw [parse?_jsonText free]
  exact ofJson?_toJson free 127

/-- A bundle of a message that carries an info and quotes, control characters and nested arrays. -/
def quotedPacket : Packet :=
  .bundle .immediate [
    .message {
      address := "/quoted"
      arguments := [.string "\x07\"é\"", .array [.long Int64.minValue, .array [.nil]],
        .custom '€' [0, 255]]
      info := some ⟨"s[h[N]]€"⟩ }]

/-- Arrays inside each other. -/
def nestedArgument : (levels : Nat) → Argument
  | 0 => .nil
  | levels + 1 => .array [nestedArgument levels]

/-- A message that writes 140 arrays and objects inside each other. -/
def deepPacket : Packet := .message { address := "/deep", arguments := [nestedArgument 68] }

theorem ofJsonText?_jsonText_quotedPacket :
    quotedPacket.isFloatFree = true ∧
      ofJsonText? (quotedPacket.jsonText true) = some quotedPacket.withoutInfo ∧
      deepPacket.isFloatFree = true ∧ deepPacket.toJson.depth = 140 ∧
      ofJsonText? (deepPacket.jsonText false) = none := by
  have hquoted : quotedPacket.isFloatFree = true := by decide
  have hdepth : quotedPacket.toJson.depth ≤ 127 := by decide
  have hdeep : deepPacket.isFloatFree = true := by decide
  have hdeeper : deepPacket.toJson.depth = 140 := by decide +kernel
  have hread := ofJsonText?_jsonText quotedPacket true hquoted
  have hrefused := ofJsonText?_jsonText deepPacket false hdeep
  rw [if_pos hdepth] at hread
  rw [hdeeper, if_neg (by decide)] at hrefused
  exact ⟨hquoted, hread, hdeep, hdeeper, hrefused⟩

end Packet

end OpenSound
