import OpenSound.Codec

/-!
# Reading packets

`Codec.decode` reads a packet.  A message is an address, a string of type tags behind a comma, and
the payloads of the tags in order; brackets among the tags open and close arrays.  A bundle is a
header, a time tag and elements behind their lengths, each of them a packet.  Every message that is
read carries the type tags it was read with.
-/

namespace OpenSound.Codec

variable (codec : Codec)

/-- The arrays being read: the items of the innermost one, the last item first, and those of the
arrays around it, the innermost first. -/
structure OpenArrays where
  items : List Argument := []
  outer : List (List Argument) := []

namespace OpenArrays

/-- Adds an item to the innermost array. -/
def push (arrays : OpenArrays) (item : Argument) : OpenArrays :=
  { arrays with items := item :: arrays.items }

/-- Opens an array inside the innermost one. -/
def opened (arrays : OpenArrays) : OpenArrays := ⟨[], arrays.items :: arrays.outer⟩

/-- Closes the innermost array, which becomes an item of the one around it. -/
def closed? (arrays : OpenArrays) : Option OpenArrays :=
  match arrays.outer with
  | [] => none
  | around :: outer => some ⟨.array arrays.items.reverse :: around, outer⟩

end OpenArrays

/-- The payloads of the type tags `tags`, which end the string `all`. -/
def readArguments (all : String) : (tags : List Char) → OpenArrays → Reader (List Argument)
  | [], arrays =>
    if arrays.outer.isEmpty then pure arrays.items.reverse else throw (.unbalancedArray all)
  | tag :: tags, arrays =>
    if tag = Argument.openBracket then
      if codec.limits.maxArrayDepth ≤ arrays.outer.length then
        throw (.nestingTooDeep codec.limits.maxArrayDepth)
      else readArguments all tags arrays.opened
    else if tag = Argument.closeBracket then
      match arrays.closed? with
      | none => throw (.unbalancedArray all)
      | some arrays => readArguments all tags arrays
    else
      match codec.registry.find? tag with
      | none => throw (.unknownType tag)
      | some handler => do
        let argument ← handler.decode
        readArguments all tags (arrays.push argument)

/-- The address of a message.  Nothing is asked of it but the slash in front. -/
def readAddress : Reader String := do
  let address ← Reader.text
  if address.toList.head? = some '/' then pure address else throw (.invalidAddress address)

/-- The type tags of a message, without the comma in front.  A message that ends here may do without
them if the limits say so. -/
def readTypeTags : Reader String := do
  match (← get).peek? with
  | none => if codec.limits.allowMissingTypeTags then pure "" else throw .missingTypeTags
  | some mark =>
    if mark = ','.toUInt8 then
      let tags ← Reader.text
      pure (String.ofList (tags.toList.drop 1))
    else throw (.missingTypeTagSeparator mark)

/-- Requires that nothing is left. -/
def readEnd : Reader Unit := fun c =>
  if c.isEmpty then .ok () c else .error (.trailingBytes c.remaining) c

/-- A message, up to the end of the bytes. -/
def readMessage : Reader Message := do
  let address ← readAddress
  let tags ← readTypeTags codec
  let arguments ← readArguments codec tags tags.toList {}
  readEnd
  return { address, arguments, info := some ⟨tags⟩ }

/-- The value a reader finds in the bytes when it starts in front of them. -/
def run {α : Type} (reader : Reader α) (data : Bytes) : Except ParseError α :=
  match reader (.ofBytes data) with
  | .ok value _ => .ok value
  | .error cause _ => .error cause

/-- The bytes of one element of a bundle, which stand behind their length. -/
def readElement : Reader Bytes := do
  let length ← Reader.int32
  if length ≤ 0 ∨ length % 4 ≠ 0 then throw (.invalidElementLength length)
  else Reader.take length.toInt.toNat

/-- An element takes up at least its length. -/
theorem readElement_shortens {c c' : Cursor} {element : Bytes}
    (h : readElement c = .ok element c') : c'.rest.length < c.rest.length := by
  simp only [readElement, Reader.bind_eq_ok, Reader.int32, Reader.uint32, Reader.number,
    Reader.map_eq_ok, Reader.take_eq_ok] at h
  obtain ⟨length, c₁, ⟨_, ⟨_, ⟨_, ⟨long, _, rfl⟩, _⟩, _⟩, _⟩, h⟩ := h
  split at h
  · cases h
  · obtain ⟨_, _, rfl⟩ := Reader.take_eq_ok.mp h
    simp only [Cursor.advance, List.length_drop] at *
    omega

/-- The elements of a bundle, up to the end of its bytes, each of them read by `decodeElement`. -/
def readElements (decodeElement : Bytes → Except ParseError Packet) (c : Cursor) :
    Except ParseError (List Packet) :=
  if c.isEmpty then .ok []
  else
    match _h : readElement c with
    | .error cause _ => .error cause
    | .ok element c' => do
      let packet ← decodeElement element
      let packets ← readElements decodeElement c'
      return packet :: packets
termination_by c.rest.length
decreasing_by exact readElement_shortens _h

/-- A bundle behind its header, each element read by `decodeElement`. -/
def decodeBundle (decodeElement : Bytes → Except ParseError Packet) (data : Bytes) :
    Except ParseError Packet :=
  match Reader.uint64 ((Cursor.ofBytes data).advance bundleHeader.length) with
  | .error cause _ => .error cause
  | .ok time c => do
    let elements ← readElements decodeElement c
    return .bundle ⟨time⟩ elements

/-- A packet with at most `levels` levels of bundles. -/
def decodeWithin (levels : Nat) (data : Bytes) : Except ParseError Packet :=
  if data.isEmpty then .error .empty
  else if data.length % 4 ≠ 0 then .error (.unaligned data.length)
  else if data.head? = bundleHeader.head? then
    if !bundleHeader.isPrefixOf data then .error .invalidBundleHeader
    else match levels with
      | 0 => .error (.nestingTooDeep codec.limits.maxBundleDepth)
      | levels + 1 => decodeBundle (decodeWithin levels) data
  else .message <$> run (readMessage codec) data

/-- Reads a packet that takes up all of the bytes. -/
def decode (data : Bytes) : Except Malformed Packet :=
  (decodeWithin codec codec.limits.maxBundleDepth data).mapError (⟨·, data⟩)

end OpenSound.Codec
