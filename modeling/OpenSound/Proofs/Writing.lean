import OpenSound.Codec.Encode
import OpenSound.Proofs.Layout

/-!
# What the writer appends

The writer goes through a packet with one string of bytes that grows, and fills in the length of an
element behind its back.  `Codec.encodeWithin` says by recursion on the packet what the writer has
appended in the end, or why it fails (`encoding_eq_encodeWithin`): nothing that was written before
is touched, and a length is put where it belongs.
-/

namespace OpenSound

/-- The writer leaves alone what has been written so far and appends the bytes, or fails as they
do. -/
def Appends (w : Writer Unit) (data : Except EncodeError Bytes) : Prop :=
  ∀ written, w.run written = (fun data => ((), written ++ data)) <$> data

section Appends

variable {α : Type} {w v : Writer Unit} {x y : Except EncodeError Bytes}

theorem appends_pure : Appends (pure ()) (.ok []) := by
  intro written
  show Except.ok ((), written) = .ok ((), written ++ [])
  rw [List.append_nil]

theorem appends_throw (e : EncodeError) : Appends (throw e) (.error e) := fun _ => rfl

theorem appends_put (data : Bytes) : Appends (Writer.put data) (.ok data) := fun _ => rfl

theorem appends_put_lift (x : Except EncodeError Bytes) :
    Appends (do let data ← x; Writer.put data) x := by
  intro written
  rcases x with e | data
  · rfl
  · rfl

theorem Appends.bind (hw : Appends w x) (hv : Appends v y) :
    Appends (do w; v) (do
      let front ← x
      let back ← y
      return front ++ back) := by
  intro written
  rw [StateT.run_bind, hw]
  rcases x with e | front
  · rfl
  · show v.run (written ++ front) = _
    rw [hv]
    rcases y with e | back
    · rfl
    · show Except.ok ((), written ++ front ++ back) = .ok ((), written ++ (front ++ back))
      rw [List.append_assoc]

theorem Appends.put_bind (hv : Appends v y) (front : Bytes) :
    Appends (do Writer.put front; v) (do
      let back ← y
      return front ++ back) := (appends_put front).bind hv

/-- Behind something that is worked out without writing. -/
theorem appends_lift_bind {x : Except EncodeError α} {w : α → Writer Unit}
    {data : α → Except EncodeError Bytes} (h : ∀ a, Appends (w a) (data a)) :
    Appends (do let a ← x; w a) (x >>= data) := by
  intro written
  rcases x with e | a
  · rfl
  · exact h a written

theorem run_sized (w : Writer Unit) (written : Bytes) :
    w.sized.run written = (do
      let (_, all) ← w.run (written ++ [0, 0, 0, 0])
      let size ← Bytes.lengthPrefix? (all.length - written.length - 4)
      return ((), all.take written.length ++ size ++ all.drop (written.length + 4))) := by
  simp [Writer.sized, Writer.put]

/-- The length is put where bytes were left free for it. -/
theorem take_append_drop_reserved (written size data : Bytes) :
    (written ++ [0, 0, 0, 0] ++ data).take written.length ++ size ++
        (written ++ [0, 0, 0, 0] ++ data).drop (written.length + 4) =
      written ++ (size ++ data) := by
  have hlength : (written ++ [0, 0, 0, 0]).length = written.length + 4 := List.length_append
  rw [List.drop_left' hlength, List.append_assoc, List.append_assoc, List.take_left]

theorem Appends.sized (h : Appends w x) :
    Appends w.sized (do
      let data ← x
      let size ← Bytes.lengthPrefix? data.length
      return size ++ data) := by
  intro written
  rw [run_sized, h]
  rcases x with e | data
  · rfl
  · -- what lies behind the bytes left free is the body
    have hlength : (written ++ [0, 0, 0, 0] ++ data).length - written.length - 4 = data.length := by
      simp only [List.length_append, List.length_cons, List.length_nil]
      omega
    show (Bytes.lengthPrefix? ((written ++ [0, 0, 0, 0] ++ data).length - written.length - 4) >>=
      fun size => _) = _
    rw [hlength]
    show _ = (fun data => ((), written ++ data)) <$> (Bytes.lengthPrefix? data.length >>= _)
    rcases Bytes.lengthPrefix? data.length with e | size
    · rfl
    · exact congrArg (fun all => Except.ok ((), all)) (take_append_drop_reserved written size data)

end Appends

namespace Codec

variable (codec : Codec)

mutual

/-- The payload of an argument; that of an array is the payloads of its items. -/
def payload : Argument → Except EncodeError Bytes
  | .array items => payloads items
  | argument => do
    let handler ← codec.handlerFor argument
    handler.encode argument

/-- The payloads of a list of arguments, one after the other. -/
def payloads : List Argument → Except EncodeError Bytes
  | [] => .ok []
  | argument :: rest => do
    let front ← payload argument
    let back ← payloads rest
    return front ++ back

end

/-- The bytes of a message. -/
def encodeMessage (m : Message) : Except EncodeError Bytes :=
  if Address.isValid m.address then do
    let address ← Bytes.paddedText? m.address
    let tags ← codec.typeTags m.arguments
    let tags ← Bytes.paddedText? ("," ++ tags)
    let payload ← codec.payloads m.arguments
    return address ++ tags ++ payload
  else .error (.invalidAddress m.address)

mutual

/-- The bytes of a packet with at most `levels` levels of bundles. -/
def encodeWithin : (levels : Nat) → Packet → Except EncodeError Bytes
  | _, .message m => codec.encodeMessage m
  | 0, .bundle _ _ => .error (.nestingTooDeep codec.limits.maxBundleDepth)
  | levels + 1, .bundle time elements => do
    let body ← encodeElements levels elements
    return bundleHeader ++ Bytes.bigEndian 8 time.raw.toNat ++ body

/-- The elements of a bundle, each behind its length. -/
def encodeElements : (levels : Nat) → List Packet → Except EncodeError Bytes
  | _, [] => .ok []
  | levels, packet :: rest => do
    let element ← encodeWithin levels packet
    let size ← Bytes.lengthPrefix? element.length
    let back ← encodeElements levels rest
    return size ++ element ++ back

end

variable {codec}

theorem writeArgument_of_typeTag? {argument : Argument} {tag : Char}
    (htag : argument.typeTag? = some tag) :
    codec.writeArgument argument = (do
      let handler ← codec.handlerFor argument
      let data ← handler.encode argument
      Writer.put data) := by
  rw [writeArgument]
  rintro items rfl
  cases htag

theorem payload_of_typeTag? {argument : Argument} {tag : Char}
    (htag : argument.typeTag? = some tag) :
    codec.payload argument = (do
      let handler ← codec.handlerFor argument
      handler.encode argument) := by
  rw [payload]
  rintro items rfl
  cases htag

theorem appends_writeArguments (arguments : List Argument) :
    Appends (codec.writeArguments arguments) (codec.payloads arguments) := by
  induction arguments using Argument.list_induction with
  | nil => exact appends_pure
  | leaf argument tag rest htag ih =>
    rw [writeArguments, payloads, writeArgument_of_typeTag? htag, payload_of_typeTag? htag]
    have hleaf := appends_lift_bind (x := codec.handlerFor argument) fun handler =>
      appends_put_lift (handler.encode argument)
    exact hleaf.bind ih
  | array items rest ihItems ih =>
    rw [writeArguments, payloads, writeArgument, payload]
    exact ihItems.bind ih

theorem appends_writeMessage (m : Message) :
    Appends (codec.writeMessage m) (codec.encodeMessage m) := by
  rw [writeMessage, encodeMessage]
  split_ifs
  · refine appends_lift_bind fun address => ?_
    have harguments : Appends (codec.writeArguments m.arguments) (codec.payloads m.arguments) :=
      appends_writeArguments m.arguments
    have htags := fun tags : String =>
      appends_lift_bind (x := Bytes.paddedText? ("," ++ tags)) harguments.put_bind
    have hbehind := (appends_lift_bind (x := codec.typeTags m.arguments) htags).put_bind address
    simpa only [bind_assoc, pure_bind, List.append_assoc] using hbehind
  · exact appends_throw _

theorem appends_bundle {levels : Nat} {elements : List Packet} (time : TimeTag)
    (h : Appends (codec.writeElements levels elements) (codec.encodeElements levels elements)) :
    Appends (codec.writePacket (levels + 1) (.bundle time elements))
      (codec.encodeWithin (levels + 1) (.bundle time elements)) := by
  rw [writePacket, encodeWithin]
  have hbundle := (h.put_bind (Bytes.bigEndian 8 time.raw.toNat)).put_bind bundleHeader
  simpa only [bind_assoc, pure_bind, List.append_assoc] using hbundle

theorem appends_writeElements_cons {levels : Nat} {packet : Packet} {rest : List Packet}
    (hpacket : Appends (codec.writePacket levels packet) (codec.encodeWithin levels packet))
    (hrest : Appends (codec.writeElements levels rest) (codec.encodeElements levels rest)) :
    Appends (codec.writeElements levels (packet :: rest))
      (codec.encodeElements levels (packet :: rest)) := by
  rw [writeElements, encodeElements]
  simpa only [bind_assoc, pure_bind, List.append_assoc] using hpacket.sized.bind hrest

theorem appends_writeElements (levels : Nat) (packets : List Packet) :
    Appends (codec.writeElements levels packets) (codec.encodeElements levels packets) := by
  induction packets using Packet.list_induction generalizing levels with
  | nil => exact appends_pure
  | message m rest ih => exact appends_writeElements_cons (appends_writeMessage m) (ih levels)
  | bundle time elements rest ihElements ih =>
    refine appends_writeElements_cons ?_ (ih levels)
    cases levels with
    | zero => exact appends_throw _
    | succ levels => exact appends_bundle time (ihElements levels)

theorem appends_writePacket (levels : Nat) (packet : Packet) :
    Appends (codec.writePacket levels packet) (codec.encodeWithin levels packet) := by
  cases packet with
  | message m => exact appends_writeMessage m
  | bundle time elements =>
    cases levels with
    | zero => exact appends_throw _
    | succ levels => exact appends_bundle time (appends_writeElements levels elements)

/-- What the writer yields in the end is what the recursion says. -/
theorem encoding_eq_encodeWithin (packet : Packet) :
    codec.encoding packet = codec.encodeWithin codec.limits.maxBundleDepth packet := by
  rw [encoding, appends_writePacket]
  rcases codec.encodeWithin codec.limits.maxBundleDepth packet with e | data
  · rfl
  · rfl

end Codec

end OpenSound
