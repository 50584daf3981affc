import OpenSound.Argument

/-!
# Packets

A packet is a message, which is an address with arguments, or a bundle, which is a time tag with
packets inside.  A message may carry a `MessageInfo` with the type tags it arrived with.  The info
is derived data: every operation that may change the arguments drops it, and equality ignores it.
-/

namespace OpenSound

/-- The version of the protocol that is spoken here. -/
def protocolVersion : String := "1.1"

/-- What is known about a message besides its content. -/
structure MessageInfo where
  /-- The type tags of the arguments, without the comma in front. -/
  typeTags : String
deriving DecidableEq, Repr, Inhabited

/-- A message: where it goes and what it carries. -/
structure Message where
  address : String
  arguments : List Argument := []
  info : Option MessageInfo := none
deriving Inhabited, Repr

namespace Message

/-- The message with other arguments.  The info no longer describes them and is dropped. -/
def withArguments (m : Message) (arguments : List Argument) : Message :=
  { m with arguments, info := none }

/-- The message with one more argument at the end. -/
def push (m : Message) (argument : Argument) : Message :=
  m.withArguments (m.arguments ++ [argument])

/-- The message with its arguments edited.  Even an edit that changes nothing drops the info. -/
def edit (m : Message) (change : List Argument → List Argument) : Message :=
  m.withArguments (change m.arguments)

/-- The message with the info attached. -/
def withInfo (m : Message) (info : MessageInfo) : Message := { m with info := some info }

/-- The message under another address, with the info it had. -/
def withAddress (m : Message) (address : String) : Message := { m with address }

/-- The type tags of the message: those of the info if there is one, else those of the arguments. -/
def typeTags (m : Message) : String :=
  match m.info with
  | some info => info.typeTags
  | none => String.ofList (Argument.typeTagsOf m.arguments)

/-- The address and the type tags of the message, for a reader. -/
def display (m : Message) : String := m.address ++ " ," ++ m.typeTags

/-- Equality of content: the info plays no part. -/
def agrees (a b : Message) : Bool :=
  a.address = b.address && Argument.agree a.arguments b.arguments

end Message

/-- A packet as it is sent and received. -/
inductive Packet where
  | message (content : Message)
  | bundle (time : TimeTag) (elements : List Packet)
deriving Inhabited, Repr

/-- The content of a bundle. -/
structure Bundle where
  time : TimeTag := .immediate
  elements : List Packet := []
deriving Inhabited, Repr

namespace Packet

instance : Coe Message Packet := ⟨message⟩
instance : Coe Bundle Packet := ⟨fun b => bundle b.time b.elements⟩

def message? : Packet → Option Message
  | message content => some content
  | bundle _ _ => none

def bundle? : Packet → Option Bundle
  | message _ => none
  | bundle time elements => some ⟨time, elements⟩

def isBundle (p : Packet) : Bool := p.bundle?.isSome

/-- Induction on a list of packets and on the lists in its bundles. -/
@[elab_as_elim]
theorem list_induction {P : List Packet → Prop} (nil : P [])
    (message : ∀ m rest, P rest → P (message m :: rest))
    (bundle : ∀ time elements rest, P elements → P rest → P (bundle time elements :: rest)) :
    ∀ packets, P packets
  | [] => nil
  | .message m :: rest => message m rest (list_induction nil message bundle rest)
  | .bundle time elements :: rest =>
    bundle time elements rest (list_induction nil message bundle elements)
      (list_induction nil message bundle rest)

mutual

/-- Equality of packets: time tags and messages agree, place by place. -/
def agrees : Packet → Packet → Bool
  | message a, message b => a.agrees b
  | bundle s a, bundle t b => s = t && agree a b
  | _, _ => false

/-- Lists agree when they have one length and agree place by place. -/
def agree : List Packet → List Packet → Bool
  | [], [] => true
  | a :: as, b :: bs => agrees a b && agree as bs
  | _, _ => false

end

end Packet

namespace Bundle

/-- The bundle with one more element at the end. -/
def push (b : Bundle) (element : Packet) : Bundle := { b with elements := b.elements ++ [element] }

/-- The bundle as the only element of a new one. -/
def wrap (b : Bundle) (time : TimeTag) : Bundle := ⟨time, [b]⟩

end Bundle

end OpenSound
