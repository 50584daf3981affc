import OpenSound.Address
import OpenSound.Address.Glob
import OpenSound.Text.Quoted

/-!
# Address patterns

A pattern is a path of patterns for segments.  An empty part of it, which two slashes in a row
leave, stands for any number of whole segments.  Patterns are compared by their parts and not by the
text they were made from.
-/

namespace OpenSound

/-- A pattern for addresses, as it was written. -/
structure AddressPattern where
  source : String
deriving Repr, Inhabited

namespace AddressPattern

/-- The patterns for the segments; the empty ones stand for any number of segments. -/
def parts (p : AddressPattern) : List (List Char) := Address.splitParts p.source.toList

/-- Whether one of the ends of the path, from the whole of it down to its last segment, passes a
test of its first segment and of the segments behind it. -/
def anySegment (test : List Char → List (List Char) → Bool) : List (List Char) → Bool
  | [] => false
  | segment :: path => test segment path || anySegment test path

/-- Whether the parts of a pattern stand for the segments of a path. -/
def matchPath (parts path : List (List Char)) : Bool :=
  match parts with
  | [] => path.isEmpty
  | [] :: parts =>
    match _h : parts.dropWhile List.isEmpty with
    | [] => true
    | part :: rest =>
      anySegment (fun segment path => Address.Glob.isMatch part segment && matchPath rest path) path
  | part :: parts =>
    match path with
    | [] => false
    | segment :: path => Address.Glob.isMatch part segment && matchPath parts path
termination_by parts.length
decreasing_by
  · have := (List.dropWhile_suffix List.isEmpty (l := parts)).length_le
    grind
  · simp

/-- Whether the pattern stands for the address. -/
def isMatch (p : AddressPattern) (address : String) : Bool :=
  matchPath p.parts (Address.splitParts address.toList)

/-- Whether a segment is written with one of the signs that stand for something else. -/
def hasSign (part : List Char) : Bool :=
  part.any fun c => c = '*' || c = '?' || c = '[' || c = '\x7b'

/-- Whether the pattern has a part that is not plain text. -/
def isPattern (p : AddressPattern) : Bool :=
  p.parts.any fun part => part.isEmpty || hasSign part

instance : BEq AddressPattern := ⟨fun a b => a.parts == b.parts⟩

instance : Hashable AddressPattern := ⟨fun p => hash (p.parts.map String.ofList)⟩

/-- The pattern for a diagnostic. -/
def display (p : AddressPattern) : String := "AddressPattern(" ++ Text.quoted p.source ++ ")"

end AddressPattern

end OpenSound
