/-!
# Addresses

An address is a path of segments behind slashes.  `Address.isValid` says which texts may address a
message, and `splitParts` takes an address or a pattern apart.
-/

namespace OpenSound.Address

/-- The characters that no address may contain. -/
def reserved : List Char := [' ', '#', '*', ',', '?', '[', ']', '\x7b', '\x7d', '\x00']

/-- Whether two slashes follow each other. -/
def hasDoubleSlash : List Char → Bool
  | '/' :: '/' :: _ => true
  | _ :: rest => hasDoubleSlash rest
  | [] => false

/-- Whether the text addresses a message: it starts with a slash, no two slashes follow each other,
and it has no reserved character. -/
def isValid (address : String) : Bool :=
  let path := address.toList
  path.head? = some '/' && !hasDoubleSlash path && !path.any (reserved.contains ·)

/-- The pieces between the occurrences of a character; there is one more of them than of it. -/
def pieces (separator : Char) (path : List Char) : List (List Char) := path.splitOn separator

/-- The segments of a path.  The empty piece in front of a leading slash and the one behind a
trailing slash are no segments; every other empty piece is. -/
def splitParts (path : List Char) : List (List Char) :=
  let parts := pieces '/' path
  let parts := if path.head? = some '/' then parts.drop 1 else parts
  if path.getLast? = some '/' then parts.dropLast else parts

end OpenSound.Address
