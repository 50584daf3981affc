import OpenSound.Packet
import OpenSound.Registry

/-!
# Codecs

A codec goes between packets and bytes.  Which types it knows is said by its registry, and which
packets it refuses besides by its limits.
-/

namespace OpenSound

namespace Codec

/-- The header that opens every bundle. -/
def bundleHeader : Bytes := Bytes.ofText "#bundle" ++ [0]

/-- The largest payload of a single datagram. -/
def largestDatagram : Nat := 65507

/-- The nesting allowed unless said otherwise, for bundles and for arrays. -/
def usualDepth : Nat := 64

/-- What a codec lets through. -/
structure Limits where
  /-- The longest packet that is written. -/
  maxPacketSize : Nat := largestDatagram
  /-- Whether a message may end right after its address, and then has no arguments. -/
  allowMissingTypeTags : Bool := true
  /-- The deepest chain of bundles in bundles; the outermost is at level 1. -/
  maxBundleDepth : Nat := usualDepth
  /-- The deepest chain of arrays in arrays; the outermost is at level 1. -/
  maxArrayDepth : Nat := usualDepth
deriving DecidableEq, Repr, Inhabited

end Codec

/-- A registry and limits. -/
structure Codec where
  registry : Registry := .standard
  limits : Codec.Limits := {}

end OpenSound
