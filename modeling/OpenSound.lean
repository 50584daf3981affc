import OpenSound.Main
import OpenSound.Proofs.Grammar
import OpenSound.Proofs.Slots
import OpenSound.Proofs.Recognition
import OpenSound.Proofs.RoundTrip
import OpenSound.Proofs.Encoding
import OpenSound.Proofs.Canonical
import OpenSound.Proofs.CharClass
import OpenSound.Proofs.Extents
import OpenSound.Proofs.Glob
import OpenSound.Proofs.Path
import OpenSound.Proofs.Traversal
import OpenSound.Proofs.Conservation
import OpenSound.Proofs.Steps
import OpenSound.Proofs.Writing
import OpenSound.Proofs.Eras
import OpenSound.Proofs.Prefixes
import OpenSound.Proofs.Chronicle
import OpenSound.Proofs.Punctuality
import OpenSound.Proofs.Twins
import OpenSound.Proofs.Agreement
import OpenSound.Proofs.Routing
import OpenSound.Proofs.Coherence
import OpenSound.Proofs.Relaxation
import OpenSound.Proofs.Onward
import OpenSound.Proofs.Interruption
import OpenSound.Proofs.Apart
import OpenSound.Proofs.Reception
import OpenSound.Proofs.Enrolment
import OpenSound.Proofs.Pending
import OpenSound.Proofs.JsonText
import OpenSound.Proofs.JsonPacket
import OpenSound.Proofs.HexText
import OpenSound.Proofs.Typing
import OpenSound.Proofs.Payloads
import OpenSound.Proofs.Closeness
import OpenSound.Proofs.TypeTags
import OpenSound.Proofs.Snapshot
import OpenSound.Proofs.Rounding
import OpenSound.Proofs.Delays
import OpenSound.Proofs.Firing
import OpenSound.Proofs.Sinks
import OpenSound.Proofs.Verdicts
import OpenSound.Proofs.Likeness
import OpenSound.Proofs.Spans
import OpenSound.Proofs.Locality
import OpenSound.Proofs.Constructs
import OpenSound.Proofs.Wrapping
import OpenSound.Proofs.Anchoring
import OpenSound.Proofs.Cursors
import OpenSound.Proofs.Literals
import OpenSound.Proofs.Diagnosis
import OpenSound.Proofs.Inverses
