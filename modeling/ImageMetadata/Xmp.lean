import ImageMetadata.Metadata
import ImageMetadata.Xml.Document

/-!
# XMP packets

A packet is an XML document that padding may follow. A packet that is not well formed has no tree,
which is reported and nothing more.
-/

namespace ImageMetadata.Xmp

/-- Whether a byte may pad a packet. -/
def isPadding (b : UInt8) : Bool := b == 0 || b == 0x20 || b == 0x09 || b == 0x0D || b == 0x0A

/-- The tree of a packet. -/
def read (packet : Bytes) : Outcome (Option Xml.Document) :=
  match Xml.Document.ofBytes? (packet.trimEnd isPadding) with
  | some tree => return some tree
  | none => do
    Outcome.notify .malformedXmp
    return none

/-- Keeps the tree of a packet, if it has one, in the metadata that is being collected. -/
def collect (packet : Bytes) : Action Metadata Unit := do
  match ← (read packet : Outcome (Option Xml.Document)) with
  | some tree => Metadata.setXmp (some tree)
  | none => return

/-- Keeps the tree of a packet, if there is a packet. -/
def collect? : Option Bytes → Action Metadata Unit
  | some packet => collect packet
  | none => return

end ImageMetadata.Xmp
