import ImageMetadata.Identifier
import ImageMetadata.Tiff.File
import ImageMetadata.Webp.Stream
import ImageMetadata.Xmp

/-!
# WebP files

The first Exif chunk of a WebP file is a TIFF stream, with or without the identifier in front; every
XMP chunk is an XMP packet.
-/

namespace ImageMetadata.Webp

/-- The types that are wanted unless the caller chooses. -/
def defaultWanted : Wanted := .only (["EXIF", "XMP "].map Bytes.ascii)

/-- Collects what one chunk holds. -/
def collectChunk (policy : Policy) (c : Chunk) : Action Metadata Unit :=
  match c.payload with
  | none => return
  | some payload => do
    let m ← Action.state
    if c.fourcc = Bytes.ascii "EXIF" ∧ m.header.isNone then
      match payload.after? exifIdentifier with
      | some stream =>
        Outcome.trace .exifIdentifierStripped
        Tiff.collect stream policy
      | none => Tiff.collect payload policy
    else if c.fourcc = Bytes.ascii "XMP " then Xmp.collect payload
    else return

/-- Collects what chunks hold, in order. -/
def collect (policy : Policy) (chunks : List Chunk) : Action Metadata Unit :=
  Action.each (collectChunk policy) chunks

/-- The metadata of a WebP file. -/
def metadata (bytes : Bytes) (wanted : Wanted) (policy : Policy) : Outcome Metadata := do
  let (outcome, found) := (read bytes wanted).run Progress.start
  outcome
  Metadata.collect .webp (collect policy found.chunks)

/-- The chunks are read first, and what they hold is collected. -/
theorem metadata_eq (bytes : Bytes) (wanted : Wanted) (policy : Policy) :
    metadata bytes wanted policy =
      ((read bytes wanted).run Progress.start).1 >>= fun _ =>
        Metadata.collect .webp
          (collect policy ((read bytes wanted).run Progress.start).2.chunks) := rfl

end ImageMetadata.Webp
