import ImageMetadata.Jpeg.Scan
import ImageMetadata.Tiff.File
import ImageMetadata.Xmp

/-!
# JPEG files

The Exif segments of a JPEG file form one TIFF stream; its first XMP segment is an XMP packet.
-/

namespace ImageMetadata.Jpeg

/-- Collects what a finished search has found. -/
def collect (found : Scan) (policy : Policy) : Action Metadata Unit := do
  Action.when found.exif?.isNone (Outcome.trace .noExif)
  Tiff.collect? found.exif? policy
  Xmp.collect? found.xmp

/-- The metadata of a JPEG file. -/
def metadata (bytes : Bytes) (policy : Policy) : Outcome Metadata := do
  let (outcome, found) := (scan bytes policy.strict).run Scan.start
  outcome
  Metadata.collect .jpeg (collect found policy)

/-- The search comes first, and what it has found is collected. -/
theorem metadata_eq (bytes : Bytes) (policy : Policy) :
    metadata bytes policy =
      ((scan bytes policy.strict).run Scan.start).1 >>= fun _ =>
        Metadata.collect .jpeg
          (collect ((scan bytes policy.strict).run Scan.start).2 policy) := rfl

end ImageMetadata.Jpeg
