import ImageMetadata.Heif.Items
import ImageMetadata.Tiff.File
import ImageMetadata.Xmp

/-!
# HEIF files

The Exif item of a HEIF file is a TIFF stream. An XMP item that cannot be read is passed over.
-/

namespace ImageMetadata.Heif

/-- The XMP packet of a file; one that cannot be read counts as missing. -/
def packet? (s : Session) (strict : Bool) : Outcome (Option Bytes) :=
  (Session.xmpPacket.run s).1.rescue fun cause => do
    Outcome.flag strict (.unreadableXmp cause)
    return none

/-- Collects what the items of a file hold. -/
def collect (s : Session) (policy : Policy) : Action Metadata Unit := do
  let (exif, s) := Session.exifPayload.run s
  Tiff.collect? (← (exif : Outcome (Option Bytes))) policy
  Xmp.collect? (← (packet? s policy.strict : Outcome (Option Bytes)))

/-- The Exif item comes first; the XMP item is looked for in the session that it leaves. -/
theorem collect_eq (s : Session) (policy : Policy) :
    collect s policy = (do
      Tiff.collect? (← (Session.exifPayload.run s).1) policy
      Xmp.collect? (← packet? (Session.exifPayload.run s).2 policy.strict)) := rfl

/-- The metadata of a HEIF file. -/
def metadata (bytes : Bytes) (policy : Policy) : Outcome Metadata := do
  let (outcome, s) := (Session.readAll policy.limit).run (Session.start bytes policy.strict)
  outcome
  Metadata.collect .heif (collect s policy)

/-- The boxes are read first, and what the items hold is collected. -/
theorem metadata_eq (bytes : Bytes) (policy : Policy) :
    metadata bytes policy =
      ((Session.readAll policy.limit).run (Session.start bytes policy.strict)).1 >>= fun _ =>
        Metadata.collect .heif
          (collect ((Session.readAll policy.limit).run (Session.start bytes policy.strict)).2
            policy) := rfl

end ImageMetadata.Heif
