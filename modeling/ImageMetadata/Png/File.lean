import ImageMetadata.Png.Stream
import ImageMetadata.Png.Text
import ImageMetadata.Tiff.File
import ImageMetadata.Xmp

/-!
# PNG files

Every text chunk gives a record, an international text with the XMP keyword also the XMP tree, and
an Exif chunk is a TIFF stream. A text that cannot be decoded is passed over with a notice.
-/

namespace ImageMetadata.Png

/-- The types that are wanted unless the caller chooses. -/
def defaultWanted : Wanted := .only (["tEXt", "zTXt", "iTXt", "eXIf"].map Bytes.ascii)

/-- The keyword of a text that is an XMP packet. -/
def xmpKeyword : String := "XML:com.adobe.xmp"

/-- Collects what one chunk holds. -/
def collectChunk (policy : Policy) (c : Chunk) : Action Metadata Unit :=
  match c.payload with
  | none => return
  | some payload =>
    match decoder? c.type with
    | some decode =>
      match decode payload with
      | .error cause =>
        if cause.isTextual then Outcome.notify (.undecodableText c.type c.offset cause)
        else Action.fail cause
      | .ok record => do
        Metadata.addRecord record
        if record.chunkType = "iTXt" ∧ record.keyword = xmpKeyword then
          Xmp.collect (Text.Utf8.encode record.text.toList)
    | none => if c.type = Bytes.ascii "eXIf" then Tiff.collect payload policy else return

/-- Collects what chunks hold, in order. -/
def collect (policy : Policy) (chunks : List Chunk) : Action Metadata Unit :=
  Action.each (collectChunk policy) chunks

/-- The metadata of a PNG file. -/
def metadata (bytes : Bytes) (wanted : Wanted) (policy : Policy) : Outcome Metadata := do
  let (outcome, found) := (read bytes wanted policy.strict).run Progress.start
  outcome
  Metadata.collect .png (collect policy found.chunks)

/-- The chunks are read first, and what they hold is collected. -/
theorem metadata_eq (bytes : Bytes) (wanted : Wanted) (policy : Policy) :
    metadata bytes wanted policy =
      ((read bytes wanted policy.strict).run Progress.start).1 >>= fun _ =>
        Metadata.collect .png
          (collect policy ((read bytes wanted policy.strict).run Progress.start).2.chunks) := rfl

end ImageMetadata.Png
