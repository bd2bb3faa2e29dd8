import ImageMetadata.Heif.File
import ImageMetadata.Jpeg.File
import ImageMetadata.Png.File
import ImageMetadata.Signature
import ImageMetadata.Webp.File

/-!
# Reading files

The container format of a file decides which reader is used.
-/

namespace ImageMetadata

/-- The metadata of a file in a given container format. -/
def Format.metadata (format : Format) (bytes : Bytes) (policy : Policy) : Outcome Metadata :=
  match format with
  | .jpeg => Jpeg.metadata bytes policy
  | .png => Png.metadata bytes Png.defaultWanted policy
  | .webp => Webp.metadata bytes Webp.defaultWanted policy
  | .heif => Heif.metadata bytes policy
  | .tiff => Tiff.metadata bytes policy

/-- The metadata of a file in whatever container format its first bytes tell. -/
def Metadata.ofBytes (bytes : Bytes) (policy : Policy) : Outcome Metadata := do
  let format ← Outcome.ofExcept (Format.detect bytes)
  Outcome.trace (.detected format)
  format.metadata bytes policy

/-- What stands at the path of a file. -/
inductive FileContent where
  | bytes (content : Bytes)
  | unreadable

/-- The metadata of the file at a path. -/
def Metadata.ofFile (path : String) (content : FileContent) (policy : Policy) : Outcome Metadata :=
  match content with
  | .bytes content => ofBytes content policy
  | .unreadable => Outcome.fail (.unreadableFile path)

end ImageMetadata
