/-!
# Container formats
-/

namespace ImageMetadata

/-- The container formats that metadata is read from. -/
inductive Format where
  | jpeg
  | png
  | webp
  | heif
  | tiff
  deriving DecidableEq, Repr

/-- The name of a container format. -/
def Format.name : Format → String
  | jpeg => "JPEG"
  | png => "PNG"
  | webp => "WEBP"
  | heif => "HEIF"
  | tiff => "TIFF"

end ImageMetadata
