import ImageMetadata.Bytes

/-!
# HEIF brands
-/

namespace ImageMetadata.Heif

/-- The brands of files in the HEIF family. -/
def brands : List Bytes :=
  ["heic", "heix", "hevc", "hevx", "heim", "heis", "mif1", "msf1", "avif", "avis"].map Bytes.ascii

end ImageMetadata.Heif
