import ImageMetadata.Heif.Brand
import ImageMetadata.Format
import ImageMetadata.Problem

/-!
# Signatures

The first twelve bytes of a file tell its container format.
-/

namespace ImageMetadata

/-- The first bytes of a PNG file. -/
def Png.signature : Bytes := [0x89, 0x50, 0x4E, 0x47, 0x0D, 0x0A, 0x1A, 0x0A]

/-- The first bytes of a JPEG file. -/
def Jpeg.signature : Bytes := [0xFF, 0xD8]

/-- The first bytes of a TIFF file in either byte order and width. -/
def Tiff.signatures : List Bytes :=
  [[0x49, 0x49, 0x2A, 0], [0x4D, 0x4D, 0, 0x2A], [0x49, 0x49, 0x2B, 0], [0x4D, 0x4D, 0, 0x2B]]

/-- The format that the first bytes of a file tell. -/
def Format.ofHead? (head : Bytes) : Option Format :=
  if head.take 2 = Jpeg.signature then some .jpeg
  else if head.take 8 = Png.signature then some .png
  else if head.take 4 = Bytes.ascii "RIFF" ∧ head.slice 8 4 = Bytes.ascii "WEBP" then some .webp
  else if head.slice 4 4 = Bytes.ascii "ftyp" ∧ head.slice 8 4 ∈ Heif.brands then some .heif
  else if head.take 4 ∈ Tiff.signatures then some .tiff
  else none

/-- The container format of a file. -/
def Format.detect (bytes : Bytes) : Except Problem Format :=
  let head := bytes.take 12
  match ofHead? head with
  | some format => .ok format
  | none => .error (.signature head)

end ImageMetadata
