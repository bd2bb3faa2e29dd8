import ImageMetadata.Bytes

/-!
# Payload identifiers

A payload that may hold several kinds of data starts with an identifier of the kind.
-/

namespace ImageMetadata

/-- What stands before a TIFF stream. -/
def exifIdentifier : Bytes := Bytes.ascii "Exif" ++ [0, 0]

/-- What stands before an XMP packet. -/
def xmpIdentifier : Bytes := Bytes.ascii "http://ns.adobe.com/xap/1.0/" ++ [0]

/-- What follows an identifier, if the bytes start with it. -/
def Bytes.after? (bytes identifier : Bytes) : Option Bytes :=
  if identifier.isPrefixOf bytes then some (bytes.drop identifier.length) else none

theorem Bytes.after?_append (identifier rest : Bytes) :
    after? (identifier ++ rest) identifier = some rest := by
  simp [after?]

theorem Bytes.after?_eq_none {bytes identifier : Bytes} (h : ¬ identifier <+: bytes) :
    after? bytes identifier = none := by
  rw [← List.isPrefixOf_iff_prefix] at h
  exact if_neg h

end ImageMetadata
