import ImageMetadata.Proofs.Strictness.Heif
import ImageMetadata.Reader

/-!
# Strict and lenient reading of files

Strict reading is lenient reading without an integrity problem, whatever the format of the file.
-/

namespace ImageMetadata

open Outcome (Agrees)

variable (bytes : Bytes) (limit : Int)

/-- For each format, a strict reader returns exactly what a lenient one returns without an integrity
warning, and refuses everything else. -/
theorem strict_isStrictFormOf_lenient (wanted : Wanted) :
    (Jpeg.metadata bytes ⟨true, limit⟩).IsStrictFormOf (Jpeg.metadata bytes ⟨false, limit⟩) ∧
    (Png.metadata bytes wanted ⟨true, limit⟩).IsStrictFormOf
      (Png.metadata bytes wanted ⟨false, limit⟩) ∧
    (Webp.metadata bytes wanted ⟨true, limit⟩).IsStrictFormOf
      (Webp.metadata bytes wanted ⟨false, limit⟩) ∧
    (Heif.metadata bytes ⟨true, limit⟩).IsStrictFormOf (Heif.metadata bytes ⟨false, limit⟩) ∧
    (Tiff.metadata bytes ⟨true, limit⟩).IsStrictFormOf (Tiff.metadata bytes ⟨false, limit⟩) :=
  ⟨(Jpeg.agrees_metadata bytes limit).isStrictFormOf,
    (Png.agrees_metadata bytes limit wanted).isStrictFormOf,
    (Webp.agrees_metadata bytes limit wanted).isStrictFormOf,
    (Heif.agrees_metadata bytes limit).isStrictFormOf,
    (Tiff.agrees_metadata bytes limit).isStrictFormOf⟩

/-- The two modes also agree where the format is told by the first bytes. -/
theorem Metadata.agrees_ofBytes :
    (Metadata.ofBytes bytes ⟨true, limit⟩).Agrees (Metadata.ofBytes bytes ⟨false, limit⟩) := by
  refine (Agrees.ofExcept _).bind fun format => (Agrees.trace _).bind fun _ => ?_
  cases format with
  | jpeg => exact Jpeg.agrees_metadata bytes limit
  | png => exact Png.agrees_metadata bytes limit _
  | webp => exact Webp.agrees_metadata bytes limit _
  | heif => exact Heif.agrees_metadata bytes limit
  | tiff => exact Tiff.agrees_metadata bytes limit

end ImageMetadata
