import ImageMetadata.Proofs.Safety.Heif
import ImageMetadata.Reader

/-!
# Safe reading of files

Whatever bytes a reader is given, it returns frozen metadata or fails because of the bytes.
-/

namespace ImageMetadata

variable (bytes : Bytes) (policy : Policy)

theorem Format.ends_detect : (Outcome.ofExcept (Format.detect bytes)).Ends fun _ => True := by
  unfold Format.detect
  dsimp only
  split
  · exact .pure trivial
  · exact .fail rfl

theorem Format.ends_metadata (format : Format) :
    (format.metadata bytes policy).Ends fun m => m.frozen = true := by
  cases format with
  | jpeg => exact Jpeg.ends_metadata bytes policy
  | png => exact Png.ends_metadata bytes policy Png.defaultWanted
  | webp => exact Webp.ends_metadata bytes policy Webp.defaultWanted
  | heif => exact Heif.ends_metadata bytes policy
  | tiff => exact Tiff.ends_metadata bytes policy

/-- Every byte string, in both modes and at every depth limit, gives frozen metadata or a failure
that is about the bytes. A HEIF reader always finds a file type box in front, and the boxes that
describe and locate items never have unknown contents. -/
theorem Metadata.ends_ofBytes :
    (Metadata.ofBytes bytes policy).Ends (fun m => m.frozen = true) ∧
    ((Heif.Session.readAll policy.limit).run (Heif.Session.start bytes policy.strict)).1.Ends
      (fun _ => ((Heif.Session.readAll policy.limit).run
        (Heif.Session.start bytes policy.strict)).2.boxes ≠ []) ∧
    Heif.IsWellTyped ((Heif.Session.readAll policy.limit).run
      (Heif.Session.start bytes policy.strict)).2.boxes := by
  refine ⟨?_, ?_, Heif.Session.isWellTyped_of_readAll bytes policy.strict policy.limit⟩
  · apply (Format.ends_detect bytes).bind
    intro format _
    exact (Outcome.Ends.of_silent rfl).bind fun _ _ => format.ends_metadata bytes policy
  · have read := Heif.Session.ends_readAll policy.limit (Heif.Session.start bytes policy.strict) rfl
    exact read.mono fun _ known => known.2

end ImageMetadata
