import ImageMetadata.Proofs.Heif.Detection
import ImageMetadata.Proofs.Recognition.Containers
import ImageMetadata.Proofs.Recognition.Heif
import Mathlib.Tactic.ByContra

/-!
# Detection and the readers agree

Detection looks at the first twelve bytes, and each reader looks at the bytes itself. The reader of
the format that is detected recognizes the bytes; so a file is refused for its format where no
format is detected, and nowhere else. For JPEG, PNG and WebP files the two look for the same
signature.
-/

namespace ImageMetadata

namespace Format

variable {bytes : Bytes}

/-- The reader of a format, of chunks of some types if the format has chunks. -/
def read (format : Format) (bytes : Bytes) (wanted : Wanted) (policy : Policy) :
    Outcome Metadata :=
  match format with
  | .jpeg => Jpeg.metadata bytes policy
  | .png => Png.metadata bytes wanted policy
  | .webp => Webp.metadata bytes wanted policy
  | .heif => Heif.metadata bytes policy
  | .tiff => Tiff.metadata bytes policy

/-- The wanted types are chosen by the format where the caller does not choose them. -/
theorem metadata_eq_read (format : Format) (bytes : Bytes) (policy : Policy) :
    ∃ wanted, format.metadata bytes policy = format.read bytes wanted policy := by
  cases format with
  | png => exact ⟨Png.defaultWanted, rfl⟩
  | webp => exact ⟨Webp.defaultWanted, rfl⟩
  | jpeg | heif | tiff => exact ⟨.all, rfl⟩

/-- No signature reaches behind the first twelve bytes. -/
theorem ofHead?_take (bytes : Bytes) : ofHead? (bytes.take 12) = ofHead? bytes := by
  simp only [ofHead?, Bytes.slice, List.drop_take, List.take_take]
  rfl

theorem detect_eq_ok_iff {format : Format} :
    detect bytes = .ok format ↔ ofHead? bytes = some format := by
  unfold detect
  dsimp only
  rw [ofHead?_take]
  cases ofHead? bytes <;> simp

/-- Fewer of the first bytes are the first ones of more of them. -/
theorem take_eq_take_of_le {m n : Nat} {head : Bytes} (le : m ≤ n) (h : bytes.take n = head) :
    bytes.take m = head.take m := by
  rw [← h, List.take_take, Nat.min_eq_left le]

theorem detect_jpeg_iff : detect bytes = .ok .jpeg ↔ bytes.take 2 = Jpeg.signature := by
  rw [detect_eq_ok_iff, ofHead?]
  repeat' split
  all_goals simp_all

theorem detect_png_iff : detect bytes = .ok .png ↔ bytes.take 8 = Png.signature := by
  have other (png : bytes.take 8 = Png.signature) : bytes.take 2 ≠ Jpeg.signature := by
    rw [take_eq_take_of_le (by decide) png]
    decide
  rw [detect_eq_ok_iff, ofHead?]
  constructor
  · intro found
    by_contra unsigned
    rw [if_neg unsigned] at found
    repeat' split at found
    all_goals cases found
  · intro png
    rw [if_neg (other png), if_pos png]

theorem detect_webp_iff :
    detect bytes = .ok .webp ↔
      bytes.take 4 = Bytes.ascii "RIFF" ∧ bytes.slice 8 4 = Bytes.ascii "WEBP" := by
  have jpeg (riff : bytes.take 4 = Bytes.ascii "RIFF") : bytes.take 2 ≠ Jpeg.signature := by
    rw [take_eq_take_of_le (by decide) riff]
    decide
  have png (riff : bytes.take 4 = Bytes.ascii "RIFF") : bytes.take 8 ≠ Png.signature := by
    intro png
    rw [take_eq_take_of_le (by decide) png] at riff
    exact absurd riff (by decide)
  rw [detect_eq_ok_iff, ofHead?]
  constructor
  · intro found
    by_contra unsigned
    rw [if_neg unsigned] at found
    repeat' split at found
    all_goals cases found
  · intro webp
    rw [if_neg (jpeg webp.1), if_neg (png webp.1), if_pos webp]

theorem slice_of_detect_heif (h : detect bytes = .ok .heif) :
    bytes.slice 4 4 = Bytes.ascii "ftyp" := by
  rw [detect_eq_ok_iff, ofHead?] at h
  by_contra unsigned
  have unbranded : ¬ (bytes.slice 4 4 = Bytes.ascii "ftyp" ∧ bytes.slice 8 4 ∈ Heif.brands) :=
    fun branded => unsigned branded.1
  rw [if_neg unbranded] at h
  repeat' split at h
  all_goals cases h

/-- A reader of a format with a signature recognizes the bytes of which its format is detected, and
no others. -/
theorem detect_iff_recognizes {format : Format}
    (signed : format = .jpeg ∨ format = .png ∨ format = .webp) (wanted : Wanted)
    (policy : Policy) :
    detect bytes = .ok format ↔ (format.read bytes wanted policy).Recognizes := by
  rcases signed with rfl | rfl | rfl
  · exact detect_jpeg_iff.trans (Jpeg.recognizes_metadata_iff bytes policy).symm
  · exact detect_png_iff.trans (Png.recognizes_metadata_iff bytes policy wanted).symm
  · exact detect_webp_iff.trans (Webp.recognizes_metadata_iff bytes policy wanted).symm

theorem recognizes_of_detect {format : Format} (h : detect bytes = .ok format) (wanted : Wanted)
    (policy : Policy) : (format.read bytes wanted policy).Recognizes := by
  cases format with
  | jpeg => exact (detect_iff_recognizes (.inl rfl) wanted policy).1 h
  | png => exact (detect_iff_recognizes (.inr (.inl rfl)) wanted policy).1 h
  | webp => exact (detect_iff_recognizes (.inr (.inr rfl)) wanted policy).1 h
  | heif => exact (Heif.recognizes_metadata_iff bytes policy).2 (slice_of_detect_heif h)
  | tiff => exact Tiff.recognizes_metadata policy bytes

end Format

/-- Detection and the readers agree about the format of bytes. -/
structure Format.AgreesOn (bytes : Bytes) : Prop where
  /-- The reader of the format that is detected recognizes the bytes, whatever it is to read. -/
  recognized {format : Format} : Format.detect bytes = .ok format → ∀ wanted policy,
    (format.read bytes wanted policy).Recognizes
  /-- Bytes are refused for their format exactly where no format is detected. -/
  foreign_iff (policy : Policy) :
    (∃ p, (Metadata.ofBytes bytes policy).result = .error p ∧ p.kind = .notThisFormat) ↔
      ∃ p, Format.detect bytes = .error p ∧ p.kind = .notThisFormat
  /-- A format with a signature is the one of which the reader recognizes the bytes. -/
  detected_iff {format : Format} : format = .jpeg ∨ format = .png ∨ format = .webp →
    ∀ wanted policy, Format.detect bytes = .ok format ↔
      (format.read bytes wanted policy).Recognizes

theorem Format.agreesOn (bytes : Bytes) : AgreesOn bytes where
  recognized h wanted policy := recognizes_of_detect h wanted policy
  foreign_iff policy := by
    rw [Metadata.result_ofBytes]
    cases found : detect bytes with
    | error p =>
        constructor
        · rintro ⟨q, failed, foreign⟩
          cases failed
          exact ⟨p, rfl, foreign⟩
        · rintro ⟨q, failed, foreign⟩
          cases failed
          exact ⟨p, rfl, foreign⟩
    | ok format =>
        obtain ⟨wanted, same⟩ := format.metadata_eq_read bytes policy
        constructor
        · rintro ⟨p, failed, foreign⟩
          have own := recognizes_of_detect found wanted policy p (same ▸ failed)
          exact absurd foreign own
        · rintro ⟨p, failed, _⟩
          cases failed
  detected_iff signed wanted policy := detect_iff_recognizes signed wanted policy

end ImageMetadata
