import ImageMetadata.Jpeg.File
import ImageMetadata.Png.File
import ImageMetadata.Proofs.Recognition.Tiff
import ImageMetadata.Webp.File

/-!
# Containers are recognized by their signatures

A reader of JPEG, PNG or WebP files looks at the signature first. Where it is there, nothing that
comes later makes the bytes ones of another format; where it is not, they are.
-/

namespace ImageMetadata

open ImageMetadata.Action (Recognizes)

variable (bytes : Bytes) (policy : Policy)

namespace Jpeg

variable (strict : Bool)

theorem Scan.recognizes_usePayload (offset : Nat) (payload : Bytes) :
    Recognizes (Scan.usePayload offset payload) := by
  apply Recognizes.state_bind
  intro s
  cases payload.after? exifIdentifier with
  | some exif => exact (Recognizes.update _).bind fun _ => .trace _
  | none =>
      cases payload.after? xmpIdentifier with
      | none => exact .trace _
      | some xmp =>
          cases s.xmp with
          | none => exact .update _
          | some _ => exact .trace _

theorem Scan.recognizes_takeSegment (marker : Marker) (position : Nat) (after : Bytes) :
    Recognizes (Scan.takeSegment strict marker position after) := by
  unfold Scan.takeSegment
  split
  · apply (Recognizes.update _).bind
    intro _
    split
    · exact (Recognizes.lift (.flag strict (by nofun))).bind fun _ => .pure _
    apply (Recognizes.when _ (.trace _)).bind
    intro _
    split
    · exact (Recognizes.trace _).bind fun _ => .pure none
    · refine (Recognizes.update _).bind fun _ => (Recognizes.update _).bind fun _ => ?_
      exact (Recognizes.when _ (Scan.recognizes_usePayload _ _)).bind fun _ => .pure _
  · exact (Recognizes.trace _).bind fun _ => .pure none

theorem Scan.recognizes_step (size : Nat) (found : Found) :
    Recognizes (Scan.step strict size found) := by
  refine (Recognizes.update _).bind fun _ => (Recognizes.when _ (.trace _)).bind fun _ => ?_
  split
  · exact .pure _
  split
  · exact (Recognizes.trace _).bind fun _ => .pure none
  split
  · exact .pure none
  · exact Scan.recognizes_takeSegment strict _ _ _

theorem Scan.recognizes_search (size : Nat) (rest : Bytes) :
    Recognizes (Scan.search strict size rest) := by
  induction rest using Scan.search.induct with
  | case1 rest ended =>
      rw [Scan.search_of_none ended]
      refine (Recognizes.update _).bind fun _ => (Recognizes.trace _).bind fun _ => ?_
      exact .update _
  | case2 rest found next ih =>
      rw [Scan.search_of_some next]
      apply (Scan.recognizes_step strict size found).bind
      intro left
      cases left with
      | none => exact .update _
      | some left => exact ih left

theorem recognizes_collect (found : Scan) : Recognizes (collect found policy) := by
  refine (Recognizes.when _ (.trace _)).bind fun _ => ?_
  refine (Tiff.recognizes_collect? policy found.exif?).bind fun _ => ?_
  exact Xmp.recognizes_collect? found.xmp

/-- Only the first two bytes decide whether a file is a JPEG file. -/
theorem recognizes_metadata_iff :
    (metadata bytes policy).Recognizes ↔ bytes.take 2 = signature := by
  rw [metadata_eq, scan, signature]
  split
  · rename_i signed
    refine iff_of_true (.bind ?_ fun _ => ?_) signed
    · exact Scan.recognizes_search policy.strict bytes.length bytes Scan.start
    · exact Metadata.recognizes_collect .jpeg (recognizes_collect policy _)
  · rename_i unsigned
    exact iff_of_false (fun h => h _ rfl rfl) unsigned

end Jpeg

namespace Png

variable (wanted : Wanted) (strict : Bool)

theorem recognizes_checkPlace (type : Bytes) (offset : Nat) :
    Recognizes (checkPlace type offset) := by
  refine .state_bind fun s => (Recognizes.require _ (by nofun)).bind fun _ => ?_
  cases info? type with
  | none => exact .trace _
  | some known => exact .require _ (by nofun)

theorem recognizes_chunk (type : Bytes) (offset length : Nat) (body : Bytes) :
    (chunk wanted strict type offset length body).Recognizes := by
  unfold chunk
  dsimp only
  split
  · exact (Outcome.Recognizes.check strict _ (by nofun)).bind fun _ => .pure _
  · exact .pure _

theorem recognizes_takeChunk (type : Bytes) (offset length : Nat) (body : Bytes) :
    Recognizes (takeChunk wanted strict type offset length body) := by
  refine (Recognizes.update _).bind fun _ => (Recognizes.require _ (by nofun)).bind fun _ => ?_
  refine (Recognizes.require _ (by nofun)).bind fun _ => ?_
  refine (recognizes_checkPlace _ _).bind fun _ => (Recognizes.update _).bind fun _ => ?_
  exact (Recognizes.lift (recognizes_chunk wanted strict _ _ _ _)).bind fun c => .update _

theorem recognizes_readChunk (size : Nat) (rest : Bytes) :
    Recognizes (readChunk wanted strict size rest) := by
  unfold readChunk
  split
  · exact .fail (by nofun)
  apply (recognizes_takeChunk wanted strict _ _ _ _).bind
  intro _
  dsimp only
  split
  · exact (Recognizes.when _ (.trace _)).bind fun _ => .pure none
  · exact .pure _

theorem recognizes_readChunks (size : Nat) (rest : Bytes) :
    Recognizes (readChunks wanted strict size rest) := by
  induction rest using readChunks.induct with
  | case1 rest ih =>
      rw [readChunks]
      apply (recognizes_readChunk wanted strict size rest).bind
      intro left
      cases left with
      | none => exact .pure ()
      | some left => exact ih left

/-- A text that cannot be decoded only ends the reader for a reason that is not about the bytes. -/
theorem recognizes_collectChunk (c : Chunk) : Recognizes (collectChunk policy c) := by
  unfold collectChunk
  cases c.payload with
  | none => exact .pure ()
  | some payload =>
      dsimp only
      cases decoder? c.type with
      | none =>
          dsimp only
          split
          · exact Tiff.recognizes_collect policy payload
          · exact .pure ()
      | some decode =>
          dsimp only
          cases decode payload with
          | error cause =>
              dsimp only
              split
              · exact .lift (.notify _)
              · rename_i other
                refine .fail fun foreign => other ?_
                rw [Problem.isTextual, foreign]
                rfl
          | ok record =>
              apply (Metadata.recognizes_addRecord record).bind
              intro _
              split
              · exact Xmp.recognizes_collect _
              · exact .pure ()

theorem recognizes_collect (chunks : List Chunk) : Recognizes (collect policy chunks) :=
  .each (recognizes_collectChunk policy) chunks

/-- Only the first eight bytes decide whether a file is a PNG file. -/
theorem recognizes_metadata_iff :
    (metadata bytes wanted policy).Recognizes ↔ bytes.take 8 = signature := by
  rw [metadata_eq, read]
  split
  · rename_i signed
    refine iff_of_true (.bind ?_ fun _ => ?_) signed
    · exact (Recognizes.update _).bind (fun _ => recognizes_readChunks wanted _ _ _) Progress.start
    · exact Metadata.recognizes_collect .png (recognizes_collect policy _)
  · rename_i unsigned
    exact iff_of_false (fun h => h _ rfl rfl) unsigned

end Png

namespace Webp

variable (wanted : Wanted)

theorem recognizes_readChunk (fileSize : Nat) (rest : Bytes) :
    Recognizes (readChunk wanted fileSize rest) := by
  unfold readChunk
  dsimp only
  split
  · exact .fail (by nofun)
  refine (Recognizes.update _).bind fun _ => (Recognizes.require _ (by nofun)).bind fun _ => ?_
  refine .state_bind fun s => (Recognizes.require _ (by nofun)).bind fun _ => ?_
  refine (Recognizes.when _ (.trace _)).bind fun _ => (Recognizes.trace _).bind fun _ => ?_
  exact (Recognizes.update _).bind fun _ => (Recognizes.update _).bind fun _ => .pure _

theorem recognizes_readChunks (fileSize : Nat) (rest : Bytes) :
    Recognizes (readChunks wanted fileSize rest) := by
  induction rest using readChunks.induct with
  | case1 rest done =>
      rw [readChunks, if_pos done]
      exact .pure ()
  | case2 rest more ih =>
      rw [readChunks, if_neg more]
      exact (recognizes_readChunk wanted fileSize rest).bind ih

theorem recognizes_collectChunk (c : Chunk) : Recognizes (collectChunk policy c) := by
  unfold collectChunk
  cases c.payload with
  | none => exact .pure ()
  | some payload =>
      apply Recognizes.state_bind
      intro m
      split
      · cases payload.after? exifIdentifier with
        | none => exact Tiff.recognizes_collect policy payload
        | some stream =>
            exact (Recognizes.trace _).bind fun _ => Tiff.recognizes_collect policy stream
      split
      · exact Xmp.recognizes_collect payload
      · exact .pure ()

theorem recognizes_collect (chunks : List Chunk) : Recognizes (collect policy chunks) :=
  .each (recognizes_collectChunk policy) chunks

/-- Only the two codes in the header decide whether a file is a WebP file. -/
theorem recognizes_metadata_iff :
    (metadata bytes wanted policy).Recognizes ↔
      bytes.take 4 = Bytes.ascii "RIFF" ∧ bytes.slice 8 4 = Bytes.ascii "WEBP" := by
  rw [metadata_eq, read, readHeader]
  by_cases signed : bytes.take 4 = Bytes.ascii "RIFF" ∧ bytes.slice 8 4 = Bytes.ascii "WEBP"
  · obtain ⟨riff, form⟩ := signed
    have long : 12 ≤ bytes.length :=
      Bytes.le_length_of_slice_eq form (by decide) (by decide)
    refine iff_of_true (.bind (Recognizes.bind ?_ ?_ Progress.start) fun _ => ?_) ⟨riff, form⟩
    · refine (Recognizes.require_of_true _ (by simp [long, riff])).bind fun _ => ?_
      refine (Recognizes.update _).bind fun _ => ?_
      refine (Recognizes.require_of_true _ (by simp [form])).bind fun _ => ?_
      refine (Recognizes.require _ (by nofun)).bind fun _ => ?_
      exact (Recognizes.update _).bind fun _ => .pure _
    · exact fun fileSize => recognizes_readChunks wanted _ _
    · exact Metadata.recognizes_collect .webp (recognizes_collect policy _)
  · refine iff_of_false (fun h => ?_) signed
    cases riff : 12 ≤ bytes.length && bytes.take 4 == Bytes.ascii "RIFF" with
    | false =>
        rw [riff] at h
        exact h _ rfl rfl
    | true =>
        have other : (bytes.slice 8 4 == Bytes.ascii "WEBP") = false := by
          simp only [Bool.and_eq_true, decide_eq_true_eq, beq_iff_eq] at riff
          exact beq_false_of_ne fun form => signed ⟨riff.2, form⟩
        rw [riff, other] at h
        exact h _ rfl rfl

end Webp

end ImageMetadata
