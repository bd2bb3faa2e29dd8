import ImageMetadata.Proofs.Png.Text
import ImageMetadata.Proofs.Safety.Tiff
import ImageMetadata.Jpeg.File
import ImageMetadata.Png.File
import ImageMetadata.Webp.File

/-!
# Safe reading of JPEG, PNG and WebP files

The metadata stay open for changes while they are filled, so no change is refused, and they are
frozen at the end. A text chunk that cannot be decoded fails in a way that is caught.
-/

namespace ImageMetadata

open ImageMetadata.Action (Ends EndsWell)

variable (bytes : Bytes) (policy : Policy)

namespace Metadata

/-- The metadata may still be changed. -/
def IsOpen (m : Metadata) : Prop := m.frozen = false

theorem ends_requireOpen : Ends IsOpen requireOpen fun _ => IsOpen := by
  apply Ends.state_bind
  intro m open_
  rw [open_]
  exact Ends.pure fun _ kept => kept

theorem ends_addDirectory (d : Tiff.Directory) (strict : Bool) :
    Ends IsOpen (addDirectory d strict) fun _ => IsOpen := by
  refine ends_requireOpen.bind fun _ => Ends.state_bind fun m _ => ?_
  split
  · exact (Ends.lift (.flag strict rfl)).bind fun _ => Ends.pure fun _ kept => kept
  · exact Ends.update_bind (fun _ kept => kept) (Ends.pure fun _ kept => kept)

theorem ends_addDirectories (strict : Bool) (list : List Tiff.Directory) :
    Ends IsOpen (addDirectories strict list) fun _ => IsOpen := by
  apply Ends.each
  intro d
  have added := ends_addDirectory d strict
  exact added.bind fun _ => Ends.pure fun _ kept => kept

theorem ends_addStream (stream : Tiff.Stream) (strict : Bool) :
    Ends IsOpen (addStream stream strict) fun _ => IsOpen := by
  refine ends_requireOpen.bind fun _ => Ends.update_bind (fun _ kept => kept) ?_
  exact ends_addDirectories strict stream.directories

theorem ends_addRecord (r : TextRecord) : Ends IsOpen (addRecord r) fun _ => IsOpen :=
  ends_requireOpen.bind fun _ => Ends.update fun _ kept => kept

theorem ends_setXmp (tree : Option Xml.Document) : Ends IsOpen (setXmp tree) fun _ => IsOpen :=
  ends_requireOpen.bind fun _ => Ends.update fun _ kept => kept

/-- What is collected by an action that keeps the metadata open is frozen at the end. -/
theorem ends_collect (format : Format) {fill : Action Metadata Unit}
    (h : Ends IsOpen fill fun _ => IsOpen) :
    (collect format fill).Ends fun m => m.frozen = true := by
  have frozen : Ends IsOpen (do fill; freeze) fun _ m => m.frozen = true :=
    h.bind fun _ => Ends.update fun _ _ => rfl
  have outcome := frozen (empty format.name) rfl
  exact outcome.map fun _ => ((do fill; freeze : Action Metadata Unit).run (empty format.name)).2

end Metadata

open Metadata (IsOpen)

theorem Tiff.ends_collect : Ends IsOpen (Tiff.collect bytes policy) fun _ => IsOpen :=
  .lift_bind (Tiff.Stream.ends_read bytes policy.strict 0 policy.limit) fun stream _ =>
    Metadata.ends_addStream stream policy.strict

theorem Tiff.ends_collect? (stream : Option Bytes) :
    Ends IsOpen (Tiff.collect? stream policy) fun _ => IsOpen := by
  cases stream with
  | none => exact Ends.pure fun _ kept => kept
  | some bytes => exact Tiff.ends_collect bytes policy

theorem Tiff.ends_metadata : (Tiff.metadata bytes policy).Ends fun m => m.frozen = true :=
  Metadata.ends_collect .tiff (Tiff.ends_collect bytes policy)

theorem Xmp.ends_collect (packet : Bytes) :
    Ends IsOpen (Xmp.collect packet) fun _ => IsOpen := by
  have read : (Xmp.read packet).Ends fun _ => True := by
    unfold Xmp.read
    split
    · exact .pure trivial
    · exact (Outcome.Ends.of_silent rfl).bind fun _ _ => .pure trivial
  apply Ends.lift_bind read
  intro tree _
  cases tree with
  | none => exact Ends.pure fun _ kept => kept
  | some tree => exact Metadata.ends_setXmp _

theorem Xmp.ends_collect? (packet : Option Bytes) :
    Ends IsOpen (Xmp.collect? packet) fun _ => IsOpen := by
  cases packet with
  | none => exact Ends.pure fun _ kept => kept
  | some packet => exact Xmp.ends_collect packet

namespace Jpeg

variable (strict : Bool)

theorem Scan.endsWell_moveTo (position : Nat) : EndsWell (Scan.moveTo position) :=
  Ends.update fun _ _ => trivial

theorem Scan.endsWell_finish : EndsWell Scan.finish := Ends.update fun _ _ => trivial

theorem Scan.endsWell_usePayload (offset : Nat) (payload : Bytes) :
    EndsWell (Scan.usePayload offset payload) := by
  apply Ends.state_bind
  intro s _
  cases payload.after? exifIdentifier with
  | some exif =>
      exact Ends.update_bind (fun _ _ => trivial) (Ends.trace _)
  | none =>
      cases payload.after? xmpIdentifier with
      | none => exact Ends.trace _
      | some xmp =>
          cases s.xmp with
          | none => exact Ends.update fun _ _ => trivial
          | some _ => exact Ends.trace _

theorem Scan.endsWell_takeSegment (marker : Marker) (position : Nat) (after : Bytes) :
    EndsWell (Scan.takeSegment strict marker position after) := by
  unfold Scan.takeSegment
  split
  · apply (Scan.endsWell_moveTo _).bind
    intro _
    split
    · exact (Ends.lift (.flag strict rfl)).bind fun _ => Ends.pure fun _ _ => trivial
    apply (Ends.when _ (Ends.trace _)).bind
    intro _
    split
    · exact (Ends.trace _).bind fun _ => Ends.pure fun _ _ => trivial
    · apply (Scan.endsWell_moveTo _).bind
      intro _
      apply Ends.update_bind (fun _ _ => trivial)
      apply (Ends.when _ (Scan.endsWell_usePayload _ _)).bind
      intro _
      exact Ends.pure fun _ _ => trivial
  · exact (Ends.trace _).bind fun _ => Ends.pure fun _ _ => trivial

theorem Scan.endsWell_step (size : Nat) (found : Found) :
    EndsWell (Scan.step strict size found) := by
  apply (Scan.endsWell_moveTo _).bind
  intro _
  apply (Ends.when _ (Ends.trace _)).bind
  intro _
  split
  · exact Ends.pure fun _ _ => trivial
  split
  · exact (Ends.trace _).bind fun _ => Ends.pure fun _ _ => trivial
  split
  · exact Ends.pure fun _ _ => trivial
  · exact Scan.endsWell_takeSegment strict _ _ _

theorem Scan.endsWell_search (size : Nat) (rest : Bytes) :
    EndsWell (Scan.search strict size rest) := by
  induction rest using Scan.search.induct with
  | case1 rest ended =>
      rw [Scan.search_of_none ended]
      apply (Scan.endsWell_moveTo size).bind
      intro _
      exact (Ends.trace _).bind fun _ => Scan.endsWell_finish
  | case2 rest found next ih =>
      rw [Scan.search_of_some next]
      apply (Scan.endsWell_step strict size found).bind
      intro left
      cases left with
      | none => exact Scan.endsWell_finish
      | some left => exact ih left

theorem endsWell_scan : EndsWell (scan bytes strict) := by
  unfold scan
  split
  · exact Scan.endsWell_search strict _ _
  · exact Ends.fail rfl

theorem ends_collect (found : Scan) : Ends IsOpen (collect found policy) fun _ => IsOpen := by
  apply (Ends.when _ (Ends.trace _)).bind
  intro _
  exact (Tiff.ends_collect? policy found.exif?).bind fun _ => Xmp.ends_collect? found.xmp

theorem ends_metadata : (metadata bytes policy).Ends fun m => m.frozen = true := by
  rw [metadata_eq]
  apply (endsWell_scan bytes policy.strict Scan.start trivial).bind
  intro _ _
  exact Metadata.ends_collect .jpeg (ends_collect policy _)

end Jpeg

namespace Png

variable (wanted : Wanted) (strict : Bool)

theorem endsWell_moveTo (position : Nat) : EndsWell (Progress.moveTo position) :=
  Ends.update fun _ _ => trivial

theorem endsWell_checkPlace (type : Bytes) (offset : Nat) : EndsWell (checkPlace type offset) := by
  refine Ends.state_bind fun s _ => Ends.require_bind _ rfl fun _ => ?_
  cases info? type with
  | none => exact Ends.trace _
  | some known => exact Ends.lift (.require _ rfl)

theorem ends_chunk (type : Bytes) (offset length : Nat) (body : Bytes) :
    (chunk wanted strict type offset length body).Ends fun _ => True := by
  unfold chunk
  dsimp only
  split
  · exact (Outcome.Ends.check strict _ rfl).bind fun _ _ => .pure trivial
  · exact .pure trivial

theorem endsWell_takeChunk (type : Bytes) (offset length : Nat) (body : Bytes) :
    EndsWell (takeChunk wanted strict type offset length body) := by
  refine (endsWell_moveTo _).bind fun _ => Ends.require_bind _ rfl fun _ => ?_
  refine Ends.require_bind _ rfl fun _ => (endsWell_checkPlace _ _).bind fun _ => ?_
  apply (endsWell_moveTo _).bind
  intro _
  exact Ends.lift_bind (ends_chunk wanted strict _ _ _ _) fun c _ => Ends.update fun _ _ => trivial

theorem endsWell_readChunk (size : Nat) (rest : Bytes) :
    EndsWell (readChunk wanted strict size rest) := by
  unfold readChunk
  split
  · exact Ends.fail rfl
  apply (endsWell_takeChunk wanted strict _ _ _ _).bind
  intro _
  dsimp only
  split
  · exact (Ends.when _ (Ends.trace _)).bind fun _ => Ends.pure fun _ _ => trivial
  · exact Ends.pure fun _ _ => trivial

theorem endsWell_readChunks (size : Nat) (rest : Bytes) :
    EndsWell (readChunks wanted strict size rest) := by
  induction rest using readChunks.induct with
  | case1 rest ih =>
      rw [readChunks]
      apply (endsWell_readChunk wanted strict size rest).bind
      intro left
      cases left with
      | none => exact Ends.pure fun _ _ => trivial
      | some left => exact ih left

theorem endsWell_read : EndsWell (read bytes wanted strict) := by
  unfold read
  split
  · exact (endsWell_moveTo 8).bind fun _ => endsWell_readChunks wanted strict _ _
  · exact Ends.fail rfl

theorem ends_collectChunk (c : Chunk) :
    Ends IsOpen (collectChunk policy c) fun _ => IsOpen := by
  unfold collectChunk
  cases c.payload with
  | none => exact Ends.pure fun _ kept => kept
  | some payload =>
      dsimp only
      cases known : decoder? c.type with
      | none =>
          dsimp only
          split
          · exact Tiff.ends_collect payload policy
          · exact Ends.pure fun _ kept => kept
      | some decode =>
          dsimp only
          cases decoded : decode payload with
          | error cause =>
              dsimp only
              rw [if_pos (textual_of_decoder? known cause decoded).isTextual]
              exact Ends.lift (.of_silent rfl)
          | ok record =>
              apply (Metadata.ends_addRecord record).bind
              intro _
              split
              · exact Xmp.ends_collect _
              · exact Ends.pure fun _ kept => kept

theorem ends_collect (chunks : List Chunk) :
    Ends IsOpen (collect policy chunks) fun _ => IsOpen :=
  .each (ends_collectChunk policy) chunks

theorem ends_metadata : (metadata bytes wanted policy).Ends fun m => m.frozen = true := by
  rw [metadata_eq]
  apply (endsWell_read bytes wanted policy.strict Progress.start trivial).bind
  intro _ _
  exact Metadata.ends_collect .png (ends_collect policy _)

end Png

namespace Webp

variable (wanted : Wanted)

theorem endsWell_moveTo (position : Nat) : EndsWell (Progress.moveTo position) :=
  Ends.update fun _ _ => trivial

theorem endsWell_readChunk (fileSize : Nat) (rest : Bytes) :
    EndsWell (readChunk wanted fileSize rest) := by
  unfold readChunk
  dsimp only
  split
  · exact Ends.fail rfl
  refine (endsWell_moveTo _).bind fun _ => Ends.require_bind _ rfl fun _ => ?_
  refine Ends.state_bind fun s _ => Ends.require_bind _ rfl fun _ => ?_
  refine (Ends.when _ (Ends.trace _)).bind fun _ => (Ends.trace _).bind fun _ => ?_
  refine Ends.update_bind (fun _ _ => trivial) ((endsWell_moveTo _).bind fun _ => ?_)
  exact Ends.pure fun _ _ => trivial

theorem endsWell_readChunks (fileSize : Nat) (rest : Bytes) :
    EndsWell (readChunks wanted fileSize rest) := by
  induction rest using readChunks.induct with
  | case1 rest done =>
      rw [readChunks, if_pos done]
      exact Ends.pure fun _ _ => trivial
  | case2 rest more ih =>
      rw [readChunks, if_neg more]
      exact (endsWell_readChunk wanted fileSize rest).bind ih

theorem endsWell_readHeader : EndsWell (readHeader bytes) := by
  refine Ends.require_bind _ rfl fun _ => (endsWell_moveTo 12).bind fun _ => ?_
  refine Ends.require_bind _ rfl fun _ => Ends.require_bind _ rfl fun _ => ?_
  exact Ends.update_bind (fun _ _ => trivial) (Ends.pure fun _ _ => trivial)

theorem endsWell_read : EndsWell (read bytes wanted) :=
  (endsWell_readHeader bytes).bind fun _ => endsWell_readChunks wanted _ _

theorem ends_collectChunk (c : Chunk) :
    Ends IsOpen (collectChunk policy c) fun _ => IsOpen := by
  unfold collectChunk
  cases c.payload with
  | none => exact Ends.pure fun _ kept => kept
  | some payload =>
      apply Ends.state_bind
      intro m _
      split
      · cases payload.after? exifIdentifier with
        | none => exact Tiff.ends_collect payload policy
        | some stream => exact (Ends.trace _).bind fun _ => Tiff.ends_collect stream policy
      split
      · exact Xmp.ends_collect payload
      · exact Ends.pure fun _ kept => kept

theorem ends_collect (chunks : List Chunk) :
    Ends IsOpen (collect policy chunks) fun _ => IsOpen :=
  .each (ends_collectChunk policy) chunks

theorem ends_metadata : (metadata bytes wanted policy).Ends fun m => m.frozen = true := by
  rw [metadata_eq]
  apply (endsWell_read bytes wanted Progress.start trivial).bind
  intro _ _
  exact Metadata.ends_collect .webp (ends_collect policy _)

end Webp

end ImageMetadata
