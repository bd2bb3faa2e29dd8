import ImageMetadata.Proofs.Strictness.Tiff
import ImageMetadata.Jpeg.File
import ImageMetadata.Png.File
import ImageMetadata.Webp.File

/-!
# Strict and lenient reading of JPEG, PNG and WebP files

What the readers find in a file, and what they collect from it, is the same in the two modes up to
the first integrity problem. Texts and XMP packets that have no decoded form do not matter here.
-/

namespace ImageMetadata

open Outcome (Agrees)

variable (bytes : Bytes) (limit : Int)

namespace Metadata

theorem agrees_requireOpen : Action.Agrees Eq requireOpen requireOpen := by
  apply Action.Agrees.state_bind
  intro m _ same
  subst same
  split
  · exact .fail _
  · exact .pure ()

theorem agrees_addDirectory (d : Tiff.Directory) :
    Action.Agrees Eq (addDirectory d true) (addDirectory d false) := by
  refine agrees_requireOpen.bind fun _ => Action.Agrees.state_bind fun m _ same => ?_
  subst same
  split
  · exact (Action.Agrees.lift (.flag rfl)).bind fun _ => .pure false
  · exact (Action.Agrees.update fun _ _ same => by rw [same]).bind fun _ => .pure true

theorem agrees_addDirectories (list : List Tiff.Directory) :
    Action.Agrees Eq (addDirectories true list) (addDirectories false list) :=
  .each (fun d => (agrees_addDirectory d).map _) list

theorem agrees_addStream (stream : Tiff.Stream) :
    Action.Agrees Eq (addStream stream true) (addStream stream false) := by
  apply agrees_requireOpen.bind
  intro _
  refine (Action.Agrees.update fun _ _ same => by rw [same]).bind fun _ => ?_
  exact agrees_addDirectories stream.directories

theorem agrees_addRecord (r : TextRecord) : Action.Agrees Eq (addRecord r) (addRecord r) :=
  agrees_requireOpen.bind fun _ => .update fun _ _ same => by rw [same]

theorem agrees_setXmp (tree : Option Xml.Document) : Action.Agrees Eq (setXmp tree) (setXmp tree) :=
  agrees_requireOpen.bind fun _ => .update fun _ _ same => by rw [same]

/-- The frozen metadata agree if the actions that fill them do. -/
theorem agrees_collect {format : Format} {strict lenient : Action Metadata Unit}
    (h : Action.Agrees Eq strict lenient) :
    (collect format strict).Agrees (collect format lenient) := by
  have filled := h.bind (f := fun _ => freeze) (g := fun _ => freeze) fun _ =>
    .update fun _ _ same => by rw [same]
  obtain ⟨outcomes, states⟩ := filled (empty format.name) _ rfl
  exact outcomes.map_of_clean fun clean => funext fun _ => states clean

end Metadata

theorem Tiff.agrees_collect :
    Action.Agrees Eq (Tiff.collect bytes ⟨true, limit⟩) (Tiff.collect bytes ⟨false, limit⟩) :=
  (Action.Agrees.lift (Tiff.Stream.agrees_read bytes 0 limit)).bind Metadata.agrees_addStream

theorem Tiff.agrees_collect? (stream : Option Bytes) :
    Action.Agrees Eq (Tiff.collect? stream ⟨true, limit⟩) (Tiff.collect? stream ⟨false, limit⟩) := by
  cases stream with
  | none => exact .pure ()
  | some bytes => exact Tiff.agrees_collect bytes limit

theorem Tiff.agrees_metadata :
    (Tiff.metadata bytes ⟨true, limit⟩).Agrees (Tiff.metadata bytes ⟨false, limit⟩) :=
  Metadata.agrees_collect (Tiff.agrees_collect bytes limit)

theorem Xmp.agrees_collect (packet : Bytes) :
    Action.Agrees Eq (Xmp.collect packet) (Xmp.collect packet) := by
  refine (Action.Agrees.lift ?_).bind fun tree => ?_
  · simp only [Xmp.read]
    cases Xml.Document.ofBytes? (packet.trimEnd Xmp.isPadding) with
    | some tree => exact .pure _
    | none => exact (Agrees.rfl_of_clean rfl).bind fun _ => .pure none
  · cases tree with
    | some tree => exact Metadata.agrees_setXmp _
    | none => exact .pure ()

theorem Xmp.agrees_collect? (packet : Option Bytes) :
    Action.Agrees Eq (Xmp.collect? packet) (Xmp.collect? packet) := by
  cases packet with
  | none => exact .pure ()
  | some packet => exact Xmp.agrees_collect packet

namespace Jpeg

theorem Scan.agrees_moveTo (position : Nat) :
    Action.Agrees Eq (Scan.moveTo position) (Scan.moveTo position) :=
  .update fun _ _ same => by rw [same]

theorem Scan.agrees_finish : Action.Agrees Eq Scan.finish Scan.finish :=
  .update fun _ _ same => by rw [same]

theorem Scan.agrees_usePayload (offset : Nat) (payload : Bytes) :
    Action.Agrees Eq (Scan.usePayload offset payload) (Scan.usePayload offset payload) := by
  apply Action.Agrees.state_bind
  intro s _ same
  subst same
  cases payload.after? exifIdentifier with
  | some exif =>
      exact (Action.Agrees.update fun _ _ same => by rw [same]).bind fun _ => .lift (.trace _)
  | none =>
      cases payload.after? xmpIdentifier with
      | none => exact .lift (.trace _)
      | some xmp =>
          cases s.xmp with
          | none => exact .update fun _ _ same => by rw [same]
          | some _ => exact .lift (.trace _)

theorem Scan.agrees_takeSegment (marker : Marker) (position : Nat) (after : Bytes) :
    Action.Agrees Eq (Scan.takeSegment true marker position after)
      (Scan.takeSegment false marker position after) := by
  unfold Scan.takeSegment
  split
  · apply (Scan.agrees_moveTo _).bind
    intro _
    split
    · exact (Action.Agrees.lift (.flag rfl)).bind fun _ => .pure _
    apply (Action.Agrees.when _ (.lift (.trace _))).bind
    intro _
    split
    · exact (Action.Agrees.lift (.trace _)).bind fun _ => .pure none
    · apply (Scan.agrees_moveTo _).bind
      intro _
      refine (Action.Agrees.update fun _ _ same => by rw [same]).bind fun _ => ?_
      exact (Action.Agrees.when _ (Scan.agrees_usePayload _ _)).bind fun _ => .pure _
  · exact (Action.Agrees.lift (.trace _)).bind fun _ => .pure none

theorem Scan.agrees_step (size : Nat) (found : Found) :
    Action.Agrees Eq (Scan.step true size found) (Scan.step false size found) := by
  apply (Scan.agrees_moveTo _).bind
  intro _
  apply (Action.Agrees.when _ (.lift (.trace _))).bind
  intro _
  split
  · exact .pure _
  split
  · exact (Action.Agrees.lift (.trace _)).bind fun _ => .pure none
  split
  · exact .pure none
  · exact Scan.agrees_takeSegment _ _ _

theorem Scan.agrees_search (size : Nat) (rest : Bytes) :
    Action.Agrees Eq (Scan.search true size rest) (Scan.search false size rest) := by
  induction rest using Scan.search.induct with
  | case1 rest ended =>
      rw [Scan.search_of_none ended, Scan.search_of_none ended]
      apply (Scan.agrees_moveTo size).bind
      intro _
      exact (Action.Agrees.lift (.trace _)).bind fun _ => Scan.agrees_finish
  | case2 rest found next ih =>
      rw [Scan.search_of_some next, Scan.search_of_some next]
      apply (Scan.agrees_step size found).bind
      intro left
      cases left with
      | none => exact Scan.agrees_finish
      | some left => exact ih left

theorem agrees_scan : Action.Agrees Eq (scan bytes true) (scan bytes false) := by
  unfold scan
  split
  · exact Scan.agrees_search _ _
  · exact .fail _

theorem agrees_collect (found : Scan) :
    Action.Agrees Eq (collect found ⟨true, limit⟩) (collect found ⟨false, limit⟩) := by
  apply (Action.Agrees.when _ (.lift (.trace _))).bind
  intro _
  exact (Tiff.agrees_collect? limit found.exif?).bind fun _ => Xmp.agrees_collect? found.xmp

theorem agrees_metadata :
    (metadata bytes ⟨true, limit⟩).Agrees (metadata bytes ⟨false, limit⟩) := by
  obtain ⟨outcomes, states⟩ := agrees_scan bytes Scan.start _ rfl
  rw [metadata_eq, metadata_eq]
  apply outcomes.bind_of_clean
  intro clean _ _
  rw [states clean]
  exact Metadata.agrees_collect (agrees_collect limit _)

end Jpeg

namespace Png

variable (wanted : Wanted)

theorem agrees_moveTo (position : Nat) :
    Action.Agrees Eq (Progress.moveTo position) (Progress.moveTo position) :=
  .update fun _ _ same => by rw [same]

theorem agrees_checkPlace (type : Bytes) (offset : Nat) :
    Action.Agrees Eq (checkPlace type offset) (checkPlace type offset) := by
  apply Action.Agrees.state_bind
  intro s _ same
  subst same
  apply (Action.Agrees.require _ _).bind
  intro _
  cases info? type with
  | none => exact .lift (.trace _)
  | some known => exact .require _ _

theorem agrees_chunk (type : Bytes) (offset length : Nat) (body : Bytes) :
    (chunk wanted true type offset length body).Agrees
      (chunk wanted false type offset length body) := by
  simp only [chunk]
  split
  · exact (Agrees.check _ rfl).bind fun _ => .pure _
  · exact .pure _

theorem agrees_takeChunk (type : Bytes) (offset length : Nat) (body : Bytes) :
    Action.Agrees Eq (takeChunk wanted true type offset length body)
      (takeChunk wanted false type offset length body) := by
  refine (agrees_moveTo _).bind fun _ => (Action.Agrees.require _ _).bind fun _ => ?_
  refine (Action.Agrees.require _ _).bind fun _ => (agrees_checkPlace _ _).bind fun _ => ?_
  apply (agrees_moveTo _).bind
  intro _
  apply (Action.Agrees.lift (agrees_chunk wanted _ _ _ _)).bind
  intro c
  exact Action.Agrees.update fun _ _ same => by rw [same]

theorem agrees_readChunk (size : Nat) (rest : Bytes) :
    Action.Agrees Eq (readChunk wanted true size rest) (readChunk wanted false size rest) := by
  unfold readChunk
  split
  · exact .fail _
  apply (agrees_takeChunk wanted _ _ _ _).bind
  intro _
  dsimp only
  split
  · exact (Action.Agrees.when _ (.lift (.trace _))).bind fun _ => .pure none
  · exact .pure _

theorem agrees_readChunks (size : Nat) (rest : Bytes) :
    Action.Agrees Eq (readChunks wanted true size rest) (readChunks wanted false size rest) := by
  induction rest using readChunks.induct with
  | case1 rest ih =>
      rw [readChunks, readChunks]
      apply (agrees_readChunk wanted size rest).bind
      intro left
      cases left with
      | none => exact .pure ()
      | some left => exact ih left

theorem agrees_read : Action.Agrees Eq (read bytes wanted true) (read bytes wanted false) := by
  unfold read
  split
  · exact (agrees_moveTo 8).bind fun _ => agrees_readChunks wanted _ _
  · exact .fail _

theorem agrees_collectChunk (c : Chunk) :
    Action.Agrees Eq (collectChunk ⟨true, limit⟩ c) (collectChunk ⟨false, limit⟩ c) := by
  unfold collectChunk
  cases c.payload with
  | none => exact .pure ()
  | some payload =>
      dsimp only
      cases decoder? c.type with
      | none =>
          dsimp only
          split
          · exact Tiff.agrees_collect payload limit
          · exact .pure ()
      | some decode =>
          dsimp only
          cases decode payload with
          | error cause =>
              dsimp only
              split
              · exact .lift (.rfl_of_clean rfl)
              · exact .fail cause
          | ok record =>
              apply (Metadata.agrees_addRecord record).bind
              intro _
              split
              · exact Xmp.agrees_collect _
              · exact .pure ()

theorem agrees_collect (chunks : List Chunk) :
    Action.Agrees Eq (collect ⟨true, limit⟩ chunks) (collect ⟨false, limit⟩ chunks) :=
  .each (agrees_collectChunk limit) chunks

theorem agrees_metadata :
    (metadata bytes wanted ⟨true, limit⟩).Agrees (metadata bytes wanted ⟨false, limit⟩) := by
  obtain ⟨outcomes, states⟩ := agrees_read bytes wanted Progress.start _ rfl
  rw [metadata_eq, metadata_eq]
  apply outcomes.bind_of_clean
  intro clean _ _
  rw [states clean]
  exact Metadata.agrees_collect (agrees_collect limit _)

end Png

namespace Webp

variable (wanted : Wanted)

theorem agrees_moveTo (position : Nat) :
    Action.Agrees Eq (Progress.moveTo position) (Progress.moveTo position) :=
  .update fun _ _ same => by rw [same]

theorem agrees_readChunk (fileSize : Nat) (rest : Bytes) :
    Action.Agrees Eq (readChunk wanted fileSize rest) (readChunk wanted fileSize rest) := by
  simp only [readChunk]
  split
  · exact .fail _
  refine (agrees_moveTo _).bind fun _ => (Action.Agrees.require _ _).bind fun _ => ?_
  apply Action.Agrees.state_bind
  intro s _ same
  subst same
  apply (Action.Agrees.require _ _).bind
  intro _
  apply (Action.Agrees.when _ (.lift (.trace _))).bind
  intro _
  apply (Action.Agrees.lift (.trace _)).bind
  intro _
  refine (Action.Agrees.update fun _ _ same => by rw [same]).bind fun _ => ?_
  exact (agrees_moveTo _).bind fun _ => .pure _

theorem agrees_readChunks (fileSize : Nat) (rest : Bytes) :
    Action.Agrees Eq (readChunks wanted fileSize rest) (readChunks wanted fileSize rest) := by
  induction rest using readChunks.induct with
  | case1 rest done =>
      rw [readChunks, if_pos done]
      exact .pure ()
  | case2 rest more ih =>
      rw [readChunks, if_neg more]
      exact (agrees_readChunk wanted fileSize rest).bind ih

theorem agrees_read : Action.Agrees Eq (read bytes wanted) (read bytes wanted) := by
  refine Action.Agrees.bind ?_ fun fileSize => agrees_readChunks wanted fileSize _
  refine (Action.Agrees.require _ _).bind fun _ => (agrees_moveTo _).bind fun _ => ?_
  refine (Action.Agrees.require _ _).bind fun _ => (Action.Agrees.require _ _).bind fun _ => ?_
  exact (Action.Agrees.update fun _ _ same => by rw [same]).bind fun _ => .pure _

theorem agrees_collectChunk (c : Chunk) :
    Action.Agrees Eq (collectChunk ⟨true, limit⟩ c) (collectChunk ⟨false, limit⟩ c) := by
  unfold collectChunk
  cases c.payload with
  | none => exact .pure ()
  | some payload =>
      apply Action.Agrees.state_bind
      intro m _ same
      subst same
      split
      · cases payload.after? exifIdentifier with
        | none => exact Tiff.agrees_collect payload limit
        | some stream =>
            exact (Action.Agrees.lift (.trace _)).bind fun _ => Tiff.agrees_collect stream limit
      split
      · exact Xmp.agrees_collect payload
      · exact .pure ()

theorem agrees_collect (chunks : List Chunk) :
    Action.Agrees Eq (collect ⟨true, limit⟩ chunks) (collect ⟨false, limit⟩ chunks) :=
  .each (agrees_collectChunk limit) chunks

theorem agrees_metadata :
    (metadata bytes wanted ⟨true, limit⟩).Agrees (metadata bytes wanted ⟨false, limit⟩) := by
  rw [metadata_eq, metadata_eq]
  apply (agrees_read bytes wanted Progress.start _ rfl).1.bind
  intro _
  exact Metadata.agrees_collect (agrees_collect limit _)

end Webp

end ImageMetadata
