import ImageMetadata.Heif.File
import ImageMetadata.Proofs.Embedding.Containers
import ImageMetadata.Proofs.Heif.ItemData
import ImageMetadata.Proofs.Safety.Heif

/-!
# TIFF streams in HEIF files

The Exif item holds the size of a header, the header and the stream, cut into extents of which the
first one reaches past the header. What is put together from the extents is the stream.
-/

namespace ImageMetadata.Heif

open ImageMetadata.Action (Runs)
open Metadata (Spares Fills IsFresh)

namespace Session

/-- The first Exif item of a session holds a stream. -/
structure ExifItem (s : Session) (stream : Bytes) where
  information : Box
  box : ItemBox
  location : Location
  start : Nat
  limit : Nat
  /-- The extents of the item, of which there is a first one. -/
  first : Extent
  others : List Extent
  /-- What stands between the stored size and the stream. -/
  header : Bytes
  information_eq : Box.find? (Bytes.ascii "iinf") s.boxes = some information
  entry_eq : firstItem? isExif information = some box
  places : s.Places box.item location start limit
  extents_eq : location.extents = first :: others
  fit : ExtentsFit (start + location.base) limit (first :: others)
  data_eq : extentData s.cursor.bytes (start + location.base) (first :: others) =
    ByteOrder.big.unsignedBytes 4 header.length ++ header ++ stream
  header_lt : header.length < Bytes.capacity 4
  long : max 8 (header.length + 4) ≤ first.length

/-- A session whose boxes lie in the file, at the start of the file. -/
structure IsAtRest (s : Session) : Prop where
  unmarked : s.cursor.mark = none
  big : s.cursor.order = .big
  inside : Box.Everywhere (fun b => b.offset + b.length ≤ s.cursor.size) s.boxes

/-- The boxes that a file is read into lie in it. -/
theorem isAtRest_of_readAll {bytes : Bytes} {strict : Bool} {limit : Int}
    (h : ((readAll limit).run (start bytes strict)).1.result = .ok ()) :
    ((readAll limit).run (start bytes strict)).2.IsAtRest := by
  obtain ⟨boxes, read, state⟩ := run_readAll_snd h
  have forest := ends_readBoxes bytes strict limit 0 0 bytes.length
  unfold Outcome.Ends at forest
  rw [show (readBoxes bytes strict limit 0 0 bytes.length).result = .ok boxes from read] at forest
  rw [state]
  exact ⟨rfl, rfl, forest.inside⟩

namespace ExifItem

variable {s : Session} {stream : Bytes}

/-- The size of the header stands at the start of the first extent. -/
theorem stored_eq (item : s.ExifItem stream) (rest : s.IsAtRest) :
    ByteOrder.big.unsigned
        (s.cursor.bytes.slice (item.start + item.location.base + item.first.offset) 4) =
      item.header.length := by
  have long := item.long
  have room : item.start + item.location.base + item.first.offset + item.first.length ≤
      s.cursor.bytes.length :=
    Nat.le_trans (item.fit item.first (by simp)) (item.places.limit_le rest.inside)
  have whole := Bytes.slice_length_of_le room
  have number : s.cursor.bytes.slice (item.start + item.location.base + item.first.offset) 4 =
      ByteOrder.big.unsignedBytes 4 item.header.length := by
    calc
      _ = (s.cursor.bytes.slice (item.start + item.location.base + item.first.offset)
            item.first.length).take 4 := by
        rw [Bytes.take_slice, Nat.min_eq_left (by omega)]
      _ = (extentData s.cursor.bytes (item.start + item.location.base)
            (item.first :: item.others)).take 4 := by
        rw [extentData_cons, List.take_append_of_le_length (by omega)]
      _ = ByteOrder.big.unsignedBytes 4 item.header.length := by
        rw [item.data_eq, List.append_assoc,
          List.take_left' (ByteOrder.unsignedBytes_length .big 4 item.header.length)]
  rw [number]
  exact ByteOrder.unsigned_unsignedBytes .big item.header_lt

/-- The payload of the Exif item is the stream, and looking for it leaves the session alone. -/
theorem runs_exifPayload (item : s.ExifItem stream) (rest : s.IsAtRest) :
    Runs exifPayload s (some stream) s := by
  have long := item.long
  have data : (readExtents item.box.item (item.start + item.location.base) item.limit true 0
      item.location.extents).run s.cursor = .ok stream s.cursor := by
    rw [item.extents_eq, run_readExtents_header item.box.item rest.unmarked rest.big item.fit
      (item.places.limit_le rest.inside) (item.stored_eq rest) (by omega) (by omega), item.data_eq,
      List.drop_left' (by simp [Nat.add_comm])]
  obtain ⟨_, _, _, _, located, _⟩ := item.places.located
  apply (runs_findItem isExif item.information_eq located).bind
  rw [item.entry_eq]
  exact item.places.runs_itemData (by rw [item.extents_eq]; exact List.cons_ne_nil _ _) data

end ExifItem

end Session

variable {bytes stream : Bytes} {policy : Policy} {s : Session} {packet : Option Bytes}

/-- The Exif item of a HEIF file carries its stream. -/
theorem carries
    (read : Runs (Session.readAll policy.limit) (Session.start bytes policy.strict) () s)
    (item : s.ExifItem stream) (xmp : (packet? s policy.strict).Gives packet) :
    (metadata bytes policy).Carries (Tiff.metadata stream policy) := by
  have rest := Session.isAtRest_of_readAll read.gives.result_eq
  rw [read.state_eq] at rest
  have exif := item.runs_exifPayload rest
  have session : (Session.exifPayload.run s).2 = s := exif.state_eq
  rw [metadata_eq, read.state_eq]
  apply Outcome.Carries.of_read read.gives
  refine Fills.carries ?_ (Fills.of_fresh _ policy (IsFresh.empty _))
  rw [collect_eq, session]
  refine Fills.lift_bind exif.gives (Fills.after ?_ fun m isOpen _ => ?_)
  · exact Fills.of_fresh stream policy (IsFresh.empty _)
  · exact Spares.lift_bind xmp (Xmp.spares_collect? isOpen packet)

end ImageMetadata.Heif
