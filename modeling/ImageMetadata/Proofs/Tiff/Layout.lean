import ImageMetadata.Tiff.Stream
import ImageMetadata.Proofs.Holds
import Mathlib.Data.List.Sort

/-!
# Layouts of TIFF streams

A directory is laid out as its number of entries, a slot for each entry, the offset of the next
directory, and the values that do not fit into their slots, padded to even lengths. In a stream the
directories follow the header and each other without a gap: the first one of the main chain, the
EXIF, the interoperability and the GPS directory, and the second one of the main chain. The pointers
between them are entries that the layout adds.
-/

namespace ImageMetadata

namespace Tiff

/-- What is written of an entry. -/
structure Field where
  tag : Nat
  type : FieldType
  count : Nat
  raw : Bytes
  raw_length : raw.length = type.size * count

/-- What was written of an entry that is read. -/
def Entry.field (e : Entry) : Field := ⟨e.tag, e.type, e.count, e.raw, e.raw_length⟩

namespace Field

/-- The entry that holds the offset of a directory. -/
def pointer (order : ByteOrder) (tag offset : Nat) : Field :=
  ⟨tag, .long, 1, order.unsignedBytes 4 offset, order.unsignedBytes_length 4 offset⟩

variable (h : Header)

/-- Whether the value is stored in the slot. -/
def isInline (f : Field) : Bool := f.raw.length ≤ h.offsetSize

/-- What is stored after the slots: a value that does not fit into its own, padded to an even length.
-/
def outside (f : Field) : Bytes :=
  if f.isInline h then [] else f.raw ++ List.replicate (f.raw.length % 2) 0

/-- What is stored in the last field of the slot: the value filled up with zeros, or its position. -/
def inside (position : Nat) (f : Field) : Bytes :=
  if f.isInline h then f.raw ++ List.replicate (h.offsetSize - f.raw.length) 0
  else h.order.unsignedBytes h.offsetSize position

/-- The slot of an entry whose value would be stored at a position. -/
def slot (position : Nat) (f : Field) : Bytes :=
  h.order.unsignedBytes 2 f.tag ++ (h.order.unsignedBytes 2 f.type.code ++
    (h.order.unsignedBytes h.offsetSize f.count ++ f.inside h position))

@[simp] theorem length_inside (position : Nat) (f : Field) :
    (f.inside h position).length = h.offsetSize := by
  unfold inside
  split
  · rename_i fits
    have fits : f.raw.length ≤ h.offsetSize := of_decide_eq_true fits
    simp
    omega
  · simp

@[simp] theorem length_slot (position : Nat) (f : Field) :
    (f.slot h position).length = h.slotSize := by
  simp only [slot, List.length_append, ByteOrder.unsignedBytes_length, length_inside,
    Header.offsetSize, Header.slotSize]
  split <;> rfl

/-- The slots of some entries, whose values are stored from a position on. -/
def slots : Nat → List Field → Bytes
  | _, [] => []
  | position, f :: rest => f.slot h position ++ slots (position + (f.outside h).length) rest

/-- The positions of the values of some entries that are stored from a position on. -/
def positions : Nat → List Field → List Nat
  | _, [] => []
  | position, f :: rest =>
    (if f.isInline h then [] else [position]) ++ positions (position + (f.outside h).length) rest

/-- The number of bytes of a directory with some entries. -/
def size (fields : List Field) : Nat :=
  h.countSize + fields.length * h.slotSize + h.offsetSize +
    (fields.flatMap (outside h)).length

@[simp] theorem length_slots (position : Nat) (fields : List Field) :
    (slots h position fields).length = fields.length * h.slotSize := by
  induction fields generalizing position with
  | nil => simp [slots]
  | cons f rest ih => simp [slots, ih, Nat.add_mul, Nat.add_comm]

/-- The order of the entries is all the same for the size. -/
theorem size_perm {l r : List Field} (same : l.Perm r) : size h l = size h r := by
  unfold size
  rw [same.length_eq, (same.flatMap_right _).length_eq]

/-- The entries by ascending tag; those with one tag keep their order. -/
def sorted (fields : List Field) : List Field := fields.mergeSort fun a b => a.tag ≤ b.tag

@[simp] theorem mem_sorted {f : Field} {fields : List Field} : f ∈ sorted fields ↔ f ∈ fields :=
  List.mem_mergeSort

@[simp] theorem outside_pointer (order : ByteOrder) (tag offset : Nat) :
    (pointer order tag offset).outside h = [] := by
  have fits : (pointer order tag offset).isInline h = true := by
    simp only [isInline, pointer, ByteOrder.unsignedBytes_length, Header.offsetSize]
    split <;> rfl
  exact if_pos fits

/-- Entries whose values are in their slots only make room for these. -/
theorem size_sorted_append {fields added : List Field} (small : ∀ f ∈ added, f.outside h = []) :
    size h (sorted (fields ++ added)) = size h fields + added.length * h.slotSize := by
  have empty : added.flatMap (outside h) = [] := List.flatMap_eq_nil_iff.2 small
  have same : size h (sorted (fields ++ added)) = size h (fields ++ added) :=
    size_perm h (List.mergeSort_perm _ _)
  rw [same, size, size, List.length_append, List.flatMap_append, empty, List.append_nil, Nat.add_mul]
  omega

end Field

/-- A directory at its place in a layout. -/
structure Block where
  id : DirectoryId
  offset : Nat
  fields : List Field
  /-- The offset of the next directory, zero if there is none. -/
  next : Nat

namespace Block

variable (h : Header) (b : Block)

/-- The position of the first value that is stored after the slots. -/
def dataStart : Nat :=
  b.offset + h.countSize + b.fields.length * h.slotSize + h.offsetSize

/-- The bytes of a directory. -/
def bytes : Bytes :=
  h.order.unsignedBytes h.countSize b.fields.length ++
    (Field.slots h (b.dataStart h) b.fields ++
      (h.order.unsignedBytes h.offsetSize b.next ++ b.fields.flatMap (Field.outside h)))

/-- The numbers that are stored in a directory and for it have room in their fields. -/
structure Fits : Prop where
  number_lt : b.fields.length < Bytes.capacity h.countSize
  offset_lt : b.offset < Bytes.capacity h.offsetSize
  next_lt : b.next < Bytes.capacity h.offsetSize
  positions_lt : ∀ position ∈ Field.positions h (b.dataStart h) b.fields,
    position < Bytes.capacity h.offsetSize

instance : Decidable (b.Fits h) :=
  decidable_of_iff
    (b.fields.length < Bytes.capacity h.countSize ∧ b.offset < Bytes.capacity h.offsetSize ∧
      b.next < Bytes.capacity h.offsetSize ∧
      ∀ position ∈ Field.positions h (b.dataStart h) b.fields,
        position < Bytes.capacity h.offsetSize)
    ⟨fun ⟨number, offset, next, positions⟩ => ⟨number, offset, next, positions⟩,
      fun fits => ⟨fits.number_lt, fits.offset_lt, fits.next_lt, fits.positions_lt⟩⟩

@[simp] theorem length_bytes : (b.bytes h).length = Field.size h b.fields := by
  simp only [bytes, Field.size, List.length_append, ByteOrder.unsignedBytes_length,
    Field.length_slots]
  omega

theorem countSize_le_length_bytes : h.countSize ≤ (b.bytes h).length := by
  rw [length_bytes, Field.size]
  omega

/-- A directory that may be missing. -/
def optional (id : DirectoryId) (offset : Nat) : Option (List Field) → List Block
  | none => []
  | some fields => [⟨id, offset, fields, 0⟩]

/-- The number of bytes of a directory that may be missing. -/
def optionalSize (h : Header) : Option (List Field) → Nat
  | none => 0
  | some fields => Field.size h fields

/-- Directories stand one after the other from a position on. -/
inductive Contiguous (h : Header) : Nat → List Block → Prop
  | nil (start : Nat) : Contiguous h start []
  | cons {start : Nat} {b : Block} {rest : List Block} (placed : b.offset = start)
      (later : Contiguous h (start + Field.size h b.fields) rest) : Contiguous h start (b :: rest)

variable {h : Header} {blocks : List Block} {start : Nat}

namespace Contiguous

theorem optional {id : DirectoryId} {fields? : Option (List Field)}
    (later : Contiguous h (start + optionalSize h fields?) blocks) :
    Contiguous h start (Block.optional id start fields? ++ blocks) := by
  cases fields? with
  | none => exact later
  | some fields => exact .cons rfl later

/-- Later directories have greater offsets. -/
theorem offsets_lt (contiguous : Contiguous h start blocks) :
    (∀ b ∈ blocks, start ≤ b.offset) ∧ (blocks.map offset).Pairwise (· < ·) := by
  induction contiguous with
  | nil => simp
  | @cons start b rest placed _ ih =>
      obtain ⟨after, ascending⟩ := ih
      have room : 0 < Field.size h b.fields := by
        unfold Field.size Header.countSize
        split <;> omega
      rw [List.map_cons, List.pairwise_cons]
      refine ⟨fun b' member => ?_, fun offset member => ?_, ascending⟩
      · rcases List.mem_cons.1 member with rfl | later
        · exact Nat.le_of_eq placed.symm
        · have := after b' later
          omega
      · obtain ⟨b', later, rfl⟩ := List.mem_map.1 member
        have := after b' later
        omega

/-- Where the directories stand together, each of them stands at its offset. -/
theorem holds {bytes : Bytes} (contiguous : Contiguous h start blocks)
    (together : bytes.Holds (blocks.flatMap (Block.bytes h)) start) :
    ∀ b ∈ blocks, bytes.Holds (b.bytes h) b.offset := by
  induction contiguous with
  | nil => simp
  | @cons start b rest placed _ ih =>
      rw [List.flatMap_cons] at together
      have others := together.right
      rw [length_bytes] at others
      intro b' member
      rcases List.mem_cons.1 member with rfl | later
      · exact placed ▸ together.left
      · exact ih others b' later

end Contiguous

end Block

/-- The header that is laid out before the first directory. -/
def Header.laidOut (order : ByteOrder) (big : Bool) : Header :=
  if big then ⟨order, bigVersion, true, 0, 16⟩ else ⟨order, classicVersion, false, 0, 8⟩

/-- The two letters that stand for a byte order. -/
def Header.mark : ByteOrder → Bytes
  | .little => Bytes.ascii "II"
  | .big => Bytes.ascii "MM"

/-- The bytes of a header. -/
def Header.bytes (h : Header) : Bytes :=
  mark h.order ++ (h.order.unsignedBytes 2 h.version ++
    ((if h.big then h.order.unsignedBytes 2 8 ++ h.order.unsignedBytes 2 0 else []) ++
      h.order.unsignedBytes h.offsetSize h.firstOffset))

/-- The first directory follows the header. -/
theorem Header.length_bytes (order : ByteOrder) (big : Bool) :
    (laidOut order big).bytes.length = (laidOut order big).firstOffset := by
  have mark : (mark order).length = 2 := by cases order <;> decide
  cases big <;> simp [bytes, laidOut, mark, offsetSize]

/-- The only directory of a stream. -/
def Block.only (h : Header) (fields : List Field) : Block :=
  ⟨.ifd ⟨0, Nat.succ_pos _⟩, h.firstOffset, fields, 0⟩

/-- The entries of an EXIF directory, and those of the interoperability directory that it leads to. -/
structure ExifPart where
  fields : List Field
  interop : Option (List Field)

/-- The entries of the directories of a narrow stream, without the pointers between them. -/
structure Layout where
  ifd0 : List Field
  exif : Option ExifPart
  gps : Option (List Field)
  ifd1 : Option (List Field)

/-- The entries of an EXIF directory with the pointer to the interoperability directory. -/
def ExifPart.laidOut (order : ByteOrder) (interopAt : Nat) (e : ExifPart) : List Field :=
  match e.interop with
  | none => e.fields
  | some _ => Field.sorted (e.fields ++ [.pointer order Tag.interopIfd interopAt])

namespace Layout

variable (order : ByteOrder) (l : Layout)

/-- The header of the stream. -/
abbrev header : Header := .laidOut order false

/-- The pointers of the first directory. -/
def pointers (exifAt gpsAt : Nat) : List Field :=
  (l.exif.map fun _ => .pointer order Tag.exifIfd exifAt).toList ++
    (l.gps.map fun _ => .pointer order Tag.gpsIfd gpsAt).toList

/-- The entries of the first directory with the pointers to other ones. -/
def ifd0LaidOut (exifAt gpsAt : Nat) : List Field :=
  Field.sorted (l.ifd0 ++ l.pointers order exifAt gpsAt)

/-- The position of the EXIF directory; what the pointers hold does not matter for the sizes. -/
def exifAt : Nat := 8 + Field.size (header order) (l.ifd0LaidOut order 0 0)

/-- The position of the interoperability directory. -/
def interopAt : Nat :=
  l.exifAt order + Block.optionalSize (header order) (l.exif.map (·.laidOut order 0))

/-- The position of the GPS directory. -/
def gpsAt : Nat :=
  l.interopAt order + Block.optionalSize (header order) (l.exif.bind (·.interop))

/-- The position of the second directory of the main chain. -/
def ifd1At : Nat := l.gpsAt order + Block.optionalSize (header order) l.gps

/-- The directories in the order in which they are laid out. -/
def blocks : List Block :=
  ⟨.ifd ⟨0, Nat.succ_pos _⟩, 8, l.ifd0LaidOut order (l.exifAt order) (l.gpsAt order),
      if l.ifd1.isSome then l.ifd1At order else 0⟩ ::
    (Block.optional .exif (l.exifAt order) (l.exif.map (·.laidOut order (l.interopAt order))) ++
      (Block.optional .interop (l.interopAt order) (l.exif.bind (·.interop)) ++
        (Block.optional .gps (l.gpsAt order) l.gps ++
          Block.optional (.ifd ⟨1, Nat.one_lt_succ_succ _⟩) (l.ifd1At order) l.ifd1)))

/-- The bytes of the stream. -/
def bytes : Bytes :=
  (header order).bytes ++ (l.blocks order).flatMap (Block.bytes (header order))

theorem size_ifd0LaidOut (h : Header) (exifAt gpsAt : Nat) :
    Field.size h (l.ifd0LaidOut order exifAt gpsAt) = Field.size h (l.ifd0LaidOut order 0 0) := by
  have small : ∀ exifAt gpsAt, ∀ f ∈ l.pointers order exifAt gpsAt, f.outside h = [] := by
    intro exifAt gpsAt f member
    simp only [pointers, List.mem_append, Option.mem_toList, Option.map_eq_some_iff] at member
    rcases member with ⟨_, _, rfl⟩ | ⟨_, _, rfl⟩ <;> exact Field.outside_pointer h ..
  unfold ifd0LaidOut
  rw [Field.size_sorted_append h (small _ _), Field.size_sorted_append h (small _ _)]
  cases exif : l.exif <;> cases gps : l.gps <;> simp [pointers, exif, gps]

theorem optionalSize_exif (h : Header) (interopAt : Nat) :
    Block.optionalSize h (l.exif.map (·.laidOut order interopAt)) =
      Block.optionalSize h (l.exif.map (·.laidOut order 0)) := by
  cases l.exif with
  | none => rfl
  | some e =>
      simp only [Option.map_some, Block.optionalSize, ExifPart.laidOut]
      cases e.interop with
      | none => rfl
      | some _ =>
          dsimp only
          rw [Field.size_sorted_append h (by simp), Field.size_sorted_append h (by simp)]
          rfl

theorem contiguous_blocks : Block.Contiguous (header order) 8 (l.blocks order) := by
  refine .cons rfl ?_
  rw [size_ifd0LaidOut]
  apply Block.Contiguous.optional
  rw [optionalSize_exif]
  apply Block.Contiguous.optional
  apply Block.Contiguous.optional
  rw [← List.append_nil (Block.optional _ _ l.ifd1)]
  exact .optional (.nil _)

theorem map_id_optional (id : DirectoryId) (offset : Nat) (fields? : Option (List Field)) :
    ((Block.optional id offset fields?).map Block.id).Sublist [id] := by
  cases fields? with
  | none => exact List.nil_sublist _
  | some fields => exact List.Sublist.refl _

/-- No two directories of a layout have one place. -/
theorem ids_nodup : ((l.blocks order).map Block.id).Nodup := by
  have known : ((l.blocks order).map Block.id).Sublist
      (.ifd 0 :: ([.exif] ++ ([.interop] ++ ([.gps] ++ [.ifd 1])))) := by
    simp only [blocks, List.map_cons, List.map_append]
    apply List.Sublist.cons_cons
    apply (map_id_optional ..).append
    apply (map_id_optional ..).append
    exact (map_id_optional ..).append (map_id_optional ..)
  exact known.nodup (by decide)

end Layout

end Tiff

end ImageMetadata
