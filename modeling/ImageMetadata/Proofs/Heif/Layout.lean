import ImageMetadata.Heif.Forest
import ImageMetadata.Proofs.Takes

/-!
# Boxes that are laid out

A forest of boxes is written box by box: a header in one of three forms, the fields of the box, and
the boxes inside. A box may last to the end of the range around it only if no other one follows.
-/

namespace ImageMetadata.Heif

/-- How a box says its length: in 32 bits, in 64 bits, or not at all, if it lasts to the end of the
range around it. -/
inductive SizeForm where
  | short
  | long
  | rest
  deriving DecidableEq, Repr

namespace SizeForm

/-- The number of bytes of a header. -/
def headerSize : SizeForm → Nat
  | long => 16
  | short | rest => 8

/-- The header of a box of some type and length. -/
def header (form : SizeForm) (id : Bytes) (length : Nat) : Bytes :=
  match form with
  | short => ByteOrder.big.unsignedBytes 4 length ++ id
  | long => ByteOrder.big.unsignedBytes 4 1 ++ (id ++ ByteOrder.big.unsignedBytes 8 length)
  | rest => ByteOrder.big.unsignedBytes 4 0 ++ id

/-- The form can say a length; only the last box of a range leaves it out. -/
def Fits (form : SizeForm) (length : Nat) (last : Prop) : Prop :=
  match form with
  | short => length < Bytes.capacity 4
  | long => length < Bytes.capacity 8
  | rest => last

instance (form : SizeForm) (length : Nat) (last : Prop) [Decidable last] :
    Decidable (form.Fits length last) :=
  match form with
  | short => inferInstanceAs (Decidable (length < Bytes.capacity 4))
  | long => inferInstanceAs (Decidable (length < Bytes.capacity 8))
  | rest => inferInstanceAs (Decidable last)

theorem length_header (form : SizeForm) {id : Bytes} (size : id.length = 4) (length : Nat) :
    (form.header id length).length = form.headerSize := by
  cases form <;> simp [header, headerSize, size]

end SizeForm

/-- A version and flags that fit into one and three bytes. -/
structure VersionFlags.Fits (head : VersionFlags) : Prop where
  version_lt : head.version < Bytes.capacity 1
  flags_lt : head.flags < Bytes.capacity 3

instance (head : VersionFlags) : Decidable head.Fits :=
  decidable_of_iff (head.version < Bytes.capacity 1 ∧ head.flags < Bytes.capacity 3)
    ⟨fun ⟨version, flags⟩ => ⟨version, flags⟩, fun ⟨version, flags⟩ => ⟨version, flags⟩⟩

/-- The bytes of a version with flags. -/
def VersionFlags.bytes (head : VersionFlags) : Bytes :=
  ByteOrder.big.unsignedBytes 1 head.version ++ ByteOrder.big.unsignedBytes 3 head.flags

namespace Content

/-- The number of bytes in which an item information box counts its entries. -/
def countWidth (head : VersionFlags) : Nat := if head.version = 0 then 2 else 4

/-- The number of bytes of an item identifier. -/
def idWidth (narrow : Bool) : Nat := if narrow then 2 else 4

/-- A box of some type stores contents in its fields. The fields of media data, free space, item
data and boxes of unregistered types may be anything. -/
inductive StoredAs : Content → Bytes → Bytes → Prop
  | fileType {major : Bytes} {minor : Nat} {compatible : List Bytes}
      (major_length : major.length = 4) (minor_lt : minor < Bytes.capacity 4)
      (lengths : ∀ brand ∈ compatible, brand.length = 4) :
      StoredAs (.fileType major minor compatible) (Bytes.ascii "ftyp")
        (major ++ (ByteOrder.big.unsignedBytes 4 minor ++ compatible.flatten))
  | mediaData (fields : Bytes) : StoredAs .mediaData (Bytes.ascii "mdat") fields
  | free (fields : Bytes) : StoredAs .free (Bytes.ascii "free") fields
  | skip (fields : Bytes) : StoredAs .skip (Bytes.ascii "skip") fields
  | itemData (fields : Bytes) : StoredAs .itemData (Bytes.ascii "idat") fields
  | unknown {id : Bytes} (fields : Bytes) (length : id.length = 4)
      (other : id ≠ Bytes.ascii "mdat") (unruled : decoder? id = none) : StoredAs .unknown id fields
  | metaBox {head : VersionFlags} (fits : head.Fits) :
      StoredAs (.metaBox head) (Bytes.ascii "meta") head.bytes
  | itemInformation {head : VersionFlags} {count : Nat} (fits : head.Fits)
      (count_lt : count < Bytes.capacity (countWidth head)) :
      StoredAs (.itemInformation head count) (Bytes.ascii "iinf")
        (head.bytes ++ ByteOrder.big.unsignedBytes (countWidth head) count)
  | itemProperties : StoredAs .itemProperties (Bytes.ascii "iprp") []
  | itemPropertyContainer : StoredAs .itemPropertyContainer (Bytes.ascii "ipco") []
  | dataInformation : StoredAs .dataInformation (Bytes.ascii "dinf") []

theorem StoredAs.length_id {content : Content} {id fields : Bytes}
    (h : content.StoredAs id fields) : id.length = 4 := by
  cases h with
  | unknown _ length _ _ => exact length
  | _ => rfl

theorem StoredAs.eq_fileType {content : Content} {major id fields : Bytes} {minor : Nat}
    {compatible : List Bytes} (h : content.StoredAs id fields)
    (typed : content = .fileType major minor compatible) : id = Bytes.ascii "ftyp" := by
  cases h with
  | fileType => rfl
  | _ => cases typed

end Content

/-- A box to be written, with its fields and the boxes inside. -/
structure Layout where
  form : SizeForm
  id : Bytes
  content : Content
  fields : Bytes
  inside : List Layout

namespace Layout

mutual

/-- The bytes of a box. -/
def bytes : Layout → Bytes
  | ⟨form, id, _, fields, inside⟩ =>
    let payload := fields ++ bytesAll inside
    form.header id (form.headerSize + payload.length) ++ payload

/-- The bytes of a forest. -/
def bytesAll : List Layout → Bytes
  | [] => []
  | b :: rest => b.bytes ++ bytesAll rest

end

/-- What follows the header of a box. -/
def payload (b : Layout) : Bytes := b.fields ++ bytesAll b.inside

/-- The length of a box, its header included. -/
def length (b : Layout) : Nat := b.form.headerSize + b.payload.length

mutual

/-- The box that stands at a position. -/
def box (offset : Nat) : Layout → Box
  | ⟨form, id, content, fields, inside⟩ =>
    ⟨id, offset, form.headerSize + (fields ++ bytesAll inside).length, form.headerSize, content,
      boxesAll (offset + form.headerSize + fields.length) inside⟩

/-- The boxes of a forest that stands at a position. -/
def boxesAll (offset : Nat) : List Layout → List Box
  | [] => []
  | b :: rest => b.box offset :: boxesAll (offset + b.length) rest

end

mutual

/-- The number of containers around the innermost boxes; an empty container counts as well. -/
def nesting : Layout → Nat
  | ⟨_, _, content, _, inside⟩ => if content.category = .container then nestingAll inside + 1 else 0

/-- The nesting of a forest is that of the box that is nested most. -/
def nestingAll : List Layout → Nat
  | [] => 0
  | b :: rest => max b.nesting (nestingAll rest)

end

/-- Every box of a forest stores its contents, has a header that can say its length, and has no
boxes inside unless it is a container. -/
inductive AreLaidOut : List Layout → Prop
  | nil : AreLaidOut []
  | cons {b : Layout} {rest : List Layout} (stored : b.content.StoredAs b.id b.fields)
      (fits : b.form.Fits b.length (rest = []))
      (childless : b.content.category ≠ .container → b.inside = [])
      (inside : AreLaidOut b.inside) (siblings : AreLaidOut rest) : AreLaidOut (b :: rest)

variable (b : Layout) (rest : List Layout) (offset : Nat)

@[simp] theorem bytesAll_nil : bytesAll [] = [] := by rw [bytesAll]

theorem bytesAll_cons : bytesAll (b :: rest) = b.bytes ++ bytesAll rest := by rw [bytesAll]

theorem bytes_eq : b.bytes = b.form.header b.id b.length ++ b.payload := by
  cases b
  rw [bytes]
  rfl

variable {b} in
theorem length_bytes (size : b.id.length = 4) : b.bytes.length = b.length := by
  rw [bytes_eq, List.length_append, SizeForm.length_header _ size]
  rfl

theorem length_eq :
    b.length = b.form.headerSize + (b.fields.length + (bytesAll b.inside).length) := by
  rw [length, payload, List.length_append]

variable {b offset} in
/-- The boxes inside stand behind the fields. -/
theorem holds_inside {bytes : Bytes} (size : b.id.length = 4) (held : bytes.Holds b.bytes offset) :
    bytes.Holds (bytesAll b.inside) (offset + b.form.headerSize + b.fields.length) := by
  rw [bytes_eq] at held
  have inside := held.right.right
  rwa [SizeForm.length_header _ size] at inside

@[simp] theorem boxesAll_nil : boxesAll offset [] = [] := by rw [boxesAll]

theorem boxesAll_cons :
    boxesAll offset (b :: rest) =
      ⟨b.id, offset, b.length, b.form.headerSize, b.content,
        boxesAll (offset + b.form.headerSize + b.fields.length) b.inside⟩ ::
          boxesAll (offset + b.length) rest := by
  cases b
  rw [boxesAll, box]
  rfl

theorem nestingAll_le_cons : nestingAll rest ≤ nestingAll (b :: rest) := by
  rw [nestingAll]
  exact Nat.le_max_right _ _

variable {b} in
theorem nestingAll_inside_lt (container : b.content.category = .container) :
    nestingAll b.inside < nestingAll (b :: rest) := by
  obtain ⟨form, id, content, fields, inside⟩ := b
  have nested : nestingAll inside + 1 = nesting ⟨form, id, content, fields, inside⟩ := by
    rw [nesting, if_pos container]
  rw [nestingAll, ← nested]
  exact Nat.le_max_left _ _

end Layout

end ImageMetadata.Heif
