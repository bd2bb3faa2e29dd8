import ImageMetadata.Bytes
import ImageMetadata.Text.Blank
import ImageMetadata.Text.Latin1
import ImageMetadata.Text.Quoted

/-!
# Boxes

A HEIF file is a forest of boxes. Each box has a type code, a range of bytes, contents that depend
on its type, and, if it is a container, further boxes inside.
-/

namespace ImageMetadata.Heif

/-- A version with flags, which many boxes start with. -/
structure VersionFlags where
  version : Nat
  flags : Nat
  deriving DecidableEq, Repr

/-- A range of bytes that holds a part of an item. -/
structure Extent where
  offset : Nat
  length : Nat
  deriving DecidableEq, Repr

/-- Where the data of an item is. -/
structure Location where
  item : Nat
  method : Nat
  dataReference : Nat
  base : Nat
  extents : List Extent
  deriving DecidableEq, Repr

/-- A typed reference from one item to others. -/
structure Reference where
  type : Bytes
  source : Nat
  targets : List Nat
  deriving DecidableEq, Repr

/-- The description of an item. -/
structure ItemEntry where
  item : Nat
  protection : Nat
  type : Option Bytes
  name : String
  contentType : Option String
  contentEncoding : Option String
  uriType : Option String
  deriving DecidableEq, Repr

/-- The colour information of an image. -/
inductive Colour where
  | coded (primaries transfer matrix : Nat) (fullRange : Bool)
  /-- A profile, of which only the length is kept. -/
  | profile (length : Nat)
  deriving DecidableEq, Repr

/-- What a box holds besides other boxes. -/
inductive Content where
  | fileType (major : Bytes) (minor : Nat) (compatible : List Bytes)
  | metaBox (head : VersionFlags)
  | itemProperties
  | itemPropertyContainer
  | dataInformation
  | itemInformation (head : VersionFlags) (count : Nat)
  | itemEntry (head : VersionFlags) (entry : ItemEntry)
  | itemLocation (head : VersionFlags) (items : List (Nat × Location))
  | itemReference (head : VersionFlags) (references : List Reference)
  | handler (head : VersionFlags) (type : Bytes) (name : String)
  | primaryItem (head : VersionFlags) (item : Nat)
  | propertyAssociation (head : VersionFlags) (associations : List (Nat × List (Bool × Nat)))
  | spatialExtents (head : VersionFlags) (width height : Nat)
  | rotation (angle : Nat)
  | colour (type : Bytes) (info : Colour)
  | itemData
  | mediaData
  | free
  | skip
  | uuid (id : Bytes)
  | unknown
  deriving DecidableEq, Repr

/-- The sorts of boxes. -/
inductive Category where
  | leaf
  | container
  | unknown
  deriving DecidableEq, Repr

namespace Content

/-- The sort of a box with some contents. -/
def category : Content → Category
  | metaBox _ | itemProperties | itemPropertyContainer | dataInformation | itemInformation .. =>
    .container
  | uuid _ | unknown => .unknown
  | _ => .leaf

/-- What a box with some contents is called. -/
def title : Content → String
  | fileType .. => "File Type"
  | metaBox _ => "Meta"
  | itemProperties => "Item Properties"
  | itemPropertyContainer => "Item Property Container"
  | dataInformation => "Data Information"
  | itemInformation .. => "Item Information"
  | itemEntry .. => "Item Information Entry"
  | itemLocation .. => "Item Location"
  | itemReference .. => "Item Reference"
  | handler .. => "Handler"
  | primaryItem .. => "Primary Item"
  | propertyAssociation .. => "Item Property Association"
  | spatialExtents .. => "Image Spatial Extents"
  | rotation _ => "Image Rotation"
  | colour .. => "Colour Information"
  | itemData => "Item Data"
  | mediaData => "Media Data"
  | free => "Free"
  | skip => "Skip"
  | uuid _ => "UUID"
  | unknown => "Unknown"

end Content

/-- The text of a UUID: its digits in five groups. -/
def uuidText (id : Bytes) : String :=
  String.intercalate "-"
    [Text.hex (id.take 4), Text.hex (id.slice 4 2), Text.hex (id.slice 6 2),
      Text.hex (id.slice 8 2), Text.hex (id.drop 10)]

/-- The text of an extent. -/
def Extent.text (e : Extent) : String := s!"Extent(offset={e.offset}, length={e.length})"

/-- The lines that show the contents of a box. -/
def Content.lines : Content → List String
  | .fileType major _ compatible =>
    [s!"Brand:  {Text.Latin1.text major}", s!"Compatibility:  {Text.Quoted.byteList compatible}"]
  | .itemEntry _ entry =>
    [s!"Item ID:  {entry.item}"] ++
      (entry.type.toList.map fun type => s!"Item Type:  {Text.Latin1.text type}") ++
      entry.contentType.toList.map fun type => s!"Content Type:  {type}"
  | .itemLocation _ items =>
    items.map fun i =>
      let extents := String.intercalate ", " (i.2.extents.map Extent.text)
      s!"Item {i.2.item}:  [{extents}]"
  | .spatialExtents _ width height => [s!"Size:  {width} x {height}"]
  | .uuid id => [s!"UUID:  {uuidText id}"]
  | _ => []

/-- A box with the boxes inside. -/
structure Box where
  id : Bytes
  offset : Nat
  length : Nat
  /-- The number of bytes before the payload. -/
  headerSize : Nat
  content : Content
  children : List Box

namespace Box

/-- The position of the payload. -/
def dataOffset (b : Box) : Nat := b.offset + b.headerSize

mutual

/-- Compares two boxes, with the boxes inside. -/
def decEq : (b b' : Box) → Decidable (b = b')
  | ⟨id, offset, length, headerSize, content, children⟩,
    ⟨id', offset', length', headerSize', content', children'⟩ =>
    match decEqAll children children' with
    | .isTrue same =>
      decidable_of_iff
        (id = id' ∧ offset = offset' ∧ length = length' ∧ headerSize = headerSize' ∧
          content = content')
        (by simp [same])
    | .isFalse other => .isFalse (by simp [other])

/-- Compares two forests. -/
def decEqAll : (l l' : List Box) → Decidable (l = l')
  | [], [] => .isTrue rfl
  | [], _ :: _ => .isFalse (by simp)
  | _ :: _, [] => .isFalse (by simp)
  | b :: rest, b' :: rest' =>
    match decEq b b' with
    | .isTrue same =>
      match decEqAll rest rest' with
      | .isTrue same' => .isTrue (by rw [same, same'])
      | .isFalse other => .isFalse (by simp [other])
    | .isFalse other => .isFalse (by simp [other])

end

instance : DecidableEq Box := decEq

/-- A text that names the box. -/
def describe (b : Box) : String :=
  match b.content with
  | .unknown =>
    s!"picmeta.heif.UnknownBox(box_id={Text.Quoted.bytes b.id}, offset={b.offset}, " ++
      s!"length={b.length})"
  | content =>
    s!"picmeta.heif.HeifBox(box_id={Text.Quoted.bytes b.id}, offset={b.offset}, " ++
      s!"length={b.length}, longname='{content.title}')"

mutual

/-- The text that shows a box and the boxes inside. -/
def text : Box → String
  | ⟨id, offset, length, _, content, children⟩ =>
    let head := s!"{content.title} Box ({Text.Latin1.text id}) @ ({offset}, {length})"
    (content.lines.map fun line => "\n    " ++ line).foldl (· ++ ·) head ++ childrenText children

/-- The texts of boxes inside another, each from a new line on. -/
def childrenText : List Box → String
  | [] => ""
  | child :: rest => "\n" ++ Text.indent child.text ++ childrenText rest

end

mutual

/-- The number of boxes in a box, itself included. -/
def count : Box → Nat
  | ⟨_, _, _, _, _, children⟩ => 1 + countAll children

/-- The number of boxes in a forest. -/
def countAll : List Box → Nat
  | [] => 0
  | b :: rest => b.count + countAll rest

end

theorem count_eq (b : Box) : b.count = 1 + countAll b.children := by
  cases b; rw [count]

theorem countAll_append (l r : List Box) : countAll (l ++ r) = countAll l + countAll r := by
  induction l with
  | nil => simp [countAll]
  | cons b rest ih => simp [countAll, ih, Nat.add_assoc]

/-- The first box with a type code in a stack of boxes; a box comes before those inside it. -/
def find? (id : Bytes) : List Box → Option Box
  | [] => none
  | b :: stack => if b.id = id then some b else find? id (b.children ++ stack)
termination_by stack => countAll stack
decreasing_by
  rw [countAll_append, countAll, count_eq]
  omega

end Box

end ImageMetadata.Heif
