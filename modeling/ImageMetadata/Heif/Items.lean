import ImageMetadata.Heif.Brand
import ImageMetadata.Heif.Forest

/-!
# Items

The items of a HEIF file are found through two boxes: one describes the items, the other says where
their data is. The data of an item is the concatenation of its extents, which lie in the file or in
the item data box. Every query leaves the cursor where it was.
-/

namespace ImageMetadata.Heif

/-- A box that describes an item, with the description. -/
structure ItemBox extends Box, ItemEntry where
  head : VersionFlags
  content_eq : content = .itemEntry head toItemEntry

/-- The box with the description that it holds, if it holds one. -/
def Box.item? (b : Box) : Option ItemBox :=
  match h : b.content with
  | .itemEntry head entry => some ⟨b, entry, head, h⟩
  | _ => none

/-- A HEIF file that is being read. -/
structure Session where
  cursor : Cursor
  boxes : List Box
  strict : Bool
  deriving DecidableEq

namespace Session

/-- A file of which nothing has been read. -/
def start (bytes : Bytes) (strict : Bool) : Session := ⟨Cursor.ofBytes bytes .big, [], strict⟩

/-- The text that shows all boxes. -/
def text (s : Session) : String := String.intercalate "\n" (s.boxes.map Box.text)

/-- A reading with the cursor of the file. -/
def reading {α : Type} (x : Reading α) : Action Session α := fun s =>
  match x.run s.cursor with
  | .ok a c => (Outcome.pure a, { s with cursor := c })
  | .error p c => (Outcome.fail p, { s with cursor := c })

/-- Whether one of some brands is in the HEIF family. -/
def hasBrand (list : List Bytes) : Bool := list.any fun brand => brands.contains brand

/-- Reads the boxes of a file whose first box is a file type box. -/
def load (limit : Int) : Action Session Unit := do
  let s ← Action.state
  let bytes := s.cursor.bytes
  Action.require (8 ≤ bytes.length && bytes.slice 4 4 == Bytes.ascii "ftyp") .noFileTypeBox
  let boxes ← (readBoxes bytes s.strict limit 0 0 bytes.length : Outcome (List Box))
  Action.update fun s => { s with boxes := boxes }

/-- Checks the brands that the first box lists. -/
def checkBrands : Action Session Unit := do
  let s ← Action.state
  match s.boxes with
  | [] => Action.fail .noFirstBox
  | first :: _ =>
    match first.content with
    | .fileType major _ compatible =>
      Outcome.check s.strict (hasBrand (major :: compatible)) (.foreignBrands major compatible)
    | _ => Action.fail (.boxWithout first.id "brands")

/-- Reads the boxes and checks that the file is in the HEIF family. -/
def readAll (limit : Int) : Action Session Unit := do
  load limit
  checkBrands

/-- The check of the brands leaves the session alone. -/
theorem run_checkBrands_snd (s : Session) : (checkBrands.run s).2 = s := by
  unfold checkBrands
  rw [Action.run_state_bind]
  split
  · rfl
  · split <;> rfl

/-- Reading the boxes sets them and nothing else, or does nothing at all. -/
theorem run_load_snd (limit : Int) (s : Session) :
    ((load limit).run s).1.result = .ok () ∧
        (∃ boxes, (readBoxes s.cursor.bytes s.strict limit 0 0 s.cursor.bytes.length).result =
            .ok boxes ∧ ((load limit).run s).2 = { s with boxes := boxes }) ∨
      (∃ p, ((load limit).run s).1.result = .error p) ∧ ((load limit).run s).2 = s := by
  unfold load
  rw [Action.run_state_bind, Action.run_bind_fst, Action.run_bind_snd]
  split
  · rename_i present
    rw [Outcome.bind_of_ok _ present, Action.run_bind_fst, Action.run_bind_snd]
    split
    · rename_i boxes read
      rw [Outcome.bind_of_ok _ read]
      exact .inl ⟨rfl, boxes, read, rfl⟩
    · rename_i p failed
      rw [Outcome.bind_of_error _ failed]
      exact .inr ⟨⟨p, rfl⟩, rfl⟩
  · rename_i p failed
    rw [Outcome.bind_of_error _ failed]
    exact .inr ⟨⟨p, rfl⟩, rfl⟩

/-- A file that is read keeps its cursor and gets the boxes that stand in it. -/
theorem run_readAll_snd {limit : Int} {s : Session}
    (h : ((readAll limit).run s).1.result = .ok ()) :
    ∃ boxes, (readBoxes s.cursor.bytes s.strict limit 0 0 s.cursor.bytes.length).result =
      .ok boxes ∧ ((readAll limit).run s).2 = { s with boxes := boxes } := by
  unfold readAll at h ⊢
  rw [Action.run_bind_fst] at h
  obtain ⟨_, loaded, _⟩ := Outcome.ok_of_bind h
  rw [Action.run_bind_snd]
  rcases run_load_snd limit s with ⟨read, boxes, found, state⟩ | ⟨⟨p, failed⟩, _⟩
  · rw [read]
    dsimp only
    rw [run_checkBrands_snd]
    exact ⟨boxes, found, state⟩
  · rw [failed] at loaded
    cases loaded

/-- The first box with a type code; a box comes before those inside it. -/
def find? (id : Bytes) : Action Session (Option Box) := do
  return Box.find? id (← Action.state).boxes

/-- The boxes that describe and that locate the items. -/
def itemBoxes : Action Session (Box × Box) := do
  match ← find? (Bytes.ascii "iinf"), ← find? (Bytes.ascii "iloc") with
  | none, _ => Action.fail .noItemInformation
  | some _, none => Action.fail .noItemLocation
  | some information, some location => return (information, location)

/-- The first box inside that describes an item and satisfies a condition. -/
def firstItem? (condition : ItemBox → Bool) (information : Box) : Option ItemBox :=
  (information.children.filterMap Box.item?).find? condition

/-- The first box that describes an item and satisfies a condition. -/
def findItem (condition : ItemBox → Bool) : Action Session (Option ItemBox) := do
  let (information, _) ← itemBoxes
  return firstItem? condition information

/-- Where the data of an item is. -/
def location (item : Int) : Action Session Location := do
  let (_, box) ← itemBoxes
  match box.content with
  | .itemLocation _ items =>
    match items.find? fun i => (i.1 : Int) == item with
    | some (_, location) => return location
    | none => Action.fail (.unlocatedItem item)
  | _ => Action.fail (.boxWithout box.id "items")

/-- The range that the extents of an item lie in, by its construction method. -/
def range? (location : Location) : Action Session (Option (Nat × Nat)) := do
  if location.method = 0 then return some (0, (← Action.state).cursor.size)
  else if location.method = 1 then
    match ← find? (Bytes.ascii "idat") with
    | some b => return some (b.dataOffset, b.offset + b.length)
    | none => Action.fail (.noItemData location.item)
  else return none

/-- Reads an extent; if asked to, without a header whose size its first four bytes store. -/
def readExtent (item : Int) (position length : Nat) (skipHeader : Bool) : Reading Bytes := do
  Cursor.seek position
  if skipHeader then
    Cursor.require (8 ≤ length) (.extentTooShort item length)
    let header ← Cursor.unsigned 4
    Cursor.require (header + 4 ≤ length) (.exifHeaderOffset header item)
    Cursor.skip header
    Cursor.read (length - header - 4 : Nat)
  else Cursor.read length

/-- Reads extents that count from a start and have to end before a limit, the first one possibly
without its header. -/
def readExtents (item : Int) (start limit : Nat) (skipHeader : Bool) :
    Nat → List Extent → Reading Bytes
  | _, [] => return []
  | index, e :: rest => do
    let position := start + e.offset
    Cursor.require (position + e.length ≤ limit) (.extentOutside index item e.length position)
    let data ← Cursor.restoring
      (readExtent item position e.length (skipHeader && index == 0))
    return data ++ (← readExtents item start limit skipHeader (index + 1) rest)

/-- The data of an item, unless it is stored in a way that cannot be read. -/
def itemData (item : Int) (skipHeader : Bool) : Action Session (Option Bytes) := do
  let location ← location item
  Action.require (!location.extents.isEmpty) (.noExtents item)
  match ← range? location with
  | none =>
    Outcome.flag (← Action.state).strict (.constructionMethod item location.method)
    return none
  | some (start, limit) =>
    return some (← reading
      (readExtents item (start + location.base) limit skipHeader 0 location.extents))

/-- Whether an item holds a TIFF stream. -/
def isExif (i : ItemBox) : Bool := i.type == some (Bytes.ascii "Exif")

/-- The TIFF stream of the Exif item, if there is one. -/
def exifPayload : Action Session (Option Bytes) := do
  match ← findItem isExif with
  | none =>
    Outcome.trace .noExifItem
    return none
  | some i => itemData i.item true

/-- The content type of XMP packets. -/
def xmpContentType : String := "application/rdf+xml"

/-- Whether an item holds an XMP packet. -/
def isXmp (i : ItemBox) : Bool :=
  i.type == some (Bytes.ascii "mime") && i.contentType == some xmpContentType

/-- The XMP packet, if an item holds one. -/
def xmpPacket : Action Session (Option Bytes) := do
  match ← findItem isXmp with
  | none => return none
  | some i => itemData i.item false

end Session

end ImageMetadata.Heif
