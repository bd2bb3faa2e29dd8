import ImageMetadata.Tiff.Directory
import ImageMetadata.Tiff.Header

/-!
# Slots

A directory in the file is a count, so many slots of a fixed size, and the offset of the next
directory. A slot becomes an entry if its tag and its type are known and its value lies inside the
bytes; any other slot is skipped. No slot depends on another. A slot is unpacked as a whole, and the
bytes of a value have the size that its type and count ask for.
-/

namespace ImageMetadata.Tiff

/-- A directory that is still to be read; without an identifier it takes the next free one of the
subordinate image directories. -/
structure Link where
  id : Option DirectoryId
  offset : Nat
  deriving DecidableEq, Repr

/-- The link to the first directory of the main chain. -/
def Link.first (offset : Nat) : Link := ⟨some (.ifd 0), offset⟩

/-- The directories that the value of an entry points to. -/
def Entry.targets (strict : Bool) (e : Entry) : Outcome (List Link) :=
  match Pointer.ofTag? e.tag with
  | none => return []
  | some pointer =>
    if e.type.holdsOffset then
      let offsets := (Value.pieces e.type.size e.count e.raw).map e.order.unsigned
      match pointer with
      | .subIfd => return offsets.map fun offset => ⟨none, offset⟩
      | .fixed id => return (offsets.take 1).map fun offset => ⟨some id, offset⟩
    else do
      Outcome.flag strict (.pointerType e.name e.type)
      return []

/-- The bytes of a value and their position, if they lie inside the stream: in the slot if they fit
there, and else where the slot says. -/
def locate (bytes : Bytes) (h : Header) (slot size : Nat) : Except Nat (Nat × Bytes) :=
  let place := slot + (h.slotSize - h.offsetSize)
  if size ≤ h.offsetSize then .ok (place, bytes.slice place size)
  else
    let offset := h.order.unsigned (bytes.slice place h.offsetSize)
    if h.base + offset + size ≤ bytes.length then
      .ok (h.base + offset, bytes.slice (h.base + offset) size)
    else .error offset

/-- Reads the slot at a position as an entry of a directory. -/
def readSlot (bytes : Bytes) (h : Header) (strict : Bool) (id : DirectoryId) (slot : Nat) :
    Outcome (Option Entry) := do
  Outcome.require ((bytes.slice slot h.slotSize).length == h.slotSize) .valueSize
  let tag := h.order.unsigned (bytes.slice slot 2)
  let code := h.order.unsigned (bytes.slice (slot + 2) 2)
  let count := h.order.unsigned (bytes.slice (slot + 4) h.offsetSize)
  match id.family.name? tag with
  | none =>
    Outcome.flag strict (.unknownTag tag id)
    return none
  | some name =>
    if !h.allows code then
      Outcome.flag strict (.fieldTypeCode code tag name)
      return none
    else
      match FieldType.ofCode? code with
      | none => Outcome.fail (.unknownFieldType code)
      | some type =>
        match locate bytes h slot (type.size * count) with
        | .error offset =>
          Outcome.flag strict (.valueOutside (type.size * count) tag name offset)
          return none
        | .ok (offset, raw) =>
          if fits : raw.length = type.size * count then
            return some ⟨tag, name, type, count, raw, offset, h.order, fits⟩
          else Outcome.fail .valueSize

/-- What a directory in the file holds. -/
structure Contents where
  entries : List Entry
  /-- The directories that its entries point to, in the order of the entries. -/
  children : List Link
  /-- The offset of the next directory, zero if there is none. -/
  next : Nat

/-- The positions of the slots of a directory. -/
def slots (h : Header) (start count : Nat) : List Nat :=
  (List.range count).map fun i => start + i * h.slotSize

/-- Reads a slot as an entry with the directories that it points to. -/
def readEntry (bytes : Bytes) (h : Header) (strict : Bool) (id : DirectoryId) (slot : Nat) :
    Outcome (Option (Entry × List Link)) := do
  match ← readSlot bytes h strict id slot with
  | none => return none
  | some e => return some (e, ← e.targets strict)

/-- Reads the offset of the next directory; there is none if the bytes end first. -/
def readNext (bytes : Bytes) (h : Header) (id : DirectoryId) (position : Nat) : Outcome Nat :=
  match unsignedAt bytes h.order position h.offsetSize with
  | .ok next => return next
  | .error _ => do
    Outcome.trace (.nextOutside id)
    return 0

/-- Reads the directory at a position. -/
def readContents (bytes : Bytes) (h : Header) (strict : Bool) (id : DirectoryId) (position : Nat) :
    Outcome Contents := do
  Outcome.require (position ≤ bytes.length) (.seekOutside position bytes.length)
  let count ← Outcome.ofExcept (unsignedAt bytes h.order position h.countSize)
  let start := position + h.countSize
  let size := count * h.slotSize
  Outcome.require (start + size ≤ bytes.length) (.readOutside size start bytes.length)
  let found ← (slots h start count).mapM (readEntry bytes h strict id)
  let entries := found.filterMap fun slot => slot
  let next ← readNext bytes h id (start + size)
  return ⟨entries.map Prod.fst, entries.flatMap Prod.snd, next⟩

end ImageMetadata.Tiff
