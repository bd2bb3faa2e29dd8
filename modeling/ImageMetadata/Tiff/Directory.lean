import ImageMetadata.Tiff.Tag
import ImageMetadata.Tiff.Value

/-!
# Directories

A directory is a list of entries in file order. An entry keeps the bytes of its value, which always
have the size that its type and count ask for, so its value and its display exist.
-/

namespace ImageMetadata.Tiff

/-- A tagged value of a directory. -/
structure Entry where
  tag : Nat
  name : String
  type : FieldType
  count : Nat
  raw : Bytes
  /-- The position of the value bytes. -/
  offset : Nat
  order : ByteOrder
  raw_length : raw.length = type.size * count
  deriving DecidableEq

namespace Entry

/-- The value of an entry. -/
def value (e : Entry) : Value := Value.ofRaw e.type e.count e.raw e.order

/-- The text that displays the value of an entry. -/
def display (e : Entry) : String := Value.displayRaw e.type e.count e.raw e.order

/-- A text that names the entry. -/
def describe (e : Entry) : String :=
  s!"picmeta.tiff.TiffEntry(tag={e.tag}, name='{e.name}', field_type={e.type.name}, " ++
    s!"count={e.count})"

/-- The line that shows an entry. -/
def line (e : Entry) : String := s!"{e.name} ({e.tag}): {e.display}"

theorem decode_eq (e : Entry) : Value.decode e.type e.count e.raw e.order = .ok e.value := by
  simp [Value.decode, Value.accepts_of_length e.raw_length, value]

theorem display_eq (e : Entry) : Value.display e.type e.count e.raw e.order = .ok e.display := by
  simp [Value.display, Value.accepts_of_length e.raw_length, display]

end Entry

/-- A directory of a TIFF stream. -/
structure Directory where
  id : DirectoryId
  /-- The position of the directory. -/
  offset : Nat
  order : ByteOrder
  entries : List Entry
  /-- The number of directories read before this one. -/
  index : Nat
  /-- The index of the directory that points here; the main chain has none. -/
  parent : Option Nat
  /-- The number of pointers that lead here. -/
  depth : Nat
  deriving DecidableEq

/-- What an entry is looked up by. -/
inductive Key where
  | tag (n : Int)
  | name (text : String)
  deriving DecidableEq, Repr

namespace Key

/-- Whether an entry has the tag or the name. -/
def fits : Key → Entry → Bool
  | tag n, e => (e.tag : Int) == n
  | name text, e => e.name == text

/-- The text of a key. -/
def text : Key → String
  | tag n => toString n
  | name text => text

end Key

namespace Directory

/-- The first entry with a tag or a name. -/
def get? (d : Directory) (key : Key) : Option Entry := d.entries.find? key.fits

/-- The first entry with a tag or a name, which has to exist. -/
def get (d : Directory) (key : Key) : Except Problem Entry :=
  match d.get? key with
  | some e => .ok e
  | none => .error (.noEntry key.text)

/-- Whether some entry has a tag or a name. -/
def contains (d : Directory) (key : Key) : Bool := (d.get? key).isSome

/-- A text that names the directory. -/
def describe (d : Directory) : String :=
  s!"picmeta.tiff.TiffDirectory(identifier={d.id.name}, offset={d.offset}, " ++
    s!"entries={d.entries.length})"

/-- The text that shows a directory with all of its entries. -/
def text (d : Directory) : String :=
  d.entries.foldl (fun shown e => shown ++ "\n    " ++ e.line)
    s!"{d.id.name} directory @ {d.offset}"

end Directory

end ImageMetadata.Tiff
