import ImageMetadata.Outcome
import ImageMetadata.Text.Blank
import ImageMetadata.Tiff.Stream
import ImageMetadata.Xml.Node

/-!
# Collected metadata

The result of reading one file. It is filled while the file is read: of two directories for one
place, of two headers and of two XMP trees the first stays. Once frozen it refuses every change.
-/

namespace ImageMetadata

open Tiff (DirectoryId Directory)

/-- A keyword with a text. -/
structure TextRecord where
  chunkType : String
  keyword : String
  text : String
  language : String
  translatedKeyword : String
  compressed : Bool
  deriving DecidableEq, Repr

/-- The metadata of one file, with the name of the format it was read from. -/
structure Metadata where
  format : String
  header : Option Tiff.Header
  directories : List Directory
  records : List TextRecord
  xmp : Option Xml.Document
  frozen : Bool

namespace Metadata

/-- Nothing collected yet. -/
def empty (format : String) : Metadata := ⟨format, none, [], [], none, false⟩

/-- The directory at a place. -/
def directory? (m : Metadata) (id : DirectoryId) : Option Directory :=
  m.directories.find? fun d => d.id == id

/-- Whether the place is filled. -/
def contains (m : Metadata) (id : DirectoryId) : Bool := (m.directory? id).isSome

/-- The directory at the place with a name; small letters count as capital ones unless the name has
to be exact, and an exact name has to be one of a place. -/
def named? (m : Metadata) (name : String) (exact : Bool) : Except Problem (Option Directory) :=
  if exact then (DirectoryId.ofName name).map m.directory?
  else .ok ((DirectoryId.lookup? name).bind m.directory?)

/-- Whether there is an EXIF directory. -/
def hasExif (m : Metadata) : Bool := m.contains .exif

/-- Whether anything was found. -/
def hasMetadata (m : Metadata) : Bool :=
  !m.directories.isEmpty || !m.records.isEmpty || m.xmp.isSome

/-- The records with a keyword, in file order. -/
def recordsOf (m : Metadata) (keyword : String) : List TextRecord :=
  m.records.filter fun r => r.keyword == keyword

/-- A text that names the metadata. -/
def describe (m : Metadata) : String :=
  let names := String.intercalate ", " (m.directories.map fun d => d.id.name)
  s!"picmeta.metadata.Metadata(format='{m.format}', directories=[{names}])"

/-- The text that shows the metadata; a short one only counts the entries of a directory. -/
def text (m : Metadata) (short : Bool) : String :=
  let directory (d : Directory) : String :=
    Text.indent (if short then s!"{d.id.name}: {d.entries.length} entries" else d.text)
  let records :=
    if m.records.isEmpty then []
    else "    Textual records:" :: m.records.map fun r => s!"        {r.keyword}: {r.text}"
  let xmp := if m.xmp.isSome then ["    XMP packet present"] else []
  String.intercalate "\n"
    ([s!"{m.format} metadata"] ++ m.directories.map directory ++ records ++ xmp)

/-- Fails if the metadata is frozen. -/
def requireOpen : Action Metadata Unit := do
  if (← Action.state).frozen then Action.fail .frozen

/-- Adds a directory, unless its place is filled; tells whether it was added. -/
def addDirectory (d : Directory) (strict : Bool) : Action Metadata Bool := do
  requireOpen
  if (← Action.state).contains d.id then
    Outcome.flag strict (.duplicateDirectory d.id d.offset)
    return false
  else
    Action.update fun m => { m with directories := m.directories ++ [d] }
    return true

/-- Adds directories in order. -/
def addDirectories (strict : Bool) (list : List Directory) : Action Metadata Unit :=
  Action.each (fun d => discard (addDirectory d strict)) list

/-- Adds the directories of a stream, and its header if there is none yet. -/
def addStream (stream : Tiff.Stream) (strict : Bool) : Action Metadata Unit := do
  requireOpen
  Action.update fun m => { m with header := m.header.or (some stream.header) }
  addDirectories strict stream.directories

/-- Adds a record. -/
def addRecord (r : TextRecord) : Action Metadata Unit := do
  requireOpen
  Action.update fun m => { m with records := m.records ++ [r] }

/-- Keeps an XMP tree, if there is one to keep and none yet. -/
def setXmp (tree : Option Xml.Document) : Action Metadata Unit := do
  requireOpen
  Action.update fun m => { m with xmp := m.xmp.or tree }

/-- Refuses changes from now on. -/
def freeze : Action Metadata Unit := Action.update fun m => { m with frozen := true }

/-- The frozen metadata that an action collects. -/
def collect (format : Format) (fill : Action Metadata Unit) : Outcome Metadata :=
  let (outcome, m) := (do fill; freeze : Action Metadata Unit).run (empty format.name)
  (fun _ => m) <$> outcome

end Metadata

end ImageMetadata
