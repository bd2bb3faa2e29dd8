import ImageMetadata.Cursor
import ImageMetadata.Heif.Box
import ImageMetadata.Text.Utf8

/-!
# Box contents

The contents of a box are decoded from its payload by rules that depend on its type code. What the
rules do not read is ignored; in a container it is where the boxes inside begin.
-/

namespace ImageMetadata.Heif

namespace Content

open Cursor (unsigned field code times)

/-- A version and flags. -/
def versionFlags : Reading VersionFlags := do
  let version ← unsigned 1
  return ⟨version, ByteOrder.big.unsigned (← Cursor.read 3)⟩

/-- A UTF-8 text up to a zero byte, or up to the end of the payload if there is none. -/
def zeroEnded : Reading String := do
  let c ← get
  let data := c.bytes.drop c.position
  let (chars, size) := match Bytes.splitZero? data with
    | some (chars, _) => (chars, chars.length + 1)
    | none => (data, data.length)
  Cursor.skip size
  return String.ofList (Text.Utf8.decodeReplacing chars)

/-- A zero-ended text, unless the payload ends before it. -/
def optionalText : Reading (Option String) := do
  if 0 < (← get).remaining then return some (← zeroEnded) else return none

/-- An item identifier, narrow in some versions of a box. -/
def itemId (narrow : Bool) : Reading Nat := unsigned (if narrow then 2 else 4)

/-- Sets the value of a key: a new key comes last, a known one keeps its place. -/
def insert {α : Type} (key : Nat) (value : α) : List (Nat × α) → List (Nat × α)
  | [] => [(key, value)]
  | (k, v) :: rest => if k = key then (key, value) :: rest else (k, v) :: insert key value rest

/-- The values by key, of which the last one counts. -/
def keyed {α : Type} (list : List (Nat × α)) : List (Nat × α) :=
  list.foldl (fun found p => insert p.1 p.2 found) []

def decodeFileType : Reading Content := do
  let major ← code
  let minor ← unsigned 4
  let compatible ← times ((← get).remaining / 4) code
  return fileType major minor compatible

def decodeItemInformation : Reading Content := do
  let head ← versionFlags
  return itemInformation head (← itemId (head.version == 0))

/-- The content type of an item, and the encoding if the payload goes on. -/
def mimeTexts : Reading (String × Option String) := do
  let type ← zeroEnded
  return (type, ← optionalText)

def decodeItemEntry : Reading Content := do
  let head ← versionFlags
  if head.version < 2 then
    let item ← unsigned 2
    let protection ← unsigned 2
    let name ← zeroEnded
    let (type, encoding) ← mimeTexts
    return itemEntry head ⟨item, protection, none, name, some type, encoding, none⟩
  else
    let item ← itemId (head.version == 2)
    let protection ← unsigned 2
    let type ← code
    let name ← zeroEnded
    if type = Bytes.ascii "mime" then
      let (contentType, encoding) ← mimeTexts
      return itemEntry head ⟨item, protection, some type, name, some contentType, encoding, none⟩
    else if type = Bytes.ascii "uri " then
      let uri ← zeroEnded
      return itemEntry head ⟨item, protection, some type, name, none, none, some uri⟩
    else return itemEntry head ⟨item, protection, some type, name, none, none, none⟩

/-- The widths of the fields of item locations. -/
structure LocationSizes where
  offset : Nat
  length : Nat
  base : Nat
  index : Nat
  deriving DecidableEq, Repr

/-- Whether every field has one of the three widths. -/
def LocationSizes.valid (s : LocationSizes) : Bool :=
  [s.offset, s.length, s.base, s.index].all fun n => [0, 4, 8].contains n

def decodeExtent (sizes : LocationSizes) : Reading Extent := do
  discard (field sizes.index)
  let offset ← field sizes.offset
  return ⟨offset, ← field sizes.length⟩

/-- The construction method of an item, which the first version does not store. -/
def itemMethod (version : Nat) : Reading Nat :=
  if version = 0 then return 0 else return (← unsigned 2) % 16

def decodeLocation (version : Nat) (sizes : LocationSizes) : Reading Location := do
  let item ← itemId (version < 2)
  let method ← itemMethod version
  let dataReference ← unsigned 2
  let base ← field sizes.base
  let count ← unsigned 2
  return ⟨item, method, dataReference, base, ← times count (decodeExtent sizes)⟩

def decodeItemLocation : Reading Content := do
  let head ← versionFlags
  Cursor.require (head.version ≤ 2) (.locationVersion head.version)
  let first ← unsigned 1
  let second ← unsigned 1
  let index := if head.version = 0 then 0 else second % 16
  let sizes : LocationSizes := ⟨first / 16, first % 16, second / 16, index⟩
  Cursor.require sizes.valid
    (.locationFieldSizes sizes.offset sizes.length sizes.base sizes.index)
  let count ← itemId (head.version < 2)
  let locations ← times count (decodeLocation head.version sizes)
  return itemLocation head (keyed (locations.map fun l => (l.item, l)))

/-- Reads one reference and moves to its declared end. -/
def decodeReference (narrow : Bool) : Reading Reference := do
  let start ← get
  let size ← unsigned 4
  let type ← code
  Cursor.require (8 ≤ size && size ≤ start.remaining) (.referenceSize type size)
  let source ← itemId narrow
  let count ← unsigned 2
  let targets ← times count (itemId narrow)
  Cursor.seek (start.position + size)
  return ⟨type, source, targets⟩

/-- Reads references while a header fits; each takes at least eight bytes. -/
def decodeReferences (narrow : Bool) : Nat → List Reference → Reading (List Reference)
  | 0, found => return found.reverse
  | fuel + 1, found => do
    if (← get).remaining < 8 then return found.reverse
    else
      let reference ← decodeReference narrow
      decodeReferences narrow fuel (reference :: found)

def decodeItemReference : Reading Content := do
  let head ← versionFlags
  let fuel := (← get).size / 8 + 1
  return itemReference head (← decodeReferences (head.version == 0) fuel [])

def decodeHandler : Reading Content := do
  let head ← versionFlags
  discard (unsigned 4)
  let type ← code
  Cursor.skip 12
  return handler head type (← zeroEnded)

def decodePrimaryItem : Reading Content := do
  let head ← versionFlags
  return primaryItem head (← itemId (head.version == 0))

/-- A property index, with a bit that says whether the property is essential. -/
def decodeAssociation (wide : Bool) : Reading (Bool × Nat) := do
  let bit := if wide then 0x8000 else 0x80
  let value ← unsigned (if wide then 2 else 1)
  return (bit ≤ value, value % bit)

def decodePropertyAssociation : Reading Content := do
  let head ← versionFlags
  let count ← unsigned 4
  let items ← times count do
    let item ← itemId (head.version < 1)
    let number ← unsigned 1
    return (item, ← times number (decodeAssociation (head.flags % 2 == 1)))
  return propertyAssociation head (keyed items)

def decodeSpatialExtents : Reading Content := do
  let head ← versionFlags
  let width ← unsigned 4
  return spatialExtents head width (← unsigned 4)

def decodeRotation : Reading Content := do
  return rotation ((← unsigned 1) % 4 * 90)

def decodeColour : Reading Content := do
  let type ← code
  if type = Bytes.ascii "nclx" then
    let primaries ← unsigned 2
    let transfer ← unsigned 2
    let matrix ← unsigned 2
    return colour type (.coded primaries transfer matrix (0x80 ≤ (← unsigned 1)))
  else return colour type (.profile (← get).remaining)

def decodeUuid : Reading Content := do
  let id ← Cursor.read 16
  Cursor.require (id.length == 16) (.uuidSize id.length)
  return uuid id

/-- The rule for each type code that is known, media data apart. -/
def decoders : List (String × Reading Content) :=
  [("colr", decodeColour), ("dinf", return dataInformation), ("free", return free),
    ("ftyp", decodeFileType), ("hdlr", decodeHandler), ("idat", return itemData),
    ("iinf", decodeItemInformation), ("iloc", decodeItemLocation), ("infe", decodeItemEntry),
    ("ipco", return itemPropertyContainer), ("ipma", decodePropertyAssociation),
    ("iprp", return itemProperties), ("iref", decodeItemReference), ("irot", decodeRotation),
    ("ispe", decodeSpatialExtents), ("meta", do return metaBox (← versionFlags)),
    ("pitm", decodePrimaryItem), ("skip", return skip), ("uuid", decodeUuid)]

/-- The rule for a type code, if it is known. -/
def decoder? (id : Bytes) : Option (Reading Content) :=
  (decoders.find? fun d => Bytes.ascii d.1 == id).map Prod.snd

/-- Whether items cannot be found without boxes of a type. -/
def isRequired (id : Bytes) : Bool :=
  (["ftyp", "meta", "iinf", "infe", "iloc"].map Bytes.ascii).contains id

end Content

end ImageMetadata.Heif
