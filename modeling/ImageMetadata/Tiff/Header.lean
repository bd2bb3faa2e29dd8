import ImageMetadata.Outcome

/-!
# The header of a TIFF stream

A stream starts with its byte order, a version number and the offset of the first directory. The
version decides whether counts and offsets are narrow or wide. All offsets count from the header.
-/

namespace ImageMetadata.Tiff

/-- The unsigned integer of a width that is stored at a position. -/
def unsignedAt (bytes : Bytes) (order : ByteOrder) (position width : Nat) : Except Problem Nat :=
  if position + width ≤ bytes.length then .ok (order.unsigned (bytes.slice position width))
  else .error (.readOutside width position bytes.length)

/-- The header of a stream. -/
structure Header where
  order : ByteOrder
  version : Nat
  /-- Whether counts and offsets are wide. -/
  big : Bool
  /-- The position of the header. -/
  base : Nat
  firstOffset : Nat
  deriving DecidableEq, Repr

namespace Header

def classicVersion : Nat := 42
def bigVersion : Nat := 43

/-- The size of the entry count of a directory. -/
def countSize (h : Header) : Nat := if h.big then 8 else 2

/-- The size of an entry. -/
def slotSize (h : Header) : Nat := if h.big then 20 else 12

/-- The size of an offset, and of a value that is stored in the entry itself. -/
def offsetSize (h : Header) : Nat := if h.big then 8 else 4

/-- Whether the stream may use the field type with a code. -/
def allows (h : Header) (code : Nat) : Bool :=
  (1 ≤ code && code ≤ 13) || (h.big && 16 ≤ code && code ≤ 18)

/-- The byte order that a mark of two letters stands for. -/
def orderOfMark? (mark : Bytes) : Option ByteOrder :=
  if mark = Bytes.ascii "II" then some .little
  else if mark = Bytes.ascii "MM" then some .big
  else none

/-- Reads the header at a position. A version that is neither of the two counts as the narrow one.
-/
def read (bytes : Bytes) (base : Int) (strict : Bool) : Outcome Header := do
  Outcome.require (0 ≤ base && base + 2 ≤ bytes.length) (.tiffHeaderOutside base)
  let start := base.toNat
  let mark := bytes.slice start 2
  match orderOfMark? mark with
  | none => Outcome.fail (.byteOrderMark mark)
  | some order =>
    let unsigned (offset width : Nat) : Outcome Nat :=
      Outcome.ofExcept (unsignedAt bytes order (start + offset) width)
    let version ← unsigned 2 2
    if version = bigVersion then
      let offsetSize ← unsigned 4 2
      let reserved ← unsigned 6 2
      Outcome.require (offsetSize == 8 && reserved == 0) (.bigHeader offsetSize reserved)
      let first ← unsigned 8 8
      return ⟨order, version, true, start, first⟩
    else
      Outcome.check strict (version == classicVersion) (.tiffVersion version)
      let first ← unsigned 4 4
      return ⟨order, classicVersion, false, start, first⟩

end Header

end ImageMetadata.Tiff
