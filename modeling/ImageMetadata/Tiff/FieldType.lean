/-!
# Field types

Each entry of a directory says by a code how its value is stored. Sixteen codes are known; three of
them are for streams with wide offsets only.
-/

namespace ImageMetadata.Tiff

/-- How the value of an entry is stored. -/
inductive FieldType where
  | byte
  | ascii
  | short
  | long
  | rational
  | sbyte
  | undefined
  | sshort
  | slong
  | srational
  | float
  | double
  | ifd
  | long8
  | slong8
  | ifd8
  deriving DecidableEq, Repr

namespace FieldType

/-- Every field type, by ascending code. -/
def all : List FieldType :=
  [byte, ascii, short, long, rational, sbyte, undefined, sshort, slong, srational, float, double,
    ifd, long8, slong8, ifd8]

/-- The code of a field type. -/
def code : FieldType → Nat
  | byte => 1
  | ascii => 2
  | short => 3
  | long => 4
  | rational => 5
  | sbyte => 6
  | undefined => 7
  | sshort => 8
  | slong => 9
  | srational => 10
  | float => 11
  | double => 12
  | ifd => 13
  | long8 => 16
  | slong8 => 17
  | ifd8 => 18

/-- The number of bytes that one value takes. -/
def size : FieldType → Nat
  | byte | ascii | sbyte | undefined => 1
  | short | sshort => 2
  | long | slong | float | ifd => 4
  | rational | srational | double | long8 | slong8 | ifd8 => 8

/-- The name of a field type. -/
def name : FieldType → String
  | byte => "BYTE"
  | ascii => "ASCII"
  | short => "SHORT"
  | long => "LONG"
  | rational => "RATIONAL"
  | sbyte => "SBYTE"
  | undefined => "UNDEFINED"
  | sshort => "SSHORT"
  | slong => "SLONG"
  | srational => "SRATIONAL"
  | float => "FLOAT"
  | double => "DOUBLE"
  | ifd => "IFD"
  | long8 => "LONG8"
  | slong8 => "SLONG8"
  | ifd8 => "IFD8"

/-- The field type with a given code. -/
def ofCode? (n : Nat) : Option FieldType := all.find? fun t => t.code == n

/-- Whether a value of the type may be the offset of a directory. -/
def holdsOffset : FieldType → Bool
  | short | long | ifd | long8 | ifd8 => true
  | _ => false

@[simp] theorem ofCode?_code (t : FieldType) : ofCode? t.code = some t := by cases t <;> rfl

theorem code_injective : Function.Injective code := by
  intro a b h
  simpa using congrArg ofCode? h

end FieldType

end ImageMetadata.Tiff
