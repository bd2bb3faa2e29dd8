import ImageMetadata.Problem
import ImageMetadata.Text.Utf8

/-!
# Values of entries

The bytes of a value are read according to the field type: as UTF-8 text, as bytes, or as numbers. A
single number is a scalar and any other count a list. The text that displays a value shows rationals
as fractions, and breaks off a long list after sixteen items.
-/

namespace ImageMetadata.Tiff

/-- A number stored in an entry. -/
inductive Number where
  | integer (n : Int)
  | real (x : Float)

/-- A decoded value. -/
inductive Value where
  | text (chars : List Char)
  | bytes (data : Bytes)
  | scalar (x : Number)
  | list (items : List Number)

namespace Value

/-- The first `count` pieces of `size` bytes. -/
def pieces (size : Nat) : Nat → Bytes → List Bytes
  | 0, _ => []
  | count + 1, raw => raw.take size :: pieces size count (raw.drop size)

/-- The text without trailing NULs. -/
def trimNul (chars : List Char) : List Char :=
  (chars.reverse.dropWhile (· == Char.ofNat 0)).reverse

/-- The text of ASCII bytes, which are read as UTF-8 with replacement. -/
def text8 (raw : Bytes) : List Char := trimNul (Text.Utf8.decodeReplacing raw)

/-- The quotient of two integers, which is no number if the divisor is zero. -/
def quotient (a b : Int) : Float :=
  if b = 0 then Float.ofBits 0x7FF8000000000000 else Float.ofInt a / Float.ofInt b

/-- The number that the bytes of one piece store. -/
def number (type : FieldType) (order : ByteOrder) (piece : Bytes) : Number :=
  match type with
  | .byte | .ascii | .undefined | .short | .long | .ifd | .long8 | .ifd8 =>
    .integer (order.unsigned piece)
  | .sbyte | .sshort | .slong | .slong8 => .integer (order.signed piece)
  | .rational =>
    .real (quotient (order.unsigned (piece.take 4)) (order.unsigned (piece.drop 4)))
  | .srational => .real (quotient (order.signed (piece.take 4)) (order.signed (piece.drop 4)))
  | .float => .real (Float32.ofBits (UInt32.ofNat (order.unsigned piece))).toFloat
  | .double => .real (Float.ofBits (UInt64.ofNat (order.unsigned piece)))

/-- The text that displays the bytes of one piece. -/
def numberText (type : FieldType) (order : ByteOrder) (piece : Bytes) : String :=
  match type with
  | .rational => s!"{order.unsigned (piece.take 4)}/{order.unsigned (piece.drop 4)}"
  | .srational => s!"{order.signed (piece.take 4)}/{order.signed (piece.drop 4)}"
  | _ =>
    match number type order piece with
    | .integer n => toString n
    | .real x => Decimal.sixDigits x

/-- The value that bytes of the right size store. -/
def ofRaw (type : FieldType) (count : Nat) (raw : Bytes) (order : ByteOrder) : Value :=
  match type with
  | .ascii => .text (text8 raw)
  | .undefined => .bytes raw
  | _ =>
    match (pieces type.size count raw).map (number type order) with
    | [x] => .scalar x
    | items => .list items

/-- The number of items after which the display breaks off. -/
def displayLimit : Nat := 16

/-- The display of bytes without a meaning: as text if they are printable ASCII with optional NULs
at the end, in hexadecimal otherwise. -/
def displayBytes (raw : Bytes) : String :=
  let body := raw.trimEnd (· == 0)
  if !body.isEmpty && body.all (fun b => 0x20 ≤ b && b < 0x7F) then Text.Latin1.text body
  else if displayLimit < raw.length then
    s!"{Text.spacedHex (raw.take displayLimit)} ... ({raw.length} bytes)"
  else Text.spacedHex raw

/-- The display of a list of items. -/
def displayItems (items : List String) : String :=
  if displayLimit < items.length then
    String.intercalate " " (items.take displayLimit) ++ s!" ... ({items.length} values)"
  else String.intercalate " " items

/-- The display of the value that bytes of the right size store. -/
def displayRaw (type : FieldType) (count : Nat) (raw : Bytes) (order : ByteOrder) : String :=
  match type with
  | .ascii => String.ofList (text8 raw)
  | .undefined => displayBytes raw
  | _ => displayItems ((pieces type.size count raw).map (numberText type order))

/-- Whether bytes have a size that a value may have. -/
def accepts (type : FieldType) (count : Nat) (raw : Bytes) : Bool :=
  type == .ascii || type == .undefined || raw.length == type.size * count

/-- The value that bytes store. -/
def decode (type : FieldType) (count : Nat) (raw : Bytes) (order : ByteOrder) :
    Except Problem Value :=
  if accepts type count raw then .ok (ofRaw type count raw order) else .error .valueSize

/-- The display of the value that bytes store. -/
def display (type : FieldType) (count : Nat) (raw : Bytes) (order : ByteOrder) :
    Except Problem String :=
  if accepts type count raw then .ok (displayRaw type count raw order) else .error .valueSize

theorem accepts_of_length {type : FieldType} {count : Nat} {raw : Bytes}
    (h : raw.length = type.size * count) : accepts type count raw = true := by
  simp [accepts, h]

end Value

/-- The field type with a given code, which need not be valid. -/
def FieldType.ofCode (code : Int) : Except Problem FieldType :=
  match if code < 0 then none else FieldType.ofCode? code.toNat with
  | some type => .ok type
  | none => .error (.unknownFieldType code)

/-- The value that bytes store under a type code; a negative count is no value. -/
def Value.decodeCode (code count : Int) (raw : Bytes) (order : ByteOrder) :
    Except Problem Value := do
  decode (← FieldType.ofCode code) count.toNat raw order

/-- The display of the value that bytes store under a type code. -/
def Value.displayCode (code count : Int) (raw : Bytes) (order : ByteOrder) :
    Except Problem String := do
  display (← FieldType.ofCode code) count.toNat raw order

end ImageMetadata.Tiff
