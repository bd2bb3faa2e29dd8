import ImageMetadata.Bytes
import ImageMetadata.Text.Printable

/-!
# Quoted text

A text or a byte string is shown between single quotes, or between double quotes if it holds a
single one and no double one. The quote, the backslash and whatever cannot be printed are escaped
by the shortest form that names the code point.
-/

namespace ImageMetadata.Text

/-- The hexadecimal digit of a number below 16. -/
def hexDigit (n : Nat) : Char := if n < 10 then Char.ofNat (48 + n) else Char.ofNat (87 + n)

/-- The `width` low hexadecimal digits of a number, the most significant one first. -/
def hexDigits : Nat → Nat → List Char
  | 0, _ => []
  | width + 1, n => hexDigits width (n / 16) ++ [hexDigit (n % 16)]

/-- The two hexadecimal digits of each byte. -/
def hex (bytes : Bytes) : String := String.ofList (bytes.flatMap fun b => hexDigits 2 b.toNat)

/-- The two hexadecimal digits of each byte, with a space between bytes. -/
def spacedHex (bytes : Bytes) : String :=
  String.intercalate " " (bytes.map fun b => String.ofList (hexDigits 2 b.toNat))

namespace Quoted

/-- The quote that a sequence of code points is put into. -/
def mark (codes : List Nat) : Nat := if codes.contains 39 && !codes.contains 34 then 34 else 39

/-- The characters that stand for one code point between the given quotes. -/
def escape (printable : Nat → Bool) (quote code : Nat) : List Char :=
  if code = quote ∨ code = 92 then [Char.ofNat 92, Char.ofNat code]
  else if code = 9 then [Char.ofNat 92, 't']
  else if code = 10 then [Char.ofNat 92, 'n']
  else if code = 13 then [Char.ofNat 92, 'r']
  else if printable code then [Char.ofNat code]
  else if code < 0x100 then [Char.ofNat 92, 'x'] ++ hexDigits 2 code
  else if code < 0x10000 then [Char.ofNat 92, 'u'] ++ hexDigits 4 code
  else [Char.ofNat 92, 'U'] ++ hexDigits 8 code

/-- The code points between their quotes. -/
def codes (printable : Nat → Bool) (list : List Nat) : List Char :=
  let quote := mark list
  [Char.ofNat quote] ++ list.flatMap (escape printable quote) ++ [Char.ofNat quote]

/-- A text between quotes. -/
def text (s : List Char) : String := String.ofList (codes isPrintable (s.map Char.toNat))

/-- A byte string between quotes behind the letter b; only printable ASCII stands for itself. -/
def bytes (data : Bytes) : String :=
  String.ofList ('b' :: codes (fun n => 0x20 ≤ n && n < 0x7F) (data.map UInt8.toNat))

/-- A list of byte strings between brackets. -/
def byteList (list : List Bytes) : String :=
  "[" ++ String.intercalate ", " (list.map bytes) ++ "]"

end Quoted

end ImageMetadata.Text
