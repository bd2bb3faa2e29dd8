import ImageMetadata.Bytes

/-!
# Latin-1

Each byte is the character with that code point, so decoding never fails and encoding succeeds
exactly for the characters below U+0100.
-/

namespace ImageMetadata.Text.Latin1

/-- The text of a byte string, one character per byte. -/
def decode (bytes : Bytes) : List Char := bytes.map fun b => Char.ofNat b.toNat

/-- The text of a byte string as a string. -/
def text (bytes : Bytes) : String := String.ofList (decode bytes)

/-- The bytes of a text whose characters all lie below U+0100. -/
def encode? (text : List Char) : Option Bytes :=
  text.mapM fun c => if c.toNat < 0x100 then some (UInt8.ofNat c.toNat) else none

end ImageMetadata.Text.Latin1
