import ImageMetadata.Bytes

/-!
# UTF-16

A text is stored in units of 16 bits. A character is one unit or, beyond U+FFFF, a high surrogate
and a low one; a surrogate without its partner has no meaning.
-/

namespace ImageMetadata.Text.Utf16

/-- The units that the bytes store, if they are complete. -/
def units (order : ByteOrder) : Bytes → Option (List Nat)
  | [] => some []
  | [_] => none
  | a :: b :: rest => (units order rest).map (order.unsigned [a, b] :: ·)

/-- The characters that units stand for. -/
def ofUnits : List Nat → Option (List Char)
  | [] => some []
  | n :: rest =>
    if n.isValidChar then (ofUnits rest).map (Char.ofNat n :: ·)
    else
      match rest with
      | m :: rest =>
        if 0xD800 ≤ n ∧ n < 0xDC00 ∧ 0xDC00 ≤ m ∧ m < 0xE000 then
          (ofUnits rest).map (Char.ofNat (0x10000 + (n - 0xD800) * 0x400 + (m - 0xDC00)) :: ·)
        else none
      | [] => none

/-- The text of bytes. -/
def decode? (order : ByteOrder) (bytes : Bytes) : Option (List Char) :=
  (units order bytes).bind ofUnits

end ImageMetadata.Text.Utf16
