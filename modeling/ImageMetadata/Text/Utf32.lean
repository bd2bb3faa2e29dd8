import ImageMetadata.Bytes

/-!
# UTF-32

Each character is stored in four bytes as its number. Numbers that no character has are refused.
-/

namespace ImageMetadata.Text.Utf32

/-- The text of bytes. -/
def decode? (order : ByteOrder) : Bytes → Option (List Char)
  | [] => some []
  | a :: b :: c :: d :: rest =>
    if (order.unsigned [a, b, c, d]).isValidChar then
      (decode? order rest).map (Char.ofNat (order.unsigned [a, b, c, d]) :: ·)
    else none
  | _ => none

end ImageMetadata.Text.Utf32
