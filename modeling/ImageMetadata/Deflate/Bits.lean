import ImageMetadata.Bytes

/-!
# Bit strings

The bits of a byte come out from its low end. A number is stored with its least significant bit
first, a code word with its most significant bit first.
-/

namespace ImageMetadata.Deflate

/-- A bit string. -/
abbrev Bits := List Bool

namespace Bits

/-- The bits of a byte string. -/
def ofBytes (bytes : Bytes) : Bits :=
  bytes.flatMap fun b => (List.range 8).map fun i => b.toNat.testBit i

/-- The number stored in the next `width` bits, and the bits behind it. -/
def number? : Nat → Bits → Option (Nat × Bits)
  | 0, bits => some (0, bits)
  | _ + 1, [] => none
  | width + 1, b :: bits =>
    (number? width bits).map fun (n, rest) => (2 * n + b.toNat, rest)

/-- The bits from the next byte boundary on, for a bit string that ends at one. -/
def align (bits : Bits) : Bits := bits.drop (bits.length % 8)

end Bits

end ImageMetadata.Deflate
