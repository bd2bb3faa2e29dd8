import ImageMetadata.Bytes

/-!
# Adler-32

Two running sums modulo 65521: the first adds the bytes, the second the values of the first.
-/

namespace ImageMetadata.Checksum.Adler32

/-- The modulus of both sums, the largest prime below 2^16. -/
def modulus : Nat := 65521

/-- Takes one byte into both sums. -/
def step (sums : Nat × Nat) (b : UInt8) : Nat × Nat :=
  let first := (sums.1 + b.toNat) % modulus
  (first, (sums.2 + first) % modulus)

/-- The checksum of a message, the second sum in the high half. -/
def checksum (bytes : Bytes) : Nat :=
  let sums := bytes.foldl step (1, 0)
  sums.2 * 65536 + sums.1

end ImageMetadata.Checksum.Adler32
