import ImageMetadata.Checksum.Adler32
import ImageMetadata.Deflate.Inflate

/-!
# The zlib frame

Two header bytes name the method and the window and are a multiple of 31; the compressed stream
follows, then its Adler-32. What stands behind the checksum is ignored.
-/

namespace ImageMetadata.Deflate.Zlib

/-- Whether two bytes are a header that asks for no preset dictionary. -/
def isHeader (a b : UInt8) : Bool :=
  a.toNat % 16 == 8 && a.toNat / 16 ≤ 7 && (a.toNat * 256 + b.toNat) % 31 == 0 &&
    b.toNat / 32 % 2 == 0

/-- The bytes that a frame holds, if header, stream and checksum are all in order. -/
def decompress? : Bytes → Option Bytes
  | a :: b :: rest =>
    if isHeader a b then do
      let (data, bits) ← inflate? (Bits.ofBytes rest)
      let tail := rest.drop (rest.length - bits.align.length / 8)
      if tail.length < 4 then none
      else if ByteOrder.big.unsigned (tail.take 4) = Checksum.Adler32.checksum data then some data
      else none
    else none
  | _ => none

end ImageMetadata.Deflate.Zlib
