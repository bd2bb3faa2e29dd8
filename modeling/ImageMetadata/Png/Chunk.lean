import ImageMetadata.Checksum.Crc32
import ImageMetadata.Text.Latin1
import ImageMetadata.Text.Quoted

/-!
# PNG chunks

A chunk has a type of four letters, a payload, and a checksum of both. The case of each letter is a
property of the type. The payload and its computed checksum are only kept if the type is wanted.
-/

namespace ImageMetadata.Png

/-- A chunk of a PNG stream. -/
structure Chunk where
  type : Bytes
  /-- The position of the length field. -/
  offset : Nat
  length : Nat
  payload : Option Bytes
  /-- The stored checksum. -/
  crc : Nat
  /-- The checksum of the type and the payload. -/
  computed : Option Nat
  deriving DecidableEq, Repr

/-- The known types with what they hold and whether they may occur more than once. -/
def knownTypes : List (String × String × Bool) :=
  [("IHDR", "Image header", false), ("PLTE", "Palette", false), ("IDAT", "Image data", true),
    ("IEND", "Image trailer", false), ("acTL", "Animation control", false),
    ("cHRM", "Primary chromaticities and white point", false),
    ("cICP", "Coding-independent code points", false), ("gAMA", "Image gamma", false),
    ("iCCP", "Embedded ICC profile", false), ("mDCV", "Mastering display color volume", false),
    ("cLLI", "Content light level information", false), ("sBIT", "Significant bits", false),
    ("sRGB", "Standard RGB color space", false), ("bKGD", "Background color", false),
    ("hIST", "Image histogram", false), ("tRNS", "Transparency", false),
    ("eXIf", "Exchangeable image file profile", false), ("fcTL", "Frame control", true),
    ("pHYs", "Physical pixel dimensions", false), ("sPLT", "Suggested palette", true),
    ("fdAT", "Frame data", true), ("tIME", "Image last-modification time", false),
    ("iTXt", "International textual data", true), ("tEXt", "Textual data", true),
    ("zTXt", "Compressed textual data", true)]

/-- What a type holds and whether it may occur more than once, if the type is known. -/
def info? (type : Bytes) : Option (String × Bool) :=
  (knownTypes.find? fun t => Bytes.ascii t.1 == type).map Prod.snd

/-- Whether a byte is an ASCII letter. -/
def isLetter (b : UInt8) : Bool := (0x41 ≤ b && b ≤ 0x5A) || (0x61 ≤ b && b ≤ 0x7A)

/-- Whether one of the four letters of a type is a small one. -/
def letterIsSmall (type : Bytes) (index : Nat) : Bool := type.getD index 0 &&& 0x20 != 0

/-- The checksum of a chunk with a type and a payload. -/
def crcOf (type payload : Bytes) : Nat := (Checksum.Crc32.checksum (type ++ payload)).toNat

theorem crcOf_lt (type payload : Bytes) : crcOf type payload < Bytes.capacity 4 :=
  BitVec.isLt _

namespace Chunk

def isAncillary (c : Chunk) : Bool := letterIsSmall c.type 0
def isPrivate (c : Chunk) : Bool := letterIsSmall c.type 1
def isReserved (c : Chunk) : Bool := letterIsSmall c.type 2
def isSafeToCopy (c : Chunk) : Bool := letterIsSmall c.type 3

/-- Whether the stored checksum is right, if it was checked. -/
def crcOk (c : Chunk) : Option Bool := c.computed.map fun n => c.crc == n

/-- A text that names the chunk. -/
def describe (c : Chunk) : String :=
  s!"picmeta.png.PngChunk(chunk_type={Text.Quoted.bytes c.type}, offset={c.offset}, " ++
    s!"length={c.length})"

/-- The text that shows the chunk. -/
def text (c : Chunk) : String :=
  let description := match info? c.type with
    | some known => known.1
    | none => "Unknown"
  s!"{description} Chunk ({Text.Latin1.text c.type}) @ ({c.offset}, {c.length})"

end Chunk

end ImageMetadata.Png
