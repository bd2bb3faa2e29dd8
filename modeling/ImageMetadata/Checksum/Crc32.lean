import ImageMetadata.Bytes

/-!
# CRC-32

The register is shifted towards its low end, one bit of the message at a time; whenever a one falls
out, the reflected polynomial is added. The register starts and ends inverted.
-/

namespace ImageMetadata.Checksum.Crc32

/-- The reflected polynomial. -/
def polynomial : BitVec 32 := 0xEDB88320#32

/-- Shifts the register by one bit. -/
def shift (register : BitVec 32) : BitVec 32 :=
  if register.getLsbD 0 then (register >>> 1) ^^^ polynomial else register >>> 1

/-- Shifts the register by eight bits. -/
def shiftByte (register : BitVec 32) : BitVec 32 :=
  shift (shift (shift (shift (shift (shift (shift (shift register)))))))

/-- Takes one byte of the message into the register. -/
def step (register : BitVec 32) (b : UInt8) : BitVec 32 :=
  shiftByte (register ^^^ b.toBitVec.setWidth 32)

/-- The register after a message. -/
def run (register : BitVec 32) (bytes : Bytes) : BitVec 32 := bytes.foldl step register

/-- The checksum of a message. -/
def checksum (bytes : Bytes) : BitVec 32 := ~~~ (run (BitVec.allOnes 32) bytes)

@[simp] theorem run_append (register : BitVec 32) (a b : Bytes) :
    run register (a ++ b) = run (run register a) b := List.foldl_append

end ImageMetadata.Checksum.Crc32
