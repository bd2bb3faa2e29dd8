import ImageMetadata.Outcome
import ImageMetadata.Wanted

/-!
# WebP streams

A stream is a RIFF header that declares the size of the file, and chunks up to that size. A chunk of
odd size is followed by a padding byte, unless the file ends there. The chunks found so far, the
size and the position stay known when the reader fails.
-/

namespace ImageMetadata.Webp

/-- A chunk of a WebP stream; the payload is only kept if the type is wanted. -/
structure Chunk where
  fourcc : Bytes
  offset : Nat
  size : Nat
  payload : Option Bytes
  deriving DecidableEq, Repr

/-- What a reader has found so far. -/
structure Progress where
  chunks : List Chunk
  /-- The declared size of the file, once the header is read. -/
  fileSize : Option Nat
  position : Nat

namespace Progress

/-- Nothing found yet. -/
def start : Progress := ⟨[], none, 0⟩

/-- Moves to a position. -/
def moveTo (position : Nat) : Action Progress Unit :=
  Action.update fun s => { s with position := position }

/-- Adds a chunk to those found. -/
def add (c : Chunk) : Action Progress Unit :=
  Action.update fun s => { s with chunks := s.chunks ++ [c] }

/-- Whether a chunk of some type was found. -/
def has (s : Progress) (fourcc : Bytes) : Bool := s.chunks.any fun c => c.fourcc == fourcc

end Progress

open Progress (moveTo)

/-- The types of which one has to come first. -/
def bitstreamTypes : List Bytes := ["VP8 ", "VP8L", "VP8X"].map Bytes.ascii

/-- The types that may occur only once. -/
def singleTypes : List Bytes :=
  ["VP8 ", "VP8L", "VP8X", "ALPH", "ANIM", "ICCP", "EXIF", "XMP "].map Bytes.ascii

/-- Reads the chunk at the start of the rest of a file; the result is what follows it. -/
def readChunk (wanted : Wanted) (fileSize : Nat) (rest : Bytes) :
    Action Progress { after : Bytes // after.length < rest.length } := do
  let offset := fileSize - rest.length
  if _h : rest.length < 8 then Action.fail (.riffChunkHeader rest.length offset)
  else
    let fourcc := rest.take 4
    let size := ByteOrder.little.unsigned (rest.slice 4 4)
    let body := rest.drop 8
    moveTo (offset + 8)
    Action.require (size ≤ body.length) (.riffChunkSize fourcc offset size)
    let s ← Action.state
    Action.require (!s.chunks.isEmpty || bitstreamTypes.contains fourcc) (.firstRiffChunk fourcc)
    Action.when (s.has fourcc && singleTypes.contains fourcc)
      (Outcome.trace (.duplicateRiffChunk fourcc offset))
    let kept := wanted.includes fourcc
    Outcome.trace
      (if kept then .riffChunkRetained fourcc offset else .riffChunkSkipped fourcc offset)
    Progress.add ⟨fourcc, offset, size, if kept then some (body.take size) else none⟩
    let after := body.drop (size + size % 2)
    moveTo (fileSize - after.length)
    return ⟨after, by simp [after, body]; omega⟩

/-- Reads the chunks of a file whose rest, up to its declared size, is given. -/
def readChunks (wanted : Wanted) (fileSize : Nat) (rest : Bytes) : Action Progress Unit := do
  if rest.isEmpty then return
  else
    let left ← readChunk wanted fileSize rest
    readChunks wanted fileSize left.val
termination_by rest.length
decreasing_by exact left.property

/-- Reads the header; the result is the declared size of the file. -/
def readHeader (bytes : Bytes) : Action Progress Nat := do
  Action.require (12 ≤ bytes.length && bytes.take 4 == Bytes.ascii "RIFF") .noRiffHeader
  moveTo 12
  let fileSize := ByteOrder.little.unsigned (bytes.slice 4 4) + 8
  Action.require (bytes.slice 8 4 == Bytes.ascii "WEBP") .riffForm
  Action.require (fileSize ≤ bytes.length) (.declaredFileSize fileSize bytes.length)
  Action.update fun s => { s with fileSize := some fileSize }
  return fileSize

/-- Reads a WebP stream. -/
def read (bytes : Bytes) (wanted : Wanted) : Action Progress Unit := do
  let fileSize ← readHeader bytes
  readChunks wanted fileSize (bytes.slice 12 (fileSize - 12))

end ImageMetadata.Webp
