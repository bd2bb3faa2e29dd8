import ImageMetadata.Outcome
import ImageMetadata.Png.Chunk
import ImageMetadata.Signature
import ImageMetadata.Wanted

/-!
# PNG streams

A stream is a signature and a sequence of chunks, from the image header to the first image trailer.
The chunks found so far and the position stay known when the reader fails.
-/

namespace ImageMetadata.Png

/-- What a reader has found so far. -/
structure Progress where
  chunks : List Chunk
  position : Nat

namespace Progress

/-- Nothing found yet. -/
def start : Progress := ⟨[], 0⟩

/-- Moves to a position. -/
def moveTo (position : Nat) : Action Progress Unit :=
  Action.update fun s => { s with position := position }

/-- Adds a chunk to those found. -/
def add (c : Chunk) : Action Progress Unit :=
  Action.update fun s => { s with chunks := s.chunks ++ [c] }

/-- Whether a chunk of some type was found. -/
def has (s : Progress) (type : Bytes) : Bool := s.chunks.any fun c => c.type == type

end Progress

open Progress (moveTo)

/-- The greatest length of a payload. -/
def maxLength : Nat := 0x7FFFFFFF

/-- Checks the place of a chunk type among those before it. -/
def checkPlace (type : Bytes) (offset : Nat) : Action Progress Unit := do
  let s ← Action.state
  Action.require (!s.chunks.isEmpty || type == Bytes.ascii "IHDR") (.firstChunk type)
  match info? type with
  | none => Outcome.trace (.unknownChunk type)
  | some (_, multiple) => Action.require (multiple || !s.has type) (.repeatedChunk type offset)

/-- The chunk of a complete body, whose checksum is checked if the type is wanted. -/
def chunk (wanted : Wanted) (strict : Bool) (type : Bytes) (offset length : Nat) (body : Bytes) :
    Outcome Chunk := do
  let payload := body.take length
  let crc := ByteOrder.big.unsigned (body.slice length 4)
  if wanted.includes type then
    let computed := crcOf type payload
    Outcome.check strict (crc == computed) (.crcMismatch type offset crc computed)
    return ⟨type, offset, length, some payload, crc, some computed⟩
  else return ⟨type, offset, length, none, crc, none⟩

/-- Takes a chunk whose length field stands at an offset and whose payload starts a body. -/
def takeChunk (wanted : Wanted) (strict : Bool) (type : Bytes) (offset length : Nat)
    (body : Bytes) : Action Progress Unit := do
  moveTo (offset + 8)
  Action.require (type.all isLetter) (.chunkType type offset)
  Action.require (length ≤ maxLength && length + 4 ≤ body.length) (.chunkLength type offset length)
  checkPlace type offset
  moveTo (offset + 12 + length)
  Progress.add (← (chunk wanted strict type offset length body : Outcome Chunk))

/-- What follows a chunk; nothing does after the image trailer. -/
abbrev Left (rest : Bytes) := Option { after : Bytes // after.length < rest.length }

/-- Reads the chunk at the start of the rest of a stream of `size` bytes. -/
def readChunk (wanted : Wanted) (strict : Bool) (size : Nat) (rest : Bytes) :
    Action Progress (Left rest) := do
  if _h : rest.length < 12 then Action.fail (.chunksEnd size)
  else
    let length := ByteOrder.big.unsigned (rest.take 4)
    let type := rest.slice 4 4
    let body := rest.drop 8
    takeChunk wanted strict type (size - rest.length) length body
    let after := body.drop (length + 4)
    if type = Bytes.ascii "IEND" then
      Action.when (!after.isEmpty) (Outcome.trace (.trailingBytes after.length))
      return none
    else return some ⟨after, by simp [after, body]; omega⟩

/-- Reads the chunks of a stream of `size` bytes whose rest is given. -/
def readChunks (wanted : Wanted) (strict : Bool) (size : Nat) (rest : Bytes) :
    Action Progress Unit := do
  match ← readChunk wanted strict size rest with
  | none => return
  | some left => readChunks wanted strict size left.val
termination_by rest.length
decreasing_by exact left.property

/-- Reads a PNG stream. -/
def read (bytes : Bytes) (wanted : Wanted) (strict : Bool) : Action Progress Unit := do
  if bytes.take 8 = signature then
    moveTo 8
    readChunks wanted strict bytes.length (bytes.drop 8)
  else Action.fail .noPngSignature

end ImageMetadata.Png
