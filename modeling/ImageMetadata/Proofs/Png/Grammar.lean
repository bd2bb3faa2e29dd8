import ImageMetadata.Png.Stream
import ImageMetadata.Proofs.Parts

/-!
# The grammar of PNG streams

A stream is the signature and stored chunks, of which the first one is the image header and only the
last one is an image trailer; anything may follow.
-/

namespace ImageMetadata.Png

/-- A chunk as it is stored, its length left out. -/
structure StoredChunk where
  type : Bytes
  payload : Bytes
  crc : Nat

/-- Whether a type may occur more than once. -/
def mayRepeat (type : Bytes) : Bool :=
  match info? type with
  | some (_, multiple) => multiple
  | none => true

namespace StoredChunk

def bytes (c : StoredChunk) : Bytes :=
  ByteOrder.big.unsignedBytes 4 c.payload.length ++ c.type ++ c.payload ++
    ByteOrder.big.unsignedBytes 4 c.crc

/-- The type consists of four letters, and the numbers fit into their fields. -/
structure IsWellFormed (c : StoredChunk) : Prop where
  type_length : c.type.length = 4
  letters : c.type.all isLetter = true
  short : c.payload.length ≤ maxLength
  crc_lt : c.crc < Bytes.capacity 4

/-- The stored checksum is the one of the type and the payload. -/
def IsIntact (c : StoredChunk) : Prop := c.crc = crcOf c.type c.payload

/-- A chunk with the checksum that belongs to it. -/
def intact (type payload : Bytes) : StoredChunk := ⟨type, payload, crcOf type payload⟩

theorem isIntact_intact (type payload : Bytes) : (intact type payload).IsIntact := rfl

theorem isWellFormed_intact {type payload : Bytes} (length : type.length = 4)
    (letters : type.all isLetter = true) (short : payload.length ≤ maxLength) :
    (intact type payload).IsWellFormed := ⟨length, letters, short, crcOf_lt type payload⟩

/-- The chunk that is read from an offset. -/
def read (wanted : Wanted) (offset : Nat) (c : StoredChunk) : Chunk :=
  if wanted.includes c.type then
    ⟨c.type, offset, c.payload.length, some c.payload, c.crc, some (crcOf c.type c.payload)⟩
  else ⟨c.type, offset, c.payload.length, none, c.crc, none⟩

/-- The chunks that are read from an offset on. -/
def readAll (wanted : Wanted) (offset : Nat) (list : List StoredChunk) : List Chunk :=
  readParts (fun c => c.bytes.length) (read wanted) offset list

@[simp] theorem read_type (wanted : Wanted) (offset : Nat) (c : StoredChunk) :
    (c.read wanted offset).type = c.type := by
  unfold read
  split <;> rfl

theorem type_of_mem_readAll {wanted : Wanted} {offset : Nat} {list : List StoredChunk} {c : Chunk}
    (member : c ∈ readAll wanted offset list) : ∃ d ∈ list, d.type = c.type := by
  obtain ⟨d, found, position, rfl⟩ := exists_of_mem_readParts member
  exact ⟨d, found, (read_type wanted position d).symm⟩

/-- The stored form of a chunk whose payload was kept. -/
def ofChunk (c : Chunk) : StoredChunk := ⟨c.type, c.payload.getD [], c.crc⟩

/-- Chunks whose payloads are all kept tell how they are stored. -/
theorem map_ofChunk_readAll (offset : Nat) (list : List StoredChunk) :
    (readAll .all offset list).map ofChunk = list := by
  unfold readAll
  induction list generalizing offset with
  | nil => rfl
  | cons c rest ih =>
      rw [readParts, List.map_cons, ih]
      rfl

theorem bytes_length {c : StoredChunk} (h : c.IsWellFormed) :
    c.bytes.length = 12 + c.payload.length := by
  simp only [bytes, List.length_append, ByteOrder.unsignedBytes_length, h.type_length]
  omega

variable {c : StoredChunk}

theorem bytes_append (c : StoredChunk) (after : Bytes) :
    c.bytes ++ after = ByteOrder.big.unsignedBytes 4 c.payload.length ++
      (c.type ++ (c.payload ++ (ByteOrder.big.unsignedBytes 4 c.crc ++ after))) := by
  simp only [bytes, List.append_assoc]

theorem length_field (h : c.IsWellFormed) (after : Bytes) :
    ByteOrder.big.unsigned ((c.bytes ++ after).take 4) = c.payload.length := by
  have fits : c.payload.length < Bytes.capacity 4 := Nat.lt_of_le_of_lt h.short (by decide)
  rw [bytes_append, List.take_left' (ByteOrder.unsignedBytes_length _ _ _)]
  exact ByteOrder.unsigned_unsignedBytes .big fits

theorem type_field (h : c.IsWellFormed) (after : Bytes) :
    (c.bytes ++ after).slice 4 4 = c.type := by
  rw [bytes_append]
  exact Bytes.slice_middle (ByteOrder.unsignedBytes_length _ _ _) h.type_length

theorem drop_fields (h : c.IsWellFormed) (after : Bytes) :
    (c.bytes ++ after).drop 8 =
      c.payload ++ (ByteOrder.big.unsignedBytes 4 c.crc ++ after) := by
  rw [bytes_append, ← List.append_assoc]
  exact List.drop_left' (by simp [h.type_length])

end StoredChunk

/-- A stream by its chunks up to the last one and the bytes after it. -/
structure Stream where
  init : List StoredChunk
  last : StoredChunk
  rest : Bytes

namespace Stream

def chunks (s : Stream) : List StoredChunk := s.init ++ [s.last]

def bytes (s : Stream) : Bytes := signature ++ s.chunks.flatMap StoredChunk.bytes ++ s.rest

theorem take_bytes (s : Stream) : s.bytes.take 8 = signature := by
  rw [bytes, List.append_assoc]
  exact List.take_left' rfl

theorem drop_bytes (s : Stream) :
    s.bytes.drop 8 = s.chunks.flatMap StoredChunk.bytes ++ s.rest := by
  rw [bytes, List.append_assoc]
  exact List.drop_left' rfl

theorem length_bytes (s : Stream) :
    s.bytes.length = 8 + (s.chunks.flatMap StoredChunk.bytes ++ s.rest).length := by
  rw [bytes, List.append_assoc, List.length_append]
  rfl

structure IsWellFormed (s : Stream) : Prop where
  chunk (c : StoredChunk) : c ∈ s.chunks → c.IsWellFormed
  first : s.chunks.head?.map StoredChunk.type = some (Bytes.ascii "IHDR")
  init (c : StoredChunk) : c ∈ s.init → c.type ≠ Bytes.ascii "IEND"
  last : s.last.type = Bytes.ascii "IEND"
  single : s.chunks.Pairwise fun b c => b.type = c.type → mayRepeat b.type = true

end Stream

end ImageMetadata.Png
