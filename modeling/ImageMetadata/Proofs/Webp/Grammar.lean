import ImageMetadata.Proofs.Parts
import ImageMetadata.Proofs.Runs
import ImageMetadata.Webp.Stream

/-!
# The grammar of WebP streams

A stream is the header with the declared size and stored chunks up to that size, the first one of a
bitstream type; anything may follow. The reader takes such a stream chunk by chunk.
-/

namespace ImageMetadata.Webp

/-- A chunk as it is stored, its size left out. -/
structure StoredChunk where
  fourcc : Bytes
  payload : Bytes
  /-- The bytes after a payload of odd size. -/
  padding : Bytes

namespace StoredChunk

def bytes (c : StoredChunk) : Bytes :=
  c.fourcc ++ ByteOrder.little.unsignedBytes 4 c.payload.length ++ c.payload ++ c.padding

/-- The type has four bytes, and the size fits into its field. -/
structure IsWellFormed (c : StoredChunk) : Prop where
  fourcc_length : c.fourcc.length = 4
  size_lt : c.payload.length < Bytes.capacity 4

/-- A chunk is padded to an even length, unless nothing follows it. -/
def IsPaddedBefore (c : StoredChunk) (after : Bytes) : Prop :=
  c.padding.length = c.payload.length % 2 ∨ c.padding.length ≤ c.payload.length % 2 ∧ after = []

/-- A payload of odd size is padded by one byte, which may be missing after the last one. -/
def ArePadded : List StoredChunk → Prop
  | [] => True
  | [c] => c.padding.length ≤ c.payload.length % 2
  | c :: next :: rest => c.padding.length = c.payload.length % 2 ∧ ArePadded (next :: rest)

/-- The chunk that is read from an offset. -/
def read (wanted : Wanted) (offset : Nat) (c : StoredChunk) : Chunk :=
  ⟨c.fourcc, offset, c.payload.length,
    if wanted.includes c.fourcc then some c.payload else none⟩

/-- The chunks that are read from an offset on. -/
def readAll (wanted : Wanted) (offset : Nat) (list : List StoredChunk) : List Chunk :=
  readParts (fun c => c.bytes.length) (read wanted) offset list

theorem fourcc_of_mem_readAll {wanted : Wanted} {offset : Nat} {list : List StoredChunk} {c : Chunk}
    (member : c ∈ readAll wanted offset list) : ∃ d ∈ list, d.fourcc = c.fourcc := by
  obtain ⟨d, found, _, rfl⟩ := exists_of_mem_readParts member
  exact ⟨d, found, rfl⟩

theorem bytes_length {c : StoredChunk} (h : c.IsWellFormed) :
    c.bytes.length = 8 + c.payload.length + c.padding.length := by
  simp only [bytes, List.length_append, ByteOrder.unsignedBytes_length, h.fourcc_length]

variable {c : StoredChunk}

theorem bytes_append (c : StoredChunk) (after : Bytes) :
    c.bytes ++ after = c.fourcc ++ (ByteOrder.little.unsignedBytes 4 c.payload.length ++
      (c.payload ++ (c.padding ++ after))) := by
  simp only [bytes, List.append_assoc]

theorem fourcc_field (h : c.IsWellFormed) (after : Bytes) :
    (c.bytes ++ after).take 4 = c.fourcc := by
  rw [bytes_append]
  exact List.take_left' h.fourcc_length

theorem size_field (h : c.IsWellFormed) (after : Bytes) :
    ByteOrder.little.unsigned (Bytes.slice (c.bytes ++ after) 4 4) = c.payload.length := by
  rw [bytes_append, Bytes.slice_middle h.fourcc_length (ByteOrder.unsignedBytes_length _ _ _)]
  exact ByteOrder.unsigned_unsignedBytes .little h.size_lt

theorem drop_fields (h : c.IsWellFormed) (after : Bytes) :
    (c.bytes ++ after).drop 8 = c.payload ++ (c.padding ++ after) := by
  rw [bytes_append, ← List.append_assoc]
  exact List.drop_left' (by simp [h.fourcc_length])

/-- Behind a payload with its padding the next chunk stands; the last padding may be missing. -/
theorem drop_padded {after : Bytes} (padded : c.IsPaddedBefore after) :
    (c.payload ++ (c.padding ++ after)).drop (c.payload.length + c.payload.length % 2) = after := by
  rw [← List.append_assoc]
  rcases padded with full | ⟨most, rfl⟩
  · exact List.drop_left' (by rw [List.length_append, full])
  · rw [List.append_nil]
    exact List.drop_eq_nil_of_le (by rw [List.length_append]; omega)

/-- The padding of a chunk before others is complete. -/
theorem ArePadded.head {c : StoredChunk} {rest : List StoredChunk} (h : ArePadded (c :: rest)) :
    c.IsPaddedBefore (rest.flatMap bytes) := by
  cases rest with
  | nil => exact .inr ⟨h, rfl⟩
  | cons next rest => exact .inl h.1

theorem ArePadded.tail {c : StoredChunk} {rest : List StoredChunk} (h : ArePadded (c :: rest)) :
    ArePadded rest := by
  cases rest with
  | nil => trivial
  | cons next rest => exact h.2

end StoredChunk

/-- A stream by its chunks and the bytes after the declared size. -/
structure Stream where
  chunks : List StoredChunk
  rest : Bytes

namespace Stream

def body (s : Stream) : Bytes := s.chunks.flatMap StoredChunk.bytes

def bytes (s : Stream) : Bytes :=
  Bytes.ascii "RIFF" ++ ByteOrder.little.unsignedBytes 4 (4 + s.body.length) ++
    Bytes.ascii "WEBP" ++ s.body ++ s.rest

structure IsWellFormed (s : Stream) : Prop where
  chunk (c : StoredChunk) : c ∈ s.chunks → c.IsWellFormed
  padded : StoredChunk.ArePadded s.chunks
  first (c : StoredChunk) : s.chunks.head? = some c → bitstreamTypes.contains c.fourcc = true
  size_lt : 4 + s.body.length < Bytes.capacity 4

end Stream

open ImageMetadata.Action (Runs)

variable (wanted : Wanted) {fileSize offset : Nat} {p : Progress} {c : StoredChunk} {after : Bytes}

/-- A chunk at the start of the rest is taken, whatever follows its padding. -/
theorem runs_readChunk (h : c.IsWellFormed) (padded : c.IsPaddedBefore after)
    (first : p.chunks ≠ [] ∨ bitstreamTypes.contains c.fourcc = true)
    (total : fileSize = offset + (c.bytes ++ after).length) :
    ∃ left, Runs (readChunk wanted fileSize (c.bytes ++ after)) p left
      ⟨p.chunks ++ [c.read wanted offset], p.fileSize, offset + c.bytes.length⟩ ∧
      left.val = after := by
  have whole : (c.bytes ++ after).length = c.bytes.length + after.length := List.length_append
  have room := StoredChunk.bytes_length h
  have position : fileSize - (c.bytes ++ after).length = offset := by omega
  have stop : fileSize - after.length = offset + c.bytes.length := by omega
  have fits : decide (c.payload.length ≤ (c.payload ++ (c.padding ++ after)).length) = true := by
    simp
  have placed : (!p.chunks.isEmpty || bitstreamTypes.contains c.fourcc) = true := by
    rcases first with some | bitstream
    · simp [some]
    · rw [bitstream, Bool.or_true]
  simp only [readChunk, StoredChunk.size_field h, StoredChunk.fourcc_field h,
    StoredChunk.drop_fields h, StoredChunk.drop_padded padded, position, stop, List.take_left]
  rw [dif_neg (by omega)]
  refine ⟨⟨after, by omega⟩, ?_, rfl⟩
  refine (Runs.update _).bind (Runs.require_bind _ fits (Runs.state_bind ?_))
  refine Runs.require_bind _ placed ((Runs.when_trace _ _).bind ((Runs.trace _).bind ?_))
  exact (Runs.update _).bind ((Runs.update _).bind (.pure _))

/-- All chunks up to the declared size are taken. -/
theorem runs_readChunks {chunks : List StoredChunk} (h : ∀ c ∈ chunks, c.IsWellFormed)
    (padded : StoredChunk.ArePadded chunks)
    (first : p.chunks ≠ [] ∨
      ∀ c, chunks.head? = some c → bitstreamTypes.contains c.fourcc = true)
    (total : fileSize = offset + (chunks.flatMap StoredChunk.bytes).length)
    (start : p.position = offset) :
    Runs (readChunks wanted fileSize (chunks.flatMap StoredChunk.bytes)) p ()
      ⟨p.chunks ++ StoredChunk.readAll wanted offset chunks, p.fileSize, fileSize⟩ := by
  induction chunks generalizing p offset with
  | nil =>
      have same : (⟨p.chunks ++ StoredChunk.readAll wanted offset [], p.fileSize, fileSize⟩ :
          Progress) = p := by
        rw [StoredChunk.readAll, readParts, List.append_nil, total, ← start]
        rfl
      rw [same, List.flatMap_nil, readChunks, if_pos List.isEmpty_nil]
      exact .pure ()
  | cons c rest ih =>
      have wellFormed := h c (by simp)
      rw [List.flatMap_cons] at total ⊢
      have head : p.chunks ≠ [] ∨ bitstreamTypes.contains c.fourcc = true :=
        first.imp_right fun first => first c rfl
      obtain ⟨left, taken, same⟩ := runs_readChunk wanted wellFormed padded.head head total
      have others := ih (p := ⟨p.chunks ++ [c.read wanted offset], p.fileSize,
        offset + c.bytes.length⟩) (fun d member => h d (by simp [member])) padded.tail
        (.inl (by simp))
        (by rw [total, List.length_append, Nat.add_assoc]) rfl
      have some : (c.bytes ++ rest.flatMap StoredChunk.bytes).isEmpty = false := by
        have room := StoredChunk.bytes_length wellFormed
        rw [List.isEmpty_eq_false_iff_exists_mem]
        exact List.exists_mem_of_length_pos (by rw [List.length_append]; omega)
      rw [readChunks, some]
      apply taken.bind
      rw [same]
      simpa [StoredChunk.readAll, readParts] using others

namespace Stream

variable {s : Stream}

theorem runs_readHeader (h : s.IsWellFormed) :
    Runs (readHeader s.bytes) Progress.start (12 + s.body.length)
      ⟨[], some (12 + s.body.length), 12⟩ := by
  have parts : s.bytes = Bytes.ascii "RIFF" ++
      (ByteOrder.little.unsignedBytes 4 (4 + s.body.length) ++
        (Bytes.ascii "WEBP" ++ (s.body ++ s.rest))) := by
    simp only [bytes, List.append_assoc]
  have riff : (Bytes.ascii "RIFF").length = 4 := rfl
  have webp : (Bytes.ascii "WEBP").length = 4 := rfl
  have head : s.bytes.take 4 = Bytes.ascii "RIFF" := by
    rw [parts]
    exact List.take_left' riff
  have size : ByteOrder.little.unsigned (s.bytes.slice 4 4) = 4 + s.body.length := by
    rw [parts, Bytes.slice_middle riff (ByteOrder.unsignedBytes_length _ _ _)]
    exact ByteOrder.unsigned_unsignedBytes .little h.size_lt
  have form : s.bytes.slice 8 4 = Bytes.ascii "WEBP" := by
    rw [parts, ← List.append_assoc]
    exact Bytes.slice_middle (by rw [List.length_append, ByteOrder.unsignedBytes_length]; rfl) webp
  have whole : s.bytes.length = 12 + s.body.length + s.rest.length := by
    rw [parts]
    simp only [List.length_append, ByteOrder.unsignedBytes_length, riff, webp]
    omega
  have declared : 4 + s.body.length + 8 = 12 + s.body.length := by omega
  simp only [readHeader, head, size, form, declared]
  refine Runs.require_bind _ ?_ ((Runs.update _).bind ?_)
  · simp only [beq_self_eq_true, Bool.and_true, decide_eq_true_eq]
    omega
  refine Runs.require_bind _ (beq_self_eq_true _) (Runs.require_bind _ ?_ ?_)
  · exact decide_eq_true (by omega)
  · exact (Runs.update _).bind (.pure _)

/-- A well-formed stream is read as its chunks. -/
theorem runs_read (h : s.IsWellFormed) :
    Runs (read s.bytes wanted) Progress.start ()
      ⟨StoredChunk.readAll wanted 12 s.chunks, some (12 + s.body.length), 12 + s.body.length⟩ := by
  have body : s.bytes.slice 12 (12 + s.body.length - 12) = s.body := by
    rw [bytes, List.append_assoc]
    refine Bytes.slice_middle ?_ (Nat.add_sub_cancel_left _ _).symm
    rw [List.length_append, List.length_append, ByteOrder.unsignedBytes_length]
    rfl
  apply (runs_readHeader h).bind
  rw [body]
  exact runs_readChunks wanted h.chunk h.padded (.inr h.first) rfl rfl

end Stream

end ImageMetadata.Webp
