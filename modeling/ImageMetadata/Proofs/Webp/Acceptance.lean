import ImageMetadata.Proofs.Holds
import ImageMetadata.Proofs.Webp.Grammar

/-!
# What the WebP reader accepts

The reader accepts a header and the chunks that fill the declared size, and nothing else, and it
finds these chunks. Behind the declared size it looks at nothing.
-/

namespace ImageMetadata.Webp

open ImageMetadata.Action (Runs Yields)

variable {wanted : Wanted} {fileSize offset : Nat} {p q : Progress} {c : StoredChunk}
  {bytes after rest : Bytes} {chunks : List StoredChunk}

namespace StoredChunk

/-- Bytes start with a chunk if its payload fits into them. -/
theorem exists_bytes_append (room : 8 ≤ rest.length)
    (fits : ByteOrder.little.unsigned (rest.slice 4 4) ≤ (rest.drop 8).length) :
    ∃ (c : StoredChunk) (after : Bytes), c.IsWellFormed ∧ c.IsPaddedBefore after ∧
      rest = c.bytes ++ after := by
  obtain ⟨fourcc, fields, rfl, four⟩ := Bytes.exists_append (show 4 ≤ rest.length by omega)
  obtain ⟨number, body, rfl, width⟩ :=
    Bytes.exists_append (show 4 ≤ fields.length by rw [List.length_append] at room; omega)
  rw [Bytes.slice_middle four width, ← List.append_assoc,
    List.drop_left' (by simp [four, width])] at fits
  obtain ⟨payload, tail, rfl, length⟩ := Bytes.exists_append fits
  have stored : ByteOrder.little.unsignedBytes 4 payload.length = number := by
    rw [length, ← width, ByteOrder.unsignedBytes_unsigned]
  have small : payload.length < Bytes.capacity 4 := by
    rw [length, ← width]
    exact ByteOrder.little.unsigned_lt number
  by_cases full : payload.length % 2 ≤ tail.length
  · obtain ⟨padding, after, rfl, size⟩ := Bytes.exists_append full
    refine ⟨⟨fourcc, payload, padding⟩, after, ⟨four, small⟩, .inl size, ?_⟩
    rw [bytes_append, stored]
  · refine ⟨⟨fourcc, payload, tail⟩, [], ⟨four, small⟩, .inr ⟨by dsimp only; omega, rfl⟩, ?_⟩
    rw [bytes_append, stored, List.append_nil]

end StoredChunk

/-- What the reader takes a chunk from starts with a stored chunk, the first time with one of a
bitstream type. -/
theorem exists_of_yields_readChunk {left : { after : Bytes // after.length < rest.length }}
    (h : Yields (readChunk wanted fileSize rest) p left q) :
    ∃ (c : StoredChunk) (after : Bytes), c.IsWellFormed ∧ c.IsPaddedBefore after ∧
      (p.chunks ≠ [] ∨ bitstreamTypes.contains c.fourcc = true) ∧ rest = c.bytes ++ after := by
  unfold readChunk Progress.moveTo at h
  split at h
  · exact absurd h Yields.not_fail
  · rename_i long
    rw [Yields.update_bind_iff, Yields.require_bind_iff, Yields.state_bind_iff,
      Yields.require_bind_iff] at h
    obtain ⟨fits, first, _⟩ := h
    obtain ⟨c, after, wellFormed, padded, rfl⟩ :=
      StoredChunk.exists_bytes_append (Nat.le_of_not_lt long) (of_decide_eq_true fits)
    rw [StoredChunk.fourcc_field wellFormed] at first
    exact ⟨c, after, wellFormed, padded, by simpa using first, rfl⟩

/-- Each chunk takes some bytes. -/
theorem StoredChunk.eq_nil_of_flatMap_bytes (empty : chunks.flatMap StoredChunk.bytes = []) :
    chunks = [] := by
  cases chunks with
  | nil => rfl
  | cons c others =>
      have none := congrArg List.length (List.append_eq_nil_iff.1 empty).1
      simp only [StoredChunk.bytes, List.length_append, ByteOrder.unsignedBytes_length,
        List.length_nil] at none
      omega

theorem StoredChunk.ArePadded.cons (head : c.IsPaddedBefore (chunks.flatMap StoredChunk.bytes))
    (tail : ArePadded chunks) : ArePadded (c :: chunks) := by
  cases chunks with
  | nil =>
      show c.padding.length ≤ c.payload.length % 2
      rcases head with full | ⟨most, _⟩
      · exact Nat.le_of_eq full
      · exact most
  | cons next others =>
      refine ⟨head.resolve_right fun missing => ?_, tail⟩
      cases eq_nil_of_flatMap_bytes missing.2

/-- What the reader takes all chunks from are stored chunks. -/
theorem exists_of_yields_readChunks {u : Unit} (position : p.position = offset)
    (total : fileSize = offset + rest.length)
    (h : Yields (readChunks wanted fileSize rest) p u q) :
    ∃ chunks : List StoredChunk, (∀ c ∈ chunks, c.IsWellFormed) ∧ StoredChunk.ArePadded chunks ∧
      (p.chunks ≠ [] ∨ ∀ c, chunks.head? = some c → bitstreamTypes.contains c.fourcc = true) ∧
      rest = chunks.flatMap StoredChunk.bytes := by
  induction rest using readChunks.induct generalizing p offset with
  | case1 rest empty =>
      exact ⟨[], by simp, trivial, .inr (by simp), List.isEmpty_iff.1 empty⟩
  | case2 rest some ih =>
      rw [readChunks, if_neg some, Yields.bind_iff] at h
      obtain ⟨left, t, taken, others⟩ := h
      obtain ⟨c, after, wellFormed, padded, first, rfl⟩ := exists_of_yields_readChunk taken
      -- A chunk is taken in one way only, so what is left is what follows it.
      obtain ⟨left', expected, same⟩ := runs_readChunk wanted wellFormed padded first total
      obtain ⟨rfl, rfl⟩ := taken.unique expected.yields
      have total' : fileSize = offset + c.bytes.length + left.val.length := by
        rw [same, total, List.length_append, Nat.add_assoc]
      obtain ⟨chunks, all, tail, _, split⟩ := ih left rfl total' others
      rw [same] at split
      subst split
      exact ⟨c :: chunks, List.forall_mem_cons.2 ⟨wellFormed, all⟩, .cons padded tail,
        first.imp_right fun bitstream d head => by cases head; exact bitstream, rfl⟩

/-- The size of a file as its header declares it. -/
def declaredSize (bytes : Bytes) : Nat := ByteOrder.little.unsigned (bytes.slice 4 4) + 8

/-- Bytes are a file with some chunks: they fill the declared size behind the header, and the first
one is of a bitstream type. -/
structure IsFile (bytes : Bytes) (chunks : List StoredChunk) : Prop where
  long : 12 ≤ bytes.length
  riff : bytes.take 4 = Bytes.ascii "RIFF"
  webp : bytes.slice 8 4 = Bytes.ascii "WEBP"
  whole : declaredSize bytes ≤ bytes.length
  body : bytes.slice 12 (declaredSize bytes - 12) = chunks.flatMap StoredChunk.bytes
  chunk (c : StoredChunk) : c ∈ chunks → c.IsWellFormed
  padded : StoredChunk.ArePadded chunks
  first (c : StoredChunk) : chunks.head? = some c → bitstreamTypes.contains c.fourcc = true

theorem yields_readHeader_iff {n : Nat} :
    Yields (readHeader bytes) p n q ↔
      (12 ≤ bytes.length ∧ bytes.take 4 = Bytes.ascii "RIFF") ∧
        bytes.slice 8 4 = Bytes.ascii "WEBP" ∧ declaredSize bytes ≤ bytes.length ∧
        declaredSize bytes = n ∧ (⟨p.chunks, some (declaredSize bytes), 12⟩ : Progress) = q := by
  unfold readHeader Progress.moveTo
  simp only [Yields.require_bind_iff, Yields.update_bind_iff, Yields.pure_iff, Bool.and_eq_true,
    decide_eq_true_eq, beq_iff_eq]
  rfl

namespace IsFile

/-- The chunks fill what is declared behind the header. -/
theorem length_chunks (h : IsFile bytes chunks) :
    (chunks.flatMap StoredChunk.bytes).length = declaredSize bytes - 12 := by
  have whole := h.whole
  have long := h.long
  rw [← h.body, Bytes.slice_length]
  omega

/-- A file that ends with its header, or is declared to end before, has no chunks. -/
theorem eq_nil (h : IsFile bytes chunks) (short : declaredSize bytes ≤ 12) : chunks = [] := by
  have none := h.length_chunks
  rw [Nat.sub_eq_zero_of_le short, List.length_eq_zero_iff] at none
  exact StoredChunk.eq_nil_of_flatMap_bytes none

/-- The header and the chunks of a file are taken. -/
theorem yields_read (h : IsFile bytes chunks) (wanted : Wanted) :
    Yields (read bytes wanted) Progress.start ()
      ⟨StoredChunk.readAll wanted 12 chunks, some (declaredSize bytes),
        max 12 (declaredSize bytes)⟩ := by
  refine Yields.bind_iff.2 ⟨declaredSize bytes, ⟨[], some (declaredSize bytes), 12⟩, ?_, ?_⟩
  · exact yields_readHeader_iff.2 ⟨⟨h.long, h.riff⟩, h.webp, h.whole, rfl, rfl⟩
  rw [h.body]
  rcases Nat.le_total (declaredSize bytes) 12 with short | long
  · rw [h.eq_nil short, List.flatMap_nil, readChunks, if_pos List.isEmpty_nil,
      Nat.max_eq_left short]
    exact Yields.pure_iff.2 ⟨rfl, rfl⟩
  · have total : declaredSize bytes = 12 + (chunks.flatMap StoredChunk.bytes).length := by
      rw [h.length_chunks]
      omega
    rw [Nat.max_eq_right long]
    exact (runs_readChunks wanted h.chunk h.padded (.inr h.first) total rfl).yields

end IsFile

/-- What the reader accepts is a file with some chunks. -/
theorem exists_isFile_of_yields_read {u : Unit}
    (h : Yields (read bytes wanted) Progress.start u q) : ∃ chunks, IsFile bytes chunks := by
  obtain ⟨_, _, header, body⟩ := Yields.bind_iff.1 h
  obtain ⟨⟨long, riff⟩, webp, whole, rfl, rfl⟩ := yields_readHeader_iff.1 header
  rcases Nat.le_total (declaredSize bytes) 12 with short | more
  · refine ⟨[], long, riff, webp, whole, ?_, by simp, trivial, by simp⟩
    rw [Nat.sub_eq_zero_of_le short]
    exact List.take_zero
  · have total : declaredSize bytes =
        12 + (bytes.slice 12 (declaredSize bytes - 12)).length := by
      rw [Bytes.slice_length]
      omega
    obtain ⟨chunks, chunk, padded, first, split⟩ := exists_of_yields_readChunks rfl total body
    exact ⟨chunks, long, riff, webp, whole, split, chunk, padded,
      first.resolve_left fun some => some rfl⟩

namespace StoredChunk

/-- From the start of a chunk to where the next one starts. -/
def paddedLength (c : StoredChunk) : Nat := 8 + c.payload.length + c.payload.length % 2

/-- Each chunk stands behind the one before it, padded to an even length. -/
theorem readAll_eq_readParts (h : ∀ c ∈ chunks, c.IsWellFormed) (padded : ArePadded chunks) :
    readAll wanted offset chunks = readParts paddedLength (read wanted) offset chunks := by
  induction chunks generalizing offset with
  | nil => rfl
  | cons c rest ih =>
      have others := @ih (offset + c.bytes.length) (fun d member => h d (by simp [member]))
        padded.tail
      rw [readAll] at others ⊢
      rw [readParts, readParts, others]
      rcases padded.head with full | ⟨_, last⟩
      · rw [bytes_length (h c (by simp)), full, paddedLength]
      · rw [eq_nil_of_flatMap_bytes last]
        rfl

end StoredChunk

/-- If as many bytes as the header declares are there, how many there are does not matter. -/
theorem read_eq (long : 12 ≤ bytes.length) (whole : declaredSize bytes ≤ bytes.length) :
    read bytes wanted = (do
      Action.require (bytes.take 4 == Bytes.ascii "RIFF") .noRiffHeader
      Progress.moveTo 12
      Action.require (bytes.slice 8 4 == Bytes.ascii "WEBP") .riffForm
      Action.update fun s => { s with fileSize := some (declaredSize bytes) }
      readChunks wanted (declaredSize bytes) (bytes.slice 12 (declaredSize bytes - 12))) := by
  have header : (12 ≤ bytes.length && bytes.take 4 == Bytes.ascii "RIFF") =
      (bytes.take 4 == Bytes.ascii "RIFF") := by
    rw [decide_eq_true long, Bool.true_and]
  have declared : (Action.require (declaredSize bytes ≤ bytes.length)
      (.declaredFileSize (declaredSize bytes) bytes.length) : Action Progress Unit) = pure () := by
    rw [decide_eq_true whole]
    rfl
  unfold read readHeader
  simp only [bind_assoc, pure_bind, header]
  rw [← declaredSize, declared, pure_bind]

/-- Bytes with the same front, which the declared size does not exceed, are read alike. -/
theorem read_congr {bytes' : Bytes} {stop : Nat} (same : bytes.SameOn bytes' 0 stop)
    (long : 12 ≤ stop) (whole : declaredSize bytes ≤ stop) (inside : stop ≤ bytes.length)
    (inside' : stop ≤ bytes'.length) : read bytes wanted = read bytes' wanted := by
  have front : bytes.slice 0 4 = bytes'.slice 0 4 := same.slice_eq (Nat.le_refl 0) (by omega)
  have riff : bytes.take 4 = bytes'.take 4 := front
  have size : bytes.slice 4 4 = bytes'.slice 4 4 := same.slice_eq (Nat.zero_le 4) (by omega)
  have webp : bytes.slice 8 4 = bytes'.slice 8 4 := same.slice_eq (Nat.zero_le 8) (by omega)
  have declared : declaredSize bytes' = declaredSize bytes := by
    rw [declaredSize, declaredSize, size]
  have body : bytes.slice 12 (declaredSize bytes - 12) =
      bytes'.slice 12 (declaredSize bytes - 12) := same.slice_eq (Nat.zero_le 12) (by omega)
  rw [read_eq (by omega) (by omega), read_eq (by omega) (by omega), declared, riff, webp, body]

/-- The reader accepts the files and nothing else, and it finds their chunks. The first one stands
behind the header, and each other one behind the padded one before it; the reader ends at the
declared size, or behind the header if this is greater. No byte from there on matters. -/
theorem yields_read_iff_isFile (bytes : Bytes) (wanted : Wanted) :
    (∀ p, Yields (read bytes wanted) Progress.start () p ↔
      ∃ chunks, IsFile bytes chunks ∧
        p = ⟨readParts StoredChunk.paddedLength (StoredChunk.read wanted) 12 chunks,
          some (declaredSize bytes), max 12 (declaredSize bytes)⟩) ∧
    (12 ≤ bytes.length → declaredSize bytes ≤ bytes.length → ∀ rest,
      read (bytes.take (max 12 (declaredSize bytes)) ++ rest) wanted = read bytes wanted) := by
  refine ⟨fun p => ⟨fun h => ?_, ?_⟩, fun long whole rest => ?_⟩
  · obtain ⟨chunks, file⟩ := exists_isFile_of_yields_read h
    refine ⟨chunks, file, ?_⟩
    rw [← StoredChunk.readAll_eq_readParts file.chunk file.padded]
    exact (h.unique (file.yields_read wanted)).2
  · rintro ⟨chunks, file, rfl⟩
    rw [← StoredChunk.readAll_eq_readParts file.chunk file.padded]
    exact file.yields_read wanted
  · have inside : max 12 (declaredSize bytes) ≤ bytes.length := Nat.max_le.2 ⟨long, whole⟩
    refine (read_congr ?_ (Nat.le_max_left _ _) (Nat.le_max_right _ _) inside ?_).symm
    · intro i _ before
      rw [List.getElem?_append_left (by rw [List.length_take]; omega),
        List.getElem?_take_of_lt before]
    · rw [List.length_append, List.length_take]
      omega

/-- A padded chunk, one whose padding is missing where the file ends, and a byte behind it. -/
def unpadded : Bytes :=
  Bytes.ascii "RIFF" ++ [25, 0, 0, 0] ++ Bytes.ascii "WEBP" ++
    Bytes.ascii "VP8L" ++ [1, 0, 0, 0, 10, 0] ++
    Bytes.ascii "EXIF" ++ [3, 0, 0, 0, 20, 30, 40] ++ [7]

theorem isFile_unpadded :
    IsFile unpadded [⟨Bytes.ascii "VP8L", [10], [0]⟩, ⟨Bytes.ascii "EXIF", [20, 30, 40], []⟩] where
  long := by decide
  riff := rfl
  webp := rfl
  whole := by decide
  body := by decide
  chunk := by
    simp only [List.forall_mem_cons]
    exact ⟨⟨rfl, by decide⟩, ⟨rfl, by decide⟩, by simp⟩
  padded := ⟨rfl, Nat.zero_le 1⟩
  first := by
    intro c head
    cases head
    rfl

/-- Only the wanted payload is kept, and the last byte does not matter. -/
theorem yields_read_iff_isFile_unpadded :
    Yields (read unpadded (.only [Bytes.ascii "EXIF"])) Progress.start ()
        ⟨[⟨Bytes.ascii "VP8L", 12, 1, none⟩, ⟨Bytes.ascii "EXIF", 22, 3, some [20, 30, 40]⟩],
          some 33, 33⟩ ∧
      12 ≤ unpadded.length ∧ declaredSize unpadded ≤ unpadded.length ∧ ∀ rest,
        read (unpadded.take (max 12 (declaredSize unpadded)) ++ rest)
          (.only [Bytes.ascii "EXIF"]) = read unpadded (.only [Bytes.ascii "EXIF"]) := by
  have long : 12 ≤ unpadded.length := isFile_unpadded.long
  have whole : declaredSize unpadded ≤ unpadded.length := isFile_unpadded.whole
  obtain ⟨accepted, front⟩ := yields_read_iff_isFile unpadded (.only [Bytes.ascii "EXIF"])
  exact ⟨(accepted _).2 ⟨_, isFile_unpadded, rfl⟩, long, whole, front long whole⟩

end ImageMetadata.Webp
