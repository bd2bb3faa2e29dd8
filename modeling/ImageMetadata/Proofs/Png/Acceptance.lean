import ImageMetadata.Proofs.Png.Grammar
import ImageMetadata.Proofs.Runs
import ImageMetadata.Proofs.Strictness.Containers

/-!
# What the PNG reader accepts

The reader accepts the well-formed streams and nothing else, and it finds their chunks. A strict
reader also asks that the wanted chunks are intact. Bytes either start with a chunk that may stand
where it stands, and then the reader goes on after it, or they are refused.
-/

namespace ImageMetadata.Png

open ImageMetadata.Action (Runs Yields)

variable {wanted : Wanted} {strict : Bool} {size offset : Nat} {p q : Progress} {c : StoredChunk}
  {after rest : Bytes}

namespace StoredChunk

/-- Bytes start with a chunk if there are four letters after a length that is not too great. -/
theorem exists_bytes_append (room : 12 ≤ rest.length)
    (letters : (rest.slice 4 4).all isLetter = true)
    (short : ByteOrder.big.unsigned (rest.take 4) ≤ maxLength)
    (whole : ByteOrder.big.unsigned (rest.take 4) + 4 ≤ (rest.drop 8).length) :
    ∃ (c : StoredChunk) (after : Bytes), c.IsWellFormed ∧ rest = c.bytes ++ after := by
  obtain ⟨number, fields, rfl, width⟩ := Bytes.exists_append (show 4 ≤ rest.length by omega)
  obtain ⟨type, body, rfl, four⟩ :=
    Bytes.exists_append (show 4 ≤ fields.length by rw [List.length_append] at room; omega)
  rw [List.take_left' width] at short whole
  rw [Bytes.slice_middle width four] at letters
  rw [← List.append_assoc, List.drop_left' (by simp [width, four])] at whole
  obtain ⟨payload, tail, rfl, length⟩ :=
    Bytes.exists_append (show ByteOrder.big.unsigned number ≤ body.length by omega)
  obtain ⟨crc, after, rfl, size⟩ :=
    Bytes.exists_append (show 4 ≤ tail.length by rw [List.length_append] at whole; omega)
  have stored : ByteOrder.big.unsignedBytes 4 payload.length = number := by
    rw [length, ← width, ByteOrder.unsignedBytes_unsigned]
  have checksum : ByteOrder.big.unsignedBytes 4 (ByteOrder.big.unsigned crc) = crc := by
    rw [← size, ByteOrder.unsignedBytes_unsigned]
  refine ⟨⟨type, payload, ByteOrder.big.unsigned crc⟩, after, ?_, ?_⟩
  · exact ⟨four, letters, length ▸ short, size ▸ ByteOrder.big.unsigned_lt crc⟩
  · rw [bytes_append, stored, checksum]

/-- The payload is not too long, and it is there with the checksum behind it. -/
theorem IsWellFormed.fits (h : c.IsWellFormed) :
    (decide (c.payload.length ≤ maxLength) && decide (c.payload.length + 4 ≤
      (c.payload ++ (ByteOrder.big.unsignedBytes 4 c.crc ++ after)).length)) = true := by
  simp only [List.length_append, ByteOrder.unsignedBytes_length, Bool.and_eq_true,
    decide_eq_true_eq]
  exact ⟨h.short, by omega⟩

/-- A strict reader only takes a wanted chunk if it is intact. -/
def Passes (wanted : Wanted) (strict : Bool) (c : StoredChunk) : Prop :=
  strict = true → wanted.includes c.type = true → c.IsIntact

end StoredChunk

theorem yields_checkPlace_iff {type : Bytes} {u : Unit} :
    Yields (checkPlace type offset) p u q ↔
      (p.chunks ≠ [] ∨ type = Bytes.ascii "IHDR") ∧
        (mayRepeat type = true ∨ type ∉ p.chunks.map Chunk.type) ∧ p = q := by
  have first : (!p.chunks.isEmpty || type == Bytes.ascii "IHDR") = true ↔
      p.chunks ≠ [] ∨ type = Bytes.ascii "IHDR" := by
    simp
  have new : (!p.has type) = true ↔ type ∉ p.chunks.map Chunk.type := by
    simp [Progress.has]
  unfold checkPlace mayRepeat
  rw [Yields.state_bind_iff, Yields.require_bind_iff, first]
  apply and_congr_right'
  cases info? type with
  | none =>
      refine ⟨fun h => ⟨.inl rfl, h.state_eq⟩, fun h => ⟨rfl, h.2⟩⟩
  | some info =>
      dsimp only
      rw [Yields.require_iff, Bool.or_eq_true, new]

/-- A stored chunk is the chunk that is read, whatever follows it. -/
theorem result_chunk_iff (h : c.IsWellFormed) {d : Chunk} :
    (chunk wanted strict c.type offset c.payload.length
      (c.payload ++ (ByteOrder.big.unsignedBytes 4 c.crc ++ after))).result = .ok d ↔
        c.Passes wanted strict ∧ c.read wanted offset = d := by
  have crc : ByteOrder.big.unsigned (ByteOrder.big.unsignedBytes 4 c.crc) = c.crc :=
    ByteOrder.unsigned_unsignedBytes .big h.crc_lt
  have field : Bytes.slice (c.payload ++ (ByteOrder.big.unsignedBytes 4 c.crc ++ after))
      c.payload.length 4 = ByteOrder.big.unsignedBytes 4 c.crc :=
    Bytes.slice_middle rfl (ByteOrder.unsignedBytes_length _ _ _)
  simp only [chunk, field, crc, List.take_left, StoredChunk.read, StoredChunk.Passes]
  split
  · rename_i kept
    simp only [Outcome.result_bind_iff, Outcome.result_check_iff, beq_iff_eq, kept, forall_const,
      Outcome.pure_result, Except.ok.injEq, exists_const, StoredChunk.IsIntact]
  · rename_i left
    simp [left]

theorem yields_takeChunk_iff (h : c.IsWellFormed) {u : Unit} :
    Yields (takeChunk wanted strict c.type offset c.payload.length
        (c.payload ++ (ByteOrder.big.unsignedBytes 4 c.crc ++ after))) p u q ↔
      (p.chunks ≠ [] ∨ c.type = Bytes.ascii "IHDR") ∧
        (mayRepeat c.type = true ∨ c.type ∉ p.chunks.map Chunk.type) ∧
        c.Passes wanted strict ∧
        (⟨p.chunks ++ [c.read wanted offset], offset + c.bytes.length⟩ : Progress) = q := by
  have stop : offset + 12 + c.payload.length = offset + c.bytes.length := by
    rw [StoredChunk.bytes_length h, Nat.add_assoc]
  unfold takeChunk Progress.moveTo Progress.add
  rw [Yields.update_bind_iff, Yields.require_bind_iff, Yields.require_bind_iff, Yields.bind_iff]
  simp only [h.letters, h.fits, true_and, yields_checkPlace_iff, Yields.update_bind_iff]
  constructor
  · rintro ⟨_, _, ⟨first, single, rfl⟩, taken⟩
    obtain ⟨d, checked, added⟩ := Yields.lift_bind_iff.1 taken
    obtain ⟨passes, rfl⟩ := (result_chunk_iff h).1 checked
    exact ⟨first, single, passes, by rw [← added.state_eq, ← stop]; rfl⟩
  · rintro ⟨first, single, passes, rfl⟩
    refine ⟨(), _, ⟨first, single, rfl⟩, Yields.lift_bind_iff.2 ⟨c.read wanted offset, ?_, ?_⟩⟩
    · exact (result_chunk_iff h).2 ⟨passes, rfl⟩
    · exact ⟨rfl, by rw [← stop]; rfl⟩

/-- A chunk may stand after those before it: only the image header stands first, and a type only
occurs again if it may. -/
structure MayFollow (before : List StoredChunk) (c : StoredChunk) : Prop where
  wellFormed : c.IsWellFormed
  first : before ≠ [] ∨ c.type = Bytes.ascii "IHDR"
  single : mayRepeat c.type = true ∨ c.type ∉ before.map StoredChunk.type

variable {before chunks : List StoredChunk}

theorem mayFollow_iff (h : c.IsWellFormed)
    (types : p.chunks.map Chunk.type = before.map StoredChunk.type) :
    MayFollow before c ↔ (p.chunks ≠ [] ∨ c.type = Bytes.ascii "IHDR") ∧
      (mayRepeat c.type = true ∨ c.type ∉ p.chunks.map Chunk.type) := by
  have empty : p.chunks = [] ↔ before = [] := by
    rw [← List.map_eq_nil_iff (f := Chunk.type), types, List.map_eq_nil_iff]
  rw [types, ne_eq, empty]
  exact ⟨fun place => ⟨place.first, place.single⟩, fun ⟨first, single⟩ => ⟨h, first, single⟩⟩

/-- The reader takes a stored chunk that may stand where it stands, and goes on after it unless it
is an image trailer. -/
theorem yields_readChunk_iff (h : c.IsWellFormed)
    (types : p.chunks.map Chunk.type = before.map StoredChunk.type)
    (total : size = offset + (c.bytes ++ after).length) (left : Left (c.bytes ++ after)) :
    Yields (readChunk wanted strict size (c.bytes ++ after)) p left q ↔
      MayFollow before c ∧ c.Passes wanted strict ∧
        (⟨p.chunks ++ [c.read wanted offset], offset + c.bytes.length⟩ : Progress) = q ∧
        left.map Subtype.val = if c.type = Bytes.ascii "IEND" then none else some after := by
  have whole : (c.bytes ++ after).length = 12 + c.payload.length + after.length := by
    rw [List.length_append, StoredChunk.bytes_length h]
  have following : (c.payload ++ (ByteOrder.big.unsignedBytes 4 c.crc ++ after)).drop
      (c.payload.length + 4) = after := by
    rw [← List.append_assoc]
    exact List.drop_left' (by simp)
  have position : size - (c.bytes ++ after).length = offset := by omega
  simp only [readChunk, StoredChunk.length_field h, StoredChunk.type_field h,
    StoredChunk.drop_fields h, position, following]
  rw [dif_neg (by omega), Yields.bind_iff, mayFollow_iff h types]
  simp only [yields_takeChunk_iff h]
  by_cases trailer : c.type = Bytes.ascii "IEND"
  · simp only [if_pos trailer, Yields.when_trace_bind_iff, Yields.pure_iff,
      Option.map_eq_none_iff]
    constructor
    · rintro ⟨_, t, ⟨first, single, passes, same⟩, rfl, rfl⟩
      exact ⟨⟨first, single⟩, passes, same, rfl⟩
    · rintro ⟨⟨first, single⟩, passes, same, rfl⟩
      exact ⟨(), q, ⟨first, single, passes, same⟩, rfl, rfl⟩
  · simp only [if_neg trailer, Yields.pure_iff, Option.map_eq_some_iff]
    constructor
    · rintro ⟨_, t, ⟨first, single, passes, same⟩, rfl, rfl⟩
      exact ⟨⟨first, single⟩, passes, same, _, rfl, rfl⟩
    · rintro ⟨⟨first, single⟩, passes, same, left, rfl, next⟩
      exact ⟨(), q, ⟨first, single, passes, same⟩, congrArg some (Subtype.ext next.symm), rfl⟩

/-- What the reader takes a chunk from starts with a stored chunk. -/
theorem exists_of_yields_readChunk {left : Left rest}
    (h : Yields (readChunk wanted strict size rest) p left q) :
    ∃ (c : StoredChunk) (after : Bytes), c.IsWellFormed ∧ rest = c.bytes ++ after := by
  unfold readChunk at h
  split at h
  · exact absurd h Yields.not_fail
  · rename_i long
    obtain ⟨_, _, taken, _⟩ := Yields.bind_iff.1 h
    unfold takeChunk Progress.moveTo at taken
    rw [Yields.update_bind_iff, Yields.require_bind_iff, Yields.require_bind_iff] at taken
    obtain ⟨letters, fits, _⟩ := taken
    simp only [Bool.and_eq_true, decide_eq_true_eq] at fits
    exact StoredChunk.exists_bytes_append (Nat.le_of_not_lt long) letters fits.1 fits.2

/-- Chunks complete a stream after those before them: each one may stand where it stands, and only
the last one is an image trailer. -/
inductive Completes : List StoredChunk → List StoredChunk → Prop
  | last {before : List StoredChunk} {c : StoredChunk} (place : MayFollow before c)
      (trailer : c.type = Bytes.ascii "IEND") : Completes before [c]
  | more {before rest : List StoredChunk} {c : StoredChunk} (place : MayFollow before c)
      (middle : c.type ≠ Bytes.ascii "IEND") (tail : Completes (before ++ [c]) rest) :
      Completes before (c :: rest)

/-- The reader takes the chunks that complete the stream, whatever follows them. -/
theorem Completes.yields_readChunks (h : Completes before chunks)
    (passes : ∀ c ∈ chunks, c.Passes wanted strict)
    (types : p.chunks.map Chunk.type = before.map StoredChunk.type)
    (total : size = offset + (chunks.flatMap StoredChunk.bytes ++ after).length) :
    Yields (readChunks wanted strict size (chunks.flatMap StoredChunk.bytes ++ after)) p ()
      ⟨p.chunks ++ StoredChunk.readAll wanted offset chunks,
        offset + (chunks.flatMap StoredChunk.bytes).length⟩ := by
  induction h generalizing p offset with
  | @last before c place trailer =>
      simp only [List.flatMap_cons, List.flatMap_nil, List.append_nil] at total ⊢
      have taken := (yields_readChunk_iff place.wellFormed types total none).2
        ⟨place, passes c (by simp), rfl, by rw [if_pos trailer]; rfl⟩
      rw [readChunks, Yields.bind_iff]
      exact ⟨none, _, taken, rfl, rfl⟩
  | @more before rest c place middle tail ih =>
      rw [List.flatMap_cons, List.append_assoc] at total ⊢
      have shorter : (rest.flatMap StoredChunk.bytes ++ after).length <
          (c.bytes ++ (rest.flatMap StoredChunk.bytes ++ after)).length := by
        have long := StoredChunk.bytes_length place.wellFormed
        simp only [List.length_append]
        omega
      have taken := (yields_readChunk_iff place.wellFormed types total (some ⟨_, shorter⟩)).2
        ⟨place, passes c (by simp), rfl, by rw [if_neg middle]; rfl⟩
      have others := ih (p := ⟨p.chunks ++ [c.read wanted offset], offset + c.bytes.length⟩)
        (fun d member => passes d (by simp [member])) (by simp [types])
        (by rw [total, List.length_append, Nat.add_assoc])
      rw [readChunks, Yields.bind_iff]
      refine ⟨_, _, taken, ?_⟩
      simpa [StoredChunk.readAll, readParts, Nat.add_assoc] using others

/-- What the reader takes all chunks from starts with chunks that complete the stream. -/
theorem exists_of_yields_readChunks {u : Unit}
    (types : p.chunks.map Chunk.type = before.map StoredChunk.type)
    (total : size = offset + rest.length)
    (h : Yields (readChunks wanted strict size rest) p u q) :
    ∃ chunks after, Completes before chunks ∧ (∀ c ∈ chunks, c.Passes wanted strict) ∧
      rest = chunks.flatMap StoredChunk.bytes ++ after := by
  induction rest using readChunks.induct generalizing before p offset with
  | case1 rest ih =>
      rw [readChunks, Yields.bind_iff] at h
      obtain ⟨left, t, taken, others⟩ := h
      obtain ⟨c, after, wellFormed, rfl⟩ := exists_of_yields_readChunk taken
      obtain ⟨place, passes, rfl, next⟩ :=
        (yields_readChunk_iff wellFormed types total left).1 taken
      by_cases trailer : c.type = Bytes.ascii "IEND"
      · exact ⟨[c], after, .last place trailer, by simpa using passes, by simp⟩
      · rw [if_neg trailer, Option.map_eq_some_iff] at next
        obtain ⟨left, rfl, next⟩ := next
        have total' : size = offset + c.bytes.length + left.val.length := by
          rw [next, total, List.length_append, Nat.add_assoc]
        have types' : (p.chunks ++ [c.read wanted offset]).map Chunk.type =
            (before ++ [c]).map StoredChunk.type := by
          simp [types]
        obtain ⟨chunks, after', tail, all, split⟩ := ih left types' total' others
        exact ⟨c :: chunks, after', .more place trailer tail, by simpa using ⟨passes, all⟩,
          by simp [← next, split]⟩

theorem completes_singleton_iff :
    Completes before [c] ↔ MayFollow before c ∧ c.type = Bytes.ascii "IEND" := by
  constructor
  · intro h
    cases h with
    | last place trailer => exact ⟨place, trailer⟩
    | more _ _ tail => cases tail
  · exact fun ⟨place, trailer⟩ => .last place trailer

theorem completes_cons_iff (more : chunks ≠ []) :
    Completes before (c :: chunks) ↔
      MayFollow before c ∧ c.type ≠ Bytes.ascii "IEND" ∧ Completes (before ++ [c]) chunks := by
  constructor
  · intro h
    cases h with
    | last => exact absurd rfl more
    | more place middle tail => exact ⟨place, middle, tail⟩
  · exact fun ⟨place, middle, tail⟩ => .more place middle tail

/-- Types that may not repeat are distinct. -/
abbrev AreSingle (chunks : List StoredChunk) : Prop :=
  chunks.Pairwise fun b c => b.type = c.type → mayRepeat b.type = true

theorem areSingle_append_singleton_iff :
    AreSingle (before ++ [c]) ↔
      AreSingle before ∧ (mayRepeat c.type = true ∨ c.type ∉ before.map StoredChunk.type) := by
  simp only [AreSingle, List.pairwise_append, List.pairwise_singleton, true_and,
    List.mem_singleton, forall_eq]
  apply and_congr_right'
  constructor
  · intro pairs
    by_cases known : c.type ∈ before.map StoredChunk.type
    · obtain ⟨b, member, same⟩ := List.mem_map.1 known
      exact .inl (same ▸ pairs b member same)
    · exact .inr known
  · rintro (multiple | new) b member same
    · exact same ▸ multiple
    · exact absurd (List.mem_map.2 ⟨b, member, same⟩) new

/-- The chunks up to the first image trailer complete what stands before them. -/
theorem completes_append_iff (single : AreSingle before) (init : List StoredChunk)
    (last : StoredChunk) :
    Completes before (init ++ [last]) ↔
      (∀ c ∈ init ++ [last], c.IsWellFormed) ∧
        (before ≠ [] ∨ (init ++ [last]).head?.map StoredChunk.type = some (Bytes.ascii "IHDR")) ∧
        (∀ c ∈ init, c.type ≠ Bytes.ascii "IEND") ∧ last.type = Bytes.ascii "IEND" ∧
        AreSingle (before ++ (init ++ [last])) := by
  induction init generalizing before with
  | nil =>
      rw [List.nil_append, completes_singleton_iff, areSingle_append_singleton_iff]
      constructor
      · rintro ⟨place, trailer⟩
        exact ⟨by simpa using place.wellFormed, by simpa using place.first, by simp, trailer,
          single, place.single⟩
      · rintro ⟨wellFormed, first, _, trailer, _, new⟩
        exact ⟨⟨wellFormed last (by simp), by simpa using first, new⟩, trailer⟩
  | cons c rest ih =>
      have split : before ++ (c :: rest ++ [last]) = before ++ [c] ++ (rest ++ [last]) := by simp
      rw [split, List.cons_append, completes_cons_iff (by simp)]
      constructor
      · rintro ⟨place, middle, tail⟩
        have single' := areSingle_append_singleton_iff.2 ⟨single, place.single⟩
        obtain ⟨wellFormed, _, others, trailer, all⟩ := (ih single').1 tail
        exact ⟨List.forall_mem_cons.2 ⟨place.wellFormed, wellFormed⟩, by simpa using place.first,
          List.forall_mem_cons.2 ⟨middle, others⟩, trailer, all⟩
      · rintro ⟨wellFormed, first, middle, trailer, all⟩
        have single' : AreSingle (before ++ [c]) := (List.pairwise_append.1 all).1
        obtain ⟨head, others⟩ := List.forall_mem_cons.1 wellFormed
        obtain ⟨other, middles⟩ := List.forall_mem_cons.1 middle
        refine ⟨⟨head, by simpa using first, (areSingle_append_singleton_iff.1 single').2⟩, other,
          (ih single').2 ⟨others, .inl (by simp), middles, trailer, all⟩⟩

theorem Stream.completes_chunks_iff {s : Stream} : Completes [] s.chunks ↔ s.IsWellFormed := by
  rw [Stream.chunks, completes_append_iff .nil, List.nil_append]
  constructor
  · rintro ⟨chunk, first, init, last, single⟩
    exact ⟨chunk, first.resolve_left fun some => some rfl, init, last, single⟩
  · rintro ⟨chunk, first, init, last, single⟩
    exact ⟨chunk, .inr first, init, last, single⟩

/-- Chunks that complete a stream from its start are those of a stream. -/
theorem Completes.exists_stream (h : Completes [] chunks) (after : Bytes) :
    ∃ s : Stream, s.IsWellFormed ∧ s.chunks = chunks ∧ s.rest = after := by
  have nonempty : chunks ≠ [] := by
    cases h <;> simp
  have split := List.dropLast_concat_getLast nonempty
  refine ⟨⟨chunks.dropLast, chunks.getLast nonempty, after⟩, ?_, split, rfl⟩
  rw [← Stream.completes_chunks_iff, Stream.chunks, split]
  exact h

/-- A well-formed stream is read as its chunks, by a strict reader if the wanted ones are intact. -/
theorem Stream.yields_read {s : Stream} (h : s.IsWellFormed) (wanted : Wanted) (strict : Bool)
    (passes : ∀ c ∈ s.chunks, c.Passes wanted strict) :
    Yields (read s.bytes wanted strict) Progress.start ()
      ⟨StoredChunk.readAll wanted 8 s.chunks,
        8 + (s.chunks.flatMap StoredChunk.bytes).length⟩ := by
  unfold read
  rw [if_pos s.take_bytes, s.drop_bytes]
  exact Yields.update_bind_iff.2
    ((completes_chunks_iff.2 h).yields_readChunks passes rfl s.length_bytes)

/-- If the wanted chunks are intact, neither reader warns. -/
theorem Stream.runs_read {s : Stream} (h : s.IsWellFormed) (wanted : Wanted) (strict : Bool)
    (intact : ∀ c ∈ s.chunks, wanted.includes c.type = true → c.IsIntact) :
    Runs (read s.bytes wanted strict) Progress.start ()
      ⟨StoredChunk.readAll wanted 8 s.chunks,
        8 + (s.chunks.flatMap StoredChunk.bytes).length⟩ := by
  have accepted := Stream.yields_read h wanted true fun c member _ => intact c member
  obtain ⟨strictly, leniently⟩ := Runs.of_agrees (agrees_read _ wanted) accepted
  cases strict with
  | true => exact strictly
  | false => exact leniently

/-- Bytes are accepted if they are a well-formed stream and, for a strict reader, its wanted chunks
are intact. The reader finds the chunks, each after the one before it, and stops behind the image
trailer; what follows does not matter. -/
theorem yields_read_iff_isWellFormed (bytes : Bytes) (wanted : Wanted) (strict : Bool)
    (p : Progress) :
    Yields (read bytes wanted strict) Progress.start () p ↔
      ∃ s : Stream, s.IsWellFormed ∧ s.bytes = bytes ∧
        (strict = true → ∀ c ∈ s.chunks, wanted.includes c.type = true → c.IsIntact) ∧
        p = ⟨StoredChunk.readAll wanted 8 s.chunks,
          8 + (s.chunks.flatMap StoredChunk.bytes).length⟩ := by
  constructor
  · intro h
    unfold read at h
    split at h
    · rename_i signed
      have taken := Yields.update_bind_iff.1 h
      have total : bytes.length = 8 + (bytes.drop 8).length := by
        have long := congrArg List.length signed
        simp only [List.length_take, List.length_drop, signature, List.length_cons,
          List.length_nil] at long ⊢
        omega
      obtain ⟨chunks, after, completes, passes, split⟩ : ∃ chunks after, Completes [] chunks ∧
          (∀ c ∈ chunks, c.Passes wanted strict) ∧
            bytes.drop 8 = chunks.flatMap StoredChunk.bytes ++ after :=
        exists_of_yields_readChunks rfl total taken
      obtain ⟨s, wellFormed, rfl, rfl⟩ := completes.exists_stream after
      rw [split] at taken total
      have expected := completes.yields_readChunks (p := ⟨[], 8⟩) passes rfl total
      refine ⟨s, wellFormed, ?_, fun strict c member => passes c member strict, ?_⟩
      · rw [Stream.bytes, List.append_assoc, ← split, ← signed, List.take_append_drop]
      · exact (taken.unique expected).2
    · exact absurd h Yields.not_fail
  · rintro ⟨s, wellFormed, rfl, intact, rfl⟩
    exact Stream.yields_read wellFormed wanted strict fun c member strict => intact strict c member

/-- Bytes are a well-formed stream in one way at most. -/
theorem Stream.eq_of_bytes_eq {s t : Stream} (h : s.IsWellFormed) (h' : t.IsWellFormed)
    (same : s.bytes = t.bytes) : s = t := by
  have found := yields_read h .all false fun _ _ => nofun
  have found' := yields_read h' .all false fun _ _ => nofun
  rw [same] at found
  have all : StoredChunk.readAll .all 8 s.chunks = StoredChunk.readAll .all 8 t.chunks :=
    congrArg Progress.chunks (found.unique found').2
  have chunks : s.chunks = t.chunks := by
    rw [← StoredChunk.map_ofChunk_readAll 8 s.chunks, all, StoredChunk.map_ofChunk_readAll]
  obtain ⟨init, last⟩ := List.append_inj' chunks rfl
  rw [Stream.bytes, Stream.bytes, chunks] at same
  have rest := List.append_cancel_left same
  obtain ⟨_, _, _⟩ := s
  cases init
  cases List.singleton_inj.1 last
  cases rest
  rfl

end ImageMetadata.Png
