import ImageMetadata.Proofs.Checksum.Crc32
import ImageMetadata.Proofs.Holds
import ImageMetadata.Proofs.Png.Insertion

/-!
# Damaged payloads

A change inside the payload of a chunk moves nothing: the same chunks are found, at the same places.
If at most four bytes in a row are changed, the checksum of the payload is another one than before;
so a wanted chunk that was intact is not intact any more. A lenient reader warns of this chunk and
of no other one, and a strict reader stops there.
-/

namespace ImageMetadata.Png

open ImageMetadata.Action (Fails Warns Yields)

variable {wanted : Wanted} {size offset index : Nat} {p : Progress} {c c' : StoredChunk}
  {before before' chunks chunks' post : List StoredChunk} {rest : Bytes}

/-- The chunk with another payload, but with the checksum that was stored for the old one. -/
def StoredChunk.damage (c : StoredChunk) (payload : Bytes) : StoredChunk :=
  { c with payload := payload }

/-- The chunk that is found if it has another payload. -/
def Chunk.damage (c : Chunk) (payload : Bytes) : Chunk :=
  { c with payload := some payload, computed := some (crcOf c.type payload) }

/-- The problem with a chunk that has another payload. -/
def Chunk.mismatch (c : Chunk) (payload : Bytes) : Problem :=
  .crcMismatch c.type c.offset c.crc (crcOf c.type payload)

namespace StoredChunk

theorem crcOk_read (c : StoredChunk) (kept : wanted.includes c.type = true) :
    (c.read wanted offset).crcOk = some (c.crc == crcOf c.type c.payload) := by
  rw [read, if_pos kept]
  rfl

theorem crcOk_read_iff (kept : wanted.includes c.type = true) :
    (c.read wanted offset).crcOk = some true ↔ c.IsIntact := by
  rw [crcOk_read c kept, Option.some.injEq, beq_iff_eq, IsIntact]

@[simp] theorem read_offset (c : StoredChunk) : (c.read wanted offset).offset = offset := by
  unfold read
  split <;> rfl

@[simp] theorem read_length (c : StoredChunk) :
    (c.read wanted offset).length = c.payload.length := by
  unfold read
  split <;> rfl

/-- A chunk with another payload of the same length is found in the same place. -/
theorem read_damage {payload : Bytes} (kept : wanted.includes c.type = true)
    (length : payload.length = c.payload.length) :
    (c.damage payload).read wanted offset = (c.read wanted offset).damage payload := by
  unfold read damage
  rw [if_pos kept, if_pos kept, length]
  rfl

theorem IsWellFormed.damage {payload : Bytes} (h : c.IsWellFormed)
    (length : payload.length = c.payload.length) : (c.damage payload).IsWellFormed :=
  ⟨h.type_length, h.letters, length ▸ h.short, h.crc_lt⟩

/-- An intact chunk is not intact any more if at most four bytes in a row of its payload change. -/
theorem not_isIntact_damage {front part part' back : Bytes} (intact : c.IsIntact)
    (payload : c.payload = front ++ (part ++ back)) (same : part.length = part'.length)
    (short : part.length ≤ 4) (other : part ≠ part') :
    ¬ (c.damage (front ++ (part' ++ back))).IsIntact := by
  intro h
  have stored : crcOf c.type c.payload = crcOf c.type (front ++ (part' ++ back)) :=
    intact.symm.trans h
  rw [payload, crcOf, crcOf, ← List.append_assoc, ← List.append_assoc c.type] at stored
  exact Checksum.Crc32.checksum_ne (c.type ++ front) back same short other
    (BitVec.eq_of_toNat_eq stored)

/-- What is found in a place is what is stored in that place. -/
theorem exists_of_getElem?_readAll {d : Chunk}
    (found : (readAll wanted offset chunks)[index]? = some d) :
    ∃ before c after, chunks = before ++ c :: after ∧ before.length = index ∧
      c.read wanted (offset + (before.flatMap bytes).length) = d := by
  obtain ⟨before, c, after, split, place, read⟩ := exists_of_getElem?_readParts found
  exact ⟨before, c, after, split, place, partsLength_eq before ▸ read⟩

theorem length_readAll (wanted : Wanted) (offset : Nat) (before : List StoredChunk) :
    (readAll wanted offset before).length = before.length :=
  length_readParts offset before

/-- A chunk that takes the place of another one of its length changes nothing else. -/
theorem readAll_set (before post : List StoredChunk) (length : c'.bytes.length = c.bytes.length) :
    readAll wanted offset (before ++ c' :: post) =
      (readAll wanted offset (before ++ c :: post)).set before.length
        (c'.read wanted (offset + (before.flatMap bytes).length)) := by
  have others (b : StoredChunk) (place : Nat) : readAll wanted place (b :: post) =
      b.read wanted place :: readAll wanted (place + b.bytes.length) post := rfl
  rw [readAll_append, readAll_append, others, others, length,
    ← length_readAll wanted offset before, List.set_append_right _ _ (Nat.le_refl _), Nat.sub_self,
    List.set_cons_zero]

end StoredChunk

/-- Whether chunks complete a stream depends on their types and on nothing else, as long as they are
well-formed. -/
theorem Completes.of_types (h : Completes before chunks)
    (same : before'.map StoredChunk.type = before.map StoredChunk.type)
    (types : chunks'.map StoredChunk.type = chunks.map StoredChunk.type)
    (wellFormed : ∀ c ∈ chunks', c.IsWellFormed) : Completes before' chunks' := by
  have place {b b' : StoredChunk} {l l' : List StoredChunk} (h : MayFollow l b)
      (type : b'.type = b.type) (same : l'.map StoredChunk.type = l.map StoredChunk.type)
      (well : b'.IsWellFormed) : MayFollow l' b' := by
    have empty : l' = [] ↔ l = [] := by
      rw [← List.map_eq_nil_iff (f := StoredChunk.type), same, List.map_eq_nil_iff]
    refine ⟨well, ?_, ?_⟩
    · rw [type, ne_eq, empty]
      exact h.first
    · rw [type, same]
      exact h.single
  induction h generalizing before' chunks' with
  | last follows trailer =>
      obtain ⟨c', rfl, type⟩ := List.map_eq_singleton_iff.1 types
      exact .last (place follows type same (wellFormed c' (by simp))) (type.trans trailer)
  | more follows middle tail ih =>
      obtain ⟨c', others, rfl, type, types⟩ := List.map_eq_cons_iff.1 types
      obtain ⟨well, wellFormed⟩ := List.forall_mem_cons.1 wellFormed
      refine .more (place follows type same well) (type ▸ middle) ?_
      exact ih (by simp [same, type]) types wellFormed

theorem integrity_typeReports (type : Bytes) :
    (typeReports type).filterMap Event.integrity? = [] := by
  unfold typeReports
  split <;> rfl

theorem integrity_trailingReports (count : Nat) :
    (trailingReports count).filterMap Event.integrity? = [] := by
  unfold trailingReports
  split <;> rfl

namespace StoredChunk

/-- Nothing is wrong with chunks that a strict reader takes. -/
theorem integrity_reports_readAll {list : List StoredChunk}
    (passes : ∀ c ∈ list, c.Passes wanted true) :
    ((readAll wanted offset list).flatMap Chunk.reports).filterMap Event.integrity? = [] := by
  rw [List.filterMap_eq_nil_iff]
  intro event member
  obtain ⟨d, found, told⟩ := List.mem_flatMap.1 member
  obtain ⟨c, stored, place, rfl⟩ := exists_of_mem_readParts found
  rw [(passes c stored).reports_read] at told
  exact List.filterMap_eq_nil_iff.1 (integrity_typeReports c.type) event told

theorem integrity_reports_read (kept : wanted.includes c.type = true) (broken : ¬ c.IsIntact) :
    (c.read wanted offset).reports.filterMap Event.integrity? =
      [(c.read wanted offset).mismatch c.payload] := by
  have warned : (c.read wanted offset).crcReports =
      [.notice (.integrity ((c.read wanted offset).mismatch c.payload))] := by
    unfold read
    rw [if_pos kept]
    exact if_neg broken
  rw [Chunk.reports, List.filterMap_append, integrity_typeReports, warned]
  rfl

end StoredChunk

/-- The only problem is the one with the chunk whose checksum is wrong. -/
theorem Stream.warns_read {s : Stream} (h : s.IsWellFormed) (split : s.chunks = before ++ c :: post)
    (first : ∀ b ∈ before, b.Passes wanted true) (later : ∀ b ∈ post, b.Passes wanted true)
    (kept : wanted.includes c.type = true) (broken : ¬ c.IsIntact) :
    Warns (read s.bytes wanted false) Progress.start
      [(c.read wanted (8 + (before.flatMap StoredChunk.bytes).length)).mismatch c.payload] ()
      (s.found wanted) := by
  have yields := Stream.yields_read h wanted false fun _ _ => nofun
  obtain ⟨events, run⟩ := yields.exists_run
  refine ⟨yields.result_eq, ?_, yields.state_eq⟩
  rw [run, Outcome.integrity, reports_read run]
  rw [← found, reports_found, found, split, StoredChunk.readAll_append]
  have others : StoredChunk.readAll wanted (8 + (before.flatMap StoredChunk.bytes).length)
      (c :: post) = c.read wanted (8 + (before.flatMap StoredChunk.bytes).length) ::
        StoredChunk.readAll wanted (8 + (before.flatMap StoredChunk.bytes).length + c.bytes.length)
          post := rfl
  simp only [others, List.flatMap_append, List.flatMap_cons, List.filterMap_append,
    StoredChunk.integrity_reports_readAll first, StoredChunk.integrity_reports_readAll later,
    StoredChunk.integrity_reports_read kept broken, integrity_trailingReports, List.nil_append,
    List.append_nil]

theorem fails_takeChunk (h : c.IsWellFormed)
    (first : p.chunks ≠ [] ∨ c.type = Bytes.ascii "IHDR")
    (single : mayRepeat c.type = true ∨ c.type ∉ p.chunks.map Chunk.type)
    (kept : wanted.includes c.type = true) (broken : ¬ c.IsIntact) :
    Fails (takeChunk wanted true c.type offset c.payload.length
        (c.payload ++ (ByteOrder.big.unsignedBytes 4 c.crc ++ rest))) p
      ((c.read wanted offset).mismatch c.payload) ⟨p.chunks, offset + 12 + c.payload.length⟩ := by
  have crc : ByteOrder.big.unsigned (ByteOrder.big.unsignedBytes 4 c.crc) = c.crc :=
    ByteOrder.unsigned_unsignedBytes .big h.crc_lt
  have field : Bytes.slice (c.payload ++ (ByteOrder.big.unsignedBytes 4 c.crc ++ rest))
      c.payload.length 4 = ByteOrder.big.unsignedBytes 4 c.crc :=
    Bytes.slice_middle rfl (ByteOrder.unsignedBytes_length _ _ _)
  have checked : chunk wanted true c.type offset c.payload.length
      (c.payload ++ (ByteOrder.big.unsignedBytes 4 c.crc ++ rest)) =
        Outcome.fail ((c.read wanted offset).mismatch c.payload) := by
    have other : (c.crc == crcOf c.type c.payload) = false := beq_false_of_ne broken
    simp only [chunk, field, crc, List.take_left, StoredChunk.read, if_pos kept, other]
    rfl
  unfold takeChunk Progress.moveTo
  refine Fails.update_bind (Fails.require_bind h.letters (Fails.require_bind h.fits ?_))
  refine Yields.bind_fails (a := ()) (yields_checkPlace_iff.2 ⟨first, single, rfl⟩) ?_
  rw [checked]
  exact Fails.update_bind (Fails.bind ⟨rfl, rfl⟩)

theorem fails_readChunk (place : MayFollow before c)
    (types : p.chunks.map Chunk.type = before.map StoredChunk.type)
    (total : size = offset + (c.bytes ++ rest).length)
    (kept : wanted.includes c.type = true) (broken : ¬ c.IsIntact) :
    Fails (readChunk wanted true size (c.bytes ++ rest)) p
      ((c.read wanted offset).mismatch c.payload) ⟨p.chunks, offset + 12 + c.payload.length⟩ := by
  have wellFormed := place.wellFormed
  have long : ¬ (c.bytes ++ rest).length < 12 := by
    rw [List.length_append, StoredChunk.bytes_length wellFormed]
    omega
  have position : size - (c.bytes ++ rest).length = offset := by omega
  obtain ⟨first, single⟩ := (mayFollow_iff wellFormed types).1 place
  simp only [readChunk, StoredChunk.length_field wellFormed, StoredChunk.type_field wellFormed,
    StoredChunk.drop_fields wellFormed, position]
  rw [dif_neg long]
  exact Fails.bind (fails_takeChunk wellFormed first single kept broken)

/-- A strict reader takes the chunks before one whose checksum is wrong, and it stops there. -/
theorem Completes.fails_readChunks {middle : List StoredChunk}
    (h : Completes before (middle ++ c :: post))
    (passes : ∀ b ∈ middle, b.Passes wanted true)
    (types : p.chunks.map Chunk.type = before.map StoredChunk.type)
    (total : size = offset + ((middle ++ c :: post).flatMap StoredChunk.bytes ++ rest).length)
    (kept : wanted.includes c.type = true) (broken : ¬ c.IsIntact) :
    Fails (readChunks wanted true size ((middle ++ c :: post).flatMap StoredChunk.bytes ++ rest)) p
      ((c.read wanted (offset + (middle.flatMap StoredChunk.bytes).length)).mismatch c.payload)
      ⟨p.chunks ++ StoredChunk.readAll wanted offset middle,
        offset + (middle.flatMap StoredChunk.bytes).length + 12 + c.payload.length⟩ := by
  induction middle generalizing before p offset with
  | nil =>
      have place : MayFollow before c := by
        cases h with
        | last place _ => exact place
        | more place _ _ => exact place
      rw [List.nil_append, List.flatMap_cons, List.append_assoc] at total ⊢
      rw [readChunks]
      simpa [StoredChunk.readAll, readParts] using
        Fails.bind (fails_readChunk place types total kept broken)
  | cons b middle ih =>
      obtain ⟨place, other, tail⟩ := (completes_cons_iff (by simp)).1 h
      obtain ⟨passes_b, passes⟩ := List.forall_mem_cons.1 passes
      rw [List.cons_append, List.flatMap_cons, List.append_assoc] at total ⊢
      have shorter : ((middle ++ c :: post).flatMap StoredChunk.bytes ++ rest).length <
          (b.bytes ++ ((middle ++ c :: post).flatMap StoredChunk.bytes ++ rest)).length := by
        have long := StoredChunk.bytes_length place.wellFormed
        simp only [List.length_append]
        omega
      have taken := (yields_readChunk_iff place.wellFormed types total (some ⟨_, shorter⟩)).2
        ⟨place, passes_b, rfl, by rw [if_neg other]; rfl⟩
      have later := ih (p := ⟨p.chunks ++ [b.read wanted offset], offset + b.bytes.length⟩) tail
        passes (by simp [types]) (by rw [total, List.length_append, Nat.add_assoc])
      rw [readChunks]
      apply Yields.bind_fails taken
      simpa [StoredChunk.readAll, readParts, Nat.add_assoc] using later

theorem Stream.fails_read {s : Stream} (h : s.IsWellFormed) (split : s.chunks = before ++ c :: post)
    (passes : ∀ b ∈ before, b.Passes wanted true) (kept : wanted.includes c.type = true)
    (broken : ¬ c.IsIntact) :
    Fails (read s.bytes wanted true) Progress.start
      ((c.read wanted (8 + (before.flatMap StoredChunk.bytes).length)).mismatch c.payload)
      ⟨StoredChunk.readAll wanted 8 before,
        8 + (before.flatMap StoredChunk.bytes).length + 12 + c.payload.length⟩ := by
  have completes := completes_chunks_iff.2 h
  have total := s.length_bytes
  rw [split] at completes total
  unfold read Progress.moveTo
  rw [if_pos s.take_bytes, s.drop_bytes, split]
  exact Fails.update_bind (completes.fails_readChunks (p := ⟨[], 8⟩) passes rfl total kept broken)

/-- What readers make of bytes if the payload of a chunk that was found in the bytes, as the one
with an index, becomes another one. A lenient reader finds the same chunks, but for the payload of
this one, and warns that its checksum is wrong; it warns of nothing else. A strict reader stops
there. -/
structure NoticesDamage (wanted : Wanted) (damaged : Bytes) (p : Progress) (index : Nat)
    (c : Chunk) (payload : Bytes) : Prop where
  warns : Warns (read damaged wanted false) Progress.start [c.mismatch payload] ()
    ⟨p.chunks.set index (c.damage payload), p.position⟩
  wrong : (c.damage payload).crcOk = some false
  right (i : Nat) (d : Chunk) : i ≠ index → (p.chunks.set index (c.damage payload))[i]? = some d →
    wanted.includes d.type = true → d.crcOk = some true
  fails : Fails (read damaged wanted true) Progress.start (c.mismatch payload)
    ⟨p.chunks.take index, c.offset + 12 + c.length⟩
  structural : (c.mismatch payload).kind = .structural

section

variable {s t : Stream} {payload : Bytes}

/-- A stream is well-formed whatever the payload of a chunk is, as long as its length stays. -/
theorem Stream.IsWellFormed.exists_damaged (h : s.IsWellFormed)
    (split : s.chunks = before ++ c :: post) (same : payload.length = c.payload.length) :
    ∃ t : Stream, t.IsWellFormed ∧ t.chunks = before ++ c.damage payload :: post ∧
      t.rest = s.rest := by
  have completes := completes_chunks_iff.2 h
  have stored := h.chunk
  rw [split] at completes stored
  simp only [List.forall_mem_append, List.forall_mem_cons] at stored
  refine (completes.of_types rfl ?_ ?_).exists_stream s.rest
  · simp [StoredChunk.damage]
  · simp only [List.forall_mem_append, List.forall_mem_cons]
    exact ⟨stored.1, stored.2.1.damage same, stored.2.2⟩

/-- Only the chunk with another payload is found otherwise. -/
theorem Stream.found_damaged (stored : c.IsWellFormed) (split : s.chunks = before ++ c :: post)
    (damaged : t.chunks = before ++ c.damage payload :: post)
    (same : payload.length = c.payload.length) (kept : wanted.includes c.type = true) :
    t.found wanted = ⟨(s.found wanted).chunks.set before.length
      ((c.read wanted (8 + (before.flatMap StoredChunk.bytes).length)).damage payload),
        (s.found wanted).position⟩ := by
  have length : (c.damage payload).bytes.length = c.bytes.length := by
    rw [StoredChunk.bytes_length stored, StoredChunk.bytes_length (stored.damage same)]
    exact congrArg _ same
  simp only [found, split, damaged, StoredChunk.readAll_set before post length,
    StoredChunk.read_damage kept same, List.flatMap_append, List.flatMap_cons,
    List.length_append, length]

/-- Of two streams that differ in the payload of one chunk only, the intact one tells what readers
make of the other one. -/
theorem Stream.noticesDamage (h : t.IsWellFormed) (stored : c.IsWellFormed)
    (split : s.chunks = before ++ c :: post)
    (damaged : t.chunks = before ++ c.damage payload :: post)
    (same : payload.length = c.payload.length) (passes : ∀ b ∈ s.chunks, b.Passes wanted true)
    (kept : wanted.includes c.type = true) (broken : ¬ (c.damage payload).IsIntact) :
    NoticesDamage wanted t.bytes (s.found wanted) before.length
      (c.read wanted (8 + (before.flatMap StoredChunk.bytes).length)) payload := by
  have others := passes
  rw [split] at others
  simp only [List.forall_mem_append, List.forall_mem_cons] at others
  obtain ⟨early, -, late⟩ := others
  have warned := warns_read h damaged early late kept broken
  have failed := fails_read h damaged early kept broken
  rw [StoredChunk.read_damage kept same] at warned failed
  refine ⟨?_, ?_, ?_, ?_, rfl⟩
  · rw [← found_damaged stored split damaged same kept]
    exact warned
  · rw [← StoredChunk.read_damage kept same, StoredChunk.crcOk_read (c.damage payload) kept]
    exact congrArg some (beq_false_of_ne broken)
  · intro i d other found_d kept_d
    rw [List.getElem?_set_ne (Ne.symm other)] at found_d
    obtain ⟨first, b, last, split_b, -, rfl⟩ := StoredChunk.exists_of_getElem?_readAll found_d
    rw [StoredChunk.read_type] at kept_d
    exact (StoredChunk.crcOk_read_iff kept_d).2 (passes b (by rw [split_b]; simp) rfl kept_d)
  · have taken : (s.found wanted).chunks.take before.length =
        StoredChunk.readAll wanted 8 before := by
      rw [found, split, StoredChunk.readAll_append]
      exact List.take_left' (StoredChunk.length_readAll wanted 8 before)
    rw [taken, StoredChunk.read_offset, StoredChunk.read_length, ← same]
    exact failed

end

/-- The payload of a chunk stands in a stream between bytes that do not depend on it. -/
theorem StoredChunk.exists_around (before post : List StoredChunk) (rest : Bytes)
    (h : c.IsWellFormed) :
    ∃ head tail, head.length = 8 + (before.flatMap bytes).length + 8 ∧
      ∀ payload : Bytes, payload.length = c.payload.length →
        signature ++ (before ++ c.damage payload :: post).flatMap bytes ++ rest =
          head ++ (payload ++ tail) := by
  refine ⟨signature ++ (before.flatMap bytes ++
      (ByteOrder.big.unsignedBytes 4 c.payload.length ++ c.type)),
    ByteOrder.big.unsignedBytes 4 c.crc ++ (post.flatMap bytes ++ rest), ?_, ?_⟩
  · simp [h.type_length, signature]
    omega
  · intro payload same
    simp [damage, bytes, same]

/-- If one to four bytes in a row change inside the payload of a wanted chunk, and all wanted chunks
were intact, then the damage is noticed. -/
theorem noticesDamage_of_sameOutside {bytes damaged : Bytes} {strict : Bool} {start : Nat}
    {d : Chunk} (accepted : Yields (read bytes wanted strict) Progress.start () p)
    (intact : ∀ e ∈ p.chunks, wanted.includes e.type = true → e.crcOk = some true)
    (found : p.chunks[index]? = some d) (kept : wanted.includes d.type = true)
    (first : d.offset + 8 ≤ start) (last : start + size ≤ d.offset + 8 + d.length)
    (short : size ≤ 4) (same : bytes.SameOutside damaged start (start + size))
    (other : bytes ≠ damaged) :
    NoticesDamage wanted damaged p index d (damaged.slice (d.offset + 8) d.length) := by
  obtain ⟨s, wellFormed, rfl, _, rfl⟩ :=
    (yields_read_iff_isWellFormed bytes wanted strict p).1 accepted
  have passes : ∀ b ∈ s.chunks, b.Passes wanted true := by
    intro b member _ kept
    have stored : ∃ place, b.read wanted place ∈ (s.found wanted).chunks :=
      exists_mem_readParts 8 member
    obtain ⟨place, stored⟩ := stored
    exact (StoredChunk.crcOk_read_iff kept).1 (intact _ stored (by rwa [StoredChunk.read_type]))
  obtain ⟨before, c, post, split, rfl, rfl⟩ := StoredChunk.exists_of_getElem?_readAll found
  have member : c ∈ s.chunks := by
    rw [split]
    simp
  rw [StoredChunk.read_type] at kept
  rw [StoredChunk.read_offset] at first last ⊢
  rw [StoredChunk.read_length] at last ⊢
  obtain ⟨head, tail, length, around⟩ :=
    StoredChunk.exists_around before post s.rest (wellFormed.chunk c member)
  have whole : s.bytes = head ++ (c.payload ++ tail) := by
    rw [Stream.bytes, split]
    exact around c.payload rfl
  rw [whole] at same
  obtain ⟨front, part, part', back, payload, rfl, width, width'⟩ :=
    same.exists_inner (by omega) (by omega)
  have unequal : part ≠ part' := by
    rintro rfl
    exact other (by rw [whole, payload])
  have fits : (front ++ (part' ++ back)).length = c.payload.length := by
    simp [payload, width, width']
  obtain ⟨t, wellFormed', damaged, rest⟩ := wellFormed.exists_damaged split fits
  have made : head ++ (front ++ (part' ++ back) ++ tail) = t.bytes := by
    rw [Stream.bytes, damaged, rest, around _ fits]
  have slice : t.bytes.slice (8 + (before.flatMap StoredChunk.bytes).length + 8)
      c.payload.length = front ++ (part' ++ back) := by
    rw [Stream.bytes, damaged, rest, around _ fits]
    exact Bytes.slice_middle length fits
  rw [made, slice]
  exact Stream.noticesDamage wellFormed' (wellFormed.chunk c member) split damaged fits passes kept
    (StoredChunk.not_isIntact_damage (passes c member rfl kept) payload (width.trans width'.symm)
      (width ▸ short) unequal)

/-- One byte of a keyword is another one. -/
theorem noticesDamage_title :
    ∃ damaged : Bytes, (Stream.blank.insert 1 .endless).bytes ≠ damaged ∧
      NoticesDamage .all damaged ((Stream.blank.insert 1 .endless).found .all) 1
        (StoredChunk.endless.read .all 20) (Bytes.ascii "title") := by
  have text := StoredChunk.isMalformedText_endless
  have wellFormed : (Stream.blank.insert 1 .endless).IsWellFormed :=
    Stream.isWellFormed_blank.insert Nat.one_pos text.wellFormed text.type_ne text.mayRepeat
  have intact : ∀ c ∈ (Stream.blank.insert 1 .endless).chunks, c.IsIntact := by
    intro c member
    rcases List.mem_cons.1 member with rfl | member
    · exact StoredChunk.isIntact_intact _ _
    · rcases List.mem_cons.1 member with rfl | member
      · exact text.intact
      · rw [List.mem_singleton.1 member]
        exact StoredChunk.isIntact_intact _ _
  obtain ⟨head, tail, length, around⟩ := StoredChunk.exists_around
    [.intact (Bytes.ascii "IHDR") []] [Stream.blank.last] [] text.wellFormed
  have whole : (Stream.blank.insert 1 .endless).bytes =
      head ++ ([0x54] ++ (Bytes.ascii "itle" ++ tail)) := around (Bytes.ascii "Title") rfl
  have unequal : (Stream.blank.insert 1 .endless).bytes ≠
      head ++ ([0x74] ++ (Bytes.ascii "itle" ++ tail)) := by
    intro h
    have first := List.append_cancel_left (whole.symm.trans h)
    cases first
  have window : (head ++ ([0x54] ++ (Bytes.ascii "itle" ++ tail))).SameOutside
      (head ++ ([0x74] ++ (Bytes.ascii "itle" ++ tail))) head.length (head.length + 1) :=
    .of_exchange head _ rfl
  have slice : Bytes.slice (head ++ (Bytes.ascii "title" ++ tail)) (20 + 8) 5 =
      Bytes.ascii "title" := Bytes.slice_middle length rfl
  have accepted : Yields (read (Stream.blank.insert 1 .endless).bytes .all true) Progress.start ()
      ((Stream.blank.insert 1 .endless).found .all) :=
    Stream.yields_read wellFormed .all true fun c member _ _ => intact c member
  refine ⟨head ++ ([0x74] ++ (Bytes.ascii "itle" ++ tail)), unequal, ?_⟩
  rw [← slice]
  rw [length, ← whole] at window
  refine noticesDamage_of_sameOutside accepted ?_ rfl rfl (Nat.le_refl 28)
    (show 28 + 1 ≤ 20 + 8 + 5 by decide) (by decide) window unequal
  intro d member kept
  obtain ⟨c, stored, place, rfl⟩ := exists_of_mem_readParts member
  exact (StoredChunk.crcOk_read_iff rfl).2 (intact c stored)

end ImageMetadata.Png
