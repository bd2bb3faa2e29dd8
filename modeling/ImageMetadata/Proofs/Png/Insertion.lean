import ImageMetadata.Proofs.Png.Reports
import ImageMetadata.Proofs.Png.Text
import ImageMetadata.Proofs.Selection.Basic
import ImageMetadata.Proofs.Tiff.Reports

/-!
# Text chunks that hold no text

A chunk that is put into a stream moves those behind it, and nothing else of them. If it is a text
chunk whose payload holds no text, it adds nothing but a notice: all that was found before is found
again, with the same reports at the places to which the chunks moved.
-/

namespace ImageMetadata

open ImageMetadata.Action (Maps)

/-- A place after bytes of a given number were put in at a position. -/
def displace (position size place : Nat) : Nat :=
  if position ≤ place then place + size else place

/-- The event for a chunk in a stream into which bytes were put. No other event names a place in the
stream. -/
def Event.displaced (position size : Nat) : Event → Event
  | notice (.integrity (.crcMismatch type offset stored computed)) =>
    notice (.integrity (.crcMismatch type (displace position size offset) stored computed))
  | notice (.undecodableText type offset cause) =>
    notice (.undecodableText type (displace position size offset) cause)
  | event => event

variable {position size : Nat}

/-- The reports about an embedded TIFF stream name no place outside it. -/
theorem Event.displaced_of_isOfTiff {event : Event} (h : event.isOfTiff = true) :
    event.displaced position size = event := by
  unfold displaced
  split
  · cases h
  · cases h
  · rfl

namespace Png

variable {wanted : Wanted} {policy : Policy} {offset : Nat} {c : StoredChunk} {cause : Problem}

def Chunk.displaced (position size : Nat) (c : Chunk) : Chunk :=
  { c with offset := displace position size c.offset }

/-- What is told of a chunk that was displaced. -/
theorem Chunk.reports_displaced (c : Chunk) :
    (c.displaced position size).reports = c.reports.map (Event.displaced position size) := by
  obtain ⟨type, offset, length, payload, crc, computed⟩ := c
  have told : (typeReports type).map (Event.displaced position size) = typeReports type := by
    unfold typeReports
    split <;> rfl
  cases computed with
  | none => simp [reports, crcReports, displaced, told]
  | some n =>
      by_cases intact : crc = n <;>
        simp [reports, crcReports, displaced, told, intact, Event.displaced]

theorem Chunk.flatMap_reports_displaced (list : List Chunk) :
    (list.map (displaced position size)).flatMap reports =
      (list.flatMap reports).map (Event.displaced position size) := by
  simp only [List.flatMap_map, List.map_flatMap, reports_displaced]

theorem trailingReports_displaced (count : Nat) :
    (trailingReports count).map (Event.displaced position size) = trailingReports count := by
  unfold trailingReports
  split <;> rfl

/-- What a chunk that was displaced adds to the metadata is what it added before. -/
theorem maps_collectChunk (policy : Policy) (c : Chunk) :
    Maps (fun event => some (event.displaced position size)) id (collectChunk policy c)
      (collectChunk policy (c.displaced position size)) := by
  obtain ⟨type, offset, length, payload?, crc, computed⟩ := c
  cases payload? with
  | none => exact .pure ()
  | some payload =>
      simp only [Chunk.displaced]
      simp only [collectChunk]
      cases decoder? type with
      | none =>
          dsimp only
          split
          · have kept := Tiff.reports_collect payload policy
            exact .of_reports (kept.mono fun event => Event.displaced_of_isOfTiff)
          · exact .pure ()
      | some decode =>
          dsimp only
          cases decode payload with
          | error cause =>
              dsimp only
              split
              · exact .lift rfl
              · exact .fail cause
          | ok record =>
              apply Maps.of_reports
              apply (Metadata.reports_addRecord record).bind
              intro _
              split
              · exact Xmp.reports_collect (by rfl) _
              · exact .pure ()

theorem run_collect_displaced {chunks : List Chunk} {reports : List Event} {m filled : Metadata}
    (collected : (collect policy chunks).run m = (⟨reports, .ok ()⟩, filled)) :
    (collect policy (chunks.map (Chunk.displaced position size))).run m =
      (⟨reports.map (Event.displaced position size), .ok ()⟩, filled) := by
  have maps : Maps (fun event => some (event.displaced position size)) id (collect policy chunks)
      (collect policy (chunks.map (Chunk.displaced position size))) :=
    .each (maps_collectChunk policy) chunks
  have run := maps m
  rw [collected, Outcome.reporting_some] at run
  exact run

namespace StoredChunk

theorem read_displace (c : StoredChunk) :
    c.read wanted (displace position size offset) =
      (c.read wanted offset).displaced position size := by
  unfold read
  split <;> rfl

theorem partsLength_eq (list : List StoredChunk) :
    partsLength (fun c => c.bytes.length) list = (list.flatMap bytes).length := by
  induction list with
  | nil => rfl
  | cons c rest ih => rw [partsLength, ih, List.flatMap_cons, List.length_append]

/-- Chunks from a position on are displaced. -/
theorem readAll_behind (list : List StoredChunk) :
    readAll wanted (position + size) list =
      (readAll wanted position list).map (Chunk.displaced position size) := by
  apply readParts_map size
  intro c _ place behind _
  rw [← read_displace, displace, if_pos behind]

/-- Chunks before a position stay where they are. -/
theorem readAll_before {list : List StoredChunk} (wellFormed : ∀ c ∈ list, c.IsWellFormed)
    (before : offset + (list.flatMap bytes).length ≤ position) :
    readAll wanted offset list =
      (readAll wanted offset list).map (Chunk.displaced position size) := by
  apply readParts_map 0
  intro c member place _ inside
  have long := bytes_length (wellFormed c member)
  rw [partsLength_eq] at inside
  rw [← read_displace, displace, if_neg (by omega), Nat.add_zero]

theorem readAll_append (l r : List StoredChunk) :
    readAll wanted offset (l ++ r) =
      readAll wanted offset l ++ readAll wanted (offset + (l.flatMap bytes).length) r := by
  rw [readAll, readParts_append_eq, partsLength_eq]
  rfl

/-- What is found of chunks that another one is put between. -/
theorem readAll_insert {before : List StoredChunk} (wellFormed : ∀ b ∈ before, b.IsWellFormed)
    (c : StoredChunk) (after : List StoredChunk)
    (start : offset + (before.flatMap bytes).length = position) :
    readAll wanted offset (before ++ c :: after) =
      (readAll wanted offset before).map (Chunk.displaced position c.bytes.length) ++
        c.read wanted position ::
          (readAll wanted position after).map (Chunk.displaced position c.bytes.length) := by
  rw [readAll_append, start, ← readAll_before wellFormed (Nat.le_of_eq start), ← readAll_behind]
  rfl

/-- A text chunk whose checksum is right, but whose decoder refuses the payload. -/
structure IsMalformedText (c : StoredChunk) (cause : Problem) : Prop where
  wellFormed : c.IsWellFormed
  intact : c.IsIntact
  refused : ∃ decode, decoder? c.type = some decode ∧ decode c.payload = .error cause

/-- The notice that a chunk holds no text, if it is wanted. -/
def notices (wanted : Wanted) (offset : Nat) (cause : Problem) (c : StoredChunk) : List Event :=
  if wanted.includes c.type then [.notice (.undecodableText c.type offset cause)] else []

namespace IsMalformedText

theorem exists_form (h : c.IsMalformedText cause) :
    ∃ form : TextForm, c.type = Bytes.ascii form.name := by
  obtain ⟨decode, known, _⟩ := h.refused
  obtain ⟨form, type, _⟩ := exists_of_decoder? known
  exact ⟨form, type⟩

theorem mayRepeat (h : c.IsMalformedText cause) : mayRepeat c.type = true := by
  obtain ⟨form, type⟩ := h.exists_form
  rw [type]
  cases form <;> rfl

theorem type_ne (h : c.IsMalformedText cause) : c.type ≠ Bytes.ascii "IEND" := by
  obtain ⟨form, type⟩ := h.exists_form
  rw [type]
  cases form <;> decide

/-- While it is found, nothing is told of it. -/
theorem reports_read (h : c.IsMalformedText cause) : (c.read wanted offset).reports = [] := by
  obtain ⟨form, type⟩ := h.exists_form
  rw [h.intact.reports_read, type]
  cases form <;> rfl

/-- Nothing is collected from it. -/
theorem run_collectChunk (h : c.IsMalformedText cause) (m : Metadata) :
    (collectChunk policy (c.read wanted offset)).run m =
      (⟨c.notices wanted offset cause, .ok ()⟩, m) := by
  obtain ⟨decode, known, refused⟩ := h.refused
  unfold read notices
  by_cases kept : wanted.includes c.type = true
  · rw [if_pos kept, if_pos kept, collectChunk]
    dsimp only
    rw [known]
    dsimp only
    rw [refused]
    dsimp only
    rw [if_pos (textual_of_decoder? known cause refused).isTextual]
    rfl
  · rw [if_neg kept, if_neg kept]
    rfl

end IsMalformedText

end StoredChunk

namespace Stream

/-- The stream with one more chunk in front of the one with an index. -/
def insert (s : Stream) (index : Nat) (c : StoredChunk) : Stream :=
  { s with init := s.init.take index ++ c :: s.init.drop index }

/-- Where the chunk with an index stands. -/
def place (s : Stream) (index : Nat) : Nat :=
  8 + ((s.init.take index).flatMap StoredChunk.bytes).length

variable {s t : Stream} {index : Nat}

theorem chunks_eq (s : Stream) (index : Nat) :
    s.chunks = s.init.take index ++ (s.init.drop index ++ [s.last]) := by
  rw [chunks, ← List.append_assoc, List.take_append_drop]

theorem chunks_insert (s : Stream) (index : Nat) (c : StoredChunk) :
    (s.insert index c).chunks = s.init.take index ++ c :: (s.init.drop index ++ [s.last]) := by
  simp [chunks, insert]

theorem mem_init_insert {b : StoredChunk} :
    b ∈ (s.insert index c).init ↔ b = c ∨ b ∈ s.init := by
  have split : b ∈ s.init ↔ b ∈ s.init.take index ∨ b ∈ s.init.drop index := by
    rw [← List.mem_append, List.take_append_drop]
  rw [insert, List.mem_append, List.mem_cons, split]
  exact or_left_comm

theorem mem_chunks_insert {b : StoredChunk} :
    b ∈ (s.insert index c).chunks ↔ b = c ∨ b ∈ s.chunks := by
  rw [chunks, chunks, List.mem_append, List.mem_append, mem_init_insert]
  exact or_assoc

/-- The first chunk of a well-formed stream is not the last one. -/
theorem IsWellFormed.exists_init (h : s.IsWellFormed) :
    ∃ d rest, s.init = d :: rest ∧ d.type = Bytes.ascii "IHDR" := by
  have first := h.first
  unfold chunks at first
  cases init : s.init with
  | nil =>
      rw [init] at first
      have clash := (Option.some.inj first).symm.trans h.last
      exact absurd clash (by decide)
  | cons d rest =>
      rw [init] at first
      exact ⟨d, rest, rfl, Option.some.inj first⟩

/-- A chunk that may repeat can be put behind the image header. -/
theorem IsWellFormed.insert (h : s.IsWellFormed) (behind : 0 < index) (wellFormed : c.IsWellFormed)
    (middle : c.type ≠ Bytes.ascii "IEND") (repeats : mayRepeat c.type = true) :
    (s.insert index c).IsWellFormed where
  chunk b member := by
    rcases mem_chunks_insert.1 member with rfl | known
    · exact wellFormed
    · exact h.chunk b known
  first := by
    obtain ⟨d, rest, init, header⟩ := h.exists_init
    obtain ⟨k, rfl⟩ := Nat.exists_eq_succ_of_ne_zero (Nat.ne_of_gt behind)
    rw [chunks_insert, init]
    exact congrArg some header
  init b member := by
    rcases mem_init_insert.1 member with rfl | known
    · exact middle
    · exact h.init b known
  last := h.last
  single := by
    have single := h.single
    rw [s.chunks_eq index, List.pairwise_append] at single
    obtain ⟨first, second, across⟩ := single
    rw [chunks_insert, List.pairwise_append, List.pairwise_cons]
    refine ⟨first, ⟨fun d _ _ => repeats, second⟩, fun b member d => ?_⟩
    rw [List.mem_cons]
    rintro (rfl | later) same
    · exact same ▸ repeats
    · exact across b member d later same

/-- A strict reader also takes the stream with the chunk if the chunk is intact. -/
theorem passes_insert {strict : Bool} (passes : ∀ b ∈ s.chunks, b.Passes wanted strict)
    (intact : c.IsIntact) : ∀ b ∈ (s.insert index c).chunks, b.Passes wanted strict := by
  intro b member
  rcases mem_chunks_insert.1 member with rfl | known
  · exact fun _ _ => intact
  · exact passes b known

theorem chunks_found (s : Stream) (wanted : Wanted) (index : Nat) :
    (s.found wanted).chunks = StoredChunk.readAll wanted 8 (s.init.take index) ++
      StoredChunk.readAll wanted (s.place index) (s.init.drop index ++ [s.last]) := by
  rw [found, s.chunks_eq index]
  exact StoredChunk.readAll_append _ _

/-- The chunk is found at its place, and those behind it are displaced. -/
theorem chunks_found_insert (h : s.IsWellFormed) (c : StoredChunk) (wanted : Wanted) (index : Nat) :
    ((s.insert index c).found wanted).chunks =
      (StoredChunk.readAll wanted 8 (s.init.take index)).map
          (Chunk.displaced (s.place index) c.bytes.length) ++
        c.read wanted (s.place index) ::
          (StoredChunk.readAll wanted (s.place index) (s.init.drop index ++ [s.last])).map
            (Chunk.displaced (s.place index) c.bytes.length) := by
  rw [found, chunks_insert]
  refine StoredChunk.readAll_insert (fun b member => h.chunk b ?_) c _ rfl
  exact List.mem_append_left _ (List.mem_of_mem_take member)

/-- While the stream is read, the same is told as before, at the places to which chunks moved. -/
theorem reports_found_insert (h : s.IsWellFormed) (text : c.IsMalformedText cause)
    (wanted : Wanted) (index : Nat) :
    ((s.insert index c).found wanted).reports (s.insert index c).bytes.length =
      ((s.found wanted).reports s.bytes.length).map
        (Event.displaced (s.place index) c.bytes.length) := by
  rw [reports_found, reports_found, chunks_found_insert h, s.chunks_found wanted index]
  simp only [List.flatMap_append, List.flatMap_cons, List.map_append, text.reports_read,
    Chunk.flatMap_reports_displaced, trailingReports_displaced, List.nil_append]
  rfl

/-- The same is collected, and nothing is told but a notice in between. -/
theorem run_collect_insert (h : s.IsWellFormed) (text : c.IsMalformedText cause) (index : Nat)
    {reports : List Event} {m filled : Metadata}
    (collected : (collect policy (s.found wanted).chunks).run m = (⟨reports, .ok ()⟩, filled)) :
    ∃ first later, first ++ later = reports ∧
      (collect policy ((s.insert index c).found wanted).chunks).run m =
        (⟨first.map (Event.displaced (s.place index) c.bytes.length) ++
          (c.notices wanted (s.place index) cause ++
            later.map (Event.displaced (s.place index) c.bytes.length)), .ok ()⟩, filled) := by
  rw [s.chunks_found wanted index, collect, Action.each_append] at collected
  obtain ⟨_, between, first, later, before, after, rfl⟩ := Action.run_bind_eq_iff.1 collected
  refine ⟨first, later, rfl, ?_⟩
  rw [chunks_found_insert h, collect, Action.each_append]
  apply Action.run_bind_eq (run_collect_displaced before)
  exact Action.run_bind_eq (text.run_collectChunk between) (run_collect_displaced after)

end Stream

/-- A text chunk that holds no text can be put anywhere behind the image header of a stream that is
accepted. The stream is accepted again, with the same metadata; if the chunk is wanted, one notice
tells of it, and the other reports are those from before, at the places to which chunks moved. -/
theorem metadata_insert {bytes : Bytes} {reports : List Event} {m : Metadata}
    (accepted : metadata bytes wanted policy = ⟨reports, .ok m⟩) :
    (∃ s : Stream, s.IsWellFormed ∧ s.bytes = bytes) ∧
      ∀ s : Stream, s.IsWellFormed → s.bytes = bytes →
        ∀ (index : Nat) (c : StoredChunk) (cause : Problem), 0 < index → c.IsMalformedText cause →
          ∃ first later, first ++ later = reports ∧
            metadata (s.insert index c).bytes wanted policy =
              ⟨first.map (Event.displaced (s.place index) c.bytes.length) ++
                (c.notices wanted (s.place index) cause ++
                  later.map (Event.displaced (s.place index) c.bytes.length)), .ok m⟩ := by
  obtain ⟨s, collected, filled, wellFormed, rfl, passes, run, rfl, rfl⟩ :=
    exists_of_metadata_eq accepted
  refine ⟨⟨s, wellFormed, rfl⟩, fun t wellFormed' same index c cause behind text => ?_⟩
  obtain rfl := Stream.eq_of_bytes_eq wellFormed' wellFormed same
  obtain ⟨first, later, rfl, inserted⟩ := Stream.run_collect_insert wellFormed text index run
  refine ⟨(t.found wanted).reports t.bytes.length ++ first, later, List.append_assoc .., ?_⟩
  have whole := wellFormed.insert behind text.wellFormed text.type_ne text.mayRepeat
  rw [metadata_eq_of_run whole (Stream.passes_insert passes text.intact) inserted,
    Stream.reports_found_insert wellFormed text, List.map_append, List.append_assoc]

/-- A stream without an image: the header, without its fields, and the trailer. -/
def Stream.blank : Stream where
  init := [.intact (Bytes.ascii "IHDR") []]
  last := .intact (Bytes.ascii "IEND") []
  rest := []

theorem Stream.isWellFormed_blank : blank.IsWellFormed where
  chunk c member := by
    rcases List.mem_cons.1 member with rfl | member
    · exact StoredChunk.isWellFormed_intact rfl rfl (Nat.zero_le _)
    · rw [List.mem_singleton.1 member]
      exact StoredChunk.isWellFormed_intact rfl rfl (Nat.zero_le _)
  first := rfl
  init c member := by
    rw [List.mem_singleton.1 member]
    decide
  last := rfl
  single := by
    refine .cons (fun d member same => ?_) (.cons nofun .nil)
    rw [List.mem_singleton.1 member] at same
    exact absurd same (by decide)

/-- A text chunk with a keyword that does not end. -/
def StoredChunk.endless : StoredChunk := .intact (Bytes.ascii "tEXt") (Bytes.ascii "Title")

theorem StoredChunk.isMalformedText_endless : endless.IsMalformedText .noKeywordEnd where
  wellFormed := isWellFormed_intact rfl rfl (by decide)
  intact := isIntact_intact _ _
  refused := ⟨decodePlain, rfl, rfl⟩

/-- A keyword that does not end is told of, and changes nothing. -/
theorem metadata_insert_endless :
    ∃ m, metadata Stream.blank.bytes .all ⟨true, 8⟩ = ⟨[], .ok m⟩ ∧
      metadata (Stream.blank.insert 1 .endless).bytes .all ⟨true, 8⟩ =
        ⟨[.notice (.undecodableText (Bytes.ascii "tEXt") (Stream.blank.place 1) .noKeywordEnd)],
          .ok m⟩ := by
  have intact : ∀ c ∈ Stream.blank.chunks, c.IsIntact := by
    intro c member
    rcases List.mem_cons.1 member with rfl | member
    · exact StoredChunk.isIntact_intact _ _
    · rw [List.mem_singleton.1 member]
      exact StoredChunk.isIntact_intact _ _
  have quiet : (Stream.blank.found .all).reports Stream.blank.bytes.length = [] := by
    rw [Stream.reports_found_of_isIntact intact]
    rfl
  have accepted : metadata Stream.blank.bytes .all ⟨true, 8⟩ = ⟨_ ++ [], .ok _⟩ :=
    metadata_eq_of_run Stream.isWellFormed_blank (fun c member _ _ => intact c member) rfl
  rw [quiet] at accepted
  obtain ⟨first, later, none, inserted⟩ := (metadata_insert accepted).2 Stream.blank
    Stream.isWellFormed_blank rfl 1 .endless .noKeywordEnd Nat.one_pos
    StoredChunk.isMalformedText_endless
  obtain ⟨rfl, rfl⟩ := List.append_eq_nil_iff.1 none
  exact ⟨_, accepted, inserted⟩

end Png

end ImageMetadata
