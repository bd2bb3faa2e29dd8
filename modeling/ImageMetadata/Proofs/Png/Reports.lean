import ImageMetadata.Png.File
import ImageMetadata.Proofs.Embedding.Basic
import ImageMetadata.Proofs.Png.Acceptance

/-!
# What the PNG reader reports

A reader that ends well has told of each chunk that it found whether its type is unknown and whether
its checksum is wrong, chunk by chunk, and at last of the bytes behind the image trailer. So what is
reported can be read off what was found; what is collected from the chunks comes after it.
-/

namespace ImageMetadata.Png

/-- What is told of a type at its place. -/
def typeReports (type : Bytes) : List Event :=
  match info? type with
  | none => [.trace (.unknownChunk type)]
  | some _ => []

/-- What is told of the checksum of a chunk, if it was checked. -/
def Chunk.crcReports (c : Chunk) : List Event :=
  match c.computed with
  | some n =>
    if c.crc = n then [] else [.notice (.integrity (.crcMismatch c.type c.offset c.crc n))]
  | none => []

def Chunk.reports (c : Chunk) : List Event := typeReports c.type ++ c.crcReports

/-- What is told of the bytes behind the image trailer. -/
def trailingReports (count : Nat) : List Event :=
  if count = 0 then [] else [.trace (.trailingBytes count)]

/-- What is told of a stream of a given size while all that was found is found. -/
def Progress.reports (s : Progress) (size : Nat) : List Event :=
  s.chunks.flatMap Chunk.reports ++ trailingReports (size - s.position)

variable {wanted : Wanted} {strict : Bool} {size offset length : Nat} {type body rest : Bytes}
  {s t : Progress} {events : List Event} {u : Unit} {policy : Policy}

theorem reports_checkPlace (h : (checkPlace type offset).run s = (⟨events, .ok u⟩, t)) :
    events = typeReports type ∧ s = t := by
  unfold checkPlace at h
  rw [Action.run_state_bind] at h
  obtain ⟨_, s', first, later, required, placed, rfl⟩ := Action.run_bind_eq_iff.1 h
  obtain ⟨_, rfl, rfl⟩ := Action.run_require_eq_iff.1 required
  unfold typeReports
  cases known : info? type with
  | none =>
      rw [known] at placed
      cases placed
      exact ⟨rfl, rfl⟩
  | some info =>
      rw [known] at placed
      obtain ⟨_, rfl, rfl⟩ := Action.run_require_eq_iff.1 placed
      exact ⟨rfl, rfl⟩

theorem reports_chunk {c : Chunk}
    (h : chunk wanted strict type offset length body = ⟨events, .ok c⟩) :
    events = c.crcReports ∧ c.type = type := by
  unfold chunk at h
  dsimp only at h
  split at h
  · obtain ⟨_, first, later, checked, made, rfl⟩ := Outcome.bind_eq_iff.1 h
    obtain ⟨rfl, rfl⟩ := Outcome.pure_eq_iff.1 made
    refine ⟨?_, rfl⟩
    unfold Outcome.check at checked
    split at checked
    · rename_i same
      obtain ⟨rfl, _⟩ := Outcome.pure_eq_iff.1 checked
      simp only [Chunk.crcReports, if_pos (eq_of_beq same), List.append_nil]
    · rename_i other
      obtain ⟨_, rfl⟩ := Outcome.flag_eq_iff.1 checked
      simp only [Chunk.crcReports, if_neg fun same => other (beq_of_eq same), List.append_nil]
  · obtain ⟨rfl, rfl⟩ := Outcome.pure_eq_iff.1 h
    exact ⟨rfl, rfl⟩

/-- A chunk that is taken is found, and what is told is told of it. -/
theorem reports_takeChunk
    (h : (takeChunk wanted strict type offset length body).run s = (⟨events, .ok u⟩, t)) :
    ∃ c : Chunk, events = c.reports ∧ t = ⟨s.chunks ++ [c], offset + 12 + length⟩ := by
  unfold takeChunk Progress.moveTo Progress.add at h
  rw [Action.run_bind_of_pure _ (Action.run_update _ _), Action.run_require_bind_eq_iff,
    Action.run_require_bind_eq_iff] at h
  obtain ⟨_, _, checked⟩ := h
  obtain ⟨_, _, _, _, placed, moved, rfl⟩ := Action.run_bind_eq_iff.1 checked
  obtain ⟨rfl, rfl⟩ := reports_checkPlace placed
  rw [Action.run_bind_of_pure _ (Action.run_update _ _)] at moved
  obtain ⟨c, _, _, made, added, rfl⟩ := Action.run_lift_bind_eq_iff.1 moved
  obtain ⟨rfl, rfl⟩ := reports_chunk made
  obtain ⟨rfl, rfl⟩ := Action.run_update_eq_iff.1 added
  exact ⟨c, by simp [Chunk.reports], rfl⟩

theorem run_trailing (after : Bytes) :
    (Action.when (!after.isEmpty) (Outcome.trace (.trailingBytes after.length)) :
      Action Progress Unit).run s = (⟨trailingReports after.length, .ok ()⟩, s) := by
  cases after <;> rfl

/-- Where nothing follows a chunk, the bytes behind it are told of. -/
theorem reports_readChunk {left : Left rest} (inside : rest.length ≤ size)
    (h : (readChunk wanted strict size rest).run s = (⟨events, .ok left⟩, t)) :
    ∃ c : Chunk, t.chunks = s.chunks ++ [c] ∧
      events = c.reports ++ if left.isNone then trailingReports (size - t.position) else [] := by
  unfold readChunk at h
  split at h
  · cases h
  · obtain ⟨_, _, first, _, taken, ended, rfl⟩ := Action.run_bind_eq_iff.1 h
    obtain ⟨c, rfl, rfl⟩ := reports_takeChunk taken
    refine ⟨c, ?_⟩
    have count : ((rest.drop 8).drop (ByteOrder.big.unsigned (rest.take 4) + 4)).length =
        size - (size - rest.length + 12 + ByteOrder.big.unsigned (rest.take 4)) := by
      rw [List.length_drop, List.length_drop]
      omega
    dsimp only at ended
    split at ended
    · rw [Action.run_bind_of_ok _ (run_trailing _), count] at ended
      cases ended
      exact ⟨rfl, by simp⟩
    · cases ended
      exact ⟨rfl, rfl⟩

/-- A reader that ends well has told what can be read off the chunks that it found. -/
theorem reports_readChunks (inside : rest.length ≤ size)
    (h : (readChunks wanted strict size rest).run s = (⟨events, .ok u⟩, t)) :
    ∃ chunks, t.chunks = s.chunks ++ chunks ∧
      events = chunks.flatMap Chunk.reports ++ trailingReports (size - t.position) := by
  induction rest using readChunks.induct generalizing s events with
  | case1 rest ih =>
      rw [readChunks] at h
      obtain ⟨left, s', first, later, taken, ended, rfl⟩ := Action.run_bind_eq_iff.1 h
      obtain ⟨c, found, rfl⟩ := reports_readChunk inside taken
      cases left with
      | none =>
          cases ended
          exact ⟨[c], found, by simp⟩
      | some left =>
          have shorter := left.property
          obtain ⟨chunks, others, rfl⟩ := ih left (by omega) ended
          refine ⟨c :: chunks, ?_, by simp⟩
          rw [others, found, List.append_assoc, List.singleton_append]

theorem reports_read {bytes : Bytes}
    (h : (read bytes wanted strict).run Progress.start = (⟨events, .ok u⟩, t)) :
    events = t.reports bytes.length := by
  unfold read at h
  split at h
  · rw [Progress.moveTo, Action.run_bind_of_pure _ (Action.run_update _ _)] at h
    have inside : (bytes.drop 8).length ≤ bytes.length := by
      rw [List.length_drop]
      omega
    obtain ⟨chunks, found, rfl⟩ := reports_readChunks inside h
    rw [Progress.reports, found]
    rfl
  · cases h

/-- Of a chunk that a strict reader takes, only an unknown type is told. -/
theorem StoredChunk.Passes.reports_read {c : StoredChunk} (h : c.Passes wanted true)
    (offset : Nat) : (c.read wanted offset).reports = typeReports c.type := by
  have warned : (c.read wanted offset).crcReports = [] := by
    unfold StoredChunk.read
    split
    · rename_i kept
      exact if_pos (h rfl kept)
    · rfl
  rw [Chunk.reports, StoredChunk.read_type, warned, List.append_nil]

theorem StoredChunk.IsIntact.reports_read {c : StoredChunk} (h : c.IsIntact) (wanted : Wanted)
    (offset : Nat) : (c.read wanted offset).reports = typeReports c.type :=
  Passes.reports_read (fun _ _ => h) offset

theorem StoredChunk.flatMap_reports_readAll {list : List StoredChunk}
    (intact : ∀ c ∈ list, c.IsIntact) (wanted : Wanted) (offset : Nat) :
    (readAll wanted offset list).flatMap Chunk.reports =
      list.flatMap fun c => typeReports c.type := by
  unfold readAll
  induction list generalizing offset with
  | nil => rfl
  | cons c rest ih =>
      rw [readParts, List.flatMap_cons, List.flatMap_cons,
        ih (fun d member => intact d (List.mem_cons_of_mem c member)),
        (intact c List.mem_cons_self).reports_read]

/-- What a reader of some types finds in a well-formed stream. -/
def Stream.found (s : Stream) (wanted : Wanted) : Progress :=
  ⟨StoredChunk.readAll wanted 8 s.chunks, 8 + (s.chunks.flatMap StoredChunk.bytes).length⟩

theorem Stream.reports_found (s : Stream) (wanted : Wanted) :
    (s.found wanted).reports s.bytes.length =
      (s.found wanted).chunks.flatMap Chunk.reports ++ trailingReports s.rest.length := by
  have left : s.bytes.length - (s.found wanted).position = s.rest.length := by
    rw [length_bytes, List.length_append, found]
    dsimp only
    omega
  rw [Progress.reports, left]

/-- A stream of intact chunks is only told of for its unknown types and for what follows it. -/
theorem Stream.reports_found_of_isIntact {s : Stream} (intact : ∀ c ∈ s.chunks, c.IsIntact)
    (wanted : Wanted) :
    (s.found wanted).reports s.bytes.length =
      s.chunks.flatMap (fun c => typeReports c.type) ++ trailingReports s.rest.length := by
  rw [reports_found, ← StoredChunk.flatMap_reports_readAll intact wanted 8]
  rfl

/-- Bytes are accepted where they are a well-formed stream, and what is found in it is collected. -/
theorem exists_of_metadata_eq {bytes : Bytes} {reports : List Event} {m : Metadata}
    (accepted : metadata bytes wanted policy = ⟨reports, .ok m⟩) :
    ∃ (s : Stream) (collected : List Event) (filled : Metadata), s.IsWellFormed ∧ s.bytes = bytes ∧
      (∀ c ∈ s.chunks, c.Passes wanted policy.strict) ∧
      (collect policy (s.found wanted).chunks).run (Metadata.empty Format.png.name) =
        (⟨collected, .ok ()⟩, filled) ∧
      (s.found wanted).reports bytes.length ++ collected = reports ∧
      { filled with frozen := true } = m := by
  rw [metadata_eq] at accepted
  obtain ⟨_, told, collected, ended, fill, rfl⟩ := Outcome.bind_eq_iff.1 accepted
  have yields : Action.Yields (read bytes wanted policy.strict) Progress.start ()
      ((read bytes wanted policy.strict).run Progress.start).2 := by
    constructor
    · rw [ended]
    · rfl
  obtain ⟨s, wellFormed, same, intact, found⟩ :=
    (yields_read_iff_isWellFormed bytes wanted policy.strict _).1 yields
  have run : (read bytes wanted policy.strict).run Progress.start =
      (⟨told, .ok ()⟩, s.found wanted) := Prod.ext ended found
  rw [run] at fill
  obtain ⟨filled, collect, frozen⟩ := Metadata.collect_eq_iff.1 fill
  refine ⟨s, collected, filled, wellFormed, same, fun c member strict => intact strict c member,
    collect, ?_, frozen⟩
  rw [reports_read run]

/-- What is found in a well-formed stream is collected. -/
theorem metadata_eq_of_run {s : Stream} (wellFormed : s.IsWellFormed)
    (passes : ∀ c ∈ s.chunks, c.Passes wanted policy.strict) {collected : List Event}
    {filled : Metadata} (run : (collect policy (s.found wanted).chunks).run
      (Metadata.empty Format.png.name) = (⟨collected, .ok ()⟩, filled)) :
    metadata s.bytes wanted policy =
      ⟨(s.found wanted).reports s.bytes.length ++ collected,
        .ok { filled with frozen := true }⟩ := by
  obtain ⟨told, ended⟩ := (s.yields_read wellFormed wanted policy.strict passes).exists_run
  have fill : Metadata.collect .png (collect policy (s.found wanted).chunks) =
      ⟨collected, .ok { filled with frozen := true }⟩ :=
    Metadata.collect_eq_iff.2 ⟨filled, run, rfl⟩
  rw [metadata_eq, ended, Outcome.bind_of_ok _ rfl, reports_read ended]
  exact congrArg (fun x : Outcome Metadata => (⟨_ ++ x.events, x.result⟩ : Outcome Metadata)) fill

end ImageMetadata.Png
