import ImageMetadata.Png.Stream
import ImageMetadata.Proofs.Keeps
import ImageMetadata.Proofs.Selection.Basic
import ImageMetadata.Webp.Stream

/-!
# Wanted chunks

Which types are wanted only decides which payloads are kept. Whatever the bytes, a reader of some
types finds the chunks that a reader of all types finds, at the same places, and fails where that
one fails; it leaves out the payloads of the other types and the warnings about their checksums.
-/

namespace ImageMetadata

open ImageMetadata.Action (Maps Keeps Yields)

/-- What a reader of some types reports in place of an event of a reader of all types. No checksum
of another type is checked, and a chunk of another type is skipped. -/
def Event.select? (wanted : Wanted) : Event → Option Event
  | .notice (.integrity (.crcMismatch type offset stored computed)) =>
    if wanted.includes type then
      some (.notice (.integrity (.crcMismatch type offset stored computed)))
    else none
  | .trace (.riffChunkRetained fourcc offset) =>
    some (.trace (if wanted.includes fourcc then .riffChunkRetained fourcc offset
      else .riffChunkSkipped fourcc offset))
  | event => some event

namespace Png

/-- What is kept of a chunk whose payload and checksum were both kept. -/
def Chunk.select (wanted : Wanted) (c : Chunk) : Chunk :=
  if wanted.includes c.type then c else { c with payload := none, computed := none }

/-- What is kept of the chunks; the position is the same. -/
def Progress.select (wanted : Wanted) (s : Progress) : Progress :=
  { s with chunks := s.chunks.map (Chunk.select wanted) }

section Selection

variable (wanted : Wanted)

@[simp] theorem Chunk.select_type (c : Chunk) : (c.select wanted).type = c.type := by
  unfold select
  split <;> rfl

theorem Progress.has_select (s : Progress) (type : Bytes) :
    (s.select wanted).has type = s.has type := by
  simp [select, has, List.any_map, Function.comp_def]

theorem maps_moveTo (position : Nat) : Maps (Event.select? wanted) (Progress.select wanted)
    (Progress.moveTo position) (Progress.moveTo position) :=
  .update fun _ => rfl

theorem maps_checkPlace (type : Bytes) (offset : Nat) :
    Maps (Event.select? wanted) (Progress.select wanted) (checkPlace type offset)
      (checkPlace type offset) := by
  apply Maps.state_bind
  intro s
  have empty : (s.select wanted).chunks.isEmpty = s.chunks.isEmpty := List.isEmpty_map
  rw [empty, s.has_select wanted]
  apply (Maps.require _ _).bind
  intro _
  cases info? type with
  | none => exact .lift rfl
  | some known => exact .require _ _

/-- The warning about a checksum is only given where the type is wanted. -/
theorem reporting_check (same : Bool) (type : Bytes) (offset stored computed : Nat) :
    (Outcome.check false same (.crcMismatch type offset stored computed)).reporting
        (Event.select? wanted) =
      if wanted.includes type then
        Outcome.check false same (.crcMismatch type offset stored computed)
      else pure () := by
  cases included : wanted.includes type <;> cases same <;>
    simp [Outcome.check, Outcome.flag, Outcome.notify, Outcome.reporting, Event.select?, included,
      Outcome.ext_iff]

/-- What is kept of a chunk that a reader of all types makes is the chunk that a reader of some
types makes. -/
theorem select_chunk (type : Bytes) (offset length : Nat) (body : Bytes) :
    (Chunk.select wanted <$> chunk .all false type offset length body).reporting
      (Event.select? wanted) = chunk wanted false type offset length body := by
  have all : Wanted.all.includes type = true := rfl
  simp only [chunk, all, if_true, map_bind, map_pure, Outcome.reporting_bind, reporting_check,
    Chunk.select]
  split
  · rfl
  · exact pure_bind _ _

theorem maps_takeChunk (type : Bytes) (offset length : Nat) (body : Bytes) :
    Maps (Event.select? wanted) (Progress.select wanted)
      (takeChunk .all false type offset length body)
      (takeChunk wanted false type offset length body) := by
  refine (maps_moveTo wanted _).bind fun _ => (Maps.require _ _).bind fun _ => ?_
  refine (Maps.require _ _).bind fun _ => (maps_checkPlace wanted _ _).bind fun _ => ?_
  apply (maps_moveTo wanted _).bind
  intro _
  apply Maps.lift_bind (select_chunk wanted type offset length body)
  intro c
  exact .update fun s => by simp [Progress.select]

theorem maps_readChunk (size : Nat) (rest : Bytes) :
    Maps (Event.select? wanted) (Progress.select wanted) (readChunk .all false size rest)
      (readChunk wanted false size rest) := by
  unfold readChunk
  split
  · exact .fail _
  apply (maps_takeChunk wanted _ _ _ _).bind
  intro _
  dsimp only
  split
  · exact (Maps.when _ (.lift rfl)).bind fun _ => .pure none
  · exact .pure _

theorem maps_readChunks (size : Nat) (rest : Bytes) :
    Maps (Event.select? wanted) (Progress.select wanted) (readChunks .all false size rest)
      (readChunks wanted false size rest) := by
  induction rest using readChunks.induct with
  | case1 rest ih =>
      rw [readChunks, readChunks]
      apply (maps_readChunk wanted size rest).bind
      intro left
      cases left with
      | none => exact .pure ()
      | some left => exact ih left

theorem maps_read (bytes : Bytes) : Maps (Event.select? wanted) (Progress.select wanted)
    (read bytes .all false) (read bytes wanted false) := by
  unfold read
  split
  · exact (maps_moveTo wanted 8).bind fun _ => maps_readChunks wanted _ _
  · exact .fail _

end Selection

/-- The payload that stands behind the length and the type was kept, and its checksum was computed.
-/
structure Chunk.IsKept (bytes : Bytes) (c : Chunk) : Prop where
  payload_eq : c.payload = some (bytes.slice (c.offset + 8) c.length)
  computed_eq : c.computed = some (crcOf c.type (bytes.slice (c.offset + 8) c.length))

/-- Every chunk that was found was kept. -/
def Progress.AreKept (bytes : Bytes) (s : Progress) : Prop := ∀ c ∈ s.chunks, c.IsKept bytes

section Kept

variable (bytes : Bytes)

theorem keeps_moveTo (position : Nat) :
    Keeps (Progress.AreKept bytes) (Progress.moveTo position) :=
  .update fun _ => id

theorem keeps_checkPlace (type : Bytes) (offset : Nat) :
    Keeps (Progress.AreKept bytes) (checkPlace type offset) := by
  refine Keeps.state_bind fun s => (Keeps.require _ _).bind fun _ => ?_
  cases info? type with
  | none => exact .lift _
  | some known => exact .require _ _

/-- Whatever the checksum says, a reader of all types makes one chunk of a body. -/
theorem result_chunk_all {type body : Bytes} {offset length : Nat} {c : Chunk}
    (h : (chunk .all false type offset length body).result = .ok c) :
    c.offset = offset ∧ c.length = length ∧ c.type = type ∧
      c.payload = some (body.take length) ∧ c.computed = some (crcOf type (body.take length)) := by
  have kept : Wanted.all.includes type = true := rfl
  simp only [chunk, kept, if_true] at h
  obtain ⟨_, _, made⟩ := Outcome.ok_of_bind h
  cases made
  exact ⟨rfl, rfl, rfl, rfl, rfl⟩

theorem keeps_takeChunk {type : Bytes} {offset length : Nat} {body : Bytes}
    (stands : body = bytes.drop (offset + 8)) :
    Keeps (Progress.AreKept bytes) (takeChunk .all false type offset length body) := by
  refine (keeps_moveTo bytes _).bind fun _ => (Keeps.require _ _).bind fun _ => ?_
  refine (Keeps.require _ _).bind fun _ => (keeps_checkPlace bytes _ _).bind fun _ => ?_
  refine (keeps_moveTo bytes _).bind fun _ => (Keeps.lift _).bind_of_yields fun _ c _ made => ?_
  obtain ⟨rfl, rfl, rfl, payload, computed⟩ := result_chunk_all made.result_eq
  have kept : c.IsKept bytes := by
    rw [stands] at payload computed
    exact ⟨payload, computed⟩
  apply Keeps.update
  intro s known d member
  rcases List.mem_append.1 member with old | new
  · exact known d old
  · rwa [List.mem_singleton.1 new]

theorem keeps_readChunk {rest : Bytes} (suffix : rest <:+ bytes) :
    Keeps (Progress.AreKept bytes) (readChunk .all false bytes.length rest) := by
  unfold readChunk
  split
  · exact .lift _
  have stands : rest.drop 8 = bytes.drop (bytes.length - rest.length + 8) := by
    rw [← List.drop_drop, ← List.suffix_iff_eq_drop.1 suffix]
  apply (keeps_takeChunk bytes stands).bind
  intro _
  dsimp only
  split
  · exact (Keeps.when _ (.lift _)).bind fun _ => .pure none
  · exact .pure _

/-- What follows a chunk is the end of what it was taken from. -/
theorem suffix_of_yields_readChunk {wanted : Wanted} {strict : Bool} {size : Nat} {rest : Bytes}
    {left : { after : Bytes // after.length < rest.length }} {p q : Progress}
    (h : Yields (readChunk wanted strict size rest) p (some left) q) : left.val <:+ rest := by
  unfold readChunk at h
  split at h
  · exact absurd h Yields.not_fail
  · obtain ⟨_, _, _, ended⟩ := Yields.bind_iff.1 h
    dsimp only at ended
    split at ended
    · rw [Yields.when_trace_bind_iff, Yields.pure_iff] at ended
      cases ended.1
    · rw [Yields.pure_iff] at ended
      cases ended.1
      exact (List.drop_suffix _ _).trans (List.drop_suffix _ _)

theorem keeps_readChunks {rest : Bytes} (suffix : rest <:+ bytes) :
    Keeps (Progress.AreKept bytes) (readChunks .all false bytes.length rest) := by
  induction rest using readChunks.induct with
  | case1 rest ih =>
      rw [readChunks]
      apply (keeps_readChunk bytes suffix).bind_of_yields
      intro _ left _ taken
      cases left with
      | none => exact .pure ()
      | some left => exact ih left ((suffix_of_yields_readChunk taken).trans suffix)

/-- A reader of all types keeps each chunk, up to where it fails. -/
theorem keeps_read : Keeps (Progress.AreKept bytes) (read bytes .all false) := by
  unfold read
  split
  · exact (keeps_moveTo bytes 8).bind fun _ => keeps_readChunks bytes (List.drop_suffix 8 bytes)
  · exact .lift _

end Kept

end Png

namespace Webp

/-- What is kept of a chunk whose payload was kept. -/
def Chunk.select (wanted : Wanted) (c : Chunk) : Chunk :=
  if wanted.includes c.fourcc then c else { c with payload := none }

/-- What is kept of the chunks; the size and the position are the same. -/
def Progress.select (wanted : Wanted) (s : Progress) : Progress :=
  { s with chunks := s.chunks.map (Chunk.select wanted) }

section Selection

variable (wanted : Wanted)

@[simp] theorem Chunk.select_fourcc (c : Chunk) : (c.select wanted).fourcc = c.fourcc := by
  unfold select
  split <;> rfl

theorem Progress.has_select (s : Progress) (fourcc : Bytes) :
    (s.select wanted).has fourcc = s.has fourcc := by
  simp [select, has, List.any_map, Function.comp_def]

theorem maps_moveTo (position : Nat) : Maps (Event.select? wanted) (Progress.select wanted)
    (Progress.moveTo position) (Progress.moveTo position) :=
  .update fun _ => rfl

theorem maps_readChunk (fileSize : Nat) (rest : Bytes) :
    Maps (Event.select? wanted) (Progress.select wanted) (readChunk .all fileSize rest)
      (readChunk wanted fileSize rest) := by
  have all (fourcc : Bytes) : Wanted.all.includes fourcc = true := rfl
  simp only [readChunk, all, if_true]
  split
  · exact .fail _
  refine (maps_moveTo wanted _).bind fun _ => (Maps.require _ _).bind fun _ => ?_
  apply Maps.state_bind
  intro s
  have empty : (s.select wanted).chunks.isEmpty = s.chunks.isEmpty := List.isEmpty_map
  rw [empty, s.has_select wanted]
  refine (Maps.require _ _).bind fun _ => (Maps.when _ (.lift rfl)).bind fun _ => ?_
  refine (Maps.lift rfl).bind fun _ => Maps.bind (.update fun s => ?_) fun _ => ?_
  · simp only [Progress.select, Chunk.select, List.map_append, List.map_singleton]
    split <;> rfl
  · exact (maps_moveTo wanted _).bind fun _ => .pure _

theorem maps_readChunks (fileSize : Nat) (rest : Bytes) :
    Maps (Event.select? wanted) (Progress.select wanted) (readChunks .all fileSize rest)
      (readChunks wanted fileSize rest) := by
  induction rest using readChunks.induct with
  | case1 rest done =>
      rw [readChunks, readChunks, if_pos done, if_pos done]
      exact .pure ()
  | case2 rest more ih =>
      rw [readChunks, readChunks, if_neg more, if_neg more]
      exact (maps_readChunk wanted fileSize rest).bind ih

theorem maps_read (bytes : Bytes) : Maps (Event.select? wanted) (Progress.select wanted)
    (read bytes .all) (read bytes wanted) := by
  refine Maps.bind ?_ fun fileSize => maps_readChunks wanted fileSize _
  refine (Maps.require _ _).bind fun _ => (maps_moveTo wanted _).bind fun _ => ?_
  refine (Maps.require _ _).bind fun _ => (Maps.require _ _).bind fun _ => ?_
  exact Maps.bind (.update fun _ => rfl) fun _ => .pure _

end Selection

/-- The payload that stands behind the type and the size was kept. -/
def Chunk.IsKept (bytes : Bytes) (c : Chunk) : Prop :=
  c.payload = some (bytes.slice (c.offset + 8) c.size)

/-- Every chunk that was found was kept. -/
def Progress.AreKept (bytes : Bytes) (s : Progress) : Prop := ∀ c ∈ s.chunks, c.IsKept bytes

section Kept

variable (bytes : Bytes)

theorem keeps_moveTo (position : Nat) :
    Keeps (Progress.AreKept bytes) (Progress.moveTo position) :=
  .update fun _ => id

theorem keeps_readChunk {fileSize : Nat} {rest : Bytes} (whole : fileSize ≤ bytes.length)
    (suffix : rest <:+ bytes.take fileSize) :
    Keeps (Progress.AreKept bytes) (readChunk .all fileSize rest) := by
  have all (fourcc : Bytes) : Wanted.all.includes fourcc = true := rfl
  have stands : rest.drop 8 = (bytes.take fileSize).drop (fileSize - rest.length + 8) := by
    have start := List.suffix_iff_eq_drop.1 suffix
    rw [List.length_take_of_le whole] at start
    rw [← List.drop_drop, ← start]
  simp only [readChunk, all, if_true]
  split
  · exact .lift _
  refine (keeps_moveTo bytes _).bind fun _ => Keeps.require_bind fun fits => ?_
  have payload : (rest.drop 8).take (ByteOrder.little.unsigned (rest.slice 4 4)) =
      bytes.slice (fileSize - rest.length + 8) (ByteOrder.little.unsigned (rest.slice 4 4)) := by
    have most := of_decide_eq_true fits
    rw [stands, List.drop_take, List.length_take] at most
    rw [stands, List.drop_take, List.take_take, Nat.min_eq_left (by omega)]
    rfl
  apply Keeps.state_bind
  intro s
  refine (Keeps.require _ _).bind fun _ => (Keeps.when _ (.lift _)).bind fun _ => ?_
  refine (Keeps.lift _).bind fun _ => Keeps.bind (.update ?_) fun _ => ?_
  · intro s known d member
    rcases List.mem_append.1 member with old | new
    · exact known d old
    · rw [List.mem_singleton.1 new]
      exact congrArg some payload
  · exact (keeps_moveTo bytes _).bind fun _ => .pure _

/-- What follows a chunk is the end of what it was taken from. -/
theorem suffix_of_yields_readChunk {wanted : Wanted} {fileSize : Nat} {rest : Bytes}
    {left : { after : Bytes // after.length < rest.length }} {p q : Progress}
    (h : Yields (readChunk wanted fileSize rest) p left q) : left.val <:+ rest := by
  unfold readChunk Progress.moveTo Progress.add at h
  split at h
  · exact absurd h Yields.not_fail
  · rw [Yields.update_bind_iff, Yields.require_bind_iff, Yields.state_bind_iff,
      Yields.require_bind_iff, Yields.when_trace_bind_iff] at h
    obtain ⟨_, _, added⟩ := Yields.lift_bind_iff.1 h.2.2
    rw [Yields.update_bind_iff, Yields.update_bind_iff, Yields.pure_iff] at added
    cases added.1
    exact (List.drop_suffix _ _).trans (List.drop_suffix _ _)

theorem keeps_readChunks {fileSize : Nat} {rest : Bytes} (whole : fileSize ≤ bytes.length)
    (suffix : rest <:+ bytes.take fileSize) :
    Keeps (Progress.AreKept bytes) (readChunks .all fileSize rest) := by
  induction rest using readChunks.induct with
  | case1 rest done =>
      rw [readChunks, if_pos done]
      exact .pure ()
  | case2 rest more ih =>
      rw [readChunks, if_neg more]
      apply (keeps_readChunk bytes whole suffix).bind_of_yields
      intro _ left _ taken
      exact ih left ((suffix_of_yields_readChunk taken).trans suffix)

/-- A reader of all types keeps each chunk, up to where it fails. -/
theorem keeps_read : Keeps (Progress.AreKept bytes) (read bytes .all) := by
  unfold read readHeader
  simp only [bind_assoc, pure_bind]
  refine (Keeps.require _ _).bind fun _ => (keeps_moveTo bytes _).bind fun _ => ?_
  refine (Keeps.require _ _).bind fun _ => Keeps.require_bind fun whole => ?_
  refine Keeps.bind (.update fun _ => id) fun _ => ?_
  apply keeps_readChunks bytes (of_decide_eq_true whole)
  rw [Bytes.slice, ← List.drop_take]
  exact List.drop_suffix _ _

end Kept

end Webp

/-- A run is what is left of another one for a choice of types: it ends in the same way, and what it
reports and leaves behind is what the choice makes of the reports and the state of the other one. -/
structure IsSelectionOf {σ : Type} (wanted : Wanted) (select : σ → σ) (x y : Outcome Unit × σ) :
    Prop where
  result_eq : x.1.result = y.1.result
  events_eq : x.1.events = y.1.events.filterMap (Event.select? wanted)
  state_eq : x.2 = select y.2

theorem Action.Maps.isSelectionOf {σ : Type} {wanted : Wanted} {select : σ → σ}
    {x y : Action σ Unit} {s : σ} (h : Maps (Event.select? wanted) select y x)
    (same : select s = s) : IsSelectionOf wanted select (x.run s) (y.run s) := by
  have run := h s
  rw [same] at run
  rw [run]
  exact ⟨rfl, rfl, rfl⟩

/-- The choice of types is a projection of the run that wants all types, for every file and whether
or not it is accepted. All types keep every payload and no type keeps none. -/
theorem Wanted.isSelectionOf_read (bytes : Bytes) (wanted : Wanted) :
    IsSelectionOf wanted (Png.Progress.select wanted)
        ((Png.read bytes wanted false).run Png.Progress.start)
        ((Png.read bytes .all false).run Png.Progress.start) ∧
      IsSelectionOf wanted (Webp.Progress.select wanted)
        ((Webp.read bytes wanted).run Webp.Progress.start)
        ((Webp.read bytes .all).run Webp.Progress.start) ∧
      (∀ c ∈ ((Png.read bytes .all false).run Png.Progress.start).2.chunks, c.IsKept bytes) ∧
      (∀ c ∈ ((Webp.read bytes .all).run Webp.Progress.start).2.chunks, c.IsKept bytes) ∧
      (∀ c ∈ ((Png.read bytes (.only []) false).run Png.Progress.start).2.chunks,
        c.payload = none ∧ c.computed = none) ∧
      ∀ c ∈ ((Webp.read bytes (.only [])).run Webp.Progress.start).2.chunks, c.payload = none := by
  have png (wanted : Wanted) := (Png.maps_read wanted bytes).isSelectionOf
    (s := Png.Progress.start) rfl
  have webp (wanted : Wanted) := (Webp.maps_read wanted bytes).isSelectionOf
    (s := Webp.Progress.start) rfl
  have start : Png.Progress.start.AreKept bytes ∧ Webp.Progress.start.AreKept bytes := by
    constructor <;> simp [Png.Progress.AreKept, Webp.Progress.AreKept, Png.Progress.start,
      Webp.Progress.start]
  refine ⟨png wanted, webp wanted, Png.keeps_read bytes _ start.1, Webp.keeps_read bytes _ start.2,
    fun c member => ?_, fun c member => ?_⟩
  · rw [(png (.only [])).state_eq] at member
    obtain ⟨d, _, rfl⟩ := List.mem_map.1 member
    exact ⟨rfl, rfl⟩
  · rw [(webp (.only [])).state_eq] at member
    obtain ⟨d, _, rfl⟩ := List.mem_map.1 member
    rfl

end ImageMetadata
