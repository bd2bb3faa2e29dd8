import ImageMetadata.Jpeg.File
import ImageMetadata.Png.File
import ImageMetadata.Proofs.Embedding.Basic
import ImageMetadata.Proofs.Jpeg.Grammar
import ImageMetadata.Proofs.Png.Acceptance
import ImageMetadata.Proofs.Png.Text
import ImageMetadata.Proofs.Webp.Grammar
import ImageMetadata.Webp.File

/-!
# TIFF streams in JPEG, PNG and WebP files

In a well-formed file exactly one part fills in headers and directories: the Exif segments, joined,
the Exif chunk, or the first of several Exif chunks. Texts and XMP packets leave them alone.
-/

namespace ImageMetadata

open Metadata (Spares Fills IsFresh)

variable {m : Metadata} {stream : Bytes} {policy : Policy}

/-- A packet that is not well formed is only reported. -/
theorem Xmp.run_collect_of_none {packet : Bytes}
    (refused : Xml.Document.ofBytes? (packet.trimEnd Xmp.isPadding) = none) :
    (Xmp.collect packet).run m = (⟨[.notice .malformedXmp], .ok ()⟩, m) := by
  have malformed : Xmp.read packet = ⟨[.notice .malformedXmp], .ok none⟩ := by
    rw [Xmp.read, refused]
    rfl
  unfold Xmp.collect
  rw [malformed]
  rfl

/-- The tree of any other packet is kept. -/
theorem Xmp.run_collect_of_some {packet : Bytes} {tree : Xml.Document}
    (parsed : Xml.Document.ofBytes? (packet.trimEnd Xmp.isPadding) = some tree) :
    (Xmp.collect packet).run m = (Metadata.setXmp (some tree)).run m := by
  have whole : Xmp.read packet = pure (some tree) := by rw [Xmp.read, parsed]
  unfold Xmp.collect
  rw [whole]
  exact Action.run_bind_of_pure _ rfl

theorem Xmp.spares_collect (isOpen : m.frozen = false) (packet : Bytes) :
    Spares (Xmp.collect packet) m := by
  cases parsed : Xml.Document.ofBytes? (packet.trimEnd Xmp.isPadding) with
  | none =>
      have run := Xmp.run_collect_of_none (m := m) parsed
      constructor <;> rw [run]
      exact ⟨rfl, rfl⟩
  | some tree =>
      have kept := Metadata.spares_setXmp isOpen (some tree)
      have run := Xmp.run_collect_of_some (m := m) parsed
      exact ⟨run ▸ kept.gives, run ▸ kept.frozen_eq, run ▸ kept.header_eq, run ▸ kept.directories_eq⟩

theorem Xmp.spares_collect? (isOpen : m.frozen = false) (packet : Option Bytes) :
    Spares (Xmp.collect? packet) m := by
  cases packet with
  | none => exact Spares.pure
  | some packet => exact Xmp.spares_collect isOpen packet

namespace Jpeg

/-- The Exif segments of a JPEG file, cut however one likes, carry their stream. -/
theorem carries {s : Stream} (wellFormed : s.IsWellFormed)
    (sound : ∀ i ∈ s.items, i.element.IsSound) (nonempty : s.pieces ≠ []) :
    (metadata s.bytes policy).Carries (Tiff.metadata s.pieces.flatten policy) := by
  obtain ⟨found, search, done, exif, count⟩ := s.runs_scan wellFormed sound policy.strict
  have joined : found.exif? = some s.pieces.flatten := by
    rw [Scan.exif?, if_pos ⟨done, by rw [count]; exact List.length_pos_iff.2 nonempty⟩, exif]
  have start := IsFresh.empty Format.jpeg.name
  have noted : Spares (Action.when found.exif?.isNone (Outcome.trace .noExif))
      (Metadata.empty Format.jpeg.name) := Spares.when _ (Spares.lift (.trace _))
  rw [metadata_eq, search.state_eq]
  apply Outcome.Carries.of_read search.gives
  refine Fills.carries (Fills.before noted ?_) (Fills.of_fresh _ policy (IsFresh.empty _))
  refine Fills.after ?_ fun m isOpen _ => Xmp.spares_collect? isOpen found.xmp
  rw [joined]
  exact Fills.of_fresh _ policy (start.of_spares (joined ▸ noted))

end Jpeg

namespace Png

/-- A chunk of another type than the Exif type leaves header and directories alone. -/
theorem spares_collectChunk (isOpen : m.frozen = false) (c : Chunk)
    (other : c.type ≠ Bytes.ascii "eXIf") : Spares (collectChunk policy c) m := by
  unfold collectChunk
  cases c.payload with
  | none => exact Spares.pure
  | some payload =>
      dsimp only
      cases known : decoder? c.type with
      | none =>
          dsimp only
          rw [if_neg other]
          exact Spares.pure
      | some decode =>
          dsimp only
          cases decoded : decode payload with
          | error cause =>
              dsimp only
              rw [if_pos (textual_of_decoder? known cause decoded).isTextual]
              exact Spares.lift ⟨rfl, rfl⟩
          | ok record =>
              have added := Metadata.spares_addRecord isOpen record
              apply added.bind
              split
              · exact Xmp.spares_collect (added.frozen_eq.trans isOpen) _
              · exact Spares.pure

theorem spares_collect (isOpen : m.frozen = false) (chunks : List Chunk)
    (other : ∀ c ∈ chunks, c.type ≠ Bytes.ascii "eXIf") : Spares (collect policy chunks) m := by
  apply Spares.each
  intro c member m' frozen _
  exact spares_collectChunk (frozen.trans isOpen) c (other c member)

/-- The stream of an Exif chunk is read. -/
theorem collectChunk_exif {wanted : Wanted} {c : StoredChunk} {offset : Nat}
    (kept : wanted.includes (Bytes.ascii "eXIf") = true) (exif : c.type = Bytes.ascii "eXIf") :
    collectChunk policy (c.read wanted offset) = Tiff.collect c.payload policy := by
  have plain : decoder? (Bytes.ascii "eXIf") = none := by decide
  rw [StoredChunk.read, exif, kept, if_pos rfl, collectChunk]
  dsimp only
  rw [plain]
  dsimp only
  rw [if_pos rfl]

/-- The Exif chunk of a PNG file carries its stream. -/
theorem carries {s : Stream} {wanted : Wanted} {c : StoredChunk} (wellFormed : s.IsWellFormed)
    (intact : ∀ c ∈ s.chunks, wanted.includes c.type = true → c.IsIntact)
    (kept : wanted.includes (Bytes.ascii "eXIf") = true) (member : c ∈ s.chunks)
    (exif : c.type = Bytes.ascii "eXIf") :
    (metadata s.bytes wanted policy).Carries (Tiff.metadata c.payload policy) := by
  have read := s.runs_read wellFormed wanted policy.strict intact
  obtain ⟨before, after, split⟩ := List.append_of_mem member
  have single := wellFormed.single
  rw [split, List.pairwise_append, List.pairwise_cons] at single
  have never : mayRepeat (Bytes.ascii "eXIf") = false := by decide
  have earlier : ∀ d ∈ before, d.type ≠ Bytes.ascii "eXIf" := fun d first same => by
    have again := single.2.2 d first c List.mem_cons_self (same.trans exif.symm)
    rw [same, never] at again
    cases again
  have later : ∀ d ∈ after, d.type ≠ Bytes.ascii "eXIf" := fun d second same => by
    have again := single.2.1.1 d second (exif.trans same.symm)
    rw [exif, never] at again
    cases again
  have spared : Spares (collect policy (StoredChunk.readAll wanted 8 before))
      (Metadata.empty Format.png.name) := by
    apply spares_collect rfl _
    intro d member
    obtain ⟨e, first, same⟩ := StoredChunk.type_of_mem_readAll member
    exact same ▸ earlier e first
  obtain ⟨position, parts⟩ : ∃ position, StoredChunk.readAll wanted 8 s.chunks =
      StoredChunk.readAll wanted 8 before ++ StoredChunk.readAll wanted position (c :: after) :=
    split ▸ readParts_append 8 before (c :: after)
  rw [metadata_eq, read.state_eq]
  apply Outcome.Carries.of_read read.gives
  refine Fills.carries ?_ (Fills.of_fresh _ policy (IsFresh.empty _))
  dsimp only
  rw [parts, collect, Action.each_append]
  refine Fills.before spared (Fills.after ?_ fun m isOpen _ => spares_collect isOpen _ ?_)
  · rw [collectChunk_exif kept exif]
    exact Fills.of_fresh _ policy ((IsFresh.empty _).of_spares spared)
  · intro d member
    obtain ⟨e, second, same⟩ := StoredChunk.type_of_mem_readAll member
    exact same ▸ later e second

end Png

namespace Webp

/-- A chunk of another type, or any chunk once there is a header, leaves header and directories
alone. -/
theorem spares_collectChunk (isOpen : m.frozen = false) (c : Chunk)
    (other : c.fourcc ≠ Bytes.ascii "EXIF" ∨ m.header.isSome = true) :
    Spares (collectChunk policy c) m := by
  unfold collectChunk
  cases c.payload with
  | none => exact Spares.pure
  | some payload =>
      have skipped : ¬ (c.fourcc = Bytes.ascii "EXIF" ∧ m.header.isNone = true) := by
        rintro ⟨exif, none⟩
        rcases other with other | some
        · exact other exif
        · rw [Option.isNone_iff_eq_none] at none
          rw [none] at some
          cases some
      have rest : Spares (if c.fourcc = Bytes.ascii "XMP " then Xmp.collect payload else pure ())
          m := by
        split
        · exact Xmp.spares_collect isOpen payload
        · exact Spares.pure
      apply Spares.state_bind
      rw [if_neg skipped]
      exact rest

theorem spares_collect (isOpen : m.frozen = false) (chunks : List Chunk)
    (other : (∀ c ∈ chunks, c.fourcc ≠ Bytes.ascii "EXIF") ∨ m.header.isSome = true) :
    Spares (collect policy chunks) m := by
  apply Spares.each
  intro c member m' frozen header
  apply spares_collectChunk (frozen.trans isOpen) c
  rw [header]
  exact other.imp_left fun other => other c member

/-- The stream of the first Exif chunk is read, with or without an identifier in front. -/
theorem fills_collectChunk_exif {wanted : Wanted} {c : StoredChunk} {offset : Nat}
    (kept : wanted.includes (Bytes.ascii "EXIF") = true) (exif : c.fourcc = Bytes.ascii "EXIF")
    (payload : c.payload = exifIdentifier ++ stream ∨
      c.payload = stream ∧ ¬ exifIdentifier <+: stream) (fresh : m.IsFresh) :
    Fills (collectChunk policy (c.read wanted offset))
      (Tiff.Stream.read stream 0 policy.strict policy.limit) m := by
  have unread : c.fourcc = Bytes.ascii "EXIF" ∧ m.header.isNone = true :=
    ⟨exif, by rw [fresh.header_eq]; rfl⟩
  rw [StoredChunk.read, if_pos (exif ▸ kept), collectChunk]
  apply Fills.state_bind
  dsimp only
  rw [if_pos unread]
  rcases payload with prefixed | ⟨rfl, bare⟩
  · rw [prefixed, Bytes.after?_append]
    have noted : Spares (Action.lift (Outcome.trace .exifIdentifierStripped)) m :=
      Spares.lift (.trace _)
    exact Fills.before noted (Fills.of_fresh stream policy (fresh.of_spares noted))
  · rw [Bytes.after?_eq_none bare]
    exact Fills.of_fresh c.payload policy fresh

/-- The first Exif chunk of a WebP file carries its stream, whatever Exif chunks follow. -/
theorem carries {s : Stream} {wanted : Wanted} {c : StoredChunk} {before after : List StoredChunk}
    (wellFormed : s.IsWellFormed) (kept : wanted.includes (Bytes.ascii "EXIF") = true)
    (split : s.chunks = before ++ c :: after)
    (first : ∀ d ∈ before, d.fourcc ≠ Bytes.ascii "EXIF") (exif : c.fourcc = Bytes.ascii "EXIF")
    (payload : c.payload = exifIdentifier ++ stream ∨
      c.payload = stream ∧ ¬ exifIdentifier <+: stream) :
    (metadata s.bytes wanted policy).Carries (Tiff.metadata stream policy) := by
  have read := s.runs_read wanted wellFormed
  have spared : Spares (collect policy (StoredChunk.readAll wanted 12 before))
      (Metadata.empty Format.webp.name) := by
    refine spares_collect rfl _ (.inl fun d member => ?_)
    obtain ⟨e, earlier, same⟩ := StoredChunk.fourcc_of_mem_readAll member
    exact same ▸ first e earlier
  obtain ⟨position, parts⟩ : ∃ position, StoredChunk.readAll wanted 12 s.chunks =
      StoredChunk.readAll wanted 12 before ++ StoredChunk.readAll wanted position (c :: after) :=
    split ▸ readParts_append 12 before (c :: after)
  rw [metadata_eq, read.state_eq]
  apply Outcome.Carries.of_read read.gives
  refine Fills.carries ?_ (Fills.of_fresh _ policy (IsFresh.empty _))
  dsimp only
  rw [parts, collect, Action.each_append]
  refine Fills.before spared (Fills.after ?_ fun m isOpen header => ?_)
  · exact fills_collectChunk_exif kept exif payload ((IsFresh.empty _).of_spares spared)
  · exact spares_collect isOpen _ (.inr header)

end Webp

end ImageMetadata
