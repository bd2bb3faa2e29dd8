import ImageMetadata.Proofs.Embedding.Heif

/-!
# Transparent containers

A stream can be embedded in Exif segments, an Exif chunk of either kind or an Exif item. A file that
has no problem of its own shows what the stream shows, whatever the stream is.
-/

namespace ImageMetadata

/-- The outcome is that of a file that holds a stream and has no integrity problem of its own. -/
inductive Embeds (stream : Bytes) (policy : Policy) : Outcome Metadata → Prop
  /-- The Exif segments hold the stream in pieces, with any other items before, between and after
  them. -/
  | jpeg {f : Jpeg.Stream} (wellFormed : f.IsWellFormed)
      (sound : ∀ i ∈ f.items, i.element.IsSound) (nonempty : f.pieces ≠ [])
      (joined : f.pieces.flatten = stream) : Embeds stream policy (Jpeg.metadata f.bytes policy)
  /-- The Exif chunk holds the stream; the checksums that are checked are right. -/
  | png {f : Png.Stream} {wanted : Wanted} {c : Png.StoredChunk} (wellFormed : f.IsWellFormed)
      (intact : ∀ c ∈ f.chunks, wanted.includes c.type = true → c.IsIntact)
      (kept : wanted.includes (Bytes.ascii "eXIf") = true) (member : c ∈ f.chunks)
      (exif : c.type = Bytes.ascii "eXIf") (payload : c.payload = stream) :
      Embeds stream policy (Png.metadata f.bytes wanted policy)
  /-- The first Exif chunk holds the stream, or the identifier and the stream. -/
  | webp {f : Webp.Stream} {wanted : Wanted} {c : Webp.StoredChunk}
      {before after : List Webp.StoredChunk} (wellFormed : f.IsWellFormed)
      (kept : wanted.includes (Bytes.ascii "EXIF") = true) (split : f.chunks = before ++ c :: after)
      (first : ∀ d ∈ before, d.fourcc ≠ Bytes.ascii "EXIF") (exif : c.fourcc = Bytes.ascii "EXIF")
      (payload : c.payload = exifIdentifier ++ stream ∨
        c.payload = stream ∧ ¬ exifIdentifier <+: stream) :
      Embeds stream policy (Webp.metadata f.bytes wanted policy)
  /-- The boxes and the XMP packet are read without an integrity problem, and the extents of the
  first Exif item hold the stream after its header. -/
  | heif {bytes : Bytes} {s : Heif.Session} {packet : Option Bytes}
      (read : Action.Runs (Heif.Session.readAll policy.limit)
        (Heif.Session.start bytes policy.strict) () s)
      (item : s.ExifItem stream) (xmp : (Heif.packet? s policy.strict).Gives packet) :
      Embeds stream policy (Heif.metadata bytes policy)

/-- A stream with one directory, which is empty. -/
def smallStream : Bytes := [0x49, 0x49, 42, 0, 8, 0, 0, 0, 0, 0, 0, 0, 0, 0]

/-- Two Exif segments with a comment in between. -/
def Jpeg.small : Jpeg.Stream :=
  ⟨[⟨[], 0, .segment Marker.app1 (exifIdentifier ++ smallStream.take 5)⟩,
      ⟨[7, 0xFF, 0], 1, .segment 0xFE (Bytes.ascii "comment")⟩,
      ⟨[], 0, .segment Marker.app1 (exifIdentifier ++ smallStream.drop 5)⟩],
    .stop [] 0 Marker.eoi []⟩

/-- An Exif chunk between an image header and an image trailer. -/
def Png.small : Png.Stream :=
  ⟨[.intact (Bytes.ascii "IHDR") [], .intact (Bytes.ascii "eXIf") smallStream],
    .intact (Bytes.ascii "IEND") [], []⟩

/-- Two Exif chunks of which the first one counts. -/
def Webp.small : Webp.Stream :=
  ⟨[⟨Bytes.ascii "VP8L", [47], [0]⟩, ⟨Bytes.ascii "EXIF", exifIdentifier ++ smallStream, []⟩,
    ⟨Bytes.ascii "EXIF", [1, 2], []⟩], []⟩

namespace Heif

/-- An Exif item with a header of two bytes, in two extents of the media data. -/
def smallFile : Bytes :=
  [0, 0, 0, 16] ++ Bytes.ascii "ftypheic" ++ [0, 0, 0, 0] ++
  [0, 0, 0, 85] ++ Bytes.ascii "meta" ++ [0, 0, 0, 0] ++
  [0, 0, 0, 35] ++ Bytes.ascii "iinf" ++ [0, 0, 0, 0, 0, 1] ++
  [0, 0, 0, 21] ++ Bytes.ascii "infe" ++ [2, 0, 0, 0, 0, 1, 0, 0] ++ Bytes.ascii "Exif" ++ [0] ++
  [0, 0, 0, 38] ++ Bytes.ascii "iloc" ++ [0, 0, 0, 0, 0x44, 0, 0, 1, 0, 1, 0, 0, 0, 2] ++
  [0, 0, 0, 109, 0, 0, 0, 8, 0, 0, 0, 117, 0, 0, 0, 12] ++
  [0, 0, 0, 28] ++ Bytes.ascii "mdat" ++ [0, 0, 0, 2, 7, 7] ++ smallStream

def smallEntry : ItemEntry := ⟨1, 0, some (Bytes.ascii "Exif"), "", none, none, none⟩

def smallLocation : Location := ⟨1, 0, 0, 0, [⟨109, 8⟩, ⟨117, 12⟩]⟩

def smallEntryBox : Box := ⟨Bytes.ascii "infe", 42, 21, 8, .itemEntry ⟨2, 0⟩ smallEntry, []⟩

def smallInformation : Box :=
  ⟨Bytes.ascii "iinf", 28, 35, 8, .itemInformation ⟨0, 0⟩ 1, [smallEntryBox]⟩

def smallLocations : Box :=
  ⟨Bytes.ascii "iloc", 63, 38, 8, .itemLocation ⟨0, 0⟩ [(1, smallLocation)], []⟩

/-- What the file is read into. -/
def smallSession : Session where
  cursor := Cursor.ofBytes smallFile .big
  boxes :=
    [⟨Bytes.ascii "ftyp", 0, 16, 8, .fileType (Bytes.ascii "heic") 0 [], []⟩,
      ⟨Bytes.ascii "meta", 16, 85, 8, .metaBox ⟨0, 0⟩, [smallInformation, smallLocations]⟩,
      ⟨Bytes.ascii "mdat", 101, 28, 8, .mediaData, []⟩]
  strict := true

theorem runs_readAll_small :
    Action.Runs (Session.readAll 32) (Session.start smallFile true) () smallSession := by
  refine ⟨⟨Except.toOption_eq_some_iff.1 ?_, List.isEmpty_iff.1 ?_⟩, ?_⟩ <;> decide +kernel

theorem packet?_small : packet? smallSession true = pure none := by with_unfolding_all rfl

def smallItem : smallSession.ExifItem smallStream where
  information := smallInformation
  box := ⟨smallEntryBox, smallEntry, ⟨2, 0⟩, rfl⟩
  location := smallLocation
  start := 0
  limit := smallSession.cursor.size
  first := ⟨109, 8⟩
  others := [⟨117, 12⟩]
  header := [7, 7]
  information_eq := by decide +kernel
  entry_eq := by with_unfolding_all rfl
  places :=
    { described := ⟨smallInformation, by decide +kernel⟩
      located := ⟨smallLocations, _, _, 1, by decide +kernel, rfl, rfl⟩
      within := .inl ⟨rfl, rfl, rfl⟩ }
  extents_eq := rfl
  fit := by
    have size : smallSession.cursor.size = 129 := by rfl
    rw [size]
    simp [ExtentsFit, smallLocation]
  data_eq := by decide +kernel
  header_lt := by decide
  long := by decide

end Heif

namespace Embeds

/-- How a strict reader works that reads no deeper than usual. -/
def smallPolicy : Policy := ⟨true, 32⟩

theorem jpeg_small : Embeds smallStream smallPolicy (Jpeg.metadata Jpeg.small.bytes smallPolicy) := by
  have filler : Jpeg.IsFiller [7, 0xFF, 0] := .plain (by decide) (.stuffed 0 .nil)
  have wellFormed : Jpeg.small.IsWellFormed :=
    { items := by
        simp only [Jpeg.small, List.forall_mem_cons]
        exact ⟨⟨.nil, And.intro (by decide) (by decide)⟩,
          ⟨filler, And.intro (by decide) (by decide)⟩,
          ⟨.nil, And.intro (by decide) (by decide)⟩, List.forall_mem_nil _⟩
      ending := And.intro .nil (.inr rfl) }
  refine jpeg wellFormed ?_ (by decide) (by decide)
  simp [Jpeg.small, Jpeg.Element.IsSound]

theorem png_small :
    Embeds smallStream smallPolicy (Png.metadata Png.small.bytes .all smallPolicy) := by
  have wellFormed : Png.small.IsWellFormed :=
    { chunk := by
        simp only [Png.small, Png.Stream.chunks, List.cons_append, List.nil_append,
          List.forall_mem_cons]
        exact ⟨Png.StoredChunk.isWellFormed_intact rfl (by decide) (by decide),
          Png.StoredChunk.isWellFormed_intact rfl (by decide) (by decide),
          Png.StoredChunk.isWellFormed_intact rfl (by decide) (by decide), List.forall_mem_nil _⟩
      first := rfl
      init := by decide
      last := rfl
      single := by decide }
  have intact : ∀ c ∈ Png.small.chunks, c.IsIntact := by
    simp [Png.small, Png.Stream.chunks, Png.StoredChunk.IsIntact, Png.StoredChunk.intact]
  exact png wellFormed (fun c member _ => intact c member) rfl
    (List.mem_cons_of_mem _ List.mem_cons_self) rfl rfl

theorem webp_small : Embeds smallStream smallPolicy
    (Webp.metadata Webp.small.bytes Webp.defaultWanted smallPolicy) := by
  have wellFormed : Webp.small.IsWellFormed :=
    { chunk := by
        simp only [Webp.small, List.forall_mem_cons]
        exact ⟨⟨rfl, by decide⟩, ⟨rfl, by decide⟩, ⟨rfl, by decide⟩, List.forall_mem_nil _⟩
      padded := ⟨rfl, rfl, Nat.le_refl 0⟩
      first := by
        rintro c same
        cases same
        decide
      size_lt := by decide }
  have split : Webp.small.chunks = [⟨Bytes.ascii "VP8L", [47], [0]⟩] ++
      ⟨Bytes.ascii "EXIF", exifIdentifier ++ smallStream, []⟩ ::
        [⟨Bytes.ascii "EXIF", [1, 2], []⟩] := rfl
  exact webp wellFormed (by decide) split (by decide) rfl (.inl rfl)

theorem heif_small : Embeds smallStream smallPolicy (Heif.metadata Heif.smallFile smallPolicy) := by
  have packet : (Heif.packet? Heif.smallSession true).Gives none := by
    rw [Heif.packet?_small]
    exact .pure none
  exact heif Heif.runs_readAll_small Heif.smallItem packet

end Embeds

/-- Every file that holds a stream carries it. -/
theorem Metadata.carries_of_embeds {stream : Bytes} {policy : Policy} {file : Outcome Metadata}
    (h : Embeds stream policy file) : file.Carries (Tiff.metadata stream policy) := by
  cases h with
  | jpeg wellFormed sound nonempty joined =>
      rw [← joined]
      exact Jpeg.carries wellFormed sound nonempty
  | png wellFormed intact kept member exif payload =>
      rw [← payload]
      exact Png.carries wellFormed intact kept member exif
  | webp wellFormed kept split first exif payload =>
      exact Webp.carries wellFormed kept split first exif payload
  | heif read item xmp => exact Heif.carries read item xmp

/-- In each format, a strict reader shows the small stream. -/
theorem Metadata.carries_of_embeds_small :
    (Jpeg.metadata Jpeg.small.bytes Embeds.smallPolicy).Carries
        (Tiff.metadata smallStream Embeds.smallPolicy) ∧
      (Png.metadata Png.small.bytes .all Embeds.smallPolicy).Carries
        (Tiff.metadata smallStream Embeds.smallPolicy) ∧
      (Webp.metadata Webp.small.bytes Webp.defaultWanted Embeds.smallPolicy).Carries
        (Tiff.metadata smallStream Embeds.smallPolicy) ∧
      (Heif.metadata Heif.smallFile Embeds.smallPolicy).Carries
        (Tiff.metadata smallStream Embeds.smallPolicy) :=
  ⟨carries_of_embeds Embeds.jpeg_small, carries_of_embeds Embeds.png_small,
    carries_of_embeds Embeds.webp_small, carries_of_embeds Embeds.heif_small⟩

end ImageMetadata
