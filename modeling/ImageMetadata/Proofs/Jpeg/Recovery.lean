import ImageMetadata.Proofs.Jpeg.Grammar

/-!
# What a search recovers

From a well-formed stream a search recovers the segments, the joined parts of the TIFF stream and the
first XMP packet, whatever stands between them. It warns of each damaged segment header.
-/

namespace ImageMetadata.Jpeg

open ImageMetadata.Action (Warns)

/-- The two identifiers start with different bytes. -/
theorem not_xmp_of_exif {payload exif : Bytes} (h : payload.after? exifIdentifier = some exif) :
    payload.after? xmpIdentifier = none := by
  apply Bytes.after?_eq_none
  intro xmp
  unfold Bytes.after? at h
  split at h
  · rename_i identified
    rcases List.prefix_or_prefix_of_prefix xmp (List.isPrefixOf_iff_prefix.1 identified) with h | h
    · exact absurd h (by decide)
    · exact absurd h (by decide)
  · cases h

namespace Element

/-- The segment that is found where an element with its marker after a byte FF at an offset stands.
-/
def segment? (offset : Nat) : Element → Option Segment
  | segment marker payload =>
      some ⟨marker, offset, payload.length + 2,
        if marker = Marker.app1 then some payload else none⟩
  | _ => none

/-- The XMP packet that an element carries. -/
def xmp? : Element → Option Bytes
  | segment marker payload => if marker = Marker.app1 then payload.after? xmpIdentifier else none
  | _ => none

/-- Both kinds of data come from the payload that is kept of a segment. -/
theorem payload?_bind (offset : Nat) (e : Element) :
    ((e.segment? offset).bind Segment.payload).bind (·.after? exifIdentifier) = e.exif? ∧
      ((e.segment? offset).bind Segment.payload).bind (·.after? xmpIdentifier) = e.xmp? := by
  cases e with
  | alone marker => exact ⟨rfl, rfl⟩
  | damaged marker length => exact ⟨rfl, rfl⟩
  | segment marker payload =>
      by_cases app1 : marker = Marker.app1 <;> simp [segment?, exif?, xmp?, app1]

end Element

namespace Scan

theorem segments_withPayload (s : Scan) (payload : Bytes) :
    (s.withPayload payload).segments = s.segments := by
  unfold withPayload
  cases payload.after? exifIdentifier with
  | some exif => rfl
  | none => cases payload.after? xmpIdentifier <;> rfl

theorem xmp_withPayload (s : Scan) (payload : Bytes) :
    (s.withPayload payload).xmp = s.xmp.or (payload.after? xmpIdentifier) := by
  unfold withPayload
  cases exif : payload.after? exifIdentifier with
  | some exif => simp [not_xmp_of_exif exif]
  | none => cases payload.after? xmpIdentifier <;> simp

theorem segments_after (s : Scan) (offset : Nat) (e : Element) :
    (s.after offset e).segments = s.segments ++ (e.segment? offset).toList := by
  cases e with
  | alone marker => simp [after, Element.segment?]
  | damaged marker length => simp [after, Element.segment?]
  | segment marker payload =>
      by_cases app1 : marker = Marker.app1
      · simp [after, Element.segment?, app1, segments_withPayload]
      · simp [after, Element.segment?, app1]

theorem xmp_after (s : Scan) (offset : Nat) (e : Element) :
    (s.after offset e).xmp = s.xmp.or e.xmp? := by
  cases e with
  | alone marker => simp [after, Element.xmp?]
  | damaged marker length => simp [after, Element.xmp?]
  | segment marker payload =>
      by_cases app1 : marker = Marker.app1
      · simp [after, Element.xmp?, app1, xmp_withPayload]
      · simp [after, Element.xmp?, app1]

/-- The segments are found in order, each at its own offset. -/
theorem segments_afterAll (s : Scan) (start : Nat) (items : List Item) :
    (s.afterAll start items).segments =
      s.segments ++ Item.readAll Element.segment? start items := by
  induction items generalizing s start with
  | nil => simp [afterAll, Item.readAll, readParts]
  | cons i rest ih =>
      rw [afterAll, ih, segments_after, Item.readAll_cons, List.append_assoc]
      rfl

/-- The first packet is kept. -/
theorem xmp_afterAll (s : Scan) (start : Nat) (items : List Item) :
    (s.afterAll start items).xmp =
      s.xmp.or (items.filterMap fun i => i.element.xmp?).head? := by
  induction items generalizing s start with
  | nil => simp [afterAll]
  | cons i rest ih =>
      rw [afterAll, ih, xmp_after, Option.or_assoc, List.filterMap_cons]
      cases i.element.xmp? <;> simp

end Scan

namespace Stream

/-- The segments of a stream. -/
def segments (s : Stream) : List Segment := Item.readAll Element.segment? 2 s.items

/-- The TIFF stream, unless there is no part of it. -/
def exif? (s : Stream) : Option Bytes := if s.pieces = [] then none else some s.pieces.flatten

/-- The first XMP packet. -/
def xmp? (s : Stream) : Option Bytes := (s.items.filterMap fun i => i.element.xmp?).head?

/-- A search has found what the stream holds. -/
structure IsRecoveredBy (s : Stream) (found : Scan) : Prop where
  segments_eq : found.segments = s.segments
  exif_eq : found.exif? = s.exif?
  exifCount_eq : found.exifCount = s.pieces.length
  xmp_eq : found.xmp = s.xmp?

/-- A lenient search recovers every well-formed stream and warns of its damaged headers, one after
the other. A strict search does so where no header is damaged. -/
theorem isRecoveredBy_scan {s : Stream} (wellFormed : s.IsWellFormed) {strict : Bool}
    (tolerant : strict = true → ∀ i ∈ s.items, i.element.IsSound) :
    ∃ found, Warns (scan s.bytes strict) Scan.start s.problems () found ∧ s.IsRecoveredBy found := by
  obtain ⟨position, searched⟩ := warns_scan wellFormed strict tolerant
  obtain ⟨exif, count⟩ := Scan.exif_afterAll Scan.start 0 s.allItems
  have pieces : (s.allItems.filterMap fun i => i.element.exif?) = s.pieces := rfl
  rw [pieces] at exif count
  refine ⟨_, searched, ?_, ?_, ?_, ?_⟩
  · exact Scan.segments_afterAll Scan.start 0 s.allItems
  · unfold Scan.exif? Stream.exif?
    rw [exif, count]
    cases s.pieces <;> simp [Scan.start]
  · exact count.trans (Nat.zero_add _)
  · exact Scan.xmp_afterAll Scan.start 0 s.allItems

/-- Filler that ends in a run of bytes FF, fill bytes, a payload with a marker in it, damaged headers
between segments of two kinds, and an end at the start of scan. -/
def mixed : Stream :=
  ⟨[⟨[7, 0xFF, 0xFF, 0], 1, .alone 0xD3⟩,
      ⟨[], 0, .segment 0xE0 [0xFF, 0xE1, 0, 4]⟩,
      ⟨[], 0, .damaged 0xE1 1⟩,
      ⟨[0], 2, .segment Marker.app1 (exifIdentifier ++ [1, 2])⟩,
      ⟨[], 0, .segment Marker.app1 (xmpIdentifier ++ [60])⟩,
      ⟨[0xFF, 0], 0, .damaged 0xFE 0⟩,
      ⟨[], 0, .segment Marker.app1 (exifIdentifier ++ [3])⟩,
      ⟨[], 0, .segment Marker.app1 (xmpIdentifier ++ [62])⟩],
    .stop [] 1 Marker.sos [0xFF, 0xE1, 0, 2]⟩

theorem isWellFormed_mixed : mixed.IsWellFormed where
  items := by
    have filler : IsFiller [7, 0xFF, 0xFF, 0] := .plain (by decide) (.stuffed 1 .nil)
    simp only [mixed, List.forall_mem_cons]
    exact ⟨⟨filler, rfl⟩, ⟨.nil, by decide, by decide⟩, ⟨.nil, by decide, by decide⟩,
      ⟨.plain (by decide) .nil, by decide, by decide⟩, ⟨.nil, by decide, by decide⟩,
      ⟨.stuffed 0 .nil, by decide, by decide⟩, ⟨.nil, by decide, by decide⟩,
      ⟨.nil, by decide, by decide⟩, by simp⟩
  ending := ⟨.nil, .inl rfl⟩

/-- One Exif segment, and filler up to the end of the bytes. -/
def intact : Stream :=
  ⟨[⟨[], 0, .segment Marker.app1 (exifIdentifier ++ [1, 2])⟩], .none [0]⟩

theorem isWellFormed_intact : intact.IsWellFormed where
  items := by simpa [intact] using ⟨.nil, by decide, by decide⟩
  ending := .plain (by decide) .nil

/-- The lenient search goes on after damaged headers; without them the strict one does the same. -/
theorem isRecoveredBy_scan_mixed :
    mixed.IsWellFormed ∧ mixed.exif? = some [1, 2, 3] ∧ mixed.xmp? = some [60] ∧
      mixed.problems = [.segmentLength 0xE1 17 1, .segmentLength 0xFE 72 0] ∧
      (∃ found, Warns (scan mixed.bytes false) Scan.start mixed.problems () found ∧
        mixed.IsRecoveredBy found) ∧
      intact.IsWellFormed ∧ (∀ i ∈ intact.items, i.element.IsSound) ∧
      ∃ found, Warns (scan intact.bytes true) Scan.start intact.problems () found ∧
        intact.IsRecoveredBy found := by
  have sound : ∀ i ∈ intact.items, i.element.IsSound := by simp [intact, Element.IsSound]
  exact ⟨isWellFormed_mixed, by decide, by decide, by rfl,
    isRecoveredBy_scan isWellFormed_mixed fun strictly => absurd strictly Bool.false_ne_true,
    isWellFormed_intact, sound, isRecoveredBy_scan isWellFormed_intact fun _ => sound⟩

end Stream

end ImageMetadata.Jpeg
