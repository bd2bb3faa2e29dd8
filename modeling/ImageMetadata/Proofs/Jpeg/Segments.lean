import ImageMetadata.Proofs.Jpeg.Parsing
import ImageMetadata.Proofs.Jpeg.Recovery

/-!
# Segments that are found in any bytes

Whatever the bytes, each segment that a search collects stands in them, behind the one before it, and
what else the search has found comes from the payloads of these segments. This holds after a search
that failed, too.
-/

namespace ImageMetadata.Jpeg

/-- A segment stands in the bytes at its offset, with its marker, its length and its payload. -/
structure Segment.IsReal (bytes : Bytes) (g : Segment) : Prop where
  start : bytes[g.offset]? = some 0xFF
  marker : bytes[g.offset + 1]? = some g.marker
  code : g.marker ≠ 0x00 ∧ g.marker ≠ 0x01 ∧ g.marker ≠ 0xFF ∧
    ¬ (0xD0 ≤ g.marker ∧ g.marker ≤ 0xDA)
  length_eq : ByteOrder.big.unsigned (bytes.slice (g.offset + 2) 2) = g.length
  two_le : 2 ≤ g.length
  within : g.offset + 2 + g.length ≤ bytes.length
  payload : g.payload =
    if g.marker = Marker.app1 then some (bytes.slice (g.offset + 4) (g.length - 2)) else none

/-- The markers that begin segments, by their codes. -/
theorem Marker.code_of_beginsSegment {marker : Marker} (h : marker.beginsSegment = true) :
    marker ≠ 0x00 ∧ marker ≠ 0x01 ∧ marker ≠ 0xFF ∧ ¬ (0xD0 ≤ marker ∧ marker ≤ 0xDA) := by
  obtain ⟨zero, ff, alone, isSos, isEoi⟩ := Marker.beginsSegment_iff.1 h
  simp only [standsAlone, Bool.or_eq_false_iff, beq_eq_false_iff_ne, Bool.and_eq_false_iff,
    decide_eq_false_iff_not] at alone
  obtain ⟨⟨isSoi, isTem⟩, outside⟩ := alone
  refine ⟨zero, isTem, ff, ?_⟩
  simp only [soi, rst0, rst7, sos, eoi, ne_eq, UInt8.le_iff_toNat_le, ← UInt8.toNat_inj,
    UInt8.reduceToNat] at *
  omega

/-- Bytes that are written as a segment hold it. -/
theorem Segment.isReal_written {marker : Marker} (begins : marker.beginsSegment = true)
    {payload : Bytes} (short : payload.length ≤ 65533) (before after : Bytes) :
    Segment.IsReal (before ++ 0xFF :: marker ::
        (ByteOrder.big.unsignedBytes 2 (payload.length + 2) ++ (payload ++ after)))
      ⟨marker, before.length, payload.length + 2,
        if marker = Marker.app1 then some payload else none⟩ where
  start := by simp
  marker := by simp
  code := Marker.code_of_beginsSegment begins
  length_eq := by
    have fits : payload.length + 2 < Bytes.capacity 2 :=
      Nat.lt_of_le_of_lt (Nat.add_le_add_right short 2) (by decide)
    rw [List.append_cons, List.append_cons, Bytes.slice_middle (by simp) (by simp)]
    exact ByteOrder.unsigned_unsignedBytes .big fits
  two_le := Nat.le_add_left 2 _
  within := by
    simp only [List.length_append, List.length_cons, ByteOrder.unsignedBytes_length]
    omega
  payload := by
    rw [List.append_cons, List.append_cons, ← List.append_assoc,
      Bytes.slice_middle (by simp) (Nat.add_sub_cancel _ _).symm]

namespace Item

variable {before : Bytes} {i : Item} {g : Segment}

/-- The segment of an item stands in the bytes of the item. -/
theorem isReal_segment (after : Bytes) (wellFormed : i.IsWellFormed)
    (found : i.element.segment? (i.offset before.length) = some g) :
    g.IsReal (before ++ (i.bytes ++ after)) ∧ before.length ≤ g.offset ∧
      g.offset + 2 + g.length = (before ++ i.bytes).length := by
  obtain ⟨filler, fill, element⟩ := i
  cases element with
  | alone marker => cases found
  | damaged marker length => cases found
  | segment marker payload =>
      obtain ⟨begins, short⟩ := wellFormed.element
      cases found
      have front : (before ++ filler ++ List.replicate fill 0xFF).length =
          offset before.length ⟨filler, fill, .segment marker payload⟩ := by
        simp only [offset, List.length_append, List.length_replicate]
      have split : before ++ (bytes ⟨filler, fill, .segment marker payload⟩ ++ after) =
          before ++ filler ++ List.replicate fill 0xFF ++ 0xFF :: marker ::
            (ByteOrder.big.unsignedBytes 2 (payload.length + 2) ++ (payload ++ after)) := by
        simp [bytes, Element.body, Element.marker, List.replicate_succ']
      refine ⟨?_, ?_, ?_⟩
      · rw [split, ← front]
        exact Segment.isReal_written begins short _ after
      · simp only [offset]
        omega
      · simp only [offset, bytes, Element.body, List.length_append, List.length_cons,
          List.length_replicate, ByteOrder.unsignedBytes_length]
        omega

/-- The segments of items stand in their bytes, one behind the other. -/
theorem isReal_readAll (before after : Bytes) {items : List Item}
    (wellFormed : ∀ i ∈ items, i.IsWellFormed) :
    (∀ g ∈ readAll Element.segment? before.length items,
        g.IsReal (before ++ (items.flatMap bytes ++ after)) ∧ before.length ≤ g.offset) ∧
      (readAll Element.segment? before.length items).Pairwise
        fun g h => g.offset + 2 + g.length ≤ h.offset := by
  induction items generalizing before with
  | nil => exact ⟨by simp [readAll, readParts], .nil⟩
  | cons i rest ih =>
      have split : before ++ ((i :: rest).flatMap bytes ++ after) =
          before ++ i.bytes ++ (rest.flatMap bytes ++ after) := by simp
      have next : before.length + i.bytes.length = (before ++ i.bytes).length := by simp
      obtain ⟨others, disjoint⟩ :=
        ih (before ++ i.bytes) fun j member => wellFormed j (by simp [member])
      have later {g : Segment}
          (member : g ∈ readAll Element.segment? (before ++ i.bytes).length rest) :
          g.IsReal (before ++ ((i :: rest).flatMap bytes ++ after)) ∧ before.length ≤ g.offset := by
        obtain ⟨real, behind⟩ := others g member
        rw [split]
        exact ⟨real, by omega⟩
      rw [readAll_cons, next]
      cases found : i.element.segment? (i.offset before.length) with
      | none => exact ⟨fun g member => later member, disjoint⟩
      | some g =>
          obtain ⟨real, behind, stop⟩ := isReal_segment (rest.flatMap bytes ++ after)
            (wellFormed i (by simp)) found
          rw [← List.append_assoc, ← split] at real
          refine ⟨List.forall_mem_cons.2 ⟨⟨real, behind⟩, fun h member => later member⟩,
            List.pairwise_cons.2 ⟨fun h member => ?_, disjoint⟩⟩
          rw [stop]
          exact (others h member).2

/-- What is taken from the segments of items is taken from the items. -/
theorem filterMap_readAll {β γ : Type} {read : Nat → Element → Option β} {f : β → Option γ}
    {g : Element → Option γ} (same : ∀ offset e, (read offset e).bind f = g e) (start : Nat)
    (items : List Item) :
    (readAll read start items).filterMap f = items.filterMap fun i => g i.element := by
  induction items generalizing start with
  | nil => rfl
  | cons i rest ih =>
      rw [readAll_cons, List.filterMap_append, ih, List.filterMap_cons, ← same (i.offset start)]
      cases read (i.offset start) i.element with
      | none => rfl
      | some b => cases found : f b <;> simp [found]

end Item

namespace Scan

/-- The payloads that are kept, in order. -/
def payloads (found : Scan) : List Bytes := found.segments.filterMap Segment.payload

/-- The parts of the TIFF stream among them. -/
def pieces (found : Scan) : List Bytes := found.payloads.filterMap (·.after? exifIdentifier)

/-- The XMP packets among them. -/
def packets (found : Scan) : List Bytes := found.payloads.filterMap (·.after? xmpIdentifier)

/-- What a search has found in some bytes, when it ended in whatever way. -/
structure IsFaithful (bytes : Bytes) (run : Outcome Unit × Scan) : Prop where
  real (g : Segment) : g ∈ run.2.segments → g.IsReal bytes
  disjoint : run.2.segments.Pairwise fun g h => g.offset + 2 + g.length ≤ h.offset
  exifCount_eq : run.2.exifCount = run.2.pieces.length
  xmp_eq : run.2.xmp = run.2.packets.head?
  exif_eq (u : Unit) : run.1.result = .ok u →
    run.2.exif? = if run.2.exifCount = 0 then none else some run.2.pieces.flatten

/-- What comes from items that stand at the start of the bytes is faithful. -/
theorem Took.isFaithful {items : List Item} {after : Bytes} {run : Outcome Unit × Scan}
    (h : start.Took 0 items run) (wellFormed : ∀ i ∈ items, i.IsWellFormed) :
    IsFaithful (items.flatMap Item.bytes ++ after) run := by
  obtain ⟨⟨position, done, state⟩, ended⟩ := h
  have segments : run.2.segments = Item.readAll Element.segment? 0 items := by
    rw [state]
    exact segments_afterAll start 0 items
  have pieces : run.2.pieces = items.filterMap fun i => i.element.exif? := by
    unfold Scan.pieces payloads
    rw [segments, List.filterMap_filterMap]
    exact Item.filterMap_readAll (fun offset e => by
      rw [← Option.bind_assoc]
      exact (e.payload?_bind offset).1) 0 items
  have packets : run.2.packets = items.filterMap fun i => i.element.xmp? := by
    unfold Scan.packets payloads
    rw [segments, List.filterMap_filterMap]
    exact Item.filterMap_readAll (fun offset e => by
      rw [← Option.bind_assoc]
      exact (e.payload?_bind offset).2) 0 items
  obtain ⟨exif, count⟩ := exif_afterAll start 0 items
  have exif' : run.2.exif = run.2.pieces.flatten := by
    rw [pieces, state]
    exact exif
  have count' : run.2.exifCount = run.2.pieces.length := by
    rw [pieces, state]
    exact count.trans (Nat.zero_add _)
  obtain ⟨real, disjoint⟩ := Item.isReal_readAll [] after wellFormed
  refine ⟨?_, ?_, count', ?_, ?_⟩
  · rw [segments]
    exact fun g member => (real g member).1
  · rw [segments]
    exact disjoint
  · rw [packets, state]
    exact xmp_afterAll start 0 items
  · intro u ok
    unfold exif?
    rw [exif']
    by_cases none : run.2.exifCount = 0
    · simp [none]
    · rw [if_pos ⟨ended u ok, Nat.pos_of_ne_zero none⟩, if_neg none]

end Scan

/-- The segments that a search collects stand in the bytes, whatever these are and however the search
ends, and its other findings come from their payloads. -/
theorem isFaithful_scan (bytes : Bytes) (strict : Bool) :
    Scan.IsFaithful bytes ((scan bytes strict).run Scan.start) := by
  unfold scan
  split
  · obtain ⟨items, tail, wellFormed, final, rfl⟩ := exists_items bytes
    obtain ⟨taken, ⟨others, rfl⟩, took⟩ := Scan.exists_took Scan.start strict 0
      wellFormed final (Nat.zero_add _).symm
    rw [List.flatMap_append, List.append_assoc] at took ⊢
    exact took.isFaithful fun i member => wellFormed i (List.mem_append_left _ member)
  · have nothing : Scan.start.Took 0 []
        ((Action.fail .noStartOfImage : Action Scan Unit).run Scan.start) :=
      ⟨⟨0, false, rfl⟩, fun _ ok => by cases ok⟩
    exact nothing.isFaithful fun i member => by cases member

end ImageMetadata.Jpeg
