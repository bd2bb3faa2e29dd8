import ImageMetadata.Jpeg.Scan
import ImageMetadata.Proofs.Parts
import ImageMetadata.Proofs.Runs

/-!
# The grammar of JPEG streams

A stream is the start of image, items, and an ending. An item is a marker that stands alone or a
segment; filler without a marker may stand before it. The search takes a stream item by item, and
nothing depends on the filler.
-/

namespace ImageMetadata.Jpeg

/-- Bytes in which no marker stands: a byte FF only occurs in a run that a zero closes. -/
inductive IsFiller : Bytes → Prop
  | nil : IsFiller []
  | plain {b : UInt8} {rest : Bytes} (other : b ≠ 0xFF) (filler : IsFiller rest) :
      IsFiller (b :: rest)
  | stuffed (more : Nat) {rest : Bytes} (filler : IsFiller rest) :
      IsFiller (List.replicate (more + 1) 0xFF ++ 0 :: rest)

/-- What stands at a marker. -/
inductive Element where
  | alone (marker : Marker)
  | segment (marker : Marker) (payload : Bytes)
  /-- A segment header with a length that is too small to count itself. -/
  | damaged (marker : Marker) (length : Nat)

/-- An element with the filler before it and the number of further bytes FF before its marker. -/
structure Item where
  filler : Bytes
  fill : Nat
  element : Element

/-- Whether a marker begins a segment. -/
def Marker.beginsSegment (marker : Marker) : Bool :=
  marker != 0 && marker != 0xFF && !marker.standsAlone && marker != sos && marker != eoi

theorem Marker.beginsSegment_iff {marker : Marker} : marker.beginsSegment = true ↔
    marker ≠ 0 ∧ marker ≠ 0xFF ∧ marker.standsAlone = false ∧ marker ≠ sos ∧ marker ≠ eoi := by
  simp [beginsSegment, and_assoc]

namespace Element

def marker : Element → Marker
  | alone marker | segment marker _ | damaged marker _ => marker

/-- The bytes that belong to an element after its marker. -/
def body : Element → Bytes
  | alone _ => []
  | segment _ payload => ByteOrder.big.unsignedBytes 2 (payload.length + 2) ++ payload
  | damaged _ length => ByteOrder.big.unsignedBytes 2 length

/-- The marker is of the sort that it is used as, and the length fits into its field. -/
def IsWellFormed : Element → Prop
  | alone marker => marker.standsAlone = true
  | segment marker payload => marker.beginsSegment = true ∧ payload.length ≤ 65533
  | damaged marker length => marker.beginsSegment = true ∧ length < 2

/-- A marker that an element may have is neither data nor fill. -/
theorem IsWellFormed.marker {e : Element} (h : e.IsWellFormed) :
    e.marker ≠ 0 ∧ e.marker ≠ 0xFF := by
  cases e with
  | alone marker =>
      have alone : marker.standsAlone = true := h
      refine ⟨fun zero => ?_, fun ff => ?_⟩
      · rw [show marker = 0 from zero] at alone
        exact absurd alone (by decide)
      · rw [show marker = 0xFF from ff] at alone
        exact absurd alone (by decide)
  | segment marker payload => exact (Marker.beginsSegment_iff.1 h.1).imp_right And.left
  | damaged marker length => exact (Marker.beginsSegment_iff.1 h.1).imp_right And.left

/-- Such a marker does not stop the search. -/
theorem IsWellFormed.not_stops {e : Element} (h : e.IsWellFormed) :
    ¬ (e.marker = Marker.sos ∨ e.marker = Marker.eoi) := by
  cases e with
  | alone marker =>
      have alone : marker.standsAlone = true := h
      rintro (rfl | rfl)
      · exact absurd alone (by decide)
      · exact absurd alone (by decide)
  | segment marker payload => exact not_or.2 (Marker.beginsSegment_iff.1 h.1).2.2.2
  | damaged marker length => exact not_or.2 (Marker.beginsSegment_iff.1 h.1).2.2.2

/-- No integrity problem comes from the element. -/
def IsSound : Element → Prop
  | damaged .. => False
  | _ => True

/-- The part of a TIFF stream that an element carries, if it is an Exif segment. -/
def exif? : Element → Option Bytes
  | segment marker payload => if marker = Marker.app1 then payload.after? exifIdentifier else none
  | _ => none

/-- The problem that comes from an element whose marker follows a byte FF at an offset. -/
def problem? (offset : Nat) : Element → Option Problem
  | damaged marker length => some (.segmentLength marker offset length)
  | _ => none

theorem problem?_of_isSound {e : Element} (h : e.IsSound) (offset : Nat) :
    e.problem? offset = none := by
  cases e with
  | damaged marker length => exact h.elim
  | _ => rfl

end Element

namespace Item

def bytes (i : Item) : Bytes :=
  i.filler ++ List.replicate (i.fill + 1) 0xFF ++ i.element.marker :: i.element.body

structure IsWellFormed (i : Item) : Prop where
  filler : IsFiller i.filler
  element : i.element.IsWellFormed

/-- The offset of the byte FF before the marker of an item that stands at a position. -/
def offset (start : Nat) (i : Item) : Nat := start + i.filler.length + i.fill

/-- What is read from the elements of items that stand from a position on. -/
def readAll {β : Type} (read : Nat → Element → Option β) (start : Nat) (items : List Item) :
    List β :=
  (readParts (fun i => i.bytes.length) (fun position i => read (i.offset position) i.element) start
    items).filterMap id

theorem readAll_cons {β : Type} (read : Nat → Element → Option β) (start : Nat) (i : Item)
    (rest : List Item) :
    readAll read start (i :: rest) =
      (read (i.offset start) i.element).toList ++ readAll read (start + i.bytes.length) rest := by
  rw [readAll, readParts, List.filterMap_cons]
  cases read (i.offset start) i.element <;> rfl

theorem readAll_eq_nil {β : Type} {read : Nat → Element → Option β} {items : List Item}
    (h : ∀ i ∈ items, ∀ position, read position i.element = none) (start : Nat) :
    readAll read start items = [] := by
  induction items generalizing start with
  | nil => rfl
  | cons i rest ih =>
      rw [readAll_cons, h i (by simp), ih fun j member => h j (by simp [member])]
      rfl

end Item

/-- What stands after the items. -/
inductive Ending where
  | none (filler : Bytes)
  /-- A marker that stops the search, with whatever follows it. -/
  | stop (filler : Bytes) (fill : Nat) (marker : Marker) (rest : Bytes)

namespace Ending

def bytes : Ending → Bytes
  | none filler => filler
  | stop filler fill marker rest => filler ++ List.replicate (fill + 1) 0xFF ++ marker :: rest

def IsWellFormed : Ending → Prop
  | none filler => IsFiller filler
  | stop filler _ marker _ => IsFiller filler ∧ (marker = Marker.sos ∨ marker = Marker.eoi)

end Ending

/-- A stream by its items and its ending. -/
structure Stream where
  items : List Item
  ending : Ending

namespace Stream

def bytes (s : Stream) : Bytes :=
  [0xFF, 0xD8] ++ s.items.flatMap Item.bytes ++ s.ending.bytes

structure IsWellFormed (s : Stream) : Prop where
  items (i : Item) : i ∈ s.items → i.IsWellFormed
  ending : s.ending.IsWellFormed

/-- The parts of the TIFF stream, in order. -/
def pieces (s : Stream) : List Bytes := s.items.filterMap fun i => i.element.exif?

end Stream

variable {filler rest : Bytes} {skipped : Nat}

theorem next?_fill (fill skipped : Nat) (rest : Bytes) :
    next? true skipped (List.replicate fill 0xFF ++ rest) = next? true skipped rest := by
  induction fill with
  | zero => rfl
  | succ fill ih => rw [List.replicate_succ, List.cons_append, next?, if_pos rfl, ih]

theorem next?_run (fill skipped : Nat) (rest : Bytes) :
    next? false skipped (List.replicate (fill + 1) 0xFF ++ rest) = next? true skipped rest := by
  rw [List.replicate_succ, List.cons_append, next?, if_pos rfl, next?_fill]

/-- Filler is passed over. -/
theorem next?_filler (h : IsFiller filler) (skipped : Nat) (rest : Bytes) :
    ∃ skipped', next? false skipped (filler ++ rest) = next? false skipped' rest := by
  induction h generalizing skipped with
  | nil => exact ⟨skipped, rfl⟩
  | plain other _ ih =>
      rw [List.cons_append, next?, if_neg other]
      exact ih _
  | stuffed more _ ih =>
      rw [List.append_assoc, next?_run, List.cons_append, next?, if_neg (by decide), if_pos rfl]
      exact ih _

/-- The marker after filler is found. -/
theorem next?_marker {marker : Marker} (h : IsFiller filler) (fill skipped : Nat) (rest : Bytes)
    (zero : marker ≠ 0) (ff : marker ≠ 0xFF) :
    ∃ skipped', next? false skipped
      (filler ++ List.replicate (fill + 1) 0xFF ++ marker :: rest) =
        some ⟨marker, skipped', rest⟩ := by
  obtain ⟨skipped', passed⟩ :=
    next?_filler h skipped (List.replicate (fill + 1) 0xFF ++ marker :: rest)
  refine ⟨skipped', ?_⟩
  rw [List.append_assoc, passed, next?_run, next?, if_neg ff, if_neg zero]

/-- Filler and fill bytes have no marker behind them. -/
theorem next?_end (h : IsFiller filler) (fill skipped : Nat) :
    next? false skipped (filler ++ List.replicate fill 0xFF) = none := by
  obtain ⟨skipped', passed⟩ := next?_filler h skipped (List.replicate fill 0xFF)
  rw [passed]
  cases fill with
  | zero => rfl
  | succ fill =>
      have run := next?_run fill skipped' []
      rw [List.append_nil] at run
      rw [run]
      rfl

namespace Scan

open ImageMetadata.Action (Runs Warns Fails)

variable {s t : Scan} {strict : Bool} {size : Nat}

/-- The payload of an APP1 segment is used. -/
def withPayload (s : Scan) (payload : Bytes) : Scan :=
  match payload.after? exifIdentifier with
  | some exif => { s with exif := s.exif ++ exif, exifCount := s.exifCount + 1 }
  | none =>
      match payload.after? xmpIdentifier with
      | some xmp => { s with xmp := s.xmp.or (some xmp) }
      | none => s

/-- An element was taken whose marker follows a byte FF at an offset. -/
def after (s : Scan) (offset : Nat) : Element → Scan
  | .alone _ => { s with position := offset + 2 }
  | .segment marker payload =>
      let kept := marker == Marker.app1
      let taken : Scan :=
        { s with
          segments := s.segments ++
            [⟨marker, offset, payload.length + 2, if kept then some payload else none⟩]
          position := offset + 4 + payload.length }
      if kept then taken.withPayload payload else taken
  | .damaged .. => { s with position := offset + 4 }

/-- Items were taken that stand from a position on. -/
def afterAll (s : Scan) (start : Nat) : List Item → Scan
  | [] => s
  | i :: rest =>
      (s.after (start + i.filler.length + i.fill) i.element).afterAll (start + i.bytes.length) rest

theorem runs_usePayload (offset : Nat) (payload : Bytes) :
    Runs (usePayload offset payload) s () (s.withPayload payload) := by
  apply Runs.state_bind
  unfold withPayload
  cases payload.after? exifIdentifier with
  | some exif => exact (Runs.update _).bind (.trace _)
  | none =>
      cases payload.after? xmpIdentifier with
      | none => exact .trace _
      | some xmp =>
          obtain ⟨segments, exif, exifCount, found, position, done⟩ := s
          cases found with
          | none => exact Runs.update _
          | some found => exact .trace _

/-- A complete segment is taken, and what follows it is left. -/
theorem runs_takeSegment (strict : Bool) (marker : Marker) (offset : Nat) {a b : UInt8}
    {payload rest bytes : Bytes} (split : bytes = a :: b :: (payload ++ rest))
    (declared : ByteOrder.big.unsigned [a, b] = payload.length + 2) :
    ∃ left, Runs (takeSegment strict marker (offset + 2) bytes) s (some left)
      (s.after offset (.segment marker payload)) ∧ left.val = rest := by
  subst split
  have fits : ¬ (payload ++ rest).length < payload.length := by simp
  have past : offset + 2 + (payload.length + 2) = offset + 4 + payload.length := by omega
  simp only [takeSegment, declared, Nat.add_sub_cancel, List.take_left, List.drop_left, past]
  refine ⟨⟨rest, by simp; omega⟩, ?_, rfl⟩
  apply (Runs.update _).bind
  rw [if_neg (by omega)]
  apply (Runs.when_trace _ _).bind
  rw [if_neg fits]
  refine (Runs.update _).bind ((Runs.update _).bind ?_)
  refine Runs.bind (a := ()) (t := s.after offset (.segment marker payload)) ?_ (.pure _)
  unfold after
  dsimp only
  cases marker == Marker.app1 with
  | false => exact .when_of_false rfl
  | true => exact .when_of_true rfl (runs_usePayload _ _)

/-- A header with a length that is too small is passed over by a lenient search. -/
theorem warns_takeSegment (marker : Marker) (offset : Nat) {a b : UInt8} (body : Bytes)
    (small : ByteOrder.big.unsigned [a, b] < 2) :
    ∃ left, Warns (takeSegment false marker (offset + 2) (a :: b :: body)) s
      [.segmentLength marker offset (ByteOrder.big.unsigned [a, b])] (some left)
      (s.after offset (.damaged marker (ByteOrder.big.unsigned [a, b]))) ∧ left.val = body := by
  simp only [takeSegment, Nat.add_sub_cancel, if_pos small]
  refine ⟨⟨body, length_drop_le_of_field a b body 0⟩, ?_, rfl⟩
  exact (Runs.update _).warns.bind ((Warns.flag _).bind (Runs.pure _).warns)

/-- A strict search fails there. -/
theorem fails_takeSegment (marker : Marker) (offset : Nat) {a b : UInt8} (body : Bytes)
    (small : ByteOrder.big.unsigned [a, b] < 2) :
    Fails (takeSegment true marker (offset + 2) (a :: b :: body)) s
      (.segmentLength marker offset (ByteOrder.big.unsigned [a, b]))
      { s with position := offset + 4 } := by
  simp only [takeSegment, Nat.add_sub_cancel, if_pos small]
  exact (Runs.update _).yields.bind_fails (Fails.flag _).bind

/-- The search moves behind the marker, and a segment is expected there. -/
theorem step_of_beginsSegment (s : Scan) (strict : Bool) (skipped : Nat) {offset : Nat}
    {marker : Marker} {bytes : Bytes} (begins : marker.beginsSegment = true)
    (total : size = offset + 2 + bytes.length) :
    ∃ note : Action Scan Unit,
      Runs note { s with position := offset + 2 } () { s with position := offset + 2 } ∧
      step strict size ⟨marker, skipped, bytes⟩ = (do
        moveTo (offset + 2)
        note
        takeSegment strict marker (offset + 2) bytes) := by
  have position : size - bytes.length = offset + 2 := by omega
  obtain ⟨_, _, alone, sos, eoi⟩ := Marker.beginsSegment_iff.1 begins
  refine ⟨_, .when_trace (decide (0 < skipped)) (.resynchronized skipped offset), ?_⟩
  simp only [step, position, alone, sos, eoi, if_false, Bool.false_eq_true, Nat.add_sub_cancel]
  rfl

/-- A marker at which a segment is taken. -/
theorem warns_step_of_beginsSegment {offset skipped : Nat} {marker : Marker} {bytes : Bytes}
    {problems : List Problem} {left : Left bytes} (begins : marker.beginsSegment = true)
    (total : size = offset + 2 + bytes.length)
    (taken : Warns (takeSegment strict marker (offset + 2) bytes)
      { s with position := offset + 2 } problems left t) :
    Warns (step strict size ⟨marker, skipped, bytes⟩) s problems left t := by
  obtain ⟨note, noted, steps⟩ := step_of_beginsSegment s strict skipped begins total
  rw [steps]
  exact (Runs.update _).warns.bind (noted.warns.bind taken)

theorem warns_step_alone {offset skipped : Nat} {marker : Marker} {rest : Bytes}
    (alone : marker.standsAlone = true) (total : size = offset + 2 + rest.length) :
    ∃ left, Warns (step strict size ⟨marker, skipped, rest⟩) s [] (some left)
      (s.after offset (.alone marker)) ∧ left.val = rest := by
  have position : size - rest.length = offset + 2 := by omega
  refine ⟨⟨rest, Nat.le_refl _⟩, Runs.warns ?_, rfl⟩
  simp only [step, position]
  refine (Runs.update _).bind ((Runs.when_trace _ _).bind ?_)
  rw [if_pos alone]
  exact .pure _

/-- A length field of two bytes. -/
theorem exists_lengthField {length : Nat} (short : length < Bytes.capacity 2) :
    ∃ a b, ByteOrder.big.unsignedBytes 2 length = [a, b] ∧ ByteOrder.big.unsigned [a, b] = length :=
  ⟨_, _, rfl, ByteOrder.unsigned_unsignedBytes .big short⟩

/-- An element is taken as a whole; a strict search only takes it if it is sound. -/
theorem warns_step (s : Scan) (skipped : Nat) {offset : Nat} {e : Element} {rest : Bytes}
    (wellFormed : e.IsWellFormed) (tolerant : strict = true → e.IsSound)
    (total : size = offset + 2 + (e.body ++ rest).length) :
    ∃ left, Warns (step strict size ⟨e.marker, skipped, e.body ++ rest⟩) s
      (e.problem? offset).toList (some left) (s.after offset e) ∧ left.val = rest := by
  cases e with
  | alone marker => exact warns_step_alone wellFormed total
  | segment marker payload =>
      obtain ⟨begins, short⟩ := wellFormed
      have fits : payload.length + 2 < Bytes.capacity 2 :=
        Nat.lt_of_le_of_lt (Nat.add_le_add_right short 2) (by decide)
      obtain ⟨a, b, field, declared⟩ := exists_lengthField fits
      have split : (Element.segment marker payload).body ++ rest =
          a :: b :: (payload ++ rest) := by
        simp [Element.body, field]
      obtain ⟨left, taken, same⟩ := runs_takeSegment (s := { s with position := offset + 2 })
        strict marker offset split declared
      exact ⟨left, warns_step_of_beginsSegment begins total taken.warns, same⟩
  | damaged marker length =>
      obtain ⟨begins, small⟩ := wellFormed
      obtain rfl : strict = false := by simpa [Element.IsSound] using tolerant
      obtain ⟨a, b, field, rfl⟩ := exists_lengthField (Nat.lt_trans small (by decide))
      have split : (Element.damaged marker (ByteOrder.big.unsigned [a, b])).body ++ rest =
          a :: b :: rest := by
        simp [Element.body, field]
      rw [split] at total ⊢
      obtain ⟨left, taken, same⟩ := warns_takeSegment (s := { s with position := offset + 2 })
        marker offset rest small
      exact ⟨left, warns_step_of_beginsSegment begins total taken, same⟩

/-- A strict search fails at a damaged header. -/
theorem fails_step {offset skipped length : Nat} {marker : Marker} {rest : Bytes}
    (wellFormed : (Element.damaged marker length).IsWellFormed)
    (total : size = offset + 2 + ((Element.damaged marker length).body ++ rest).length) :
    Fails (step true size ⟨marker, skipped, (Element.damaged marker length).body ++ rest⟩) s
      (.segmentLength marker offset length) { s with position := offset + 4 } := by
  obtain ⟨begins, small⟩ := wellFormed
  obtain ⟨a, b, field, rfl⟩ := exists_lengthField (Nat.lt_trans small (by decide))
  have split : (Element.damaged marker (ByteOrder.big.unsigned [a, b])).body ++ rest =
      a :: b :: rest := by
    simp [Element.body, field]
  rw [split] at total ⊢
  obtain ⟨note, noted, steps⟩ := step_of_beginsSegment s true skipped begins total
  rw [steps]
  exact (Runs.update _).yields.bind_fails (noted.yields.bind_fails
    (fails_takeSegment marker offset rest small))

/-- The marker of an item is the next one, and behind it the rest of the item stands. -/
theorem next?_item {start : Nat} {i : Item} {rest : Bytes} (wellFormed : i.IsWellFormed)
    (total : size = start + (i.bytes ++ rest).length) :
    ∃ skipped, next? false 0 (i.bytes ++ rest) =
        some ⟨i.element.marker, skipped, i.element.body ++ rest⟩ ∧
      size = i.offset start + 2 + (i.element.body ++ rest).length := by
  obtain ⟨zero, ff⟩ := wellFormed.element.marker
  obtain ⟨skipped, found⟩ := next?_marker wellFormed.filler i.fill 0 (i.element.body ++ rest) zero ff
  have split : i.bytes ++ rest = i.filler ++ List.replicate (i.fill + 1) 0xFF ++
      i.element.marker :: (i.element.body ++ rest) := by
    simp [Item.bytes]
  refine ⟨skipped, by rw [split, found], ?_⟩
  rw [total, split, Item.offset]
  simp only [List.length_append, List.length_replicate, List.length_cons]
  omega

/-- An item at the start of the rest is taken, whatever follows it. -/
theorem warns_search_item {start : Nat} {i : Item} {rest : Bytes} {problems : List Problem}
    (wellFormed : i.IsWellFormed) (tolerant : strict = true → i.element.IsSound)
    (total : size = start + (i.bytes ++ rest).length)
    (k : Warns (search strict size rest) (s.after (i.offset start) i.element) problems () t) :
    Warns (search strict size (i.bytes ++ rest)) s
      ((i.element.problem? (i.offset start)).toList ++ problems) () t := by
  obtain ⟨skipped, found, position⟩ := next?_item wellFormed total
  obtain ⟨left, taken, same⟩ := warns_step s skipped wellFormed.element tolerant position
  rw [search_of_some found]
  apply taken.bind
  dsimp only
  rw [same]
  exact k

/-- The search takes all items, and goes on with what follows them. -/
theorem warns_search (start : Nat) {items : List Item} {tail : Bytes} {problems : List Problem}
    (wellFormed : ∀ i ∈ items, i.IsWellFormed)
    (tolerant : strict = true → ∀ i ∈ items, i.element.IsSound)
    (total : size = start + (items.flatMap Item.bytes ++ tail).length)
    (k : Warns (search strict size tail) (s.afterAll start items) problems () t) :
    Warns (search strict size (items.flatMap Item.bytes ++ tail)) s
      (Item.readAll Element.problem? start items ++ problems) () t := by
  induction items generalizing s start with
  | nil => exact k
  | cons i rest ih =>
      rw [List.flatMap_cons, List.append_assoc] at total ⊢
      have later := ih (start + i.bytes.length) (fun j member => wellFormed j (by simp [member]))
        (fun strictly j member => tolerant strictly j (by simp [member]))
        (by rw [total, List.length_append, Nat.add_assoc]) k
      rw [Item.readAll_cons, List.append_assoc]
      exact warns_search_item (wellFormed i (by simp)) (fun strictly => tolerant strictly i (by simp))
        total later

/-- A marker that stops the search ends it, whatever follows. -/
theorem runs_search_stop {filler : Bytes} (filled : IsFiller filler) (fill : Nat) {marker : Marker}
    (stops : marker = Marker.sos ∨ marker = Marker.eoi) (rest : Bytes) :
    Runs (search strict size (filler ++ List.replicate (fill + 1) 0xFF ++ marker :: rest)) s ()
      { s with position := size - rest.length, done := true } := by
  have coded : marker ≠ 0 ∧ marker ≠ 0xFF := by rcases stops with rfl | rfl <;> decide
  obtain ⟨skipped, found⟩ := next?_marker filled fill 0 rest coded.1 coded.2
  have stopped : Runs (step strict size ⟨marker, skipped, rest⟩) s none
      { s with position := size - rest.length } := by
    refine (Runs.update _).bind ((Runs.when_trace _ _).bind ?_)
    dsimp only
    rcases stops with rfl | rfl
    · rw [if_neg (by decide), if_pos rfl]
      exact (Runs.trace _).bind (.pure none)
    · rw [if_neg (by decide), if_neg (by decide), if_pos rfl]
      exact .pure none
  rw [search_of_some found]
  exact stopped.bind (.update _)

/-- Where no marker is left the search ends. -/
theorem runs_search_of_none {rest : Bytes} (h : next? false 0 rest = none) :
    Runs (search strict size rest) s () { s with position := size, done := true } := by
  rw [search_of_none h]
  exact (Runs.update _).bind ((Runs.trace _).bind (.update _))

/-- The ending ends the search. -/
theorem runs_search_ending (s : Scan) (strict : Bool) (size : Nat) {e : Ending}
    (wellFormed : e.IsWellFormed) :
    ∃ position, Runs (search strict size e.bytes) s ()
      { s with position := position, done := true } := by
  cases e with
  | none filler =>
      have ended := next?_end wellFormed 0 0
      rw [List.replicate_zero, List.append_nil] at ended
      exact ⟨size, runs_search_of_none ended⟩
  | stop filler fill marker rest =>
      exact ⟨_, runs_search_stop wellFormed.1 fill wellFormed.2 rest⟩

theorem exif_after (s : Scan) (offset : Nat) (e : Element) :
    (s.after offset e).exif = s.exif ++ e.exif?.toList.flatten ∧
      (s.after offset e).exifCount = s.exifCount + e.exif?.toList.length := by
  cases e with
  | alone marker => simp [after, Element.exif?]
  | damaged marker length => simp [after, Element.exif?]
  | segment marker payload =>
      by_cases app1 : marker = Marker.app1
      · subst app1
        simp only [after, beq_self_eq_true, if_true, withPayload, Element.exif?]
        cases payload.after? exifIdentifier with
        | some exif => simp
        | none => cases payload.after? xmpIdentifier <;> simp
      · simp [after, Element.exif?, app1]

/-- The parts of the TIFF stream are joined in order. -/
theorem exif_afterAll (s : Scan) (start : Nat) (items : List Item) :
    (s.afterAll start items).exif =
        s.exif ++ (items.filterMap fun i => i.element.exif?).flatten ∧
      (s.afterAll start items).exifCount =
        s.exifCount + (items.filterMap fun i => i.element.exif?).length := by
  induction items generalizing s start with
  | nil => simp [afterAll]
  | cons i rest ih =>
      obtain ⟨exif, count⟩ := exif_after s (start + i.filler.length + i.fill) i.element
      rw [afterAll, (ih _ _).1, (ih _ _).2, exif, count, List.filterMap_cons]
      cases i.element.exif? with
      | none => simp
      | some piece =>
          simp only [Option.toList_some, List.flatten_cons, List.flatten_nil, List.append_nil,
            List.append_assoc, List.length_cons, List.length_nil, true_and]
          omega

end Scan

namespace Stream

/-- The start of image is an item like the others. -/
def allItems (s : Stream) : List Item := ⟨[], 0, .alone Marker.soi⟩ :: s.items

/-- The integrity problems of a stream. -/
def problems (s : Stream) : List Problem := Item.readAll Element.problem? 2 s.items

theorem problems_eq (s : Stream) : s.problems = Item.readAll Element.problem? 0 s.allItems := rfl

theorem problems_eq_nil {s : Stream} (sound : ∀ i ∈ s.items, i.element.IsSound) :
    s.problems = [] :=
  Item.readAll_eq_nil (fun i member => Element.problem?_of_isSound (sound i member)) 2

/-- The search of a well-formed stream takes its items; a strict one only if they are sound. -/
theorem warns_scan {s : Stream} (wellFormed : s.IsWellFormed) (strict : Bool)
    (tolerant : strict = true → ∀ i ∈ s.items, i.element.IsSound) :
    ∃ position, Action.Warns (scan s.bytes strict) Scan.start s.problems ()
      { Scan.start.afterAll 0 s.allItems with position := position, done := true } := by
  have image : Item.IsWellFormed ⟨[], 0, .alone Marker.soi⟩ := ⟨.nil, rfl⟩
  have wellFormed' : ∀ i ∈ s.allItems, i.IsWellFormed :=
    List.forall_mem_cons.2 ⟨image, wellFormed.items⟩
  have tolerant' : strict = true → ∀ i ∈ s.allItems, i.element.IsSound :=
    fun strictly => List.forall_mem_cons.2 ⟨trivial, tolerant strictly⟩
  have total : s.bytes.length = 0 + (s.allItems.flatMap Item.bytes ++ s.ending.bytes).length :=
    (Nat.zero_add _).symm
  obtain ⟨position, ended⟩ := Scan.runs_search_ending
    (Scan.start.afterAll 0 s.allItems) strict s.bytes.length wellFormed.ending
  have searched := Scan.warns_search 0 wellFormed' tolerant' total ended.warns
  refine ⟨position, ?_⟩
  rw [List.append_nil, ← problems_eq] at searched
  unfold scan
  rw [if_pos (by rfl)]
  exact searched

/-- The search of a well-formed stream ends well, with the parts of the TIFF stream joined. -/
theorem runs_scan {s : Stream} (wellFormed : s.IsWellFormed)
    (sound : ∀ i ∈ s.items, i.element.IsSound) (strict : Bool) :
    ∃ found, Action.Runs (scan s.bytes strict) Scan.start () found ∧
      found.done = true ∧ found.exif = s.pieces.flatten ∧ found.exifCount = s.pieces.length := by
  obtain ⟨position, searched⟩ := warns_scan wellFormed strict fun _ => sound
  obtain ⟨exif, count⟩ := Scan.exif_afterAll Scan.start 0 s.allItems
  rw [problems_eq_nil sound] at searched
  exact ⟨_, searched.runs, rfl, exif, count.trans (Nat.zero_add _)⟩

end Stream

end ImageMetadata.Jpeg
