import ImageMetadata.Proofs.Jpeg.Parsing
import ImageMetadata.Proofs.Jpeg.Recovery

/-!
# Streams that are cut

A stream that is cut only loses the tail of what is found in it: the search takes the same items up to
the cut, and nothing of a segment that is cut is kept. Behind a marker that stops the search nothing
matters.
-/

namespace ImageMetadata.Jpeg

open ImageMetadata.Action (Warns Yields)

namespace Scan

variable {s t : Scan} {size start : Nat} {tail : Bytes}

/-- All that was found stays, and more may come behind it. -/
structure IsPartOf (s t : Scan) : Prop where
  segments : s.segments <+: t.segments
  exif : s.exif <+: t.exif
  exifCount : s.exifCount ≤ t.exifCount
  xmp : s.xmp = none ∨ s.xmp = t.xmp

/-- Where the search stands does not matter. -/
theorem IsPartOf.of_moved (h : s.IsPartOf t) (position position' : Nat) (done done' : Bool) :
    { s with position := position, done := done }.IsPartOf
      { t with position := position', done := done' } :=
  ⟨h.segments, h.exif, h.exifCount, h.xmp⟩

protected theorem IsPartOf.refl (s : Scan) : s.IsPartOf s :=
  ⟨List.prefix_rfl, List.prefix_rfl, Nat.le_refl _, .inr rfl⟩

theorem isPartOf_afterAll (s : Scan) (start : Nat) (items : List Item) :
    s.IsPartOf (s.afterAll start items) where
  segments := by
    rw [segments_afterAll]
    exact List.prefix_append _ _
  exif := by
    rw [(exif_afterAll s start items).1]
    exact List.prefix_append _ _
  exifCount := by
    rw [(exif_afterAll s start items).2]
    exact Nat.le_add_right _ _
  xmp := by
    rw [xmp_afterAll]
    cases s.xmp <;> simp

/-- A lenient search takes all items, sound or not. -/
theorem warns_search_lenient (s : Scan) (start : Nat) {items : List Item} {problems : List Problem}
    (wellFormed : ∀ i ∈ items, i.IsWellFormed)
    (total : size = start + (items.flatMap Item.bytes ++ tail).length)
    (k : Warns (search false size tail) (s.afterAll start items) problems () t) :
    Warns (search false size (items.flatMap Item.bytes ++ tail)) s
      (Item.readAll Element.problem? start items ++ problems) () t :=
  warns_search start wellFormed (fun strictly => absurd strictly Bool.false_ne_true) total k

/-- A lenient search always ends, with all that was found before. -/
theorem exists_warns_search (s : Scan) (total : size = start + tail.length) :
    ∃ problems t, Warns (search false size tail) s problems () t ∧ s.IsPartOf t ∧
      t.done = true := by
  obtain ⟨items, final, wellFormed, ends, rfl⟩ := exists_items tail
  have room : final.length ≤ size := by
    simp only [total, List.length_append]
    omega
  obtain ⟨position, ended⟩ := runs_search_final (s.afterAll start items) false ends room
  exact ⟨_, _, warns_search_lenient s start wellFormed total ended.warns,
    (s.isPartOf_afterAll start items).of_moved s.position position s.done true, rfl⟩

/-- With more bytes behind them a lenient search finds more. -/
theorem yields_search_append (s : Scan) (more : Bytes) (total : size = start + tail.length) :
    ∃ short long, Yields (search false size tail) s () short ∧
      Yields (search false (size + more.length) (tail ++ more)) s () long ∧
      short.IsPartOf long ∧ short.done = true ∧ long.done = true := by
  obtain ⟨items, final, wellFormed, ends, rfl⟩ := exists_items tail
  have total' : size + more.length =
      start + (items.flatMap Item.bytes ++ (final ++ more)).length := by
    simp only [total, List.length_append]
    omega
  rw [List.append_assoc]
  cases ends with
  | @stop filler filled fill marker stops rest =>
      rw [List.append_assoc _ (marker :: rest) more, List.cons_append] at total' ⊢
      have short := warns_search_lenient s start wellFormed total
        (runs_search_stop filled fill stops rest).warns
      have long := warns_search_lenient s start wellFormed total'
        (runs_search_stop filled fill stops (rest ++ more)).warns
      exact ⟨_, _, short.yields, long.yields, (IsPartOf.refl _).of_moved _ _ true true, rfl, rfl⟩
  | cut cut =>
      have room : final.length ≤ size := by
        simp only [total, List.length_append]
        omega
      obtain ⟨position, ended⟩ := runs_search_cut (s.afterAll start items) false cut room
      -- The shorter search ends here; the longer one goes on from the same place.
      have split : size + more.length =
          start + (items.flatMap Item.bytes).length + (final ++ more).length := by
        rw [total', List.length_append, Nat.add_assoc]
      obtain ⟨problems, found, others, part, done⟩ := exists_warns_search
        (s.afterAll start items) split
      have short := warns_search_lenient s start wellFormed total ended.warns
      have long := warns_search_lenient s start wellFormed total' others
      exact ⟨_, _, short.yields, long.yields, part.of_moved position found.position true found.done,
        rfl, done⟩

/-- The search of some bytes comes to a marker that stops it. -/
inductive Stops (size : Nat) : Scan → Bytes → Prop
  | here {s : Scan} {rest : Bytes} {found : Found} (next : next? false 0 rest = some found)
      (stops : found.marker = Marker.sos ∨ found.marker = Marker.eoi) : Stops size s rest
  | later {s t : Scan} {rest : Bytes} {found : Found}
      (left : { after : Bytes // after.length ≤ found.rest.length })
      (next : next? false 0 rest = some found)
      (taken : Yields (step false size found) s (some left) t)
      (tail : Stops size t left.val) : Stops size s rest

/-- It does not stop at an item, but may do so behind it. -/
theorem Stops.of_item {i : Item} (h : Stops size s (i.bytes ++ tail)) (wellFormed : i.IsWellFormed)
    (total : size = start + (i.bytes ++ tail).length) :
    Stops size (s.after (i.offset start) i.element) tail := by
  obtain ⟨skipped, found, room⟩ := next?_item wellFormed total
  obtain ⟨left, step, same⟩ := warns_step s skipped wellFormed.element
    (fun strictly : false = true => absurd strictly Bool.false_ne_true) room
  cases h with
  | here next stops =>
      cases found.symm.trans next
      exact absurd stops wellFormed.element.not_stops
  | later _ next taken later =>
      cases found.symm.trans next
      obtain ⟨rest, rfl⟩ := step.yields.unique taken
      cases rest
      rwa [same] at later

/-- It does not stop where the bytes are cut. -/
theorem not_stops_of_cut (cut : IsCut tail) (room : tail.length ≤ size) : ¬ Stops size s tail := by
  intro h
  rcases next?_cut cut room s false with none | ⟨found, next, begins, position, stopped⟩
  · cases h with
    | here next => cases none.symm.trans next
    | later _ next => cases none.symm.trans next
  · cases h with
    | here next' stops =>
        cases next.symm.trans next'
        obtain ⟨_, _, _, sos, eoi⟩ := Marker.beginsSegment_iff.1 begins
        exact stops.elim sos eoi
    | later _ next' taken =>
        cases next.symm.trans next'
        cases (stopped.yields.unique taken).1

/-- A search that stops at a marker takes items before it. -/
theorem Stops.exists_items (h : Stops size s tail) (total : size = start + tail.length) :
    ∃ (items : List Item) (filler : Bytes) (fill : Nat) (marker : Marker) (rest : Bytes),
      (∀ i ∈ items, i.IsWellFormed) ∧ IsFiller filler ∧
      (marker = Marker.sos ∨ marker = Marker.eoi) ∧
      tail = items.flatMap Item.bytes ++
        (filler ++ List.replicate (fill + 1) 0xFF ++ marker :: rest) := by
  obtain ⟨items, final, wellFormed, ends, rfl⟩ := Jpeg.exists_items tail
  cases ends with
  | @stop filler filled fill marker stops rest =>
      exact ⟨items, filler, fill, marker, rest, wellFormed, filled, stops, rfl⟩
  | cut cut =>
      -- No item stops the search, so it would stop where the bytes are cut.
      exfalso
      induction items generalizing s start with
      | nil =>
          refine not_stops_of_cut cut ?_ h
          rw [total]
          exact Nat.le_add_left _ _
      | cons i others ih =>
          rw [List.flatMap_cons, List.append_assoc] at h total
          have total' : size =
              start + i.bytes.length + (others.flatMap Item.bytes ++ final).length := by
            rw [total, List.length_append, Nat.add_assoc]
          exact ih (fun j member => wellFormed j (by simp [member]))
            (h.of_item (wellFormed i (by simp)) total) total'

/-- All that matters of the bytes stands before the place where the search stops. -/
theorem Stops.exists_front {bytes : Bytes} (h : Stops bytes.length Scan.start bytes) :
    ∃ (front rest : Bytes) (found : Scan), bytes = front ++ rest ∧ 2 ≤ front.length ∧
      found.position = front.length ∧ ∀ after : Bytes,
        Yields (search false (front ++ after).length (front ++ after)) Scan.start () found := by
  obtain ⟨items, filler, fill, marker, rest, wellFormed, filled, stops, rfl⟩ :=
    h.exists_items (Nat.zero_add _).symm
  have split (after : Bytes) : items.flatMap Item.bytes ++
      (filler ++ List.replicate (fill + 1) 0xFF ++ marker :: after) =
        items.flatMap Item.bytes ++ (filler ++ List.replicate (fill + 1) 0xFF ++ [marker]) ++
          after := by simp
  refine ⟨_, rest, { Scan.start.afterAll 0 items with position := _, done := true }, split rest,
    ?_, rfl, fun after => ?_⟩
  · simp only [List.length_append, List.length_replicate, List.length_singleton]
    omega
  · have searched := warns_search_lenient Scan.start 0 wellFormed (Nat.zero_add _).symm
      (runs_search_stop filled fill stops after).warns
    rw [split after, List.length_append, Nat.add_sub_cancel] at searched
    rw [List.length_append]
    exact searched.yields

end Scan

/-- What one search has found is the beginning of what another one has found. -/
structure Scan.Begins (s t : Scan) : Prop where
  segments : s.segments <+: t.segments
  exif : s.exif?.getD [] <+: t.exif?.getD []
  exifCount : s.exifCount ≤ t.exifCount
  xmp : s.xmp = none ∨ s.xmp = t.xmp

theorem Scan.IsPartOf.begins {s t : Scan} (h : s.IsPartOf t) (short : s.done = true)
    (long : t.done = true) : s.Begins t where
  segments := h.segments
  exif := by
    unfold exif?
    by_cases some : 0 < s.exifCount
    · rw [if_pos ⟨short, some⟩, if_pos ⟨long, Nat.lt_of_lt_of_le some h.exifCount⟩]
      exact h.exif
    · rw [if_neg (fun both => some both.2)]
      exact List.nil_prefix
  exifCount := h.exifCount
  xmp := h.xmp

variable {bytes : Bytes}

theorem yields_scan_iff (image : bytes.take 2 = [0xFF, 0xD8]) {found : Scan} :
    Yields (scan bytes false) Scan.start () found ↔
      Yields (Scan.search false bytes.length bytes) Scan.start () found := by
  unfold scan
  rw [if_pos image]

/-- A cut stream gives the beginning of what the whole one gives. -/
theorem begins_of_append {front : Bytes} (image : front.take 2 = [0xFF, 0xD8])
    (long : 2 ≤ front.length) (rest : Bytes) :
    ∃ cut whole, Yields (scan front false) Scan.start () cut ∧
      Yields (scan (front ++ rest) false) Scan.start () whole ∧ cut.Begins whole := by
  obtain ⟨cut, whole, short, more, part, done, done'⟩ :=
    Scan.yields_search_append Scan.start rest (Nat.zero_add front.length).symm
  rw [← List.length_append] at more
  exact ⟨cut, whole, (yields_scan_iff image).2 short,
    (yields_scan_iff ((List.take_append_of_le_length long).trans image)).2 more,
    part.begins done done'⟩

/-- A search that stops at a marker finds the same with any other bytes behind that place. -/
theorem exists_yields_of_stops (image : bytes.take 2 = [0xFF, 0xD8])
    (stops : Scan.Stops bytes.length Scan.start bytes) :
    ∃ whole, Yields (scan bytes false) Scan.start () whole ∧ ∀ rest,
      Yields (scan (bytes.take whole.position ++ rest) false) Scan.start () whole := by
  obtain ⟨front, behind, whole, rfl, long, position, searched⟩ := stops.exists_front
  rw [List.take_append_of_le_length long] at image
  have image' (rest : Bytes) : (front ++ rest).take 2 = [0xFF, 0xD8] :=
    (List.take_append_of_le_length long).trans image
  refine ⟨whole, (yields_scan_iff (image' behind)).2 (searched behind), fun rest => ?_⟩
  rw [position, List.take_left]
  exact (yields_scan_iff (image' rest)).2 (searched rest)

/-- The lenient search of a cut stream ends well, and what it finds is the beginning of what is found
in the whole stream. Where the search of the stream stops at a marker, the bytes behind that place do
not matter. -/
theorem begins_scan_take (image : bytes.take 2 = [0xFF, 0xD8]) :
    (∀ n, 2 ≤ n → n ≤ bytes.length → ∃ cut whole,
      Yields (scan (bytes.take n) false) Scan.start () cut ∧
        Yields (scan bytes false) Scan.start () whole ∧ cut.Begins whole) ∧
      (Scan.Stops bytes.length Scan.start bytes → ∃ whole,
        Yields (scan bytes false) Scan.start () whole ∧ ∀ rest,
          Yields (scan (bytes.take whole.position ++ rest) false) Scan.start () whole) := by
  constructor
  · intro n two inside
    have image' : (bytes.take n).take 2 = [0xFF, 0xD8] := by
      rw [List.take_take, Nat.min_eq_left two, image]
    have cut := begins_of_append image' (by rw [List.length_take]; omega) (bytes.drop n)
    rwa [List.take_append_drop] at cut
  · exact exists_yields_of_stops image

/-- Two Exif segments, the end of image, and a byte behind it. -/
def twoParts : Bytes :=
  [0xFF, 0xD8] ++ [0xFF, 0xE1, 0, 10] ++ exifIdentifier ++ [1, 2] ++
    [0xFF, 0xE1, 0, 9] ++ exifIdentifier ++ [3] ++ [0xFF, 0xD9] ++ [7]

theorem stops_twoParts : Scan.Stops twoParts.length Scan.start twoParts :=
  .later (t := _) ⟨twoParts.drop 2, by decide⟩ rfl ⟨rfl, rfl⟩ <|
    .later ⟨twoParts.drop 14, by decide⟩ rfl ⟨rfl, rfl⟩ <|
      .later ⟨twoParts.drop 25, by decide⟩ rfl ⟨rfl, rfl⟩ <|
        .here rfl (.inr rfl)

theorem begins_scan_take_twoParts :
    twoParts.take 2 = [0xFF, 0xD8] ∧ Scan.Stops twoParts.length Scan.start twoParts ∧
      (∀ n, 2 ≤ n → n ≤ twoParts.length → ∃ cut whole,
        Yields (scan (twoParts.take n) false) Scan.start () cut ∧
          Yields (scan twoParts false) Scan.start () whole ∧ cut.Begins whole) ∧
      ∃ whole, Yields (scan twoParts false) Scan.start () whole ∧ ∀ rest,
        Yields (scan (twoParts.take whole.position ++ rest) false) Scan.start () whole :=
  ⟨rfl, stops_twoParts, (begins_scan_take rfl).1, (begins_scan_take rfl).2 stops_twoParts⟩

end ImageMetadata.Jpeg
