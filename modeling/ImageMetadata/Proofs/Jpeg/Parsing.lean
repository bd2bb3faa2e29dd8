import ImageMetadata.Proofs.Jpeg.Grammar

/-!
# All bytes as items

Any bytes are items up to a place where no item stands: a marker that stops the search, or the end
of the bytes before a marker or inside of a segment. The search takes the items and ends at that
place; a strict search may fail earlier, at a damaged header.
-/

namespace ImageMetadata.Jpeg

variable {bytes tail : Bytes}

/-- Bytes with filler in front, and behind it a marker or at most fill bytes. -/
inductive Begins : Bytes → Prop
  | noMarker {filler : Bytes} (filled : IsFiller filler) (fill : Nat) :
      Begins (filler ++ List.replicate fill 0xFF)
  | marker {filler : Bytes} (filled : IsFiller filler) (fill : Nat) {marker : Marker}
      (zero : marker ≠ 0) (ff : marker ≠ 0xFF) (rest : Bytes) :
      Begins (filler ++ List.replicate (fill + 1) 0xFF ++ marker :: rest)

/-- One more byte FF before filler is filler as well, or fill, or the byte before a marker. -/
theorem IsFiller.cons_ff {filler : Bytes} (h : IsFiller filler) :
    IsFiller (0xFF :: filler) ∨ filler = [] ∨
      ∃ b rest, filler = b :: rest ∧ b ≠ 0 ∧ b ≠ 0xFF := by
  cases h with
  | nil => exact .inr (.inl rfl)
  | @plain b rest other filler =>
      by_cases zero : b = 0
      · subst zero
        exact .inl (.stuffed 0 filler)
      · exact .inr (.inr ⟨b, rest, rfl, zero, other⟩)
  | stuffed more filler => exact .inl (.stuffed (more + 1) filler)

/-- Any bytes begin so. -/
theorem begins (bytes : Bytes) : Begins bytes := by
  induction bytes with
  | nil => exact .noMarker .nil 0
  | cons b rest ih =>
      by_cases ff : b = 0xFF
      · subst ff
        cases ih with
        | @noMarker filler filled fill =>
            rcases filled.cons_ff with longer | rfl | ⟨b, rest, rfl, zero, other⟩
            · exact .noMarker longer fill
            · exact .noMarker .nil (fill + 1)
            · exact .marker .nil 0 zero other (rest ++ List.replicate fill 0xFF)
        | @marker filler filled fill marker zero other rest =>
            rcases filled.cons_ff with longer | rfl | ⟨b, middle, rfl, zero', other'⟩
            · exact .marker longer fill zero other rest
            · exact .marker .nil (fill + 1) zero other rest
            · rw [List.append_assoc, List.cons_append]
              exact .marker .nil 0 zero' other' _
      · cases ih with
        | noMarker filled fill => exact .noMarker (.plain ff filled) fill
        | marker filled fill zero other rest => exact .marker (.plain ff filled) fill zero other rest

/-- What stands behind a marker ends inside of its segment. -/
inductive IsInside : Bytes → Prop
  | length {part : Bytes} (short : part.length < 2) : IsInside part
  | payload {a b : UInt8} {part : Bytes}
      (short : part.length + 2 < ByteOrder.big.unsigned [a, b]) : IsInside (a :: b :: part)

/-- Bytes that end before a marker or inside of a segment. -/
inductive IsCut : Bytes → Prop
  | beforeMarker {filler : Bytes} (filled : IsFiller filler) (fill : Nat) :
      IsCut (filler ++ List.replicate fill 0xFF)
  | insideSegment {filler : Bytes} (filled : IsFiller filler) (fill : Nat) {marker : Marker}
      (begins : marker.beginsSegment = true) {part : Bytes} (inside : IsInside part) :
      IsCut (filler ++ List.replicate (fill + 1) 0xFF ++ marker :: part)

/-- Bytes at which the search ends, since they are cut or begin with a marker that stops it. -/
inductive IsFinal : Bytes → Prop
  | cut {bytes : Bytes} (cut : IsCut bytes) : IsFinal bytes
  | stop {filler : Bytes} (filled : IsFiller filler) (fill : Nat) {marker : Marker}
      (stops : marker = Marker.sos ∨ marker = Marker.eoi) (rest : Bytes) :
      IsFinal (filler ++ List.replicate (fill + 1) 0xFF ++ marker :: rest)

/-- A marker stands alone, stops the search, or begins a segment. -/
theorem Marker.sorts {marker : Marker} (zero : marker ≠ 0) (ff : marker ≠ 0xFF) :
    marker.standsAlone = true ∨ (marker = sos ∨ marker = eoi) ∨ marker.beginsSegment = true := by
  by_cases alone : marker.standsAlone = true
  · exact .inl alone
  by_cases stops : marker = sos ∨ marker = eoi
  · exact .inr (.inl stops)
  · rw [not_or] at stops
    exact .inr (.inr (Marker.beginsSegment_iff.2
      ⟨zero, ff, Bool.eq_false_iff.2 alone, stops.1, stops.2⟩))

/-- Two bytes are the length field of the number that they store. -/
theorem lengthField (a b : UInt8) :
    ByteOrder.big.unsignedBytes 2 (ByteOrder.big.unsigned [a, b]) = [a, b] :=
  ByteOrder.unsignedBytes_unsigned .big [a, b]

/-- Behind a marker that begins a segment an element stands, or the bytes are cut. -/
theorem exists_element {marker : Marker} (begins : marker.beginsSegment = true) (rest : Bytes) :
    (∃ (e : Element) (after : Bytes), e.IsWellFormed ∧
      marker :: rest = e.marker :: e.body ++ after) ∨ IsInside rest := by
  match rest with
  | [] => exact .inr (.length (by simp))
  | [_] => exact .inr (.length (by simp))
  | a :: b :: part =>
      by_cases small : ByteOrder.big.unsigned [a, b] < 2
      · refine .inl ⟨.damaged marker (ByteOrder.big.unsigned [a, b]), part, ⟨begins, small⟩, ?_⟩
        simp [Element.marker, Element.body, lengthField]
      by_cases short : part.length + 2 < ByteOrder.big.unsigned [a, b]
      · exact .inr (.payload short)
      obtain ⟨payload, after, rfl, length⟩ := Bytes.exists_append
        (show ByteOrder.big.unsigned [a, b] - 2 ≤ part.length by omega)
      have declared : payload.length + 2 = ByteOrder.big.unsigned [a, b] := by omega
      have fits : ByteOrder.big.unsigned [a, b] < Bytes.capacity 2 :=
        ByteOrder.big.unsigned_lt [a, b]
      refine .inl ⟨.segment marker payload, after, ⟨begins, ?_⟩, ?_⟩
      · have : Bytes.capacity 2 = 65536 := rfl
        omega
      · simp [Element.marker, Element.body, declared, lengthField]

/-- Any bytes begin with an item, or the search ends there. -/
theorem exists_item (bytes : Bytes) :
    (∃ (i : Item) (rest : Bytes), i.IsWellFormed ∧ bytes = i.bytes ++ rest) ∨ IsFinal bytes := by
  cases begins bytes with
  | noMarker filled fill => exact .inr (.cut (.beforeMarker filled fill))
  | @marker filler filled fill marker zero ff rest =>
      have item {e : Element} {after : Bytes} (wellFormed : e.IsWellFormed)
          (split : marker :: rest = e.marker :: e.body ++ after) :
          ∃ (i : Item) (rest' : Bytes), i.IsWellFormed ∧
            filler ++ List.replicate (fill + 1) 0xFF ++ marker :: rest = i.bytes ++ rest' :=
        ⟨⟨filler, fill, e⟩, after, ⟨filled, wellFormed⟩, by simp [Item.bytes, split]⟩
      rcases Marker.sorts zero ff with alone | stops | begins
      · exact .inl (item (e := .alone marker) alone rfl)
      · exact .inr (.stop filled fill stops rest)
      · rcases exists_element begins rest with ⟨e, after, wellFormed, split⟩ | inside
        · exact .inl (item wellFormed split)
        · exact .inr (.cut (.insideSegment filled fill begins inside))

theorem Item.length_bytes_pos (i : Item) : 0 < i.bytes.length := by
  simp only [Item.bytes, List.length_append, List.length_replicate]
  omega

/-- Any bytes are items up to where the search ends. -/
theorem exists_items (bytes : Bytes) :
    ∃ (items : List Item) (tail : Bytes), (∀ i ∈ items, i.IsWellFormed) ∧ IsFinal tail ∧
      bytes = items.flatMap Item.bytes ++ tail := by
  induction size : bytes.length using Nat.strongRecOn generalizing bytes with
  | ind n ih =>
      rcases exists_item bytes with ⟨i, rest, wellFormed, rfl⟩ | final
      · have shorter : rest.length < n := by
          have := i.length_bytes_pos
          rw [List.length_append] at size
          omega
        obtain ⟨items, tail, others, final, rfl⟩ := ih rest.length shorter rest rfl
        exact ⟨i :: items, tail, List.forall_mem_cons.2 ⟨wellFormed, others⟩, final, by simp⟩
      · exact ⟨[], bytes, by simp, final, rfl⟩

namespace Scan

open ImageMetadata.Action (Runs Warns Fails Yields)

variable {s : Scan} {strict : Bool} {size : Nat}

/-- A segment that is cut ends the search, and nothing of it is kept. -/
theorem runs_takeSegment_cut (strict : Bool) (marker : Marker) (position : Nat) {part : Bytes}
    (inside : IsInside part) :
    ∃ position', Runs (takeSegment strict marker position part) s none
      { s with position := position' } := by
  cases inside with
  | length short =>
      match part with
      | [] => exact ⟨s.position, (Runs.trace _).bind (.pure none)⟩
      | [_] => exact ⟨s.position, (Runs.trace _).bind (.pure none)⟩
      | _ :: _ :: _ =>
          rw [List.length_cons, List.length_cons] at short
          omega
  | payload short =>
      refine ⟨position + 2, ?_⟩
      simp only [takeSegment]
      apply (Runs.update _).bind
      rw [if_neg (by omega)]
      apply (Runs.when_trace _ _).bind
      rw [if_pos (by omega)]
      exact (Runs.trace _).bind (.pure none)

/-- Where the bytes are cut there is no marker, or one at whose segment the search ends. -/
theorem next?_cut {tail : Bytes} (cut : IsCut tail) (room : tail.length ≤ size) (s : Scan)
    (strict : Bool) :
    next? false 0 tail = none ∨ ∃ found, next? false 0 tail = some found ∧
      found.marker.beginsSegment = true ∧
      ∃ position, Runs (step strict size found) s none { s with position := position } := by
  cases cut with
  | beforeMarker filled fill => exact .inl (next?_end filled fill 0)
  | @insideSegment _ filled fill marker begins part inside =>
      obtain ⟨zero, ff, _⟩ := Marker.beginsSegment_iff.1 begins
      obtain ⟨skipped, found⟩ := next?_marker filled fill 0 part zero ff
      have total : size = size - part.length - 2 + 2 + part.length := by
        simp only [List.length_append, List.length_replicate, List.length_cons] at room
        omega
      obtain ⟨position, taken⟩ := runs_takeSegment_cut
        (s := { s with position := size - part.length - 2 + 2 }) strict marker _ inside
      exact .inr ⟨_, found, begins, position,
        (warns_step_of_beginsSegment begins total taken.warns).runs⟩

/-- Where the bytes are cut the search ends. -/
theorem runs_search_cut (s : Scan) (strict : Bool) {tail : Bytes} (cut : IsCut tail)
    (room : tail.length ≤ size) :
    ∃ position, Runs (search strict size tail) s ()
      { s with position := position, done := true } := by
  rcases next?_cut cut room s strict with none | ⟨found, next, _, position, stopped⟩
  · exact ⟨size, runs_search_of_none none⟩
  · rw [search_of_some next]
    exact ⟨position, stopped.bind (.update _)⟩

theorem runs_search_final (s : Scan) (strict : Bool) {tail : Bytes} (final : IsFinal tail)
    (room : tail.length ≤ size) :
    ∃ position, Runs (search strict size tail) s ()
      { s with position := position, done := true } := by
  cases final with
  | cut cut => exact runs_search_cut s strict cut room
  | stop filled fill stops rest => exact ⟨_, runs_search_stop filled fill stops rest⟩

/-- A strict search fails at a damaged header, and nothing is kept of it. -/
theorem fails_search_item {start : Nat} {i : Item} {rest : Bytes} (wellFormed : i.IsWellFormed)
    (damaged : ¬ i.element.IsSound) (total : size = start + (i.bytes ++ rest).length) :
    ∃ p position, Fails (search true size (i.bytes ++ rest)) s p { s with position := position } := by
  obtain ⟨skipped, found, room⟩ := next?_item wellFormed total
  rw [search_of_some found]
  obtain ⟨filler, fill, element⟩ := i
  cases element with
  | alone marker => exact absurd trivial damaged
  | segment marker payload => exact absurd trivial damaged
  | damaged marker length => exact ⟨_, _, (fails_step wellFormed.element room).bind⟩

/-- What a search leaves behind, however it ends: items were taken from the first one on. If it does
not fail it is done. -/
structure Took (s : Scan) (start : Nat) (items : List Item) (run : Outcome Unit × Scan) : Prop where
  state_eq : ∃ position done, run.2 = { s.afterAll start items with position, done }
  done_of_ok (u : Unit) : run.1.result = .ok u → run.2.done = true

/-- Of items up to where the search ends it takes all, or those before a damaged header. -/
theorem exists_took (s : Scan) (strict : Bool) (start : Nat) {items : List Item} {tail : Bytes}
    (wellFormed : ∀ i ∈ items, i.IsWellFormed) (final : IsFinal tail)
    (total : size = start + (items.flatMap Item.bytes ++ tail).length) :
    ∃ taken, taken <+: items ∧
      s.Took start taken ((search strict size (items.flatMap Item.bytes ++ tail)).run s) := by
  induction items generalizing s start with
  | nil =>
      obtain ⟨position, ended⟩ := runs_search_final s strict final
        (show tail.length ≤ size by rw [total]; exact Nat.le_add_left _ _)
      refine ⟨[], List.nil_prefix, ⟨position, true, ended.state_eq⟩, fun _ _ => ?_⟩
      rw [List.flatMap_nil, List.nil_append, ended.state_eq]
  | cons i rest ih =>
      rw [List.flatMap_cons, List.append_assoc] at total ⊢
      have wellFormed' := wellFormed i (by simp)
      -- A strict search fails at the first damaged header, and takes nothing behind it.
      by_cases stops : strict = true ∧ ¬ i.element.IsSound
      · obtain ⟨rfl, damaged⟩ := stops
        obtain ⟨p, position, failed⟩ := fails_search_item (s := s) wellFormed' damaged total
        refine ⟨[], List.nil_prefix, ⟨position, s.done, failed.state_eq⟩, fun _ ok => ?_⟩
        cases failed.result_eq.symm.trans ok
      · have tolerant : strict = true → i.element.IsSound :=
          fun strictly => Classical.not_not.1 fun damaged => stops ⟨strictly, damaged⟩
        obtain ⟨skipped, found, room⟩ := next?_item wellFormed' total
        obtain ⟨left, taken, same⟩ := warns_step s skipped wellFormed'.element tolerant room
        obtain ⟨others, first, state, done⟩ := ih (s := s.after (i.offset start) i.element)
          (start + i.bytes.length) (fun j member => wellFormed j (by simp [member]))
          (by rw [total, List.length_append, Nat.add_assoc])
        refine ⟨i :: others, List.cons_prefix_cons.2 ⟨rfl, first⟩, ?_, ?_⟩
        · rw [search_of_some found, taken.yields.run_bind_snd]
          dsimp only
          rw [same]
          exact state
        · rw [search_of_some found, taken.yields.run_bind_snd, taken.yields.result_bind]
          dsimp only
          rw [same]
          exact done

end Scan

end ImageMetadata.Jpeg
