import ImageMetadata.Proofs.Safety.Basic
import ImageMetadata.Tiff.File

/-!
# Safe reading of TIFF streams

A directory is read only after its whole body is known to be present, so every slot can be unpacked.
Each accepted type code has a field type, and the bytes of a value are taken in the size that the
type and the count ask for.
-/

namespace ImageMetadata.Tiff

open Outcome (Ends)

variable (bytes : Bytes) (strict : Bool)

theorem ends_unsignedAt (order : ByteOrder) (position width : Nat) :
    (Outcome.ofExcept (unsignedAt bytes order position width)).Ends fun _ => True := by
  unfold unsignedAt
  split
  · exact Ends.pure trivial
  · exact Ends.fail rfl

theorem Header.ends_read (base : Int) : (Header.read bytes base strict).Ends fun _ => True := by
  apply (Ends.require _ rfl).bind
  intro _ _
  dsimp only
  cases Header.orderOfMark? (bytes.slice base.toNat 2) with
  | none => exact Ends.fail rfl
  | some order =>
      apply (ends_unsignedAt bytes order _ _).bind
      intro version _
      split
      · apply (ends_unsignedAt bytes order _ _).bind
        intro size _
        apply (ends_unsignedAt bytes order _ _).bind
        intro reserved _
        apply (Ends.require _ rfl).bind
        intro _ _
        exact (ends_unsignedAt bytes order _ _).bind fun first _ => Ends.pure trivial
      · apply (Ends.check strict _ rfl).bind
        intro _ _
        exact (ends_unsignedAt bytes order _ _).bind fun first _ => Ends.pure trivial

variable (h : Header) (id : DirectoryId)

/-- Every code that a stream may use has a field type. -/
theorem ofCode?_of_allows {code : Nat} (allowed : h.allows code = true) :
    ∃ type, FieldType.ofCode? code = some type := by
  have known : ∀ n < 19, 1 ≤ n ∧ n ≤ 13 ∨ 16 ≤ n ∧ n ≤ 18 →
      (FieldType.ofCode? n).isSome = true := by decide
  have range : 1 ≤ code ∧ code ≤ 13 ∨ 16 ≤ code ∧ code ≤ 18 := by
    simp only [Header.allows, Bool.or_eq_true, Bool.and_eq_true, decide_eq_true_eq] at allowed
    omega
  exact Option.isSome_iff_exists.1 (known code (by omega) range)

/-- The bytes of a value have the size that is asked for. -/
theorem length_of_locate {slot size offset : Nat} {raw : Bytes}
    (inside : slot + h.slotSize ≤ bytes.length)
    (located : locate bytes h slot size = .ok (offset, raw)) : raw.length = size := by
  have field : h.offsetSize ≤ h.slotSize := by
    unfold Header.offsetSize Header.slotSize
    split <;> decide
  simp only [locate] at located
  split at located
  · cases located
    exact Bytes.slice_length_of_le (by omega)
  split at located
  · cases located
    exact Bytes.slice_length_of_le ‹_›
  · cases located

/-- A slot that lies inside the bytes can be unpacked. -/
theorem ends_readSlot {slot : Nat} (inside : slot + h.slotSize ≤ bytes.length) :
    (readSlot bytes h strict id slot).Ends fun _ => True := by
  have whole : ((bytes.slice slot h.slotSize).length == h.slotSize) = true :=
    beq_iff_eq.2 (Bytes.slice_length_of_le inside)
  apply (Ends.require_of_true _ whole).bind
  intro _ _
  dsimp only
  cases id.family.name? (h.order.unsigned (bytes.slice slot 2)) with
  | none => exact (Ends.flag strict rfl).bind fun _ _ => Ends.pure trivial
  | some name =>
      dsimp only
      split
      · exact (Ends.flag strict rfl).bind fun _ _ => Ends.pure trivial
      · rename_i allowed
        obtain ⟨type, known⟩ := ofCode?_of_allows h (by simpa using allowed)
        rw [known]
        dsimp only
        cases located : locate bytes h slot
            (type.size * h.order.unsigned (bytes.slice (slot + 4) h.offsetSize)) with
        | error offset => exact (Ends.flag strict (by rfl)).bind fun _ _ => Ends.pure trivial
        | ok found =>
            obtain ⟨offset, raw⟩ := found
            dsimp only
            rw [dif_pos (length_of_locate bytes h inside located)]
            exact Ends.pure trivial

theorem Entry.ends_targets (e : Entry) : (e.targets strict).Ends fun _ => True := by
  simp only [Entry.targets]
  cases Pointer.ofTag? e.tag with
  | none => exact Ends.pure trivial
  | some pointer =>
      dsimp only
      split
      · cases pointer with
        | fixed id => exact Ends.pure trivial
        | subIfd => exact Ends.pure trivial
      · exact (Ends.flag strict rfl).bind fun _ _ => Ends.pure trivial

theorem ends_readEntry {slot : Nat} (inside : slot + h.slotSize ≤ bytes.length) :
    (readEntry bytes h strict id slot).Ends fun _ => True := by
  apply (ends_readSlot bytes strict h id inside).bind
  intro e _
  cases e with
  | none => exact Ends.pure trivial
  | some e => exact (e.ends_targets strict).bind fun links _ => Ends.pure trivial

theorem ends_readNext (position : Nat) : (readNext bytes h id position).Ends fun _ => True := by
  unfold readNext
  split
  · exact Ends.pure trivial
  · exact (Ends.of_silent rfl).bind fun _ _ => Ends.pure trivial

/-- Every slot of a body that is present lies inside the bytes. -/
theorem slot_inside {start count slot : Nat} (body : start + count * h.slotSize ≤ bytes.length)
    (member : slot ∈ slots h start count) : slot + h.slotSize ≤ bytes.length := by
  simp only [slots, List.mem_map, List.mem_range] at member
  obtain ⟨i, below, rfl⟩ := member
  calc start + i * h.slotSize + h.slotSize = start + (i + 1) * h.slotSize := by
        rw [Nat.succ_mul, Nat.add_assoc]
    _ ≤ start + count * h.slotSize := by
        exact Nat.add_le_add_left (Nat.mul_le_mul_right _ below) _
    _ ≤ bytes.length := body

theorem ends_readContents (position : Nat) :
    (readContents bytes h strict id position).Ends fun _ => True := by
  apply (Ends.require _ rfl).bind
  intro _ _
  apply (ends_unsignedAt bytes _ _ _).bind
  intro count _
  apply (Ends.require _ rfl).bind
  intro _ body
  have body := of_decide_eq_true body
  refine (Ends.mapM (P := fun _ => True) _ fun slot member => ?_).bind fun found _ => ?_
  · exact ends_readEntry bytes strict h id (slot_inside bytes h body member)
  · exact (ends_readNext bytes h id _).bind fun next _ => Ends.pure trivial

namespace Source

variable (s : Source) (w : Walk) (t : Task)

theorem ends_follow (offset : Nat) : (s.follow t id offset).Ends fun _ => True := by
  simp only [follow]
  split
  · exact Ends.pure trivial
  split
  · cases id.next with
    | none => exact (Ends.flag s.strict rfl).bind fun _ _ => Ends.pure trivial
    | some next => exact Ends.pure trivial
  · split
    · exact Ends.pure trivial
    · exact (Ends.of_silent rfl).bind fun _ _ => Ends.pure trivial

theorem ends_open? : (s.open? w t id).Ends fun _ => True := by
  have contents : (some <$> readContents s.bytes s.header s.strict id (s.position t)).Ends
      fun _ => True :=
    (ends_readContents s.bytes s.strict s.header id (s.position t)).map some
  simp only [open?]
  split
  · exact contents
  · exact contents.rescue fun cause => (Ends.flag s.strict rfl).bind fun _ _ => Ends.pure trivial

theorem ends_visit : (s.visit w t).Ends fun _ => True := by
  simp only [visit]
  rcases hw : s.accept w t with ⟨p | id, w'⟩
  · exact (Ends.flag s.strict (structural_of_accept hw)).bind fun _ _ => Ends.pure trivial
  · apply (ends_open? id s w' t).bind
    intro contents? _
    cases contents? with
    | none => exact Ends.pure trivial
    | some contents =>
        apply (Ends.of_silent rfl).bind
        intro _ _
        exact (ends_follow id s t contents.next).bind fun last _ => Ends.pure trivial

theorem ends_walk (stack : List Task) : (s.walk w stack).Ends fun _ => True := by
  induction w, stack using walk.induct s with
  | case1 w =>
      rw [walk_nil]
      exact Ends.pure trivial
  | case2 w t stack events p failed =>
      have visit := s.ends_visit w t
      rw [walk_cons, failed, Outcome.bind_of_error _ rfl]
      rw [failed] at visit
      exact visit
  | case3 w t stack events w' tasks visited ih =>
      rw [walk_cons, visited, Outcome.bind_of_ok _ rfl]
      exact ih

end Source

/-- Reading a stream only fails for a reason that is about its bytes. -/
theorem Stream.ends_read (base limit : Int) :
    (Stream.read bytes base strict limit).Ends fun _ => True := by
  apply (Header.ends_read bytes strict base).bind
  intro header _
  apply (Ends.require _ rfl).bind
  intro _ _
  exact (Source.ends_walk _ _ _).bind fun w _ => Ends.pure trivial

end ImageMetadata.Tiff
