import ImageMetadata.Cursor

/-!
# Safe readings

A reading of untrusted bytes may only fail because of the bytes. It also has to leave the mark of
the cursor as it was, since only one mark fits into a cursor; a reading that returns to a marked
position releases the mark however it ends.
-/

namespace ImageMetadata.Reading

open Cursor

variable {α β : Type}

/-- From a cursor with some mark, the reading gives a result with a property or fails because of the
bytes; in both cases the cursor has the same mark at the end. -/
def Ends (mark : Option Nat) (x : Reading α) (P : α → Prop) : Prop :=
  ∀ c : Cursor, c.mark = mark →
    match x.run c with
    | .ok a d => P a ∧ d.mark = mark
    | .error p d => p.isStructural = true ∧ d.mark = mark

namespace Ends

variable {mark : Option Nat} {x : Reading α} {f : α → Reading β} {P : α → Prop} {Q : β → Prop}

protected theorem pure {a : α} (h : P a) : Ends mark (pure a) P := fun _ same => ⟨h, same⟩

protected theorem throw {p : Problem} (h : p.isStructural = true) :
    Ends mark (throw p : Reading α) P := fun _ same => ⟨h, same⟩

protected theorem bind (h : Ends mark x P) (k : ∀ a, P a → Ends mark (f a) Q) :
    Ends mark (x >>= f) Q := by
  intro c same
  have first := h c same
  rw [EStateM.run_bind]
  cases hx : x.run c with
  | error p d =>
      rw [hx] at first
      exact first
  | ok a d =>
      rw [hx] at first
      exact k a first.1 d first.2

protected theorem mono {P' : α → Prop} (h : Ends mark x P) (k : ∀ a, P a → P' a) :
    Ends mark x P' := by
  intro c same
  have ends := h c same
  cases hx : x.run c with
  | error p d =>
      rw [hx] at ends
      exact ends
  | ok a d =>
      rw [hx] at ends
      exact ⟨k a ends.1, ends.2⟩

protected theorem map {Q : β → Prop} (f : α → β) (h : Ends mark x fun a => Q (f a)) :
    Ends mark (f <$> x) Q := by
  rw [map_eq_pure_bind]
  exact h.bind fun a ha => .pure ha

protected theorem discard (h : Ends mark x P) : Ends mark (discard x) fun _ => True := by
  refine Ends.map _ (h.mono fun _ _ => ?_)
  trivial

/-- What follows a look at the cursor may use its mark. -/
protected theorem get_bind {f : Cursor → Reading β}
    (h : ∀ c : Cursor, c.mark = mark → Ends mark (f c) Q) : Ends mark (get >>= f) Q :=
  fun c same => h c same c same

protected theorem set {c : Cursor} (h : c.mark = mark) : Ends mark (set c) fun _ => True :=
  fun _ _ => ⟨trivial, h⟩

protected theorem require (c : Bool) {p : Problem} (h : p.isStructural = true) :
    Ends mark (Cursor.require c p) fun _ => c = true := by
  cases c with
  | false => exact .throw h
  | true => exact .pure rfl

/-- A requirement that is met cannot fail. -/
theorem require_of_true {c : Bool} (p : Problem) (h : c = true) :
    Ends mark (Cursor.require c p) fun _ => True := by
  rw [h]
  exact .pure trivial

variable (mark)

protected theorem seek (position : Int) : Ends mark (seek position) fun _ => True := by
  refine .get_bind fun c same => ?_
  split
  · exact .set same
  · exact .throw rfl

protected theorem skip (count : Nat) : Ends mark (skip count) fun _ => True := by
  refine (Ends.require_of_true _ ?_).bind fun _ _ => .get_bind fun c same => ?_
  · exact decide_eq_true (Int.natCast_nonneg count)
  split
  · exact .set same
  · exact .throw rfl

/-- What is read has the number of bytes that was asked for. -/
protected theorem read (count : Nat) :
    Ends mark (Cursor.read count) fun bytes => bytes.length = count := by
  refine .get_bind fun c same => ?_
  have peeked : Ends mark (peek c.position count) fun bytes => bytes.length = count := by
    refine .get_bind fun d _ => ?_
    split
    · rename_i inside
      have bounds := covers_iff.1 inside
      refine .pure (Bytes.slice_length_of_le ?_)
      unfold Cursor.size at bounds
      omega
    · exact .throw rfl
  exact peeked.bind fun bytes size => (Ends.set same).bind fun _ _ => .pure size

protected theorem unsigned (width : Nat) : Ends mark (Cursor.unsigned width) fun _ => True :=
  .get_bind fun _ _ => (Ends.read mark width).bind fun _ _ => .pure trivial

/-- A field can be read in each of the widths that locations of items may have. -/
protected theorem field {width : Nat} (h : width = 0 ∨ width = 4 ∨ width = 8) :
    Ends mark (Cursor.field width) fun _ => True := by
  rcases h with rfl | rfl | rfl
  · exact .pure trivial
  · exact Ends.unsigned mark 4
  · exact Ends.unsigned mark 8

protected theorem code : Ends mark Cursor.code fun _ => True :=
  (Ends.read mark 4).mono fun _ _ => trivial

variable {mark}

theorem collect (h : Ends mark x fun _ => True) (n : Nat) (found : List α) :
    Ends mark (Cursor.collect x n found) fun _ => True := by
  induction n generalizing found with
  | zero => exact .pure trivial
  | succ n ih => exact h.bind fun a _ => ih (a :: found)

protected theorem times (n : Nat) (h : Ends mark x fun _ => True) :
    Ends mark (times n x) fun _ => True :=
  (collect h n []).bind fun _ _ => .pure trivial

/-- A reading from a marked position releases the mark however it ends. -/
protected theorem restoring (h : ∀ position, Ends (some position) x P) :
    Ends none (restoring x) P := by
  intro c free
  have inner := h c.position { c with mark := some c.position } rfl
  cases hx : x.run { c with mark := some c.position } with
  | error p d =>
      rw [hx] at inner
      rw [run_restoring_of_error free hx inner.2]
      exact ⟨inner.1, rfl⟩
  | ok a d =>
      rw [hx] at inner
      rw [run_restoring_of_ok free hx inner.2]
      exact ⟨inner.1, rfl⟩

end Ends

/-- The result of a safe reading from the start of a byte string. -/
theorem Ends.decode {x : Reading α} {P : α → Prop} (h : Ends none x P) (bytes : Bytes) :
    match x.decode bytes with
    | .ok r => P r.1
    | .error p => p.isStructural = true := by
  have ends := h (Cursor.ofBytes bytes .big) rfl
  unfold Reading.decode
  cases hx : x.run (Cursor.ofBytes bytes .big) with
  | error p d =>
      rw [hx] at ends
      exact ends.1
  | ok a d =>
      rw [hx] at ends
      exact ends.1

end ImageMetadata.Reading
