import ImageMetadata.Cursor
import ImageMetadata.Proofs.Yields

/-!
# What is kept

A property that an action keeps true of the state, or a reading of the cursor, holds at the end
however it ends. Sequences keep what their parts keep. A reading that only moves the cursor leaves
no trace where it is restored.
-/

namespace ImageMetadata

open Cursor

variable {α β σ : Type}

namespace Action

/-- From a state with a property, the action leaves one with it, however it ends. -/
def Keeps (P : σ → Prop) (x : Action σ α) : Prop := ∀ s, P s → P (x.run s).2

namespace Keeps

variable {P : σ → Prop} {x : Action σ α} {f : α → Action σ β}

protected theorem pure (a : α) : Keeps P (pure a) := fun _ holds => holds

protected theorem lift (x : Outcome α) : Keeps P (Action.lift x) := fun _ holds => holds

protected theorem require (c : Bool) (p : Problem) : Keeps P (Action.require c p) := .lift _

protected theorem update {change : σ → σ} (h : ∀ s, P s → P (change s)) :
    Keeps P (Action.update change) := h

protected theorem when {x : Action σ Unit} (c : Bool) (h : Keeps P x) :
    Keeps P (Action.when c x) := by
  cases c with
  | false => exact .pure ()
  | true => exact h

/-- What follows only has to keep the property for results that the first part may yield. -/
theorem bind_of_yields (h : Keeps P x) (k : ∀ s a t, Yields x s a t → Keeps P (f a)) :
    Keeps P (x >>= f) := by
  intro s holds
  rw [run_bind_snd]
  cases result : (x.run s).1.result with
  | error p => exact h s holds
  | ok a => exact k s a _ ⟨result, rfl⟩ _ (h s holds)

protected theorem bind (h : Keeps P x) (k : ∀ a, Keeps P (f a)) : Keeps P (x >>= f) :=
  h.bind_of_yields fun _ a _ _ => k a

/-- What follows a requirement may use that it is met. -/
theorem require_bind {f : Unit → Action σ β} {c : Bool} {p : Problem}
    (h : c = true → Keeps P (f ())) : Keeps P (Action.require c p >>= f) :=
  (Keeps.require c p).bind_of_yields fun _ _ _ met => h (Yields.require_iff.1 met).1

protected theorem state_bind {f : σ → Action σ β} (h : ∀ s, Keeps P (f s)) :
    Keeps P (state >>= f) :=
  fun s => h s s

end Keeps

end Action

namespace Reading

/-- The cursor that a reading leaves, whether or not it fails. -/
def final (x : Reading α) (c : Cursor) : Cursor :=
  match x.run c with
  | .ok _ d => d
  | .error _ d => d

/-- From a cursor with a property, the reading leaves one with it, however it ends. -/
def Keeps (P : Cursor → Prop) (x : Reading α) : Prop := ∀ c, P c → P (x.final c)

namespace Keeps

variable {P : Cursor → Prop} {x : Reading α} {f : α → Reading β}

protected theorem pure (a : α) : Keeps P (pure a) := fun _ holds => holds

protected theorem throw (p : Problem) : Keeps P (throw p : Reading α) := fun _ holds => holds

protected theorem set {c : Cursor} (h : P c) : Keeps P (set c) := fun _ _ => h

protected theorem bind (h : Keeps P x) (k : ∀ a, Keeps P (f a)) : Keeps P (x >>= f) := by
  intro c holds
  have first := h c holds
  unfold final at first ⊢
  rw [EStateM.run_bind]
  cases run : x.run c with
  | error p d =>
      rw [run] at first
      exact first
  | ok a d =>
      rw [run] at first
      exact k a d first

protected theorem get_bind {f : Cursor → Reading β} (h : ∀ c, P c → Keeps P (f c)) :
    Keeps P (get >>= f) :=
  fun c holds => h c holds c holds

protected theorem require (c : Bool) (p : Problem) : Keeps P (Cursor.require c p) := by
  cases c with
  | false => exact .throw p
  | true => exact .pure ()

end Keeps

end Reading

namespace Cursor

/-- The second cursor is the first one with another position. -/
def IsMoved (c d : Cursor) : Prop := d = { c with position := d.position }

namespace IsMoved

variable {c d : Cursor}

theorem refl (c : Cursor) : IsMoved c c := rfl

theorem moveTo (h : IsMoved c d) (position : Nat) : IsMoved c { d with position := position } := by
  unfold IsMoved at h
  rw [h]
  rfl

theorem mark_eq (h : IsMoved c d) : d.mark = c.mark := by
  unfold IsMoved at h
  rw [h]

/-- A marked cursor that was moved is the one before it was marked, once it returns to the mark. -/
theorem return_eq (free : c.mark = none) (h : IsMoved { c with mark := some c.position } d) :
    { d with position := c.position, mark := none } = c := by
  obtain ⟨bytes, order, position, _⟩ := c
  obtain rfl := free
  unfold IsMoved at h
  rw [h]

end IsMoved

end Cursor

namespace Reading.Keeps

variable {c : Cursor}

protected theorem seek (position : Int) : Keeps (IsMoved c) (seek position) := by
  refine .get_bind fun d moved => ?_
  split
  · exact .set (moved.moveTo _)
  · exact .throw _

protected theorem skip (count : Int) : Keeps (IsMoved c) (skip count) := by
  refine (Keeps.require _ _).bind fun _ => .get_bind fun d moved => ?_
  split
  · exact .set (moved.moveTo _)
  · exact .throw _

protected theorem read (count : Int) : Keeps (IsMoved c) (Cursor.read count) := by
  refine .get_bind fun d moved => Keeps.bind (.get_bind fun e _ => ?_) fun _ => ?_
  · split
    · exact .pure _
    · exact .throw _
  · exact (Keeps.set (moved.moveTo _)).bind fun _ => .pure _

protected theorem unsigned (width : Nat) : Keeps (IsMoved c) (Cursor.unsigned width) :=
  .get_bind fun _ _ => (Keeps.read width).bind fun _ => .pure _

/-- Where a reading that only moves the cursor is restored and ends well, it ends well itself. -/
theorem ok_of_restoring {x : Reading α} {d : Cursor} {a : α} (free : c.mark = none)
    (h : Keeps (IsMoved { c with mark := some c.position }) x)
    (read : (restoring x).run c = .ok a d) :
    ∃ e, x.run { c with mark := some c.position } = .ok a e := by
  have moved := h _ (IsMoved.refl _)
  unfold final at moved
  cases run : x.run { c with mark := some c.position } with
  | ok b e =>
      rw [run] at moved
      rw [run_restoring_of_ok free run moved.mark_eq] at read
      cases read
      exact ⟨e, rfl⟩
  | error p e =>
      rw [run] at moved
      rw [run_restoring_of_error free run moved.mark_eq] at read
      cases read

/-- A reading that only moves the cursor leaves no trace where it is restored. -/
protected theorem restoring {x : Reading α} (free : c.mark = none)
    (h : Keeps (IsMoved { c with mark := some c.position }) x) :
    Keeps (fun d => d = c) (restoring x) := by
  intro d same
  have moved := h _ (IsMoved.refl _)
  rw [same]
  unfold final at moved ⊢
  cases run : x.run { c with mark := some c.position } with
  | ok a d =>
      rw [run] at moved
      rw [run_restoring_of_ok free run moved.mark_eq]
      exact moved.return_eq free
  | error p d =>
      rw [run] at moved
      rw [run_restoring_of_error free run moved.mark_eq]
      exact moved.return_eq free

end Reading.Keeps

end ImageMetadata
