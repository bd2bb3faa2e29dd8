import ImageMetadata.Outcome

/-!
# Notices of an outcome

The warnings of a reader are of two sorts. An integrity warning stands for a problem that a strict
reader would have failed with; the other ones tell that a text or an XMP packet has no decoded form.
-/

namespace ImageMetadata

variable {α β σ : Type}

/-- The problem that an integrity warning is about. -/
def Event.integrity? : Event → Option Problem
  | .notice (.integrity p) => some p
  | _ => none

/-- The warning of an event, unless it is about integrity. -/
def Event.remark? : Event → Option Notice
  | .notice (.integrity _) | .trace _ => none
  | .notice n => some n

namespace Outcome

/-- The problems that were reported as integrity warnings, in order. -/
def integrity (x : Outcome α) : List Problem := x.events.filterMap Event.integrity?

/-- The problems that a reader met, in order: those that it warned of, and last the one that it failed
with, if it did. -/
def problems (x : Outcome α) : List Problem :=
  x.integrity ++
    match x.result with
    | .ok _ => []
    | .error p => [p]

/-- The other warnings, in order. -/
def remarks (x : Outcome α) : List Notice := x.events.filterMap Event.remark?

theorem integrity_bind_of_ok {x : Outcome α} {a : α} (f : α → Outcome β) (h : x.result = .ok a) :
    (x >>= f).integrity = x.integrity ++ (f a).integrity := by
  rw [bind_of_ok f h]
  exact List.filterMap_append

theorem integrity_bind_of_error {x : Outcome α} {p : Problem} (f : α → Outcome β)
    (h : x.result = .error p) : (x >>= f).integrity = x.integrity := by
  rw [bind_of_error f h]
  rfl

/-- What was reported before does not take the place of a later problem. -/
theorem problems_append (events : List Event) (x : Outcome α) :
    problems ⟨events ++ x.events, x.result⟩ = events.filterMap Event.integrity? ++ x.problems := by
  simp [problems, integrity]

theorem problems_bind_of_ok {x : Outcome α} {a : α} (f : α → Outcome β) (h : x.result = .ok a) :
    (x >>= f).problems = x.integrity ++ (f a).problems := by
  rw [bind_of_ok f h]
  exact problems_append x.events (f a)

theorem problems_bind_pure (x : Outcome α) (f : α → β) :
    (x >>= fun a => pure (f a)).problems = x.problems := by
  rcases x with ⟨events, p | a⟩
  · rfl
  · rw [problems_bind_of_ok _ rfl]
    rfl

/-- A flag meets its problem, whether it fails or warns. -/
theorem problems_flag (strict : Bool) (p : Problem) : (flag strict p).problems = [p] := by
  cases strict <;> rfl

/-- Where a sequence reports nothing, its first part does not either. -/
theorem integrity_eq_nil_of_bind {x : Outcome α} {f : α → Outcome β}
    (h : (x >>= f).integrity = []) : x.integrity = [] := by
  cases hx : x.result with
  | ok a =>
      rw [integrity_bind_of_ok f hx] at h
      exact (List.append_eq_nil_iff.1 h).1
  | error p => rwa [integrity_bind_of_error f hx] at h

end Outcome

end ImageMetadata
