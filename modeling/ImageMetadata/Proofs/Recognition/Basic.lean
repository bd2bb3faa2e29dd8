import ImageMetadata.Cursor
import ImageMetadata.Outcome

/-!
# Recognized bytes

A reader recognizes bytes if it does not fail because they are of another format; it may fail for
any other reason. A sequence recognizes what its parts recognize. A handler takes over every failure
of this kind, so only the handler matters.
-/

namespace ImageMetadata

variable {α β γ σ : Type}

/-- The problem is not that the bytes are of another format. -/
def Problem.IsOwn (p : Problem) : Prop := p.kind ≠ .notThisFormat

/-- Whatever is not about the bytes of a file is not about their format. -/
theorem Problem.isOwn_of_not_structural {p : Problem} (h : p.isStructural = false) : p.IsOwn := by
  intro foreign
  rw [isStructural, foreign] at h
  cases h

namespace Outcome

/-- The reader does not find that the bytes are of another format. -/
def Recognizes (x : Outcome α) : Prop := ∀ p, x.result = .error p → p.IsOwn

namespace Recognizes

variable {x : Outcome α} {f : α → Outcome β}

theorem of_ok {a : α} (h : x.result = .ok a) : x.Recognizes := by
  intro p failed
  rw [h] at failed
  cases failed

protected theorem pure (a : α) : Recognizes (pure a) := of_ok rfl

protected theorem trace (t : Trace) : Recognizes (trace t) := of_ok rfl

protected theorem notify (n : Notice) : Recognizes (notify n) := of_ok rfl

protected theorem fail {p : Problem} (h : p.IsOwn) : Recognizes (Outcome.fail p : Outcome α) := by
  intro q failed
  cases failed
  exact h

protected theorem flag (strict : Bool) {p : Problem} (h : p.IsOwn) :
    Recognizes (flag strict p) := by
  cases strict with
  | false => exact .notify _
  | true => exact .fail h

protected theorem require (c : Bool) {p : Problem} (h : p.IsOwn) : Recognizes (require c p) := by
  cases c with
  | false => exact .fail h
  | true => exact .pure ()

protected theorem check (strict c : Bool) {p : Problem} (h : p.IsOwn) :
    Recognizes (check strict c p) := by
  cases c with
  | false => exact .flag strict h
  | true => exact .pure ()

protected theorem bind (h : x.Recognizes) (k : ∀ a, (f a).Recognizes) : (x >>= f).Recognizes := by
  intro p failed
  cases result : x.result with
  | error q =>
      rw [bind_of_error f result] at failed
      cases failed
      exact h p result
  | ok a =>
      rw [bind_of_ok f result] at failed
      exact k a p failed

/-- After a flagged problem a lenient reader goes on with a default. -/
theorem flag_pure (strict : Bool) {p : Problem} (h : p.IsOwn) (a : α) :
    Recognizes (do flag strict p; return a) := (Recognizes.flag strict h).bind fun _ => .pure a

protected theorem map (h : x.Recognizes) (f : α → β) : (f <$> x).Recognizes := by
  rw [map_eq_pure_bind]
  exact h.bind fun a => .pure (f a)

protected theorem mapM {f : γ → Outcome α} (h : ∀ c, (f c).Recognizes) (list : List γ) :
    (list.mapM f).Recognizes := by
  induction list with
  | nil => exact .pure []
  | cons c rest ih =>
      rw [List.mapM_cons]
      exact (h c).bind fun a => ih.bind fun as => .pure (a :: as)

/-- Only problems with the bytes are handled, and other ones do not matter here. -/
protected theorem rescue {handle : Problem → Outcome α} (k : ∀ p, (handle p).Recognizes) :
    (x.rescue handle).Recognizes := by
  intro p failed
  unfold Outcome.rescue at failed
  split at failed
  · rename_i ended
    rw [ended] at failed
    cases failed
  · rename_i q ended
    split at failed
    · exact k q p failed
    · rename_i other
      rw [ended] at failed
      cases failed
      exact Problem.isOwn_of_not_structural (Bool.eq_false_iff.2 other)

end Recognizes

end Outcome

namespace Action

/-- The same for a reader with a state, from whatever state. -/
def Recognizes (x : Action σ α) : Prop := ∀ s, (x.run s).1.Recognizes

namespace Recognizes

variable {x : Action σ α} {f : α → Action σ β}

protected theorem pure (a : α) : Recognizes (pure a : Action σ α) := fun _ => .pure a

protected theorem lift {x : Outcome α} (h : x.Recognizes) : Recognizes (lift x : Action σ α) :=
  fun _ => h

protected theorem trace (t : Trace) : Recognizes (lift (Outcome.trace t) : Action σ Unit) :=
  .lift (.trace t)

protected theorem fail {p : Problem} (h : p.IsOwn) : Recognizes (Action.fail p : Action σ α) :=
  .lift (.fail h)

protected theorem require (c : Bool) {p : Problem} (h : p.IsOwn) :
    Recognizes (Action.require c p : Action σ Unit) := .lift (.require c h)

/-- A requirement that is met cannot fail. -/
theorem require_of_true {c : Bool} (p : Problem) (h : c = true) :
    Recognizes (Action.require c p : Action σ Unit) := by
  subst h
  exact .lift (.pure ())

protected theorem update (change : σ → σ) : Recognizes (update change) := fun _ => .pure ()

protected theorem when {x : Action σ Unit} (c : Bool) (h : Recognizes x) :
    Recognizes (Action.when c x) := by
  cases c with
  | false => exact .pure ()
  | true => exact h

protected theorem bind (h : Recognizes x) (k : ∀ a, Recognizes (f a)) : Recognizes (x >>= f) := by
  intro s
  rw [run_bind_fst]
  exact (h s).bind fun a => k a _

protected theorem state_bind {f : σ → Action σ β} (h : ∀ s, Recognizes (f s)) :
    Recognizes (state >>= f) := fun s => h s s

protected theorem map (h : Recognizes x) (f : α → β) : Recognizes (f <$> x) := by
  rw [map_eq_pure_bind]
  exact h.bind fun a => .pure (f a)

protected theorem each {f : γ → Action σ Unit} (h : ∀ c, Recognizes (f c)) (list : List γ) :
    Recognizes (each f list) := by
  induction list with
  | nil => exact .pure ()
  | cons c rest ih => exact (h c).bind fun _ => ih

end Recognizes

end Action

namespace Reading

open Cursor

/-- The same for a reading, from whatever cursor. -/
def Recognizes (x : Reading α) : Prop := ∀ c d p, x.run c = .error p d → p.IsOwn

namespace Recognizes

variable {x : Reading α} {f : α → Reading β}

protected theorem pure (a : α) : Recognizes (pure a : Reading α) := fun _ _ _ => nofun

protected theorem throw {p : Problem} (h : p.IsOwn) : Recognizes (throw p : Reading α) := by
  intro c d q failed
  cases failed
  exact h

protected theorem set (c : Cursor) : Recognizes (set c : Reading Unit) := fun _ _ _ => nofun

protected theorem bind (h : Recognizes x) (k : ∀ a, Recognizes (f a)) : Recognizes (x >>= f) := by
  intro c d p failed
  rw [EStateM.run_bind] at failed
  cases run : x.run c with
  | error q e =>
      rw [run] at failed
      cases failed
      exact h c d p run
  | ok a e =>
      rw [run] at failed
      exact k a e d p failed

protected theorem get_bind {f : Cursor → Reading β} (h : ∀ c, Recognizes (f c)) :
    Recognizes (get >>= f) := fun c => h c c

protected theorem require (c : Bool) {p : Problem} (h : p.IsOwn) :
    Recognizes (Cursor.require c p) := by
  cases c with
  | false => exact .throw h
  | true => exact .pure ()

protected theorem seek (position : Int) : Recognizes (seek position) := by
  refine .get_bind fun c => ?_
  split
  · exact .set _
  · exact .throw (by nofun)

protected theorem skip (count : Int) : Recognizes (skip count) := by
  refine (Recognizes.require _ (by nofun)).bind fun _ => .get_bind fun c => ?_
  split
  · exact .set _
  · exact .throw (by nofun)

protected theorem peek (position count : Int) : Recognizes (peek position count) := by
  refine .get_bind fun c => ?_
  split
  · exact .pure _
  · exact .throw (by nofun)

protected theorem read (count : Int) : Recognizes (Cursor.read count) :=
  .get_bind fun _ => (Recognizes.peek _ _).bind fun _ => (Recognizes.set _).bind fun _ => .pure _

protected theorem unsigned (width : Nat) : Recognizes (Cursor.unsigned width) :=
  .get_bind fun _ => (Recognizes.read width).bind fun _ => .pure _

protected theorem setMark : Recognizes setMark := by
  refine .get_bind fun c => ?_
  split
  · exact .throw (by nofun)
  · exact .set _

protected theorem returnToMark : Recognizes returnToMark := by
  refine .get_bind fun c => ?_
  split
  · exact .set _
  · exact .throw (by nofun)

/-- A reading with a last step fails in the reading or in that step. -/
protected theorem tryFinally {last : Reading Unit} (h : Recognizes x) (k : Recognizes last) :
    Recognizes (tryFinally x last) := by
  intro c d p failed
  simp only [tryFinally, MonadFinally.tryFinally', Functor.map, EStateM.map, EStateM.run] at failed
  cases run : x c with
  | ok a e =>
      cases ended : last e with
      | ok u e' => simp [run, ended] at failed
      | error q e' =>
          simp [run, ended] at failed
          exact failed.1 ▸ k e e' q ended
  | error q e =>
      have own := h c e q run
      cases ended : last e with
      | ok u e' =>
          simp [run, ended] at failed
          exact failed.1 ▸ own
      | error q' e' =>
          simp [run, ended] at failed
          exact failed.1 ▸ k e e' q' ended

protected theorem restoring (h : Recognizes x) : Recognizes (restoring x) :=
  Recognizes.setMark.bind fun _ => h.tryFinally .returnToMark

end Recognizes

end Reading

end ImageMetadata
