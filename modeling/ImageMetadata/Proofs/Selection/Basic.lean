import ImageMetadata.Proofs.Reports

/-!
# Images of actions

An action is an image of another one if, from the image of any state, it ends as the other one does,
reports what a map makes of the reports of the other one, and leaves the image of its new state. A
sequence of images is an image of the sequence.
-/

namespace ImageMetadata

variable {α β σ τ : Type}

namespace Outcome

/-- The outcome with what a map makes of its reports; some may be left out. -/
def reporting (report : Event → Option Event) (x : Outcome α) : Outcome α :=
  ⟨x.events.filterMap report, x.result⟩

theorem reporting_some (image : Event → Event) (x : Outcome α) :
    x.reporting (fun event => some (image event)) = ⟨x.events.map image, x.result⟩ := by
  rw [reporting, List.filterMap_eq_map']

theorem reporting_bind (report : Event → Option Event) (x : Outcome α) (f : α → Outcome β) :
    (x >>= f).reporting report = x.reporting report >>= fun a => (f a).reporting report := by
  obtain ⟨events, p | a⟩ := x
  · rfl
  · rw [bind_of_ok f rfl, bind_of_ok (x := reporting report ⟨events, .ok a⟩) _ rfl]
    simp [reporting]

theorem reporting_require (report : Event → Option Event) (c : Bool) (p : Problem) :
    (require c p).reporting report = require c p := by
  cases c <;> rfl

end Outcome

namespace Action

/-- From the image of each state, the second action does what the first one does from the state. -/
def Maps (report : Event → Option Event) (image : σ → τ) (x : Action σ α) (y : Action τ α) : Prop :=
  ∀ s, y.run (image s) = ((x.run s).1.reporting report, image (x.run s).2)

namespace Maps

variable {report : Event → Option Event} {image : σ → τ} {x : Action σ α} {y : Action τ α}
  {f : α → Action σ β} {g : α → Action τ β}

protected theorem pure (a : α) : Maps report image (pure a) (pure a) := fun _ => rfl

protected theorem fail (p : Problem) :
    Maps report image (Action.fail p : Action σ α) (Action.fail p) := fun _ => rfl

protected theorem lift {x y : Outcome α} (h : x.reporting report = y) :
    Maps report image (Action.lift x) (Action.lift y) := by
  subst h
  exact fun _ => rfl

protected theorem require (c : Bool) (p : Problem) :
    Maps report image (Action.require c p) (Action.require c p) :=
  .lift (Outcome.reporting_require report c p)

protected theorem update {change : σ → σ} {change' : τ → τ}
    (h : ∀ s, change' (image s) = image (change s)) :
    Maps report image (Action.update change) (Action.update change') := by
  intro s
  rw [run_update, run_update, h]
  rfl

protected theorem when {x : Action σ Unit} {y : Action τ Unit} (c : Bool)
    (h : Maps report image x y) : Maps report image (Action.when c x) (Action.when c y) := by
  cases c with
  | false => exact .pure ()
  | true => exact h

/-- What follows an outcome may get another result, if only what is done with it is an image. -/
theorem lift_bind {γ : Type} {x : Outcome α} {y : Outcome γ} {value : α → γ} {g : γ → Action τ β}
    (h : (value <$> x).reporting report = y)
    (k : ∀ a, Maps report image (f a) (g (value a))) :
    Maps report image (Action.lift x >>= f) (Action.lift y >>= g) := by
  subst h
  intro s
  obtain ⟨events, p | a⟩ := x
  · rfl
  · have first : (Action.lift ((value <$> (⟨events, .ok a⟩ : Outcome α)).reporting report)).run
        (image s) = (⟨events.filterMap report, .ok (value a)⟩, image s) := by
      rw [Outcome.map_of_ok value rfl]
      rfl
    rw [run_bind_of_ok g first, k a s, run_bind_of_ok f (run_lift _ s)]
    simp [Outcome.reporting]

protected theorem bind (h : Maps report image x y) (k : ∀ a, Maps report image (f a) (g a)) :
    Maps report image (x >>= f) (y >>= g) := by
  intro s
  have first := h s
  rcases run : x.run s with ⟨⟨events, p | a⟩, t⟩
  · rw [run] at first
    rw [run_bind_of_error g first, run_bind_of_error f run]
    rfl
  · rw [run] at first
    rw [run_bind_of_ok g first, run_bind_of_ok f run, k a t]
    simp [Outcome.reporting]

protected theorem state_bind {f : σ → Action σ β} {g : τ → Action τ β}
    (h : ∀ s, Maps report image (f s) (g (image s))) :
    Maps report image (state >>= f) (state >>= g) :=
  fun s => h s s

/-- An action whose reports are their own images is its own image. -/
theorem of_reports {move : Event → Event} (h : Reports (fun event => move event = event) x) :
    Maps (fun event => some (move event)) id x x := by
  intro s
  have same : (x.run s).1.events.map move = (x.run s).1.events := by
    rw [List.map_congr_left (h.run s).of_mem, List.map_id']
  rw [Outcome.reporting_some, same]
  rfl

/-- Images of the elements of a list, one after the other. -/
protected theorem each {f : α → Action σ Unit} {g : β → Action τ Unit} {move : α → β}
    (h : ∀ a, Maps report image (f a) (g (move a))) (list : List α) :
    Maps report image (each f list) (each g (list.map move)) := by
  induction list with
  | nil => exact .pure ()
  | cons a rest ih => exact (h a).bind fun _ => ih

end Maps

end Action

end ImageMetadata
