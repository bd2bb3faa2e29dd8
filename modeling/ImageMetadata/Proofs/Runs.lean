import ImageMetadata.Proofs.Strictness.Basic
import ImageMetadata.Proofs.Yields

/-!
# Runs

A run is clean if it comes to a result without an integrity problem. Other runs come to a result and
warn of such problems, or they fail. The runs of a sequence are put together from those of its
parts, with the states in between.
-/

namespace ImageMetadata

variable {α β σ : Type}

/-- The outcome is a given result, without an integrity problem. -/
structure Outcome.Gives (x : Outcome α) (a : α) : Prop where
  result_eq : x.result = .ok a
  integrity_eq : x.integrity = []

namespace Outcome.Gives

variable {x : Outcome α} {f : α → Outcome β} {a : α} {b : β}

protected theorem pure (a : α) : (pure a : Outcome α).Gives a := ⟨rfl, rfl⟩

protected theorem trace (t : Trace) : (Outcome.trace t).Gives () := ⟨rfl, rfl⟩

theorem result_bind (h : x.Gives a) : (x >>= f).result = (f a).result := by
  rw [bind_of_ok f h.result_eq]

theorem integrity_bind (h : x.Gives a) : (x >>= f).integrity = (f a).integrity := by
  rw [integrity_bind_of_ok f h.result_eq, h.integrity_eq, List.nil_append]

protected theorem bind (h : x.Gives a) (k : (f a).Gives b) : (x >>= f).Gives b where
  result_eq := h.result_bind.trans k.result_eq
  integrity_eq := h.integrity_bind.trans k.integrity_eq

end Outcome.Gives

/-- An outcome that is given leaves the state to what follows. -/
theorem Outcome.Gives.run_lift_bind_snd {x : Outcome α} {a : α} (h : x.Gives a)
    (f : α → Action σ β) (s : σ) :
    ((Action.lift x >>= f).run s).2 = ((f a).run s).2 := by
  rw [Action.run_bind_snd, Action.run_lift, h.result_eq]

/-- From a state, the action comes to a result and another state, without an integrity problem. -/
structure Action.Runs (x : Action σ α) (s : σ) (a : α) (t : σ) : Prop where
  gives : (x.run s).1.Gives a
  state_eq : (x.run s).2 = t

namespace Action.Runs

variable {x : Action σ α} {f : α → Action σ β} {s t u : σ} {a : α} {b : β}

protected theorem pure (a : α) : Runs (pure a) s a s := ⟨.pure a, rfl⟩

protected theorem lift {x : Outcome α} (h : x.Gives a) : Runs (lift x) s a s := ⟨h, rfl⟩

protected theorem trace (t : Trace) : Runs (lift (Outcome.trace t)) s () s := .lift (.trace t)

protected theorem update (f : σ → σ) : Runs (update f) s () (f s) := ⟨.pure (), rfl⟩

protected theorem bind (h : Runs x s a t) (k : Runs (f a) t b u) : Runs (x >>= f) s b u where
  gives := by
    rw [run_bind_fst]
    apply h.gives.bind
    rw [h.state_eq]
    exact k.gives
  state_eq := by
    rw [run_bind_snd, h.gives.result_eq, h.state_eq]
    exact k.state_eq

protected theorem state_bind {f : σ → Action σ β} (h : Runs (f s) s b u) :
    Runs (state >>= f) s b u := ⟨h.gives, h.state_eq⟩

/-- A requirement that is met does nothing. -/
protected theorem require {c : Bool} (p : Problem) (h : c = true) : Runs (require c p) s () s := by
  subst h
  exact .lift (.pure ())

theorem require_bind {f : Unit → Action σ β} {c : Bool} (p : Problem) (h : c = true)
    (k : Runs (f ()) s b u) : Runs (require c p >>= f) s b u :=
  (Runs.require p h).bind k

/-- A step that is only traced, under whatever condition. -/
theorem when_trace (c : Bool) (t : Trace) : Runs (when c (lift (Outcome.trace t))) s () s := by
  cases c with
  | false => exact Runs.pure ()
  | true => exact Runs.trace t

theorem when_of_true {x : Action σ Unit} {c : Bool} (h : c = true) (run : Runs x s () t) :
    Runs (when c x) s () t := by
  subst h
  exact run

theorem when_of_false {x : Action σ Unit} {c : Bool} (h : c = false) :
    Runs (when c x) s () s := by
  subst h
  exact Runs.pure ()

/-- What a strict reader comes to, it comes to in a clean run, and so does the lenient one. -/
theorem of_agrees {strict lenient : Action σ α} (agrees : Agrees Eq strict lenient)
    (h : Yields strict s a t) : Runs strict s a t ∧ Runs lenient s a t := by
  obtain ⟨outcome, states⟩ := agrees s s rfl
  cases outcome with
  | same clean eq =>
      have states := states clean
      have gives : (lenient.run s).1.Gives a := ⟨eq ▸ h.result_eq, clean⟩
      exact ⟨⟨eq ▸ gives, h.state_eq⟩, ⟨gives, states ▸ h.state_eq⟩⟩
  | refused _ error _ => cases h.result_eq.symm.trans error

end Action.Runs

/-- From a state, the action warns of some integrity problems, in order, and comes to a result and
another state. -/
structure Action.Warns (x : Action σ α) (s : σ) (problems : List Problem) (a : α) (t : σ) :
    Prop where
  result_eq : (x.run s).1.result = .ok a
  integrity_eq : (x.run s).1.integrity = problems
  state_eq : (x.run s).2 = t

/-- From a state, the action fails in another state. -/
structure Action.Fails (x : Action σ α) (s : σ) (p : Problem) (t : σ) : Prop where
  result_eq : (x.run s).1.result = .error p
  state_eq : (x.run s).2 = t

namespace Action

variable {x : Action σ α} {f : α → Action σ β} {s t u : σ} {a : α} {b : β} {p : Problem}
  {problems others : List Problem}

theorem Runs.warns (h : Runs x s a t) : Warns x s [] a t :=
  ⟨h.gives.result_eq, h.gives.integrity_eq, h.state_eq⟩

theorem Runs.yields (h : Runs x s a t) : Yields x s a t := ⟨h.gives.result_eq, h.state_eq⟩

namespace Warns

theorem runs (h : Warns x s [] a t) : Runs x s a t := ⟨⟨h.result_eq, h.integrity_eq⟩, h.state_eq⟩

theorem yields (h : Warns x s problems a t) : Yields x s a t := ⟨h.result_eq, h.state_eq⟩

/-- Only a lenient reader goes on after a flag. -/
protected theorem flag (p : Problem) : Warns (lift (Outcome.flag false p)) s [p] () s :=
  ⟨rfl, rfl, rfl⟩

protected theorem bind (h : Warns x s problems a t) (k : Warns (f a) t others b u) :
    Warns (x >>= f) s (problems ++ others) b u where
  result_eq := (h.yields.result_bind f).trans k.result_eq
  integrity_eq := by
    rw [run_bind_fst, Outcome.integrity_bind_of_ok _ h.result_eq, h.integrity_eq, h.state_eq,
      k.integrity_eq]
  state_eq := (h.yields.run_bind_snd f).trans k.state_eq

end Warns

namespace Fails

/-- A strict reader fails at a flag. -/
protected theorem flag (p : Problem) : Fails (lift (Outcome.flag true p)) s p s := ⟨rfl, rfl⟩

/-- Nothing follows a failure. -/
protected theorem bind (h : Fails x s p t) : Fails (x >>= f) s p t where
  result_eq := by rw [run_bind_fst, Outcome.bind_of_error _ h.result_eq]
  state_eq := by rw [run_bind_snd, h.result_eq, h.state_eq]

end Fails

theorem Yields.bind_fails (h : Yields x s a t) (k : Fails (f a) t p u) : Fails (x >>= f) s p u :=
  ⟨(h.result_bind f).trans k.result_eq, (h.run_bind_snd f).trans k.state_eq⟩

theorem Fails.update_bind {change : σ → σ} {f : Unit → Action σ β}
    (k : Fails (f ()) (change s) p u) : Fails (update change >>= f) s p u :=
  Yields.bind_fails (a := ()) ⟨rfl, rfl⟩ k

theorem Fails.require_bind {f : Unit → Action σ β} {c : Bool} {q : Problem} (h : c = true)
    (k : Fails (f ()) s p u) : Fails (require c q >>= f) s p u :=
  Yields.bind_fails (a := ()) (Yields.require_iff.2 ⟨h, rfl⟩) k

end Action

end ImageMetadata
