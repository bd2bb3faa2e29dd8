import ImageMetadata.Outcome

/-!
# What an action comes to

An action comes to a result in a state, whatever it reports on the way. A sequence comes to what its
parts come to one after the other, and to nothing else; so what a reader accepts can be read off its
parts.
-/

namespace ImageMetadata

variable {α β σ : Type}

namespace Outcome

theorem result_bind_iff {x : Outcome α} {f : α → Outcome β} {b : β} :
    (x >>= f).result = .ok b ↔ ∃ a, x.result = .ok a ∧ (f a).result = .ok b := by
  constructor
  · exact ok_of_bind
  · rintro ⟨a, first, second⟩
    rw [bind_of_ok f first]
    exact second

/-- A sequence fails where one of its parts does. -/
theorem result_bind_error_iff {x : Outcome α} {f : α → Outcome β} {p : Problem} :
    (x >>= f).result = .error p ↔
      x.result = .error p ∨ ∃ a, x.result = .ok a ∧ (f a).result = .error p := by
  cases result : x.result with
  | error q =>
      rw [bind_of_error f result]
      simp
  | ok a =>
      rw [bind_of_ok f result]
      simp

/-- A sequence that ends well reports what its parts report. -/
theorem bind_eq_iff {x : Outcome α} {f : α → Outcome β} {reports : List Event} {b : β} :
    (x >>= f) = ⟨reports, .ok b⟩ ↔
      ∃ a first later, x = ⟨first, .ok a⟩ ∧ f a = ⟨later, .ok b⟩ ∧ first ++ later = reports := by
  constructor
  · intro h
    obtain ⟨a, first, second⟩ := ok_of_bind (congrArg result h)
    rw [bind_of_ok f first] at h
    exact ⟨a, x.events, (f a).events, ext rfl first, ext rfl second, congrArg events h⟩
  · rintro ⟨a, first, later, rfl, second, rfl⟩
    rw [bind_of_ok f rfl, second]

theorem pure_eq_iff {a b : α} {reports : List Event} :
    (pure a : Outcome α) = ⟨reports, .ok b⟩ ↔ [] = reports ∧ a = b := by
  constructor
  · intro h
    cases h
    exact ⟨rfl, rfl⟩
  · rintro ⟨rfl, rfl⟩
    rfl

/-- Only a lenient reader goes on after a flag, with a warning. -/
theorem flag_eq_iff {strict : Bool} {p : Problem} {reports : List Event} {u : Unit} :
    flag strict p = ⟨reports, .ok u⟩ ↔ strict = false ∧ [.notice (.integrity p)] = reports := by
  cases strict <;> simp [flag, fail, notify]

theorem require_eq_iff {c : Bool} {p : Problem} {reports : List Event} {u : Unit} :
    require c p = ⟨reports, .ok u⟩ ↔ c = true ∧ [] = reports := by
  cases c with
  | false => simp [require, fail]
  | true => simp [require, pure_eq_iff]

theorem result_require_iff {c : Bool} {p : Problem} {u : Unit} :
    (require c p).result = .ok u ↔ c = true := by
  cases c <;> simp [require, fail]

/-- A lenient check never fails, a strict one does where the condition does not hold. -/
theorem result_check_iff {strict c : Bool} {p : Problem} {u : Unit} :
    (check strict c p).result = .ok u ↔ (strict = true → c = true) := by
  cases c <;> cases strict <;> simp [check, flag, fail, notify]

/-- The reader comes to a result. -/
def Succeeds (x : Outcome α) : Prop := ∃ a, x.result = .ok a

namespace Succeeds

protected theorem pure (a : α) : Succeeds (pure a) := ⟨a, rfl⟩

/-- A lenient reader goes on after a flag. -/
protected theorem flag {strict : Bool} (lenient : strict = false) (p : Problem) :
    Succeeds (flag strict p) := by
  subst lenient
  exact ⟨(), rfl⟩

protected theorem bind {x : Outcome α} {f : α → Outcome β} (h : x.Succeeds)
    (k : ∀ a, x.result = .ok a → (f a).Succeeds) : (x >>= f).Succeeds := by
  obtain ⟨a, first⟩ := h
  obtain ⟨b, second⟩ := k a first
  exact ⟨b, result_bind_iff.2 ⟨a, first, second⟩⟩

protected theorem mapM {f : α → Outcome β} (list : List α) (h : ∀ a ∈ list, (f a).Succeeds) :
    (list.mapM f).Succeeds := by
  induction list with
  | nil => exact .pure []
  | cons a rest ih =>
      rw [List.mapM_cons]
      refine (h a List.mem_cons_self).bind fun b _ => ?_
      refine (ih fun c member => h c (List.mem_cons_of_mem a member)).bind fun bs _ => ?_
      exact .pure (b :: bs)

end Succeeds

end Outcome

namespace Action

/-- What follows a part that ends well decides how a sequence ends. -/
theorem run_bind_eq {x : Action σ α} {f : α → Action σ β} {s t u : σ} {first later : List Event}
    {a : α} {result : Except Problem β} (h : x.run s = (⟨first, .ok a⟩, t))
    (k : (f a).run t = (⟨later, result⟩, u)) :
    (x >>= f).run s = (⟨first ++ later, result⟩, u) := by
  rw [run_bind_of_ok f h, k]

/-- A sequence that ends well reports what its parts report. -/
theorem run_bind_eq_iff {x : Action σ α} {f : α → Action σ β} {s u : σ} {reports : List Event}
    {b : β} :
    (x >>= f).run s = (⟨reports, .ok b⟩, u) ↔
      ∃ a t first later, x.run s = (⟨first, .ok a⟩, t) ∧
        (f a).run t = (⟨later, .ok b⟩, u) ∧ first ++ later = reports := by
  rcases h : x.run s with ⟨⟨events, p | a⟩, t⟩
  · rw [run_bind_of_error f h]
    simp
  · rw [run_bind_of_ok f h]
    constructor
    · intro ended
      obtain ⟨outcome, rfl⟩ := Prod.mk.inj ended
      obtain ⟨rfl, result⟩ := Outcome.mk.inj outcome
      exact ⟨a, t, events, _, rfl, Prod.ext (Outcome.ext rfl result) rfl, rfl⟩
    · rintro ⟨a', t', first, later, begun, ended, rfl⟩
      cases begun
      rw [ended]

theorem run_lift_eq_iff {x : Outcome α} {s t : σ} {reports : List Event} {a : α} :
    (lift x).run s = (⟨reports, .ok a⟩, t) ↔ x = ⟨reports, .ok a⟩ ∧ s = t := by
  rw [run_lift, Prod.mk.injEq]

theorem run_update_eq_iff {change : σ → σ} {s t : σ} {reports : List Event} {u : Unit} :
    (update change).run s = (⟨reports, .ok u⟩, t) ↔ [] = reports ∧ change s = t := by
  rw [run_update, Prod.mk.injEq, Outcome.pure_eq_iff]
  simp

theorem run_require_eq_iff {c : Bool} {p : Problem} {s t : σ} {reports : List Event} {u : Unit} :
    (require c p).run s = (⟨reports, .ok u⟩, t) ↔ c = true ∧ [] = reports ∧ s = t := by
  rw [require, run_lift_eq_iff]
  cases c with
  | false => simp [Outcome.require, Outcome.fail]
  | true => simp [Outcome.require, Outcome.pure_eq_iff]

theorem run_require_bind_eq_iff {f : Unit → Action σ β} {c : Bool} {p : Problem} {s u : σ}
    {reports : List Event} {b : β} :
    (require c p >>= f).run s = (⟨reports, .ok b⟩, u) ↔
      c = true ∧ (f ()).run s = (⟨reports, .ok b⟩, u) := by
  cases c with
  | false =>
      have failed : (require false p).run s = (⟨[], .error p⟩, s) := rfl
      simp [run_bind_of_error f failed]
  | true =>
      have met : (require true p).run s = (pure (), s) := rfl
      simp [run_bind_of_pure f met]

theorem run_lift_bind_eq_iff {x : Outcome α} {f : α → Action σ β} {s u : σ} {reports : List Event}
    {b : β} :
    (lift x >>= f).run s = (⟨reports, .ok b⟩, u) ↔
      ∃ a first later, x = ⟨first, .ok a⟩ ∧ (f a).run s = (⟨later, .ok b⟩, u) ∧
        first ++ later = reports := by
  rw [run_bind_eq_iff]
  simp only [run_lift_eq_iff]
  constructor
  · rintro ⟨a, t, first, later, ⟨begun, rfl⟩, ended, joined⟩
    exact ⟨a, first, later, begun, ended, joined⟩
  · rintro ⟨a, first, later, begun, ended, joined⟩
    exact ⟨a, s, first, later, ⟨begun, rfl⟩, ended, joined⟩

end Action

theorem Except.toOption_eq_some_iff {ε : Type} {x : Except ε α} {a : α} :
    x.toOption = some a ↔ x = .ok a := by
  cases x <;> simp [Except.toOption]

/-- How an action that reports nothing ends is known from parts that can be compared. -/
theorem Action.run_eq_of_silent {x : Action σ α} {s t : σ} {a : α}
    (h : (x.run s).1.events = [] ∧ (x.run s).1.result.toOption = some a ∧ (x.run s).2 = t) :
    x.run s = (⟨[], .ok a⟩, t) :=
  Prod.ext (Outcome.ext h.1 (Except.toOption_eq_some_iff.1 h.2.1)) h.2.2

/-- From a state, the action comes to a result and another state. -/
structure Action.Yields (x : Action σ α) (s : σ) (a : α) (t : σ) : Prop where
  result_eq : (x.run s).1.result = .ok a
  state_eq : (x.run s).2 = t

namespace Action.Yields

variable {x : Action σ α} {f : α → Action σ β} {s t u : σ} {a : α} {b : β}

theorem of_run {reports : List Event} (h : x.run s = (⟨reports, .ok a⟩, t)) : Yields x s a t := by
  constructor <;> rw [h]

theorem exists_run (h : Yields x s a t) : ∃ reports, x.run s = (⟨reports, .ok a⟩, t) :=
  ⟨(x.run s).1.events, Prod.ext (Outcome.ext rfl h.result_eq) h.state_eq⟩

/-- An action comes to one result in one state at most. -/
theorem unique {c : α} (h : Yields x s a t) (k : Yields x s c u) : a = c ∧ t = u :=
  ⟨Except.ok.inj (h.result_eq.symm.trans k.result_eq), h.state_eq.symm.trans k.state_eq⟩

theorem pure_iff {c : α} : Yields (pure a) s c t ↔ a = c ∧ s = t := by
  constructor
  · rintro ⟨result, state⟩
    exact ⟨Except.ok.inj result, state⟩
  · rintro ⟨rfl, rfl⟩
    exact ⟨rfl, rfl⟩

theorem not_fail {p : Problem} : ¬ Yields (Action.fail p) s a t := by
  rintro ⟨result, _⟩
  cases result

theorem bind_iff : Yields (x >>= f) s b u ↔ ∃ a t, Yields x s a t ∧ Yields (f a) t b u := by
  constructor
  · rintro ⟨result, state⟩
    rw [run_bind_fst, Outcome.result_bind_iff] at result
    obtain ⟨a, first, second⟩ := result
    rw [run_bind_snd, first] at state
    exact ⟨a, _, ⟨first, rfl⟩, second, state⟩
  · rintro ⟨a, t, ⟨first, rfl⟩, second, state⟩
    constructor
    · rw [run_bind_fst, Outcome.result_bind_iff]
      exact ⟨a, first, second⟩
    · rw [run_bind_snd, first]
      exact state

/-- What follows decides how a sequence ends whose first part comes to a result. -/
theorem result_bind (h : Yields x s a t) (f : α → Action σ β) :
    ((x >>= f).run s).1.result = ((f a).run t).1.result := by
  rw [run_bind_fst, Outcome.bind_of_ok _ h.result_eq, h.state_eq]

theorem run_bind_snd (h : Yields x s a t) (f : α → Action σ β) :
    ((x >>= f).run s).2 = ((f a).run t).2 := by
  rw [Action.run_bind_snd, h.result_eq, h.state_eq]

theorem state_bind_iff {f : σ → Action σ β} :
    Yields (state >>= f) s b u ↔ Yields (f s) s b u :=
  ⟨fun ⟨result, state⟩ => ⟨result, state⟩, fun ⟨result, state⟩ => ⟨result, state⟩⟩

theorem lift_bind_iff {x : Outcome α} :
    Yields (lift x >>= f) s b u ↔ ∃ a, x.result = .ok a ∧ Yields (f a) s b u := by
  rw [bind_iff]
  constructor
  · rintro ⟨a, t, ⟨result, rfl⟩, rest⟩
    exact ⟨a, result, rest⟩
  · rintro ⟨a, result, rest⟩
    exact ⟨a, s, ⟨result, rfl⟩, rest⟩

theorem update_bind_iff {change : σ → σ} {f : Unit → Action σ β} :
    Yields (update change >>= f) s b u ↔ Yields (f ()) (change s) b u := by
  rw [bind_iff]
  constructor
  · rintro ⟨_, t, ⟨_, rfl⟩, rest⟩
    exact rest
  · intro rest
    exact ⟨(), change s, ⟨rfl, rfl⟩, rest⟩

theorem require_iff {c : Bool} {p : Problem} {v : Unit} :
    Yields (require c p) s v t ↔ c = true ∧ s = t := by
  cases c with
  | false => exact ⟨fun h => absurd h not_fail, fun h => absurd h.1 Bool.false_ne_true⟩
  | true =>
      have silent : Yields (require true p) s v t ↔ () = v ∧ s = t := pure_iff
      rw [silent]
      exact ⟨fun h => ⟨rfl, h.2⟩, fun h => ⟨rfl, h.2⟩⟩

theorem require_bind_iff {f : Unit → Action σ β} {c : Bool} {p : Problem} :
    Yields (require c p >>= f) s b u ↔ c = true ∧ Yields (f ()) s b u := by
  rw [bind_iff]
  constructor
  · rintro ⟨_, t, first, rest⟩
    obtain ⟨holds, rfl⟩ := require_iff.1 first
    exact ⟨holds, rest⟩
  · rintro ⟨holds, rest⟩
    exact ⟨(), s, require_iff.2 ⟨holds, rfl⟩, rest⟩

/-- A step that is only traced, under whatever condition, does nothing. -/
theorem when_trace_bind_iff {f : Unit → Action σ β} (c : Bool) (step : Trace) :
    Yields (when c (Outcome.trace step : Action σ Unit) >>= f) s b u ↔ Yields (f ()) s b u := by
  cases c with
  | false => exact (update_bind_iff : Yields (update id >>= f) s b u ↔ _)
  | true =>
      refine lift_bind_iff.trans ⟨fun ⟨_, _, rest⟩ => rest, fun rest => ⟨(), rfl, rest⟩⟩

end Action.Yields

end ImageMetadata
