import ImageMetadata.Event

/-!
# Outcomes

A reader yields events in order and then either a result or a problem; what it reported before it
failed stays reported. An integrity problem is a failure for a strict reader and a notice for a
lenient one. An action is a reader with a state that also survives a failure.
-/

namespace ImageMetadata

/-- The events of a reader and how it ended. -/
structure Outcome (α : Type) where
  events : List Event
  result : Except Problem α

namespace Outcome

variable {α β : Type}

/-- A result without events. -/
protected def pure (a : α) : Outcome α := ⟨[], .ok a⟩

/-- Goes on with the result, if there is one; the events come in order. -/
protected def bind (x : Outcome α) (f : α → Outcome β) : Outcome β :=
  match x.result with
  | .ok a => ⟨x.events ++ (f a).events, (f a).result⟩
  | .error p => ⟨x.events, .error p⟩

instance : Monad Outcome where
  pure := Outcome.pure
  bind := Outcome.bind

/-- A failure without events. -/
def fail (p : Problem) : Outcome α := ⟨[], .error p⟩

/-- The outcome of a computation without events. -/
def ofExcept (x : Except Problem α) : Outcome α := ⟨[], x⟩

/-- Reports a warning. -/
def notify (n : Notice) : Outcome Unit := ⟨[.notice n], .ok ()⟩

/-- Reports a step. -/
def trace (t : Trace) : Outcome Unit := ⟨[.trace t], .ok ()⟩

/-- Fails for a strict reader and warns otherwise. -/
def flag (strict : Bool) (p : Problem) : Outcome Unit :=
  if strict then fail p else notify (.integrity p)

/-- Fails unless a condition holds. -/
def require (c : Bool) (p : Problem) : Outcome Unit := if c then pure () else fail p

/-- Flags a problem unless a condition holds. -/
def check (strict c : Bool) (p : Problem) : Outcome Unit := if c then pure () else flag strict p

/-- Goes on after a structural problem. -/
def rescue (x : Outcome α) (handle : Problem → Outcome α) : Outcome α :=
  match x.result with
  | .ok _ => x
  | .error p => if p.isStructural then ⟨x.events ++ (handle p).events, (handle p).result⟩ else x

@[ext] theorem ext {x y : Outcome α} (events : x.events = y.events) (result : x.result = y.result) :
    x = y := by
  cases x; cases y; simp_all

@[simp] theorem pure_events (a : α) : (pure a : Outcome α).events = [] := rfl

@[simp] theorem pure_result (a : α) : (pure a : Outcome α).result = .ok a := rfl

theorem ofExcept_ok (a : α) : ofExcept (.ok a) = pure a := rfl

theorem require_true (p : Problem) : require true p = pure () := rfl

theorem bind_of_ok {x : Outcome α} {a : α} (f : α → Outcome β) (h : x.result = .ok a) :
    (x >>= f) = ⟨x.events ++ (f a).events, (f a).result⟩ := by
  simp [Bind.bind, Outcome.bind, h]

theorem bind_of_error {x : Outcome α} {p : Problem} (f : α → Outcome β) (h : x.result = .error p) :
    (x >>= f) = ⟨x.events, .error p⟩ := by
  simp [Bind.bind, Outcome.bind, h]

/-- Where a sequence ends well, both of its parts do. -/
theorem ok_of_bind {x : Outcome α} {f : α → Outcome β} {b : β} (h : (x >>= f).result = .ok b) :
    ∃ a, x.result = .ok a ∧ (f a).result = .ok b := by
  cases hx : x.result with
  | error p => simp [bind_of_error f hx] at h
  | ok a => exact ⟨a, rfl, by simpa [bind_of_ok f hx] using h⟩

/-- Where a requirement ends well, it is met. -/
theorem true_of_require {c : Bool} {p : Problem} {u : Unit} (h : (require c p).result = .ok u) :
    c = true := by
  cases c with
  | false => cases h
  | true => rfl

instance : LawfulMonad Outcome := LawfulMonad.mk' Outcome
  (by
    intro α x
    cases x with
    | mk events result => cases result <;> simp [Functor.map, Outcome.bind, Outcome.pure])
  (by
    intro α β a f
    simp [Bind.bind, Pure.pure, Outcome.bind, Outcome.pure])
  (by
    intro α β γ x f g
    cases hx : x.result with
    | error p => simp [Bind.bind, Outcome.bind, hx]
    | ok a => cases hf : (f a).result <;> simp [Bind.bind, Outcome.bind, hx, hf])

theorem map_of_ok {x : Outcome α} {a : α} (f : α → β) (h : x.result = .ok a) :
    f <$> x = ⟨x.events, .ok (f a)⟩ := by
  rw [map_eq_pure_bind, bind_of_ok _ h, pure_events, List.append_nil, pure_result]

theorem map_of_error {x : Outcome α} {p : Problem} (f : α → β) (h : x.result = .error p) :
    f <$> x = ⟨x.events, .error p⟩ := by
  rw [map_eq_pure_bind, bind_of_error _ h]

end Outcome

/-- A reader with a state. -/
def Action (σ α : Type) := σ → Outcome α × σ

namespace Action

variable {σ α β : Type}

/-- Runs an action on a state. -/
def run (x : Action σ α) (s : σ) : Outcome α × σ := x s

/-- A result without events and without a change. -/
protected def pure (a : α) : Action σ α := fun s => (Outcome.pure a, s)

/-- Goes on with the result and the new state, if there is a result. -/
protected def bind (x : Action σ α) (f : α → Action σ β) : Action σ β := fun s =>
  let (first, t) := x s
  match first.result with
  | .ok a =>
    let (second, u) := f a t
    (⟨first.events ++ second.events, second.result⟩, u)
  | .error p => (⟨first.events, .error p⟩, t)

instance : Monad (Action σ) where
  pure := Action.pure
  bind := Action.bind

/-- The state. -/
def state : Action σ σ := fun s => (Outcome.pure s, s)

/-- Changes the state. -/
def update (f : σ → σ) : Action σ Unit := fun s => (Outcome.pure (), f s)

/-- An outcome that leaves the state alone. -/
def lift (x : Outcome α) : Action σ α := fun s => (x, s)

instance : MonadLift Outcome (Action σ) where
  monadLift := lift

/-- A failure that leaves the state alone. -/
def fail (p : Problem) : Action σ α := lift (Outcome.fail p)

/-- Fails unless a condition holds. -/
def require (c : Bool) (p : Problem) : Action σ Unit := lift (Outcome.require c p)

/-- Does something only under a condition. -/
def when (c : Bool) (x : Action σ Unit) : Action σ Unit := if c then x else pure ()

/-- Does something for each element of a list, in order. -/
def each (f : α → Action σ Unit) : List α → Action σ Unit
  | [] => return
  | a :: rest => do
    f a
    each f rest

@[simp] theorem run_pure (a : α) (s : σ) : (pure a : Action σ α).run s = (pure a, s) := rfl

@[simp] theorem run_state (s : σ) : (state : Action σ σ).run s = (pure s, s) := rfl

@[simp] theorem run_update (f : σ → σ) (s : σ) : (update f).run s = (pure (), f s) := rfl

@[simp] theorem run_lift (x : Outcome α) (s : σ) : (lift x).run s = (x, s) := rfl

theorem run_bind_of_ok {x : Action σ α} {s t : σ} {events : List Event} {a : α}
    (f : α → Action σ β) (h : x.run s = (⟨events, .ok a⟩, t)) :
    (x >>= f).run s =
      (⟨events ++ ((f a).run t).1.events, ((f a).run t).1.result⟩, ((f a).run t).2) := by
  simp only [run] at h
  simp [run, Bind.bind, Action.bind, h]

/-- What follows a silent part starts in the state that the part leaves. -/
theorem run_bind_of_pure {x : Action σ α} {s t : σ} {a : α} (f : α → Action σ β)
    (h : x.run s = (pure a, t)) : (x >>= f).run s = (f a).run t := by
  rw [run_bind_of_ok f h]
  rfl

theorem run_bind_of_error {x : Action σ α} {s t : σ} {events : List Event} {p : Problem}
    (f : α → Action σ β) (h : x.run s = (⟨events, .error p⟩, t)) :
    (x >>= f).run s = (⟨events, .error p⟩, t) := by
  simp only [run] at h
  simp [run, Bind.bind, Action.bind, h]

/-- The outcome of a sequence is the sequence of the outcomes. -/
theorem run_bind_fst (x : Action σ α) (f : α → Action σ β) (s : σ) :
    ((x >>= f).run s).1 = ((x.run s).1 >>= fun a => ((f a).run (x.run s).2).1) := by
  rcases h : x.run s with ⟨⟨events, _ | a⟩, t⟩
  · rw [run_bind_of_error f h]; rfl
  · rw [run_bind_of_ok f h]; rfl

/-- The state after a sequence. -/
theorem run_bind_snd (x : Action σ α) (f : α → Action σ β) (s : σ) :
    ((x >>= f).run s).2 =
      match (x.run s).1.result with
      | .ok a => ((f a).run (x.run s).2).2
      | .error _ => (x.run s).2 := by
  rcases h : x.run s with ⟨⟨events, _ | a⟩, t⟩
  · rw [run_bind_of_error f h]
  · rw [run_bind_of_ok f h]

@[simp] theorem run_state_bind (f : σ → Action σ β) (s : σ) :
    (state >>= f).run s = (f s).run s := rfl

instance : LawfulMonad (Action σ) := LawfulMonad.mk' (Action σ)
  (by
    intro α x
    funext s
    rcases h : x s with ⟨⟨events, result⟩, t⟩
    cases result <;> simp [Functor.map, Action.bind, Action.pure, Outcome.pure, h])
  (by
    intro α β a f
    funext s
    simp [Bind.bind, Pure.pure, Action.bind, Action.pure, Outcome.pure])
  (by
    intro α β γ x f g
    funext s
    rcases h : x s with ⟨⟨first, result⟩, t⟩
    cases result with
    | error p => simp [Bind.bind, Action.bind, h]
    | ok a =>
      rcases k : f a t with ⟨⟨second, result⟩, u⟩
      cases result <;> simp [Bind.bind, Action.bind, h, k])

/-- Two lists are done one after the other. -/
theorem each_append (f : α → Action σ Unit) (l r : List α) :
    each f (l ++ r) = each f l >>= fun _ => each f r := by
  induction l with
  | nil => simp [each]
  | cons a rest ih => simp [each, ih]

end Action

end ImageMetadata
