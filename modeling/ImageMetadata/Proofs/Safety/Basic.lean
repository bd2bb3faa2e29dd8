import ImageMetadata.Outcome

/-!
# Safe outcomes

A reader of untrusted bytes may only end with a result or with a failure that is about the bytes. A
part of a reader ends well if it does so; its result may have a property that the other parts rely
on. Sequences end well if their parts do.
-/

namespace ImageMetadata

variable {α β γ σ : Type}

namespace Outcome

/-- The outcome is a result with a property, or a failure that is about the bytes of the file. -/
def Ends (x : Outcome α) (P : α → Prop) : Prop :=
  match x.result with
  | .ok a => P a
  | .error p => p.isStructural = true

namespace Ends

variable {x : Outcome α} {f : α → Outcome β} {P : α → Prop} {Q : β → Prop}

protected theorem pure {a : α} (h : P a) : Ends (pure a) P := h

protected theorem fail {p : Problem} (h : p.isStructural = true) : Ends (Outcome.fail p) P := h

theorem of_silent {x : Outcome Unit} (h : x.result = .ok ()) : x.Ends fun _ => True := by
  simp only [Ends, h]

protected theorem flag (strict : Bool) {p : Problem} (h : p.isStructural = true) :
    Ends (flag strict p) fun _ => True := by
  cases strict with
  | false => exact of_silent rfl
  | true => exact Ends.fail h

protected theorem require (c : Bool) {p : Problem} (h : p.isStructural = true) :
    Ends (require c p) fun _ => c = true := by
  cases c with
  | false => exact Ends.fail h
  | true => exact Ends.pure rfl

/-- A requirement that is met cannot fail. -/
theorem require_of_true {c : Bool} (p : Problem) (h : c = true) :
    Ends (Outcome.require c p) fun _ => True := by
  subst h
  exact of_silent rfl

protected theorem check (strict c : Bool) {p : Problem} (h : p.isStructural = true) :
    Ends (check strict c p) fun _ => True := by
  cases c with
  | false => exact Ends.flag strict h
  | true => exact of_silent rfl

protected theorem mono {P' : α → Prop} (h : x.Ends P) (k : ∀ a, P a → P' a) : x.Ends P' := by
  revert h
  unfold Ends
  cases x.result with
  | error p => exact id
  | ok a => exact k a

protected theorem bind (h : x.Ends P) (k : ∀ a, P a → (f a).Ends Q) : (x >>= f).Ends Q := by
  unfold Ends at h
  cases hx : x.result with
  | error p =>
      rw [hx] at h
      rw [bind_of_error f hx]
      exact h
  | ok a =>
      rw [hx] at h
      rw [bind_of_ok f hx]
      exact k a h

protected theorem map (f : α → β) (h : x.Ends fun a => Q (f a)) : (f <$> x).Ends Q := by
  rw [map_eq_pure_bind]
  exact h.bind fun a ha => Ends.pure ha

protected theorem mapM {f : γ → Outcome α} (list : List γ) (h : ∀ c ∈ list, (f c).Ends P) :
    (list.mapM f).Ends fun as => ∀ a ∈ as, P a := by
  induction list with
  | nil => exact Ends.pure (by simp)
  | cons c rest ih =>
      rw [List.mapM_cons]
      apply (h c (by simp)).bind
      intro a ha
      refine (ih fun c hc => h c (by simp [hc])).bind fun as has => Ends.pure ?_
      simpa using ⟨ha, has⟩

/-- A handler takes over every failure. -/
protected theorem rescue {handle : Problem → Outcome α} (h : x.Ends P)
    (k : ∀ p, (handle p).Ends P) : (x.rescue handle).Ends P := by
  unfold Ends at h
  cases hx : x.result with
  | ok a =>
      simp only [Outcome.rescue, hx]
      exact h
  | error p =>
      have structural : p.isStructural = true := by simpa only [hx] using h
      simp only [Outcome.rescue, hx, structural, if_true]
      exact k p

end Ends

end Outcome

namespace Action

/-- From states with a property, the action ends well, and its result and the new state have another
property. -/
def Ends (pre : σ → Prop) (x : Action σ α) (post : α → σ → Prop) : Prop :=
  ∀ s, pre s → (x.run s).1.Ends fun a => post a (x.run s).2

/-- The action ends well from every state. -/
abbrev EndsWell (x : Action σ α) : Prop := Ends (fun _ => True) x fun _ _ => True

namespace Ends

variable {pre : σ → Prop} {x : Action σ α} {f : α → Action σ β} {mid : α → σ → Prop}
  {post : β → σ → Prop}

protected theorem pure {a : α} (h : ∀ s, pre s → mid a s) : Ends pre (pure a) mid := h

protected theorem fail {p : Problem} (h : p.isStructural = true) : Ends pre (Action.fail p) mid :=
  fun _ _ => .fail h

/-- An outcome keeps every property of the state. -/
protected theorem lift {x : Outcome α} {P : α → Prop} (h : x.Ends P) :
    Ends pre (Action.lift x) fun _ => pre :=
  fun _ hs => h.mono fun _ _ => hs

protected theorem update {f : σ → σ} {post : Unit → σ → Prop} (h : ∀ s, pre s → post () (f s)) :
    Ends pre (Action.update f) post := h

protected theorem trace (t : Trace) :
    Ends pre (Action.lift (Outcome.trace t) : Action σ Unit) fun _ => pre :=
  .lift (.of_silent rfl)

protected theorem when {x : Action σ Unit} (c : Bool) (h : Ends pre x fun _ => pre) :
    Ends pre (Action.when c x) fun _ => pre := by
  cases c with
  | false => exact .pure fun _ hs => hs
  | true => exact h

protected theorem bind (h : Ends pre x mid) (k : ∀ a, Ends (mid a) (f a) post) :
    Ends pre (x >>= f) post := by
  intro s hs
  have first := h s hs
  unfold Outcome.Ends at first
  cases hx : (x.run s).1.result with
  | error p =>
      rw [hx] at first
      rw [run_bind_fst, Outcome.bind_of_error _ hx]
      exact first
  | ok a =>
      rw [hx] at first
      have second := k a _ first
      rw [run_bind_fst, Outcome.bind_of_ok _ hx, run_bind_snd, hx]
      exact second

protected theorem each {f : γ → Action σ Unit} (h : ∀ c, Ends pre (f c) fun _ => pre)
    (list : List γ) : Ends pre (Action.each f list) fun _ => pre := by
  induction list with
  | nil => exact .pure fun _ hs => hs
  | cons c rest ih => exact (h c).bind fun _ => ih

/-- What follows an outcome may use what is known about its result. -/
protected theorem lift_bind {x : Outcome α} {P : α → Prop} (h : x.Ends P)
    (k : ∀ a, P a → Ends pre (f a) post) : Ends pre (Action.lift x >>= f) post := by
  have kept : Ends pre (Action.lift x) fun a s => P a ∧ pre s :=
    fun s hs => h.mono fun a ha => ⟨ha, hs⟩
  exact kept.bind fun a s known => k a known.1 s known.2

/-- What follows a requirement may use that it is met. -/
protected theorem require_bind {f : Unit → Action σ β} (c : Bool) {p : Problem}
    (h : p.isStructural = true) (k : c = true → Ends pre (f ()) post) :
    Ends pre (Action.require c p >>= f) post :=
  .lift_bind (.require c h) fun _ => k

/-- A change that keeps what is known about the state. -/
protected theorem update_bind {change : σ → σ} {f : Unit → Action σ β}
    (h : ∀ s, pre s → pre (change s)) (k : Ends pre (f ()) post) :
    Ends pre (Action.update change >>= f) post :=
  fun s hs => k _ (h s hs)

/-- What follows a look at the state may use what is known about the state. -/
protected theorem state_bind {f : σ → Action σ β} (h : ∀ s, pre s → Ends pre (f s) post) :
    Ends pre (state >>= f) post :=
  fun s hs => h s hs s hs

end Ends

end Action

end ImageMetadata
