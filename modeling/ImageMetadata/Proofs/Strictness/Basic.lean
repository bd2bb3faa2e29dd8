import ImageMetadata.Proofs.Notices

/-!
# Strict and lenient outcomes

A strict reader and a lenient one do the same as long as there is no integrity problem. At the first
one the strict reader ends with a structural failure, whatever the lenient one does later. This
relation is kept by sequences and by handlers that never turn a failure into a result.
-/

namespace ImageMetadata

variable {α β σ : Type}

namespace Outcome

/-- How a strict outcome is related to the lenient one for the same input. -/
inductive Agrees (strict lenient : Outcome α) : Prop
  /-- There is no integrity problem, and nothing differs. -/
  | same (clean : lenient.integrity = []) (eq : strict = lenient)
  /-- There is an integrity problem, and the strict reader refuses the input. -/
  | refused {p : Problem} (warned : lenient.integrity ≠ []) (error : strict.result = .error p)
      (structural : p.isStructural = true)

namespace Agrees

variable {x y : Outcome α} {f g : α → Outcome β}

theorem rfl_of_clean (h : x.integrity = []) : Agrees x x := .same h rfl

protected theorem pure (a : α) : Agrees (pure a : Outcome α) (pure a) := rfl_of_clean rfl

protected theorem fail (p : Problem) : Agrees (fail p : Outcome α) (fail p) := rfl_of_clean rfl

protected theorem ofExcept (e : Except Problem α) : Agrees (ofExcept e) (ofExcept e) :=
  rfl_of_clean rfl

protected theorem trace (t : Trace) : Agrees (trace t) (trace t) := rfl_of_clean rfl

/-- The one place where the two readers part. -/
protected theorem flag {p : Problem} (h : p.isStructural = true) :
    Agrees (flag true p) (flag false p) :=
  .refused (by simp [flag, notify, integrity, Event.integrity?]) rfl h

protected theorem require (c : Bool) (p : Problem) : Agrees (require c p) (require c p) := by
  cases c with
  | false => exact .fail p
  | true => exact .pure ()

protected theorem check {p : Problem} (c : Bool) (h : p.isStructural = true) :
    Agrees (check true c p) (check false c p) := by
  cases c with
  | false => exact .flag h
  | true => exact .pure ()

/-- The second parts of two sequences only matter where the first ones report nothing and give a
result. -/
theorem bind_of_clean (h : Agrees x y)
    (k : y.integrity = [] → ∀ a, y.result = .ok a → Agrees (f a) (g a)) :
    Agrees (x >>= f) (y >>= g) := by
  cases h with
  | refused warned error structural =>
      refine .refused (fun clean => warned (integrity_eq_nil_of_bind clean)) ?_ structural
      rw [bind_of_error f error]
  | same clean eq =>
      subst eq
      cases hx : x.result with
      | error p =>
          refine .same ?_ ?_
          · rw [integrity_bind_of_error g hx, clean]
          · rw [bind_of_error f hx, bind_of_error g hx]
      | ok a =>
          cases k clean a hx with
          | same clean' eq =>
              refine .same ?_ ?_
              · rw [integrity_bind_of_ok g hx, clean, clean', List.append_nil]
              · rw [bind_of_ok f hx, bind_of_ok g hx, eq]
          | refused warned error structural =>
              refine .refused ?_ ?_ structural
              · rw [integrity_bind_of_ok g hx]
                exact List.append_ne_nil_of_right_ne_nil _ warned
              · rw [bind_of_ok f hx, error]

theorem bind_of_ok (h : Agrees x y) (k : ∀ a, y.result = .ok a → Agrees (f a) (g a)) :
    Agrees (x >>= f) (y >>= g) := h.bind_of_clean fun _ => k

protected theorem bind (h : Agrees x y) (k : ∀ a, Agrees (f a) (g a)) :
    Agrees (x >>= f) (y >>= g) := h.bind_of_ok fun a _ => k a

/-- The functions that are mapped only have to be the same where nothing is reported. -/
theorem map_of_clean {f g : α → β} (h : Agrees x y) (k : y.integrity = [] → f = g) :
    Agrees (f <$> x) (g <$> y) := by
  rw [map_eq_pure_bind, map_eq_pure_bind]
  apply h.bind_of_clean
  intro clean a _
  rw [k clean]
  exact .pure (g a)

protected theorem map (h : Agrees x y) (f : α → β) : Agrees (f <$> x) (f <$> y) :=
  h.map_of_clean fun _ => rfl

/-- After a flagged problem a lenient reader goes on with a default. -/
protected theorem flag_pure {p : Problem} (h : p.isStructural = true) (a : α) :
    Agrees (do flag true p; return a) (do flag false p; return a) :=
  (Agrees.flag h).bind fun _ => .pure a

protected theorem mapM {γ : Type} {f g : γ → Outcome α} (h : ∀ c, Agrees (f c) (g c)) :
    ∀ list : List γ, Agrees (list.mapM f) (list.mapM g)
  | [] => by
      rw [List.mapM_nil, List.mapM_nil]
      exact .pure []
  | c :: rest => by
      rw [List.mapM_cons, List.mapM_cons]
      exact (h c).bind fun a => (Agrees.mapM h rest).bind fun as => .pure (a :: as)

/-- A handler hides no integrity problem if the strict one always fails structurally. -/
protected theorem rescue (h : Agrees x y) {f g : Problem → Outcome α}
    (k : ∀ p, Agrees (f p) (g p))
    (strictly : ∀ p, ∃ q : Problem, (f p).result = .error q ∧ q.isStructural = true) :
    Agrees (x.rescue f) (y.rescue g) := by
  cases h with
  | refused warned error structural =>
      rename_i p
      obtain ⟨q, failed, structural'⟩ := strictly p
      refine .refused ?_ ?_ structural'
      · unfold rescue
        split
        · exact warned
        · split
          · simp only [integrity, List.filterMap_append]
            exact List.append_ne_nil_of_left_ne_nil warned _
          · exact warned
      · simp only [rescue, error, structural, if_true, failed]
  | same clean eq =>
      subst eq
      unfold rescue
      split
      · exact .same clean rfl
      · rename_i p _
        split
        · cases k p with
          | same clean' eq =>
              refine .same ?_ (by rw [eq])
              simp only [integrity, List.filterMap_append, List.append_eq_nil_iff]
              exact ⟨clean, clean'⟩
          | refused warned error structural =>
              refine .refused ?_ error structural
              simp only [integrity, List.filterMap_append]
              exact List.append_ne_nil_of_right_ne_nil _ warned
        · exact .same clean rfl

end Agrees

/-- A strict reader returns what a lenient one returns without an integrity warning, with the same
other warnings. It refuses, by a structural failure, what gives such a warning, and it fails where
the lenient one fails. -/
structure IsStrictFormOf (strict lenient : Outcome α) : Prop where
  ok_iff (a : α) : strict.result = .ok a ↔ lenient.result = .ok a ∧ lenient.integrity = []
  remarks_eq (a : α) : strict.result = .ok a → strict.remarks = lenient.remarks
  error_of_warned (a : α) : lenient.result = .ok a → lenient.integrity ≠ [] →
    ∃ p : Problem, strict.result = .error p ∧ p.isStructural = true
  error_of_error (p : Problem) : lenient.result = .error p → ∃ q, strict.result = .error q

theorem Agrees.isStrictFormOf {strict lenient : Outcome α} (h : Agrees strict lenient) :
    strict.IsStrictFormOf lenient := by
  cases h with
  | same clean eq =>
      subst eq
      exact
        { ok_iff := fun a => by simp [clean]
          remarks_eq := fun _ _ => rfl
          error_of_warned := fun _ _ warned => absurd clean warned
          error_of_error := fun p failed => ⟨p, failed⟩ }
  | refused warned error structural =>
      exact
        { ok_iff := fun a => by simp [error, warned]
          remarks_eq := fun a ok => by simp [error] at ok
          error_of_warned := fun _ _ _ => ⟨_, error, structural⟩
          error_of_error := fun _ _ => ⟨_, error⟩ }

end Outcome

namespace Action

/-- The same for readers with a state. Related states stay related while nothing is reported. -/
def Agrees (R : σ → σ → Prop) (strict lenient : Action σ α) : Prop :=
  ∀ s t, R s t → (strict.run s).1.Agrees (lenient.run t).1 ∧
    ((lenient.run t).1.integrity = [] → R (strict.run s).2 (lenient.run t).2)

namespace Agrees

variable {R : σ → σ → Prop} {x y : Action σ α} {f g : α → Action σ β}

protected theorem pure (a : α) : Agrees R (pure a) (pure a) :=
  fun _ _ h => ⟨.pure a, fun _ => h⟩

protected theorem lift {x y : Outcome α} (h : x.Agrees y) : Agrees R (lift x) (lift y) :=
  fun _ _ related => ⟨h, fun _ => related⟩

protected theorem fail (p : Problem) : Agrees R (fail p : Action σ α) (fail p) :=
  .lift (.fail p)

protected theorem require (c : Bool) (p : Problem) :
    Agrees R (Action.require c p : Action σ Unit) (Action.require c p) :=
  .lift (.require c p)

protected theorem when {x y : Action σ Unit} (c : Bool) (h : Agrees R x y) :
    Agrees R (Action.when c x) (Action.when c y) := by
  cases c with
  | false => exact .pure ()
  | true => exact h

protected theorem update {f : σ → σ} (h : ∀ s t, R s t → R (f s) (f t)) :
    Agrees R (update f) (update f) :=
  fun s t related => ⟨.pure (), fun _ => h s t related⟩

protected theorem bind (h : Agrees R x y) (k : ∀ a, Agrees R (f a) (g a)) :
    Agrees R (x >>= f) (y >>= g) := by
  intro s t related
  obtain ⟨first, kept⟩ := h s t related
  constructor
  · rw [run_bind_fst, run_bind_fst]
    exact first.bind_of_clean fun clean a _ => (k a _ _ (kept clean)).1
  · intro clean
    rw [run_bind_fst] at clean
    have clean_first := Outcome.integrity_eq_nil_of_bind clean
    cases first with
    | refused warned error structural => exact absurd clean_first warned
    | same _ eq =>
        have related' := kept clean_first
        rw [run_bind_snd, run_bind_snd, eq]
        cases hy : (y.run t).1.result with
        | error p => exact related'
        | ok a =>
            apply (k a _ _ related').2
            rw [Outcome.integrity_bind_of_ok _ hy] at clean
            exact (List.append_eq_nil_iff.1 clean).2

protected theorem each {f g : α → Action σ Unit} (h : ∀ a, Agrees R (f a) (g a))
    (list : List α) : Agrees R (Action.each f list) (Action.each g list) := by
  induction list with
  | nil => exact .pure ()
  | cons a rest ih => exact (h a).bind fun _ => ih

protected theorem map (h : Agrees R x y) (f : α → β) : Agrees R (f <$> x) (f <$> y) := by
  rw [map_eq_pure_bind, map_eq_pure_bind]
  exact h.bind fun a => .pure (f a)

/-- What follows an outcome only matters where it reports nothing. -/
protected theorem lift_bind {x y : Outcome α} (h : x.Agrees y)
    (k : y.integrity = [] → ∀ a, Agrees R (f a) (g a)) :
    Agrees R (lift x >>= f) (lift y >>= g) := by
  cases h with
  | same clean eq => exact (Agrees.lift (.same clean eq)).bind (k clean)
  | refused warned error structural =>
      intro s t _
      rw [run_bind_fst, run_bind_fst]
      constructor
      · refine .refused (fun clean => warned (Outcome.integrity_eq_nil_of_bind clean)) ?_ structural
        rw [run_lift, Outcome.bind_of_error _ error]
      · exact fun clean => absurd (Outcome.integrity_eq_nil_of_bind clean) warned

/-- Both readers may use the state as far as related states look the same to them. -/
protected theorem state_bind {f g : σ → Action σ β} (h : ∀ s t, R s t → Agrees R (f s) (g t)) :
    Agrees R (state >>= f) (state >>= g) :=
  fun s t related => by simpa only [run_state_bind] using h s t related s t related

end Agrees

end Action

end ImageMetadata
