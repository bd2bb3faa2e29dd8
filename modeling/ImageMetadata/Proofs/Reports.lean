import ImageMetadata.Proofs.Yields
import ImageMetadata.Xmp

/-!
# What is reported

Whatever every part of a reader keeps to in its reports, the whole reader keeps to, however it ends.
A reader that reports nothing is quiet.
-/

namespace ImageMetadata

variable {α β γ σ : Type} {P : Event → Prop}

namespace Outcome

/-- Every event that is reported has a property. -/
structure Reports (P : Event → Prop) (x : Outcome α) : Prop where
  of_mem (event : Event) : event ∈ x.events → P event

namespace Reports

variable {x : Outcome α} {f : α → Outcome β}

theorem of_silent (h : x.events = []) : x.Reports P := by
  constructor
  intro event member
  rw [h] at member
  cases member

protected theorem mono {Q : Event → Prop} (h : x.Reports P) (k : ∀ event, P event → Q event) :
    x.Reports Q := ⟨fun event member => k event (h.of_mem event member)⟩

theorem of_single {event : Event} (single : x.events = [event]) (h : P event) : x.Reports P := by
  constructor
  rw [single]
  exact List.forall_mem_singleton.2 h

/-- What was reported before is reported too. -/
theorem append {events : List Event} {result : Except Problem β} (h : x.Reports P)
    (k : Reports P ⟨events, result⟩) : Reports P ⟨x.events ++ events, result⟩ :=
  ⟨List.forall_mem_append.2 ⟨h.of_mem, k.of_mem⟩⟩

protected theorem pure (a : α) : Reports P (pure a) := of_silent rfl

protected theorem fail (p : Problem) : Reports P (Outcome.fail p : Outcome α) := of_silent rfl

protected theorem ofExcept (x : Except Problem α) : Reports P (ofExcept x) := of_silent rfl

protected theorem trace {t : Trace} (h : P (.trace t)) : Reports P (Outcome.trace t) :=
  of_single rfl h

protected theorem flag (strict : Bool) {p : Problem} (h : P (.notice (.integrity p))) :
    Reports P (flag strict p) := by
  cases strict with
  | true => exact .fail p
  | false => exact of_single rfl h

protected theorem require (c : Bool) (p : Problem) : Reports P (require c p) := by
  cases c with
  | false => exact .fail p
  | true => exact .pure ()

protected theorem check (strict c : Bool) {p : Problem} (h : P (.notice (.integrity p))) :
    Reports P (check strict c p) := by
  cases c with
  | false => exact .flag strict h
  | true => exact .pure ()

protected theorem bind (h : x.Reports P) (k : ∀ a, (f a).Reports P) : (x >>= f).Reports P := by
  cases result : x.result with
  | error p =>
      rw [bind_of_error f result]
      exact ⟨h.of_mem⟩
  | ok a =>
      rw [bind_of_ok f result]
      exact h.append (k a)

/-- After a flagged problem a lenient reader goes on with a default. -/
theorem flag_pure (strict : Bool) {p : Problem} (h : P (.notice (.integrity p))) (a : α) :
    Reports P (do flag strict p; return a) := (Reports.flag strict h).bind fun _ => .pure a

theorem trace_bind {t : Trace} {f : Unit → Outcome α} (h : P (.trace t)) (k : (f ()).Reports P) :
    Reports P (trace t >>= f) := (Reports.trace h).bind fun _ => k

protected theorem map (h : x.Reports P) (f : α → β) : (f <$> x).Reports P := by
  rw [map_eq_pure_bind]
  exact h.bind fun a => .pure (f a)

protected theorem mapM {f : γ → Outcome α} (h : ∀ c, (f c).Reports P) (list : List γ) :
    (list.mapM f).Reports P := by
  induction list with
  | nil => exact .pure []
  | cons c rest ih =>
      rw [List.mapM_cons]
      exact (h c).bind fun a => ih.bind fun as => .pure (a :: as)

protected theorem rescue {handle : Problem → Outcome α} (h : x.Reports P)
    (k : ∀ p, (handle p).Reports P) : (x.rescue handle).Reports P := by
  unfold Outcome.rescue
  split
  · exact h
  · split
    · exact h.append (k _)
    · exact h

end Reports

end Outcome

namespace Action

/-- Every event that is reported, from whatever state, has a property. -/
structure Reports (P : Event → Prop) (x : Action σ α) : Prop where
  run (s : σ) : (x.run s).1.Reports P

namespace Reports

variable {x : Action σ α} {f : α → Action σ β}

protected theorem pure (a : α) : Reports P (pure a : Action σ α) := ⟨fun _ => .pure a⟩

protected theorem fail (p : Problem) : Reports P (Action.fail p : Action σ α) := ⟨fun _ => .fail p⟩

protected theorem lift {x : Outcome α} (h : x.Reports P) : Reports P (lift x : Action σ α) :=
  ⟨fun _ => h⟩

protected theorem update (change : σ → σ) : Reports P (update change) := ⟨fun _ => .pure ()⟩

protected theorem mono {Q : Event → Prop} (h : Reports P x) (k : ∀ event, P event → Q event) :
    Reports Q x := ⟨fun s => (h.run s).mono k⟩

protected theorem require (c : Bool) (p : Problem) :
    Reports P (Action.require c p : Action σ Unit) := .lift (.require c p)

protected theorem bind (h : Reports P x) (k : ∀ a, Reports P (f a)) : Reports P (x >>= f) := by
  constructor
  intro s
  rw [run_bind_fst]
  exact (h.run s).bind fun a => (k a).run _

protected theorem state_bind {f : σ → Action σ α} (h : ∀ s, Reports P (f s)) :
    Reports P (state >>= f) := ⟨fun s => (h s).run s⟩

protected theorem map (h : Reports P x) (f : α → β) : Reports P (f <$> x) := by
  rw [map_eq_pure_bind]
  exact h.bind fun a => .pure (f a)

protected theorem each {f : α → Action σ Unit} (h : ∀ a, Reports P (f a)) (list : List α) :
    Reports P (each f list) := by
  induction list with
  | nil => exact .pure ()
  | cons a rest ih => exact (h a).bind fun _ => ih

end Reports

/-- The action reports nothing. -/
abbrev IsQuiet (x : Action σ α) : Prop := Reports (fun _ => False) x

theorem IsQuiet.events_eq {x : Action σ α} (h : IsQuiet x) (s : σ) : (x.run s).1.events = [] :=
  List.eq_nil_iff_forall_not_mem.2 (h.run s).of_mem

/-- A sequence with a quiet first part fails with it, or it goes on as if nothing had been before.
-/
theorem IsQuiet.run_bind_cases {x : Action σ α} (h : IsQuiet x) (f : α → Action σ β) (s : σ) :
    (∃ p, ((x >>= f).run s).1 = Outcome.fail p) ∨
      ∃ a t, Yields x s a t ∧ ((x >>= f).run s).1 = ((f a).run t).1 := by
  have quiet := h.events_eq s
  rw [run_bind_fst]
  cases result : (x.run s).1.result with
  | error p =>
      rw [Outcome.bind_of_error _ result, quiet]
      exact .inl ⟨p, rfl⟩
  | ok a =>
      refine .inr ⟨a, _, ⟨result, rfl⟩, ?_⟩
      rw [Outcome.bind_of_ok _ result, quiet]
      rfl

end Action

namespace Metadata

open ImageMetadata.Action (Reports)

theorem reports_requireOpen : Reports P requireOpen := by
  apply Reports.state_bind
  intro m
  split
  · exact .fail _
  · exact .pure ()

theorem reports_addRecord (r : TextRecord) : Reports P (addRecord r) :=
  reports_requireOpen.bind fun _ => .update _

theorem reports_setXmp (tree : Option Xml.Document) : Reports P (setXmp tree) :=
  reports_requireOpen.bind fun _ => .update _

theorem reports_addDirectory {d : Tiff.Directory} {strict : Bool}
    (h : P (.notice (.integrity (.duplicateDirectory d.id d.offset)))) :
    Reports P (addDirectory d strict) := by
  refine reports_requireOpen.bind fun _ => .state_bind fun m => ?_
  split
  · exact (Reports.lift (.flag strict h)).bind fun _ => .pure false
  · exact (Reports.update _).bind fun _ => .pure true

/-- The only problem with a stream is that some of its directories are there. -/
theorem reports_addStream {stream : Tiff.Stream} {strict : Bool}
    (h : ∀ d : Tiff.Directory, P (.notice (.integrity (.duplicateDirectory d.id d.offset)))) :
    Reports P (addStream stream strict) := by
  refine reports_requireOpen.bind fun _ => (Reports.update _).bind fun _ => ?_
  exact .each (fun d => (reports_addDirectory (h d)).map _) stream.directories

end Metadata

/-- A packet that is not well formed is reported, and nothing else. -/
theorem Xmp.reports_collect (h : P (.notice .malformedXmp)) (packet : Bytes) :
    Action.Reports P (Xmp.collect packet) := by
  have malformed : (Xmp.read packet).Reports P := by
    unfold Xmp.read
    split
    · exact .pure _
    · exact (Outcome.Reports.of_single rfl h).bind fun _ => .pure none
  apply (Action.Reports.lift malformed).bind
  intro tree
  cases tree with
  | some tree => exact Metadata.reports_setXmp (some tree)
  | none => exact .pure ()

end ImageMetadata
