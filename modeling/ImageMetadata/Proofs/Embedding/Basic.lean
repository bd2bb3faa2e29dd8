import ImageMetadata.Proofs.Runs
import ImageMetadata.Proofs.Tiff.Walk
import ImageMetadata.Tiff.File
import ImageMetadata.Xmp

/-!
# Embedded TIFF streams

A container carries a TIFF stream if reading the container gives what reading the stream alone
gives: the same header and directories with the same integrity warnings, or the same failure. Its
other parts may add anything but headers, directories and integrity warnings.
-/

namespace ImageMetadata

/-- The container shows the stream as it is. -/
structure Outcome.Carries (container stream : Outcome Metadata) : Prop where
  ok (m : Metadata) : stream.result = .ok m → ∃ m' : Metadata, container.result = .ok m' ∧
    m'.header = m.header ∧ m'.directories = m.directories
  error (p : Problem) : stream.result = .error p → container.result = .error p
  integrity_eq : container.integrity = stream.integrity

/-- What is read before the metadata are collected only has to be without a problem. -/
theorem Outcome.Carries.of_read {α : Type} {x : Outcome α} {a : α} {f : α → Outcome Metadata}
    {stream : Outcome Metadata} (read : x.Gives a) (h : (f a).Carries stream) :
    (x >>= f).Carries stream where
  ok m same := by
    rw [read.result_bind]
    exact h.ok m same
  error p failed := read.result_bind.trans (h.error p failed)
  integrity_eq := read.integrity_bind.trans h.integrity_eq

namespace Metadata

variable {m : Metadata} {x fill : Action Metadata Unit} {f : Unit → Action Metadata Unit}
  {stream : Outcome Tiff.Stream}

/-- The action ends well, without an integrity problem, and changes neither the header nor the
directories. -/
structure Spares (x : Action Metadata Unit) (m : Metadata) : Prop where
  gives : (x.run m).1.Gives ()
  frozen_eq : (x.run m).2.frozen = m.frozen
  header_eq : (x.run m).2.header = m.header
  directories_eq : (x.run m).2.directories = m.directories

namespace Spares

protected theorem pure : Spares (pure ()) m := ⟨.pure (), rfl, rfl, rfl⟩

protected theorem lift {x : Outcome Unit} (h : x.Gives ()) : Spares (Action.lift x) m :=
  ⟨h, rfl, rfl, rfl⟩

protected theorem bind (h : Spares x m) (k : Spares (f ()) (x.run m).2) : Spares (x >>= f) m where
  gives := by
    rw [Action.run_bind_fst]
    exact h.gives.bind k.gives
  frozen_eq := by
    rw [Action.run_bind_snd, h.gives.result_eq]
    exact k.frozen_eq.trans h.frozen_eq
  header_eq := by
    rw [Action.run_bind_snd, h.gives.result_eq]
    exact k.header_eq.trans h.header_eq
  directories_eq := by
    rw [Action.run_bind_snd, h.gives.result_eq]
    exact k.directories_eq.trans h.directories_eq

protected theorem state_bind {f : Metadata → Action Metadata Unit} (h : Spares (f m) m) :
    Spares (Action.state >>= f) m := ⟨h.gives, h.frozen_eq, h.header_eq, h.directories_eq⟩

/-- What was found without a problem is passed on. -/
theorem lift_bind {α : Type} {x : Outcome α} {a : α} {f : α → Action Metadata Unit} (h : x.Gives a)
    (k : Spares (f a) m) : Spares (Action.lift x >>= f) m := by
  have state := h.run_lift_bind_snd f m
  refine ⟨?_, ?_, ?_, ?_⟩
  · rw [Action.run_bind_fst]
    exact h.bind k.gives
  · rw [state, k.frozen_eq]
  · rw [state, k.header_eq]
  · rw [state, k.directories_eq]

protected theorem when (c : Bool) (h : Spares x m) : Spares (Action.when c x) m := by
  cases c with
  | false => exact Spares.pure
  | true => exact h

/-- Where each part only needs what none of them changes, all parts are fine. -/
protected theorem each {α : Type} {f : α → Action Metadata Unit} {list : List α}
    (h : ∀ a ∈ list, ∀ m' : Metadata, m'.frozen = m.frozen → m'.header = m.header →
      Spares (f a) m') : Spares (Action.each f list) m := by
  induction list generalizing m with
  | nil => exact Spares.pure
  | cons a rest ih =>
      have first : Spares (f a) m := h a List.mem_cons_self m rfl rfl
      apply first.bind
      apply ih
      intro b member m' frozen header
      exact h b (List.mem_cons_of_mem a member) m' (frozen.trans first.frozen_eq)
        (header.trans first.header_eq)

end Spares

theorem run_requireOpen (isOpen : m.frozen = false) : requireOpen.run m = (pure (), m) := by
  unfold requireOpen
  rw [Action.run_state_bind, isOpen]
  rfl

theorem spares_requireOpen (isOpen : m.frozen = false) : Spares requireOpen m := by
  constructor <;> rw [run_requireOpen isOpen]
  exact .pure ()

theorem spares_addRecord (isOpen : m.frozen = false) (r : TextRecord) : Spares (addRecord r) m := by
  have checked := spares_requireOpen isOpen
  exact checked.bind (by rw [run_requireOpen isOpen]; exact ⟨.pure (), rfl, rfl, rfl⟩)

theorem spares_setXmp (isOpen : m.frozen = false) (tree : Option Xml.Document) :
    Spares (setXmp tree) m := by
  have checked := spares_requireOpen isOpen
  exact checked.bind (by rw [run_requireOpen isOpen]; exact ⟨.pure (), rfl, rfl, rfl⟩)

/-- Neither a header nor a directory was added yet, and both may be. -/
structure IsFresh (m : Metadata) : Prop where
  frozen_eq : m.frozen = false
  header_eq : m.header = none
  directories_eq : m.directories = []

theorem IsFresh.empty (format : String) : (Metadata.empty format).IsFresh := ⟨rfl, rfl, rfl⟩

theorem IsFresh.of_spares (h : m.IsFresh) (spared : Spares x m) : (x.run m).2.IsFresh where
  frozen_eq := spared.frozen_eq.trans h.frozen_eq
  header_eq := spared.header_eq.trans h.header_eq
  directories_eq := spared.directories_eq.trans h.directories_eq

theorem contains_eq_false {id : Tiff.DirectoryId}
    (new : id ∉ m.directories.map Tiff.Directory.id) : m.contains id = false := by
  simp only [contains, directory?, Option.isSome_eq_false_iff, Option.isNone_iff_eq_none,
    List.find?_eq_none, beq_iff_eq]
  exact fun d member same => new (List.mem_map.2 ⟨d, member, same⟩)

theorem run_addDirectory {d : Tiff.Directory} (strict : Bool) (isOpen : m.frozen = false)
    (new : d.id ∉ m.directories.map Tiff.Directory.id) :
    (addDirectory d strict).run m = (pure true, { m with directories := m.directories ++ [d] }) := by
  unfold addDirectory
  rw [Action.run_bind_of_pure _ (run_requireOpen isOpen), Action.run_state_bind,
    contains_eq_false new]
  rfl

theorem addDirectories_cons (strict : Bool) (d : Tiff.Directory) (rest : List Tiff.Directory) :
    addDirectories strict (d :: rest) =
      addDirectory d strict >>= fun _ => addDirectories strict rest := by
  rw [addDirectories, Action.each, discard, LawfulFunctor.map_const]
  simp [addDirectories]

/-- Directories at different free places are all added. -/
theorem run_addDirectories (list : List Tiff.Directory) (strict : Bool) (isOpen : m.frozen = false)
    (distinct : ((m.directories ++ list).map Tiff.Directory.id).Nodup) :
    (addDirectories strict list).run m =
      (pure (), { m with directories := m.directories ++ list }) := by
  induction list generalizing m with
  | nil => rw [List.append_nil]; rfl
  | cons d rest ih =>
      have new : d.id ∉ m.directories.map Tiff.Directory.id := by
        rw [List.map_append, List.nodup_append] at distinct
        exact fun known => distinct.2.2 _ known d.id (by simp) rfl
      have others := ih (m := { m with directories := m.directories ++ [d] }) isOpen
        (by simpa using distinct)
      rw [addDirectories_cons, Action.run_bind_of_pure _ (run_addDirectory strict isOpen new),
        others, List.append_assoc, List.singleton_append]

/-- Into fresh metadata, the header and every directory of a stream are added. -/
theorem run_addStream {t : Tiff.Stream} (strict : Bool) (fresh : m.IsFresh)
    (distinct : (t.directories.map Tiff.Directory.id).Nodup) :
    (addStream t strict).run m =
      (pure (), { m with header := some t.header, directories := t.directories }) := by
  have noted : (do
      requireOpen
      Action.update fun m => { m with header := m.header.or (some t.header) } :
        Action Metadata Unit).run m = (pure (), { m with header := some t.header }) := by
    rw [Action.run_bind_of_pure _ (run_requireOpen fresh.frozen_eq), Action.run_update,
      fresh.header_eq]
    rfl
  have added := run_addDirectories (m := { m with header := some t.header }) t.directories strict
    fresh.frozen_eq (by simpa [fresh.directories_eq] using distinct)
  calc
    (addStream t strict).run m =
        (addDirectories strict t.directories).run { m with header := some t.header } := by
      rw [addStream, ← bind_assoc, Action.run_bind_of_pure _ noted]
    _ = (pure (), { m with header := some t.header, directories := t.directories }) := by
      rw [added, fresh.directories_eq, List.nil_append]

theorem run_collectTiff_of_error {bytes : Bytes} {policy : Policy} {reports : List Event}
    {p : Problem}
    (read : Tiff.Stream.read bytes 0 policy.strict policy.limit = ⟨reports, .error p⟩) :
    (Tiff.collect bytes policy).run m = (⟨reports, .error p⟩, m) :=
  Action.run_bind_of_error _ (congrArg (fun x => (x, m)) read)

/-- What a stream holds is all that is collected from it. -/
theorem run_collectTiff_of_ok {bytes : Bytes} {policy : Policy} {reports : List Event}
    {t : Tiff.Stream} (fresh : m.IsFresh)
    (read : Tiff.Stream.read bytes 0 policy.strict policy.limit = ⟨reports, .ok t⟩) :
    (Tiff.collect bytes policy).run m =
      (⟨reports, .ok ()⟩, { m with header := some t.header, directories := t.directories }) := by
  have distinct := Tiff.Stream.distinct_of_read (congrArg Outcome.result read)
  apply (Action.run_bind_of_ok _ (congrArg (fun x => (x, m)) read)).trans
  rw [run_addStream policy.strict fresh distinct]
  simp

/-- From given metadata, the action adds a stream: its header and directories are there at the end,
with the integrity warnings of the stream, or the action fails as the stream does. -/
structure Fills (fill : Action Metadata Unit) (stream : Outcome Tiff.Stream) (m : Metadata) :
    Prop where
  ok (t : Tiff.Stream) : stream.result = .ok t → (fill.run m).1.result = .ok () ∧
    (fill.run m).2.frozen = false ∧ (fill.run m).2.header = some t.header ∧
    (fill.run m).2.directories = t.directories
  error (p : Problem) : stream.result = .error p → (fill.run m).1.result = .error p
  integrity_eq : (fill.run m).1.integrity = stream.integrity

theorem collect_of_ok {format : Format} (h : (fill.run (empty format.name)).1.result = .ok ()) :
    collect format fill = ⟨(fill.run (empty format.name)).1.events,
      .ok { (fill.run (empty format.name)).2 with frozen := true }⟩ := by
  have frozen : ((do fill; freeze : Action Metadata Unit).run (empty format.name)) =
      (⟨(fill.run (empty format.name)).1.events, .ok ()⟩,
        { (fill.run (empty format.name)).2 with frozen := true }) := by
    refine Prod.ext ?_ ?_
    · rw [Action.run_bind_fst, Outcome.bind_of_ok _ h]
      simp [freeze]
    · rw [Action.run_bind_snd, h]
      rfl
  unfold collect
  rw [frozen]
  exact Outcome.map_of_ok _ rfl

theorem collect_of_error {format : Format} {p : Problem}
    (h : (fill.run (empty format.name)).1.result = .error p) :
    collect format fill = ⟨(fill.run (empty format.name)).1.events, .error p⟩ := by
  have failed : ((do fill; freeze : Action Metadata Unit).run (empty format.name)).1 =
      ⟨(fill.run (empty format.name)).1.events, .error p⟩ := by
    rw [Action.run_bind_fst, Outcome.bind_of_error _ h]
  apply (Outcome.map_of_error _ (congrArg Outcome.result failed)).trans
  rw [failed]

/-- Metadata are collected where the action that fills them ends well, with its reports. -/
theorem collect_eq_iff {format : Format} {reports : List Event} {m : Metadata} :
    collect format fill = ⟨reports, .ok m⟩ ↔
      ∃ filled, fill.run (empty format.name) = (⟨reports, .ok ()⟩, filled) ∧
        { filled with frozen := true } = m := by
  rcases run : fill.run (empty format.name) with ⟨⟨events, p | _⟩, filled⟩
  · have failed : (fill.run (empty format.name)).1.result = .error p := by rw [run]
    rw [collect_of_error failed]
    simp
  · have ended : (fill.run (empty format.name)).1.result = .ok () := by rw [run]
    rw [collect_of_ok ended, run]
    constructor
    · intro same
      cases same
      exact ⟨filled, rfl, rfl⟩
    · rintro ⟨_, same, rfl⟩
      cases same
      rfl

namespace Fills

theorem of_fresh (bytes : Bytes) (policy : Policy) (fresh : m.IsFresh) :
    Fills (Tiff.collect bytes policy) (Tiff.Stream.read bytes 0 policy.strict policy.limit) m := by
  cases read : Tiff.Stream.read bytes 0 policy.strict policy.limit with
  | mk events result =>
      cases result with
      | error p =>
          have failed := run_collectTiff_of_error (m := m) read
          refine ⟨fun t ok => ?_, fun q same => ?_, ?_⟩
          · cases ok
          · rw [failed]
            exact congrArg Except.error (Except.error.inj same)
          · rw [failed]
            rfl
      | ok t =>
          have filled := run_collectTiff_of_ok fresh read
          refine ⟨fun t' ok => ?_, fun q failed => ?_, ?_⟩
          · cases ok
            rw [filled]
            exact ⟨rfl, fresh.frozen_eq, rfl, rfl⟩
          · cases failed
          · rw [filled]
            rfl

protected theorem state_bind {f : Metadata → Action Metadata Unit} (h : Fills (f m) stream m) :
    Fills (Action.state >>= f) stream m := ⟨h.ok, h.error, h.integrity_eq⟩

/-- What was found without a problem is passed on. -/
theorem lift_bind {α : Type} {x : Outcome α} {a : α} {f : α → Action Metadata Unit} (h : x.Gives a)
    (k : Fills (f a) stream m) : Fills (Action.lift x >>= f) stream m := by
  have result : ((Action.lift x >>= f).run m).1.result = ((f a).run m).1.result := by
    rw [Action.run_bind_fst]
    exact h.result_bind
  have state := h.run_lift_bind_snd f m
  refine ⟨fun t read => ?_, fun p failed => ?_, ?_⟩
  · rw [result, state]
    exact k.ok t read
  · rw [result]
    exact k.error p failed
  · rw [Action.run_bind_fst]
    exact h.integrity_bind.trans k.integrity_eq

/-- What comes before the stream must not touch what the stream fills. -/
theorem before (spared : Spares x m) (h : Fills (f ()) stream (x.run m).2) :
    Fills (x >>= f) stream m where
  ok t read := by
    rw [Action.run_bind_fst, Action.run_bind_snd, spared.gives.result_bind, spared.gives.result_eq]
    exact h.ok t read
  error p failed := by
    rw [Action.run_bind_fst]
    exact spared.gives.result_bind.trans (h.error p failed)
  integrity_eq := by
    rw [Action.run_bind_fst]
    exact spared.gives.integrity_bind.trans h.integrity_eq

/-- What comes after the stream must not touch what the stream has filled. -/
theorem after (h : Fills fill stream m)
    (spared : ∀ m' : Metadata, m'.frozen = false → m'.header.isSome → Spares (f ()) m') :
    Fills (fill >>= f) stream m := by
  cases read : stream.result with
  | error p =>
      have failed := h.error p read
      refine ⟨fun t ok => ?_, fun q same => ?_, ?_⟩
      · rw [read] at ok
        cases ok
      · obtain rfl : p = q := by simpa [read] using same
        rw [Action.run_bind_fst, Outcome.bind_of_error _ failed]
      · rw [Action.run_bind_fst, Outcome.integrity_bind_of_error _ failed, h.integrity_eq]
  | ok t =>
      obtain ⟨result, isOpen, header, directories⟩ := h.ok t read
      have rest := spared _ isOpen (by rw [header]; rfl)
      refine ⟨fun t' ok => ?_, fun q failed => ?_, ?_⟩
      · obtain rfl : t = t' := by simpa [read] using ok
        rw [Action.run_bind_fst, Action.run_bind_snd, Outcome.bind_of_ok _ result, result]
        exact ⟨rest.gives.result_eq, rest.frozen_eq.trans isOpen, rest.header_eq.trans header,
          rest.directories_eq.trans directories⟩
      · rw [read] at failed
        cases failed
      · rw [Action.run_bind_fst, Outcome.integrity_bind_of_ok _ result, rest.gives.integrity_eq,
          List.append_nil, h.integrity_eq]

/-- Two containers that are filled with one stream carry it alike. -/
theorem carries {format format' : Format} {fill' : Action Metadata Unit}
    (h : Fills fill stream (empty format.name)) (h' : Fills fill' stream (empty format'.name)) :
    (collect format fill).Carries (collect format' fill') := by
  cases read : stream.result with
  | error p =>
      have failed := collect_of_error (h.error p read)
      have failed' := collect_of_error (h'.error p read)
      refine ⟨fun m ok => ?_, fun q same => ?_, ?_⟩
      · rw [failed'] at ok
        cases ok
      · rw [failed'] at same
        rw [failed]
        exact same
      · rw [failed, failed']
        exact h.integrity_eq.trans h'.integrity_eq.symm
  | ok t =>
      obtain ⟨result, _, header, directories⟩ := h.ok t read
      obtain ⟨result', _, header', directories'⟩ := h'.ok t read
      have found := collect_of_ok result
      have found' := collect_of_ok result'
      refine ⟨fun m ok => ?_, fun q failed => ?_, ?_⟩
      · rw [found'] at ok
        cases ok
        exact ⟨_, congrArg Outcome.result found, header.trans header'.symm,
          directories.trans directories'.symm⟩
      · rw [found'] at failed
        cases failed
      · rw [found, found']
        exact h.integrity_eq.trans h'.integrity_eq.symm

end Fills

end Metadata

end ImageMetadata
