import ImageMetadata.Proofs.Tiff.Written

/-!
# Routes of the walk

A walk follows a route if every link leads to a free place that is not too deep and whose directory
is read without a warning. Then the directories of the walk are those of the route, in its order,
and nothing else is reported. The directories of a layout are read where they stand, so a route over
them only has to follow their links.
-/

namespace ImageMetadata.Tiff

/-- What is reported of a directory that is read. -/
def Directory.event (d : Directory) : Event :=
  .trace (.directoryRead d.id d.offset d.entries.length)

namespace Source

variable {s : Source} {w : Walk} {t : Task} {stack : List Task} {n : Nat} {ds : List Directory}

/-- The directories that are read from a stack of tasks while every link leads to a free place; the
first one gets the number. -/
inductive Route (s : Source) : Nat → List Task → List Directory → Prop
  | done (n : Nat) : Route s n [] []
  | step {n : Nat} {t : Task} {stack last : List Task} {ds : List Directory} {id : DirectoryId}
      {contents : Contents} (named : t.link.id = some id) (shallow : (t.depth : Int) ≤ s.limit)
      (read : readContents s.bytes s.header s.strict id (s.position t) = pure contents)
      (followed : s.follow t id contents.next = pure last)
      (later : Route s (n + 1)
        ((contents.children.map fun link => ⟨link, some n, t.depth + 1⟩) ++ last ++ stack) ds) :
      Route s n (t :: stack)
        (⟨id, s.position t, s.header.order, contents.entries, n, t.parent, t.depth⟩ :: ds)

/-- A link to a free place is followed to its directory. -/
theorem visit_of_free {id : DirectoryId} {contents : Contents} {last : List Task}
    (named : t.link.id = some id) (shallow : (t.depth : Int) ≤ s.limit)
    (fresh : s.position t ∉ w.visited) (free : w.takes id = false)
    (read : readContents s.bytes s.header s.strict id (s.position t) = pure contents)
    (followed : s.follow t id contents.next = pure last) :
    s.visit w t =
      ⟨[.trace (.directoryRead id (s.position t) contents.entries.length)],
        .ok (({ w with visited := s.position t :: w.visited } : Walk).push
            ⟨id, s.position t, s.header.order, contents.entries, w.directories.length, t.parent,
              t.depth⟩,
          (contents.children.map fun link => ⟨link, some w.directories.length, t.depth + 1⟩) ++
            last)⟩ := by
  have accepted : s.accept w t =
      (.ok id, { w with visited := s.position t :: w.visited }) := by
    simp [accept, place, named, fresh, free, Int.not_lt.2 shallow]
  have opened : s.open? { w with visited := s.position t :: w.visited } t id =
      pure (some contents) := by
    simp only [open?, read, map_pure]
    split <;> rfl
  unfold visit
  rw [accepted]
  dsimp only
  rw [opened, pure_bind]
  dsimp only
  rw [followed]
  rfl

/-- A walk along a route reads its directories and reports nothing else. -/
theorem Route.walk_eq (route : s.Route n stack ds) (count : w.directories.length = n)
    (fresh : ∀ d ∈ ds, d.offset ∉ w.visited ∧ w.takes d.id = false)
    (offsets : (ds.map Directory.offset).Nodup) (ids : (ds.map Directory.id).Nodup) :
    ∃ v, s.walk w stack = ⟨ds.map Directory.event, .ok v⟩ ∧
      v.directories = w.directories ++ ds := by
  induction route generalizing w with
  | done n => exact ⟨w, by rw [walk_nil]; rfl, (List.append_nil _).symm⟩
  | @step n t stack last ds id contents named shallow read followed later ih =>
      rw [List.map_cons, List.nodup_cons] at offsets ids
      obtain ⟨new, free⟩ := fresh _ (List.mem_cons_self ..)
      have visited := visit_of_free named shallow new free read followed
      rw [count] at visited
      let u : Walk := ({ w with visited := s.position t :: w.visited } : Walk).push
        ⟨id, s.position t, s.header.order, contents.entries, n, t.parent, t.depth⟩
      have others : ∀ d ∈ ds, d.offset ∉ u.visited ∧ u.takes d.id = false := by
        intro d member
        obtain ⟨unvisited, untaken⟩ := fresh d (List.mem_cons_of_mem _ member)
        have elsewhere : d.offset ≠ s.position t :=
          fun same => offsets.1 (List.mem_map.2 ⟨d, member, same⟩)
        have other : id ≠ d.id :=
          fun same => ids.1 (List.mem_map.2 ⟨d, member, same.symm⟩)
        refine ⟨by simpa [u, Walk.push, elsewhere] using unvisited, ?_⟩
        rw [Walk.takes_push, Bool.or_eq_false_iff]
        exact ⟨untaken, by simpa using other⟩
      obtain ⟨v, walked, directories⟩ := ih (w := u) (by simp [u, Walk.push, count]) others
        offsets.2 ids.2
      refine ⟨v, ?_, by rw [directories]; simp [u, Walk.push]⟩
      rw [walk_cons, visited, Outcome.bind_of_ok _ rfl]
      dsimp only
      rw [walked]
      rfl

/-- Routes from two parts of a stack follow each other. -/
theorem Route.append {stack' : List Task} {ds' : List Directory} (route : s.Route n stack ds)
    (later : s.Route (n + ds.length) stack' ds') : s.Route n (stack ++ stack') (ds ++ ds') := by
  induction route with
  | done n => exact later
  | @step n t stack last ds id contents named shallow read followed _ ih =>
      rw [List.length_cons, Nat.add_comm ds.length, ← Nat.add_assoc] at later
      have others := ih later
      rw [List.append_assoc] at others
      exact .step named shallow read followed others

/-- A directory that was laid out can be read at its place. -/
structure Stands (s : Source) (b : Block) : Prop where
  readable : ∀ f ∈ b.fields, f.IsReadable s.header b.id.family
  fits : b.Fits s.header
  stored : s.bytes.Holds (b.bytes s.header) b.offset

end Source

/-- A directory that is read is one that was laid out. -/
structure Directory.IsOf (d : Directory) (b : Block) : Prop where
  id_eq : d.id = b.id
  offset_eq : d.offset = b.offset
  fields_eq : d.entries.map Entry.field = b.fields

namespace Source.Route

variable {s : Source} {n depth : Nat} {parent : Option Nat} {ds : List Directory}

/-- The route goes on with the directories that a directory leads to. -/
theorem of_stands {b : Block} {last : List Task} (base : s.header.base = 0) (stands : s.Stands b)
    (shallow : (depth : Int) ≤ s.limit)
    (followed : s.follow ⟨⟨some b.id, b.offset⟩, parent, depth⟩ b.id b.next = pure last)
    (later : s.Route (n + 1) (((b.fields.flatMap (Field.links s.header.order)).map
      fun link => ⟨link, some n, depth + 1⟩) ++ last) ds) :
    ∃ d : Directory, d.IsOf b ∧
      s.Route n [⟨⟨some b.id, b.offset⟩, parent, depth⟩] (d :: ds) := by
  obtain ⟨entries, same, read⟩ := Block.readContents_of_holds s.strict base
    stands.readable stands.fits stands.stored
  have place : s.position ⟨⟨some b.id, b.offset⟩, parent, depth⟩ = b.offset := by
    rw [position, base, Nat.zero_add]
  refine ⟨_, ?_, .step rfl shallow (by rw [place]; exact read) followed (by simpa using later)⟩
  exact ⟨rfl, place, same⟩

/-- A directory that leads nowhere is a route of its own. -/
theorem of_leaf {b : Block} (base : s.header.base = 0) (stands : s.Stands b)
    (shallow : (depth : Int) ≤ s.limit)
    (nowhere : b.fields.flatMap (Field.links s.header.order) = []) (last : b.next = 0) :
    ∃ d : Directory, d.IsOf b ∧ s.Route n [⟨⟨some b.id, b.offset⟩, parent, depth⟩] [d] := by
  have followed : s.follow ⟨⟨some b.id, b.offset⟩, parent, depth⟩ b.id b.next = pure [] := by
    rw [last]
    rfl
  apply of_stands base stands shallow followed
  rw [nowhere]
  exact .done _

/-- A directory that may be missing and that leads nowhere. -/
theorem of_optional {id : DirectoryId} {offset : Nat} {fields? : Option (List Field)}
    (base : s.header.base = 0) (stands : ∀ b ∈ Block.optional id offset fields?, s.Stands b)
    (shallow : (depth : Int) ≤ s.limit)
    (plain : ∀ fields ∈ fields?, fields.flatMap (Field.links s.header.order) = []) :
    ∃ ds : List Directory, List.Forall₂ Directory.IsOf ds (Block.optional id offset fields?) ∧
      s.Route n (fields?.map fun _ => ⟨⟨some id, offset⟩, parent, depth⟩).toList ds := by
  cases fields? with
  | none => exact ⟨[], .nil, .done n⟩
  | some fields =>
      have here := stands ⟨id, offset, fields, 0⟩ (List.mem_singleton_self _)
      obtain ⟨d, is_of, route⟩ := of_leaf base here shallow (plain fields rfl) rfl
      exact ⟨[d], .cons is_of .nil, route⟩

end Source.Route

/-- A stream whose directories lie on a route is read along the route. -/
theorem Stream.read_of_route {bytes : Bytes} {order : ByteOrder} {big strict : Bool} {limit : Int}
    {ds : List Directory} (stored : bytes.Holds (Header.laidOut order big).bytes 0)
    (room : (Header.laidOut order big).firstOffset + (Header.laidOut order big).countSize ≤
      bytes.length)
    (route : (⟨bytes, .laidOut order big, strict, limit⟩ : Source).Route 0
      [⟨.first (Header.laidOut order big).firstOffset, none, 0⟩] ds)
    (offsets : (ds.map Directory.offset).Nodup) (ids : (ds.map Directory.id).Nodup) :
    Stream.read bytes 0 strict limit =
      ⟨ds.map Directory.event, .ok ⟨.laidOut order big, ds⟩⟩ := by
  obtain ⟨v, walked, directories⟩ := route.walk_eq (w := Walk.start) rfl
    (by simp [Walk.start, Walk.takes]) offsets ids
  have base : (Header.laidOut order big).base = 0 := by cases big <;> rfl
  have first : ((Header.laidOut order big).firstOffset != 0) = true := by cases big <;> rfl
  have inside : decide ((Header.laidOut order big).base + (Header.laidOut order big).firstOffset +
      (Header.laidOut order big).countSize ≤ bytes.length) = true := by
    rw [base]
    exact decide_eq_true (by omega)
  unfold Stream.read
  rw [Header.read_of_holds strict stored, pure_bind]
  simp only [first, inside, Bool.and_self, Outcome.require_true, pure_bind]
  rw [walked, Outcome.bind_of_ok _ rfl]
  simp [directories, Walk.start]

/-- Directories are at the places that were laid out. -/
theorem Directory.IsOf.places {ds : List Directory} {blocks : List Block}
    (are : List.Forall₂ Directory.IsOf ds blocks) :
    ds.map Directory.offset = blocks.map Block.offset ∧ ds.map Directory.id = blocks.map Block.id := by
  induction are with
  | nil => exact ⟨rfl, rfl⟩
  | cons is_of _ ih => simp [is_of.offset_eq, is_of.id_eq, ih.1, ih.2]

/-- Bytes are read as a header and the directories that were laid out; nothing is reported but that
they are read. -/
def ReadsAs (bytes : Bytes) (strict : Bool) (limit : Int) (h : Header) (blocks : List Block) :
    Prop :=
  ∃ ds : List Directory, List.Forall₂ Directory.IsOf ds blocks ∧
    Stream.read bytes 0 strict limit = ⟨ds.map Directory.event, .ok ⟨h, ds⟩⟩

theorem readsAs_of_route {bytes : Bytes} {order : ByteOrder} {big strict : Bool} {limit : Int}
    {ds : List Directory} {blocks : List Block} {rest : Bytes}
    (laid : bytes = (Header.laidOut order big).bytes ++ rest)
    (room : (Header.laidOut order big).countSize ≤ rest.length)
    (are : List.Forall₂ Directory.IsOf ds blocks)
    (route : (⟨bytes, .laidOut order big, strict, limit⟩ : Source).Route 0
      [⟨.first (Header.laidOut order big).firstOffset, none, 0⟩] ds)
    (offsets : (blocks.map Block.offset).Nodup) (ids : (blocks.map Block.id).Nodup) :
    ReadsAs bytes strict limit (.laidOut order big) blocks := by
  obtain ⟨offsets_eq, ids_eq⟩ := Directory.IsOf.places are
  have stored : bytes.Holds (Header.laidOut order big).bytes 0 := ⟨[], rest, laid, rfl⟩
  have inside : (Header.laidOut order big).firstOffset + (Header.laidOut order big).countSize ≤
      bytes.length := by
    rw [laid, List.length_append, Header.length_bytes]
    omega
  exact ⟨ds, are, Stream.read_of_route stored inside route (offsets_eq ▸ offsets) (ids_eq ▸ ids)⟩

end ImageMetadata.Tiff
