import ImageMetadata.Proofs.Tiff.Entries
import Mathlib.Data.List.Nodup

/-!
# Directories as an arena

The directories of a stream form a tree that is kept in a list: each one says by an index which
earlier one points to it. The main chain is numbered without a gap and has no parent; every other
directory lies below one whose family may point to it. The depths follow the parents. All of this
rests on what is known of the links that are still to be followed.
-/

namespace ImageMetadata.Tiff

namespace DirectoryId

/-- The number of a place in the main chain. -/
def chainNumber? : DirectoryId → Option Nat
  | ifd n => some n
  | _ => none

/-- The number of a place among the subordinate image directories. -/
def subIfdNumber? : DirectoryId → Option Nat
  | subIfd n => some n
  | _ => none

/-- Where the entries of a directory may lead, by its place: those of an image to the EXIF, the GPS
and subordinate image directories, and those of the EXIF directory to the interoperability
directory. -/
inductive Holds : DirectoryId → Option DirectoryId → Prop
  | exif {id : DirectoryId} (image : id.family = .image) : Holds id (some .exif)
  | gps {id : DirectoryId} (image : id.family = .image) : Holds id (some .gps)
  | subIfd {id : DirectoryId} (image : id.family = .image) : Holds id none
  | interop : Holds .exif (some .interop)

theorem eq_exif_of_family {id : DirectoryId} (h : id.family = .exif) : id = .exif := by
  cases id <;> simp_all [family]

end DirectoryId

section Links

variable {bytes : Bytes} {h : Header} {strict : Bool} {id : DirectoryId}

/-- Where a pointer leads; a subordinate image directory has no fixed place. -/
def Pointer.target? : Pointer → Option DirectoryId
  | .fixed id => some id
  | .subIfd => none

/-- The tables of tags say which directories hold which pointers. -/
theorem holds_of_pointer {tag : Nat} {name : String} {pointer : Pointer}
    (known : id.family.name? tag = some name) (points : Pointer.ofTag? tag = some pointer) :
    id.Holds pointer.target? := by
  have image : ∀ family : Family, (family.name? Tag.exifIfd).isSome ∨
      (family.name? Tag.gpsIfd).isSome ∨ (family.name? Tag.subIfds).isSome → family = .image := by
    intro family
    cases family <;> decide
  have exif : ∀ family : Family, (family.name? Tag.interopIfd).isSome → family = .exif := by
    intro family
    cases family <;> decide
  unfold Pointer.ofTag? at points
  split at points
  · rename_i tag_eq
    cases points
    exact .exif (image _ (.inl (by simp [← tag_eq, known])))
  split at points
  · rename_i tag_eq
    cases points
    exact .gps (image _ (.inr (.inl (by simp [← tag_eq, known]))))
  split at points
  · rename_i tag_eq
    cases points
    have family : id.family = .exif := exif _ (by simp [← tag_eq, known])
    rw [DirectoryId.eq_exif_of_family family]
    exact .interop
  split at points
  · rename_i tag_eq
    cases points
    exact .subIfd (image _ (.inr (.inr (by simp [← tag_eq, known]))))
  · cases points

/-- The value of an entry only holds links of the sort that its tag stands for. -/
theorem holds_of_targets {e : Entry} {links : List Link}
    (known : id.family.name? e.tag = some e.name) (targets : (e.targets strict).result = .ok links) :
    ∀ link ∈ links, id.Holds link.id := by
  intro link member
  unfold Entry.targets at targets
  cases points : Pointer.ofTag? e.tag with
  | none =>
      rw [points] at targets
      cases targets
      cases member
  | some pointer =>
      have holds := holds_of_pointer known points
      rw [points] at targets
      dsimp only at targets
      split at targets
      · cases pointer with
        | subIfd =>
            cases targets
            obtain ⟨offset, _, rfl⟩ := List.mem_map.1 member
            exact holds
        | fixed target =>
            cases targets
            obtain ⟨offset, _, rfl⟩ := List.mem_map.1 member
            exact holds
      · obtain ⟨_, _, ⟨⟩⟩ := Outcome.ok_of_bind targets
        cases member

theorem holds_of_found {list : List Nat} {found : List (Option (Entry × List Link))}
    (read : List.Forall₂ (ReadsEntry bytes h strict id) list found) :
    ∀ link ∈ (found.filterMap fun r => r).flatMap Prod.snd, id.Holds link.id := by
  induction read with
  | nil => simp
  | cons first _ ih =>
      cases first with
      | skipped _ => exact ih
      | kept _ at_slot targets =>
          have known := holds_of_targets at_slot.name_eq targets
          intro link member
          rcases List.mem_append.1 member with here | later
          · exact known link here
          · exact ih link later

/-- The links of a directory lead where directories of its family may lead. -/
theorem holds_of_readContents {position : Nat} {contents : Contents}
    (read : (readContents bytes h strict id position).result = .ok contents) :
    ∀ link ∈ contents.children, id.Holds link.id := by
  obtain ⟨_, found, each, _, children⟩ := readContents_cases read
  rw [children]
  exact holds_of_found each

end Links

/-- How a directory hangs on earlier ones, by its place, its parent and its depth. -/
inductive Attached (earlier : List Directory) : DirectoryId → Option Nat → Nat → Prop
  /-- The main chain has no parent, and each link of it is one level deeper. -/
  | chain (n : Fin 10) : Attached earlier (.ifd n) none n
  | exif {p : Nat} {q : Directory} (parent : earlier[p]? = some q) (image : q.id.family = .image) :
      Attached earlier .exif (some p) (q.depth + 1)
  | gps {p : Nat} {q : Directory} (parent : earlier[p]? = some q) (image : q.id.family = .image) :
      Attached earlier .gps (some p) (q.depth + 1)
  | interop {p : Nat} {q : Directory} (parent : earlier[p]? = some q) (exif : q.id = .exif) :
      Attached earlier .interop (some p) (q.depth + 1)
  /-- A subordinate image directory may be reached through others with the same parent. -/
  | subIfd {n : Fin 10} {p depth : Nat} {q : Directory} (parent : earlier[p]? = some q)
      (image : q.id.family = .image) (deeper : q.depth < depth) :
      Attached earlier (.subIfd n) (some p) depth

/-- Directories that are added later do not matter. -/
theorem Attached.append {l : List Directory} {id : DirectoryId} {parent : Option Nat} {depth : Nat}
    (attached : Attached l id parent depth) (r : List Directory) :
    Attached (l ++ r) id parent depth := by
  have kept {p : Nat} {q : Directory} (found : l[p]? = some q) : (l ++ r)[p]? = some q :=
    (List.getElem?_append_left (List.getElem?_eq_some_iff.1 found).1).trans found
  cases attached with
  | chain n => exact .chain n
  | exif parent image => exact .exif (kept parent) image
  | gps parent image => exact .gps (kept parent) image
  | interop parent exif => exact .interop (kept parent) exif
  | subIfd parent image deeper => exact .subIfd (kept parent) image deeper

/-- Which place a link may come to lead to: the one that it names, or some subordinate image
directory. -/
inductive MayTake : Option DirectoryId → DirectoryId → Prop
  | named (id : DirectoryId) : MayTake (some id) id
  | numbered (n : Fin 10) : MayTake none (.subIfd n)

/-- Wherever the task leads to, the directory hangs on those that were read. -/
def Task.IsAttached (l : List Directory) (t : Task) : Prop :=
  ∀ id, MayTake t.link.id id → Attached l id t.parent t.depth

theorem DirectoryId.subIfd?_eq_some {n : Nat} {id : DirectoryId}
    (h : DirectoryId.subIfd? (n : Int) = some id) : ∃ k : Fin 10, id = .subIfd k ∧ k.val = n := by
  unfold subIfd? at h
  split at h
  · cases h
    exact ⟨_, rfl, by simp⟩
  · cases h

/-- The links of a directory hang on it. -/
theorem attached_of_holds {d : Directory} {l : List Directory} {index : Nat}
    {target : Option DirectoryId} {id : DirectoryId} (read : l[index]? = some d)
    (holds : d.id.Holds target) (takes : MayTake target id) :
    Attached l id (some index) (d.depth + 1) := by
  generalize place : d.id = q at holds
  cases holds with
  | exif image =>
      cases takes
      exact .exif read (place ▸ image)
  | gps image =>
      cases takes
      exact .gps read (place ▸ image)
  | subIfd image =>
      cases takes
      exact .subIfd read (place ▸ image) (Nat.lt_succ_self _)
  | interop =>
      cases takes
      exact .interop read place

namespace Source

variable {s : Source} {w w' v : Walk} {t : Task} {id : DirectoryId} {tasks stack : List Task}

theorem Accepts.mayTake (accepts : s.Accepts w t id v) : MayTake t.link.id id := by
  rcases accepts.placed with ⟨named, _⟩ | ⟨numbered, next, _⟩
  · rw [named]
    exact .named id
  · obtain ⟨n, rfl, _⟩ := DirectoryId.subIfd?_eq_some next
    rw [numbered]
    exact .numbered n

/-- The directory that a next pointer leads to hangs where the one before it does. -/
theorem isAttached_of_follows {l : List Directory} {last : List Task}
    (attached : Attached l id t.parent t.depth) (follows : Follows t id last) :
    ∀ t' ∈ last, t'.IsAttached l := by
  intro t' member
  generalize parent_eq : t.parent = parent at attached
  generalize depth_eq : t.depth = depth at attached
  cases follows with
  | stop => cases member
  | @chain n next succ offset =>
      obtain rfl := List.mem_singleton.1 member
      intro id takes
      cases takes
      cases attached
      simp only [parent_eq, depth_eq, ← succ]
      exact .chain next
  | another n offset =>
      obtain rfl := List.mem_singleton.1 member
      intro id takes
      cases takes
      cases attached with
      | subIfd parent image deeper =>
          simp only [parent_eq, depth_eq]
          exact .subIfd parent image (Nat.lt_succ_of_lt deeper)

/-- The directories that were read hang on earlier ones, and the tasks that wait on any of them. -/
structure IsTree (w : Walk) (stack : List Task) : Prop where
  directories : ∀ i d, w.directories[i]? = some d →
    d.index = i ∧ Attached (w.directories.take i) d.id d.parent d.depth
  tasks : ∀ t ∈ stack, t.IsAttached w.directories

theorem IsTree.steps (tree : IsTree w (t :: stack)) (steps : s.Steps w t w' tasks) :
    IsTree w' (tasks ++ stack) := by
  cases steps with
  | idle same _ _ =>
      exact
        { directories := same ▸ tree.directories
          tasks := fun t' member => same ▸ tree.tasks t' (List.mem_cons_of_mem t member) }
  | @read id v contents last accepts read follows =>
      have attached := tree.tasks t List.mem_cons_self id accepts.mayTake
      let d : Directory := ⟨id, s.position t, s.header.order, contents.entries,
        w.directories.length, t.parent, t.depth⟩
      have added : (v.push d).directories = w.directories ++ [d] := accepts.directories_push d
      have last_read : (w.directories ++ [d])[w.directories.length]? = some d := by simp
      refine ⟨fun i e found => ?_, fun t' member => ?_⟩
      · rw [added] at found ⊢
        rcases Nat.lt_trichotomy i w.directories.length with before | rfl | after
        · rw [List.getElem?_append_left before] at found
          rw [List.take_append_of_le_length (Nat.le_of_lt before)]
          exact tree.directories i e found
        · rw [last_read] at found
          cases found
          rw [List.take_left' rfl]
          exact ⟨rfl, attached⟩
        · have past : (w.directories ++ [d]).length ≤ i := by
            rw [List.length_append]
            exact after
          rw [List.getElem?_eq_none past] at found
          cases found
      · rw [added]
        simp only [List.append_assoc, List.mem_append, List.mem_map] at member
        rcases member with ⟨link, held, rfl⟩ | later | waiting
        · intro target takes
          exact attached_of_holds last_read (holds_of_readContents read link held) takes
        · exact isAttached_of_follows (attached.append [d]) follows t' later
        · intro target takes
          exact (tree.tasks t' (List.mem_cons_of_mem t waiting) target takes).append [d]

/-- The directories that were read stand at different positions, which are known, and not too deep.
-/
structure IsBounded (s : Source) (w : Walk) : Prop where
  known : ∀ d ∈ w.directories, d.offset ∈ w.visited
  distinct : (w.directories.map Directory.offset).Nodup
  shallow : ∀ d ∈ w.directories, (d.depth : Int) ≤ s.limit

theorem IsBounded.steps (bounded : s.IsBounded w) (steps : s.Steps w t w' tasks) :
    s.IsBounded w' := by
  cases steps with
  | idle same visited _ =>
      exact
        { known := fun d member => visited (bounded.known d (same ▸ member))
          distinct := same ▸ bounded.distinct
          shallow := same ▸ bounded.shallow }
  | read accepts _ _ =>
      constructor
      · intro d member
        rw [accepts.directories_push, List.mem_append, List.mem_singleton] at member
        rw [Walk.push, accepts.visited_eq]
        rcases member with old | rfl
        · exact List.mem_cons_of_mem _ (bounded.known d old)
        · exact List.mem_cons_self
      · have new : s.position t ∉ w.directories.map Directory.offset := by
          intro old
          obtain ⟨d, member, same⟩ := List.mem_map.1 old
          exact accepts.fresh (same ▸ bounded.known d member)
        rw [accepts.directories_push, List.map_append, List.map_singleton, ← List.concat_eq_append]
        exact List.Nodup.concat new bounded.distinct
      · intro d member
        rw [accepts.directories_push, List.mem_append, List.mem_singleton] at member
        rcases member with old | rfl
        · exact bounded.shallow d old
        · exact accepts.shallow

/-- The numbers in the main chain of the tasks that wait. -/
def chainNumbers (stack : List Task) : List Nat :=
  stack.filterMap fun t => t.link.id.bind DirectoryId.chainNumber?

/-- The main chain is numbered from zero on without a gap, and no task waits for another number than
the next one, which waits at most once. -/
def IsChained (w : Walk) (stack : List Task) : Prop :=
  ∃ k, w.directories.filterMap (fun d => d.id.chainNumber?) = List.range k ∧
    (chainNumbers stack).Sublist [k]

theorem chainNumbers_of_holds {links : List Link} (holds : ∀ link ∈ links, id.Holds link.id)
    (parent : Option Nat) (depth : Nat) :
    chainNumbers (links.map fun link => ⟨link, parent, depth⟩) = [] := by
  rw [chainNumbers, List.filterMap_map, List.filterMap_eq_nil_iff]
  intro link member
  have held := holds link member
  generalize target_eq : link.id = target at held
  simp only [Function.comp_apply, target_eq]
  cases held <;> rfl

theorem chainNumbers_of_follows {last : List Task} (follows : Follows t id last) :
    (chainNumbers last).Sublist (id.chainNumber?.map (· + 1)).toList := by
  cases follows with
  | stop => exact List.nil_sublist _
  | @chain n next succ offset =>
      change [next.val].Sublist [n.val + 1]
      rw [succ]
  | another n offset => exact List.nil_sublist _

theorem chainNumber?_of_mayTake {target : Option DirectoryId} (takes : MayTake target id) :
    target.bind DirectoryId.chainNumber? = id.chainNumber? := by
  cases takes <;> rfl

theorem IsChained.steps (chained : IsChained w (t :: stack)) (steps : s.Steps w t w' tasks) :
    IsChained w' (tasks ++ stack) := by
  obtain ⟨k, numbered, waiting⟩ := chained
  have later : (chainNumbers stack).Sublist (chainNumbers (t :: stack)) :=
    (List.sublist_cons_self t stack).filterMap _
  cases steps with
  | idle same _ _ => exact ⟨k, same ▸ numbered, later.trans waiting⟩
  | @read id v contents last accepts read follows =>
      have children := chainNumbers_of_holds (holds_of_readContents read)
      have next := chainNumbers_of_follows follows
      have taken := chainNumber?_of_mayTake accepts.mayTake
      have added (parent : Option Nat) (depth : Nat) :
          chainNumbers ((contents.children.map fun link => ⟨link, parent, depth⟩) ++ last ++ stack) =
            chainNumbers last ++ chainNumbers stack := by
        have none_held := children parent depth
        unfold chainNumbers at none_held ⊢
        rw [List.append_assoc, List.filterMap_append, none_held, List.filterMap_append,
          List.nil_append]
      unfold IsChained
      rw [added, accepts.directories_push, List.filterMap_append, numbered]
      cases number : id.chainNumber? with
      | none =>
          have none_next : chainNumbers last = [] := by simpa [number] using next
          refine ⟨k, by simp [number], ?_⟩
          rw [none_next]
          exact later.trans waiting
      | some n =>
          have asked : chainNumbers (t :: stack) = n :: chainNumbers stack := by
            simp [chainNumbers, taken, number]
          obtain ⟨rfl, none_waits⟩ : n = k ∧ chainNumbers stack = [] := by
            rw [asked, List.sublist_singleton] at waiting
            simpa using waiting
          refine ⟨n + 1, by simp [number, List.range_succ], ?_⟩
          rw [none_waits, List.append_nil]
          simpa [number] using next

/-- The subordinate image directories are numbered upwards, and the next number is above all of
theirs; no link asks for one of them by its number. -/
structure IsNumbered (w : Walk) (stack : List Task) : Prop where
  ascending : (w.directories.filterMap fun d => d.id.subIfdNumber?).Pairwise (· < ·)
  below : ∀ n ∈ w.directories.filterMap fun d => d.id.subIfdNumber?, n < w.subIfds
  unnamed : ∀ t ∈ stack, ∀ n, t.link.id ≠ some (.subIfd n)

/-- A place that is given takes the next number or none. -/
theorem Accepts.number (accepts : s.Accepts w t id v) (unnamed : ∀ n, t.link.id ≠ some (.subIfd n)) :
    id.subIfdNumber? = none ∧ v.subIfds = w.subIfds ∨
      id.subIfdNumber? = some w.subIfds ∧ v.subIfds = w.subIfds + 1 := by
  rcases accepts.placed with ⟨named, same⟩ | ⟨_, next, more⟩
  · left
    refine ⟨?_, same⟩
    cases id with
    | subIfd n => exact absurd named (unnamed n)
    | _ => rfl
  · right
    obtain ⟨n, rfl, number⟩ := DirectoryId.subIfd?_eq_some next
    exact ⟨congrArg some number, more⟩

theorem IsNumbered.steps (numbered : IsNumbered w (t :: stack)) (steps : s.Steps w t w' tasks) :
    IsNumbered w' (tasks ++ stack) := by
  have unnamed : ∀ t' ∈ stack, ∀ n, t'.link.id ≠ some (.subIfd n) :=
    fun t' member => numbered.unnamed t' (List.mem_cons_of_mem t member)
  cases steps with
  | idle same _ more =>
      exact
        { ascending := same ▸ numbered.ascending
          below := fun n member => Nat.lt_of_lt_of_le (numbered.below n (same ▸ member)) more
          unnamed := unnamed }
  | @read id v contents last accepts read follows =>
      have number := accepts.number (numbered.unnamed t List.mem_cons_self)
      have ascending := numbered.ascending
      have below := numbered.below
      constructor
      · rw [accepts.directories_push, List.filterMap_append]
        rcases number with ⟨none_taken, _⟩ | ⟨next, _⟩
        · simpa [none_taken] using ascending
        · rw [List.pairwise_append]
          refine ⟨ascending, by simp [next], fun n known m new => ?_⟩
          obtain rfl : m = w.subIfds := by simpa [next] using new
          exact below n known
      · intro n member
        change n < v.subIfds
        rw [accepts.directories_push, List.filterMap_append, List.mem_append] at member
        rcases number with ⟨none_taken, same⟩ | ⟨next, more⟩
        · have known := below n (by simpa [none_taken] using member)
          omega
        · rcases member with known | new
          · have := below n known
            omega
          · have newest : n = w.subIfds := by simpa [next] using new
            omega
      · intro t' member n
        simp only [List.append_assoc, List.mem_append, List.mem_map] at member
        rcases member with ⟨link, held, rfl⟩ | later | waiting
        · have holds := holds_of_readContents read link held
          intro named
          rw [show link.id = _ from named] at holds
          cases holds
        · cases follows with
          | stop => cases later
          | chain succ offset =>
              obtain rfl := List.mem_singleton.1 later
              simp
          | another m offset =>
              obtain rfl := List.mem_singleton.1 later
              simp
        · exact unnamed t' waiting n

end Source

/-- A list of directories is the arena of a tree. -/
structure IsArena (limit : Int) (l : List Directory) : Prop where
  /-- The index of a directory is its position, and it hangs on directories before it. -/
  attached : ∀ i d, l[i]? = some d → d.index = i ∧ Attached (l.take i) d.id d.parent d.depth
  ids_nodup : (l.map Directory.id).Nodup
  offsets_nodup : (l.map Directory.offset).Nodup
  depth_le : ∀ d ∈ l, (d.depth : Int) ≤ limit
  /-- The main chain is numbered from zero on without a gap, in order. -/
  chain : ∃ k, l.filterMap (fun d => d.id.chainNumber?) = List.range k
  /-- The subordinate image directories are numbered upwards. -/
  subIfds : (l.filterMap fun d => d.id.subIfdNumber?).Pairwise (· < ·)

/-- The directories of a stream form an arena. -/
theorem Stream.isArena_of_read {bytes : Bytes} {base limit : Int} {strict : Bool} {stream : Stream}
    (read : (Stream.read bytes base strict limit).result = .ok stream) :
    IsArena limit stream.directories := by
  obtain ⟨_, w, walked, same⟩ := walk_of_read read
  have tree : Source.IsTree w [] :=
    Source.invariant_of_walk (fun tree visits => tree.steps visits.steps)
      { directories := by simp [Walk.start]
        tasks := by
          intro t member id takes
          obtain rfl := List.mem_singleton.1 member
          cases takes
          exact .chain 0 }
      walked
  have bounded : Source.IsBounded ⟨bytes, stream.header, strict, limit⟩ w :=
    Source.invariant_of_walk (I := fun w _ => Source.IsBounded _ w)
      (fun bounded visits => bounded.steps visits.steps)
      ⟨by simp [Walk.start], by simp [Walk.start], by simp [Walk.start]⟩ walked
  have chained : Source.IsChained w [] :=
    Source.invariant_of_walk (fun chained visits => chained.steps visits.steps)
      ⟨0, rfl, List.Sublist.refl _⟩ walked
  have numbered : Source.IsNumbered w [] :=
    Source.invariant_of_walk (fun numbered visits => numbered.steps visits.steps)
      ⟨List.Pairwise.nil, by simp [Walk.start], by simp [Link.first]⟩ walked
  obtain ⟨k, chain, _⟩ := chained
  rw [same]
  exact
    { attached := tree.directories
      ids_nodup := same ▸ distinct_of_read read
      offsets_nodup := bounded.distinct
      depth_le := bounded.shallow
      chain := ⟨k, chain⟩
      subIfds := numbered.ascending }

/-- A stream with a directory of each sort. Its two links to subordinate image directories lead to
one position, from which a next pointer leads on to another one. -/
def branching : Bytes :=
  [73, 73, 42, 0, 8, 0, 0, 0] ++
    [3, 0, 74, 1, 4, 0, 2, 0, 0, 0, 50, 0, 0, 0, 105, 135, 4, 0, 1, 0, 0, 0, 70, 0, 0, 0,
      37, 136, 4, 0, 1, 0, 0, 0, 94, 0, 0, 0, 100, 0, 0, 0] ++
    [58, 0, 0, 0, 58, 0, 0, 0] ++ [0, 0, 64, 0, 0, 0] ++ [0, 0, 0, 0, 0, 0] ++
    [1, 0, 5, 160, 4, 0, 1, 0, 0, 0, 88, 0, 0, 0, 0, 0, 0, 0] ++ [0, 0, 0, 0, 0, 0] ++
    [0, 0, 0, 0, 0, 0] ++ [0, 0, 0, 0, 0, 0]

theorem Stream.read_branching :
    (Stream.read branching 0 false 2).result = .ok
      ⟨⟨.little, 42, false, 0, 8⟩,
        [⟨.ifd 0, 8, .little,
            [⟨330, "SubIFDs", .long, 2, [58, 0, 0, 0, 58, 0, 0, 0], 50, .little, rfl⟩,
              ⟨34665, "ExifIFD", .long, 1, [70, 0, 0, 0], 30, .little, rfl⟩,
              ⟨34853, "GPSIFD", .long, 1, [94, 0, 0, 0], 42, .little, rfl⟩], 0, none, 0⟩,
          ⟨.subIfd 0, 58, .little, [], 1, some 0, 1⟩, ⟨.subIfd 1, 64, .little, [], 2, some 0, 2⟩,
          ⟨.exif, 70, .little,
            [⟨40965, "InteroperabilityIFD", .long, 1, [88, 0, 0, 0], 80, .little, rfl⟩],
            3, some 0, 1⟩,
          ⟨.interop, 88, .little, [], 4, some 3, 2⟩, ⟨.gps, 94, .little, [], 5, some 0, 1⟩,
          ⟨.ifd 1, 100, .little, [], 6, none, 1⟩]⟩ :=
  read_of_walkWithin (n := 8) (by decide +kernel)

/-- The seven directories of the branching stream form an arena. -/
theorem Stream.isArena_of_read_branching :
    ∃ stream, (Stream.read branching 0 false 2).result = .ok stream ∧
      stream.directories.map (fun d => (d.id, d.parent, d.depth)) =
        [(.ifd 0, none, 0), (.subIfd 0, some 0, 1), (.subIfd 1, some 0, 2), (.exif, some 0, 1),
          (.interop, some 3, 2), (.gps, some 0, 1), (.ifd 1, none, 1)] ∧
      IsArena 2 stream.directories :=
  ⟨_, read_branching, rfl, isArena_of_read read_branching⟩

end ImageMetadata.Tiff
