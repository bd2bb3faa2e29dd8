import ImageMetadata.Proofs.Tiff.Arena
import ImageMetadata.Proofs.Tiff.Turns
import Mathlib.Algebra.BigOperators.Group.List.Basic
import Mathlib.Algebra.GroupWithZero.Nat
import Mathlib.Data.List.Perm.Subperm

/-!
# The number of turns

A turn adds a directory at a place that was free, or no task comes from it. As there are twenty-three
places, a stream is read in finitely many turns, whatever its links lead to and however deep they may
be followed. Each task but the first one comes from a pointer of a directory that was read, which
bounds the number of turns by the number of these pointers. A link to a position at which a directory
was decoded is refused.
-/

namespace ImageMetadata.Tiff

/-- The number of directories that an entry points to. Only an entry for subordinate image
directories may point to more than one. -/
def Entry.pointers (e : Entry) : Nat :=
  match Pointer.ofTag? e.tag with
  | none => 0
  | some pointer =>
    if e.type.holdsOffset then
      match pointer with
      | .subIfd => e.count
      | .fixed _ => min 1 e.count
    else 0

/-- The number of directories that the entries of a directory point to. -/
def Directory.pointers (d : Directory) : Nat := (d.entries.map Entry.pointers).sum

theorem Value.length_pieces (size count : Nat) (raw : Bytes) :
    (Value.pieces size count raw).length = count := by
  induction count generalizing raw with
  | zero => rfl
  | succ count ih => rw [Value.pieces, List.length_cons, ih]

/-- Every pointer of an entry becomes a link. -/
theorem length_of_targets {strict : Bool} {e : Entry} {links : List Link}
    (targets : (e.targets strict).result = .ok links) : links.length = e.pointers := by
  unfold Entry.targets at targets
  unfold Entry.pointers
  cases points : Pointer.ofTag? e.tag with
  | none =>
      rw [points] at targets
      cases targets
      rfl
  | some pointer =>
      rw [points] at targets
      dsimp only at targets ⊢
      split at targets
      · rename_i holds
        rw [if_pos holds]
        cases pointer with
        | subIfd =>
            cases targets
            simp [Value.length_pieces]
        | fixed id =>
            cases targets
            simp [Value.length_pieces]
      · rename_i holds
        rw [if_neg holds]
        obtain ⟨_, _, ⟨⟩⟩ := Outcome.ok_of_bind targets
        rfl

section Contents

variable {bytes : Bytes} {h : Header} {strict : Bool} {id : DirectoryId}

theorem length_of_found {list : List Nat} {found : List (Option (Entry × List Link))}
    (read : List.Forall₂ (ReadsEntry bytes h strict id) list found) :
    ((found.filterMap fun r => r).flatMap Prod.snd).length =
      (((found.filterMap fun r => r).map Prod.fst).map Entry.pointers).sum := by
  induction read with
  | nil => rfl
  | cons first _ ih =>
      cases first with
      | skipped _ => exact ih
      | kept _ _ targets =>
          simp only [List.filterMap_cons, List.flatMap_cons, List.length_append, List.map_cons,
            List.sum_cons, length_of_targets targets, ih]

/-- Every pointer of a directory becomes a link. -/
theorem length_children {position : Nat} {contents : Contents}
    (read : (readContents bytes h strict id position).result = .ok contents) :
    contents.children.length = (contents.entries.map Entry.pointers).sum := by
  obtain ⟨_, found, each, entries, children⟩ := readContents_cases read
  rw [entries, children]
  exact length_of_found each

end Contents

namespace Source

variable {s : Source} {w w' v : Walk} {t : Task} {stack tasks : List Task} {turns : List Turn}
  {o : Outcome Walk}

/-- A next pointer leads to one directory at most. -/
theorem Follows.length_le {id : DirectoryId} {last : List Task} (follows : Follows t id last) :
    last.length ≤ 1 := by
  cases follows with
  | stop => exact Nat.zero_le 1
  | chain _ _ | another _ _ => exact Nat.le_refl 1

/-- The number of tasks that some directories may lead to: one for each pointer of an entry, and one
for the next pointer. -/
def links (ds : List Directory) : Nat := (ds.map fun d => d.pointers + 1).sum

theorem links_concat (ds : List Directory) (d : Directory) :
    links (ds ++ [d]) = links ds + (d.pointers + 1) := by
  simp [links]

/-- The tasks that come from a turn are paid for by the directory that it adds. -/
theorem Steps.length_add_links_le (steps : s.Steps w t w' tasks) :
    tasks.length + links w.directories ≤ links w'.directories := by
  cases steps with
  | idle same _ _ => simp [same]
  | read accepts read follows =>
      have children := length_children read
      have last := follows.length_le
      rw [accepts.directories_push, links_concat, List.length_append, List.length_map, children]
      simp only [Directory.pointers]
      omega

/-- A turn adds a directory at a place that is free, or it leaves the directories alone, and then no
task comes from it. -/
theorem Steps.adds_or_idles (steps : s.Steps w t w' tasks) :
    (∃ d, w'.directories = w.directories ++ [d] ∧ d.id ∉ w.directories.map Directory.id) ∨
      w'.directories = w.directories ∧ tasks = [] := by
  cases steps with
  | idle same _ _ => exact .inr ⟨same, rfl⟩
  | @read id v contents last accepts read follows =>
      refine .inl ⟨_, accepts.directories_push _, fun taken => ?_⟩
      obtain ⟨d, member, same⟩ := List.mem_map.1 taken
      have free := accepts.free
      simp only [Walk.takes, List.any_eq_false, beq_iff_eq] at free
      exact free d member same

theorem Visits.visited_subset (visits : s.Visits w t w' tasks) : w.visited ⊆ w'.visited := by
  cases visits.steps with
  | idle _ visited _ => exact visited
  | read accepts _ _ =>
      rw [Walk.push, accepts.visited_eq]
      exact List.subset_cons_self _ _

/-- A directory is only decoded at a new position, which is known from then on. -/
theorem decoded?_eq_some {position : Nat} (decoded : s.decoded? w t = some position) :
    position ∉ w.visited ∧
      ∀ w' tasks, s.Visits w t w' tasks → position ∈ w'.visited := by
  unfold decoded? at decoded
  split at decoded
  · rename_i id accepted
    cases decoded
    have accepts : s.Accepts w t id (s.accept w t).2 :=
      accepts_of_accept (Prod.ext accepted rfl)
    refine ⟨accepts.fresh, fun w' tasks visits => ?_⟩
    have known : s.position t ∈ (s.accept w t).2.visited := by
      rw [accepts.visited_eq]
      exact List.mem_cons_self
    cases visits with
    | refused refused =>
        rw [refused] at accepted
        cases accepted
    | unreadable accepted' _ =>
        rw [accepted'] at known
        exact known
    | read accepted' _ _ =>
        rw [accepted'] at known
        exact known
  · cases decoded

namespace Run

/-- The turns of a run are no more than the tasks at its start and those that the directories that
it adds lead to. -/
theorem length_le (run : s.Run w stack turns v o) :
    turns.length + links w.directories ≤ stack.length + links v.directories := by
  induction run with
  | done w => exact Nat.le_refl _
  | failed _ =>
      simp only [List.length_cons, List.length_nil]
      omega
  | next visited _ ih =>
      have paid := (visits_of_visit (congrArg Outcome.result visited)).steps.length_add_links_le
      simp only [List.length_append, List.length_cons] at ih ⊢
      omega

/-- No directory is decoded at a position that was known before, and none twice. -/
theorem nodup_decoded (run : s.Run w stack turns v o) :
    (∀ position ∈ turns.filterMap Turn.decoded, position ∉ w.visited) ∧
      (turns.filterMap Turn.decoded).Nodup := by
  induction run with
  | done w => simp
  | @failed w t stack _ _ _ =>
      cases decoded : s.decoded? w t with
      | none => simp [turn, decoded]
      | some position =>
          have new := (decoded?_eq_some decoded).1
          simp [turn, decoded, new]
  | @next w w' v t stack tasks turns events rest visited _ ih =>
      have visits := visits_of_visit (congrArg Outcome.result visited)
      obtain ⟨later_new, distinct⟩ := ih
      have later : ∀ position ∈ turns.filterMap Turn.decoded, position ∉ w.visited :=
        fun position member known => later_new position member (visits.visited_subset known)
      cases decoded : s.decoded? w t with
      | none =>
          simp only [List.filterMap_cons, turn, decoded]
          exact ⟨later, distinct⟩
      | some position =>
          obtain ⟨new, known⟩ := decoded?_eq_some decoded
          have once : position ∉ turns.filterMap Turn.decoded :=
            fun member => later_new position member (known _ _ visits)
          simp only [List.filterMap_cons, turn, decoded, List.mem_cons, List.nodup_cons]
          refine ⟨?_, once, distinct⟩
          rintro other (rfl | member)
          · exact new
          · exact later other member

/-- Each turn that does not fail adds a directory at a place that is free, or it leaves the
directories alone, and then no task comes from it. -/
theorem adds_or_idles (run : s.Run w stack turns v o) :
    ∀ turn ∈ turns, ∀ w' tasks, turn.after = some (w', tasks) →
      (∃ d, w'.directories = turn.before.directories ++ [d] ∧
          d.id ∉ turn.before.directories.map Directory.id) ∨
        w'.directories = turn.before.directories ∧ tasks = [] := by
  intro turn member w' tasks after
  rw [run.eq_turn turn member] at after
  exact (visits_of_turn after).steps.adds_or_idles

end Run

end Source

namespace Stream

/-- What keeps the reading of a stream short, with the directories that it finds. -/
structure IsShort (turns : List Source.Turn) (ds : List Directory) : Prop where
  /-- A turn adds a directory at a place that is free, or no task comes from it. -/
  adds_or_idles : ∀ turn ∈ turns, ∀ w tasks, turn.after = some (w, tasks) →
    (∃ d, w.directories = turn.before.directories ++ [d] ∧
        d.id ∉ turn.before.directories.map Directory.id) ∨
      w.directories = turn.before.directories ∧ tasks = []
  /-- No two directories have one place, and there are as many places as this. -/
  ids_nodup : (ds.map Directory.id).Nodup
  length_le : ds.length ≤ 23
  /-- No position is decoded twice. -/
  decoded_nodup : (turns.filterMap Source.Turn.decoded).Nodup
  /-- A turn is the first one, or it follows an entry or the next pointer of a directory. -/
  turns_le : turns.length ≤ 1 + (ds.map fun d => d.pointers + 1).sum

/-- There are as many places as this, so no more directories can have different ones. -/
theorem length_le_of_nodup {ds : List Directory} (distinct : (ds.map Directory.id).Nodup) :
    ds.length ≤ 23 := by
  have within : (ds.map Directory.id).Subperm DirectoryId.all :=
    distinct.subperm fun id _ => DirectoryId.mem_all id
  have bound := within.length_le
  rwa [List.length_map, DirectoryId.all_length] at bound

/-- Without a turn no directory is found. -/
theorem isShort_start : IsShort [] Walk.start.directories where
  adds_or_idles := by simp
  ids_nodup := List.nodup_nil
  length_le := by decide
  decoded_nodup := List.nodup_nil
  turns_le := Nat.zero_le _

theorem isShort_of_run {s : Source} {w : Walk} {t : Task} {turns : List Source.Turn}
    {o : Outcome Walk} (run : s.Run Walk.start [t] turns w o) : IsShort turns w.directories := by
  have start : Walk.start.Distinct := List.nodup_nil
  obtain ⟨-, -, distinct⟩ := run.invariant (I := fun w _ => w.Distinct)
    (fun distinct visits => distinct.of_visits visits) start
  exact
    { adds_or_idles := run.adds_or_idles
      ids_nodup := distinct
      length_le := length_le_of_nodup distinct
      decoded_nodup := run.nodup_decoded.2
      turns_le := by simpa [Source.links, Walk.start] using run.length_le }

/-- A stream is read in finitely many turns, which the bytes decide; that the reading is short holds
for every course, whether it ends with a stream or with a failure. -/
theorem isShort_read (bytes : Bytes) (base : Int) (strict : Bool) (limit : Int) :
    (∃ turns w, Course bytes base strict limit turns w (read bytes base strict limit)) ∧
      ∀ turns w o, Course bytes base strict limit turns w o →
        o = read bytes base strict limit ∧ IsShort turns w.directories ∧
          ∀ stream, o.result = .ok stream → stream.directories = w.directories := by
  refine ⟨exists_course bytes base strict limit, fun turns w o course => ?_⟩
  refine ⟨course.outcome_eq, ?_, fun stream => course.directories_eq⟩
  rcases course.idle_or_run with ⟨rfl, rfl⟩ | ⟨s, offset, walked, run⟩
  · exact isShort_start
  · exact isShort_of_run run

end Stream

end ImageMetadata.Tiff
