import ImageMetadata.Proofs.Yields
import ImageMetadata.Tiff.Stream

/-!
# Invariants of the walk

A task is refused, or its directory cannot be read, or the directory is added to those read. What
every task keeps holds at the end of the walk; so no two directories of a stream have one place.
-/

namespace ImageMetadata.Tiff

namespace Source

variable {s : Source} {w w' : Walk} {t : Task} {stack tasks : List Task}

/-- What doing a task can lead to. -/
inductive Visits (s : Source) (w : Walk) (t : Task) : Walk → List Task → Prop
  | refused {p : Problem} {v : Walk} (accepted : s.accept w t = (.error p, v)) : Visits s w t v []
  | unreadable {id : DirectoryId} {v : Walk} (accepted : s.accept w t = (.ok id, v))
      (opened : (s.open? v t id).result = .ok none) : Visits s w t v []
  | read {id : DirectoryId} {v : Walk} {contents : Contents} {last : List Task}
      (accepted : s.accept w t = (.ok id, v))
      (opened : (s.open? v t id).result = .ok (some contents))
      (followed : (s.follow t id contents.next).result = .ok last) :
      Visits s w t
        (v.push ⟨id, s.position t, s.header.order, contents.entries, v.directories.length,
          t.parent, t.depth⟩)
        ((contents.children.map fun link => ⟨link, some v.directories.length, t.depth + 1⟩) ++ last)

/-- A task that is done without a failure leads to one of these. -/
theorem visits_of_visit (h : (s.visit w t).result = .ok (w', tasks)) : s.Visits w t w' tasks := by
  unfold visit at h
  split at h
  · next p v accepted =>
    obtain ⟨_, _, h⟩ := Outcome.ok_of_bind h
    obtain ⟨rfl, rfl⟩ := Prod.mk.inj (Except.ok.inj h)
    exact .refused accepted
  · next id v accepted =>
    obtain ⟨contents?, opened, h⟩ := Outcome.ok_of_bind h
    cases contents? with
    | none =>
        obtain ⟨rfl, rfl⟩ := Prod.mk.inj (Except.ok.inj h)
        exact .unreadable accepted opened
    | some contents =>
        obtain ⟨_, _, h⟩ := Outcome.ok_of_bind h
        obtain ⟨last, followed, h⟩ := Outcome.ok_of_bind h
        obtain ⟨rfl, rfl⟩ := Prod.mk.inj (Except.ok.inj h)
        exact .read accepted opened followed

/-- What is known of a task that is accepted, and what the walk remembers of it. -/
structure Accepts (s : Source) (w : Walk) (t : Task) (id : DirectoryId) (v : Walk) : Prop where
  fresh : s.position t ∉ w.visited
  shallow : (t.depth : Int) ≤ s.limit
  free : w.takes id = false
  visited_eq : v.visited = s.position t :: w.visited
  directories_eq : v.directories = w.directories
  /-- The link names the place, or it takes the next one of the subordinate image directories. -/
  placed : t.link.id = some id ∧ v.subIfds = w.subIfds ∨
    t.link.id = none ∧ DirectoryId.subIfd? w.subIfds = some id ∧ v.subIfds = w.subIfds + 1

theorem accepts_of_accept {id : DirectoryId} {v : Walk} (accepted : s.accept w t = (.ok id, v)) :
    s.Accepts w t id v := by
  unfold accept at accepted
  split at accepted
  · cases accepted
  rename_i fresh
  split at accepted
  · cases accepted
  rename_i shallow
  split at accepted
  · cases accepted
  rename_i u placed
  split at accepted
  · cases accepted
  rename_i free
  cases accepted
  have kept : u.directories = w.directories ∧ u.visited = w.visited ∧
      (t.link.id = some id ∧ u.subIfds = w.subIfds ∨
        t.link.id = none ∧ DirectoryId.subIfd? w.subIfds = some id ∧
          u.subIfds = w.subIfds + 1) := by
    unfold Source.place at placed
    split at placed
    · rename_i named
      obtain ⟨⟨⟩, rfl⟩ := Prod.mk.inj placed
      exact ⟨rfl, rfl, .inl ⟨named, rfl⟩⟩
    · rename_i unnamed
      obtain ⟨next, rfl⟩ := Prod.mk.inj placed
      exact ⟨rfl, rfl, .inr ⟨unnamed, next, rfl⟩⟩
  exact
    { fresh := by simpa using fresh
      shallow := Int.not_lt.1 shallow
      free := by
        rw [Bool.not_eq_true] at free
        rwa [Walk.takes, ← kept.1]
      visited_eq := congrArg (s.position t :: ·) kept.2.1
      directories_eq := kept.1
      placed := kept.2.2 }

theorem Accepts.directories_push {id : DirectoryId} {v : Walk} (accepts : s.Accepts w t id v)
    (d : Directory) : (v.push d).directories = w.directories ++ [d] := by
  rw [Walk.push, accepts.directories_eq]

/-- A task that is refused is not remembered, apart from the place that it asked for. -/
theorem kept_of_refused {p : Problem} {v : Walk} (refused : s.accept w t = (.error p, v)) :
    v.directories = w.directories ∧ v.visited = w.visited ∧ w.subIfds ≤ v.subIfds := by
  have placed : (Source.place w t).2.directories = w.directories ∧
      (Source.place w t).2.visited = w.visited ∧ w.subIfds ≤ (Source.place w t).2.subIfds := by
    unfold Source.place
    split <;> simp
  unfold accept at refused
  split at refused
  · cases refused; simp
  split at refused
  · cases refused; simp
  split at refused
  · rename_i asked
    cases refused
    simpa [asked] using placed
  split at refused
  · rename_i asked _
    cases refused
    simpa [asked] using placed
  · cases refused

/-- A directory is opened by reading its contents. -/
theorem readContents_of_open? {id : DirectoryId} {contents : Contents}
    (opened : (s.open? w t id).result = .ok (some contents)) :
    (readContents s.bytes s.header s.strict id (s.position t)).result = .ok contents := by
  unfold open? at opened
  cases read : (readContents s.bytes s.header s.strict id (s.position t)).result with
  | ok found =>
      have mapped := Outcome.map_of_ok some read
      simp only [mapped, Outcome.rescue, ite_self] at opened
      cases opened
      rfl
  | error p =>
      have mapped := Outcome.map_of_error (some : Contents → Option Contents) read
      simp only [mapped, Outcome.rescue] at opened
      split at opened
      · cases opened
      split at opened
      · obtain ⟨_, _, ⟨⟩⟩ := Outcome.ok_of_bind opened
      · cases opened

/-- Where the next pointer of a directory leads: nowhere, to the next place of the main chain, or to
another subordinate image directory with the same parent. -/
inductive Follows (t : Task) : DirectoryId → List Task → Prop
  | stop (id : DirectoryId) : Follows t id []
  | chain {n next : Fin 10} (succ : next.val = n.val + 1) (offset : Nat) :
      Follows t (.ifd n) [⟨⟨some (.ifd next), offset⟩, t.parent, t.depth + 1⟩]
  | another (n : Fin 10) (offset : Nat) :
      Follows t (.subIfd n) [⟨⟨none, offset⟩, t.parent, t.depth + 1⟩]

theorem follows_of_follow {id : DirectoryId} {offset : Nat} {last : List Task}
    (followed : (s.follow t id offset).result = .ok last) : Follows t id last := by
  unfold follow at followed
  split at followed
  · cases followed
    exact .stop id
  cases id with
  | ifd n =>
      have next : DirectoryId.next (.ifd n) = DirectoryId.ifd? (n.val + 1) := rfl
      simp only [DirectoryId.isIfd, if_true, next] at followed
      by_cases more : n.val + 1 < 10
      · have some_next : DirectoryId.ifd? (n.val + 1) = some (.ifd ⟨n.val + 1, more⟩) :=
          dif_pos (by omega)
        rw [some_next] at followed
        cases followed
        exact .chain rfl offset
      · have no_next : DirectoryId.ifd? (n.val + 1) = none := dif_neg (by omega)
        rw [no_next] at followed
        obtain ⟨_, _, ⟨⟩⟩ := Outcome.ok_of_bind followed
        exact .stop _
  | subIfd n =>
      cases followed
      exact .another n offset
  | exif | gps | interop =>
      cases followed
      exact .stop _

/-- What a task does to the walk: it leaves the directories alone, or it adds the one it leads to. -/
inductive Steps (s : Source) (w : Walk) (t : Task) : Walk → List Task → Prop
  | idle {v : Walk} (directories_eq : v.directories = w.directories)
      (visited : w.visited ⊆ v.visited) (subIfds : w.subIfds ≤ v.subIfds) : Steps s w t v []
  | read {id : DirectoryId} {v : Walk} {contents : Contents} {last : List Task}
      (accepts : s.Accepts w t id v)
      (contents_eq :
        (readContents s.bytes s.header s.strict id (s.position t)).result = .ok contents)
      (follows : Follows t id last) :
      Steps s w t
        (v.push ⟨id, s.position t, s.header.order, contents.entries, w.directories.length,
          t.parent, t.depth⟩)
        ((contents.children.map fun link => ⟨link, some w.directories.length, t.depth + 1⟩) ++ last)

theorem Visits.steps (visits : s.Visits w t w' tasks) : s.Steps w t w' tasks := by
  cases visits with
  | refused accepted =>
      obtain ⟨directories, visited, subIfds⟩ := kept_of_refused accepted
      exact .idle directories (by simp [visited]) subIfds
  | unreadable accepted _ =>
      have accepts := accepts_of_accept accepted
      refine .idle accepts.directories_eq (by simp [accepts.visited_eq]) ?_
      rcases accepts.placed with ⟨_, same⟩ | ⟨_, _, more⟩ <;> omega
  | read accepted opened followed =>
      have accepts := accepts_of_accept accepted
      rw [accepts.directories_eq]
      exact .read accepts (readContents_of_open? opened) (follows_of_follow followed)

/-- What every task keeps holds after the walk, when no task is left. -/
theorem invariant_of_walk {I : Walk → List Task → Prop}
    (keep : ∀ {w t stack w' tasks}, I w (t :: stack) → s.Visits w t w' tasks →
      I w' (tasks ++ stack))
    (start : I w stack) (h : (s.walk w stack).result = .ok w') : I w' [] := by
  induction w, stack using walk.induct s with
  | case1 w =>
      rw [walk_nil] at h
      cases h
      exact start
  | case2 w t stack events p failed =>
      rw [walk_cons, failed, Outcome.bind_of_error _ rfl] at h
      cases h
  | case3 w t stack events v tasks visited ih =>
      rw [walk_cons, visited, Outcome.bind_of_ok _ rfl] at h
      exact ih (keep start (visits_of_visit (congrArg Outcome.result visited))) h

/-- The walk that does some number of tasks at most; no walk when more are needed. -/
def walkWithin (s : Source) : Nat → Walk → List Task → Option Walk
  | _, w, [] => some w
  | 0, _, _ :: _ => none
  | n + 1, w, t :: stack =>
    match (s.visit w t).result with
    | .error _ => none
    | .ok (w', tasks) => s.walkWithin n w' (tasks ++ stack)

theorem walk_of_walkWithin {n : Nat} (h : s.walkWithin n w stack = some w') :
    (s.walk w stack).result = .ok w' := by
  induction n generalizing w stack with
  | zero =>
      cases stack <;> simp_all [walkWithin]
  | succ n ih =>
      cases stack with
      | nil => simp_all [walkWithin]
      | cons t stack =>
          rw [walkWithin] at h
          split at h
          · cases h
          · next v tasks visited =>
            rw [walk_cons, Outcome.bind_of_ok _ visited]
            exact ih h

end Source

namespace Walk

/-- No two directories that were read have one place. -/
def Distinct (w : Walk) : Prop := (w.directories.map Directory.id).Nodup

theorem Distinct.push {w : Walk} {d : Directory} (h : w.Distinct) (free : w.takes d.id = false) :
    (w.push d).Distinct := by
  have new : d.id ∉ w.directories.map Directory.id := by
    simp only [takes, List.any_eq_false, beq_iff_eq] at free
    simpa only [List.mem_map, not_exists, not_and] using free
  unfold Distinct Walk.push
  rw [List.map_append, List.nodup_append]
  refine ⟨h, by simp, ?_⟩
  intro a known b added same
  obtain rfl : b = d.id := by simpa using added
  exact new (same ▸ known)

/-- A directory is only added at a place that is free. -/
theorem Distinct.of_visits {s : Source} {w w' : Walk} {t : Task} {tasks : List Task}
    (h : w.Distinct) (visits : s.Visits w t w' tasks) : w'.Distinct := by
  have kept := Source.accept_directories s w t
  cases visits with
  | refused accepted =>
      rw [accepted] at kept
      rwa [Distinct, kept]
  | unreadable accepted _ =>
      rw [accepted] at kept
      rwa [Distinct, kept]
  | read accepted _ _ =>
      have free := Source.takes_of_accept (congrArg Prod.fst accepted)
      rw [accepted] at kept free
      exact Distinct.push (by rwa [Distinct, kept]) free

end Walk

/-- The header of a stream is read first; its directories are those of a walk from the first link. -/
theorem Stream.walk_of_read {bytes : Bytes} {base limit : Int} {strict : Bool} {stream : Stream}
    (h : (Stream.read bytes base strict limit).result = .ok stream) :
    (Header.read bytes base strict).result = .ok stream.header ∧
      ∃ w, ((⟨bytes, stream.header, strict, limit⟩ : Source).walk Walk.start
          [⟨.first stream.header.firstOffset, none, 0⟩]).result = .ok w ∧
        stream.directories = w.directories := by
  obtain ⟨header, read, h⟩ := Outcome.ok_of_bind h
  obtain ⟨_, _, h⟩ := Outcome.ok_of_bind h
  obtain ⟨w, walked, ⟨⟩⟩ := Outcome.ok_of_bind h
  exact ⟨read, w, walked, rfl⟩

/-- A stream is known from its header and from a walk that is long enough. -/
theorem Stream.read_of_walkWithin {n : Nat} {bytes : Bytes} {base limit : Int} {strict : Bool}
    {stream : Stream}
    (h : (Header.read bytes base strict).result.toOption = some stream.header ∧
      (stream.header.firstOffset != 0 &&
        stream.header.base + stream.header.firstOffset + stream.header.countSize ≤
          bytes.length) = true ∧
      ((⟨bytes, stream.header, strict, limit⟩ : Source).walkWithin n Walk.start
        [⟨.first stream.header.firstOffset, none, 0⟩]).map Walk.directories =
          some stream.directories) :
    (Stream.read bytes base strict limit).result = .ok stream := by
  obtain ⟨found, room, walked⟩ := h
  obtain ⟨w, walked, same⟩ := Option.map_eq_some_iff.1 walked
  refine Outcome.result_bind_iff.2 ⟨_, Except.toOption_eq_some_iff.1 found, ?_⟩
  refine Outcome.result_bind_iff.2 ⟨(), Outcome.result_require_iff.2 room, ?_⟩
  refine Outcome.result_bind_iff.2 ⟨w, Source.walk_of_walkWithin walked, ?_⟩
  rw [same]
  rfl

/-- The directories of a stream have different places. -/
theorem Stream.distinct_of_read {bytes : Bytes} {base limit : Int} {strict : Bool} {stream : Stream}
    (h : (Stream.read bytes base strict limit).result = .ok stream) :
    (stream.directories.map Directory.id).Nodup := by
  obtain ⟨_, w, walked, same⟩ := walk_of_read h
  rw [same]
  have start : Walk.start.Distinct := List.nodup_nil
  exact Source.invariant_of_walk (I := fun w _ => w.Distinct) (fun h visits => h.of_visits visits)
    start walked

end ImageMetadata.Tiff
