import ImageMetadata.Proofs.Notices
import ImageMetadata.Proofs.Tiff.Arena
import ImageMetadata.Proofs.Tiff.Recursion
import ImageMetadata.Proofs.Tiff.Turns

/-!
# The depth of directories

How deep a directory lies is bounded by its place, whatever the limit. The main chain goes one level
down with each number. A subordinate image directory gets the next number only after the one that
leads to it, so it lies at most one level deeper for each number; and nothing lies below the three
private directories but one of them. So there is a depth below which no link is ever tried, and a
limit that is not met may as well be larger.
-/

namespace ImageMetadata

/-- Whether the problem is that a directory lies below the limit. -/
def Problem.isDepth : Problem → Bool
  | .directoryTooDeep _ _ => true
  | _ => false

namespace Tiff

/-- The depths that a directory may have, by its place. -/
def DirectoryId.Admits (depth : Nat) : DirectoryId → Prop
  | ifd n => depth = n
  | subIfd n => depth ≤ 10 + n
  | exif | gps => depth ≤ 20
  | interop => depth ≤ 21

namespace DirectoryId.Admits

variable {id : DirectoryId} {depth : Nat}

theorem le (admits : id.Admits depth) : depth ≤ 21 := by
  cases id <;> simp only [Admits] at admits <;> omega

/-- Nine images of the main chain and ten subordinate ones may lie above another directory. -/
theorem le_of_image (admits : id.Admits depth) (image : id.family = .image) : depth ≤ 19 := by
  cases id with
  | ifd n | subIfd n =>
      simp only [Admits] at admits
      omega
  | exif | gps | interop => cases image

end DirectoryId.Admits

/-- The depth of a task fits to the place that it leads to; one without a fixed place gets a number
that is not given yet. -/
def Task.IsShallow (given : Nat) (t : Task) : Prop :=
  match t.link.id with
  | none => t.depth ≤ 10 + given ∧ t.depth ≤ 20
  | some id => id.isSubIfd = false ∧ id.Admits t.depth

namespace Task.IsShallow

variable {t : Task} {given : Nat}

theorem mono {later : Nat} (shallow : t.IsShallow given) (more : given ≤ later) :
    t.IsShallow later := by
  unfold IsShallow at shallow ⊢
  split at shallow
  · exact ⟨by omega, shallow.2⟩
  · exact shallow

theorem depth_le (shallow : t.IsShallow given) : t.depth ≤ 21 := by
  unfold IsShallow at shallow
  split at shallow
  · omega
  · exact shallow.2.le

end Task.IsShallow

namespace Source

variable {s : Source} {w w' v : Walk} {t : Task} {id : DirectoryId} {stack tasks last : List Task}
  {turns : List Turn} {o : Outcome Walk} {given : Nat}

/-- A place that is given fits to the depth of the task; a number that is given is the last one. -/
theorem Accepts.admits (accepts : s.Accepts w t id v) (shallow : t.IsShallow w.subIfds) :
    id.Admits t.depth ∧ ∀ n, id = .subIfd n → v.subIfds = n + 1 := by
  unfold Task.IsShallow at shallow
  rcases accepts.placed with ⟨named, _⟩ | ⟨unnamed, next, more⟩
  · rw [named] at shallow
    refine ⟨shallow.2, ?_⟩
    rintro n rfl
    cases shallow.1
  · rw [unnamed] at shallow
    obtain ⟨k, rfl, number⟩ := DirectoryId.subIfd?_eq_some next
    rw [← number] at shallow more
    refine ⟨shallow.1, ?_⟩
    rintro n ⟨⟩
    exact more

/-- The links of a directory lead one level down. -/
theorem isShallow_of_holds {link : Link} {parent : Option Nat} {depth : Nat}
    (admits : id.Admits depth) (number : ∀ n, id = .subIfd n → given = n + 1)
    (holds : id.Holds link.id) : Task.IsShallow given ⟨link, parent, depth + 1⟩ := by
  generalize target_eq : link.id = target at holds
  unfold Task.IsShallow
  simp only [target_eq]
  cases holds with
  | exif image | gps image => exact ⟨rfl, Nat.succ_le_succ (admits.le_of_image image)⟩
  | interop => exact ⟨rfl, Nat.succ_le_succ admits⟩
  | subIfd image =>
      refine ⟨?_, Nat.succ_le_succ (admits.le_of_image image)⟩
      cases id with
      | ifd n =>
          simp only [DirectoryId.Admits] at admits
          omega
      | subIfd n =>
          have last := number n rfl
          simp only [DirectoryId.Admits] at admits
          omega
      | exif | gps | interop => cases image

/-- The next pointer of a directory leads one level down. -/
theorem isShallow_of_follows (admits : id.Admits t.depth)
    (number : ∀ n, id = .subIfd n → given = n + 1) (follows : Follows t id last) :
    ∀ t' ∈ last, t'.IsShallow given := by
  intro t' member
  cases follows with
  | stop => cases member
  | chain succ offset =>
      obtain rfl := List.mem_singleton.1 member
      refine ⟨rfl, ?_⟩
      simp only [DirectoryId.Admits] at admits ⊢
      omega
  | another n offset =>
      obtain rfl := List.mem_singleton.1 member
      have last := number n rfl
      simp only [DirectoryId.Admits] at admits
      exact ⟨by dsimp only; omega, by dsimp only; omega⟩

/-- The directories that were read, and the tasks that wait, lie no deeper than their places
allow. -/
structure IsShallow (w : Walk) (stack : List Task) : Prop where
  directories : ∀ d ∈ w.directories, d.id.Admits d.depth
  tasks : ∀ t ∈ stack, t.IsShallow w.subIfds

theorem IsShallow.steps (shallow : IsShallow w (t :: stack)) (steps : s.Steps w t w' tasks) :
    IsShallow w' (tasks ++ stack) := by
  have here := shallow.tasks t List.mem_cons_self
  have waiting : ∀ t' ∈ stack, t'.IsShallow w.subIfds :=
    fun t' member => shallow.tasks t' (List.mem_cons_of_mem t member)
  cases steps with
  | idle same _ more =>
      exact
        { directories := same ▸ shallow.directories
          tasks := fun t' member => (waiting t' member).mono more }
  | @read id v contents last accepts read follows =>
      obtain ⟨admits, number⟩ := accepts.admits here
      have more : w.subIfds ≤ v.subIfds := by
        rcases accepts.placed with ⟨_, same⟩ | ⟨_, _, next⟩ <;> omega
      constructor
      · intro d member
        rw [accepts.directories_push, List.mem_append, List.mem_singleton] at member
        rcases member with old | rfl
        · exact shallow.directories d old
        · exact admits
      · intro t' member
        change t'.IsShallow v.subIfds
        simp only [List.append_assoc, List.mem_append, List.mem_map] at member
        rcases member with ⟨link, held, rfl⟩ | later | wait
        · exact isShallow_of_holds admits number (holds_of_readContents read link held)
        · exact isShallow_of_follows admits number follows t' later
        · exact (waiting t' wait).mono more

/-- A run from the first link keeps to the depths of the places. -/
theorem Run.isShallow {offset : Nat}
    (run : s.Run Walk.start [⟨.first offset, none, 0⟩] turns w o) :
    (∀ d ∈ w.directories, d.id.Admits d.depth) ∧ ∀ turn ∈ turns, turn.task.depth ≤ 21 := by
  have start : IsShallow Walk.start [⟨.first offset, none, 0⟩] :=
    { directories := by simp [Walk.start]
      tasks := by
        intro t member
        obtain rfl := List.mem_singleton.1 member
        exact ⟨rfl, rfl⟩ }
  obtain ⟨each, rest, last⟩ := run.invariant
    (fun shallow visits => IsShallow.steps shallow visits.steps) start
  exact ⟨last.directories,
    fun turn member => ((each turn member).tasks turn.task List.mem_cons_self).depth_le⟩

/-- The same stream with another limit. -/
def limited (s : Source) (limit : Int) : Source := { s with limit := limit }

/-- The limit does not matter for a task: its position is known, or it is not too deep. -/
def Fits (s : Source) (w : Walk) (t : Task) : Prop :=
  s.position t ∈ w.visited ∨ (t.depth : Int) ≤ s.limit

theorem accept_limited {limit : Int} (larger : s.limit ≤ limit) (fits : s.Fits w t) :
    (s.limited limit).accept w t = s.accept w t := by
  have position : (s.limited limit).position t = s.position t := rfl
  unfold accept
  rw [position]
  split
  · rfl
  rename_i fresh
  have shallow : (t.depth : Int) ≤ s.limit := fits.resolve_left (by simpa using fresh)
  rw [if_neg (show ¬ (s.limited limit).limit < t.depth by simp only [limited]; omega),
    if_neg (show ¬ s.limit < t.depth by omega)]

theorem visit_limited {limit : Int} (larger : s.limit ≤ limit) (fits : s.Fits w t) :
    (s.limited limit).visit w t = s.visit w t := by
  unfold visit
  rw [accept_limited larger fits]
  rfl

/-- A larger limit changes nothing unless the limit matters in some turn. -/
theorem Run.walk_limited {limit : Int} (larger : s.limit ≤ limit)
    (run : s.Run w stack turns v o) (fits : ∀ turn ∈ turns, s.Fits turn.before turn.task) :
    (s.limited limit).walk w stack = o := by
  induction run with
  | done w => exact walk_nil _ w
  | @failed w t stack events p visited =>
      have same : (s.limited limit).visit w t = s.visit w t :=
        visit_limited larger (fits _ List.mem_cons_self)
      rw [walk_cons, same, visited, Outcome.bind_of_error _ rfl]
  | @next w w' v t stack tasks turns events rest visited _ ih =>
      have same : (s.limited limit).visit w t = s.visit w t :=
        visit_limited larger (fits _ List.mem_cons_self)
      have later := ih fun turn member => fits turn (List.mem_cons_of_mem _ member)
      rw [walk_cons, same, visited, Outcome.bind_of_ok _ rfl, later]

/-- A task for which the limit matters is a problem, and the problem is its depth. -/
theorem isDepth_of_not_fits (far : ¬ s.Fits w t) :
    ∃ p ∈ (s.visit w t).problems, p.isDepth = true := by
  obtain ⟨fresh, deep⟩ := not_or.1 far
  have refused : s.accept w t = (.error (.directoryTooDeep t.link.offset s.limit), w) :=
    accept_of_deep (by simpa using fresh) (Int.not_le.1 deep)
  refine ⟨.directoryTooDeep t.link.offset s.limit, ?_, rfl⟩
  rw [visit, refused]
  dsimp only
  rw [Outcome.problems_bind_pure, Outcome.problems_flag]
  exact List.mem_singleton_self _

/-- Where no depth is a problem, the limit does not matter in any turn. -/
theorem Run.fits (run : s.Run w stack turns v o) (quiet : ∀ p ∈ o.problems, p.isDepth = false) :
    ∀ turn ∈ turns, s.Fits turn.before turn.task := by
  induction run with
  | done w => simp
  | @failed w t stack events p visited =>
      intro turn member
      obtain rfl := List.mem_singleton.1 member
      by_contra far
      obtain ⟨q, met, deep⟩ := isDepth_of_not_fits far
      rw [turn, visited] at met
      exact Bool.false_ne_true ((quiet q met).symm.trans deep)
  | @next w w' v t stack tasks turns events rest visited _ ih =>
      simp only [Outcome.problems_append, List.mem_append] at quiet
      intro turn member
      rcases List.mem_cons.1 member with rfl | later
      · by_contra far
        obtain ⟨q, met, deep⟩ := isDepth_of_not_fits far
        rw [Source.turn, visited] at met
        have warned : q ∈ events.filterMap Event.integrity? := by
          simpa [Outcome.problems, Outcome.integrity] using met
        exact Bool.false_ne_true ((quiet q (.inl warned)).symm.trans deep)
      · exact ih (fun q met => quiet q (.inr met)) turn later

end Source

namespace Stream

variable {bytes : Bytes} {base : Int} {strict : Bool} {limit limit' : Int}

/-- The limit only matters for the walk. -/
theorem read_congr
    (same : ∀ h, (Header.read bytes base strict).result = .ok h → leads bytes h = true →
      (⟨bytes, h, strict, limit'⟩ : Source).walk Walk.start [⟨.first h.firstOffset, none, 0⟩] =
        (⟨bytes, h, strict, limit⟩ : Source).walk Walk.start
          [⟨.first h.firstOffset, none, 0⟩]) :
    read bytes base strict limit' = read bytes base strict limit := by
  rw [read_eq, read_eq]
  rcases header : Header.read bytes base strict with ⟨events, p | h⟩
  · rw [Outcome.bind_of_error _ rfl, Outcome.bind_of_error _ rfl]
  rw [Outcome.bind_of_ok (a := h) _ rfl, Outcome.bind_of_ok (a := h) _ rfl]
  cases leading : leads bytes h with
  | false => rfl
  | true =>
      rw [Outcome.require_true, pure_bind, pure_bind, same h (by rw [header]) leading]

/-- What the walk has a problem with, the stream has. -/
theorem mem_problems_read {h : Header} {p : Problem}
    (header : (Header.read bytes base strict).result = .ok h) (leading : leads bytes h = true)
    (met : p ∈ ((⟨bytes, h, strict, limit⟩ : Source).walk Walk.start
      [⟨.first h.firstOffset, none, 0⟩]).problems) :
    p ∈ (read bytes base strict limit).problems := by
  rw [read_eq, Outcome.problems_bind_of_ok _ header, leading, Outcome.require_true, pure_bind]
  refine List.mem_append_right _ ?_
  rwa [Outcome.problems_bind_pure]

/-- No limit from the depth of the deepest place on is ever met. -/
theorem read_eq_of_le (below : 21 ≤ limit) :
    read bytes base strict limit = read bytes base strict 21 := by
  apply read_congr
  intro h _ _
  let s : Source := ⟨bytes, h, strict, 21⟩
  obtain ⟨turns, w, run⟩ := s.exists_run Walk.start [⟨.first h.firstOffset, none, 0⟩]
  have deepest := run.isShallow.2
  exact run.walk_limited below fun turn member => .inr (Int.ofNat_le.2 (deepest turn member))

/-- A limit that is not met may as well be larger. -/
theorem read_eq_of_quiet (larger : limit ≤ limit')
    (quiet : ∀ p ∈ (read bytes base strict limit).problems, p.isDepth = false) :
    read bytes base strict limit' = read bytes base strict limit := by
  apply read_congr
  intro h header leading
  let s : Source := ⟨bytes, h, strict, limit⟩
  obtain ⟨turns, w, run⟩ := s.exists_run Walk.start [⟨.first h.firstOffset, none, 0⟩]
  have fits := run.fits fun p met => quiet p (mem_problems_read header leading met)
  exact run.walk_limited larger fits

/-- The depth of a directory fits to its place, and no link is tried below the deepest place,
whatever the limit and however the reading ends. So all limits from there on give the same
directories, warnings and failures; and so does every limit that is larger than one that is not met.
-/
theorem read_unlimited (bytes : Bytes) (base : Int) (strict : Bool) :
    (∀ limit, (∃ turns w, Course bytes base strict limit turns w (read bytes base strict limit)) ∧
      ∀ turns w o, Course bytes base strict limit turns w o →
        o = read bytes base strict limit ∧ (∀ d ∈ w.directories, d.id.Admits d.depth) ∧
          (∀ turn ∈ turns, turn.task.depth ≤ 21) ∧
            ∀ stream, o.result = .ok stream → stream.directories = w.directories) ∧
    (∀ limit limit', 21 ≤ limit → 21 ≤ limit' →
      read bytes base strict limit = read bytes base strict limit') ∧
    ∀ limit limit', limit ≤ limit' →
      (∀ p ∈ (read bytes base strict limit).problems, p.isDepth = false) →
        read bytes base strict limit' = read bytes base strict limit := by
  refine ⟨fun limit => ⟨exists_course bytes base strict limit, fun turns w o course => ?_⟩,
    fun limit limit' below below' => ?_, fun limit limit' => read_eq_of_quiet⟩
  · refine ⟨course.outcome_eq, ?_⟩
    rcases course.idle_or_run with ⟨rfl, rfl⟩ | ⟨s, offset, walked, run⟩
    · exact ⟨by simp [Walk.start], by simp, fun stream => course.directories_eq⟩
    · exact ⟨run.isShallow.1, run.isShallow.2, fun stream => course.directories_eq⟩
  · rw [read_eq_of_le below, read_eq_of_le below']

end Stream

end Tiff

end ImageMetadata
