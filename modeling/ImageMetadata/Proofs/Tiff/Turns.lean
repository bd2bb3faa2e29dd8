import ImageMetadata.Proofs.Tiff.Walk

/-!
# The turns of a walk

A walk takes turn after turn: it does the first of the tasks that wait, and the tasks that come from
it wait before the other ones. Nothing in this says that there is a last turn. Yet the reading of a
stream is a run of turns that ends, and there is no other run; so what every turn keeps is known of
all streams, whether they are read or refused, and the turns can be counted.
-/

namespace ImageMetadata.Tiff

namespace Source

/-- A turn of a walk: the walk and the tasks before it, the first of which is done in the turn. -/
structure Turn where
  before : Walk
  task : Task
  waiting : List Task
  /-- The position at which a directory is decoded, unless the link is refused. -/
  decoded : Option Nat
  /-- The walk after the turn with the tasks that come from it, unless the turn fails. -/
  after : Option (Walk × List Task)

variable (s : Source)

/-- The position at which a task has a directory decoded; a link that is refused has none. -/
def decoded? (w : Walk) (t : Task) : Option Nat :=
  match (s.accept w t).1 with
  | .ok _ => some (s.position t)
  | .error _ => none

/-- The turn in which a task is done. -/
def turn (w : Walk) (t : Task) (waiting : List Task) : Turn :=
  ⟨w, t, waiting, s.decoded? w t, (s.visit w t).result.toOption⟩

/-- A run from some tasks: its turns, the walk that they leave, and the outcome. A turn that fails is
the last one and leaves the walk as it was. -/
inductive Run (s : Source) : Walk → List Task → List Turn → Walk → Outcome Walk → Prop
  | done (w : Walk) : Run s w [] [] w (pure w)
  | failed {w : Walk} {t : Task} {stack : List Task} {events : List Event} {p : Problem}
      (visited : s.visit w t = ⟨events, .error p⟩) :
      Run s w (t :: stack) [s.turn w t stack] w ⟨events, .error p⟩
  | next {w w' v : Walk} {t : Task} {stack tasks : List Task} {turns : List Turn}
      {events : List Event} {rest : Outcome Walk}
      (visited : s.visit w t = ⟨events, .ok (w', tasks)⟩)
      (later : Run s w' (tasks ++ stack) turns v rest) :
      Run s w (t :: stack) (s.turn w t stack :: turns) v ⟨events ++ rest.events, rest.result⟩

variable {s} {w w' v v' : Walk} {t : Task} {stack tasks : List Task} {turns turns' : List Turn}
  {o o' : Outcome Walk}

/-- What a turn leaves comes from its task. -/
theorem visits_of_turn (after : (s.turn w t stack).after = some (w', tasks)) :
    s.Visits w t w' tasks := by
  apply visits_of_visit
  cases visited : (s.visit w t).result with
  | error p => simp [turn, visited, Except.toOption] at after
  | ok r => simpa [turn, visited, Except.toOption] using after

variable (s w stack) in
/-- A walk is a run that ends. -/
theorem exists_run : ∃ turns v, s.Run w stack turns v (s.walk w stack) := by
  induction w, stack using walk.induct s with
  | case1 w =>
      rw [walk_nil]
      exact ⟨_, _, .done w⟩
  | case2 w t stack events p failed =>
      rw [walk_cons, failed, Outcome.bind_of_error _ rfl]
      exact ⟨_, _, .failed failed⟩
  | case3 w t stack events w' tasks visited ih =>
      obtain ⟨turns, v, later⟩ := ih
      rw [walk_cons, visited, Outcome.bind_of_ok _ rfl]
      exact ⟨_, _, .next visited later⟩

namespace Run

/-- The tasks decide the turns and how they end. -/
theorem deterministic (run : s.Run w stack turns v o) :
    ∀ {turns' v' o'}, s.Run w stack turns' v' o' → turns' = turns ∧ v' = v ∧ o' = o := by
  induction run with
  | done w =>
      intro turns' v' o' run'
      cases run'
      exact ⟨rfl, rfl, rfl⟩
  | failed visited =>
      intro turns' v' o' run'
      cases run' with
      | failed visited' =>
          cases visited.symm.trans visited'
          exact ⟨rfl, rfl, rfl⟩
      | next visited' _ => cases visited.symm.trans visited'
  | next visited _ ih =>
      intro turns' v' o' run'
      cases run' with
      | failed visited' => cases visited.symm.trans visited'
      | next visited' later' =>
          cases visited.symm.trans visited'
          obtain ⟨rfl, rfl, rfl⟩ := ih later'
          exact ⟨rfl, rfl, rfl⟩

/-- A run that comes to a result leaves the walk that is the result. -/
theorem result_eq (run : s.Run w stack turns v o) {u : Walk} (ended : o.result = .ok u) :
    u = v := by
  induction run with
  | done w => exact (Except.ok.inj ended).symm
  | failed _ => cases ended
  | next _ _ ih => exact ih ended

/-- The walk and the tasks before a turn decide it. -/
theorem eq_turn (run : s.Run w stack turns v o) :
    ∀ turn ∈ turns, turn = s.turn turn.before turn.task turn.waiting := by
  induction run with
  | done w => simp
  | failed _ =>
      intro turn member
      obtain rfl := List.mem_singleton.1 member
      rfl
  | next _ _ ih =>
      intro turn member
      rcases List.mem_cons.1 member with rfl | later
      · rfl
      · exact ih turn later

/-- What every task keeps holds before each turn and at the end of the run. -/
theorem invariant {I : Walk → List Task → Prop}
    (keep : ∀ {w t stack w' tasks}, I w (t :: stack) → s.Visits w t w' tasks →
      I w' (tasks ++ stack))
    (run : s.Run w stack turns v o) (start : I w stack) :
    (∀ turn ∈ turns, I turn.before (turn.task :: turn.waiting)) ∧ ∃ rest, I v rest := by
  induction run with
  | done w => exact ⟨by simp, [], start⟩
  | failed _ =>
      refine ⟨fun turn member => ?_, _, start⟩
      obtain rfl := List.mem_singleton.1 member
      exact start
  | next visited _ ih =>
      obtain ⟨each, last⟩ := ih (keep start (visits_of_visit (congrArg Outcome.result visited)))
      refine ⟨fun turn member => ?_, last⟩
      rcases List.mem_cons.1 member with rfl | later
      · exact start
      · exact each turn later

end Run

end Source

namespace Stream

/-- Whether a header leads to a first directory whose number of entries lies inside the bytes. -/
def leads (bytes : Bytes) (h : Header) : Bool :=
  h.firstOffset != 0 && h.base + h.firstOffset + h.countSize ≤ bytes.length

/-- The course of reading a stream: the turns that are taken, the walk that they leave, and the
outcome. The header is read before the first turn. -/
inductive Course (bytes : Bytes) (base : Int) (strict : Bool) (limit : Int) :
    List Source.Turn → Walk → Outcome Stream → Prop
  | headless {events : List Event} {p : Problem}
      (header_eq : Header.read bytes base strict = ⟨events, .error p⟩) :
      Course bytes base strict limit [] Walk.start ⟨events, .error p⟩
  | astray {events : List Event} {h : Header}
      (header_eq : Header.read bytes base strict = ⟨events, .ok h⟩)
      (nowhere : leads bytes h = false) :
      Course bytes base strict limit [] Walk.start
        ⟨events, .error (.firstDirectoryOutside h.firstOffset (bytes.length - h.base))⟩
  | walked {events : List Event} {h : Header} {turns : List Source.Turn} {w : Walk}
      {o : Outcome Walk} (header_eq : Header.read bytes base strict = ⟨events, .ok h⟩)
      (leads : leads bytes h = true)
      (run : (⟨bytes, h, strict, limit⟩ : Source).Run Walk.start
        [⟨.first h.firstOffset, none, 0⟩] turns w o) :
      Course bytes base strict limit turns w
        ⟨events ++ o.events, o.result.map fun w => ⟨h, w.directories⟩⟩

variable {bytes : Bytes} {base : Int} {strict : Bool} {limit : Int}
  {turns turns' : List Source.Turn} {w w' : Walk} {o o' : Outcome Stream}

variable (bytes base strict limit) in
/-- A header that leads to a first directory is followed by the walk. -/
theorem read_eq : read bytes base strict limit = (do
    let h ← Header.read bytes base strict
    Outcome.require (leads bytes h)
      (.firstDirectoryOutside h.firstOffset (bytes.length - h.base))
    let w ← (⟨bytes, h, strict, limit⟩ : Source).walk Walk.start
      [⟨.first h.firstOffset, none, 0⟩]
    return ⟨h, w.directories⟩) := rfl

variable (bytes base strict limit) in
/-- The reading of a stream has a course. -/
theorem exists_course : ∃ turns w, Course bytes base strict limit turns w
    (read bytes base strict limit) := by
  rw [read_eq]
  rcases header : Header.read bytes base strict with ⟨events, p | h⟩
  · rw [Outcome.bind_of_error _ rfl]
    exact ⟨_, _, .headless header⟩
  rw [Outcome.bind_of_ok _ rfl]
  cases leading : leads bytes h with
  | false =>
      have course : Course bytes base strict limit [] Walk.start _ := .astray header leading
      exact ⟨_, _, by simpa [Outcome.require, Outcome.fail, Outcome.bind_of_error] using course⟩
  | true =>
      obtain ⟨turns, w, run⟩ := Source.exists_run ⟨bytes, h, strict, limit⟩ Walk.start
        [⟨.first h.firstOffset, none, 0⟩]
      have course := Course.walked header leading run
      refine ⟨turns, w, ?_⟩
      rw [Outcome.require_true, pure_bind]
      generalize Source.walk _ _ _ = outcome at course ⊢
      rcases outcome with ⟨_, _ | _⟩
      · rw [Outcome.bind_of_error _ rfl]
        exact course
      · rw [Outcome.bind_of_ok _ rfl, Outcome.pure_events, List.append_nil]
        exact course

/-- The bytes decide the course of reading. -/
theorem Course.deterministic (course : Course bytes base strict limit turns w o)
    (course' : Course bytes base strict limit turns' w' o') :
    turns' = turns ∧ w' = w ∧ o' = o := by
  cases course with
  | headless header =>
      cases course' with
      | headless header' =>
          cases header.symm.trans header'
          exact ⟨rfl, rfl, rfl⟩
      | astray header' _ => cases header.symm.trans header'
      | walked header' _ _ => cases header.symm.trans header'
  | astray header nowhere =>
      cases course' with
      | headless header' => cases header.symm.trans header'
      | astray header' _ =>
          cases header.symm.trans header'
          exact ⟨rfl, rfl, rfl⟩
      | walked header' leading' _ =>
          cases header.symm.trans header'
          cases nowhere.symm.trans leading'
  | walked header leading run =>
      cases course' with
      | headless header' => cases header.symm.trans header'
      | astray header' nowhere' =>
          cases header.symm.trans header'
          cases leading.symm.trans nowhere'
      | walked header' _ run' =>
          cases header.symm.trans header'
          obtain ⟨rfl, rfl, rfl⟩ := run.deterministic run'
          exact ⟨rfl, rfl, rfl⟩

namespace Course

theorem outcome_eq (course : Course bytes base strict limit turns w o) :
    o = read bytes base strict limit := by
  obtain ⟨_, _, known⟩ := exists_course bytes base strict limit
  exact (known.deterministic course).2.2

/-- There are no turns, or they are those of a walk from the first link. -/
theorem idle_or_run (course : Course bytes base strict limit turns w o) :
    turns = [] ∧ w = Walk.start ∨ ∃ (s : Source) (offset : Nat) (walked : Outcome Walk),
      s.Run Walk.start [⟨.first offset, none, 0⟩] turns w walked := by
  cases course with
  | headless _ | astray _ _ => exact .inl ⟨rfl, rfl⟩
  | walked _ _ run => exact .inr ⟨_, _, _, run⟩

/-- A stream has the directories of the walk that the turns leave. -/
theorem directories_eq (course : Course bytes base strict limit turns w o) {stream : Stream}
    (ended : o.result = .ok stream) : stream.directories = w.directories := by
  cases course with
  | headless _ | astray _ _ => cases ended
  | @walked _ _ _ _ o _ _ run =>
      dsimp only at ended
      cases walked : o.result with
      | error p =>
          rw [walked] at ended
          cases ended
      | ok v =>
          obtain rfl := run.result_eq walked
          rw [walked] at ended
          cases ended
          rfl

end Course

end Stream

end ImageMetadata.Tiff
