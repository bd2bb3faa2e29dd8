import ImageMetadata.Tiff.Slot

/-!
# Streams

A stream is read by walking from directory to directory. Links that are still to be followed stand
on a stack: the children of a directory come before the directory that its next pointer leads to. A
link is refused if it leads to a known position, too deep, or to a place that is taken. Each
directory that is read takes a place that was free, so the walk ends.
-/

namespace ImageMetadata.Tiff

/-- A link with the directory that holds it and the number of links followed so far. -/
structure Task where
  link : Link
  parent : Option Nat
  depth : Nat
  deriving DecidableEq, Repr

/-- What a walk has done so far. -/
structure Walk where
  /-- The positions at which a directory was tried. -/
  visited : List Nat
  /-- How many subordinate image directories were tried. -/
  subIfds : Nat
  directories : List Directory

namespace Walk

/-- Nothing done yet. -/
def start : Walk := ⟨[], 0, []⟩

/-- Whether a place is taken. -/
def takes (w : Walk) (id : DirectoryId) : Bool := w.directories.any fun d => d.id == id

/-- The places that are free. -/
def free (w : Walk) : List DirectoryId := DirectoryId.all.filter fun id => !w.takes id

/-- Adds a directory to those read. -/
def push (w : Walk) (d : Directory) : Walk := { w with directories := w.directories ++ [d] }

@[simp] theorem takes_push (w : Walk) (d : Directory) (id : DirectoryId) :
    (w.push d).takes id = (w.takes id || d.id == id) := by
  simp [takes, push]

theorem free_push_lt {w : Walk} {d : Directory} (h : w.takes d.id = false) :
    (w.push d).free.length < w.free.length := by
  have split : (w.push d).free = w.free.filter fun id => !(d.id == id) := by
    simp only [free, List.filter_filter, takes_push, Bool.not_or]
    congr 1
    funext id
    exact Bool.and_comm _ _
  rw [split]
  refine List.length_filter_lt_length_iff_exists.2 ⟨d.id, ?_, by simp⟩
  simp [free, h, DirectoryId.mem_all]

end Walk

/-- A stream whose directories are to be read. -/
structure Source where
  bytes : Bytes
  header : Header
  strict : Bool
  /-- The greatest number of links that are followed one after the other. -/
  limit : Int

namespace Source

/-- The position that a task is about. -/
def position (s : Source) (t : Task) : Nat := s.header.base + t.link.offset

/-- The place that a link leads to, if there is one, and the walk with the place tried. -/
def place (w : Walk) (t : Task) : Option DirectoryId × Walk :=
  match t.link.id with
  | some id => (some id, w)
  | none => (DirectoryId.subIfd? w.subIfds, { w with subIfds := w.subIfds + 1 })

/-- The place that a link leads to, or why it is not followed; and the walk with the place tried. -/
def accept (s : Source) (w : Walk) (t : Task) : Except Problem DirectoryId × Walk :=
  if w.visited.contains (s.position t) then (.error (.revisited t.link.offset), w)
  else if s.limit < t.depth then (.error (.directoryTooDeep t.link.offset s.limit), w)
  else
    match place w t with
    | (none, w) => (.error (.tooManySubIfds t.link.offset), w)
    | (some id, w) =>
      if w.takes id then (.error (.secondDirectory id t.link.offset), w)
      else (.ok id, { w with visited := s.position t :: w.visited })

/-- The task that the next pointer of a directory leads to. -/
def follow (s : Source) (t : Task) (id : DirectoryId) (offset : Nat) : Outcome (List Task) :=
  if offset = 0 then return []
  else if id.isIfd then
    match id.next with
    | none => do
      Outcome.flag s.strict (.chainTooLong offset)
      return []
    | some next => return [⟨⟨some next, offset⟩, t.parent, t.depth + 1⟩]
  else if id.isSubIfd then return [⟨⟨none, offset⟩, t.parent, t.depth + 1⟩]
  else do
    Outcome.trace (.nextIgnored id)
    return []

/-- Reads the directory at an accepted place; a failure only matters for the first one. -/
def open? (s : Source) (w : Walk) (t : Task) (id : DirectoryId) : Outcome (Option Contents) :=
  let found : Outcome (Option Contents) :=
    some <$> readContents s.bytes s.header s.strict id (s.position t)
  if w.directories.isEmpty then found
  else found.rescue fun cause => do
    Outcome.flag s.strict (.unreadableDirectory id t.link.offset cause)
    return none

/-- Does one task; the result is the new walk with the tasks that come before all others. -/
def visit (s : Source) (w : Walk) (t : Task) : Outcome (Walk × List Task) :=
  match s.accept w t with
  | (.error p, w) => do
    Outcome.flag s.strict p
    return (w, [])
  | (.ok id, w) => do
    match ← s.open? w t id with
    | none => return (w, [])
    | some contents =>
      let index := w.directories.length
      let d : Directory :=
        ⟨id, s.position t, s.header.order, contents.entries, index, t.parent, t.depth⟩
      Outcome.trace (.directoryRead id (s.position t) contents.entries.length)
      let last ← s.follow t id contents.next
      return (w.push d, (contents.children.map fun link => ⟨link, some index, t.depth + 1⟩) ++ last)

theorem place_directories (w : Walk) (t : Task) : (place w t).2.directories = w.directories := by
  unfold place; split <;> rfl

/-- Asking for a place leaves the directories alone. -/
theorem accept_directories (s : Source) (w : Walk) (t : Task) :
    (s.accept w t).2.directories = w.directories := by
  have h := place_directories w t
  unfold accept
  split
  · rfl
  split
  · rfl
  split
  · simp_all
  split <;> simp_all

/-- A place is only given while it is free. -/
theorem takes_of_accept {s : Source} {w : Walk} {t : Task} {id : DirectoryId}
    (h : (s.accept w t).1 = .ok id) : (s.accept w t).2.takes id = false := by
  unfold accept at h ⊢
  split
  · simp_all
  split
  · simp_all
  split
  · simp_all
  split
  · simp_all
  · next other v _ free =>
    simp_all
    exact free

/-- A link is only refused for a reason that is about the bytes of the file. -/
theorem structural_of_accept {s : Source} {w w' : Walk} {t : Task} {p : Problem}
    (refused : s.accept w t = (.error p, w')) : p.isStructural = true := by
  unfold accept at refused
  split at refused
  · cases refused; rfl
  split at refused
  · cases refused; rfl
  split at refused
  · cases refused; rfl
  split at refused
  · cases refused; rfl
  · cases refused

/-- The number of free places never grows and shrinks whenever a task leads to others. -/
theorem visit_free {s : Source} {w w' : Walk} {t : Task} {tasks : List Task}
    (h : (s.visit w t).result = .ok (w', tasks)) :
    w'.free.length < w.free.length ∨ (w'.free.length = w.free.length ∧ tasks = []) := by
  have same (v : Walk) (hv : v.directories = w.directories) : v.free = w.free := by
    simp [Walk.free, Walk.takes, hv]
  have kept := accept_directories s w t
  have untaken := @takes_of_accept s w t
  unfold visit at h
  split at h
  · next p v accepted =>
    obtain ⟨_, _, ⟨⟩⟩ := Outcome.ok_of_bind h
    rw [accepted] at kept
    exact .inr ⟨by rw [same _ kept], rfl⟩
  · next id v accepted =>
    rw [accepted] at kept untaken
    obtain ⟨contents?, _, h⟩ := Outcome.ok_of_bind h
    cases contents? with
    | none =>
      obtain ⟨rfl, rfl⟩ := Prod.mk.inj (Except.ok.inj h)
      exact .inr ⟨by rw [same _ kept], rfl⟩
    | some contents =>
      obtain ⟨_, _, h⟩ := Outcome.ok_of_bind h
      obtain ⟨last, _, h⟩ := Outcome.ok_of_bind h
      obtain ⟨rfl, rfl⟩ := Prod.mk.inj (Except.ok.inj h)
      left
      rw [← same _ kept]
      exact Walk.free_push_lt (untaken rfl)

/-- Does all tasks of a stack. -/
def walk (s : Source) (w : Walk) : List Task → Outcome Walk
  | [] => return w
  | t :: stack =>
    match _h : s.visit w t with
    | ⟨events, .error p⟩ => ⟨events, .error p⟩
    | ⟨events, .ok (w', tasks)⟩ =>
      let rest := s.walk w' (tasks ++ stack)
      ⟨events ++ rest.events, rest.result⟩
termination_by stack => (w.free.length, stack.length)
decreasing_by
  rcases visit_free (congrArg Outcome.result _h) with fewer | ⟨same, rfl⟩
  · exact Prod.Lex.left _ _ fewer
  · rw [same]; exact Prod.Lex.right _ (by simp)

@[simp] theorem walk_nil (s : Source) (w : Walk) : s.walk w [] = pure w := by
  rw [walk]

/-- A walk does the first task and goes on with the tasks that come from it. -/
theorem walk_cons (s : Source) (w : Walk) (t : Task) (stack : List Task) :
    s.walk w (t :: stack) = s.visit w t >>= fun r => s.walk r.1 (r.2 ++ stack) := by
  rw [walk]
  split
  · next events p failed =>
    rw [failed, Outcome.bind_of_error _ rfl]
  · next events w' tasks visited =>
    rw [visited, Outcome.bind_of_ok _ rfl]

end Source

/-- A header with the directories in the order in which they were read. -/
structure Stream where
  header : Header
  directories : List Directory
  deriving DecidableEq

namespace Stream

/-- Reads the stream whose header stands at a position. -/
def read (bytes : Bytes) (base : Int) (strict : Bool) (limit : Int) : Outcome Stream := do
  let header ← Header.read bytes base strict
  let first := header.base + header.firstOffset
  Outcome.require (header.firstOffset != 0 && first + header.countSize ≤ bytes.length)
    (.firstDirectoryOutside header.firstOffset (bytes.length - header.base))
  let source : Source := ⟨bytes, header, strict, limit⟩
  let w ← source.walk Walk.start [⟨.first header.firstOffset, none, 0⟩]
  return ⟨header, w.directories⟩

end Stream

end ImageMetadata.Tiff
