import ImageMetadata.Tiff.Stream

/-!
# The recursive traversal of a stream

The directories of a stream are those of a recursive procedure: a directory, then everything that
its entries lead to, then the directory that its next pointer leads to. The procedure ends, since a
directory that is read takes a place. The walk with a stack of tasks does the same, for whatever
stands on the stack below a task has to wait until the task is done with all that comes from it.
-/

namespace ImageMetadata.Tiff

namespace Walk

/-- Marks a position as tried. -/
def mark (w : Walk) (position : Nat) : Walk := { w with visited := position :: w.visited }

/-- Counts one more subordinate image directory. -/
def count (w : Walk) : Walk := { w with subIfds := w.subIfds + 1 }

/-- What a walk may become: no place that is taken gets free again. -/
abbrev Later (w : Walk) := { v : Walk // v.free.length ≤ w.free.length }

/-- A walk does not have to go on. -/
def now (w : Walk) : w.Later := ⟨w, Nat.le_refl _⟩

end Walk

namespace Source

variable (s : Source)

/-- What the next pointer of a directory leads to; another subordinate image directory has no fixed
place. -/
def successor? (id : DirectoryId) (offset : Nat) : Option Link :=
  if offset = 0 then none
  else
    match id with
    | .ifd n => (DirectoryId.ifd? (n.val + 1)).map fun next => ⟨some next, offset⟩
    | .subIfd _ => some ⟨none, offset⟩
    | _ => none

/-- Reports a next pointer that leads beyond the last place of the main chain, or that has no
meaning. -/
def reportNext (id : DirectoryId) (offset : Nat) : Outcome Unit :=
  if offset = 0 then return
  else
    match id with
    | .ifd n => Outcome.check s.strict (n.val + 1 < 10) (.chainTooLong offset)
    | .subIfd _ => return
    | _ => Outcome.trace (.nextIgnored id)

mutual

/-- Visits the directory that a pointer leads to, and then what that directory leads to. -/
def explore (link : Link) (parent : Option Nat) (depth : Nat) (w : Walk) : Outcome w.Later := do
  if w.visited.contains (s.header.base + link.offset) then
    Outcome.flag s.strict (.revisited link.offset)
    return w.now
  else if s.limit < depth then
    Outcome.flag s.strict (.directoryTooDeep link.offset s.limit)
    return w.now
  else
    match link.id with
    | some id => exploreAt id link.offset parent depth w
    | none =>
      match DirectoryId.subIfd? w.subIfds with
      | none =>
        Outcome.flag s.strict (.tooManySubIfds link.offset)
        return ⟨w.count, Nat.le_refl _⟩
      | some id =>
        let v ← exploreAt id link.offset parent depth w.count
        return ⟨v.val, v.property⟩
termination_by (w.free.length, 1, 0)

/-- Visits a directory as the one at a place. -/
def exploreAt (id : DirectoryId) (offset : Nat) (parent : Option Nat) (depth : Nat) (w : Walk) :
    Outcome w.Later := do
  if taken : w.takes id then
    Outcome.flag s.strict (.secondDirectory id offset)
    return w.now
  else
    let position := s.header.base + offset
    let index := w.directories.length
    let found : Outcome (Option Contents) :=
      some <$> readContents s.bytes s.header s.strict id position
    match ← (if index = 0 then found else found.rescue fun cause => do
        Outcome.flag s.strict (.unreadableDirectory id offset cause)
        return none : Outcome (Option Contents)) with
    | none => return ⟨w.mark position, Nat.le_refl _⟩
    | some contents =>
      Outcome.trace (.directoryRead id position contents.entries.length)
      s.reportNext id contents.next
      let d : Directory :=
        ⟨id, position, s.header.order, contents.entries, index, parent, depth⟩
      have fewer : ((w.mark position).push d).free.length < w.free.length :=
        Walk.free_push_lt (Bool.eq_false_iff.2 taken)
      let v ← exploreAll contents.children (some index) (depth + 1) ((w.mark position).push d)
      match successor? id contents.next with
      | none => return ⟨v.val, Nat.le_of_lt (Nat.lt_of_le_of_lt v.property fewer)⟩
      | some link =>
        let u ← explore link parent (depth + 1) v.val
        return ⟨u.val, Nat.le_of_lt (Nat.lt_of_le_of_lt (Nat.le_trans u.property v.property) fewer)⟩
termination_by (w.free.length, 0, 0)
decreasing_by
  · exact Prod.Lex.left _ _ fewer
  · exact Prod.Lex.left _ _ (Nat.lt_of_le_of_lt v.property fewer)

/-- Visits the directories that the entries of one directory point to. -/
def exploreAll (children : List Link) (parent : Option Nat) (depth : Nat) (w : Walk) :
    Outcome w.Later :=
  match children with
  | [] => return w.now
  | link :: rest => do
    let v ← explore link parent depth w
    let u ← exploreAll rest parent depth v.val
    return ⟨u.val, Nat.le_trans u.property v.property⟩
termination_by (w.free.length, 2, children.length)
decreasing_by
  · exact Prod.Lex.right _ (Prod.Lex.left _ _ (by decide))
  · rcases Nat.lt_or_eq_of_le v.property with fewer | same
    · exact Prod.Lex.left _ _ fewer
    · rw [same]; exact Prod.Lex.right _ (Prod.Lex.right _ (Nat.lt_succ_self _))

end

section Accept

variable {s} {w : Walk} {t : Task}

theorem accept_of_visited (known : w.visited.contains (s.position t) = true) :
    s.accept w t = (.error (.revisited t.link.offset), w) := if_pos known

theorem accept_of_deep (fresh : ¬ w.visited.contains (s.position t) = true)
    (deep : s.limit < t.depth) :
    s.accept w t = (.error (.directoryTooDeep t.link.offset s.limit), w) := by
  rw [accept, if_neg fresh, if_pos deep]

/-- A link to a fixed place only depends on whether the place is taken. -/
theorem accept_of_placed {id : DirectoryId} (fresh : ¬ w.visited.contains (s.position t) = true)
    (shallow : ¬ s.limit < t.depth) (placed : t.link.id = some id) :
    s.accept w t =
      if w.takes id then (.error (.secondDirectory id t.link.offset), w)
      else (.ok id, w.mark (s.position t)) := by
  rw [accept, if_neg fresh, if_neg shallow, place, placed]
  rfl

theorem accept_of_full (fresh : ¬ w.visited.contains (s.position t) = true)
    (shallow : ¬ s.limit < t.depth) (numbered : t.link.id = none)
    (full : DirectoryId.subIfd? w.subIfds = none) :
    s.accept w t = (.error (.tooManySubIfds t.link.offset), w.count) := by
  rw [accept, if_neg fresh, if_neg shallow, place, numbered, full]
  rfl

/-- A link without a fixed place is counted first and then treated like the others. -/
theorem accept_of_numbered {id : DirectoryId} (fresh : ¬ w.visited.contains (s.position t) = true)
    (shallow : ¬ s.limit < t.depth) (numbered : t.link.id = none)
    (next : DirectoryId.subIfd? w.subIfds = some id) :
    s.accept w t =
      if w.count.takes id then (.error (.secondDirectory id t.link.offset), w.count)
      else (.ok id, w.count.mark (s.position t)) := by
  rw [accept, if_neg fresh, if_neg shallow, place, numbered, next]
  rfl

end Accept

/-- A refused task is reported, and the walk goes on with the other ones. -/
theorem walk_of_refused {w v : Walk} {t : Task} {p : Problem} (h : s.accept w t = (.error p, v))
    (stack : List Task) :
    s.walk w (t :: stack) = (do Outcome.flag s.strict p; s.walk v stack) := by
  rw [walk_cons, visit, h]
  simp

/-- What the next pointer of a directory leads to is reported before it is known. -/
theorem follow_eq (t : Task) (id : DirectoryId) (offset : Nat) :
    s.follow t id offset = (do
      s.reportNext id offset
      return ((successor? id offset).map fun link => ⟨link, t.parent, t.depth + 1⟩).toList) := by
  by_cases none : offset = 0
  · simp [follow, reportNext, successor?, none]
  cases id with
  | ifd n =>
      have next : DirectoryId.next (.ifd n) = DirectoryId.ifd? (n.val + 1) := rfl
      by_cases last : n.val + 1 < 10
      · have some_next : DirectoryId.ifd? (n.val + 1) = some (.ifd ⟨n.val + 1, last⟩) :=
          dif_pos (by omega)
        simp [follow, reportNext, successor?, none, DirectoryId.isIfd, next, some_next,
          Outcome.check, last]
      · have no_next : DirectoryId.ifd? (n.val + 1) = .none := dif_neg (by omega)
        simp [follow, reportNext, successor?, none, DirectoryId.isIfd, next, no_next,
          Outcome.check, last]
  | subIfd n => simp [follow, reportNext, successor?, none, DirectoryId.isIfd, DirectoryId.isSubIfd]
  | exif => simp [follow, reportNext, successor?, none, DirectoryId.isIfd, DirectoryId.isSubIfd]
  | gps => simp [follow, reportNext, successor?, none, DirectoryId.isIfd, DirectoryId.isSubIfd]
  | interop => simp [follow, reportNext, successor?, none, DirectoryId.isIfd, DirectoryId.isSubIfd]

/-- Only the first directory has to be readable. -/
theorem open?_mark (w : Walk) (t : Task) (id : DirectoryId) (position : Nat) :
    s.open? (w.mark position) t id =
      if w.directories.length = 0 then
        some <$> readContents s.bytes s.header s.strict id (s.position t)
      else
        (some <$> readContents s.bytes s.header s.strict id (s.position t)).rescue fun cause => do
          Outcome.flag s.strict (.unreadableDirectory id t.link.offset cause)
          return none := by
  simp [open?, Walk.mark]

/-- An accepted task puts the children of the directory before the other tasks, and the next
directory between the two. -/
theorem walk_of_accepted {w v : Walk} {t : Task} {id : DirectoryId}
    (h : s.accept w t = (.ok id, v)) (stack : List Task) :
    s.walk w (t :: stack) = (do
      match ← s.open? v t id with
      | none => s.walk v stack
      | some contents =>
        let d : Directory := ⟨id, s.position t, s.header.order, contents.entries,
          v.directories.length, t.parent, t.depth⟩
        let next := (successor? id contents.next).map fun link => ⟨link, t.parent, t.depth + 1⟩
        Outcome.trace (.directoryRead id (s.position t) contents.entries.length)
        s.reportNext id contents.next
        s.walk (v.push d) ((contents.children.map fun link =>
          ⟨link, some v.directories.length, t.depth + 1⟩) ++ (next.toList ++ stack))) := by
  rw [walk_cons, visit, h]
  simp only [bind_assoc]
  congr 1
  funext contents?
  cases contents? with
  | none => simp
  | some contents => simp [follow_eq]

/-- Whatever stands on the stack, the walk first does what the procedure does for the tasks on top.
The induction follows the procedure. A task whose place is known is compared with the visit at that
place, for all the walks in which it is accepted alike. -/
theorem walk_eq_explore :
    (∀ link parent depth w, ∀ stack : List Task,
      s.walk w (⟨link, parent, depth⟩ :: stack) =
        s.explore link parent depth w >>= fun v => s.walk v.val stack) ∧
    (∀ id offset parent depth w, ∀ (w₀ : Walk) (t : Task) (stack : List Task),
      t.link.offset = offset → t.parent = parent → t.depth = depth →
      s.accept w₀ t =
        (if w.takes id then (.error (.secondDirectory id offset), w)
          else (.ok id, w.mark (s.header.base + offset))) →
      s.walk w₀ (t :: stack) =
        s.exploreAt id offset parent depth w >>= fun v => s.walk v.val stack) ∧
    (∀ (children : List Link) parent depth w, ∀ stack : List Task,
      s.walk w ((children.map fun link => ⟨link, parent, depth⟩) ++ stack) =
        s.exploreAll children parent depth w >>= fun v => s.walk v.val stack) := by
  apply explore.mutual_induct
  case case1 =>
    intro link parent depth w known stack
    rw [explore, if_pos known, walk_of_refused s (accept_of_visited known)]
    simp [Walk.now]
  case case2 =>
    intro link parent depth w fresh deep stack
    rw [explore, if_neg fresh, if_pos deep, walk_of_refused s (accept_of_deep fresh deep)]
    simp [Walk.now]
  case case3 =>
    intro link parent depth w fresh shallow id placed ih stack
    rw [explore, if_neg fresh, if_neg shallow, placed]
    exact ih w ⟨link, parent, depth⟩ stack rfl rfl rfl (accept_of_placed fresh shallow placed)
  case case4 =>
    intro link parent depth w fresh shallow numbered full stack
    rw [explore, if_neg fresh, if_neg shallow, numbered, full,
      walk_of_refused s (accept_of_full fresh shallow numbered full)]
    simp
  case case5 =>
    intro link parent depth w fresh shallow numbered id next ih stack
    have accepted := accept_of_numbered (t := ⟨link, parent, depth⟩) fresh shallow numbered next
    rw [explore, if_neg fresh, if_neg shallow, numbered, next,
      ih w ⟨link, parent, depth⟩ stack rfl rfl rfl accepted]
    simp
  case case6 =>
    rintro id offset parent depth w taken w₀ t stack rfl rfl rfl accepted
    rw [if_pos taken] at accepted
    rw [exploreAt, dif_pos taken, walk_of_refused s accepted]
    simp [Walk.now]
  case case7 =>
    intro id offset parent depth w free position index children next w₀ t stack ho hp hd accepted
    subst ho hp hd
    rw [if_neg free] at accepted
    rw [exploreAt, dif_neg free, walk_of_accepted s accepted, open?_mark, bind_assoc]
    congr 1
    funext contents?
    cases contents? with
    | none => simp
    | some contents =>
        simp only [bind_assoc]
        congr 1
        funext _
        congr 1
        funext _
        apply (children contents _).trans
        congr 1
        funext v
        cases successor? id contents.next with
        | none => simp
        | some link =>
            apply (next contents v link stack).trans
            simp
  case case8 =>
    intro parent depth w stack
    rw [exploreAll]
    simp [Walk.now]
  case case9 =>
    intro parent depth w link rest first others stack
    rw [exploreAll, List.map_cons, List.cons_append, first]
    simp [others]

end Source

namespace Stream

/-- Reads the stream whose header stands at a position by the recursive procedure. -/
def explore (bytes : Bytes) (base : Int) (strict : Bool) (limit : Int) : Outcome Stream := do
  let header ← Header.read bytes base strict
  let first := header.base + header.firstOffset
  Outcome.require (header.firstOffset != 0 && first + header.countSize ≤ bytes.length)
    (.firstDirectoryOutside header.firstOffset (bytes.length - header.base))
  let source : Source := ⟨bytes, header, strict, limit⟩
  let w ← source.explore (.first header.firstOffset) none 0 Walk.start
  return ⟨header, w.val.directories⟩

/-- The walk with a stack is the recursive traversal: it yields the same directories with the same
places, parents and depths, in the same order, the same warnings, and the same failure. -/
theorem read_eq_explore (bytes : Bytes) (base : Int) (strict : Bool) (limit : Int) :
    read bytes base strict limit = explore bytes base strict limit := by
  refine congrArg (Header.read bytes base strict >>= ·) (funext fun header => ?_)
  refine congrArg (Outcome.require _ _ >>= ·) (funext fun _ => ?_)
  have walked := (Source.walk_eq_explore ⟨bytes, header, strict, limit⟩).1
    (.first header.firstOffset) none 0 Walk.start []
  simp only [walked, bind_assoc, Source.walk_nil, pure_bind]

end Stream

end ImageMetadata.Tiff
