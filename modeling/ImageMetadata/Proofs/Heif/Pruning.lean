import ImageMetadata.Proofs.Heif.Reads

/-!
# The depth limit prunes the boxes

A smaller limit on the depth closes more containers and changes nothing else: every box that is
still reached is read as before, and no file becomes unreadable by it.
-/

namespace ImageMetadata.Heif

open ImageMetadata.Action (Yields)

namespace Box

mutual

/-- A box at some depth without the boxes inside containers that are not above a limit. -/
def pruned (limit : Int) (depth : Nat) : Box → Box
  | ⟨id, offset, length, headerSize, content, children⟩ =>
    ⟨id, offset, length, headerSize, content,
      if content.category = .container ∧ limit ≤ depth then []
      else prunedAll limit (depth + 1) children⟩

/-- A forest at some depth without the boxes inside containers that are not above a limit. -/
def prunedAll (limit : Int) (depth : Nat) : List Box → List Box
  | [] => []
  | b :: rest => b.pruned limit depth :: prunedAll limit depth rest

end

variable {limit : Int} {depth : Nat}

@[simp] theorem prunedAll_nil : prunedAll limit depth [] = [] := by rw [prunedAll]

theorem prunedAll_cons (b : Box) (rest : List Box) :
    prunedAll limit depth (b :: rest) =
      { b with
        children :=
          if b.content.category = .container ∧ limit ≤ depth then []
          else prunedAll limit (depth + 1) b.children } :: prunedAll limit depth rest := by
  cases b
  rw [prunedAll, pruned]

end Box

variable {bytes : Bytes} {shallow deep : Int} {depth start stop : Nat} {events : List Event}
  {boxes : List Box}

/-- What is read up to one depth is read up to a smaller one without the boxes that are too deep. -/
theorem Reads.pruned (le : shallow ≤ deep)
    (h : Reads bytes false deep depth start stop events boxes) :
    ∃ events', Reads bytes false shallow depth start stop events'
      (Box.prunedAll shallow depth boxes) := by
  induction h with
  | done reached =>
      rw [Box.prunedAll_nil]
      exact ⟨_, .done reached⟩
  | extra more short lenient =>
      rw [Box.prunedAll_nil]
      exact ⟨_, .extra more short lenient⟩
  | leaf head leaf _ siblings =>
      obtain ⟨later, siblings⟩ := siblings
      have read := Reads.leaf head leaf siblings
      exact ⟨_, by simpa [Box.prunedAll_cons, BoxHeader.box] using read⟩
  | @closed depth _ _ _ _ _ _ _ _ head container deep lenient _ siblings =>
      obtain ⟨later, siblings⟩ := siblings
      have read := Reads.closed head container (show shallow < (depth : Int) + 1 by omega) lenient
        siblings
      exact ⟨_, by simpa [Box.prunedAll_cons, BoxHeader.box] using read⟩
  | @opened depth _ _ _ _ _ _ _ _ _ _ head container _ _ _ inside siblings =>
      obtain ⟨inner, inside⟩ := inside
      obtain ⟨later, siblings⟩ := siblings
      by_cases cut : shallow ≤ (depth : Int)
      · have read := Reads.closed head container (show shallow < (depth : Int) + 1 by omega) rfl
          siblings
        exact ⟨_, by simpa [Box.prunedAll_cons, BoxHeader.box, container, cut] using read⟩
      · have read := Reads.opened head container (show (depth : Int) + 1 ≤ shallow by omega) inside
          siblings
        exact ⟨_, by simpa [Box.prunedAll_cons, BoxHeader.box, container, cut] using read⟩

/-- The first box keeps its contents. -/
theorem Session.ListsBrands.pruned {strict : Bool}
    (h : Session.ListsBrands strict events boxes) (limit : Int) (depth : Nat) :
    Session.ListsBrands strict events (Box.prunedAll limit depth boxes) := by
  obtain ⟨first, rest, major, minor, compatible, rfl, content, checked⟩ := h
  rw [Box.prunedAll_cons]
  exact ⟨_, _, major, minor, compatible, rfl, content, checked⟩

/-- A file that is read up to one depth is read up to every smaller one, and its boxes are the same
but for those inside containers that are too deep. -/
theorem readAll_prunedAll {s : Session} (le : shallow ≤ deep)
    (h : Yields (Session.readAll deep) (Session.start bytes false) () s) :
    Yields (Session.readAll shallow) (Session.start bytes false) ()
      { s with boxes := Box.prunedAll shallow 0 s.boxes } := by
  obtain ⟨events, run⟩ := h.exists_run
  obtain ⟨inner, last, boxes, read, rfl, rfl⟩ := Session.run_readAll_iff.1 run
  obtain ⟨inner', reads⟩ := read.reads.pruned le
  exact .of_run (Session.run_readAll_iff.2
    ⟨inner', last, _, ⟨read.room, read.headed, reads, read.brands.pruned shallow 0⟩, rfl, rfl⟩)

/-- A file with a container inside another one, and a box inside both. -/
def twiceNested : Bytes :=
  [0, 0, 0, 16, 102, 116, 121, 112, 104, 101, 105, 99, 0, 0, 0, 0] ++
    [0, 0, 0, 24, 105, 112, 114, 112] ++ [0, 0, 0, 16, 105, 112, 99, 111] ++
    [0, 0, 0, 8, 102, 114, 101, 101]

/-- With one level less, the inner container is still found, and nothing inside it. -/
theorem readAll_prunedAll_nested :
    ∃ s : Session,
      (1 : Int) ≤ 2 ∧ Yields (Session.readAll 2) (Session.start twiceNested false) () s ∧
      s.boxes =
        [⟨Bytes.ascii "ftyp", 0, 16, 8, .fileType (Bytes.ascii "heic") 0 [], []⟩,
          ⟨Bytes.ascii "iprp", 16, 24, 8, .itemProperties,
            [⟨Bytes.ascii "ipco", 24, 16, 8, .itemPropertyContainer,
              [⟨Bytes.ascii "free", 32, 8, 8, .free, []⟩]⟩]⟩] ∧
      Yields (Session.readAll 1) (Session.start twiceNested false) ()
        { s with boxes := Box.prunedAll 1 0 s.boxes } ∧
      Box.prunedAll 1 0 s.boxes =
        [⟨Bytes.ascii "ftyp", 0, 16, 8, .fileType (Bytes.ascii "heic") 0 [], []⟩,
          ⟨Bytes.ascii "iprp", 16, 24, 8, .itemProperties,
            [⟨Bytes.ascii "ipco", 24, 16, 8, .itemPropertyContainer, []⟩]⟩] := by
  have run : (Session.readAll 2).run (Session.start twiceNested false) =
      (⟨[], .ok ()⟩,
        { Session.start twiceNested false with
          boxes :=
            [⟨Bytes.ascii "ftyp", 0, 16, 8, .fileType (Bytes.ascii "heic") 0 [], []⟩,
              ⟨Bytes.ascii "iprp", 16, 24, 8, .itemProperties,
                [⟨Bytes.ascii "ipco", 24, 16, 8, .itemPropertyContainer,
                  [⟨Bytes.ascii "free", 32, 8, 8, .free, []⟩]⟩]⟩] }) := by with_unfolding_all rfl
  have le : (1 : Int) ≤ 2 := by decide
  exact ⟨_, le, .of_run run, rfl, readAll_prunedAll le (.of_run run), by with_unfolding_all rfl⟩

end ImageMetadata.Heif
