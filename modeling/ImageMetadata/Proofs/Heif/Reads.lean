import ImageMetadata.Heif.Items
import ImageMetadata.Proofs.Yields

/-!
# How boxes are read

A range of bytes is read box by box: the header of a box, its contents, the boxes inside if it is a
container that is not too deep, and then the boxes after it. What is read and what is reported on
the way are kept together, so that two readings can be compared step by step.
-/

namespace ImageMetadata.Heif

variable {bytes : Bytes} {strict : Bool} {limit : Int} {depth start stop : Nat}

/-- The payload of the box with a header. -/
def BoxHeader.payload (h : BoxHeader start stop) (bytes : Bytes) : Bytes :=
  bytes.slice (start + h.size) (start + h.length - (start + h.size))

/-- The box with a header, some contents and some boxes inside. -/
def BoxHeader.box (h : BoxHeader start stop) (content : Content) (children : List Box) : Box :=
  ⟨h.id, start, h.length, h.size, content, children⟩

/-- A range starts with a header, whose box has contents that take some bytes of the payload. -/
structure Starts (bytes : Bytes) (strict : Bool) (start stop : Nat) (h : BoxHeader start stop)
    (events : List Event) (content : Content) (used : Nat) : Prop where
  room : 8 ≤ stop - start
  header_eq : readHeader bytes start stop = .ok h
  content_eq : readContent strict h.id start (h.payload bytes) = ⟨events, .ok (content, used)⟩

/-- The boxes of a range, with what is reported while they are read. -/
inductive Reads (bytes : Bytes) (strict : Bool) (limit : Int) :
    Nat → Nat → Nat → List Event → List Box → Prop
  | done {depth start stop : Nat} (reached : stop ≤ start) :
      Reads bytes strict limit depth start stop [] []
  | extra {depth start stop : Nat} (more : start < stop) (short : stop - start < 8)
      (lenient : strict = false) :
      Reads bytes strict limit depth start stop
        [.notice (.integrity (.extraBytes (stop - start) start))] []
  | leaf {depth start stop used : Nat} {h : BoxHeader start stop} {content : Content}
      {first later : List Event} {rest : List Box}
      (head : Starts bytes strict start stop h first content used)
      (leaf : content.category ≠ .container)
      (siblings : Reads bytes strict limit depth (start + h.length) stop later rest) :
      Reads bytes strict limit depth start stop (first ++ later) (h.box content [] :: rest)
  | closed {depth start stop used : Nat} {h : BoxHeader start stop} {content : Content}
      {first later : List Event} {rest : List Box}
      (head : Starts bytes strict start stop h first content used)
      (container : content.category = .container) (deep : limit < (depth : Int) + 1)
      (lenient : strict = false)
      (siblings : Reads bytes strict limit depth (start + h.length) stop later rest) :
      Reads bytes strict limit depth start stop
        (first ++ (.notice (.integrity (.boxTooDeep h.id start limit)) :: later))
        (h.box content [] :: rest)
  | opened {depth start stop used : Nat} {h : BoxHeader start stop} {content : Content}
      {first inner later : List Event} {children rest : List Box}
      (head : Starts bytes strict start stop h first content used)
      (container : content.category = .container) (shallow : (depth : Int) + 1 ≤ limit)
      (inside : Reads bytes strict limit (depth + 1) (start + h.size + used) (start + h.length)
        inner children)
      (siblings : Reads bytes strict limit depth (start + h.length) stop later rest) :
      Reads bytes strict limit depth start stop (first ++ (inner ++ later))
        (h.box content children :: rest)

/-- The boxes inside a box, as far as they are read. -/
def readInside (bytes : Bytes) (strict : Bool) (limit : Int) (depth : Nat)
    (h : BoxHeader start stop) (content : Content) (used : Nat) : Outcome (List Box) :=
  if content.category = .container then
    if limit < (depth : Int) + 1 then do
      Outcome.flag strict (.boxTooDeep h.id start limit)
      pure []
    else readBoxes bytes strict limit (depth + 1) (start + h.size + used) (start + h.length)
  else pure []

variable {h : BoxHeader start stop} {content : Content} {used : Nat} {events : List Event}
  {boxes : List Box}

theorem readInside_eq_iff :
    readInside bytes strict limit depth h content used = ⟨events, .ok boxes⟩ ↔
      content.category ≠ .container ∧ [] = events ∧ [] = boxes ∨
      content.category = .container ∧ limit < (depth : Int) + 1 ∧ strict = false ∧
        [.notice (.integrity (.boxTooDeep h.id start limit))] = events ∧ [] = boxes ∨
      content.category = .container ∧ (depth : Int) + 1 ≤ limit ∧
        readBoxes bytes strict limit (depth + 1) (start + h.size + used) (start + h.length) =
          ⟨events, .ok boxes⟩ := by
  unfold readInside
  by_cases container : content.category = .container
  · rw [if_pos container]
    by_cases deep : limit < (depth : Int) + 1
    · have shallow : ¬ (depth : Int) + 1 ≤ limit := by omega
      simp only [container, deep, shallow, ne_eq, not_true_eq_false, false_and, true_and, or_false,
        false_or]
      rw [if_pos trivial, Outcome.bind_eq_iff]
      simp only [Outcome.flag_eq_iff, Outcome.pure_eq_iff]
      constructor
      · rintro ⟨_, first, _, ⟨lenient, rfl⟩, ⟨rfl, rfl⟩, rfl⟩
        exact ⟨lenient, rfl, rfl⟩
      · rintro ⟨lenient, rfl, rfl⟩
        exact ⟨(), _, _, ⟨lenient, rfl⟩, ⟨rfl, rfl⟩, rfl⟩
    · simp [container, deep, Int.not_lt.1 deep]
  · rw [if_neg container, Outcome.pure_eq_iff]
    simp [container]

/-- A box is read before the boxes inside, and the boxes after it come last. -/
theorem readBoxes_eq_iff (room : 8 ≤ stop - start)
    (read : readHeader bytes start stop = .ok h) :
    readBoxes bytes strict limit depth start stop = ⟨events, .ok boxes⟩ ↔
      ∃ content used first inner later children rest,
        readContent strict h.id start (h.payload bytes) = ⟨first, .ok (content, used)⟩ ∧
        readInside bytes strict limit depth h content used = ⟨inner, .ok children⟩ ∧
        readBoxes bytes strict limit depth (start + h.length) stop = ⟨later, .ok rest⟩ ∧
        first ++ (inner ++ later) = events ∧ h.box content children :: rest = boxes := by
  have step : readBoxes bytes strict limit depth start stop = do
      let found ← readContent strict h.id start (h.payload bytes)
      let children ← readInside bytes strict limit depth h found.1 found.2
      let rest ← readBoxes bytes strict limit depth (start + h.length) stop
      return h.box found.1 children :: rest := by
    rw [readBoxes, dif_neg (by omega), if_neg (by omega), read]
    rfl
  rw [step]
  simp only [Outcome.bind_eq_iff, Outcome.pure_eq_iff]
  constructor
  · rintro ⟨⟨content, used⟩, first, _, decoded, ⟨children, inner, _, inside, ⟨rest, later, _,
      siblings, ⟨rfl, rfl⟩, rfl⟩, rfl⟩, rfl⟩
    exact ⟨content, used, first, inner, later, children, rest, decoded, inside, siblings,
      by simp, rfl⟩
  · rintro ⟨content, used, first, inner, later, children, rest, decoded, inside, siblings, rfl, rfl⟩
    exact ⟨(content, used), first, _, decoded, ⟨children, inner, _, inside, ⟨rest, later, [],
      siblings, ⟨rfl, rfl⟩, rfl⟩, rfl⟩, by simp⟩

/-- What stands in a range is found by the reader. -/
theorem Reads.readBoxes_eq (h : Reads bytes strict limit depth start stop events boxes) :
    readBoxes bytes strict limit depth start stop = ⟨events, .ok boxes⟩ := by
  induction h with
  | done reached =>
      rw [readBoxes, dif_pos reached]
      rfl
  | extra more short lenient =>
      rw [readBoxes, dif_neg (by omega), if_pos short, lenient]
      rfl
  | leaf head leaf _ siblings =>
      exact (readBoxes_eq_iff head.room head.header_eq).2 ⟨_, _, _, _, _, _, _, head.content_eq,
        readInside_eq_iff.2 (.inl ⟨leaf, rfl, rfl⟩), siblings, rfl, rfl⟩
  | closed head container deep lenient _ siblings =>
      exact (readBoxes_eq_iff head.room head.header_eq).2 ⟨_, _, _, _, _, _, _, head.content_eq,
        readInside_eq_iff.2 (.inr (.inl ⟨container, deep, lenient, rfl, rfl⟩)), siblings, rfl, rfl⟩
  | opened head container shallow _ _ inside siblings =>
      exact (readBoxes_eq_iff head.room head.header_eq).2 ⟨_, _, _, _, _, _, _, head.content_eq,
        readInside_eq_iff.2 (.inr (.inr ⟨container, shallow, inside⟩)), siblings, rfl, rfl⟩

variable (bytes strict limit depth start stop) in
/-- Whatever the reader finds in a range stands there. -/
theorem reads_of_readBoxes (events : List Event) (boxes : List Box)
    (h : readBoxes bytes strict limit depth start stop = ⟨events, .ok boxes⟩) :
    Reads bytes strict limit depth start stop events boxes := by
  revert events boxes
  induction depth, start, stop using readBoxes.induct bytes limit with
  | case1 depth start stop reached =>
      intro events boxes h
      rw [readBoxes, dif_pos reached, Outcome.pure_eq_iff] at h
      obtain ⟨rfl, rfl⟩ := h
      exact .done reached
  | case2 depth start stop more short =>
      intro events boxes h
      rw [readBoxes, dif_neg more, if_pos short] at h
      simp only [Outcome.bind_eq_iff, Outcome.flag_eq_iff, Outcome.pure_eq_iff] at h
      obtain ⟨_, first, _, ⟨lenient, rfl⟩, ⟨rfl, rfl⟩, rfl⟩ := h
      exact .extra (Nat.lt_of_not_le more) short lenient
  | case3 depth start stop more long p failed =>
      intro events boxes h
      rw [readBoxes, dif_neg more, if_neg long, failed] at h
      cases h
  | case4 depth start stop more long header read _ _ _ inside past children siblings =>
      intro events boxes h
      have room : 8 ≤ stop - start := Nat.le_of_not_lt long
      obtain ⟨content, used, first, inner, later, boxes, rest, decoded, nested, after, rfl, rfl⟩ :=
        (readBoxes_eq_iff room read).1 h
      have head : Starts bytes strict start stop header first content used := ⟨room, read, decoded⟩
      rcases readInside_eq_iff.1 nested with ⟨leaf, rfl, rfl⟩ |
        ⟨container, deep, lenient, rfl, rfl⟩ | ⟨container, shallow, opened⟩
      · exact .leaf head leaf (siblings _ _ after)
      · exact .closed head container deep lenient (siblings _ _ after)
      · exact .opened head container shallow (children used _ _ opened) (siblings _ _ after)

namespace Session

/-- The first of some boxes lists brands, whose check ends well with some reports. -/
def ListsBrands (strict : Bool) (events : List Event) (boxes : List Box) : Prop :=
  ∃ first rest major minor compatible, boxes = first :: rest ∧
    first.content = .fileType major minor compatible ∧
    Outcome.check strict (hasBrand (major :: compatible)) (.foreignBrands major compatible) =
      ⟨events, .ok ()⟩

/-- Boxes that stand in a file whose first box is a file type box, with what is reported while they
are read and while the brands are checked. -/
structure IsRead (bytes : Bytes) (strict : Bool) (limit : Int) (inner last : List Event)
    (boxes : List Box) : Prop where
  room : 8 ≤ bytes.length
  headed : bytes.slice 4 4 = Bytes.ascii "ftyp"
  reads : Reads bytes strict limit 0 0 bytes.length inner boxes
  brands : ListsBrands strict last boxes

variable {s t : Session}

theorem run_load_iff {u : Unit} :
    (load limit).run (Session.start bytes strict) = (⟨events, .ok u⟩, s) ↔
      (8 ≤ bytes.length ∧ bytes.slice 4 4 = Bytes.ascii "ftyp") ∧
        ∃ boxes, Reads bytes strict limit 0 0 bytes.length events boxes ∧
          { Session.start bytes strict with boxes := boxes } = s := by
  have headed : (decide (8 ≤ bytes.length) && bytes.slice 4 4 == Bytes.ascii "ftyp") = true ↔
      8 ≤ bytes.length ∧ bytes.slice 4 4 = Bytes.ascii "ftyp" := by
    simp
  unfold load
  rw [Action.run_state_bind, Action.run_bind_eq_iff]
  simp only [Action.run_require_eq_iff, Action.run_bind_eq_iff, Action.run_update_eq_iff]
  constructor
  · rintro ⟨_, _, _, _, ⟨present, rfl, rfl⟩, ⟨boxes, t, first, _, found, ⟨rfl, rfl⟩, rfl⟩, rfl⟩
    obtain ⟨read, rfl⟩ := Action.run_lift_eq_iff.1 found
    rw [List.nil_append, List.append_nil]
    exact ⟨headed.1 present, boxes, reads_of_readBoxes _ _ _ _ _ _ _ _ read, rfl⟩
  · rintro ⟨present, boxes, reads, rfl⟩
    exact ⟨(), _, _, _, ⟨headed.2 present, rfl, rfl⟩, ⟨boxes, _, _, _,
      Action.run_lift_eq_iff.2 ⟨reads.readBoxes_eq, rfl⟩, ⟨rfl, rfl⟩, rfl⟩, by simp⟩

theorem run_checkBrands_iff :
    checkBrands.run s = (⟨events, .ok ()⟩, t) ↔ ListsBrands s.strict events s.boxes ∧ s = t := by
  unfold checkBrands ListsBrands
  rw [Action.run_state_bind]
  cases s.boxes with
  | nil => simp [Action.fail, Outcome.fail]
  | cons first rest =>
      dsimp only
      split
      · rename_i major minor compatible content
        refine Action.run_lift_eq_iff.trans (and_congr_left' ?_)
        constructor
        · intro checked
          exact ⟨first, rest, major, minor, compatible, rfl, content, checked⟩
        · rintro ⟨_, _, major', minor', compatible', same, content', checked⟩
          cases same
          cases content.symm.trans content'
          exact checked
      · rename_i other
        constructor
        · intro failed
          cases failed
        · rintro ⟨⟨_, _, major, minor, compatible, same, content, _⟩, _⟩
          cases same
          exact absurd content (other major minor compatible)

/-- A file is read into the boxes that stand in it. -/
theorem run_readAll_iff :
    (readAll limit).run (Session.start bytes strict) = (⟨events, .ok ()⟩, s) ↔
      ∃ inner last boxes, IsRead bytes strict limit inner last boxes ∧ inner ++ last = events ∧
        { Session.start bytes strict with boxes := boxes } = s := by
  unfold readAll
  rw [Action.run_bind_eq_iff]
  simp only [run_load_iff, run_checkBrands_iff]
  constructor
  · rintro ⟨_, _, inner, last, ⟨⟨room, headed⟩, boxes, reads, rfl⟩, ⟨brands, rfl⟩, rfl⟩
    exact ⟨inner, last, boxes, ⟨room, headed, reads, brands⟩, rfl, rfl⟩
  · rintro ⟨inner, last, boxes, ⟨room, headed, reads, brands⟩, rfl, rfl⟩
    exact ⟨(), _, inner, last, ⟨⟨room, headed⟩, boxes, reads, rfl⟩, ⟨brands, rfl⟩, rfl⟩

end Session

end ImageMetadata.Heif
