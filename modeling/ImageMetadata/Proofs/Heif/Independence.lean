import ImageMetadata.Proofs.Heif.Contents
import ImageMetadata.Proofs.Heif.Reads
import ImageMetadata.Proofs.Heif.Tiling

/-!
# Only the box itself depends on an optional payload

Items are found without the contents of most boxes. If the payload of such a box is changed in any
way, then the file is read as before: the box keeps its place and all other boxes are the same, and
what is reported differs in at most the one warning about the box.
-/

namespace ImageMetadata.Heif

namespace Box

/-- One box of a forest, at some depth, is replaced by another one. -/
inductive Replaces (old new : Box) : List Box → List Box → Prop
  | here {rest : List Box} : Replaces old new (old :: rest) (new :: rest)
  | inside {b : Box} {children rest : List Box} (h : Replaces old new b.children children) :
      Replaces old new (b :: rest) ({ b with children := children } :: rest)
  | later {b : Box} {rest rest' : List Box} (h : Replaces old new rest rest') :
      Replaces old new (b :: rest) (b :: rest')

/-- The events are the same but for the warning about a box, which either of them may hold. -/
def DifferInWarning (b : Box) (l r : List Event) : Prop :=
  ∃ before own own' after, before ++ (own ++ after) = l ∧ before ++ (own' ++ after) = r ∧
    MayWarn b.id b.offset own ∧ MayWarn b.id b.offset own'

namespace DifferInWarning

variable {b : Box} {l r : List Event}

theorem append_left (h : b.DifferInWarning l r) (first : List Event) :
    b.DifferInWarning (first ++ l) (first ++ r) := by
  obtain ⟨before, own, own', after, rfl, rfl, warned, warned'⟩ := h
  exact ⟨first ++ before, own, own', after, List.append_assoc .., List.append_assoc .., warned,
    warned'⟩

theorem append_right (h : b.DifferInWarning l r) (later : List Event) :
    b.DifferInWarning (l ++ later) (r ++ later) := by
  obtain ⟨before, own, own', after, rfl, rfl, warned, warned'⟩ := h
  exact ⟨before, own, own', after ++ later, by simp, by simp, warned, warned'⟩

end DifferInWarning

end Box

variable {bytes bytes' : Bytes} {strict : Bool} {limit : Int} {depth start stop : Nat}
  {events : List Event} {boxes : List Box} {h : BoxHeader start stop} {content : Content}
  {used : Nat}

/-- A header is read from its own bytes. -/
theorem readHeader_congr (read : readHeader bytes start stop = .ok h)
    (same : bytes.SameOn bytes' start (start + h.size)) :
    readHeader bytes' start stop = .ok h := by
  have room := h.le_size
  have short : shortLength bytes' start = shortLength bytes start := by
    unfold shortLength
    rw [same.slice_eq (Nat.le_refl _) (by omega)]
  obtain ⟨id, size, length⟩ := readHeader_eq_iff.1 read
  refine readHeader_eq_iff.2 ⟨?_, ?_, ?_⟩
  · rw [← id, same.slice_eq (by omega) (by omega)]
  · rw [← size, headerSize, headerSize, short]
  · rw [← length, boxLength, boxLength, short]
    by_cases long : shortLength bytes start = 1
    · have wide : h.size = 16 := by rw [← size, headerSize, if_pos long]
      have number : bytes.slice (start + 8) 8 = bytes'.slice (start + 8) 8 :=
        same.slice_eq (by omega) (by omega)
      rw [number]
    · rw [if_neg long, if_neg long]

namespace Starts

theorem congr (head : Starts bytes strict start stop h events content used)
    (same : bytes.SameOn bytes' start (start + h.length)) :
    Starts bytes' strict start stop h events content used := by
  have size_le := h.size_le
  refine ⟨head.room, readHeader_congr head.header_eq (same.mono (Nat.le_refl _) (by omega)), ?_⟩
  have payload : h.payload bytes' = h.payload bytes :=
    (same.slice_eq (by omega) (by omega)).symm
  rw [payload]
  exact head.content_eq

/-- A container starts with its header and the bytes that its contents take. -/
theorem congr_of_container (head : Starts bytes strict start stop h events content used)
    (container : content.category = .container)
    (same : bytes.SameOn bytes' start (start + h.size + used)) :
    Starts bytes' strict start stop h events content used := by
  refine ⟨head.room, readHeader_congr head.header_eq (same.mono (Nat.le_refl _) (by omega)), ?_⟩
  refine readContent_eq_iff.2 ?_
  refine (readContent_eq_iff.1 head.content_eq).congr_of_container container ?_
  unfold BoxHeader.payload
  rw [Bytes.take_slice, Bytes.take_slice]
  exact (same.slice_eq (by omega) (by omega)).symm

end Starts

/-- The boxes of a range are read from the range alone. -/
theorem Reads.congr (reads : Reads bytes strict limit depth start stop events boxes)
    (same : bytes.SameOn bytes' start stop) :
    Reads bytes' strict limit depth start stop events boxes := by
  induction reads with
  | done reached => exact .done reached
  | extra more short lenient => exact .extra more short lenient
  | @leaf _ _ _ _ h _ _ _ _ head leaf _ siblings =>
      have inside := h.length_le
      exact .leaf (head.congr (same.mono (Nat.le_refl _) inside)) leaf
        (siblings (same.mono (by omega) (Nat.le_refl _)))
  | @closed _ _ _ _ h _ _ _ _ head container deep lenient _ siblings =>
      have inside := h.length_le
      exact .closed (head.congr (same.mono (Nat.le_refl _) inside)) container deep lenient
        (siblings (same.mono (by omega) (Nat.le_refl _)))
  | @opened _ _ _ _ h _ _ _ _ _ _ head container shallow _ _ children siblings =>
      have inside := h.length_le
      exact .opened (head.congr (same.mono (Nat.le_refl _) inside)) container shallow
        (children (same.mono (by omega) inside))
        (siblings (same.mono (by omega) (Nat.le_refl _)))

namespace Box

/-- A box stands in a range: its header and its contents are read where it says. -/
structure StandsIn (bytes : Bytes) (strict : Bool) (start stop : Nat) (b : Box) : Prop where
  start_le : start ≤ b.offset
  le_stop : b.offset + b.length ≤ stop
  read : ∃ last events used, ∃ h : BoxHeader b.offset last,
    Starts bytes strict b.offset last h events b.content used ∧ h.box b.content b.children = b

theorem StandsIn.mono {b : Box} {first last : Nat} (h : b.StandsIn bytes strict start stop)
    (le : first ≤ start) (ge : stop ≤ last) : b.StandsIn bytes strict first last :=
  ⟨Nat.le_trans le h.start_le, Nat.le_trans h.le_stop ge, h.read⟩

end Box

theorem Starts.standsIn (head : Starts bytes strict start stop h events content used)
    (children : List Box) : (h.box content children).StandsIn bytes strict start stop :=
  ⟨Nat.le_refl _, h.length_le, _, _, _, h, head, rfl⟩

/-- The boxes of every depth stand in the range that is read. -/
theorem Reads.standsIn_of_mem (reads : Reads bytes strict limit depth start stop events boxes) :
    ∀ b ∈ Box.preorderAll boxes, b.StandsIn bytes strict start stop := by
  induction reads with
  | done => simp
  | extra => simp
  | leaf head _ _ siblings | closed head _ _ _ _ siblings =>
      intro b member
      rcases Box.mem_preorderAll_cons.1 member with rfl | child | sibling
      · exact head.standsIn []
      · simp [BoxHeader.box] at child
      · exact (siblings b sibling).mono (Nat.le_add_right _ _) (Nat.le_refl _)
  | @opened _ _ _ _ h _ _ _ _ _ _ head _ _ _ _ children siblings =>
      intro b member
      rcases Box.mem_preorderAll_cons.1 member with rfl | child | sibling
      · exact head.standsIn _
      · exact (children b child).mono (by omega) h.length_le
      · exact (siblings b sibling).mono (Nat.le_add_right _ _) (Nat.le_refl _)

/-- The type codes of the boxes without which items cannot be found, containers apart. -/
def Content.requiredLeafCodes : List Bytes := ["ftyp", "infe", "iloc"].map Bytes.ascii

theorem Content.isRequired_eq_false {id : Bytes} (leaf : id ∉ Content.containerCodes)
    (other : id ∉ Content.requiredLeafCodes) : Content.isRequired id = false := by
  unfold Content.isRequired
  simp only [Content.containerCodes, Content.requiredLeafCodes, List.map_cons, List.map_nil,
    List.mem_cons, List.not_mem_nil, or_false, not_or] at leaf other
  simp [leaf, other]

/-- With another payload, an optional leaf still starts with its header; its contents differ. -/
theorem Starts.exists_changed (head : Starts bytes false start stop h events content used)
    (leaf : content.category ≠ .container) (optional : h.id ∉ Content.requiredLeafCodes)
    (same : bytes.SameOn bytes' start (start + h.size)) :
    ∃ content' used' events', content'.category ≠ .container ∧
      (h.box content []).DifferInWarning events events' ∧
      Starts bytes' false start stop h events' content' used' := by
  have read := readContent_eq_iff.1 head.content_eq
  have code : h.id ∉ Content.containerCodes := fun code => leaf (read.category_iff.2 code)
  obtain ⟨common, own, own', content', used', rfl, warned, warned', read'⟩ :=
    read.exists_of_optional (Content.isRequired_eq_false code optional) (h.payload bytes')
  have leaf' : content'.category ≠ .container := fun container =>
    code (read'.category_iff.1 container)
  exact ⟨content', used', _, leaf', ⟨common, own, own', [], by simp, rfl, warned, warned'⟩,
    head.room, readHeader_congr head.header_eq same,
    readContent_eq_iff.2 (by rwa [List.append_nil])⟩

/-- If the payload of an optional leaf is changed, the boxes before it, those after it and those
around it are read as before. -/
theorem Reads.exists_replaced {x : Box}
    (reads : Reads bytes false limit depth start stop events boxes)
    (member : x ∈ Box.preorderAll boxes) (leaf : x.content.category ≠ .container)
    (optional : x.id ∉ Content.requiredLeafCodes)
    (same : bytes.SameOutside bytes' x.dataOffset (x.offset + x.length)) :
    ∃ content' boxes' events', content'.category ≠ .container ∧
      Box.Replaces x { x with content := content' } boxes boxes' ∧
      x.DifferInWarning events events' ∧
      Reads bytes' false limit depth start stop events' boxes' := by
  have header : x.offset ≤ x.dataOffset := Nat.le_add_right _ _
  induction reads with
  | done => simp at member
  | extra => simp at member
  | @leaf _ start _ _ h content first later rest head closed reads siblings =>
      have size_le := h.size_le
      rcases Box.mem_preorderAll_cons.1 member with rfl | child | sibling
      · -- the box itself: its header stays, and so do the boxes after it
        obtain ⟨content', used', first', leaf', warned, head'⟩ :=
          head.exists_changed leaf optional (same.before (Nat.le_refl _))
        have after := reads.congr (same.after (Nat.le_refl _))
        exact ⟨content', _, _, leaf', .here, warned.append_right later, .leaf head' leaf' after⟩
      · simp [BoxHeader.box] at child
      · have start_le := (reads.standsIn_of_mem x sibling).start_le
        have head' := head.congr (same.before (by omega))
        obtain ⟨content', rest', later', leaf', replaced, warned, read⟩ := siblings sibling
        exact ⟨content', _, _, leaf', replaced.later, warned.append_left first,
          .leaf head' closed read⟩
  | @closed _ start _ _ h content first later rest head container deep lenient reads siblings =>
      rcases Box.mem_preorderAll_cons.1 member with rfl | child | sibling
      · exact absurd container leaf
      · simp [BoxHeader.box] at child
      · have start_le := (reads.standsIn_of_mem x sibling).start_le
        have head' := head.congr (same.before (by omega))
        obtain ⟨content', rest', later', leaf', replaced, warned, read⟩ := siblings sibling
        exact ⟨content', _, _, leaf', replaced.later, (warned.append_left [_]).append_left first,
          .closed head' container deep lenient read⟩
  | @opened _ start _ _ h content first inner later children rest head container shallow within
      reads inside siblings =>
      have length_le := h.length_le
      rcases Box.mem_preorderAll_cons.1 member with rfl | child | sibling
      · exact absurd container leaf
      · obtain ⟨start_le, le_stop, _⟩ := within.standsIn_of_mem x child
        have head' := head.congr_of_container container (same.before (by omega))
        have after := reads.congr (same.after (by omega))
        obtain ⟨content', children', inner', leaf', replaced, warned, read⟩ := inside child
        exact ⟨content', _, _, leaf', .inside (b := h.box content children) replaced,
          (warned.append_right later).append_left first,
          .opened head' container shallow read after⟩
      · have start_le := (reads.standsIn_of_mem x sibling).start_le
        have head' := head.congr (same.before (by omega))
        have before := within.congr (same.before (by omega))
        obtain ⟨content', rest', later', leaf', replaced, warned, read⟩ := siblings sibling
        exact ⟨content', _, _, leaf', replaced.later, (warned.append_left inner).append_left first,
          .opened head' container shallow before read⟩

theorem Box.StandsIn.eq_fileType {b : Box} {major : Bytes} {minor : Nat} {compatible : List Bytes}
    (h : b.StandsIn bytes strict start stop)
    (typed : b.content = .fileType major minor compatible) : b.id = Bytes.ascii "ftyp" := by
  obtain ⟨_, _, _, header, head, same⟩ := h.read
  have id : header.id = b.id := congrArg Box.id same
  rcases (readContent_eq_iff.1 head.content_eq).fits with code | ⟨unknown, _⟩
  · rw [typed, id] at code
    exact (Option.some.inj code).symm
  · cases typed.symm.trans unknown

theorem Session.ListsBrands.replaced {x y : Box} {boxes' : List Box}
    (h : Session.ListsBrands strict events boxes) (replaced : Box.Replaces x y boxes boxes')
    (other : ∀ major minor compatible, x.content ≠ .fileType major minor compatible) :
    Session.ListsBrands strict events boxes' := by
  obtain ⟨first, rest, major, minor, compatible, rfl, content, checked⟩ := h
  cases replaced with
  | here => exact absurd content (other major minor compatible)
  | inside _ => exact ⟨_, _, major, minor, compatible, rfl, content, checked⟩
  | later _ => exact ⟨_, _, major, minor, compatible, rfl, content, checked⟩

/-- If a file is read and the payload of an optional leaf is changed, the file is read again. All
boxes are the same but for the contents of this one, and what is reported is the same but for the
warning about it. -/
theorem readAll_replaced {s : Session} {x : Box}
    (run : (Session.readAll limit).run (Session.start bytes false) = (⟨events, .ok ()⟩, s))
    (member : x ∈ Box.preorderAll s.boxes) (leaf : x.content.category ≠ .container)
    (optional : x.id ∉ Content.requiredLeafCodes)
    (same : bytes.SameOutside bytes' x.dataOffset (x.offset + x.length)) :
    ∃ content' boxes' events', content'.category ≠ .container ∧
      Box.Replaces x { x with content := content' } s.boxes boxes' ∧
      x.DifferInWarning events events' ∧
      (Session.readAll limit).run (Session.start bytes' false) =
        (⟨events', .ok ()⟩, { Session.start bytes' false with boxes := boxes' }) := by
  obtain ⟨inner, last, boxes, read, rfl, rfl⟩ := Session.run_readAll_iff.1 run
  have place := read.reads.standsIn_of_mem x member
  obtain ⟨content', boxes', inner', leaf', replaced, warned, reads⟩ :=
    read.reads.exists_replaced member leaf optional same
  have below : 8 ≤ x.dataOffset := by
    obtain ⟨_, _, _, header, _, same⟩ := place.read
    have size : header.size = x.headerSize := congrArg Box.headerSize same
    have room := header.le_size
    unfold Box.dataOffset
    omega
  have other : ∀ major minor compatible, x.content ≠ .fileType major minor compatible := by
    intro major minor compatible typed
    apply optional
    rw [place.eq_fileType typed]
    decide
  refine ⟨content', boxes', inner' ++ last, leaf', replaced, warned.append_right last, ?_⟩
  refine Session.run_readAll_iff.2 ⟨inner', last, boxes', ?_, rfl, rfl⟩
  have first : bytes.SameOn bytes' 0 8 := same.before below
  have headed : bytes'.slice 4 4 = bytes.slice 4 4 :=
    (first.slice_eq (by decide) (by decide)).symm
  exact
    { room := same.length_eq ▸ read.room
      headed := headed.trans read.headed
      reads := same.length_eq ▸ reads
      brands := read.brands.replaced replaced other }

/-- The start of a file, up to the payload of a primary item box inside a container. -/
def primaryStart : Bytes :=
  [0, 0, 0, 16, 102, 116, 121, 112, 104, 101, 105, 99, 0, 0, 0, 0] ++
    [0, 0, 0, 26, 109, 101, 116, 97, 0, 0, 0, 0] ++ [0, 0, 0, 14, 112, 105, 116, 109]

/-- The number of the primary item, in the first version of the box. -/
def primaryPayload : Bytes := [0, 0, 0, 0, 0, 7]

/-- The later versions take a longer number, for which there is no room. -/
def primaryTooShort : Bytes := [1, 0, 0, 0, 0, 7]

/-- The primary item box that is read. -/
def primaryBox : Box := ⟨Bytes.ascii "pitm", 28, 14, 8, .primaryItem ⟨0, 0⟩ 7, []⟩

/-- A primary item box becomes unreadable; the container around it is read as before. -/
theorem readAll_replaced_primary :
    ∃ s : Session,
      (Session.readAll 1).run (Session.start (primaryStart ++ (primaryPayload ++ [])) false) =
        (⟨[], .ok ()⟩, s) ∧
      primaryBox ∈ Box.preorderAll s.boxes ∧ primaryBox.content.category ≠ .container ∧
      primaryBox.id ∉ Content.requiredLeafCodes ∧
      (primaryStart ++ (primaryPayload ++ [])).SameOutside (primaryStart ++ (primaryTooShort ++ []))
        primaryBox.dataOffset (primaryBox.offset + primaryBox.length) ∧
      ∃ content' boxes' events', content'.category ≠ .container ∧
        Box.Replaces primaryBox { primaryBox with content := content' } s.boxes boxes' ∧
        primaryBox.DifferInWarning [] events' ∧
        (Session.readAll 1).run
            (Session.start (primaryStart ++ (primaryTooShort ++ [])) false) =
          (⟨events', .ok ()⟩,
            { Session.start (primaryStart ++ (primaryTooShort ++ [])) false with
              boxes := boxes' }) := by
  have run : (Session.readAll 1).run
      (Session.start (primaryStart ++ (primaryPayload ++ [])) false) =
        (⟨[], .ok ()⟩,
          { Session.start (primaryStart ++ (primaryPayload ++ [])) false with
            boxes :=
              [⟨Bytes.ascii "ftyp", 0, 16, 8, .fileType (Bytes.ascii "heic") 0 [], []⟩,
                ⟨Bytes.ascii "meta", 16, 26, 8, .metaBox ⟨0, 0⟩, [primaryBox]⟩] }) := by
    with_unfolding_all rfl
  have member : primaryBox ∈ Box.preorderAll
      [⟨Bytes.ascii "ftyp", 0, 16, 8, .fileType (Bytes.ascii "heic") 0 [], []⟩,
        ⟨Bytes.ascii "meta", 16, 26, 8, .metaBox ⟨0, 0⟩, [primaryBox]⟩] := by
    simp
  have leaf : primaryBox.content.category ≠ .container := by decide
  have optional : primaryBox.id ∉ Content.requiredLeafCodes := by decide
  have same : (primaryStart ++ (primaryPayload ++ [])).SameOutside
      (primaryStart ++ (primaryTooShort ++ [])) primaryBox.dataOffset
      (primaryBox.offset + primaryBox.length) := .of_exchange primaryStart [] rfl
  exact ⟨_, run, member, leaf, optional, same, readAll_replaced run member leaf optional same⟩

end ImageMetadata.Heif
