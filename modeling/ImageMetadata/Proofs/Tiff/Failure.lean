import ImageMetadata.Proofs.Holds
import ImageMetadata.Proofs.Tiff.Entries
import ImageMetadata.Proofs.Tiff.Recursion
import ImageMetadata.Proofs.Tiff.Turns
import ImageMetadata.Proofs.Yields

/-!
# When lenient reading fails

A lenient reader needs the header and the first directory: the header must stand where it is looked
for, it must lead to a directory, and if that directory is followed at all its slots must lie inside
the bytes. Everything else that is damaged is skipped with a warning, so nothing else can make the
reading of a stream fail.
-/

namespace ImageMetadata

/-- A handler that comes to a result takes over every failure that is about the bytes. -/
theorem Outcome.succeeds_rescue {α : Type} {x : Outcome α} {P : α → Prop}
    {handle : Problem → Outcome α} (ends : x.Ends P) (handled : ∀ p, (handle p).Succeeds) :
    (x.rescue handle).Succeeds := by
  unfold Ends at ends
  cases hx : x.result with
  | ok a => exact ⟨a, by simp only [rescue, hx]⟩
  | error p =>
      have structural : p.isStructural = true := by simpa only [hx] using ends
      simp only [rescue, hx, structural, if_true]
      exact handled p

namespace Tiff

namespace Header

/-- The header that the bytes at a position say in a byte order, whether or not they hold all of it.
-/
def stated (bytes : Bytes) (start : Nat) (order : ByteOrder) : Header :=
  let big := order.unsigned (bytes.slice (start + 2) 2) == bigVersion
  { order := order
    version := if big then bigVersion else classicVersion
    big := big
    base := start
    firstOffset := order.unsigned
      (if big then bytes.slice (start + 8) 8 else bytes.slice (start + 4) 4) }

/-- The header that the bytes at a position say, if they mark a byte order. -/
def stated? (bytes : Bytes) (start : Nat) : Option Header :=
  (orderOfMark? (bytes.slice start 2)).map (stated bytes start)

/-- The size of a header. -/
def size (h : Header) : Nat := if h.big then 16 else 8

/-- Whether a wide header says that offsets have eight bytes, and zero in its reserved field. -/
def isPlain (h : Header) (bytes : Bytes) : Bool :=
  h.order.unsigned (bytes.slice (h.base + 4) 2) == 8 &&
    h.order.unsigned (bytes.slice (h.base + 6) 2) == 0

/-- A header stands at a position if the bytes there say it and hold all of it; a wide one has to say
what every wide one says. -/
structure Stands (bytes : Bytes) (base : Int) (h : Header) : Prop where
  inside : 0 ≤ base
  stated : stated? bytes base.toNat = some h
  fits : base.toNat + h.size ≤ bytes.length
  plain : h.big = true → h.isPlain bytes = true

/-- Damage spares a header and the number of entries of the directory that it leads to. -/
structure Spares (h : Header) (bytes other : Bytes) : Prop where
  length_eq : other.length = bytes.length
  header : bytes.SameOn other h.base (h.base + h.size)
  count : bytes.SameOn other (h.base + h.firstOffset) (h.base + h.firstOffset + h.countSize)

end Header

variable {bytes : Bytes} {base limit : Int} {h : Header} {id : DirectoryId}

theorem result_unsignedAt_iff {order : ByteOrder} {position width n : Nat} :
    (Outcome.ofExcept (unsignedAt bytes order position width)).result = .ok n ↔
      position + width ≤ bytes.length ∧ order.unsigned (bytes.slice position width) = n := by
  unfold unsignedAt Outcome.ofExcept
  split <;> simp [*]

namespace Header

variable {order : ByteOrder}

theorem stands_iff_of_wide (marked : orderOfMark? (bytes.slice base.toNat 2) = some order)
    (wide : order.unsigned (bytes.slice (base.toNat + 2) 2) = bigVersion) :
    Stands bytes base h ↔
      0 ≤ base ∧ base.toNat + 16 ≤ bytes.length ∧
        order.unsigned (bytes.slice (base.toNat + 4) 2) = 8 ∧
        order.unsigned (bytes.slice (base.toNat + 6) 2) = 0 ∧
        ⟨order, bigVersion, true, base.toNat, order.unsigned (bytes.slice (base.toNat + 8) 8)⟩ =
          h := by
  have stated_eq : stated? bytes base.toNat = some ⟨order, bigVersion, true, base.toNat,
      order.unsigned (bytes.slice (base.toNat + 8) 8)⟩ := by
    simp [stated?, marked, stated, wide]
  constructor
  · rintro ⟨inside, said, fits, plain⟩
    cases stated_eq.symm.trans said
    have plain := plain rfl
    simp only [isPlain, Bool.and_eq_true, beq_iff_eq] at plain
    exact ⟨inside, fits, plain.1, plain.2, rfl⟩
  · rintro ⟨inside, fits, width, reserved, rfl⟩
    exact ⟨inside, stated_eq, fits, fun _ => by simp [isPlain, width, reserved]⟩

theorem stands_iff_of_narrow (marked : orderOfMark? (bytes.slice base.toNat 2) = some order)
    (narrow : order.unsigned (bytes.slice (base.toNat + 2) 2) ≠ bigVersion) :
    Stands bytes base h ↔
      0 ≤ base ∧ base.toNat + 8 ≤ bytes.length ∧
        ⟨order, classicVersion, false, base.toNat,
          order.unsigned (bytes.slice (base.toNat + 4) 4)⟩ = h := by
  have stated_eq : stated? bytes base.toNat = some ⟨order, classicVersion, false, base.toNat,
      order.unsigned (bytes.slice (base.toNat + 4) 4)⟩ := by
    simp [stated?, marked, stated, narrow]
  constructor
  · rintro ⟨inside, said, fits, _⟩
    cases stated_eq.symm.trans said
    exact ⟨inside, fits, rfl⟩
  · rintro ⟨inside, fits, rfl⟩
    exact ⟨inside, stated_eq, fits, fun big => by cases big⟩

/-- A lenient reader finds the header that stands at a position, and fails without one. -/
theorem result_read_iff :
    (Header.read bytes base false).result = .ok h ↔ Stands bytes base h := by
  unfold Header.read
  rw [Outcome.result_bind_iff]
  dsimp only
  cases marked : orderOfMark? (bytes.slice base.toNat 2) with
  | none =>
      constructor
      · rintro ⟨_, _, ⟨⟩⟩
      · rintro ⟨_, stated, _, _⟩
        rw [stated?, marked] at stated
        cases stated
  | some order =>
      by_cases wide : order.unsigned (bytes.slice (base.toNat + 2) 2) = bigVersion
      · simp only [stands_iff_of_wide marked wide, Outcome.result_bind_iff,
          result_unsignedAt_iff, Outcome.result_require_iff, and_assoc, exists_and_left,
          exists_eq_left', if_pos wide, Outcome.pure_result, exists_const, Bool.and_eq_true,
          decide_eq_true_eq, beq_iff_eq, Except.ok.injEq]
        rw [wide]
        constructor
        · rintro ⟨inside, _, _, _, _, width, reserved, fits, same⟩
          exact ⟨inside, fits, width, reserved, same⟩
        · rintro ⟨inside, fits, width, reserved, same⟩
          exact ⟨inside, by omega, by omega, by omega, by omega, width, reserved, fits, same⟩
      · simp only [stands_iff_of_narrow marked wide, Outcome.result_bind_iff,
          result_unsignedAt_iff, Outcome.result_require_iff, Outcome.result_check_iff, and_assoc,
          exists_and_left, exists_eq_left', if_neg wide, Outcome.pure_result, exists_const,
          Bool.and_eq_true, decide_eq_true_eq, Bool.false_eq_true, false_imp_iff, true_and,
          Except.ok.injEq]
        constructor
        · rintro ⟨inside, _, _, fits, same⟩
          exact ⟨inside, fits, same⟩
        · rintro ⟨inside, fits, same⟩
          exact ⟨inside, by omega, by omega, by omega, same⟩

theorem base_of_stated? {start : Nat} (said : stated? bytes start = some h) :
    h.base = start := by
  obtain ⟨_, _, rfl⟩ := Option.map_eq_some_iff.1 said
  rfl

/-- The bytes of a header decide what it says. -/
theorem stated?_of_sameOn {other : Bytes} {start : Nat}
    (said : stated? bytes start = some h) (same : bytes.SameOn other start (start + h.size)) :
    stated? other start = some h := by
  obtain ⟨order, marked, rfl⟩ := Option.map_eq_some_iff.1 said
  have room : 8 ≤ (stated bytes start order).size := by
    unfold size
    split <;> omega
  have mark := same.slice_eq (Nat.le_refl start) (show start + 2 ≤ _ by omega)
  have version := same.slice_eq (Nat.le_add_right start 2) (show start + 2 + 2 ≤ _ by omega)
  rw [stated?, ← mark, marked, Option.map_some]
  congr 1
  by_cases wide : order.unsigned (bytes.slice (start + 2) 2) = bigVersion
  · have size : (stated bytes start order).size = 16 := by simp [Header.size, stated, wide]
    have first := same.slice_eq (Nat.le_add_right start 8) (show start + 8 + 8 ≤ _ by omega)
    simp [stated, ← version, ← first, wide]
  · have first := same.slice_eq (Nat.le_add_right start 4) (show start + 4 + 4 ≤ _ by omega)
    simp [stated, ← version, ← first, wide]

end Header

/-- The slots of the directory at a position lie inside the bytes. -/
def Header.HasBody (h : Header) (bytes : Bytes) (position : Nat) : Prop :=
  position + h.countSize + h.entryCount bytes position * h.slotSize ≤ bytes.length

section Lenient

variable {strict : Bool} (lenient : strict = false)

theorem succeeds_readNext (position : Nat) : (readNext bytes h id position).Succeeds := by
  unfold readNext
  split
  · exact .pure _
  · exact ⟨0, rfl⟩

include lenient

theorem Entry.succeeds_targets (e : Entry) : (e.targets strict).Succeeds := by
  unfold Entry.targets
  split
  · exact .pure []
  split
  · split <;> exact .pure _
  · exact (Outcome.Succeeds.flag lenient _).bind fun _ _ => .pure []

theorem succeeds_readEntry {slot : Nat} (inside : slot + h.slotSize ≤ bytes.length) :
    (readEntry bytes h strict id slot).Succeeds := by
  have reading : SlotReading bytes h strict id slot (readSlot bytes h strict id slot) :=
    slotReading_readSlot inside
  unfold readEntry
  generalize readSlot bytes h strict id slot = outcome at reading
  refine Outcome.Succeeds.bind ?_ fun e? _ => ?_
  · cases reading with
    | skipped refused p => exact (Outcome.Succeeds.flag lenient p).bind fun _ _ => .pure none
    | kept _ _ => exact .pure _
  · cases e? with
    | none => exact .pure none
    | some e => exact (e.succeeds_targets lenient).bind fun links _ => .pure (some (e, links))

/-- Whatever its slots hold, a directory whose slots lie inside the bytes is read. -/
theorem succeeds_readContents {position : Nat} (body : h.HasBody bytes position) :
    (readContents bytes h strict id position).Succeeds := by
  unfold Header.HasBody at body
  have start : (decide (position ≤ bytes.length)) = true := decide_eq_true (by omega)
  unfold readContents
  refine Outcome.Succeeds.bind ⟨(), Outcome.result_require_iff.2 start⟩ fun _ _ => ?_
  refine Outcome.Succeeds.bind ⟨_, result_unsignedAt_iff.2 ⟨by omega, rfl⟩⟩ fun count counted => ?_
  obtain ⟨_, rfl⟩ := result_unsignedAt_iff.1 counted
  have whole := decide_eq_true body
  refine Outcome.Succeeds.bind ⟨(), Outcome.result_require_iff.2 whole⟩ fun _ _ => ?_
  refine Outcome.Succeeds.bind (.mapM _ fun slot member => ?_) fun found _ => ?_
  · exact succeeds_readEntry lenient (slot_inside bytes h body member)
  · exact (succeeds_readNext _).bind fun next _ => .pure _

end Lenient

namespace Source

variable {s : Source} {w w' : Walk} {t : Task} {stack tasks : List Task}

theorem succeeds_reportNext (lenient : s.strict = false) (offset : Nat) :
    (s.reportNext id offset).Succeeds := by
  unfold reportNext
  split
  · exact .pure ()
  cases id with
  | ifd n => exact ⟨(), Outcome.result_check_iff.2 (by simp [lenient])⟩
  | subIfd n => exact .pure ()
  | exif | gps | interop => exact ⟨(), rfl⟩

/-- After the first directory, no directory has to be readable. -/
theorem succeeds_open? (lenient : s.strict = false) (later : w.directories ≠ []) :
    (s.open? w t id).Succeeds := by
  have ends : (some <$> readContents s.bytes s.header s.strict id (s.position t)).Ends
      fun _ => True :=
    (ends_readContents s.bytes s.strict s.header id (s.position t)).map some
  unfold open?
  rw [if_neg (by simpa using later)]
  refine Outcome.succeeds_rescue ends fun cause => ?_
  exact (Outcome.Succeeds.flag lenient _).bind fun _ _ => .pure none

/-- After the first directory, no task can fail. -/
theorem succeeds_visit (lenient : s.strict = false) (later : w.directories ≠ []) :
    (s.visit w t).Succeeds := by
  have kept := s.accept_directories w t
  unfold visit
  rcases accepted : s.accept w t with ⟨p | id, v⟩
  · exact (Outcome.Succeeds.flag lenient p).bind fun _ _ => .pure (v, [])
  · rw [accepted] at kept
    refine (succeeds_open? lenient (kept ▸ later)).bind fun contents? _ => ?_
    cases contents? with
    | none => exact .pure (v, [])
    | some contents =>
        refine Outcome.Succeeds.bind ⟨(), rfl⟩ fun _ _ => ?_
        rw [follow_eq, bind_assoc]
        exact (succeeds_reportNext lenient contents.next).bind fun _ _ => .pure _

theorem Steps.directories_grow (steps : s.Steps w t w' tasks) :
    w.directories <+: w'.directories := by
  cases steps with
  | idle same _ _ => exact same ▸ List.prefix_rfl
  | read accepts _ _ =>
      rw [accepts.directories_push]
      exact List.prefix_append _ _

/-- After the first directory the walk comes to an end, and it keeps the directories that it has. -/
theorem succeeds_walk (lenient : s.strict = false) (later : w.directories ≠ []) :
    ∃ v, (s.walk w stack).result = .ok v ∧ w.directories <+: v.directories := by
  induction w, stack using walk.induct s with
  | case1 w =>
      rw [walk_nil]
      exact ⟨w, rfl, List.prefix_rfl⟩
  | case2 w t stack events p failed =>
      obtain ⟨_, succeeded⟩ := succeeds_visit (t := t) lenient later
      rw [failed] at succeeded
      cases succeeded
  | case3 w t stack events v tasks visited ih =>
      have grown := (visits_of_visit (congrArg Outcome.result visited)).steps.directories_grow
      have later' : v.directories ≠ [] := by
        intro none
        rw [none, List.prefix_nil] at grown
        exact later grown
      obtain ⟨u, walked, kept⟩ := ih later'
      rw [walk_cons, visited, Outcome.bind_of_ok _ rfl]
      exact ⟨u, walked, grown.trans kept⟩

/-- No limit lets a link through that lies below it. -/
theorem walk_of_negative (lenient : s.strict = false) (below : s.limit < 0) (offset : Nat) :
    (s.walk Walk.start [⟨.first offset, none, 0⟩]).result = .ok Walk.start := by
  have refused := accept_of_deep (s := s) (w := Walk.start) (t := ⟨.first offset, none, 0⟩)
    (by simp [Walk.start]) below
  obtain ⟨_, flagged⟩ := Outcome.Succeeds.flag lenient (.directoryTooDeep offset s.limit)
  rw [walk_of_refused s refused, walk_nil]
  exact Outcome.result_bind_iff.2 ⟨(), flagged, rfl⟩

/-- A limit that is not negative lets the first link through. -/
theorem accept_first {offset : Nat} (followed : 0 ≤ s.limit) :
    s.accept Walk.start ⟨.first offset, none, 0⟩ =
      (.ok (.ifd 0), Walk.start.mark (s.header.base + offset)) := by
  have shallow : ¬ s.limit < ((0 : Nat) : Int) := Int.not_lt.2 followed
  have placed : (Link.first offset).id = some (.ifd 0) := rfl
  rw [accept_of_placed (by simp [Walk.start]) shallow placed]
  rfl

/-- The first directory has to be readable. -/
theorem open?_first (position : Nat) (t : Task) :
    s.open? (Walk.start.mark position) t id =
      some <$> readContents s.bytes s.header s.strict id (s.position t) := rfl

theorem hasBody_of_walk {offset : Nat} (followed : 0 ≤ s.limit)
    (walked : (s.walk Walk.start [⟨.first offset, none, 0⟩]).result = .ok w) :
    s.header.HasBody s.bytes (s.header.base + offset) := by
  rw [walk_of_accepted s (accept_first followed), open?_first] at walked
  obtain ⟨contents?, opened, _⟩ := Outcome.ok_of_bind walked
  rw [map_eq_pure_bind] at opened
  obtain ⟨contents, read, _⟩ := Outcome.ok_of_bind opened
  exact (readContents_cases read).1

/-- Nothing can fail once the slots of the first directory lie inside the bytes. -/
theorem exists_walk {offset : Nat} (lenient : s.strict = false) (followed : 0 ≤ s.limit)
    (body : s.header.HasBody s.bytes (s.header.base + offset)) :
    ∃ v, (s.walk Walk.start [⟨.first offset, none, 0⟩]).result = .ok v ∧
      ∃ d rest, v.directories = d :: rest ∧ d.id = .ifd 0 ∧ d.offset = s.header.base + offset := by
  obtain ⟨contents, read⟩ : (readContents s.bytes s.header s.strict (.ifd 0)
      (s.header.base + offset)).Succeeds := succeeds_readContents lenient body
  let d : Directory := ⟨.ifd 0, s.header.base + offset, s.header.order, contents.entries, 0, none, 0⟩
  obtain ⟨_, reported⟩ : (s.reportNext (.ifd 0) contents.next).Succeeds :=
    succeeds_reportNext lenient contents.next
  rw [walk_of_accepted s (accept_first followed), open?_first]
  have opened := congrArg Outcome.result (Outcome.map_of_ok some read)
  obtain ⟨v, walked, rest, grown⟩ := succeeds_walk lenient
    (w := (Walk.start.mark (s.header.base + offset)).push d) (by simp [Walk.push])
  refine ⟨v, ?_, d, rest, grown.symm, rfl, rfl⟩
  refine Outcome.result_bind_iff.2 ⟨some contents, opened, ?_⟩
  refine Outcome.result_bind_iff.2 ⟨(), rfl, ?_⟩
  exact Outcome.result_bind_iff.2 ⟨_, reported, walked⟩

end Source

namespace Stream

/-- What a lenient reader needs: a header that stands where it is looked for and leads to a first
directory; if that one is followed, its slots lie inside the bytes. -/
structure Needs (bytes : Bytes) (base limit : Int) (h : Header) : Prop where
  stands : h.Stands bytes base
  leading : leads bytes h = true
  body : 0 ≤ limit → h.HasBody bytes (h.base + h.firstOffset)

theorem needs_of_read {stream : Stream}
    (read : (read bytes base false limit).result = .ok stream) :
    Needs bytes base limit stream.header := by
  rw [read_eq] at read
  obtain ⟨h, header, read⟩ := Outcome.ok_of_bind read
  obtain ⟨_, leading, read⟩ := Outcome.ok_of_bind read
  obtain ⟨w, walked, ⟨⟩⟩ := Outcome.ok_of_bind read
  exact
    { stands := Header.result_read_iff.1 header
      leading := Outcome.result_require_iff.1 leading
      body := fun followed => Source.hasBody_of_walk followed walked }

/-- With the first directory the list of directories begins, if that one is followed; if not, the list
is empty. -/
structure Begins (limit : Int) (stream : Stream) : Prop where
  first : 0 ≤ limit → ∃ d rest, stream.directories = d :: rest ∧ d.id = .ifd 0 ∧
    d.offset = stream.header.base + stream.header.firstOffset
  none : limit < 0 → stream.directories = []

/-- Where there is what a lenient reader needs, nothing can fail. -/
theorem exists_read (needs : Needs bytes base limit h) :
    ∃ stream, (read bytes base false limit).result = .ok stream ∧ stream.header = h ∧
      stream.Begins limit := by
  obtain ⟨stands, leading, body⟩ := needs
  have follows {w : Walk} (walked : ((⟨bytes, h, false, limit⟩ : Source).walk Walk.start
      [⟨.first h.firstOffset, none, 0⟩]).result = .ok w) :
      (read bytes base false limit).result = .ok ⟨h, w.directories⟩ := by
    rw [read_eq]
    refine Outcome.result_bind_iff.2 ⟨h, Header.result_read_iff.2 stands, ?_⟩
    refine Outcome.result_bind_iff.2 ⟨(), Outcome.result_require_iff.2 leading, ?_⟩
    exact Outcome.result_bind_iff.2 ⟨w, walked, rfl⟩
  rcases Int.lt_or_le limit 0 with below | followed
  · have walked := Source.walk_of_negative (s := ⟨bytes, h, false, limit⟩) rfl below h.firstOffset
    exact ⟨_, follows walked, rfl, fun followed => absurd followed (Int.not_le.2 below),
      fun _ => rfl⟩
  · obtain ⟨w, walked, first⟩ := Source.exists_walk (s := ⟨bytes, h, false, limit⟩) rfl followed
      (body followed)
    exact ⟨_, follows walked, rfl, fun _ => first,
      fun below => absurd followed (Int.not_le.2 below)⟩

/-- Why a lenient reader fails. -/
inductive Fault (bytes : Bytes) (base limit : Int) : Prop
  /-- The header is looked for outside of the bytes. -/
  | outside (away : base < 0 ∨ bytes.length < base)
  /-- No byte order is marked there. -/
  | unmarked (unmarked : Header.stated? bytes base.toNat = none)
  /-- The bytes end before the header does. -/
  | cut {h : Header} (stated : Header.stated? bytes base.toNat = some h)
      (ends : bytes.length < base.toNat + h.size)
  /-- A wide header does not say what every wide one says. -/
  | widths {h : Header} (stated : Header.stated? bytes base.toNat = some h) (big : h.big = true)
      (other : h.order.unsigned (bytes.slice (base.toNat + 4) 2) ≠ 8 ∨
        h.order.unsigned (bytes.slice (base.toNat + 6) 2) ≠ 0)
  /-- The header leads to no directory, or to one whose number of entries lies outside. -/
  | astray {h : Header} (stated : Header.stated? bytes base.toNat = some h)
      (nowhere : h.firstOffset = 0 ∨ bytes.length < base.toNat + h.firstOffset + h.countSize)
  /-- The first directory is followed, and the bytes end before its slots do. -/
  | body {h : Header} (stated : Header.stated? bytes base.toNat = some h) (followed : 0 ≤ limit)
      (ends : bytes.length < base.toNat + h.firstOffset + h.countSize +
        h.entryCount bytes (base.toNat + h.firstOffset) * h.slotSize)

/-- Each fault is the lack of something that a lenient reader needs. -/
theorem Fault.not_needs (fault : Fault bytes base limit) : ¬ Needs bytes base limit h := by
  rintro ⟨⟨inside, said, fits, plain⟩, leading, body⟩
  have base_eq := Header.base_of_stated? said
  simp only [leads, Bool.and_eq_true, bne_iff_ne, ne_eq, decide_eq_true_eq] at leading
  cases fault with
  | outside away => omega
  | unmarked unmarked => cases said.symm.trans unmarked
  | cut stated ends =>
      cases said.symm.trans stated
      omega
  | widths stated big other =>
      cases said.symm.trans stated
      have plain := plain big
      simp only [Header.isPlain, base_eq, Bool.and_eq_true, beq_iff_eq] at plain
      exact other.elim (· plain.1) (· plain.2)
  | astray stated nowhere =>
      cases said.symm.trans stated
      omega
  | body stated followed ends =>
      cases said.symm.trans stated
      have body := body followed
      rw [Header.HasBody, base_eq] at body
      omega

/-- What a lenient reader needs is looked for in order, and the first that is missing is the
fault. -/
theorem exists_needs_or_fault : (∃ h, Needs bytes base limit h) ∨ Fault bytes base limit := by
  by_cases inside : 0 ≤ base
  case neg => exact .inr (.outside (.inl (Int.not_le.1 inside)))
  cases stated : Header.stated? bytes base.toNat with
  | none => exact .inr (.unmarked stated)
  | some h =>
      have base_eq := Header.base_of_stated? stated
      by_cases fits : base.toNat + h.size ≤ bytes.length
      case neg => exact .inr (.cut stated (Nat.not_le.1 fits))
      by_cases plain : h.big = true → h.isPlain bytes = true
      case neg =>
        obtain ⟨big, other⟩ := Classical.not_imp.1 plain
        refine .inr (.widths stated big ?_)
        rwa [Header.isPlain, base_eq, Bool.and_eq_true, beq_iff_eq, beq_iff_eq,
          Classical.not_and_iff_not_or_not] at other
      by_cases leading : leads bytes h = true
      case neg =>
        refine .inr (.astray stated ?_)
        simp only [leads, Bool.and_eq_true, bne_iff_ne, ne_eq, decide_eq_true_eq] at leading
        omega
      by_cases body : 0 ≤ limit → h.HasBody bytes (h.base + h.firstOffset)
      case neg =>
        obtain ⟨followed, ends⟩ := Classical.not_imp.1 body
        rw [Header.HasBody, base_eq] at ends
        exact .inr (.body stated followed (Nat.not_le.1 ends))
      exact .inl ⟨h, ⟨inside, stated, fits, plain⟩, leading, body⟩

/-- Damage that spares the header, and the number of entries of the first directory, takes nothing
that a lenient reader needs. -/
theorem Needs.of_spares {other : Bytes} (needs : Needs bytes base limit h)
    (spares : h.Spares bytes other) : Needs other base limit h := by
  obtain ⟨⟨inside, stated, fits, plain⟩, leading, body⟩ := needs
  obtain ⟨length_eq, header, count⟩ := spares
  have base_eq := Header.base_of_stated? stated
  have wide (big : h.big = true) : h.size = 16 := by rw [Header.size, if_pos big]
  have entries : h.entryCount other (h.base + h.firstOffset) =
      h.entryCount bytes (h.base + h.firstOffset) := by
    rw [Header.entryCount, Header.entryCount, count.slice_eq (Nat.le_refl _) (Nat.le_refl _)]
  constructor
  · refine ⟨inside, Header.stated?_of_sameOn stated (base_eq ▸ header), length_eq ▸ fits, ?_⟩
    intro big
    have size := wide big
    rw [← plain big, Header.isPlain, Header.isPlain, header.slice_eq (by omega) (by omega),
      header.slice_eq (by omega) (by omega)]
  · unfold leads at leading ⊢
    rwa [length_eq]
  · intro followed
    rw [Header.HasBody, entries, length_eq]
    exact body followed

/-- A lenient reader fails for one of the faults, and then for a reason that is about the bytes. In
any other case it comes to a stream with the header that stands at the base; the first directory is
the one that the header leads to, unless no link may be followed at all. Whatever is damaged apart
from the header and the number of entries of that directory, there still is a stream. -/
theorem read_lenient (bytes : Bytes) (base limit : Int) :
    ((∃ p, (read bytes base false limit).result = .error p) ↔ Fault bytes base limit) ∧
    (∀ p, (read bytes base false limit).result = .error p → p.isStructural = true) ∧
    ∀ stream, (read bytes base false limit).result = .ok stream →
      (stream.header.base : Int) = base ∧ Header.stated? bytes base.toNat = some stream.header ∧
        stream.Begins limit ∧
          ∀ other, stream.header.Spares bytes other →
            ∃ stream', (read other base false limit).result = .ok stream' ∧
              stream'.header = stream.header := by
  refine ⟨?_, fun p failed => ?_, fun stream read => ?_⟩
  · constructor
    · rintro ⟨p, failed⟩
      rcases exists_needs_or_fault with ⟨h, needs⟩ | fault
      · obtain ⟨stream, read, _⟩ := exists_read needs
        cases failed.symm.trans read
      · exact fault
    · intro fault
      cases result : (read bytes base false limit).result with
      | error p => exact ⟨p, rfl⟩
      | ok stream => exact absurd (needs_of_read result) fault.not_needs
  · have ends := ends_read bytes false base limit
    rwa [Outcome.Ends, failed] at ends
  · have needs := needs_of_read read
    have inside := needs.stands.inside
    have base_eq := Header.base_of_stated? needs.stands.stated
    refine ⟨by omega, needs.stands.stated, ?_, fun other spares => ?_⟩
    · obtain ⟨_, read', _, begins⟩ := exists_read needs
      cases read.symm.trans read'
      exact begins
    · obtain ⟨stream', read', header, _⟩ := exists_read (needs.of_spares spares)
      exact ⟨stream', read', header⟩

end Stream

end Tiff

end ImageMetadata
