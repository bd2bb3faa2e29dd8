import ImageMetadata.Proofs.Safety.Tiff
import ImageMetadata.Proofs.Tiff.Walk
import Mathlib.Data.List.Forall2

/-!
# The entries of a directory

A slot is acceptable if its tag is known where it stands, its type may occur in the stream, and its
value is in the slot itself or inside the bytes. A directory that is read has, in the order of the
slots, one entry for each acceptable slot and nothing else; what an entry holds depends on its own
slot only.
-/

namespace ImageMetadata

/-- Where a list of outcomes ends well, each of them does. -/
theorem Outcome.forall₂_of_mapM {α β : Type} {f : α → Outcome β} {list : List α} {found : List β}
    (h : (list.mapM f).result = .ok found) :
    List.Forall₂ (fun a b => (f a).result = .ok b) list found := by
  induction list generalizing found with
  | nil =>
      cases h
      exact .nil
  | cons a rest ih =>
      rw [List.mapM_cons] at h
      obtain ⟨b, first, h⟩ := ok_of_bind h
      obtain ⟨others, later, h⟩ := ok_of_bind h
      cases h
      exact .cons first (ih later)

namespace Tiff

namespace Header

variable (h : Header) (bytes : Bytes) (slot : Nat)

/-- The tag that a slot stores. -/
def tagAt : Nat := h.order.unsigned (bytes.slice slot 2)

/-- The type code that a slot stores. -/
def codeAt : Nat := h.order.unsigned (bytes.slice (slot + 2) 2)

/-- The number of values that a slot stores. -/
def countAt : Nat := h.order.unsigned (bytes.slice (slot + 4) h.offsetSize)

/-- The position of the last field of a slot, which holds the value or says where it is. -/
def fieldAt : Nat := slot + (h.slotSize - h.offsetSize)

/-- The position that the last field of a slot says. -/
def targetAt : Nat := h.base + h.order.unsigned (bytes.slice (h.fieldAt slot) h.offsetSize)

/-- The position of a value of some bytes: in the slot if it fits there, and else where the slot
says. -/
def valueAt (size : Nat) : Nat :=
  if size ≤ h.offsetSize then h.fieldAt slot else h.targetAt bytes slot

/-- Whether a value of some bytes is in the slot, or inside the bytes where the slot says. -/
def hasValue (size : Nat) : Bool :=
  size ≤ h.offsetSize || h.targetAt bytes slot + size ≤ bytes.length

/-- Whether a slot is acceptable in a directory: the family of the directory knows the tag, the
stream may use the type, and the value is there. -/
def accepts (id : DirectoryId) : Bool :=
  (id.family.name? (h.tagAt bytes slot)).isSome && h.allows (h.codeAt bytes slot) &&
    (FieldType.ofCode? (h.codeAt bytes slot)).any fun type =>
      h.hasValue bytes slot (type.size * h.countAt bytes slot)

/-- The number of slots that the directory at a position says it has. -/
def entryCount (position : Nat) : Nat := h.order.unsigned (bytes.slice position h.countSize)

/-- The positions of the slots of the directory at a position. -/
def slotsAt (position : Nat) : List Nat :=
  slots h (position + h.countSize) (h.entryCount bytes position)

/-- The positions of its acceptable slots. -/
def acceptedSlots (position : Nat) (id : DirectoryId) : List Nat :=
  (h.slotsAt bytes position).filter fun slot => h.accepts bytes slot id

/-- The last field of a slot ends with the slot. -/
theorem fieldAt_add_offsetSize : h.fieldAt slot + h.offsetSize = slot + h.slotSize := by
  unfold fieldAt offsetSize slotSize
  split <;> omega

variable {h bytes slot} in
/-- A value that a slot has lies inside the bytes. -/
theorem valueAt_add_le {size : Nat} (inside : slot + h.slotSize ≤ bytes.length)
    (present : h.hasValue bytes slot size = true) : h.valueAt bytes slot size + size ≤ bytes.length := by
  have field := h.fieldAt_add_offsetSize slot
  simp only [hasValue, Bool.or_eq_true, decide_eq_true_eq] at present
  unfold valueAt
  split <;> omega

end Header

variable {bytes : Bytes} {h : Header} {strict : Bool} {id : DirectoryId} {slot : Nat}

/-- An entry holds what a slot says; its value is the bytes at its offset, which is in the slot if
the value fits there. -/
structure Entry.IsAt (bytes : Bytes) (h : Header) (id : DirectoryId) (slot : Nat) (e : Entry) :
    Prop where
  tag_eq : e.tag = h.tagAt bytes slot
  name_eq : id.family.name? e.tag = some e.name
  code_eq : e.type.code = h.codeAt bytes slot
  count_eq : e.count = h.countAt bytes slot
  order_eq : e.order = h.order
  offset_eq : e.offset = h.valueAt bytes slot (e.type.size * e.count)
  inside : e.offset + e.raw.length ≤ bytes.length
  raw_eq : e.raw = bytes.slice e.offset e.raw.length

/-- The slot decides everything that its entry holds. -/
theorem Entry.IsAt.unique {e e' : Entry} (at_slot : e.IsAt bytes h id slot)
    (at_slot' : e'.IsAt bytes h id slot) : e = e' := by
  have tag := at_slot.tag_eq.trans at_slot'.tag_eq.symm
  have name : e.name = e'.name := by
    have known := at_slot.name_eq
    rw [tag, at_slot'.name_eq] at known
    exact (Option.some.inj known).symm
  have type : e.type = e'.type :=
    FieldType.code_injective (at_slot.code_eq.trans at_slot'.code_eq.symm)
  have count := at_slot.count_eq.trans at_slot'.count_eq.symm
  have offset : e.offset = e'.offset := by
    rw [at_slot.offset_eq, at_slot'.offset_eq, type, count]
  have size : e.raw.length = e'.raw.length := by rw [e.raw_length, e'.raw_length, type, count]
  have raw : e.raw = e'.raw := by rw [at_slot.raw_eq, at_slot'.raw_eq, offset, size]
  have order := at_slot.order_eq.trans at_slot'.order_eq.symm
  obtain ⟨_, _, _, _, _, _, _, _⟩ := e
  obtain ⟨_, _, _, _, _, _, _, _⟩ := e'
  simp_all

/-- The value that is located is the one that the slot has. -/
theorem locate_eq (size : Nat) :
    locate bytes h slot size =
      if h.hasValue bytes slot size then
        .ok (h.valueAt bytes slot size, bytes.slice (h.valueAt bytes slot size) size)
      else .error (h.order.unsigned (bytes.slice (h.fieldAt slot) h.offsetSize)) := by
  unfold locate Header.hasValue Header.valueAt Header.targetAt Header.fieldAt
  by_cases inline : size ≤ h.offsetSize
  · simp [inline]
  · simp [inline]

/-- How a slot that lies inside the bytes is read: one that is not acceptable is flagged, and any
other one becomes the entry that it says, without a notice. -/
inductive SlotReading (bytes : Bytes) (h : Header) (strict : Bool) (id : DirectoryId) (slot : Nat) :
    Outcome (Option Entry) → Prop
  | skipped (refused : h.accepts bytes slot id = false) (p : Problem) :
      SlotReading bytes h strict id slot (Outcome.flag strict p >>= fun _ => pure none)
  | kept {e : Entry} (accepted : h.accepts bytes slot id = true) (at_slot : e.IsAt bytes h id slot) :
      SlotReading bytes h strict id slot (pure (some e))

theorem slotReading_readSlot (inside : slot + h.slotSize ≤ bytes.length) :
    SlotReading bytes h strict id slot (readSlot bytes h strict id slot) := by
  have whole : ((bytes.slice slot h.slotSize).length == h.slotSize) = true :=
    beq_iff_eq.2 (Bytes.slice_length_of_le inside)
  -- each look at a field is folded to its name, so that the cases are those of acceptability
  have tag : h.order.unsigned (bytes.slice slot 2) = h.tagAt bytes slot := rfl
  have code : h.order.unsigned (bytes.slice (slot + 2) 2) = h.codeAt bytes slot := rfl
  have count : h.order.unsigned (bytes.slice (slot + 4) h.offsetSize) = h.countAt bytes slot := rfl
  unfold readSlot
  rw [whole]
  simp only [Outcome.require, if_true, pure_bind, tag, code, count]
  cases named : id.family.name? (h.tagAt bytes slot) with
  | none => exact .skipped (by simp [Header.accepts, named]) _
  | some name =>
      cases allowed : h.allows (h.codeAt bytes slot) with
      | false => exact .skipped (by simp [Header.accepts, allowed]) _
      | true =>
          obtain ⟨type, typed⟩ := ofCode?_of_allows h allowed
          have coded : type.code = h.codeAt bytes slot := by simpa using List.find?_some typed
          rw [typed]
          simp only [Bool.not_true, Bool.false_eq_true, if_false]
          rw [locate_eq]
          cases present : h.hasValue bytes slot (type.size * h.countAt bytes slot) with
          | false => exact .skipped (by simp [Header.accepts, typed, present]) _
          | true =>
              have accepted : h.accepts bytes slot id = true := by
                simp [Header.accepts, named, allowed, typed, present]
              have within := Header.valueAt_add_le inside present
              have fits := Bytes.slice_length_of_le within
              simp only [if_true]
              split
              · exact .kept accepted
                  { tag_eq := rfl
                    name_eq := named
                    code_eq := coded
                    count_eq := rfl
                    order_eq := rfl
                    offset_eq := rfl
                    inside := by dsimp only; rwa [fits]
                    raw_eq := by dsimp only; rw [fits] }
              · exact absurd fits ‹_›

/-- What a slot is read as: nothing unless it is acceptable, and else the entry that it says, with
the links that its value holds. -/
inductive ReadsEntry (bytes : Bytes) (h : Header) (strict : Bool) (id : DirectoryId) (slot : Nat) :
    Option (Entry × List Link) → Prop
  | skipped (refused : h.accepts bytes slot id = false) : ReadsEntry bytes h strict id slot none
  | kept {e : Entry} {links : List Link} (accepted : h.accepts bytes slot id = true)
      (at_slot : e.IsAt bytes h id slot) (targets : (e.targets strict).result = .ok links) :
      ReadsEntry bytes h strict id slot (some (e, links))

theorem readsEntry_of_readEntry {found : Option (Entry × List Link)}
    (inside : slot + h.slotSize ≤ bytes.length)
    (read : (readEntry bytes h strict id slot).result = .ok found) :
    ReadsEntry bytes h strict id slot found := by
  obtain ⟨e?, slot_read, read⟩ := Outcome.ok_of_bind read
  have reading : SlotReading bytes h strict id slot (readSlot bytes h strict id slot) :=
    slotReading_readSlot inside
  generalize readSlot bytes h strict id slot = outcome at slot_read reading
  cases reading with
  | skipped refused p =>
      obtain ⟨_, _, ⟨⟩⟩ := Outcome.ok_of_bind slot_read
      cases read
      exact .skipped refused
  | kept accepted at_slot =>
      cases slot_read
      obtain ⟨links, targets, ⟨⟩⟩ := Outcome.ok_of_bind read
      exact .kept accepted at_slot targets

/-- What is known of a directory whose contents were read. -/
theorem readContents_cases {position : Nat} {contents : Contents}
    (read : (readContents bytes h strict id position).result = .ok contents) :
    position + h.countSize + h.entryCount bytes position * h.slotSize ≤ bytes.length ∧
    ∃ found, List.Forall₂ (ReadsEntry bytes h strict id) (h.slotsAt bytes position) found ∧
      contents.entries = (found.filterMap fun r => r).map Prod.fst ∧
      contents.children = (found.filterMap fun r => r).flatMap Prod.snd := by
  obtain ⟨_, _, read⟩ := Outcome.ok_of_bind read
  obtain ⟨count, counted, read⟩ := Outcome.ok_of_bind read
  obtain ⟨_, body, read⟩ := Outcome.ok_of_bind read
  obtain ⟨found, each, read⟩ := Outcome.ok_of_bind read
  obtain ⟨next, _, ⟨⟩⟩ := Outcome.ok_of_bind read
  have same : count = h.entryCount bytes position := by
    unfold unsignedAt at counted
    split at counted
    · cases counted; rfl
    · cases counted
  subst same
  have body := of_decide_eq_true (Outcome.true_of_require body)
  refine ⟨body, found, ?_, rfl, rfl⟩
  have inside : ∀ slot ∈ h.slotsAt bytes position, slot + h.slotSize ≤ bytes.length :=
    fun slot member => slot_inside bytes h body member
  have reads := (List.forall₂_and_left _ _).2 ⟨inside, Outcome.forall₂_of_mapM each⟩
  exact reads.imp fun slot r known => readsEntry_of_readEntry known.1 known.2

/-- The entries that were found are those of the acceptable slots, in the order of the slots. -/
theorem entries_of_found {list : List Nat} {found : List (Option (Entry × List Link))}
    (read : List.Forall₂ (ReadsEntry bytes h strict id) list found) :
    List.Forall₂ (fun slot e => e.IsAt bytes h id slot)
      (list.filter fun slot => h.accepts bytes slot id)
      ((found.filterMap fun r => r).map Prod.fst) := by
  induction read with
  | nil => exact .nil
  | cons first _ ih =>
      cases first with
      | skipped refused => simpa [refused] using ih
      | kept accepted at_slot _ => simpa [accepted] using And.intro at_slot ih

/-- The contents of a directory have one entry for each acceptable slot. -/
theorem entries_of_readContents {position : Nat} {contents : Contents}
    (read : (readContents bytes h strict id position).result = .ok contents) :
    List.Forall₂ (fun slot e => e.IsAt bytes h id slot) (h.acceptedSlots bytes position id)
      contents.entries := by
  obtain ⟨_, found, each, entries, _⟩ := readContents_cases read
  rw [entries]
  exact entries_of_found each

/-- Whatever was read from slots, the slots decide it. -/
theorem eq_of_forall₂_isAt {list : List Nat} {l r : List Entry}
    (left : List.Forall₂ (fun slot e => e.IsAt bytes h id slot) list l)
    (right : List.Forall₂ (fun slot e => e.IsAt bytes h id slot) list r) : l = r := by
  induction left generalizing r with
  | nil =>
      cases right
      rfl
  | cons first _ ih =>
      cases right with
      | cons first' others => rw [first.unique first', ih others]

/-- A directory holds what stands at its position: its slots lie inside the bytes, and its entries
are those of the acceptable slots, one for each, in order. They are the only such list, and each of
them has a value and a display. -/
structure Directory.IsAt (bytes : Bytes) (h : Header) (d : Directory) : Prop where
  order_eq : d.order = h.order
  body : d.offset + h.countSize + h.entryCount bytes d.offset * h.slotSize ≤ bytes.length
  entries : List.Forall₂ (fun slot e => e.IsAt bytes h d.id slot)
    (h.acceptedSlots bytes d.offset d.id) d.entries
  unique : ∀ other, List.Forall₂ (fun slot e => e.IsAt bytes h d.id slot)
    (h.acceptedSlots bytes d.offset d.id) other → other = d.entries
  value : ∀ e ∈ d.entries, e.raw.length = e.type.size * e.count ∧
    (∃ v, Value.decode e.type e.count e.raw e.order = .ok v) ∧
      ∃ text, Value.display e.type e.count e.raw e.order = .ok text

theorem Directory.isAt_of_readContents {d : Directory} {contents : Contents}
    (order : d.order = h.order)
    (read : (readContents bytes h strict d.id d.offset).result = .ok contents)
    (same : d.entries = contents.entries) : d.IsAt bytes h where
  order_eq := order
  body := (readContents_cases read).1
  entries := same ▸ entries_of_readContents read
  unique _ other := eq_of_forall₂_isAt other (same ▸ entries_of_readContents read)
  value e _ := ⟨e.raw_length, ⟨_, e.decode_eq⟩, _, e.display_eq⟩

/-- Each directory that a task adds holds what stands at its position. -/
theorem Source.isAt_of_steps {s : Source} {w w' : Walk} {t : Task} {tasks : List Task}
    (known : ∀ d ∈ w.directories, d.IsAt s.bytes s.header) (steps : s.Steps w t w' tasks) :
    ∀ d ∈ w'.directories, d.IsAt s.bytes s.header := by
  cases steps with
  | idle same _ _ => rwa [same]
  | read accepts read _ =>
      intro d member
      rw [accepts.directories_push, List.mem_append, List.mem_singleton] at member
      rcases member with old | rfl
      · exact known d old
      · exact Directory.isAt_of_readContents rfl read rfl

/-- A header stands where it was looked for. -/
theorem Header.base_of_read {base : Int} (read : (Header.read bytes base strict).result = .ok h) :
    (h.base : Int) = base := by
  obtain ⟨_, inside, read⟩ := Outcome.ok_of_bind read
  have bounds := Outcome.true_of_require inside
  simp only [Bool.and_eq_true, decide_eq_true_eq] at bounds
  have start : (base.toNat : Int) = base := Int.toNat_of_nonneg bounds.1
  dsimp only at read
  split at read
  · cases read
  obtain ⟨version, _, read⟩ := Outcome.ok_of_bind read
  split at read
  · obtain ⟨_, _, read⟩ := Outcome.ok_of_bind read
    obtain ⟨_, _, read⟩ := Outcome.ok_of_bind read
    obtain ⟨_, _, read⟩ := Outcome.ok_of_bind read
    obtain ⟨_, _, ⟨⟩⟩ := Outcome.ok_of_bind read
    exact start
  · obtain ⟨_, _, read⟩ := Outcome.ok_of_bind read
    obtain ⟨_, _, ⟨⟩⟩ := Outcome.ok_of_bind read
    exact start

/-- Every directory of a stream holds exactly what its acceptable slots say, with offsets that count
from where the stream was looked for. -/
theorem Stream.isAt_of_read {base limit : Int} {stream : Stream}
    (read : (Stream.read bytes base strict limit).result = .ok stream) :
    (stream.header.base : Int) = base ∧ ∀ d ∈ stream.directories, d.IsAt bytes stream.header := by
  obtain ⟨header, w, walked, same⟩ := walk_of_read read
  refine ⟨Header.base_of_read header, ?_⟩
  rw [same]
  exact Source.invariant_of_walk
    (I := fun w _ => ∀ d ∈ w.directories, d.IsAt bytes stream.header)
    (fun known visits => Source.isAt_of_steps known visits.steps)
    (by simp [Walk.start]) walked

/-- A directory of five slots. The second has an unknown tag, the third an unknown type, and the value
of the fourth would end outside; the value of the last one overlaps the next pointer. -/
def damaged : Bytes :=
  [73, 73, 42, 0, 8, 0, 0, 0] ++ [5, 0] ++
    [18, 1, 3, 0, 1, 0, 0, 0, 6, 0, 0, 0] ++ [44, 1, 2, 0, 3, 0, 0, 0, 97, 98, 99, 0] ++
    [15, 1, 99, 0, 1, 0, 0, 0, 0, 0, 0, 0] ++ [49, 1, 2, 0, 100, 0, 0, 0, 60, 0, 0, 0] ++
    [26, 1, 5, 0, 1, 0, 0, 0, 70, 0, 0, 0] ++ [0, 0, 0, 0] ++ [72, 0, 0, 0]

theorem Stream.read_damaged :
    (Stream.read damaged 0 false 32).result = .ok
      ⟨⟨.little, 42, false, 0, 8⟩,
        [⟨.ifd 0, 8, .little,
          [⟨274, "Orientation", .short, 1, [6, 0], 18, .little, rfl⟩,
            ⟨282, "XResolution", .rational, 1, [0, 0, 0, 0, 72, 0, 0, 0], 70, .little, rfl⟩],
          0, none, 0⟩]⟩ :=
  read_of_walkWithin (n := 1) (by decide +kernel)

/-- The directory has the entries of its first and its last slot. -/
theorem Stream.isAt_of_read_damaged :
    ∃ stream, (Stream.read damaged 0 false 32).result = .ok stream ∧
      stream.directories.map (fun d => d.entries.map Entry.tag) = [[274, 282]] ∧
      (stream.header.base : Int) = 0 ∧ ∀ d ∈ stream.directories, d.IsAt damaged stream.header :=
  ⟨_, read_damaged, rfl, isAt_of_read read_damaged⟩

end Tiff

end ImageMetadata
