import ImageMetadata.Proofs.Tiff.Entries
import ImageMetadata.Proofs.Tiff.Layout

/-!
# Reading what was laid out

Where a slot, a directory or a header stands in the bytes, it is read as what was written, without a
warning. The slots of a directory are followed by the values that they point to, so both are walked
along together.
-/

namespace ImageMetadata.Tiff

variable {bytes : Bytes} {h : Header} (strict : Bool) {id : DirectoryId}

theorem unsignedAt_of_holds {order : ByteOrder} {width n position : Nat}
    (stored : bytes.Holds (order.unsignedBytes width n) position)
    (room : n < Bytes.capacity width) : unsignedAt bytes order position width = .ok n := by
  have inside := stored.add_length_le
  rw [ByteOrder.unsignedBytes_length] at inside
  rw [unsignedAt, if_pos inside, stored.unsigned_eq room]

/-- Known tags have room in their field. -/
theorem Family.lt_of_name? {family : Family} {tag : Nat} (known : (family.name? tag).isSome = true) :
    tag < Bytes.capacity 2 := by
  obtain ⟨t, member, same⟩ := List.lookup_isSome_iff.1 known
  have small : ∀ t ∈ family.tags, t.1 < Bytes.capacity 2 := by
    cases family <;> decide
  rw [eq_of_beq same]
  exact small t member

theorem FieldType.code_lt (type : FieldType) : type.code < Bytes.capacity 2 := by
  cases type <;> decide

namespace Field

/-- The directories that an entry leads to. -/
def links (order : ByteOrder) (f : Field) : List Link :=
  match Pointer.ofTag? f.tag with
  | some (.fixed id) => [⟨some id, order.unsigned f.raw⟩]
  | _ => []

/-- An entry that a family of directories may hold and that is no pointer. -/
structure IsPlain (h : Header) (family : Family) (f : Field) : Prop where
  known : (family.name? f.tag).isSome = true
  allowed : h.allows f.type.code = true
  count_lt : f.count < Bytes.capacity h.offsetSize
  plain : Pointer.ofTag? f.tag = none

instance (h : Header) (family : Family) (f : Field) : Decidable (f.IsPlain h family) :=
  decidable_of_iff
    ((family.name? f.tag).isSome = true ∧ h.allows f.type.code = true ∧
      f.count < Bytes.capacity h.offsetSize ∧ Pointer.ofTag? f.tag = none)
    ⟨fun ⟨known, allowed, count, plain⟩ => ⟨known, allowed, count, plain⟩,
      fun p => ⟨p.known, p.allowed, p.count_lt, p.plain⟩⟩

/-- An entry that a family of directories may hold; if it is a pointer, then to one directory at a
fixed place. -/
structure IsReadable (h : Header) (family : Family) (f : Field) : Prop where
  known : (family.name? f.tag).isSome = true
  allowed : h.allows f.type.code = true
  count_lt : f.count < Bytes.capacity h.offsetSize
  clear : Pointer.ofTag? f.tag = none ∨
    (∃ id, Pointer.ofTag? f.tag = some (.fixed id)) ∧ f.type = .long ∧ f.count = 1

variable {f : Field} {slot position : Nat}

/-- The value of an entry stands where its slot says. -/
theorem holds_raw_of_holds (base : h.base = 0)
    (last : bytes.Holds (f.inside h position) (h.fieldAt slot))
    (data : bytes.Holds (f.outside h) position)
    (room : f.isInline h = false → position < Bytes.capacity h.offsetSize) :
    h.hasValue bytes slot f.raw.length = true ∧
      bytes.Holds f.raw (h.valueAt bytes slot f.raw.length) := by
  unfold Header.hasValue Header.valueAt
  unfold inside at last
  unfold outside at data
  cases inline : f.isInline h with
  | true =>
      have fits : f.raw.length ≤ h.offsetSize := of_decide_eq_true inline
      rw [inline, if_pos rfl] at last
      simpa [fits] using last.left
  | false =>
      have large : ¬ f.raw.length ≤ h.offsetSize := of_decide_eq_false inline
      rw [inline, if_neg Bool.false_ne_true] at last data
      have target : h.targetAt bytes slot = position := by
        rw [Header.targetAt, base, last.unsigned_eq (room inline), Nat.zero_add]
      rw [target, if_neg large]
      exact ⟨by simp [data.left.add_length_le], data.left⟩

/-- A slot that stands in the bytes, with its value after the directory if it has to, is read as the
entry that was written. -/
theorem readSlot_of_holds (base : h.base = 0) (readable : f.IsReadable h id.family)
    (stored : bytes.Holds (f.slot h position) slot)
    (data : bytes.Holds (f.outside h) position)
    (room : f.isInline h = false → position < Bytes.capacity h.offsetSize) :
    ∃ e : Entry, e.field = f ∧ e.order = h.order ∧
      readSlot bytes h strict id slot = pure (some e) := by
  obtain ⟨name, named⟩ := Option.isSome_iff_exists.1 readable.known
  have whole := stored.add_length_le
  rw [length_slot] at whole
  have tag : h.tagAt bytes slot = f.tag :=
    stored.left.unsigned_eq (Family.lt_of_name? readable.known)
  have rest := stored.right
  rw [ByteOrder.unsignedBytes_length] at rest
  have code : h.codeAt bytes slot = f.type.code := rest.left.unsigned_eq f.type.code_lt
  have rest := rest.right
  rw [ByteOrder.unsignedBytes_length] at rest
  have count : h.countAt bytes slot = f.count := rest.left.unsigned_eq readable.count_lt
  have last : bytes.Holds (f.inside h position) (h.fieldAt slot) := by
    have last := rest.right
    rw [ByteOrder.unsignedBytes_length] at last
    have place : h.fieldAt slot = slot + 2 + 2 + h.offsetSize := by
      unfold Header.fieldAt Header.slotSize Header.offsetSize
      split <;> omega
    rwa [place]
  obtain ⟨present, value⟩ := holds_raw_of_holds base last data room
  have accepted : h.accepts bytes slot id = true := by
    have typed := FieldType.ofCode?_code f.type
    simp [Header.accepts, tag, code, count, typed, readable.known, readable.allowed,
      ← f.raw_length, present]
  let e : Entry :=
    ⟨f.tag, name, f.type, f.count, f.raw, h.valueAt bytes slot f.raw.length, h.order, f.raw_length⟩
  have at_slot : e.IsAt bytes h id slot :=
    { tag_eq := tag.symm
      name_eq := named
      code_eq := code.symm
      count_eq := count.symm
      order_eq := rfl
      offset_eq := by rw [← e.raw_length]
      inside := value.add_length_le
      raw_eq := value.slice_eq.symm }
  have reading : SlotReading bytes h strict id slot (readSlot bytes h strict id slot) :=
    slotReading_readSlot whole
  refine ⟨e, rfl, rfl, ?_⟩
  generalize readSlot bytes h strict id slot = outcome at reading
  cases reading with
  | skipped refused => simp [accepted] at refused
  | kept _ at_slot' => rw [at_slot'.unique at_slot]

/-- The links that are followed from an entry are those of what was written. -/
theorem targets_of_isReadable {e : Entry} (readable : e.field.IsReadable h id.family) :
    e.targets strict = pure (e.field.links e.order) := by
  unfold Entry.targets links
  rcases readable.clear with plain | ⟨⟨place, leads⟩, type, count⟩
  · have plain : Pointer.ofTag? e.tag = none := plain
    simp only [Entry.field, plain]
  · have leads : Pointer.ofTag? e.tag = some (.fixed place) := leads
    have type : e.type = .long := type
    have count : e.count = 1 := count
    have size : e.raw.length = 4 := by rw [e.raw_length, type, count]; rfl
    have piece : Value.pieces e.type.size e.count e.raw = [e.raw] := by
      rw [count, type, Value.pieces, Value.pieces]
      exact congrArg (fun piece => [piece]) (List.take_of_length_le (Nat.le_of_eq size))
    have holds : e.type.holdsOffset = true := by rw [type]; rfl
    simp only [Entry.field, leads, holds, if_true, piece]
    rfl

theorem readEntry_of_holds (base : h.base = 0) (readable : f.IsReadable h id.family)
    (stored : bytes.Holds (f.slot h position) slot)
    (data : bytes.Holds (f.outside h) position)
    (room : f.isInline h = false → position < Bytes.capacity h.offsetSize) :
    ∃ e : Entry, e.field = f ∧
      readEntry bytes h strict id slot = pure (some (e, f.links h.order)) := by
  obtain ⟨e, rfl, order, read⟩ := readSlot_of_holds strict base readable stored data room
  refine ⟨e, rfl, ?_⟩
  rw [readEntry, read, pure_bind]
  dsimp only
  rw [targets_of_isReadable strict readable, order, pure_bind]

theorem slots_succ (h : Header) (start count : Nat) :
    Tiff.slots h start (count + 1) = start :: Tiff.slots h (start + h.slotSize) count := by
  have shift : ∀ i, start + (i + 1) * h.slotSize = start + h.slotSize + i * h.slotSize := by
    intro i
    rw [Nat.add_mul]
    omega
  simp [Tiff.slots, List.range_succ_eq_map, shift]

/-- The slots of a directory are read one after the other, each with its value. -/
theorem mapM_readEntry_of_holds {fields : List Field} (base : h.base = 0)
    (readable : ∀ f ∈ fields, f.IsReadable h id.family)
    (stored : bytes.Holds (Field.slots h position fields) slot)
    (data : bytes.Holds (fields.flatMap (outside h)) position)
    (room : ∀ p ∈ positions h position fields, p < Bytes.capacity h.offsetSize) :
    ∃ entries : List Entry, entries.map Entry.field = fields ∧
      (Tiff.slots h slot fields.length).mapM (readEntry bytes h strict id) =
        pure (entries.map fun e => some (e, e.field.links h.order)) := by
  induction fields generalizing slot position with
  | nil => exact ⟨[], rfl, rfl⟩
  | cons f rest ih =>
      rw [List.flatMap_cons] at data
      simp only [positions, List.mem_append] at room
      have later := stored.right
      rw [length_slot] at later
      obtain ⟨e, same, first⟩ := readEntry_of_holds strict base
        (readable f (by simp)) stored.left data.left
        (fun large => room position (.inl (by simp [large])))
      obtain ⟨entries, others, next⟩ := ih (fun f member => readable f (by simp [member])) later
        data.right (fun p member => room p (.inr member))
      refine ⟨e :: entries, by rw [List.map_cons, same, others], ?_⟩
      rw [List.length_cons, slots_succ, List.mapM_cons, first, pure_bind, next, pure_bind,
        List.map_cons, same]

end Field

/-- A directory that stands in the bytes is read as it was laid out. -/
theorem Block.readContents_of_holds {b : Block} (base : h.base = 0)
    (readable : ∀ f ∈ b.fields, f.IsReadable h b.id.family) (fits : b.Fits h)
    (stored : bytes.Holds (b.bytes h) b.offset) :
    ∃ entries : List Entry, entries.map Entry.field = b.fields ∧
      readContents bytes h strict b.id b.offset =
        pure ⟨entries, b.fields.flatMap (Field.links h.order), b.next⟩ := by
  have number := unsignedAt_of_holds stored.left fits.number_lt
  have after := stored.right
  rw [ByteOrder.unsignedBytes_length] at after
  have rest := after.right
  rw [Field.length_slots] at rest
  have body := rest.left.add_length_le
  rw [ByteOrder.unsignedBytes_length] at body
  have next := unsignedAt_of_holds rest.left fits.next_lt
  have data := rest.right
  rw [ByteOrder.unsignedBytes_length] at data
  obtain ⟨entries, same, read⟩ := Field.mapM_readEntry_of_holds strict base readable
    after.left data fits.positions_lt
  refine ⟨entries, same, ?_⟩
  have start : decide (b.offset ≤ bytes.length) = true := decide_eq_true (by omega)
  have inside : decide (b.offset + h.countSize + b.fields.length * h.slotSize ≤ bytes.length) =
    true := decide_eq_true (by omega)
  have found : (entries.map fun e => some (e, e.field.links h.order)).filterMap (fun slot => slot) =
      entries.map fun e => (e, e.field.links h.order) := by
    rw [List.filterMap_map]
    exact congrFun List.filterMap_eq_map' entries
  have children : b.fields.flatMap (Field.links h.order) =
      entries.flatMap fun e => e.field.links h.order := by rw [← same, List.flatMap_map]
  simp only [readContents, start, number, inside, read, readNext, next, Outcome.require_true,
    Outcome.ofExcept_ok, pure_bind, found, children]
  simp [List.map_map, List.flatMap_map, Function.comp_def]

/-- A header that stands at the start of the bytes is read as it was laid out. -/
theorem Header.read_of_holds {order : ByteOrder} {big : Bool}
    (stored : bytes.Holds (Header.laidOut order big).bytes 0) :
    Header.read bytes 0 strict = pure (.laidOut order big) := by
  have same : (laidOut order big).order = order := by cases big <;> rfl
  have size : (mark order).length = 2 := by cases order <;> decide
  rw [Header.bytes, same] at stored
  have marked : orderOfMark? (bytes.slice 0 2) = some order := by
    rw [← size, stored.left.slice_eq]
    cases order <;> decide
  have present : (decide ((0 : Int) ≤ 0) && decide ((0 : Int) + 2 ≤ (bytes.length : Int))) = true := by
    have inside := stored.left.add_length_le
    rw [size] at inside
    simp only [Bool.and_eq_true, decide_eq_true_eq]
    omega
  have rest := stored.right
  rw [size] at rest
  have last := rest.right
  rw [ByteOrder.unsignedBytes_length] at last
  unfold Header.read
  rw [present, Outcome.require_true, pure_bind]
  simp only [Int.toNat_zero, marked]
  cases big with
  | false =>
      have version : unsignedAt bytes order (0 + 2) 2 = .ok classicVersion :=
        unsignedAt_of_holds rest.left (by decide)
      have first : unsignedAt bytes order (0 + 4) 4 = .ok 8 :=
        unsignedAt_of_holds last.right (by decide)
      rw [version, first]
      rfl
  | true =>
      have version : unsignedAt bytes order (0 + 2) 2 = .ok bigVersion :=
        unsignedAt_of_holds rest.left (by decide)
      have last : bytes.Holds ((order.unsignedBytes 2 8 ++ order.unsignedBytes 2 0) ++
          order.unsignedBytes 8 16) (0 + 4) := last
      have offsetSize : unsignedAt bytes order (0 + 4) 2 = .ok 8 :=
        unsignedAt_of_holds last.left.left (by decide)
      have after := last.left.right
      rw [ByteOrder.unsignedBytes_length] at after
      have reserved : unsignedAt bytes order (0 + 6) 2 = .ok 0 :=
        unsignedAt_of_holds after (by decide)
      have after := last.right
      rw [List.length_append, ByteOrder.unsignedBytes_length, ByteOrder.unsignedBytes_length] at after
      have first : unsignedAt bytes order (0 + 8) 8 = .ok 16 :=
        unsignedAt_of_holds after (by decide)
      rw [version, offsetSize, reserved, first]
      rfl

end ImageMetadata.Tiff
