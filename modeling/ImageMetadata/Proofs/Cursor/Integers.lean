import ImageMetadata.Proofs.Cursor.Operations
import ImageMetadata.Proofs.Holds
import ImageMetadata.Proofs.Integers

/-!
# Integers in a row

Integers of mixed widths, signs and byte orders are written one after the other. The operations that
match them read them back and reach the end of the bytes. If the bytes end before, then the integers
before the cut are read back, and the read of the first one that is not complete fails at its start.
-/

namespace ImageMetadata.Cursor

/-- An integer that is in the range of the field that stores it. -/
structure StoredInteger where
  width : Width
  sign : Signedness
  order : ByteOrder
  value : Int
  fits : sign.Fits width.size value

namespace StoredInteger

def bytes (i : StoredInteger) : Bytes := i.sign.write i.order i.width.size i.value

@[simp] theorem length_bytes (i : StoredInteger) : i.bytes.length = i.width.size :=
  i.sign.length_write i.order i.width.size i.value

/-- The operations that read the integer. -/
inductive IsReadBy (i : StoredInteger) : Operation → Prop where
  | unsigned (positive : i.sign = .unsigned) : IsReadBy i (.unsigned i.width)
  | field (positive : i.sign = .unsigned) : IsReadBy i (.field i.width.size)
  | signed (signed : i.sign = .signed) : IsReadBy i (.signed i.width)

variable {i : StoredInteger} {op : Operation} {c : Cursor}

theorem unsigned_bytes (h : i.sign = .unsigned) : (i.order.unsigned i.bytes : Int) = i.value := by
  have back := i.sign.read_write i.order i.fits
  rw [h] at back
  rw [bytes, h]
  exact back

theorem signed_bytes (h : i.sign = .signed) : i.order.signed i.bytes = i.value := by
  have back := i.sign.read_write i.order i.fits
  rw [h] at back
  rw [bytes, h]
  exact back

/-- An integer that stands at the position is read by every operation that matches it. -/
theorem IsReadBy.run (h : i.IsReadBy op) (order : c.order = i.order)
    (there : c.bytes.Holds i.bytes c.position) :
    op.perform.run c = .ok (.number i.value) { c with position := c.position + i.width.size } := by
  have inside := there.add_length_le
  have slice := there.slice_eq
  rw [length_bytes] at inside slice
  cases h with
  | unsigned positive =>
      rw [← unsigned_bytes positive, ← order, ← slice]
      exact Operation.run_of_does (.unsigned inside)
  | field positive =>
      rw [← unsigned_bytes positive, ← order, ← slice]
      exact Operation.run_of_does (.field inside)
  | signed negative =>
      rw [← signed_bytes negative, ← order, ← slice]
      exact Operation.run_of_does (.signed inside)

/-- An integer that is not complete is not read. -/
theorem IsReadBy.run_of_lt (h : i.IsReadBy op) (short : c.size < c.position + i.width.size) :
    op.perform.run c = .error (.readOutside i.width.size c.position c.size) c := by
  have failed {α β : Type} (f : Bytes → Reading α) (g : α → Reading β) :
      ((do f (← read i.width.size) : Reading α) >>= g).run c =
        .error (.readOutside i.width.size c.position c.size) c := by
    rw [EStateM.run_bind, EStateM.run_bind, run_read_of_lt short]
  cases h with
  | unsigned => exact failed _ _
  | field =>
      rw [Operation.perform, field_size]
      exact failed _ _
  | signed => exact failed _ _

end StoredInteger

/-- The bytes of integers in a row. -/
def encode (is : List StoredInteger) : Bytes := is.flatMap StoredInteger.bytes

/-- What is asked of a cursor, and what it has to answer. -/
abbrev Exchange := Operation × Answer

/-- Operations that match integers in a row, where a cursor has a byte order: each integer is read
in its own byte order. In between the order may be set, and empty fields may be read. -/
inductive Matches : ByteOrder → List StoredInteger → List Exchange → Prop where
  | done {order : ByteOrder} : Matches order [] []
  | empty {order : ByteOrder} {is : List StoredInteger} {rest : List Exchange}
      (later : Matches order is rest) : Matches order is ((.field 0, .number 0) :: rest)
  | setOrder {order : ByteOrder} (other : ByteOrder) {is : List StoredInteger}
      {rest : List Exchange} (later : Matches other is rest) :
      Matches order is ((.setOrder (.text other.sign), .nothing) :: rest)
  | read {i : StoredInteger} {is : List StoredInteger} {op : Operation} {rest : List Exchange}
      (reads : i.IsReadBy op) (later : Matches i.order is rest) :
      Matches i.order (i :: is) ((op, .number i.value) :: rest)

/-- A cursor answers as it has to, and is left as another one. -/
inductive Performs : Cursor → List Exchange → Cursor → Prop where
  | done {c : Cursor} : Performs c [] c
  | more {c d e : Cursor} {op : Operation} {a : Answer} {rest : List Exchange}
      (run : op.perform.run c = .ok a d) (later : Performs d rest e) :
      Performs c ((op, a) :: rest) e

variable {order : ByteOrder} {is : List StoredInteger} {exchanges : List Exchange} {c : Cursor}

/-- There are operations that match any integers, whatever byte order a cursor has. -/
theorem exists_matches (order : ByteOrder) (is : List StoredInteger) :
    ∃ exchanges, Matches order is exchanges := by
  induction is generalizing order with
  | nil => exact ⟨[], .done⟩
  | cons i is ih =>
      obtain ⟨later, matched⟩ := ih i.order
      have reads : ∃ op, i.IsReadBy op := by
        cases sign : i.sign with
        | unsigned => exact ⟨_, .unsigned sign⟩
        | signed => exact ⟨_, .signed sign⟩
      obtain ⟨op, reads⟩ := reads
      exact ⟨_, .setOrder i.order (.read reads matched)⟩

theorem encode_cons (i : StoredInteger) (is : List StoredInteger) :
    encode (i :: is) = i.bytes ++ encode is := List.flatMap_cons

theorem encode_append (is js : List StoredInteger) :
    encode (is ++ js) = encode is ++ encode js := List.flatMap_append

/-- An empty field stores zero and takes no room. -/
theorem run_emptyField (c : Cursor) : (Operation.field 0).perform.run c = .ok (.number 0) c :=
  Operation.run_of_does .emptyField

/-- Integers that stand at the position are read back, and the cursor moves behind them. -/
theorem Matches.performs (h : Matches order is exchanges) (start : c.order = order)
    (there : c.bytes.Holds (encode is) c.position) :
    ∃ d, Performs c exchanges d ∧ d.bytes = c.bytes ∧
      d.position = c.position + (encode is).length := by
  induction h generalizing c with
  | done => exact ⟨c, .done, rfl, rfl⟩
  | empty _ ih =>
      obtain ⟨d, later, kept, moved⟩ := ih start there
      exact ⟨d, .more (run_emptyField c) later, kept, moved⟩
  | setOrder other _ ih =>
      obtain ⟨d, later, kept, moved⟩ := @ih { c with order := other } rfl there
      exact ⟨d, .more (Operation.run_of_does (.setOrder other)) later, kept, moved⟩
  | @read i is op rest reads _ ih =>
      rw [encode_cons] at there
      have behind := there.right
      rw [StoredInteger.length_bytes] at behind
      obtain ⟨d, later, kept, moved⟩ :=
        @ih { c with position := c.position + i.width.size } start behind
      refine ⟨d, .more (reads.run start there.left) later, kept, ?_⟩
      rw [moved, encode_cons, List.length_append, StoredInteger.length_bytes, Nat.add_assoc]

/-- The operations before the read of an integer match the integers before it. -/
theorem Matches.exists_read {front back : List StoredInteger} {i : StoredInteger}
    (h : Matches order (front ++ i :: back) exchanges) :
    ∃ before op after, exchanges = before ++ (op, .number i.value) :: after ∧
      Matches order front before ∧ i.IsReadBy op := by
  generalize split : front ++ i :: back = is at h
  induction h generalizing front with
  | done => cases front <;> cases split
  | empty _ ih =>
      obtain ⟨before, op, after, rfl, earlier, reads⟩ := ih split
      exact ⟨_ :: before, op, after, rfl, .empty earlier, reads⟩
  | setOrder other _ ih =>
      obtain ⟨before, op, after, rfl, earlier, reads⟩ := ih split
      exact ⟨_ :: before, op, after, rfl, .setOrder other earlier, reads⟩
  | @read j is op rest reads _ ih =>
      cases front with
      | nil =>
          obtain ⟨rfl, _⟩ := List.cons.inj split
          exact ⟨[], op, rest, rfl, .done, reads⟩
      | cons b front =>
          obtain ⟨rfl, others⟩ := List.cons.inj split
          obtain ⟨before, op', after, rfl, earlier, found⟩ := ih others
          exact ⟨_ :: before, op', after, rfl, .read reads earlier, found⟩

/-- A number of bytes that is less than all integers take ends inside one of them, or right before
it. -/
theorem exists_cut {k : Nat} (h : k < (encode is).length) :
    ∃ front i back, is = front ++ i :: back ∧ (encode front).length ≤ k ∧
      k < (encode front).length + i.width.size := by
  induction is generalizing k with
  | nil => cases h
  | cons i is ih =>
      rw [encode_cons, List.length_append, StoredInteger.length_bytes] at h
      by_cases inside : k < i.width.size
      · exact ⟨[], i, is, rfl, Nat.zero_le k, by simpa [encode] using inside⟩
      · obtain ⟨front, j, back, rfl, low, high⟩ := ih (k := k - i.width.size) (by omega)
        refine ⟨i :: front, j, back, rfl, ?_, ?_⟩
        · rw [encode_cons, List.length_append, StoredInteger.length_bytes]
          omega
        · rw [encode_cons, List.length_append, StoredInteger.length_bytes]
          omega

/-- Operations read integers back. -/
structure ReadsBack (order : ByteOrder) (is : List StoredInteger) (exchanges : List Exchange) :
    Prop where
  /-- All integers are read, and then nothing is left. -/
  whole : ∃ d, Performs (ofBytes (encode is) order) exchanges d ∧ d.atEnd = true
  /-- If the bytes are cut off, the integers before the cut are read, and the first one that is not
  complete is refused where it starts. -/
  cut (k : Nat) : k < (encode is).length →
    ∃ front i back before op after d, is = front ++ i :: back ∧
      exchanges = before ++ (op, .number i.value) :: after ∧
      (encode front).length ≤ k ∧ k < (encode front).length + i.width.size ∧
      Matches order front before ∧ i.IsReadBy op ∧
      Performs (ofBytes ((encode is).take k) order) before d ∧
      d.position = (encode front).length ∧
      ∃ p, op.perform.run d = .error p d ∧ p.kind = .truncated
  /-- An empty field can be read anywhere, and that changes nothing. -/
  empty (c : Cursor) : (Operation.field 0).perform.run c = .ok (.number 0) c

/-- Whatever operations match integers in a row, they read them back. -/
theorem readsBack_of_matches (h : Matches order is exchanges) : ReadsBack order is exchanges where
  whole := by
    obtain ⟨d, performs, kept, moved⟩ := h.performs (c := ofBytes (encode is) order) rfl
      ⟨[], [], by simp [ofBytes], rfl⟩
    refine ⟨d, performs, decide_eq_true ?_⟩
    rw [Cursor.size, kept, moved]
    exact Nat.le_add_left _ _
  cut k short := by
    obtain ⟨front, i, back, rfl, low, high⟩ := exists_cut short
    obtain ⟨before, op, after, rfl, earlier, reads⟩ := h.exists_read
    have cut : (encode (front ++ i :: back)).take k =
        encode front ++ (encode (i :: back)).take (k - (encode front).length) := by
      rw [encode_append, List.take_append, List.take_of_length_le low]
    obtain ⟨d, performs, kept, moved⟩ := earlier.performs
      (c := ofBytes ((encode (front ++ i :: back)).take k) order) rfl ⟨[], _, cut, rfl⟩
    have position : d.position = (encode front).length := by
      rw [moved]
      exact Nat.zero_add _
    have size : d.size = k := by
      rw [Cursor.size, kept]
      exact List.length_take_of_le (Nat.le_of_lt short)
    have failed := reads.run_of_lt (c := d) (by rw [size, position]; exact high)
    exact ⟨front, i, back, before, op, after, d, rfl, rfl, low, high, earlier, reads, performs,
      position, _, failed, rfl⟩
  empty := run_emptyField

namespace StoredInteger

/-- The least integer of one byte. -/
def least : StoredInteger := ⟨.one, .signed, .big, -128, by decide⟩

/-- An integer that is another one in the other byte order. -/
def reversible : StoredInteger := ⟨.two, .unsigned, .little, 258, by decide⟩

/-- The greatest integer of eight bytes. -/
def greatest : StoredInteger := ⟨.eight, .signed, .big, 9223372036854775807, by decide⟩

end StoredInteger

/-- Three integers, with changes of the byte order and an empty field in between. -/
theorem readsBack_mixed :
    ReadsBack .big [.least, .reversible, .greatest]
      [(.signed .one, .number (-128)), (.setOrder (.text "<"), .nothing), (.field 0, .number 0),
        (.field 2, .number 258), (.setOrder (.text ">"), .nothing),
        (.signed .eight, .number 9223372036854775807)] := by
  apply readsBack_of_matches
  apply Matches.read (i := .least) (.signed rfl)
  apply Matches.setOrder .little
  apply Matches.empty
  apply Matches.read (i := .reversible) (.field rfl)
  apply Matches.setOrder .big
  exact Matches.read (i := .greatest) (.signed rfl) .done

end ImageMetadata.Cursor
