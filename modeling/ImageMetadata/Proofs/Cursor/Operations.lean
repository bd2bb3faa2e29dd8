import ImageMetadata.Proofs.Keeps
import Mathlib.Data.List.Induction

/-!
# Operations on a cursor

A cursor is used by a run of operations with any arguments, each of which may fail. One that fails
changes nothing; what one does that succeeds is the relation `Does`. By induction over the run the
position stays within the byte string, and a marked position is one that was held when it was marked
and was not returned to since.
-/

namespace ImageMetadata.Cursor

/-- The width of a stored integer. -/
inductive Width where
  | one
  | two
  | four
  | eight

/-- The number of bytes. -/
def Width.size : Width → Nat
  | one => 1
  | two => 2
  | four => 4
  | eight => 8

/-- What is asked of a cursor. -/
inductive Operation where
  | size
  | describe
  | tell
  | remaining
  | atEnd
  | isMarked
  | seek (position : Int)
  | skip (count : Int)
  | read (count : Int)
  | peek (position count : Int)
  | unsigned (width : Width)
  | signed (width : Width)
  | field (width : Int)
  | code
  | setOrder (sign : Literal)
  | setMark
  | returnToMark

/-- What a cursor answers. -/
inductive Answer where
  | nothing
  | flag (b : Bool)
  | number (n : Int)
  | text (s : String)
  | bytes (b : Bytes)

/-- Asks a cursor. -/
def Operation.perform : Operation → Reading Answer
  | size => do return .number (← get).size
  | describe => do return .text (← get).describe
  | tell => do return .number (← get).position
  | remaining => do return .number (← get).remaining
  | atEnd => do return .flag (← get).atEnd
  | isMarked => do return .flag (← get).mark.isSome
  | seek position => do
    Cursor.seek position
    return .nothing
  | skip count => do
    Cursor.skip count
    return .nothing
  | read count => do return .bytes (← Cursor.read count)
  | peek position count => do return .bytes (← Cursor.peek position count)
  | unsigned width => do return .number (← Cursor.unsigned width.size)
  | signed width => do return .number (← Cursor.signed width.size)
  | field width => do return .number (← Cursor.field width)
  | code => do return .bytes (← Cursor.code)
  | setOrder sign => do
    Cursor.setOrder sign
    return .nothing
  | setMark => do
    Cursor.setMark
    return .nothing
  | returnToMark => do
    Cursor.returnToMark
    return .nothing

/-- What an operation that succeeds answers, and the cursor that it leaves. -/
inductive Does (c : Cursor) : Operation → Answer → Cursor → Prop where
  | size : Does c .size (.number c.bytes.length) c
  | describe : Does c .describe (.text c.describe) c
  | tell : Does c .tell (.number c.position) c
  | remaining : Does c .remaining (.number (c.bytes.length - c.position : Nat)) c
  | atEnd : Does c .atEnd (.flag (c.bytes.length ≤ c.position)) c
  | isMarked : Does c .isMarked (.flag c.mark.isSome) c
  | seek {position : Nat} (inside : position ≤ c.bytes.length) :
      Does c (.seek position) .nothing { c with position := position }
  | skip {count : Nat} (inside : c.position + count ≤ c.bytes.length) :
      Does c (.skip count) .nothing { c with position := c.position + count }
  | read {count : Nat} (inside : c.position + count ≤ c.bytes.length) :
      Does c (.read count) (.bytes (c.bytes.slice c.position count))
        { c with position := c.position + count }
  | peek {position count : Nat} (inside : position + count ≤ c.bytes.length) :
      Does c (.peek position count) (.bytes (c.bytes.slice position count)) c
  | unsigned {width : Width} (inside : c.position + width.size ≤ c.bytes.length) :
      Does c (.unsigned width) (.number (c.order.unsigned (c.bytes.slice c.position width.size)))
        { c with position := c.position + width.size }
  | signed {width : Width} (inside : c.position + width.size ≤ c.bytes.length) :
      Does c (.signed width) (.number (c.order.signed (c.bytes.slice c.position width.size)))
        { c with position := c.position + width.size }
  | emptyField : Does c (.field 0) (.number 0) c
  | field {width : Width} (inside : c.position + width.size ≤ c.bytes.length) :
      Does c (.field width.size) (.number (c.order.unsigned (c.bytes.slice c.position width.size)))
        { c with position := c.position + width.size }
  | code (inside : c.position + 4 ≤ c.bytes.length) :
      Does c .code (.bytes (c.bytes.slice c.position 4)) { c with position := c.position + 4 }
  | setOrder (order : ByteOrder) :
      Does c (.setOrder (.text order.sign)) .nothing { c with order := order }
  | setMark (free : c.mark = none) : Does c .setMark .nothing { c with mark := some c.position }
  | returnToMark {position : Nat} (marked : c.mark = some position) :
      Does c .returnToMark .nothing { c with position := position, mark := none }

/-- The problem is of a kind that a cursor has. -/
def Refusal (p : Problem) : Prop :=
  p.kind = .truncated ∨ p.kind = .value ∨ p.kind = .runtime

/-- The reading fails and leaves the cursor as it is. -/
def Refuses {α : Type} (c : Cursor) (x : Reading α) : Prop :=
  ∃ p, x.run c = .error p c ∧ Refusal p

variable {α β : Type} {c d : Cursor}

namespace Refuses

theorem bind {x : Reading α} (h : Refuses c x) (f : α → Reading β) : Refuses c (x >>= f) := by
  obtain ⟨p, run, kind⟩ := h
  exact ⟨p, by rw [EStateM.run_bind, run], kind⟩

/-- The first part succeeds without a change. -/
theorem of_ok_bind {x : Reading α} {f : α → Reading β} {a : α} (first : x.run c = .ok a c)
    (h : Refuses c (f a)) : Refuses c (x >>= f) := by
  obtain ⟨p, run, kind⟩ := h
  exact ⟨p, by rw [run_bind_of_ok f first, run], kind⟩

theorem get_bind {f : Cursor → Reading α} (h : Refuses c (f c)) : Refuses c (get >>= f) :=
  of_ok_bind (EStateM.run_get c) h

theorem seek {position : Int} (outside : ¬ (0 ≤ position ∧ position ≤ c.size)) :
    Refuses c (seek position) := by
  refine get_bind ?_
  rw [if_neg outside]
  exact ⟨_, rfl, .inl rfl⟩

theorem peek {position count : Int} (outside : ¬ c.covers position count = true) :
    Refuses c (peek position count) := by
  refine get_bind ?_
  rw [if_neg outside]
  exact ⟨_, rfl, .inl rfl⟩

theorem read {count : Int} (outside : ¬ c.covers c.position count = true) :
    Refuses c (read count) := get_bind ((peek outside).bind _)

theorem skip {count : Int} (positive : 0 ≤ count) (outside : ¬ c.covers c.position count = true) :
    Refuses c (skip count) := by
  refine of_ok_bind (run_require _ (decide_eq_true positive) c) (get_bind ?_)
  rw [if_neg outside]
  exact ⟨_, rfl, .inl rfl⟩

theorem skip_of_neg {count : Int} (negative : ¬ 0 ≤ count) : Refuses c (Cursor.skip count) := by
  refine bind ?_ _
  rw [decide_eq_false negative]
  exact ⟨_, rfl, .inr (.inl rfl)⟩

theorem read_of_lt {count : Nat} (outside : c.bytes.length < c.position + count) :
    Refuses c (Cursor.read count) := ⟨_, run_read_of_lt outside, .inl rfl⟩

theorem unsigned {width : Nat} (outside : c.bytes.length < c.position + width) :
    Refuses c (unsigned width) := get_bind ((read_of_lt outside).bind _)

theorem signed {width : Nat} (outside : c.bytes.length < c.position + width) :
    Refuses c (signed width) := get_bind ((read_of_lt outside).bind _)

end Refuses

theorem run_signed {width : Nat} (h : c.position + width ≤ c.size) :
    (signed width).run c = .ok (c.order.signed (c.bytes.slice c.position width))
      { c with position := c.position + width } := by
  unfold signed
  rw [run_bind_of_ok _ (EStateM.run_get c), run_bind_of_ok _ (run_read h)]
  rfl

/-- An integer field is empty, has the size of a width, or is refused. -/
theorem field_cases (width : Int) :
    width = 0 ∨ (∃ w : Width, width = w.size) ∨
      ∀ c : Cursor, Refuses c (field width) := by
  by_cases empty : width = 0
  · exact .inl empty
  by_cases known : width = 1 ∨ width = 2 ∨ width = 4 ∨ width = 8
  · refine .inr (.inl ?_)
    rcases known with rfl | rfl | rfl | rfl
    · exact ⟨.one, rfl⟩
    · exact ⟨.two, rfl⟩
    · exact ⟨.four, rfl⟩
    · exact ⟨.eight, rfl⟩
  · refine .inr (.inr fun c => ?_)
    unfold field
    rw [if_neg empty, if_neg known]
    exact ⟨_, rfl, .inr (.inl rfl)⟩

theorem field_size (width : Width) : field width.size = unsigned width.size := by
  cases width <;> rfl

/-- The text is the sign of a byte order or of none. -/
theorem ofSign?_cases (s : String) :
    (∃ order : ByteOrder, s = order.sign) ∨ ByteOrder.ofSign? s = none := by
  unfold ByteOrder.ofSign?
  split
  · rename_i same
    exact .inl ⟨.little, same⟩
  split
  · rename_i same
    exact .inl ⟨.big, same⟩
  · exact .inr rfl

/-- Some bytes from a position on exist, or reading them is refused. -/
theorem covers_cases (c : Cursor) (position count : Int) :
    (∃ p n : Nat, position = p ∧ count = n ∧ p + n ≤ c.bytes.length) ∨
      ¬ c.covers position count = true := by
  by_cases covered : c.covers position count = true
  · obtain ⟨low, size, high⟩ := covers_iff.1 covered
    obtain ⟨p, rfl⟩ := Int.eq_ofNat_of_zero_le low
    obtain ⟨n, rfl⟩ := Int.eq_ofNat_of_zero_le size
    exact .inl ⟨p, n, rfl, rfl, by unfold Cursor.size at high; omega⟩
  · exact .inr covered

namespace Operation

theorem run_of_does {op : Operation} {a : Answer} (h : Does c op a d) :
    op.perform.run c = .ok a d := by
  cases h with
  | size | describe | tell | remaining | atEnd | isMarked | emptyField => rfl
  | seek inside => exact run_bind_of_ok _ (run_seek inside)
  | skip inside => exact run_bind_of_ok _ (run_skip inside)
  | read inside => exact run_bind_of_ok _ (run_read inside)
  | peek inside => exact run_bind_of_ok _ (run_peek inside)
  | unsigned inside => exact run_bind_of_ok _ (run_unsigned inside)
  | signed inside => exact run_bind_of_ok _ (run_signed inside)
  | @field width inside =>
      rw [perform, field_size]
      exact run_bind_of_ok _ (run_unsigned inside)
  | code inside => exact run_bind_of_ok _ (run_read inside)
  | setOrder order => cases order <;> rfl
  | setMark free => exact run_bind_of_ok _ (run_setMark free)
  | returnToMark marked => exact run_bind_of_ok _ (run_returnToMark marked)

/-- Every operation either does what it is for, or fails and changes nothing. -/
theorem does_or_refuses (op : Operation) (c : Cursor) :
    (∃ a d, Does c op a d) ∨ Refuses c op.perform := by
  cases op with
  | size => exact .inl ⟨_, _, .size⟩
  | describe => exact .inl ⟨_, _, .describe⟩
  | tell => exact .inl ⟨_, _, .tell⟩
  | remaining => exact .inl ⟨_, _, .remaining⟩
  | atEnd => exact .inl ⟨_, _, .atEnd⟩
  | isMarked => exact .inl ⟨_, _, .isMarked⟩
  | seek position =>
      by_cases inside : 0 ≤ position ∧ position ≤ c.size
      · obtain ⟨p, rfl⟩ := Int.eq_ofNat_of_zero_le inside.1
        exact .inl ⟨_, _, .seek (Int.ofNat_le.1 inside.2)⟩
      · exact .inr ((Refuses.seek inside).bind _)
  | skip count =>
      by_cases positive : 0 ≤ count
      · rcases c.covers_cases c.position count with ⟨p, n, same, rfl, inside⟩ | outside
        · obtain rfl : c.position = p := Int.ofNat_inj.1 same
          exact .inl ⟨_, _, .skip inside⟩
        · exact .inr ((Refuses.skip positive outside).bind _)
      · exact .inr ((Refuses.skip_of_neg positive).bind _)
  | read count =>
      rcases c.covers_cases c.position count with ⟨p, n, same, rfl, inside⟩ | outside
      · obtain rfl : c.position = p := Int.ofNat_inj.1 same
        exact .inl ⟨_, _, .read inside⟩
      · exact .inr ((Refuses.read outside).bind _)
  | peek position count =>
      rcases c.covers_cases position count with ⟨p, n, rfl, rfl, inside⟩ | outside
      · exact .inl ⟨_, _, .peek inside⟩
      · exact .inr ((Refuses.peek outside).bind _)
  | unsigned width =>
      rcases Nat.lt_or_ge c.bytes.length (c.position + width.size) with outside | inside
      · exact .inr ((Refuses.unsigned outside).bind _)
      · exact .inl ⟨_, _, .unsigned inside⟩
  | signed width =>
      rcases Nat.lt_or_ge c.bytes.length (c.position + width.size) with outside | inside
      · exact .inr ((Refuses.signed outside).bind _)
      · exact .inl ⟨_, _, .signed inside⟩
  | field width =>
      rcases field_cases width with rfl | ⟨w, rfl⟩ | refused
      · exact .inl ⟨_, _, .emptyField⟩
      · rcases Nat.lt_or_ge c.bytes.length (c.position + w.size) with outside | inside
        · refine .inr (Refuses.bind ?_ _)
          rw [field_size]
          exact Refuses.unsigned outside
        · exact .inl ⟨_, _, .field inside⟩
      · exact .inr ((refused c).bind _)
  | code =>
      rcases Nat.lt_or_ge c.bytes.length (c.position + 4) with outside | inside
      · exact .inr ((Refuses.read_of_lt outside).bind _)
      · exact .inl ⟨_, _, .code inside⟩
  | setOrder sign =>
      have refused (x : Literal) : Refuses c (throw (.byteOrderSign x) : Reading Unit) :=
        ⟨_, rfl, .inr (.inl rfl)⟩
      cases sign with
      | text s =>
          rcases ofSign?_cases s with ⟨order, rfl⟩ | unknown
          · exact .inl ⟨_, _, .setOrder order⟩
          · refine .inr (Refuses.bind ?_ _)
            simp only [Cursor.setOrder, unknown]
            exact refused _
      | null | bool | integer | real | list | object => exact .inr ((refused _).bind _)
  | setMark =>
      cases marked : c.mark with
      | none => exact .inl ⟨_, _, .setMark marked⟩
      | some position =>
          refine .inr (Refuses.bind (.get_bind ?_) _)
          rw [marked]
          exact ⟨_, rfl, .inr (.inr rfl)⟩
  | returnToMark =>
      cases marked : c.mark with
      | some position => exact .inl ⟨_, _, .returnToMark marked⟩
      | none =>
          refine .inr (Refuses.bind (.get_bind ?_) _)
          rw [marked]
          exact ⟨_, rfl, .inr (.inr rfl)⟩

/-- An operation succeeds with exactly what it is for. -/
theorem run_eq_ok_iff {op : Operation} {a : Answer} :
    op.perform.run c = .ok a d ↔ Does c op a d := by
  refine ⟨fun run => ?_, run_of_does⟩
  rcases op.does_or_refuses c with ⟨a', d', does⟩ | ⟨p, failed, _⟩
  · rw [run_of_does does] at run
    cases run
    exact does
  · rw [failed] at run
    cases run

/-- An operation that fails changes nothing. -/
theorem of_run_eq_error {op : Operation} {p : Problem} (run : op.perform.run c = .error p d) :
    d = c ∧ Refusal p := by
  rcases op.does_or_refuses c with ⟨a', d', does⟩ | ⟨q, failed, kind⟩
  · rw [run_of_does does] at run
    cases run
  · rw [failed] at run
    cases run
    exact ⟨rfl, kind⟩

theorem final_of_does {op : Operation} {a : Answer} (h : Does c op a d) :
    op.perform.final c = d := by
  rw [Reading.final, run_of_does h]

theorem final_of_refuses {op : Operation} (h : Refuses c op.perform) : op.perform.final c = c := by
  obtain ⟨p, failed, _⟩ := h
  rw [Reading.final, failed]

/-- No operation changes the byte string. -/
theorem bytes_final (op : Operation) (c : Cursor) : (op.perform.final c).bytes = c.bytes := by
  rcases op.does_or_refuses c with ⟨a, d, does⟩ | refused
  · rw [final_of_does does]
    cases does <;> rfl
  · rw [final_of_refuses refused]

/-- From positions within the byte string no operation leads outside. -/
theorem position_final_le (op : Operation) (inside : c.position ≤ c.bytes.length)
    (marks : ∀ m, c.mark = some m → m ≤ c.bytes.length) :
    (op.perform.final c).position ≤ c.bytes.length := by
  rcases op.does_or_refuses c with ⟨a, d, does⟩ | refused
  · rw [final_of_does does]
    cases does with
    | seek bound | skip bound | read bound | unsigned bound | signed bound | field bound
    | code bound => exact bound
    | returnToMark marked => exact marks _ marked
    | _ => exact inside
  · rw [final_of_refuses refused]
    exact inside

/-- A mark was set by the operation, or was there and was not asked for. -/
theorem mark_final (op : Operation) {m : Nat} (marked : (op.perform.final c).mark = some m) :
    (op = .setMark ∧ c.mark = none ∧ c.position = m) ∨ (op ≠ .returnToMark ∧ c.mark = some m) := by
  rcases op.does_or_refuses c with ⟨a, d, does⟩ | refused
  · rw [final_of_does does] at marked
    cases does with
    | setMark free => exact .inl ⟨rfl, free, Option.some.inj marked⟩
    | returnToMark => cases marked
    | _ => exact .inr ⟨nofun, marked⟩
  · have same := final_of_refuses refused
    rw [same] at marked
    refine .inr ⟨?_, marked⟩
    rintro rfl
    -- A marked cursor does not refuse to return.
    have back := congrArg Cursor.mark (final_of_does (.returnToMark marked))
    rw [same, marked] at back
    cases back

end Operation

/-- The cursor after some operations, whether or not they fail. -/
def after (c : Cursor) (ops : List Operation) : Cursor :=
  ops.foldl (fun c op => op.perform.final c) c

theorem after_concat (c : Cursor) (ops : List Operation) (op : Operation) :
    after c (ops ++ [op]) = op.perform.final (after c ops) := by
  rw [after, List.foldl_append]
  rfl

theorem bytes_after (c : Cursor) (ops : List Operation) : (after c ops).bytes = c.bytes := by
  induction ops generalizing c with
  | nil => rfl
  | cons op rest ih => exact (ih (op.perform.final c)).trans (op.bytes_final c)

/-- A position is held before the first operation or between two of them, and is marked there; no
later operation returns to it. -/
def IsMarked (start : Cursor) (ops : List Operation) (m : Nat) : Prop :=
  ∃ before later, ops = before ++ .setMark :: later ∧ (after start before).mark = none ∧
    (after start before).position = m ∧ .returnToMark ∉ later

/-- What the operations of a run keep up. -/
structure Keeps (start : Cursor) (ops : List Operation) : Prop where
  position_le : (after start ops).position ≤ start.bytes.length
  mark_le (m : Nat) : (after start ops).mark = some m → m ≤ start.bytes.length
  isMarked (m : Nat) : (after start ops).mark = some m → IsMarked start ops m

/-- One more operation. -/
theorem Keeps.concat {start : Cursor} {ops : List Operation} (h : Keeps start ops)
    (op : Operation) : Keeps start (ops ++ [op]) := by
  have same := bytes_after start ops
  constructor
  · rw [after_concat, ← same]
    apply op.position_final_le
    · rw [same]
      exact h.position_le
    · rw [same]
      exact h.mark_le
  · intro m marked
    rw [after_concat] at marked
    rcases op.mark_final marked with ⟨_, _, rfl⟩ | ⟨_, old⟩
    · exact h.position_le
    · exact h.mark_le m old
  · intro m marked
    rw [after_concat] at marked
    rcases op.mark_final marked with ⟨rfl, free, held⟩ | ⟨other, old⟩
    · exact ⟨ops, [], rfl, free, held, List.not_mem_nil⟩
    · obtain ⟨before, later, rfl, free, held, kept⟩ := h.isMarked m old
      refine ⟨before, later ++ [op], by simp, free, held, ?_⟩
      rw [List.mem_append, List.mem_singleton]
      rintro (returned | rfl)
      · exact kept returned
      · exact other rfl

theorem keeps_after {start : Cursor} (inside : start.position ≤ start.bytes.length)
    (free : start.mark = none) (ops : List Operation) : Keeps start ops := by
  induction ops using List.reverseRecOn with
  | nil =>
      refine ⟨inside, fun m marked => ?_, fun m marked => ?_⟩
      · cases free.symm.trans marked
      · cases free.symm.trans marked
  | append_singleton ops op ih => exact ih.concat op

/-- A cursor is made at a position within the byte string. -/
theorem eq_of_startAt {bytes : Bytes} {order : ByteOrder} {position : Int} {c : Cursor}
    (h : startAt bytes order position = .ok c) :
    ∃ p : Nat, position = p ∧ p ≤ bytes.length ∧ c = ⟨bytes, order, p, none⟩ := by
  by_cases inside : 0 ≤ position ∧ position ≤ bytes.length
  · obtain ⟨p, rfl⟩ := Int.eq_ofNat_of_zero_le inside.1
    have bound : p ≤ bytes.length := Int.ofNat_le.1 inside.2
    have sought : (Cursor.seek p).run (ofBytes bytes order) = .ok () ⟨bytes, order, p, none⟩ :=
      run_seek bound
    rw [startAt, sought] at h
    cases h
    exact ⟨p, rfl, bound, rfl⟩
  · obtain ⟨_, refused, _⟩ := Refuses.seek (c := ofBytes bytes order) inside
    rw [startAt, refused] at h
    cases h

/-- The cursor that some operations lead to is safe. -/
structure IsSafe (bytes : Bytes) (start : Cursor) (ops : List Operation) (c : Cursor) : Prop where
  bytes_eq : c.bytes = bytes
  position_le : c.position ≤ bytes.length
  /-- There is one mark at most, a position held when it was marked and not returned to since. -/
  isMarked (m : Nat) : c.mark = some m → IsMarked start ops m
  /-- The next operation succeeds exactly with what it is for. -/
  succeeds (op : Operation) (a : Answer) (d : Cursor) :
    op.perform.run c = .ok a d ↔ Does c op a d
  /-- Where it fails, nothing changes. -/
  fails (op : Operation) (p : Problem) (d : Cursor) :
    op.perform.run c = .error p d → d = c ∧ Refusal p

/-- Whatever is asked of a cursor, in any order and with any arguments, it stays safe. -/
theorem isSafe_after {bytes : Bytes} {order : ByteOrder} {position : Int} {start : Cursor}
    (made : startAt bytes order position = .ok start) (ops : List Operation) :
    IsSafe bytes start ops (after start ops) := by
  obtain ⟨p, rfl, inside, rfl⟩ := eq_of_startAt made
  have keeps : Keeps ⟨bytes, order, p, none⟩ ops := keeps_after inside rfl ops
  exact {
    bytes_eq := bytes_after _ ops
    position_le := keeps.position_le
    isMarked := keeps.isMarked
    succeeds := fun op _ _ => op.run_eq_ok_iff
    fails := fun op _ _ => op.of_run_eq_error }

/-- A run with a position that is marked, bytes that are read, a read past the end that fails, and
the return to the mark. -/
theorem isSafe_small :
    startAt [1, 2, 3, 4] .big 1 = .ok ⟨[1, 2, 3, 4], .big, 1, none⟩ ∧
      IsSafe [1, 2, 3, 4] ⟨[1, 2, 3, 4], .big, 1, none⟩
        [.setMark, .unsigned .two, .read 9, .returnToMark] ⟨[1, 2, 3, 4], .big, 1, none⟩ := by
  have made : startAt [1, 2, 3, 4] .big 1 = .ok ⟨[1, 2, 3, 4], .big, 1, none⟩ := rfl
  exact ⟨made, isSafe_after made [.setMark, .unsigned .two, .read 9, .returnToMark]⟩

end ImageMetadata.Cursor
