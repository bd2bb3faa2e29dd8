import ImageMetadata.Problem

/-!
# Cursors

A cursor reads a byte string in sequence, in one byte order. Its position never passes the end,
since each operation checks its arguments before it changes anything. One position can be marked and
returned to.
-/

namespace ImageMetadata

/-- A place in a byte string, with the order in which integers are read. -/
structure Cursor where
  bytes : Bytes
  order : ByteOrder
  position : Nat
  mark : Option Nat
  deriving DecidableEq

/-- A computation that moves a cursor; where it fails the cursor stays as it is then. -/
abbrev Reading (α : Type) := EStateM Problem Cursor α

namespace Cursor

/-- The start of a byte string. -/
def ofBytes (bytes : Bytes) (order : ByteOrder) : Cursor := ⟨bytes, order, 0, none⟩

/-- The number of bytes. -/
def size (c : Cursor) : Nat := c.bytes.length

/-- The number of bytes after the position. -/
def remaining (c : Cursor) : Nat := c.size - c.position

/-- Whether no byte is left. -/
def atEnd (c : Cursor) : Bool := c.size ≤ c.position

/-- A text that names the cursor. -/
def describe (c : Cursor) : String :=
  s!"picmeta.cursor.ByteCursor(length={c.size}, position={c.position}, endian='{c.order.sign}')"

/-- Whether some bytes from a position on exist. -/
def covers (c : Cursor) (position count : Int) : Bool :=
  0 ≤ position && 0 ≤ count && position + count ≤ c.size

/-- Moves to a position. -/
def seek (position : Int) : Reading Unit := do
  let c ← get
  if 0 ≤ position ∧ position ≤ c.size then set { c with position := position.toNat }
  else throw (.seekOutside position c.size)

/-- The cursor of a byte string at a given position. -/
def startAt (bytes : Bytes) (order : ByteOrder) (position : Int) : Except Problem Cursor :=
  match (seek position).run (ofBytes bytes order) with
  | .ok _ c => .ok c
  | .error p _ => .error p

/-- Some bytes from a position on; the cursor does not move. -/
def peek (position count : Int) : Reading Bytes := do
  let c ← get
  if c.covers position count then return c.bytes.slice position.toNat count.toNat
  else throw (.readOutside count position c.size)

/-- Fails unless a condition holds. -/
def require (c : Bool) (p : Problem) : Reading Unit := if c then pure () else throw p

/-- Moves forward. -/
def skip (count : Int) : Reading Unit := do
  require (0 ≤ count) (.negativeSkip count)
  let c ← get
  if c.covers c.position count then set { c with position := c.position + count.toNat }
  else throw (.readOutside count c.position c.size)

/-- The next bytes. -/
def read (count : Int) : Reading Bytes := do
  let c ← get
  let bytes ← peek c.position count
  set { c with position := c.position + count.toNat }
  return bytes

/-- What follows a reading starts at the cursor that the reading leaves. -/
theorem run_bind_of_ok {α β : Type} {x : Reading α} {c d : Cursor} {a : α} (f : α → Reading β)
    (h : x.run c = .ok a d) : (x >>= f).run c = (f a).run d := by
  rw [EStateM.run_bind, h]

/-- Where a sequence of readings ends well, both of its parts do. -/
theorem ok_of_run_bind {α β : Type} {x : Reading α} {f : α → Reading β} {c d : Cursor} {b : β}
    (h : (x >>= f).run c = .ok b d) : ∃ a c', x.run c = .ok a c' ∧ (f a).run c' = .ok b d := by
  rw [EStateM.run_bind] at h
  cases hx : x.run c with
  | ok a c' => exact ⟨a, c', rfl, by simpa [hx] using h⟩
  | error p c' => simp [hx] at h

theorem run_require {b : Bool} (p : Problem) (h : b = true) (c : Cursor) :
    (require b p).run c = .ok () c := by
  rw [h]
  rfl

/-- Where a requirement ends well, it is met, and the cursor is where it was. -/
theorem of_run_require {b : Bool} {p : Problem} {c d : Cursor} {u : Unit}
    (h : (require b p).run c = .ok u d) : b = true ∧ c = d := by
  cases b with
  | false => cases h
  | true =>
    cases h
    exact ⟨rfl, rfl⟩

theorem covers_iff {c : Cursor} {position count : Int} :
    c.covers position count = true ↔ 0 ≤ position ∧ 0 ≤ count ∧ position + count ≤ c.size := by
  simp [covers, and_assoc]

theorem run_seek {c : Cursor} {position : Nat} (h : position ≤ c.size) :
    (seek position).run c = .ok () { c with position := position } := by
  unfold seek
  rw [run_bind_of_ok _ (EStateM.run_get c), if_pos ⟨by omega, by omega⟩]
  rfl

theorem run_peek {c : Cursor} {position count : Nat} (h : position + count ≤ c.size) :
    (peek position count).run c = .ok (c.bytes.slice position count) c := by
  have inside : c.covers position count = true := covers_iff.2 ⟨by omega, by omega, by omega⟩
  unfold peek
  rw [run_bind_of_ok _ (EStateM.run_get c), if_pos inside]
  rfl

theorem run_read {c : Cursor} {count : Nat} (h : c.position + count ≤ c.size) :
    (read count).run c =
      .ok (c.bytes.slice c.position count) { c with position := c.position + count } := by
  unfold read
  rw [run_bind_of_ok _ (EStateM.run_get c), run_bind_of_ok _ (run_peek h)]
  rfl

/-- A read past the end fails and leaves the cursor where it is. -/
theorem run_read_of_lt {c : Cursor} {count : Nat} (h : c.size < c.position + count) :
    (read count).run c = .error (.readOutside count c.position c.size) c := by
  have outside : ¬ c.covers c.position count = true := by
    rw [covers_iff]
    omega
  have peeked : (peek c.position count).run c =
      .error (.readOutside count c.position c.size) c := by
    unfold peek
    rw [run_bind_of_ok _ (EStateM.run_get c), if_neg outside]
    rfl
  unfold read
  rw [run_bind_of_ok _ (EStateM.run_get c), EStateM.run_bind, peeked]

/-- A read that ends well moves over bytes that exist. -/
theorem of_run_read {c d : Cursor} {count : Nat} {bytes : Bytes}
    (h : (read count).run c = .ok bytes d) :
    c.position + count ≤ c.size ∧ d = { c with position := c.position + count } := by
  by_cases inside : c.position + count ≤ c.size
  · rw [run_read inside] at h
    cases h
    exact ⟨inside, rfl⟩
  · rw [run_read_of_lt (Nat.lt_of_not_le inside)] at h
    cases h

theorem run_skip {c : Cursor} {count : Nat} (h : c.position + count ≤ c.size) :
    (skip count).run c = .ok () { c with position := c.position + count } := by
  have inside : c.covers c.position count = true := covers_iff.2 ⟨by omega, by omega, by omega⟩
  unfold skip
  rw [run_bind_of_ok _ (run_require _ (decide_eq_true (Int.natCast_nonneg count)) c),
    run_bind_of_ok _ (EStateM.run_get c), if_pos inside]
  rfl

/-- The next unsigned integer of a width. -/
def unsigned (width : Nat) : Reading Nat := do
  let c ← get
  return c.order.unsigned (← read width)

theorem run_unsigned {c : Cursor} {width : Nat} (h : c.position + width ≤ c.size) :
    (unsigned width).run c = .ok (c.order.unsigned (c.bytes.slice c.position width))
      { c with position := c.position + width } := by
  unfold unsigned
  rw [run_bind_of_ok _ (EStateM.run_get c), run_bind_of_ok _ (run_read h)]
  rfl

/-- An integer that is read stands in bytes that exist. -/
theorem of_run_unsigned {c d : Cursor} {width n : Nat} (h : (unsigned width).run c = .ok n d) :
    c.position + width ≤ c.size ∧ d = { c with position := c.position + width } := by
  obtain ⟨_, _, ⟨⟩, h⟩ := ok_of_run_bind h
  obtain ⟨_, _, read, ⟨⟩⟩ := ok_of_run_bind h
  exact of_run_read read

/-- The next integer of a width in two's complement. -/
def signed (width : Nat) : Reading Int := do
  let c ← get
  return c.order.signed (← read width)

/-- The next unsigned integer in a field of 0, 1, 2, 4 or 8 bytes; an empty field stores 0. -/
def field (width : Int) : Reading Nat :=
  if width = 0 then return 0
  else if width = 1 ∨ width = 2 ∨ width = 4 ∨ width = 8 then unsigned width.toNat
  else throw (.fieldSize width)

/-- The next four bytes, a type code. -/
def code : Reading Bytes := read 4

/-- Sets the byte order to the one with the given sign. -/
def setOrder (sign : Literal) : Reading Unit := do
  match sign with
  | .text s =>
    match ByteOrder.ofSign? s with
    | some order => modify fun c => { c with order := order }
    | none => throw (.byteOrderSign sign)
  | _ => throw (.byteOrderSign sign)

/-- Marks the position, unless one is marked already. -/
def setMark : Reading Unit := do
  let c ← get
  match c.mark with
  | some position => throw (.alreadyMarked position)
  | none => set { c with mark := some c.position }

/-- Returns to the marked position and forgets it. -/
def returnToMark : Reading Unit := do
  let c ← get
  match c.mark with
  | some position => set { c with position := position, mark := none }
  | none => throw .notMarked

/-- Does a reading from the marked position, to which the cursor returns however the reading ends.
-/
def restoring {α : Type} (x : Reading α) : Reading α := do
  setMark
  try x finally returnToMark

theorem run_setMark {c : Cursor} (free : c.mark = none) :
    setMark.run c = .ok () { c with mark := some c.position } := by
  unfold setMark
  rw [run_bind_of_ok _ (EStateM.run_get c), free]
  rfl

theorem run_returnToMark {c : Cursor} {position : Nat} (marked : c.mark = some position) :
    returnToMark.run c = .ok () { c with position := position, mark := none } := by
  unfold returnToMark
  rw [run_bind_of_ok _ (EStateM.run_get c), marked]
  rfl

/-- The last step of a reading that returns to the mark. -/
theorem run_finally {α : Type} {x : Reading α} {c d : Cursor} {position : Nat}
    (marked : d.mark = some position) :
    (∀ a, x.run c = .ok a d → (tryFinally x returnToMark).run c =
      .ok a { d with position := position, mark := none }) ∧
    ∀ p, x.run c = .error p d → (tryFinally x returnToMark).run c =
      .error p { d with position := position, mark := none } := by
  have returned := run_returnToMark marked
  simp only [EStateM.run] at returned ⊢
  constructor
  · intro a h
    simp [tryFinally, MonadFinally.tryFinally', Functor.map, EStateM.map, h, returned]
  · intro p h
    simp [tryFinally, MonadFinally.tryFinally', Functor.map, EStateM.map, h, returned]

theorem run_restoring_of_ok {α : Type} {x : Reading α} {c d : Cursor} {a : α} {position : Nat}
    (free : c.mark = none) (h : x.run { c with mark := some c.position } = .ok a d)
    (marked : d.mark = some position) :
    (restoring x).run c = .ok a { d with position := position, mark := none } := by
  unfold restoring
  rw [run_bind_of_ok _ (run_setMark free)]
  exact (run_finally marked).1 a h

/-- A reading that only moves the position leaves no trace where it is restored. -/
theorem run_restoring {α : Type} {x : Reading α} {c : Cursor} {a : α} {position : Nat}
    (free : c.mark = none)
    (h : x.run { c with mark := some c.position } =
      .ok a { c with mark := some c.position, position := position }) :
    (restoring x).run c = .ok a c := by
  rw [run_restoring_of_ok free h rfl]
  obtain ⟨bytes, order, position, mark⟩ := c
  obtain rfl : mark = none := free
  rfl

theorem run_restoring_of_error {α : Type} {x : Reading α} {c d : Cursor} {p : Problem}
    {position : Nat} (free : c.mark = none)
    (h : x.run { c with mark := some c.position } = .error p d)
    (marked : d.mark = some position) :
    (restoring x).run c = .error p { d with position := position, mark := none } := by
  unfold restoring
  rw [run_bind_of_ok _ (run_setMark free)]
  exact (run_finally marked).2 p h

/-- Puts the results of a reading, done a number of times, in front of those collected before. -/
def collect {α : Type} (next : Reading α) : Nat → List α → Reading (List α)
  | 0, found => return found
  | n + 1, found => do
    let a ← next
    collect next n (a :: found)

/-- The results of a reading done a number of times, in order. -/
def times {α : Type} (n : Nat) (next : Reading α) : Reading (List α) := do
  return (← collect next n []).reverse

end Cursor

namespace Reading

variable {α : Type}

/-- The result of a reading from the start of a byte string with the big end first. -/
def decode (x : Reading α) (bytes : Bytes) : Except Problem (α × Cursor) :=
  match x.run (Cursor.ofBytes bytes .big) with
  | .ok a c => .ok (a, c)
  | .error p _ => .error p

end Reading

end ImageMetadata
