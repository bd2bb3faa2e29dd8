import ImageMetadata.Heif.Content
import ImageMetadata.Outcome

/-!
# Box forests

The boxes of a range of bytes follow each other without a gap. A box says its length in 32 or 64
bits, or lasts to the end of the range. The boxes inside a container lie in the rest of its payload;
they are read up to a depth. A box whose contents cannot be decoded only keeps its range, unless
items could not be found without it.
-/

namespace ImageMetadata.Heif

/-- The header of a box that starts at one position and lies before another. -/
structure BoxHeader (start stop : Nat) where
  id : Bytes
  length : Nat
  size : Nat
  le_size : 8 ≤ size
  size_le : size ≤ length
  length_le : start + length ≤ stop

/-- The 32-bit length of a box; 0 says that the box lasts to the end of the range, and 1 that a
64-bit length follows the type code. -/
def shortLength (bytes : Bytes) (start : Nat) : Nat := ByteOrder.big.unsigned (bytes.slice start 4)

/-- The length of a box, its header included. -/
def boxLength (bytes : Bytes) (start stop : Nat) : Nat :=
  if shortLength bytes start = 0 then stop - start
  else if shortLength bytes start = 1 then ByteOrder.big.unsigned (bytes.slice (start + 8) 8)
  else shortLength bytes start

/-- The length of the header of a box. -/
def headerSize (bytes : Bytes) (start : Nat) : Nat :=
  if shortLength bytes start = 1 then 16 else 8

theorem le_headerSize (bytes : Bytes) (start : Nat) : 8 ≤ headerSize bytes start := by
  unfold headerSize
  split <;> decide

/-- The header of the box at the start of a range of at least eight bytes. -/
def readHeader (bytes : Bytes) (start stop : Nat) : Except Problem (BoxHeader start stop) :=
  let id := bytes.slice (start + 4) 4
  let size := headerSize bytes start
  let length := boxLength bytes start stop
  if stop - start < size then .error (.boxHeader id start)
  else if small : length < size then .error (.boxSmallerThanHeader id start length)
  else if outside : stop < start + length then .error (.boxOutside id start length stop)
  else
    .ok ⟨id, length, size, le_headerSize bytes start, Nat.le_of_not_lt small,
      Nat.le_of_not_lt outside⟩

/-- The fields of a header are those that stand at the start of the box. -/
theorem readHeader_eq_iff {bytes : Bytes} {start stop : Nat} {h : BoxHeader start stop} :
    readHeader bytes start stop = .ok h ↔
      bytes.slice (start + 4) 4 = h.id ∧ headerSize bytes start = h.size ∧
        boxLength bytes start stop = h.length := by
  unfold readHeader
  dsimp only
  constructor
  · intro read
    split at read
    · cases read
    split at read
    · cases read
    split at read
    · cases read
    · cases read
      exact ⟨rfl, rfl, rfl⟩
  · obtain ⟨id, length, size, le_size, size_le, length_le⟩ := h
    rintro ⟨rfl, rfl, rfl⟩
    rw [if_neg (by omega), dif_neg (Nat.not_lt.2 size_le), dif_neg (Nat.not_lt.2 length_le)]

/-- The contents of a box with a payload, and the number of payload bytes they take. -/
def readContent (strict : Bool) (id : Bytes) (offset : Nat) (payload : Bytes) :
    Outcome (Content × Nat) := do
  if id = Bytes.ascii "mdat" then
    Outcome.trace (.mediaDataSkipped offset)
    return (.mediaData, 0)
  else
    match Content.decoder? id with
    | none =>
      Outcome.trace (.unrecognizedBox id offset)
      return (.unknown, 0)
    | some decode =>
      let decoded : Outcome (Content × Nat) := do
        let (content, c) ← Outcome.ofExcept (decode.decode payload)
        return (content, c.position)
      decoded.rescue fun cause => do
        let problem := Problem.unreadableBox id offset cause
        Outcome.require (!Content.isRequired id) problem
        Outcome.flag strict problem
        return (.unknown, 0)

/-- Reads the boxes between two positions, which are inside as many containers as `depth` says. -/
def readBoxes (bytes : Bytes) (strict : Bool) (limit : Int) (depth start stop : Nat) :
    Outcome (List Box) := do
  if _h : stop ≤ start then return []
  else if stop - start < 8 then
    Outcome.flag strict (.extraBytes (stop - start) start)
    return []
  else
    match readHeader bytes start stop with
    | .error p => Outcome.fail p
    | .ok header =>
      have := header.le_size
      have := header.size_le
      have := header.length_le
      let inside := start + header.size
      let past := start + header.length
      let (content, used) ← readContent strict header.id start (bytes.slice inside (past - inside))
      let children ← (
        if content.category = .container then
          if limit < (depth : Int) + 1 then do
            Outcome.flag strict (.boxTooDeep header.id start limit)
            pure []
          else readBoxes bytes strict limit (depth + 1) (inside + used) past
        else pure [] : Outcome (List Box))
      let rest ← readBoxes bytes strict limit depth past stop
      return ⟨header.id, start, header.length, header.size, content, children⟩ :: rest
termination_by stop - start

end ImageMetadata.Heif
