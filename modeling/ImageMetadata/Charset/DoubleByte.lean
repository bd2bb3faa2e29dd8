import ImageMetadata.Charset.Basic

/-!
# Double bytes

In the sets for the scripts of East Asia a character is one byte or a pair of a lead byte and a
trail byte. Both come from certain ranges; the pairs are counted with all trail bytes of one lead
byte next to each other, and the count is a place in a grid.
-/

namespace ImageMetadata.Charset

/-- The place of a number in closed ranges that are counted through one after the other. -/
def placeIn? : List (Nat × Nat) → Nat → Option Nat
  | [], _ => none
  | (low, high) :: ranges, n =>
    if low ≤ n ∧ n ≤ high then some (n - low)
    else (placeIn? ranges n).map (· + (high + 1 - low))

/-- How many numbers closed ranges hold. -/
def rangeSize (ranges : List (Nat × Nat)) : Nat :=
  ranges.foldr (fun r size => r.2 + 1 - r.1 + size) 0

/-- The ranges of the bytes of a pair. -/
structure PairRanges where
  leads : List (Nat × Nat)
  trails : List (Nat × Nat)

namespace PairRanges

/-- The place of a pair. -/
def place? (ranges : PairRanges) (lead trail : UInt8) : Option Nat := do
  let row ← placeIn? ranges.leads lead.toNat
  let column ← placeIn? ranges.trails trail.toNat
  return row * rangeSize ranges.trails + column

/-- How many pairs there are. -/
def size (ranges : PairRanges) : Nat := rangeSize ranges.leads * rangeSize ranges.trails

/-- The pairs of bytes with the highest bit set, as they are in most sets: 94 times 94. -/
def square : PairRanges := ⟨[(0xA1, 0xFE)], [(0xA1, 0xFE)]⟩

end PairRanges

/-- The character of a byte that is ASCII. -/
def asciiByte? (b : UInt8) : Option Char := if b < 0x80 then some (Char.ofNat b.toNat) else none

/-- The step of a set in which a character is a single byte or a pair. -/
def doubleByte (single : UInt8 → Option Char) (pair : UInt8 → UInt8 → Option Char) (b : UInt8)
    (rest : Bytes) : Option (Char × Nat) :=
  match single b with
  | some c => some (c, 0)
  | none =>
    match rest with
    | [] => none
    | trail :: _ => (pair b trail).map (·, 1)

end ImageMetadata.Charset
