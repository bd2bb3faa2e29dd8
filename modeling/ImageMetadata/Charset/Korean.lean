import ImageMetadata.Charset.DoubleByte
import ImageMetadata.Charset.KsX1001

/-!
# Korean sets

The pairs of KS X 1001 have the highest bit set. A larger set has the syllables that are missing
there in two further areas of pairs, in the order of their numbers.
-/

namespace ImageMetadata.Charset

namespace Korean

/-- The character of a pair with the highest bit set. -/
def squarePair? (lead trail : UInt8) : Option Char :=
  (PairRanges.square.place? lead trail).bind ksX1001.char?

/-- Pairs with the highest bit set. -/
def eucKr : Charset :=
  ⟨["EUC-KR", "EUCKR", "CSEUCKR"], stepwise (doubleByte asciiByte? squarePair?)⟩

/-- The numbers of all syllables. -/
def syllables : List Nat := (List.range 11172).map (· + 0xAC00)

/-- The numbers of the syllables in KS X 1001, where they fill 25 rows. -/
def squareSyllables : List Nat :=
  (((ksX1001.lines.toList.drop 30).take 50).flatMap String.toList).map Char.toNat

/-- The first of two ascending lists without the elements of the second. -/
def without : List Nat → List Nat → List Nat
  | [], _ => []
  | n :: ns, [] => n :: ns
  | n :: ns, m :: ms =>
    if n < m then n :: without ns (m :: ms) else if n = m then without ns ms
    else without (n :: ns) ms
  termination_by ns ms => ns.length + ms.length

/-- The numbers of the syllables that KS X 1001 does not have. -/
def furtherSyllables : Array Nat := (without syllables squareSyllables).toArray

/-- The first area of further syllables. -/
def firstArea : PairRanges := ⟨[(0x81, 0xA0)], [(0x41, 0x5A), (0x61, 0x7A), (0x81, 0xFE)]⟩

/-- The second area of further syllables. -/
def secondArea : PairRanges := ⟨[(0xA1, 0xC6)], [(0x41, 0x5A), (0x61, 0x7A), (0x81, 0xA0)]⟩

/-- The further syllable of a pair. -/
def furtherPair? (lead trail : UInt8) : Option Char := do
  let place ← firstArea.place? lead trail <|>
    (secondArea.place? lead trail).map (· + firstArea.size)
  return Char.ofNat (← furtherSyllables[place]?)

/-- The set with all syllables. -/
def windows949 : Charset :=
  ⟨["CP949", "UHC"],
    stepwise (doubleByte asciiByte? fun lead trail =>
      squarePair? lead trail <|> furtherPair? lead trail)⟩

/-- The Korean sets. -/
def all : List Charset := [eucKr, windows949]

end Korean

end ImageMetadata.Charset
