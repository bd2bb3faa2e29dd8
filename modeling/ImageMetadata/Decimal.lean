/-!
# Decimal text of binary64 numbers

A finite number is `m * 2 ^ q`. Its text is made in two steps. The first selects decimal digits: a
given number of significant ones, correctly rounded with ties to even, or the fewest that read back.
The second lays them out positionally or with an exponent, as a record of decisions says.
-/

namespace ImageMetadata.Decimal

/-- A finite non-negative number, `m * 2 ^ q`. -/
structure Binary where
  m : Nat
  q : Int
  /-- Whether the gap to the number below is half the gap to the number above. -/
  narrowBelow : Bool

/-- The magnitude that the bits of a finite number hold. -/
def Binary.ofBits (bits : UInt64) : Binary :=
  let e : Nat := (bits.toNat / 0x10000000000000) % 0x800
  let f : Nat := bits.toNat % 0x10000000000000
  if e = 0 then ⟨f, -1074, false⟩ else ⟨0x10000000000000 + f, (e : Int) - 1075, f = 0 && 1 < e⟩

/-- Decimal digits of which the first has weight `10 ^ exponent`. -/
structure Digits where
  digits : List Nat
  exponent : Int
  deriving DecidableEq, Repr

/-- The sign of `a * 10 ^ i - n * 2 ^ j`, exactly. -/
def compareScaled (a : Nat) (i : Int) (n : Nat) (j : Int) : Ordering :=
  compare (a * Nat.pow 10 i.toNat * Nat.pow 2 (-j).toNat)
    (n * Nat.pow 2 j.toNat * Nat.pow 10 (-i).toNat)

/-- Whether `a * 10 ^ i` lies among the reals that round to the number. -/
def Binary.readsBack (x : Binary) (a : Nat) (i : Int) : Bool :=
  let low := if x.narrowBelow then 4 * x.m - 1 else 4 * x.m - 2
  let closed := x.m % 2 == 0
  let below := compareScaled a i low (x.q - 2)
  let above := compareScaled a i (4 * x.m + 2) (x.q - 2)
  (below == .gt || (closed && below == .eq)) && (above == .lt || (closed && above == .eq))

/-- The least exponent, searched upwards from a start, whose power of ten exceeds the number. -/
def Binary.scaleFrom (x : Binary) : Nat → Int → Int
  | 0, k => k
  | fuel + 1, k => if compareScaled 1 k x.m x.q == .gt then k else x.scaleFrom fuel (k + 1)

/-- The least exponent whose power of ten exceeds the number. -/
def Binary.scale (x : Binary) : Int :=
  let log : Int := (x.m.log2 : Int) + x.q
  x.scaleFrom 8 (log * 30103 / 100000 - 2)

/-- The floor and the remainder of the number in units of `10 ^ i`, with the divisor. -/
def Binary.divide (x : Binary) (i : Int) : Nat × Nat × Nat :=
  let num := x.m * Nat.pow 2 x.q.toNat * Nat.pow 10 (-i).toNat
  let den := Nat.pow 10 i.toNat * Nat.pow 2 (-x.q).toNat
  (num / den, num % den, den)

/-- The quotient of the number and `10 ^ i`, rounded to the nearest integer with ties to even. -/
def Binary.round (x : Binary) (i : Int) : Nat :=
  let (floor, rest, den) := x.divide i
  if 2 * rest < den then floor
  else if den < 2 * rest then floor + 1
  else if floor % 2 = 0 then floor else floor + 1

/-- The decimal digits of a number, the most significant one first. -/
def digitsOf (n : Nat) : List Nat := (Nat.toDigits 10 n).map fun c => c.toNat - 48

/-- The list without its trailing zeros. -/
def stripZeros (list : List Nat) : List Nat := (list.reverse.dropWhile (· == 0)).reverse

/-- The digits of a positive number rounded to `count` significant places, without trailing zeros.
-/
def Binary.significant (x : Binary) (count : Nat) : Digits :=
  let k := x.scale
  let n := x.round (k - count)
  let all := digitsOf n
  ⟨stripZeros all, k - 1 + ((all.length : Int) - count)⟩

/-- The fewest digits that read back, the nearest of those, ties to even; seventeen always do. -/
def Binary.shortestFrom (x : Binary) (k : Int) : Nat → Nat → Digits
  | 0, _ => x.significant 17
  | fuel + 1, count =>
    let i := k - count
    let (floor, rest, den) := x.divide i
    let low := x.readsBack floor i
    let high := x.readsBack (floor + 1) i
    let pick :=
      if low && high then
        some (if 2 * rest < den || (2 * rest == den && floor % 2 == 0) then floor else floor + 1)
      else if low then some floor
      else if high then some (floor + 1)
      else none
    match pick with
    | some n =>
      let all := digitsOf n
      ⟨stripZeros all, k - 1 + ((all.length : Int) - count)⟩
    | none => x.shortestFrom k fuel (count + 1)

/-- The fewest digits of a positive number that read back. -/
def Binary.shortest (x : Binary) : Digits := x.shortestFrom x.scale 17 1

/-- How selected digits are laid out. -/
structure Layout where
  /-- From this exponent of the first digit on a number is written without an exponent. -/
  plainFrom : Int
  /-- Up to this exponent, itself excluded, a number is written without an exponent. -/
  plainBelow : Int
  /-- What follows the digits of an integer. -/
  integerEnd : String

/-- The text of digits. -/
def digitText (list : List Nat) : String :=
  String.ofList (list.map fun d => Char.ofNat (48 + d))

/-- The text of an exponent: a sign and at least two digits. -/
def exponentText (e : Int) : String :=
  let n := toString e.natAbs
  (if e < 0 then "e-" else "e+") ++ (if n.length < 2 then "0" ++ n else n)

/-- The text of a positive number with the given digits. -/
def Layout.positive (layout : Layout) (d : Digits) : String :=
  if layout.plainFrom ≤ d.exponent ∧ d.exponent < layout.plainBelow then
    if d.exponent < 0 then
      "0." ++ digitText (List.replicate ((-d.exponent).toNat - 1) 0 ++ d.digits)
    else
      let whole := d.exponent.toNat + 1
      let padded := d.digits ++ List.replicate (whole - d.digits.length) 0
      if d.digits.length ≤ whole then digitText padded ++ layout.integerEnd
      else digitText (d.digits.take whole) ++ "." ++ digitText (d.digits.drop whole)
  else
    digitText (d.digits.take 1) ++
      (if d.digits.length ≤ 1 then "" else "." ++ digitText (d.digits.drop 1)) ++
      exponentText d.exponent

/-- The text of any binary64 number, with the digits that `select` chooses. -/
def Layout.text (layout : Layout) (select : Binary → Digits) (x : Float) : String :=
  let bits := x.toBits
  let negative := bits.toNat / 0x8000000000000000 = 1
  let magnitude := bits.toNat % 0x8000000000000000
  if 0x7FF0000000000000 < magnitude then "nan"
  else
    let body :=
      if magnitude = 0x7FF0000000000000 then "inf"
      else if magnitude = 0 then "0" ++ layout.integerEnd
      else layout.positive (select (Binary.ofBits bits))
    if negative then "-" ++ body else body

/-- Six significant digits, positional from 10^-4 up to 10^6, no fraction for an integer. -/
def sixDigits (x : Float) : String :=
  Layout.text ⟨-4, 6, ""⟩ (fun b => b.significant 6) x

/-- The fewest digits that read back, positional from 10^-4 up to 10^16, always with a fraction. -/
def shortest (x : Float) : String :=
  Layout.text ⟨-4, 16, ".0"⟩ Binary.shortest x

end ImageMetadata.Decimal
