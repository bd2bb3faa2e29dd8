import ImageMetadata.Text.Utf16

/-!
# UTF-7

Most ASCII characters stand for themselves. A plus sign starts a run of digits to the base 64, six
bits each, that hold UTF-16 units with the high byte first; a run ends at the first byte that is no
digit, and a minus sign there belongs to the run. A plus sign and a minus sign are a plus sign.
-/

namespace ImageMetadata.Text.Utf7

/-- The bytes of a plus sign and a minus sign. -/
def plus : UInt8 := 0x2B

@[inherit_doc plus] def minus : UInt8 := 0x2D

/-- Whether a byte outside of a run stands for the character with its number: blanks, line ends and
all printable ASCII characters but the plus sign, the backslash and the tilde. -/
def isDirect (b : UInt8) : Bool :=
  b = 0x09 || b = 0x0A || b = 0x0D || (0x20 ≤ b && b < 0x7E && b ≠ plus && b ≠ 0x5C)

/-- The value of a digit to the base 64. -/
def digit? (b : UInt8) : Option Nat :=
  let n := b.toNat
  if 0x41 ≤ n ∧ n ≤ 0x5A then some (n - 0x41)
  else if 0x61 ≤ n ∧ n ≤ 0x7A then some (n - 0x61 + 26)
  else if 0x30 ≤ n ∧ n ≤ 0x39 then some (n - 0x30 + 52)
  else if n = 0x2B then some 62
  else if n = 0x2F then some 63
  else none

/-- The units that digits hold. Fewer than six bits may be left over, and these have to be zero. -/
def units? (digits : List Nat) : Option (List Nat) :=
  let value := digits.foldl (fun n d => 64 * n + d) 0
  let count := 6 * digits.length / 16
  let unused := 6 * digits.length % 16
  if unused < 6 ∧ value % Nat.pow 2 unused = 0 then
    let bits := value / Nat.pow 2 unused
    some ((List.range count).map fun i => bits / Nat.pow 0x10000 (count - 1 - i) % 0x10000)
  else none

/-- The values of the digits at the front of bytes. -/
def digits (bytes : Bytes) : List Nat :=
  (bytes.takeWhile fun b => (digit? b).isSome).filterMap digit?

/-- The bytes behind a run of which the digits stand at the front. -/
def afterRun (bytes : Bytes) : Bytes :=
  match bytes.dropWhile fun b => (digit? b).isSome with
  | [] => []
  | b :: rest => if b = minus then rest else b :: rest

theorem length_dropWhile_le (keep : UInt8 → Bool) (bytes : Bytes) :
    (bytes.dropWhile keep).length ≤ bytes.length := (List.dropWhile_suffix keep).length_le

theorem length_afterRun_le (bytes : Bytes) : (afterRun bytes).length ≤ bytes.length := by
  have h := length_dropWhile_le (fun b => (digit? b).isSome) bytes
  unfold afterRun
  split
  · simp
  · next rest eq =>
    rw [eq, List.length_cons] at h
    split
    · omega
    · simpa using h

/-- The text of bytes. -/
def decode? : Bytes → Option (List Char)
  | [] => some []
  | b :: rest =>
    if b = plus then
      if rest.head? = some minus then (decode? rest.tail).map ('+' :: ·)
      else do
        let run ← (units? (digits rest)).bind Utf16.ofUnits
        (decode? (afterRun rest)).map (run ++ ·)
    else if isDirect b then (decode? rest).map (Char.ofNat b.toNat :: ·)
    else none
  termination_by bytes => bytes.length
  decreasing_by
    · simp only [List.length_tail, List.length_cons]; omega
    · exact Nat.lt_succ_of_le (length_afterRun_le rest)
    · simp

end ImageMetadata.Text.Utf7
