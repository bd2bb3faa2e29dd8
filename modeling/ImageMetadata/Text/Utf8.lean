import ImageMetadata.Bytes

/-!
# UTF-8

Decoding proceeds by one step at a time: the bytes begin with a well-formed character or with a
maximal ill-formed subpart, that is, with the longest run that a character could have continued. The
strict decoder refuses every ill-formed subpart, the replacing decoder puts U+FFFD for it.
-/

namespace ImageMetadata.Text.Utf8

/-- What a lead byte announces: the high bits of the code point and the range of each byte that has
to follow. Overlong forms, surrogates and numbers beyond U+10FFFF are excluded by the first range.
-/
def lead? (b : UInt8) : Option (Nat × List (Nat × Nat)) :=
  let n := b.toNat
  if n < 0x80 then some (n, [])
  else if n < 0xC2 then none
  else if n < 0xE0 then some (n - 0xC0, [(0x80, 0xBF)])
  else if n = 0xE0 then some (0, [(0xA0, 0xBF), (0x80, 0xBF)])
  else if n = 0xED then some (0xD, [(0x80, 0x9F), (0x80, 0xBF)])
  else if n < 0xF0 then some (n - 0xE0, [(0x80, 0xBF), (0x80, 0xBF)])
  else if n = 0xF0 then some (0, [(0x90, 0xBF), (0x80, 0xBF), (0x80, 0xBF)])
  else if n < 0xF4 then some (n - 0xF0, [(0x80, 0xBF), (0x80, 0xBF), (0x80, 0xBF)])
  else if n = 0xF4 then some (4, [(0x80, 0x8F), (0x80, 0xBF), (0x80, 0xBF)])
  else none

/-- Reads the bytes that follow a lead byte, as long as each lies in its range. -/
def follow (code : Nat) : List (Nat × Nat) → Bytes → Option Char × Bytes
  | [], bytes => (some (Char.ofNat code), bytes)
  | _ :: _, [] => (none, [])
  | (low, high) :: ranges, b :: bytes =>
    if low ≤ b.toNat ∧ b.toNat ≤ high then follow (code * 64 + b.toNat % 64) ranges bytes
    else (none, b :: bytes)

/-- The first character, or `none` for an ill-formed subpart, with the bytes behind it. -/
def first (b : UInt8) (bytes : Bytes) : Option Char × Bytes :=
  match lead? b with
  | some (code, ranges) => follow code ranges bytes
  | none => (none, bytes)

theorem follow_length (code : Nat) (ranges : List (Nat × Nat)) (bytes : Bytes) :
    (follow code ranges bytes).2.length ≤ bytes.length := by
  induction ranges generalizing code bytes with
  | nil => simp [follow]
  | cons range ranges ih =>
    cases bytes with
    | nil => simp [follow]
    | cons b bytes =>
      obtain ⟨low, high⟩ := range
      simp only [follow]
      split
      · exact Nat.le_succ_of_le (ih _ _)
      · simp

theorem first_length (b : UInt8) (bytes : Bytes) : (first b bytes).2.length ≤ bytes.length := by
  unfold first
  split
  · exact follow_length _ _ _
  · simp

/-- The characters and ill-formed subparts of a byte string, in order. -/
def units : Bytes → List (Option Char)
  | [] => []
  | b :: bytes => (first b bytes).1 :: units (first b bytes).2
  termination_by bytes => bytes.length
  decreasing_by
    have := first_length b bytes
    simp only [List.length_cons]; omega

/-- The text that well-formed bytes encode, and nothing for ill-formed ones. -/
def decode? (bytes : Bytes) : Option (List Char) := (units bytes).mapM id

/-- The text with U+FFFD for each maximal ill-formed subpart. -/
def decodeReplacing (bytes : Bytes) : List Char :=
  (units bytes).map fun unit => unit.getD (Char.ofNat 0xFFFD)

/-- The bytes of one character. -/
def encodeChar (c : Char) : Bytes :=
  let n := c.toNat
  if n < 0x80 then [UInt8.ofNat n]
  else if n < 0x800 then [UInt8.ofNat (0xC0 + n / 64), UInt8.ofNat (0x80 + n % 64)]
  else if n < 0x10000 then
    [UInt8.ofNat (0xE0 + n / 4096), UInt8.ofNat (0x80 + n / 64 % 64), UInt8.ofNat (0x80 + n % 64)]
  else
    [UInt8.ofNat (0xF0 + n / 262144), UInt8.ofNat (0x80 + n / 4096 % 64),
      UInt8.ofNat (0x80 + n / 64 % 64), UInt8.ofNat (0x80 + n % 64)]

/-- The bytes of a text. -/
def encode (text : List Char) : Bytes := text.flatMap encodeChar

end ImageMetadata.Text.Utf8
