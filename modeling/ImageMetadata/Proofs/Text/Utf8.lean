import ImageMetadata.Text.Utf8
import Mathlib.Tactic.IntervalCases

/-!
# Texts that are encoded

The bytes of a text are decoded to the text, and no other bytes are. A character starts with a byte
that announces how many others follow, and in which ranges they lie; the ranges leave out what is
encoded in fewer bytes, surrogates and what is not a code point, and so they leave out no character.
-/

namespace ImageMetadata.Text.Utf8

/-- A digit that follows in six bits lies in the range of its byte. -/
def InRange (range : Nat × Nat) (digit : Nat) : Prop :=
  range.1 ≤ 0x80 + digit ∧ 0x80 + digit ≤ range.2

/-- A byte that follows in its range adds six bits. -/
theorem follow_cons {range : Nat × Nat} {digit : Nat} (code : Nat) (ranges : List (Nat × Nat))
    (bytes : Bytes) (small : digit < 64) (inside : InRange range digit) :
    follow code (range :: ranges) (UInt8.ofNat (0x80 + digit) :: bytes) =
      follow (code * 64 + digit) ranges bytes := by
  have byte : (UInt8.ofNat (0x80 + digit)).toNat = 0x80 + digit := by
    rw [UInt8.toNat_ofNat']
    omega
  have bits : (0x80 + digit) % 64 = digit := by omega
  rw [follow, byte, bits]
  exact if_pos inside

theorem inRange_any {digit : Nat} (small : digit < 64) : InRange (0x80, 0xBF) digit :=
  ⟨by dsimp only; omega, by dsimp only; omega⟩

theorem lead?_one {n : Nat} (h : n < 0x80) : lead? (UInt8.ofNat n) = some (n, []) := by
  have byte : (UInt8.ofNat n).toNat = n := by
    rw [UInt8.toNat_ofNat']
    omega
  unfold lead?
  rw [byte]
  exact if_pos h

theorem lead?_two {k : Nat} (lower : 2 ≤ k) (upper : k < 32) :
    lead? (UInt8.ofNat (0xC0 + k)) = some (k, [(0x80, 0xBF)]) := by
  interval_cases k <;> rfl

/-- The range of the second of three bytes. -/
def secondOfThree (k : Nat) : Nat × Nat :=
  if k = 0 then (0xA0, 0xBF) else if k = 0xD then (0x80, 0x9F) else (0x80, 0xBF)

theorem lead?_three {k : Nat} (upper : k < 16) :
    lead? (UInt8.ofNat (0xE0 + k)) = some (k, [secondOfThree k, (0x80, 0xBF)]) := by
  interval_cases k <;> rfl

/-- The range of the second of four bytes. -/
def secondOfFour (k : Nat) : Nat × Nat :=
  if k = 0 then (0x90, 0xBF) else if k = 4 then (0x80, 0x8F) else (0x80, 0xBF)

theorem lead?_four {k : Nat} (upper : k ≤ 4) :
    lead? (UInt8.ofNat (0xF0 + k)) = some (k, [secondOfFour k, (0x80, 0xBF), (0x80, 0xBF)]) := by
  interval_cases k <;> rfl

/-- Three bytes encode no number that two bytes encode, and no surrogate. -/
theorem inRange_secondOfThree {n : Nat} (long : 0x800 ≤ n) (valid : n < 0xD800 ∨ 0xDFFF < n) :
    InRange (secondOfThree (n / 4096)) (n / 64 % 64) := by
  unfold secondOfThree InRange
  split
  · dsimp only
    omega
  split
  · dsimp only
    omega
  · dsimp only
    omega

/-- Four bytes encode no number that three bytes encode, and none that is too large. -/
theorem inRange_secondOfFour {n : Nat} (long : 0x10000 ≤ n) (valid : n < 0x110000) :
    InRange (secondOfFour (n / 262144)) (n / 4096 % 64) := by
  unfold secondOfFour InRange
  split
  · dsimp only
    omega
  split
  · dsimp only
    omega
  · dsimp only
    omega

theorem isValid (c : Char) : c.toNat < 0xD800 ∨ 0xDFFF < c.toNat ∧ c.toNat < 0x110000 := c.valid

/-- The bytes of a character begin with one that the first step decodes to it. -/
theorem exists_first (c : Char) (rest : Bytes) :
    ∃ b tail, encodeChar c ++ rest = b :: tail ∧ first b tail = (some c, rest) := by
  have valid := isValid c
  have own : Char.ofNat c.toNat = c := Char.ofNat_toNat c
  unfold encodeChar
  dsimp only
  generalize c.toNat = n at valid own ⊢
  have last : n % 64 < 64 := Nat.mod_lt n (by decide)
  have middle : n / 64 % 64 < 64 := Nat.mod_lt _ (by decide)
  split
  · rename_i one
    refine ⟨_, _, rfl, ?_⟩
    rw [first, lead?_one one]
    dsimp only
    rw [follow, own]
    rfl
  split
  · refine ⟨_, _, rfl, ?_⟩
    have whole : n / 64 * 64 + n % 64 = n := by omega
    rw [first, lead?_two (by omega) (by omega)]
    dsimp only [List.append]
    rw [follow_cons _ _ _ last (inRange_any last), follow, whole, own]
  split
  · refine ⟨_, _, rfl, ?_⟩
    have whole : (n / 4096 * 64 + n / 64 % 64) * 64 + n % 64 = n := by omega
    have second := inRange_secondOfThree (show 0x800 ≤ n by omega) (by omega)
    rw [first, lead?_three (by omega)]
    dsimp only [List.append]
    rw [follow_cons _ _ _ middle second, follow_cons _ _ _ last (inRange_any last), follow, whole,
      own]
  · refine ⟨_, _, rfl, ?_⟩
    have third : n / 4096 % 64 < 64 := Nat.mod_lt _ (by decide)
    have whole : ((n / 262144 * 64 + n / 4096 % 64) * 64 + n / 64 % 64) * 64 + n % 64 = n := by
      omega
    have second := inRange_secondOfFour (show 0x10000 ≤ n by omega) (by omega)
    rw [first, lead?_four (by omega)]
    dsimp only [List.append]
    rw [follow_cons _ _ _ third second, follow_cons _ _ _ middle (inRange_any middle),
      follow_cons _ _ _ last (inRange_any last), follow, whole, own]

theorem encode_cons (c : Char) (text : List Char) :
    encode (c :: text) = encodeChar c ++ encode text :=
  List.flatMap_cons

theorem units_encode (text : List Char) : units (encode text) = text.map some := by
  induction text with
  | nil => exact units.eq_1
  | cons c text ih =>
      obtain ⟨b, tail, bytes, decoded⟩ := exists_first c (encode text)
      rw [encode_cons, bytes, units, decoded, ih, List.map_cons]

/-- A text is decoded from its bytes, and nothing is replaced. -/
theorem decodeReplacing_encode (text : List Char) : decodeReplacing (encode text) = text := by
  rw [decodeReplacing, units_encode, List.map_map]
  exact List.map_id text

theorem mapM_id_eq_some_iff {α : Type} {l : List (Option α)} {r : List α} :
    l.mapM id = some r ↔ l = r.map some := by
  induction l generalizing r with
  | nil => cases r <;> simp
  | cons a l ih =>
      cases a with
      | none => cases r <;> simp [List.mapM_cons]
      | some a =>
          cases r with
          | nil => simp [List.mapM_cons, Option.bind_eq_some_iff]
          | cons b r => simp [List.mapM_cons, Option.bind_eq_some_iff, ih, and_comm]

/-- A first byte announces one of four lengths, or none. -/
theorem lead?_cases (b : UInt8) :
    lead? b = none ∨
      (∃ k, k < 0x80 ∧ b = UInt8.ofNat k) ∨
      (∃ k, 2 ≤ k ∧ k < 32 ∧ b = UInt8.ofNat (0xC0 + k)) ∨
      (∃ k, k < 16 ∧ b = UInt8.ofNat (0xE0 + k)) ∨
      ∃ k, k ≤ 4 ∧ b = UInt8.ofNat (0xF0 + k) := by
  have own {n : Nat} (same : b.toNat = n) : b = UInt8.ofNat n := by rw [← same, UInt8.ofNat_toNat]
  have small := b.toNat_lt
  by_cases one : b.toNat < 0x80
  · exact .inr (.inl ⟨_, one, own rfl⟩)
  by_cases two : b.toNat < 0xE0
  · by_cases short : b.toNat < 0xC2
    · refine .inl ?_
      simp [lead?, one, short]
    · exact .inr (.inr (.inl ⟨b.toNat - 0xC0, by omega, by omega, own (by omega)⟩))
  by_cases three : b.toNat < 0xF0
  · exact .inr (.inr (.inr (.inl ⟨b.toNat - 0xE0, by omega, own (by omega)⟩)))
  by_cases four : b.toNat ≤ 0xF4
  · exact .inr (.inr (.inr (.inr ⟨b.toNat - 0xF0, by omega, own (by omega)⟩)))
  · refine .inl ?_
    unfold lead?
    dsimp only
    rw [if_neg one, if_neg (by omega), if_neg (by omega), if_neg (by omega), if_neg (by omega),
      if_neg (by omega), if_neg (by omega), if_neg (by omega), if_neg (by omega)]

/-- A byte that is followed lies in its range, and adds six bits. -/
theorem of_follow_cons {range : Nat × Nat} {ranges : List (Nat × Nat)} {code : Nat} {c : Char}
    {bytes rest : Bytes} (h : follow code (range :: ranges) bytes = (some c, rest))
    (bounds : 0x80 ≤ range.1 ∧ range.2 ≤ 0xBF) :
    ∃ digit bytes', digit < 64 ∧ InRange range digit ∧
      bytes = UInt8.ofNat (0x80 + digit) :: bytes' ∧
      follow (code * 64 + digit) ranges bytes' = (some c, rest) := by
  cases bytes with
  | nil => simp [follow] at h
  | cons b bytes =>
      rw [follow] at h
      split at h
      · rename_i inside
        have bits : 0x80 + b.toNat % 64 = b.toNat := by omega
        refine ⟨b.toNat % 64, bytes, Nat.mod_lt _ (by decide), ?_, ?_, h⟩
        · unfold InRange
          rwa [bits]
        · rw [bits, UInt8.ofNat_toNat]
      · simp at h

/-- A character is encoded in one to four bytes, by the size of its number. -/
theorem encodeChar_ofNat {n : Nat} (valid : n.isValidChar) :
    encodeChar (Char.ofNat n) =
      if n < 0x80 then [UInt8.ofNat n]
      else if n < 0x800 then [UInt8.ofNat (0xC0 + n / 64), UInt8.ofNat (0x80 + n % 64)]
      else if n < 0x10000 then
        [UInt8.ofNat (0xE0 + n / 4096), UInt8.ofNat (0x80 + n / 64 % 64),
          UInt8.ofNat (0x80 + n % 64)]
      else
        [UInt8.ofNat (0xF0 + n / 262144), UInt8.ofNat (0x80 + n / 4096 % 64),
          UInt8.ofNat (0x80 + n / 64 % 64), UInt8.ofNat (0x80 + n % 64)] := by
  rw [encodeChar, Char.ofNat, dif_pos valid]
  rfl

/-- Three bytes encode no surrogate, and nothing that fewer bytes encode. -/
theorem of_inRange_secondOfThree {k d : Nat} (small : k < 16) (digit : d < 64)
    (h : InRange (secondOfThree k) d) :
    32 ≤ k * 64 + d ∧ (k * 64 + d < 864 ∨ 896 ≤ k * 64 + d) := by
  unfold secondOfThree InRange at h
  split at h
  · dsimp only at h
    omega
  split at h
  · dsimp only at h
    omega
  · omega

/-- Four bytes encode nothing that fewer bytes encode, and no number that is too large. -/
theorem of_inRange_secondOfFour {k d : Nat} (small : k ≤ 4) (digit : d < 64)
    (h : InRange (secondOfFour k) d) : 16 ≤ k * 64 + d ∧ k * 64 + d < 272 := by
  unfold secondOfFour InRange at h
  split at h
  · dsimp only at h
    omega
  split at h
  · dsimp only at h
    omega
  · omega

theorem secondOfThree_bounds (k : Nat) :
    0x80 ≤ (secondOfThree k).1 ∧ (secondOfThree k).2 ≤ 0xBF := by
  unfold secondOfThree
  split
  · decide
  split <;> decide

theorem secondOfFour_bounds (k : Nat) :
    0x80 ≤ (secondOfFour k).1 ∧ (secondOfFour k).2 ≤ 0xBF := by
  unfold secondOfFour
  split
  · decide
  split <;> decide

/-- The character that the first step decodes is encoded by the bytes that it takes. -/
theorem of_first {b : UInt8} {tail rest : Bytes} {c : Char} (h : first b tail = (some c, rest)) :
    b :: tail = encodeChar c ++ rest := by
  rcases lead?_cases b with none | ⟨k, small, rfl⟩ | ⟨k, lower, upper, rfl⟩ | ⟨k, upper, rfl⟩ |
      ⟨k, upper, rfl⟩
  · rw [first, none] at h
    cases h
  · rw [first, lead?_one small] at h
    cases h
    rw [encodeChar_ofNat (.inl (by omega)), if_pos small]
    rfl
  · rw [first, lead?_two lower upper] at h
    obtain ⟨d, bytes, digit, _, rfl, next₁⟩ := of_follow_cons h ⟨Nat.le_refl _, Nat.le_refl _⟩
    rw [follow] at next₁
    cases next₁
    have lead : (k * 64 + d) / 64 = k := by omega
    have last : (k * 64 + d) % 64 = d := by omega
    rw [encodeChar_ofNat (.inl (by omega)), if_neg (by omega), if_pos (by omega), lead, last]
    rfl
  · rw [first, lead?_three upper] at h
    obtain ⟨d, bytes, digit, inside, rfl, next₁⟩ := of_follow_cons h (secondOfThree_bounds k)
    obtain ⟨e, bytes, digit', _, rfl, next₂⟩ := of_follow_cons next₁ ⟨Nat.le_refl _, Nat.le_refl _⟩
    rw [follow] at next₂
    cases next₂
    have valid := of_inRange_secondOfThree upper digit inside
    have lead : ((k * 64 + d) * 64 + e) / 4096 = k := by omega
    have middle : ((k * 64 + d) * 64 + e) / 64 % 64 = d := by omega
    have last : ((k * 64 + d) * 64 + e) % 64 = e := by omega
    rw [encodeChar_ofNat (by unfold Nat.isValidChar; omega), if_neg (by omega), if_neg (by omega),
      if_pos (by omega), lead, middle, last]
    rfl
  · rw [first, lead?_four upper] at h
    obtain ⟨d, bytes, digit, inside, rfl, next₁⟩ := of_follow_cons h (secondOfFour_bounds k)
    obtain ⟨e, bytes, digit', _, rfl, next₂⟩ := of_follow_cons next₁ ⟨Nat.le_refl _, Nat.le_refl _⟩
    obtain ⟨f, bytes, digit'', _, rfl, next₃⟩ := of_follow_cons next₂ ⟨Nat.le_refl _, Nat.le_refl _⟩
    rw [follow] at next₃
    cases next₃
    have valid := of_inRange_secondOfFour upper digit inside
    have lead : (((k * 64 + d) * 64 + e) * 64 + f) / 262144 = k := by omega
    have third : (((k * 64 + d) * 64 + e) * 64 + f) / 4096 % 64 = d := by omega
    have middle : (((k * 64 + d) * 64 + e) * 64 + f) / 64 % 64 = e := by omega
    have last : (((k * 64 + d) * 64 + e) * 64 + f) % 64 = f := by omega
    rw [encodeChar_ofNat (.inr ⟨by omega, by omega⟩), if_neg (by omega), if_neg (by omega),
      if_neg (by omega), lead, third, middle, last]
    rfl

theorem of_units {bytes : Bytes} {text : List Char} (h : units bytes = text.map some) :
    bytes = encode text := by
  induction text generalizing bytes with
  | nil =>
      cases bytes with
      | nil => rfl
      | cons b tail =>
          rw [units] at h
          cases h
  | cons c text ih =>
      cases bytes with
      | nil =>
          rw [units] at h
          cases h
      | cons b tail =>
          rw [units] at h
          obtain ⟨head, others⟩ := List.cons.inj h
          rw [encode_cons, of_first (Prod.ext head rfl), ← ih others]

/-- Bytes are decoded to a text exactly if they are those of the text. -/
theorem decode?_eq_some_iff {bytes : Bytes} {text : List Char} :
    decode? bytes = some text ↔ bytes = encode text := by
  rw [decode?, mapM_id_eq_some_iff]
  constructor
  · exact of_units
  · rintro rfl
    exact units_encode text

theorem ofNat_ne_zero {n : Nat} (pos : 0 < n) (small : n < 256) : UInt8.ofNat n ≠ 0 := by
  intro zero
  have value := congrArg UInt8.toNat zero
  rw [UInt8.toNat_ofNat'] at value
  change n % 256 = 0 at value
  omega

/-- Only the character 0 is encoded with a zero byte. -/
theorem ne_zero_of_mem_encodeChar {c : Char} (other : c ≠ Char.ofNat 0) :
    ∀ b ∈ encodeChar c, b ≠ 0 := by
  have valid := isValid c
  have pos : 0 < c.toNat := by
    refine Nat.pos_of_ne_zero fun zero => other ?_
    rw [← Char.ofNat_toNat c, zero]
  unfold encodeChar
  dsimp only
  generalize c.toNat = n at valid pos ⊢
  have digit (k : Nat) : UInt8.ofNat (0x80 + k % 64) ≠ 0 := ofNat_ne_zero (by omega) (by omega)
  split
  · exact List.forall_mem_singleton.2 (ofNat_ne_zero pos (by omega))
  split
  · refine List.forall_mem_cons.2 ⟨ofNat_ne_zero (by omega) (by omega), ?_⟩
    exact List.forall_mem_singleton.2 (digit n)
  split
  · refine List.forall_mem_cons.2 ⟨ofNat_ne_zero (by omega) (by omega), ?_⟩
    exact List.forall_mem_cons.2 ⟨digit _, List.forall_mem_singleton.2 (digit n)⟩
  · refine List.forall_mem_cons.2 ⟨ofNat_ne_zero (by omega) (by omega), ?_⟩
    refine List.forall_mem_cons.2 ⟨digit _, ?_⟩
    exact List.forall_mem_cons.2 ⟨digit _, List.forall_mem_singleton.2 (digit n)⟩

theorem zero_not_mem_encode {text : List Char} (free : Char.ofNat 0 ∉ text) : 0 ∉ encode text := by
  intro zero
  obtain ⟨c, member, zero⟩ := List.mem_flatMap.1 zero
  exact ne_zero_of_mem_encodeChar (fun same => free (same ▸ member)) 0 zero rfl

theorem zero_mem_encode_iff {text : List Char} : 0 ∈ encode text ↔ Char.ofNat 0 ∈ text := by
  constructor
  · exact fun zero => not_not.1 fun free => zero_not_mem_encode free zero
  · exact fun member => List.mem_flatMap.2 ⟨_, member, List.mem_singleton.2 rfl⟩

end ImageMetadata.Text.Utf8
