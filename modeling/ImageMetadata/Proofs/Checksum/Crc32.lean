import ImageMetadata.Checksum.Crc32
import Mathlib.Logic.Function.Iterate

/-!
# Bursts of errors

A shift of the register is linear, and no other register than zero is shifted to zero; so registers
that differ still do so after any bytes. Four bytes of a message fit into the register: taking them
in one by one is the same as adding them all at once and shifting then. Two messages that differ in
at most four bytes in a row, and nowhere else, therefore have different checksums.
-/

namespace ImageMetadata.Checksum.Crc32

variable {x : BitVec 32} {l l' : Bytes}

/-- A shift is linear. -/
theorem shift_xor (x y : BitVec 32) : shift (x ^^^ y) = shift x ^^^ shift y := by
  unfold shift
  rw [BitVec.getLsbD_xor, BitVec.ushiftRight_xor_distrib]
  cases x.getLsbD 0 <;> cases y.getLsbD 0
  · rfl
  · exact BitVec.xor_assoc _ _ _
  · simp only [Bool.true_xor, Bool.not_false, if_true, Bool.false_eq_true, if_false]
    rw [BitVec.xor_assoc, BitVec.xor_comm (y >>> 1), BitVec.xor_assoc]
  · -- The polynomial is added twice.
    simp only [Bool.true_xor, Bool.not_true, if_true, Bool.false_eq_true, if_false]
    rw [BitVec.xor_assoc, BitVec.xor_comm polynomial, BitVec.xor_assoc, BitVec.xor_self,
      BitVec.xor_zero]

/-- The highest bit of the polynomial tells that a one fell out, so only zero is shifted to zero. -/
theorem eq_zero_of_shift_eq_zero (h : shift x = 0#32) : x = 0#32 := by
  unfold shift at h
  split at h
  · have top := congrArg (fun z => z.getLsbD 31) h
    simp [polynomial] at top
  · rename_i even
    apply BitVec.eq_of_getLsbD_eq
    intro i _
    cases i with
    | zero => simpa using even
    | succ i =>
        have bit := congrArg (fun z => z.getLsbD i) h
        simpa [Nat.add_comm] using bit

theorem shift_injective : Function.Injective shift := by
  intro x y h
  apply BitVec.xor_eq_zero_iff.1
  apply eq_zero_of_shift_eq_zero
  rw [shift_xor, h, BitVec.xor_self]

/-- A register whose highest bit is free is shifted back and forth. -/
theorem shift_shiftLeft (free : x.getLsbD 31 = false) : shift (x <<< 1) = x := by
  have even : (x <<< 1).getLsbD 0 = false := by simp
  rw [shift, even, if_neg Bool.false_ne_true]
  apply BitVec.eq_of_getLsbD_eq
  intro i below
  rw [BitVec.getLsbD_ushiftRight, BitVec.getLsbD_shiftLeft]
  by_cases top : i = 31
  · rw [top, free]
    rfl
  · have inside : 1 + i < 32 := by omega
    simp [inside]

theorem shiftByte_xor (x y : BitVec 32) : shiftByte (x ^^^ y) = shiftByte x ^^^ shiftByte y := by
  simp only [shiftByte, shift_xor]

theorem shiftByte_injective : Function.Injective shiftByte := by
  intro x y h
  simpa only [shiftByte, shift_injective.eq_iff] using h

/-- A register whose highest byte is free is shifted back and forth by a byte. -/
theorem shiftByte_shiftLeft (free : ∀ i, 24 ≤ i → x.getLsbD i = false) :
    shiftByte (x <<< 8) = x := by
  have back (n : Nat) (h : n < 8) : shift (x <<< (n + 1)) = x <<< n := by
    rw [BitVec.shiftLeft_add]
    apply shift_shiftLeft
    simp only [BitVec.getLsbD_shiftLeft, free (31 - n) (by omega), Bool.and_false]
  unfold shiftByte
  rw [back 7 (by decide), back 6 (by decide), back 5 (by decide), back 4 (by decide),
    back 3 (by decide), back 2 (by decide), back 1 (by decide), back 0 (by decide),
    BitVec.shiftLeft_zero]

/-- The number that at most four bytes store, the least significant one first. -/
def word : Bytes → BitVec 32
  | [] => 0#32
  | b :: rest => b.toBitVec.setWidth 32 ^^^ word rest <<< 8

/-- The bytes of a word take no more room than they have to. -/
theorem getLsbD_word {i : Nat} (h : 8 * l.length ≤ i) : (word l).getLsbD i = false := by
  induction l generalizing i with
  | nil => simp [word]
  | cons b rest ih =>
      rw [List.length_cons] at h
      have others := ih (i := i - 8) (by omega)
      have high : b.toBitVec.getLsbD i = false := BitVec.getLsbD_of_ge _ _ (by omega)
      rw [word, BitVec.getLsbD_xor, BitVec.getLsbD_setWidth, BitVec.getLsbD_shiftLeft, high, others,
        Bool.and_false, Bool.and_false, Bool.false_xor]

/-- A word with at most three bytes leaves the highest byte of the register free. -/
theorem shiftByte_word (short : l.length ≤ 3) : shiftByte (word l <<< 8) = word l :=
  shiftByte_shiftLeft fun _ high => getLsbD_word (by omega)

/-- Up to four bytes are taken in at once. -/
theorem run_eq_iterate (register : BitVec 32) (short : l.length ≤ 4) :
    run register l = shiftByte^[l.length] (register ^^^ word l) := by
  induction l generalizing register with
  | nil => simp [run, word]
  | cons b rest ih =>
      have room : rest.length ≤ 3 := Nat.le_of_succ_le_succ short
      calc run register (b :: rest)
          = run (step register b) rest := rfl
        _ = shiftByte^[rest.length] (step register b ^^^ word rest) :=
            ih _ (Nat.le_succ_of_le room)
        _ = shiftByte^[rest.length] (step register b ^^^ shiftByte (word rest <<< 8)) := by
            rw [shiftByte_word room]
        _ = shiftByte^[rest.length] (shiftByte (register ^^^ word (b :: rest))) := by
            rw [step, ← shiftByte_xor, BitVec.xor_assoc, word]
        _ = shiftByte^[(b :: rest).length] (register ^^^ word (b :: rest)) := rfl

/-- The lowest byte of a word is the first one. -/
theorem setWidth_word (b : UInt8) (rest : Bytes) :
    (word (b :: rest)).setWidth 8 = b.toBitVec := by
  apply BitVec.eq_of_getLsbD_eq
  intro i below
  simp [word, below]

/-- Bytes of one number are told apart by their words. -/
theorem eq_of_word_eq (same : l.length = l'.length) (short : l.length ≤ 4)
    (h : word l = word l') : l = l' := by
  induction l generalizing l' with
  | nil => exact (List.eq_nil_of_length_eq_zero same.symm).symm
  | cons b rest ih =>
      cases l' with
      | nil => cases same
      | cons b' rest' =>
          have first : b = b' := by
            apply UInt8.toBitVec_inj.1
            rw [← setWidth_word b rest, h, setWidth_word]
          subst first
          have size : rest.length = rest'.length := Nat.succ.inj same
          have room : rest.length ≤ 3 := Nat.le_of_succ_le_succ short
          have others : word rest <<< 8 = word rest' <<< 8 := (BitVec.xor_right_inj _).1 h
          have words : word rest = word rest' := by
            rw [← shiftByte_word room, others, shiftByte_word (size ▸ room)]
          rw [ih size (Nat.le_succ_of_le room) words]

/-- The same bytes keep registers apart. -/
theorem run_injective (bytes : Bytes) : Function.Injective fun register => run register bytes := by
  induction bytes with
  | nil => exact fun _ _ h => h
  | cons b rest ih =>
      intro x y h
      have stepped : step x b = step y b := ih h
      exact (BitVec.xor_left_inj _).1 (shiftByte_injective stepped)

/-- Different bytes, at most four of them, set registers apart. -/
theorem run_ne (register : BitVec 32) (same : l.length = l'.length) (short : l.length ≤ 4)
    (other : l ≠ l') : run register l ≠ run register l' := by
  intro h
  rw [run_eq_iterate register short, run_eq_iterate register (same ▸ short), ← same] at h
  have added := shiftByte_injective.iterate l.length h
  exact other (eq_of_word_eq same short ((BitVec.xor_right_inj _).1 added))

/-- Where one message has other bytes than another one, at most four in a row, and is the same
before and behind them, the checksums differ. -/
theorem checksum_ne (before after : Bytes) (same : l.length = l'.length) (short : l.length ≤ 4)
    (other : l ≠ l') : checksum (before ++ (l ++ after)) ≠ checksum (before ++ (l' ++ after)) := by
  intro h
  have registers := BitVec.not_inj.1 h
  rw [run_append, run_append, run_append, run_append] at registers
  exact run_ne _ same short other (run_injective after registers)

end ImageMetadata.Checksum.Crc32
