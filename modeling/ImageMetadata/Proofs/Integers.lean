import ImageMetadata.Bytes

/-!
# Integers of fixed widths

An integer is stored without a sign or in two's complement. Every integer in the range of its width
is read back from the bytes that store it.
-/

namespace ImageMetadata

/-- Whether stored integers have a sign. -/
inductive Signedness where
  | unsigned
  | signed

namespace Signedness

/-- The integers that can be stored in some bytes. -/
def Fits (width : Nat) (n : Int) : Signedness → Prop
  | unsigned => 0 ≤ n ∧ n < Bytes.capacity width
  | signed => -Bytes.capacity width ≤ n * 2 ∧ n * 2 < Bytes.capacity width

instance (width : Nat) (n : Int) : (sign : Signedness) → Decidable (sign.Fits width n)
  | unsigned => inferInstanceAs (Decidable (0 ≤ n ∧ n < Bytes.capacity width))
  | signed =>
    inferInstanceAs (Decidable (-Bytes.capacity width ≤ n * 2 ∧ n * 2 < Bytes.capacity width))

/-- The bytes that store an integer. -/
def write (order : ByteOrder) (width : Nat) (n : Int) : Signedness → Bytes
  | unsigned => order.unsignedBytes width n.toNat
  | signed => order.signedBytes width n

/-- The integer that bytes store. -/
def read (order : ByteOrder) (bytes : Bytes) : Signedness → Int
  | unsigned => order.unsigned bytes
  | signed => order.signed bytes

@[simp] theorem length_write (order : ByteOrder) (width : Nat) (n : Int) (sign : Signedness) :
    (sign.write order width n).length = width := by
  cases sign <;> exact ByteOrder.unsignedBytes_length order width _

/-- An integer is read back if it is in range. -/
theorem read_write {width : Nat} {n : Int} {sign : Signedness} (order : ByteOrder)
    (h : sign.Fits width n) : sign.read order (sign.write order width n) = n := by
  cases sign with
  | unsigned =>
      obtain ⟨low, high⟩ := h
      have fits : n.toNat < Bytes.capacity width := by omega
      rw [read, write, ByteOrder.unsigned_unsignedBytes order fits, Int.toNat_of_nonneg low]
  | signed =>
      obtain ⟨low, high⟩ := h
      have positive : (0 : Int) < Bytes.capacity width := by omega
      have digits : (n % Bytes.capacity width).toNat < Bytes.capacity width := by
        have below := Int.emod_lt_of_pos n positive
        omega
      calc order.signed (order.signedBytes width n)
          = Int.bmod (n % Bytes.capacity width).toNat (Bytes.capacity width) := by
            rw [ByteOrder.signed, ByteOrder.signedBytes, ByteOrder.unsigned_unsignedBytes _ digits,
              ByteOrder.unsignedBytes_length]
        _ = Int.bmod n (Bytes.capacity width) := by
            rw [Int.toNat_of_nonneg (Int.emod_nonneg n (Int.ne_of_gt positive)), Int.emod_bmod]
        _ = n := Int.bmod_eq_of_le_mul_two low high

end Signedness

end ImageMetadata
