/-!
# Byte strings and stored integers

A byte string is a list of bytes. An integer of a fixed width is stored in one of two byte orders;
reading takes exactly the bytes of the integer, writing produces them, and each undoes the other.
-/

namespace ImageMetadata

/-- A byte string. -/
abbrev Bytes := List UInt8

namespace Bytes

/-- The bytes of an ASCII text, one per character. -/
def ascii (text : String) : Bytes := text.toList.map fun c => UInt8.ofNat c.toNat

/-- At most `size` bytes from `offset` on. -/
def slice (bytes : Bytes) (offset size : Nat) : Bytes := (bytes.drop offset).take size

/-- How many numbers can be stored in a field of some bytes. -/
def capacity (width : Nat) : Nat := Nat.pow 256 width

theorem capacity_succ (width : Nat) : capacity (width + 1) = capacity width * 256 := rfl

/-- The bytes without the trailing bytes that satisfy `drop`. -/
def trimEnd (drop : UInt8 → Bool) (bytes : Bytes) : Bytes :=
  (bytes.reverse.dropWhile drop).reverse

/-- The bytes before and after the first zero byte, if there is one. -/
def splitZero? : Bytes → Option (Bytes × Bytes)
  | [] => none
  | b :: rest => if b = 0 then some ([], rest) else (splitZero? rest).map fun p => (b :: p.1, p.2)

theorem splitZero?_append {chars : Bytes} (free : 0 ∉ chars) (rest : Bytes) :
    splitZero? (chars ++ 0 :: rest) = some (chars, rest) := by
  induction chars with
  | nil => rfl
  | cons b chars ih =>
    rw [List.mem_cons, not_or] at free
    rw [List.cons_append, splitZero?, if_neg (Ne.symm free.1), ih free.2]
    rfl

/-- Bytes are split at their first zero byte. -/
theorem splitZero?_eq_some_iff {bytes chars rest : Bytes} :
    splitZero? bytes = some (chars, rest) ↔ bytes = chars ++ 0 :: rest ∧ 0 ∉ chars := by
  constructor
  · intro h
    induction bytes generalizing chars with
    | nil => cases h
    | cons b bytes ih =>
      rw [splitZero?] at h
      split at h
      · rename_i zero
        cases h
        exact ⟨by rw [zero]; rfl, List.not_mem_nil⟩
      · rename_i other
        obtain ⟨⟨before, after⟩, found, same⟩ := Option.map_eq_some_iff.1 h
        cases same
        obtain ⟨rfl, free⟩ := ih found
        exact ⟨rfl, fun member => (List.mem_cons.1 member).elim (fun eq => other eq.symm) free⟩
  · rintro ⟨rfl, free⟩
    exact splitZero?_append free rest

theorem slice_length (bytes : Bytes) (offset size : Nat) :
    (slice bytes offset size).length = min size (bytes.length - offset) := by
  simp [slice]

theorem slice_length_of_le {bytes : Bytes} {offset size : Nat} (h : offset + size ≤ bytes.length) :
    (slice bytes offset size).length = size := by
  rw [slice_length]; omega

/-- A code that is found somewhere ends inside the bytes. -/
theorem le_length_of_slice_eq {bytes code : Bytes} {offset size : Nat}
    (found : bytes.slice offset size = code) (whole : code.length = size) (some : 0 < size) :
    offset + size ≤ bytes.length := by
  rw [← found, slice_length] at whole
  omega

theorem drop_slice (bytes : Bytes) (offset size count : Nat) :
    (slice bytes offset size).drop count = slice bytes (offset + count) (size - count) := by
  rw [slice, slice, List.drop_take, List.drop_drop]

theorem take_slice (bytes : Bytes) (offset size count : Nat) :
    (slice bytes offset size).take count = slice bytes offset (min count size) := by
  rw [slice, slice, List.take_take]

/-- Slices that follow each other are one slice. -/
theorem slice_append_slice (bytes : Bytes) (offset size more : Nat) :
    slice bytes offset size ++ slice bytes (offset + size) more =
      slice bytes offset (size + more) := by
  rw [slice, slice, slice, List.take_add, List.drop_drop]

/-- A slice of bytes that are put together is the part that stands there. -/
theorem slice_middle {before part after : Bytes} {offset size : Nat}
    (ho : before.length = offset) (hs : part.length = size) :
    slice (before ++ (part ++ after)) offset size = part := by
  rw [slice, List.drop_left' ho, List.take_left' hs]

/-- Bytes can be cut after any number of them. -/
theorem exists_append {bytes : Bytes} {n : Nat} (h : n ≤ bytes.length) :
    ∃ l r, bytes = l ++ r ∧ l.length = n :=
  ⟨bytes.take n, bytes.drop n, (List.take_append_drop n bytes).symm, List.length_take_of_le h⟩

end Bytes

/-- The order in which the bytes of a stored integer stand. -/
inductive ByteOrder where
  | little
  | big
  deriving DecidableEq, Repr

namespace ByteOrder

/-- The sign by which a byte order is shown. -/
def sign : ByteOrder → String
  | little => "<"
  | big => ">"

/-- The byte order with a given sign. -/
def ofSign? (text : String) : Option ByteOrder :=
  if text = "<" then some little else if text = ">" then some big else none

@[simp] theorem ofSign?_sign (order : ByteOrder) : ofSign? order.sign = some order := by
  cases order <;> decide

/-- The number whose bytes stand with the least significant one first. -/
def littleValue : Bytes → Nat
  | [] => 0
  | b :: rest => b.toNat + 256 * littleValue rest

/-- The `width` low bytes of a number, the least significant one first. -/
def littleBytes : Nat → Nat → Bytes
  | 0, _ => []
  | width + 1, n => UInt8.ofNat (n % 256) :: littleBytes width (n / 256)

/-- The unsigned integer that the bytes store. -/
def unsigned : ByteOrder → Bytes → Nat
  | little, bytes => littleValue bytes
  | big, bytes => littleValue bytes.reverse

/-- The integer that the bytes store in two's complement. -/
def signed (order : ByteOrder) (bytes : Bytes) : Int :=
  Int.bmod (order.unsigned bytes) (Bytes.capacity bytes.length)

/-- The `width` bytes that store an unsigned integer. -/
def unsignedBytes : ByteOrder → Nat → Nat → Bytes
  | little, width, n => littleBytes width n
  | big, width, n => (littleBytes width n).reverse

/-- The `width` bytes that store an integer in two's complement. -/
def signedBytes (order : ByteOrder) (width : Nat) (n : Int) : Bytes :=
  order.unsignedBytes width (n % Bytes.capacity width).toNat

@[simp] theorem littleBytes_length (width n : Nat) : (littleBytes width n).length = width := by
  induction width generalizing n with
  | zero => rfl
  | succ width ih => simp [littleBytes, ih]

theorem littleValue_littleBytes {width n : Nat} (h : n < Bytes.capacity width) :
    littleValue (littleBytes width n) = n := by
  induction width generalizing n with
  | zero =>
    have zero : n < 1 := h
    simp only [littleBytes, littleValue]
    omega
  | succ width ih =>
    have quotient : n / 256 < Bytes.capacity width := by
      rw [Bytes.capacity_succ] at h
      exact Nat.div_lt_of_lt_mul (by omega)
    have digit : (UInt8.ofNat (n % 256)).toNat = n % 256 := by
      rw [UInt8.toNat_ofNat']
      omega
    rw [littleBytes, littleValue, ih quotient, digit]
    omega

/-- A number that fits into its bytes is stored. -/
theorem unsigned_unsignedBytes (order : ByteOrder) {width n : Nat} (h : n < Bytes.capacity width) :
    order.unsigned (order.unsignedBytes width n) = n := by
  cases order with
  | little => exact littleValue_littleBytes h
  | big =>
    rw [unsigned, unsignedBytes, List.reverse_reverse]
    exact littleValue_littleBytes h

theorem littleValue_lt (bytes : Bytes) : littleValue bytes < Bytes.capacity bytes.length := by
  induction bytes with
  | nil => exact Nat.zero_lt_one
  | cons b rest ih =>
    have digit := b.toNat_lt
    rw [littleValue, List.length_cons, Bytes.capacity_succ]
    omega

/-- The number that some bytes store fits into as many bytes. -/
theorem unsigned_lt (order : ByteOrder) (bytes : Bytes) :
    order.unsigned bytes < Bytes.capacity bytes.length := by
  cases order with
  | little => exact littleValue_lt bytes
  | big =>
    rw [← List.length_reverse]
    exact littleValue_lt bytes.reverse

theorem littleBytes_littleValue (bytes : Bytes) :
    littleBytes bytes.length (littleValue bytes) = bytes := by
  induction bytes with
  | nil => rfl
  | cons b rest ih =>
    have digit := b.toNat_lt
    have low : (b.toNat + 256 * littleValue rest) % 256 = b.toNat := by omega
    have high : (b.toNat + 256 * littleValue rest) / 256 = littleValue rest := by omega
    rw [List.length_cons, littleBytes, littleValue, low, high, ih, UInt8.ofNat_toNat]

/-- Bytes are the ones that store the number that they store. -/
theorem unsignedBytes_unsigned (order : ByteOrder) (bytes : Bytes) :
    order.unsignedBytes bytes.length (order.unsigned bytes) = bytes := by
  cases order with
  | little => exact littleBytes_littleValue bytes
  | big =>
    rw [unsigned, unsignedBytes, ← List.length_reverse, littleBytes_littleValue,
      List.reverse_reverse]

@[simp] theorem unsignedBytes_length (order : ByteOrder) (width n : Nat) :
    (order.unsignedBytes width n).length = width := by
  cases order <;> simp [unsignedBytes]

end ByteOrder

end ImageMetadata
