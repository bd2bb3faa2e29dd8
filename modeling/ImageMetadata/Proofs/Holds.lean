import ImageMetadata.Bytes

/-!
# Parts of byte strings

What was written at a position of a byte string stands there, whatever comes before and after it;
its parts stand one after the other. Two byte strings may also be the same in a range only, and then
a part of the range is the same part of both.
-/

namespace ImageMetadata

namespace Bytes

/-- Bytes hold a part at a position. -/
def Holds (bytes part : Bytes) (position : Nat) : Prop :=
  ∃ before after, bytes = before ++ (part ++ after) ∧ before.length = position

namespace Holds

variable {bytes l r part : Bytes} {position : Nat}

theorem refl (bytes : Bytes) : bytes.Holds bytes 0 := ⟨[], [], (List.append_nil bytes).symm, rfl⟩

theorem extend (h : bytes.Holds part position) (rest : Bytes) :
    (bytes ++ rest).Holds part position := by
  obtain ⟨before, after, rfl, start⟩ := h
  exact ⟨before, after ++ rest, by simp, start⟩

theorem left (h : bytes.Holds (l ++ r) position) : bytes.Holds l position := by
  obtain ⟨before, after, rfl, start⟩ := h
  exact ⟨before, r ++ after, by rw [List.append_assoc], start⟩

theorem right (h : bytes.Holds (l ++ r) position) : bytes.Holds r (position + l.length) := by
  obtain ⟨before, after, rfl, rfl⟩ := h
  exact ⟨before ++ l, after, by simp, List.length_append⟩

/-- Parts that stand one after the other stand there together. -/
theorem append (hl : bytes.Holds l position) (hr : bytes.Holds r (position + l.length)) :
    bytes.Holds (l ++ r) position := by
  obtain ⟨before, after, rfl, rfl⟩ := hl
  obtain ⟨before', after', same, start⟩ := hr
  rw [← List.append_assoc] at same
  obtain ⟨_, rfl⟩ := List.append_inj same (by rw [List.length_append, start])
  exact ⟨before, after', by simp, rfl⟩

/-- A slice that lies inside stands where it is taken from. -/
theorem of_slice {size : Nat} (h : position + size ≤ bytes.length) :
    bytes.Holds (bytes.slice position size) position := by
  refine ⟨bytes.take position, bytes.drop (position + size), ?_, List.length_take_of_le (by omega)⟩
  rw [slice, ← List.drop_drop, List.take_append_drop, List.take_append_drop]

theorem slice_eq (h : bytes.Holds part position) : bytes.slice position part.length = part := by
  obtain ⟨before, after, rfl, start⟩ := h
  exact slice_middle start rfl

theorem add_length_le (h : bytes.Holds part position) :
    position + part.length ≤ bytes.length := by
  obtain ⟨before, after, rfl, rfl⟩ := h
  simp

theorem unsigned_eq {order : ByteOrder} {width n : Nat}
    (h : bytes.Holds (order.unsignedBytes width n) position) (room : n < capacity width) :
    order.unsigned (bytes.slice position width) = n := by
  have number := h.slice_eq
  rw [ByteOrder.unsignedBytes_length] at number
  rw [number, order.unsigned_unsignedBytes room]

end Holds

/-- Two byte strings are the same in a range. -/
def SameOn (l r : Bytes) (start stop : Nat) : Prop :=
  ∀ i, start ≤ i → i < stop → l[i]? = r[i]?

/-- Two byte strings have one length and are the same outside a range. -/
structure SameOutside (l r : Bytes) (start stop : Nat) : Prop where
  length_eq : l.length = r.length
  getElem?_eq (i : Nat) : i < start ∨ stop ≤ i → l[i]? = r[i]?

variable {l r : Bytes} {start stop first last : Nat}

theorem SameOn.mono (h : l.SameOn r start stop) (before : start ≤ first) (after : last ≤ stop) :
    l.SameOn r first last :=
  fun i le lt => h i (Nat.le_trans before le) (Nat.lt_of_lt_of_le lt after)

theorem SameOn.slice_eq {offset size : Nat} (h : l.SameOn r start stop) (before : start ≤ offset)
    (after : offset + size ≤ stop) : l.slice offset size = r.slice offset size := by
  apply List.ext_getElem?
  intro i
  simp only [slice, List.getElem?_take, List.getElem?_drop]
  split
  · exact h (offset + i) (by omega) (by omega)
  · rfl

/-- A part can be exchanged for another one of its length. -/
theorem SameOutside.of_exchange {part part' : Bytes} (before after : Bytes)
    (h : part.length = part'.length) :
    (before ++ (part ++ after)).SameOutside (before ++ (part' ++ after)) before.length
      (before.length + part.length) where
  length_eq := by simp [h]
  getElem?_eq i outside := by
    rcases outside with lt | ge
    · rw [List.getElem?_append_left lt, List.getElem?_append_left lt]
    · rw [List.getElem?_append_right (by omega), List.getElem?_append_right (by omega),
        List.getElem?_append_right (by omega), List.getElem?_append_right (by omega), h]

theorem SameOutside.before (h : l.SameOutside r start stop) (le : last ≤ start) :
    l.SameOn r first last :=
  fun i _ lt => h.getElem?_eq i (.inl (Nat.lt_of_lt_of_le lt le))

theorem SameOutside.after (h : l.SameOutside r start stop) (le : stop ≤ first) :
    l.SameOn r first last :=
  fun i ge _ => h.getElem?_eq i (.inr (Nat.le_trans le ge))

/-- What is the same outside a part has another part of its length in its place. -/
theorem SameOutside.exists_part {before part after : Bytes}
    (h : (before ++ (part ++ after)).SameOutside r before.length (before.length + part.length)) :
    ∃ part' : Bytes, part'.length = part.length ∧ r = before ++ (part' ++ after) := by
  have long := h.length_eq
  rw [List.length_append, List.length_append] at long
  obtain ⟨front, others, rfl, start⟩ :=
    Bytes.exists_append (show before.length ≤ r.length by omega)
  rw [List.length_append, start] at long
  obtain ⟨part', back, rfl, size⟩ :=
    Bytes.exists_append (show part.length ≤ others.length by omega)
  rw [List.length_append, size] at long
  have unmoved : before = front := by
    have same := (h.before (Nat.le_refl _)).slice_eq (Nat.zero_le 0) (Nat.le_of_eq (Nat.zero_add _))
    rwa [slice, slice, List.drop_zero, List.drop_zero, List.take_left, List.take_left' start]
      at same
  have untouched : after = back := by
    apply List.ext_getElem?
    intro i
    have same := h.getElem?_eq (before.length + part.length + i) (.inr (Nat.le_add_right _ i))
    rw [← List.append_assoc, ← List.append_assoc] at same
    rw [List.getElem?_append_right (by simp), List.getElem?_append_right (by simp [start, size])]
      at same
    simpa [start, size] using same
  exact ⟨part', size, by rw [unmoved, untouched]⟩

/-- The same for a part of a part: only the outer one becomes another one. -/
theorem SameOutside.exists_inner {before whole after : Bytes} {size : Nat}
    (h : (before ++ (whole ++ after)).SameOutside r start (start + size))
    (first : before.length ≤ start) (last : start + size ≤ before.length + whole.length) :
    ∃ front part part' back : Bytes, whole = front ++ (part ++ back) ∧
      r = before ++ ((front ++ (part' ++ back)) ++ after) ∧ part.length = size ∧
      part'.length = size := by
  obtain ⟨front, others, rfl, skipped⟩ :=
    Bytes.exists_append (show start - before.length ≤ whole.length by omega)
  obtain ⟨part, back, rfl, rfl⟩ := Bytes.exists_append (show size ≤ others.length by
    rw [List.length_append] at last
    omega)
  have place : start = (before ++ front).length := by
    rw [List.length_append]
    omega
  have outer : before ++ (front ++ (part ++ back) ++ after) =
      before ++ front ++ (part ++ (back ++ after)) := by
    simp only [List.append_assoc]
  rw [outer, place] at h
  obtain ⟨part', width, rfl⟩ := h.exists_part
  exact ⟨front, part, part', back, rfl, by simp only [List.append_assoc], rfl, width⟩

end Bytes

end ImageMetadata
