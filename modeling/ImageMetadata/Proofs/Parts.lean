/-!
# Parts in a row

Parts that stand one after the other are read each at its own offset. Which parts come before a part
only moves it.
-/

namespace ImageMetadata

variable {α β γ : Type} {length : α → Nat} {read : Nat → α → β}

/-- What is read from parts of given lengths that stand from an offset on. -/
def readParts (length : α → Nat) (read : Nat → α → β) (offset : Nat) : List α → List β
  | [] => []
  | a :: rest => read offset a :: readParts length read (offset + length a) rest

/-- How much room parts take together. -/
def partsLength (length : α → Nat) : List α → Nat
  | [] => 0
  | a :: rest => length a + partsLength length rest

/-- Parts that come later stand behind all earlier ones. -/
theorem readParts_append_eq (offset : Nat) (l r : List α) :
    readParts length read offset (l ++ r) =
      readParts length read offset l ++
        readParts length read (offset + partsLength length l) r := by
  induction l generalizing offset with
  | nil => rfl
  | cons a rest ih =>
      rw [List.cons_append, readParts, readParts, ih, partsLength, List.cons_append, Nat.add_assoc]

theorem readParts_append (offset : Nat) (l r : List α) :
    ∃ position, readParts length read offset (l ++ r) =
      readParts length read offset l ++ readParts length read position r :=
  ⟨_, readParts_append_eq offset l r⟩

/-- Where each part is read as an image of what is read at its first place, so are all parts. -/
theorem readParts_map {read' : Nat → α → γ} {image : β → γ} {offset : Nat} {list : List α}
    (size : Nat) (h : ∀ a ∈ list, ∀ position, offset ≤ position →
      position + length a ≤ offset + partsLength length list →
        read' (position + size) a = image (read position a)) :
    readParts length read' (offset + size) list =
      (readParts length read offset list).map image := by
  induction list generalizing offset with
  | nil => rfl
  | cons a rest ih =>
      rw [partsLength] at h
      have others := @ih (offset + length a) fun b member position first last =>
        h b (List.mem_cons_of_mem a member) position (by omega) (by omega)
      rw [readParts, readParts, List.map_cons, ← others, Nat.add_right_comm,
        h a List.mem_cons_self offset (Nat.le_refl offset) (by omega)]

/-- Whatever is read comes from one of the parts. -/
theorem exists_of_mem_readParts {offset : Nat} {list : List α} {b : β}
    (member : b ∈ readParts length read offset list) :
    ∃ a ∈ list, ∃ position, read position a = b := by
  induction list generalizing offset with
  | nil => cases member
  | cons a rest ih =>
      rcases List.mem_cons.1 member with rfl | later
      · exact ⟨a, List.mem_cons_self, offset, rfl⟩
      · obtain ⟨c, found, same⟩ := ih later
        exact ⟨c, List.mem_cons_of_mem a found, same⟩

theorem length_readParts (offset : Nat) (list : List α) :
    (readParts length read offset list).length = list.length := by
  induction list generalizing offset with
  | nil => rfl
  | cons a rest ih => rw [readParts, List.length_cons, ih, List.length_cons]

/-- Every part is read somewhere. -/
theorem exists_mem_readParts (offset : Nat) {list : List α} {a : α} (member : a ∈ list) :
    ∃ position, read position a ∈ readParts length read offset list := by
  induction list generalizing offset with
  | nil => cases member
  | cons b rest ih =>
      rcases List.mem_cons.1 member with rfl | later
      · exact ⟨offset, List.mem_cons_self⟩
      · obtain ⟨position, found⟩ := ih (offset + length b) later
        exact ⟨position, List.mem_cons_of_mem _ found⟩

/-- What is read in a place is read from the part in that place, behind those before it. -/
theorem exists_of_getElem?_readParts {offset index : Nat} {list : List α} {b : β}
    (found : (readParts length read offset list)[index]? = some b) :
    ∃ before a after, list = before ++ a :: after ∧ before.length = index ∧
      read (offset + partsLength length before) a = b := by
  induction list generalizing offset index with
  | nil => cases found
  | cons a rest ih =>
      cases index with
      | zero => exact ⟨[], a, rest, rfl, rfl, Option.some.inj found⟩
      | succ index =>
          obtain ⟨before, c, after, rfl, rfl, same⟩ := ih found
          refine ⟨a :: before, c, after, rfl, rfl, ?_⟩
          rw [partsLength, ← Nat.add_assoc]
          exact same

end ImageMetadata
