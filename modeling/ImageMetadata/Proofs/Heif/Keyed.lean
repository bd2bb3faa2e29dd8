import ImageMetadata.Heif.Content
import Mathlib.Data.List.Induction
import Mathlib.Data.List.Nodup

/-!
# Values by key

Values are collected by key: a key stays where it was first seen and has the value that it was last
seen with. What is said of one insertion gives the same of a list of them, from its front to its
end.
-/

namespace ImageMetadata.Heif.Content

variable {α : Type} {key : Nat} {value : α} {found list : List (Nat × α)}

/-- A known key keeps its place, a new one comes last. -/
theorem keys_insert (key : Nat) (value : α) (found : List (Nat × α)) :
    (insert key value found).map Prod.fst =
      if key ∈ found.map Prod.fst then found.map Prod.fst else found.map Prod.fst ++ [key] := by
  induction found with
  | nil => rfl
  | cons p rest ih =>
      obtain ⟨k, v⟩ := p
      unfold insert
      by_cases same : k = key
      · simp [same]
      · rw [if_neg same, List.map_cons, ih]
        simp only [List.map_cons, List.mem_cons, Ne.symm same, false_or]
        split <;> rfl

theorem insert_of_not_mem (new : key ∉ found.map Prod.fst) :
    insert key value found = found ++ [(key, value)] := by
  induction found with
  | nil => rfl
  | cons p rest ih =>
      obtain ⟨k, v⟩ := p
      simp only [List.map_cons, List.mem_cons, not_or] at new
      rw [insert, if_neg (Ne.symm new.1), ih new.2]
      rfl

/-- Where every key stands once, an insertion sets the value of its key and of no other one. -/
theorem mem_insert_iff (nodup : (found.map Prod.fst).Nodup) {k : Nat} {v : α} :
    (k, v) ∈ insert key value found ↔
      k = key ∧ v = value ∨ k ≠ key ∧ (k, v) ∈ found := by
  induction found with
  | nil => simp [insert]
  | cons p rest ih =>
      obtain ⟨k', v'⟩ := p
      obtain ⟨once, nodup⟩ := List.nodup_cons.1 nodup
      have absent : (k', v) ∉ rest := fun member => once (List.mem_map.2 ⟨_, member, rfl⟩)
      unfold insert
      by_cases same : k' = key
      · subst same
        rw [if_pos rfl, List.mem_cons, List.mem_cons, Prod.mk.injEq, Prod.mk.injEq]
        by_cases first : k = k'
        · subst first
          simp [absent]
        · simp [first]
      · rw [if_neg same, List.mem_cons, List.mem_cons, ih nodup, Prod.mk.injEq]
        constructor
        · rintro (⟨rfl, rfl⟩ | set | ⟨other, member⟩)
          · exact .inr ⟨same, .inl ⟨rfl, rfl⟩⟩
          · exact .inl set
          · exact .inr ⟨other, .inr member⟩
        · rintro (set | ⟨other, ⟨rfl, rfl⟩ | member⟩)
          · exact .inr (.inl set)
          · exact .inl ⟨rfl, rfl⟩
          · exact .inr (.inr ⟨other, member⟩)

/-- A key was last seen with a value. -/
def IsLast (list : List (Nat × α)) (key : Nat) (value : α) : Prop :=
  ∃ before after, list = before ++ (key, value) :: after ∧ key ∉ after.map Prod.fst

theorem isLast_concat_iff {k : Nat} {v : α} :
    IsLast (list ++ [(key, value)]) k v ↔
      k = key ∧ v = value ∨ k ≠ key ∧ IsLast list k v := by
  constructor
  · rintro ⟨before, after, same, last⟩
    rcases after.eq_nil_or_concat' with rfl | ⟨after, p, rfl⟩
    · obtain ⟨_, last⟩ := List.append_inj' same rfl
      cases last
      exact .inl ⟨rfl, rfl⟩
    · rw [← List.cons_append, ← List.append_assoc] at same
      obtain ⟨front, final⟩ := List.append_inj' same rfl
      cases final
      simp only [List.map_append, List.mem_append, not_or, List.map_cons, List.map_nil,
        List.mem_singleton] at last
      exact .inr ⟨last.2, before, after, front, last.1⟩
  · rintro (⟨rfl, rfl⟩ | ⟨other, before, after, rfl, last⟩)
    · exact ⟨list, [], rfl, List.not_mem_nil⟩
    · exact ⟨before, after ++ [(key, value)], by simp, by simpa [other] using last⟩

/-- The first positions of the keys with their last values. -/
structure IsKeyed (list found : List (Nat × α)) : Prop where
  nodup : (found.map Prod.fst).Nodup
  keys_eq : found.map Prod.fst = (list.map Prod.fst).eraseDups
  mem_iff (key : Nat) (value : α) : (key, value) ∈ found ↔ IsLast list key value
  /-- Where no key is repeated, the list is kept as it is. -/
  eq_of_nodup : (list.map Prod.fst).Nodup → found = list

theorem IsKeyed.nil : IsKeyed ([] : List (Nat × α)) [] where
  nodup := List.nodup_nil
  keys_eq := rfl
  mem_iff key value := by simp [IsLast]
  eq_of_nodup _ := rfl

/-- One more insertion takes one more value into account. -/
theorem IsKeyed.insert (h : IsKeyed list found) (key : Nat) (value : α) :
    IsKeyed (list ++ [(key, value)]) (insert key value found) := by
  have known : key ∈ list.map Prod.fst ↔ key ∈ found.map Prod.fst := by
    rw [h.keys_eq, List.mem_eraseDups]
  refine ⟨?_, ?_, fun k v => ?_, fun once => ?_⟩
  · rw [keys_insert]
    split
    · exact h.nodup
    · rename_i new
      refine List.nodup_append.2 ⟨h.nodup, List.nodup_singleton key, fun k old other same => ?_⟩
      rw [List.mem_singleton.1 same]
      exact fun eq => new (eq ▸ old)
  · rw [keys_insert, List.map_append, List.map_singleton, List.eraseDups_append, ← h.keys_eq]
    split
    · rename_i old
      simp [List.removeAll, -List.mem_map, known.2 old]
    · rename_i new
      simp [List.removeAll, -List.mem_map, mt known.1 new, List.eraseDups_cons]
  · rw [mem_insert_iff h.nodup, isLast_concat_iff, h.mem_iff]
  · rw [List.map_append, List.nodup_append] at once
    have new : key ∉ found.map Prod.fst := fun old =>
      once.2.2 key (known.2 old) key (List.mem_singleton_self key) rfl
    rw [insert_of_not_mem new, h.eq_of_nodup once.1]

theorem isKeyed_keyed (list : List (Nat × α)) : IsKeyed list (keyed list) := by
  induction list using List.reverseRecOn with
  | nil => exact .nil
  | append_singleton list p ih =>
      unfold keyed
      rw [List.foldl_concat]
      exact ih.insert p.1 p.2

end ImageMetadata.Heif.Content
