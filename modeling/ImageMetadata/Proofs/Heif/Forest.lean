import ImageMetadata.Heif.Box

/-!
# Properties of box forests

In document order a box comes before the boxes inside it, and those come before the next box beside
it. A property may hold of the boxes at every depth; then it holds of every box that is found.
-/

namespace ImageMetadata.Heif

namespace Box

mutual

/-- A box and the boxes inside, in document order. -/
def preorder : Box → List Box
  | ⟨id, offset, length, headerSize, content, children⟩ =>
    ⟨id, offset, length, headerSize, content, children⟩ :: preorderAll children

/-- The boxes of a forest at every depth, in document order. -/
def preorderAll : List Box → List Box
  | [] => []
  | b :: rest => b.preorder ++ preorderAll rest

end

@[simp] theorem preorderAll_nil : preorderAll [] = [] := by rw [preorderAll]

@[simp] theorem preorderAll_cons (b : Box) (rest : List Box) :
    preorderAll (b :: rest) = b :: (preorderAll b.children ++ preorderAll rest) := by
  cases b
  rw [preorderAll, preorder, List.cons_append]

theorem preorderAll_append (l r : List Box) :
    preorderAll (l ++ r) = preorderAll l ++ preorderAll r := by
  induction l with
  | nil => simp
  | cons b rest ih => simp [ih]

theorem mem_preorderAll_cons {b x : Box} {rest : List Box} :
    x ∈ preorderAll (b :: rest) ↔ x = b ∨ x ∈ preorderAll b.children ∨ x ∈ preorderAll rest := by
  simp

/-- A property holds of all boxes of a forest, at every depth. -/
inductive Everywhere (P : Box → Prop) : List Box → Prop
  | nil : Everywhere P []
  | cons {b : Box} {rest : List Box} (head : P b) (children : Everywhere P b.children)
      (siblings : Everywhere P rest) : Everywhere P (b :: rest)

namespace Everywhere

variable {P : Box → Prop}

theorem append {l r : List Box} (hl : Everywhere P l) (hr : Everywhere P r) :
    Everywhere P (l ++ r) := by
  induction l with
  | nil => exact hr
  | cons b rest ih =>
      obtain _ | ⟨head, children, siblings⟩ := hl
      exact cons head children (ih siblings)

theorem mono {Q : Box → Prop} {stack : List Box} (h : Everywhere P stack)
    (k : ∀ b, P b → Q b) : Everywhere Q stack := by
  induction h with
  | nil => exact nil
  | cons head _ _ children siblings => exact cons (k _ head) children siblings

/-- A box that is found has the type that was looked for, and the property. -/
theorem of_find? {id : Bytes} {stack : List Box} {b : Box} (h : Everywhere P stack)
    (found : find? id stack = some b) : b.id = id ∧ P b := by
  induction stack using find?.induct id with
  | case1 => simp [find?] at found
  | case2 first rest here =>
      rw [find?, if_pos here] at found
      obtain _ | ⟨head, _, _⟩ := h
      cases found
      exact ⟨here, head⟩
  | case3 first rest elsewhere ih =>
      rw [find?, if_neg elsewhere] at found
      obtain _ | ⟨_, children, siblings⟩ := h
      exact ih (children.append siblings) found

/-- What holds of all boxes in document order holds at every depth. -/
theorem of_forall (forest : List Box) (h : ∀ b ∈ preorderAll forest, P b) :
    Everywhere P forest := by
  match forest with
  | [] => exact nil
  | b :: rest =>
      rw [preorderAll_cons, List.forall_mem_cons, List.forall_mem_append] at h
      obtain ⟨head, children, siblings⟩ := h
      exact cons head (of_forall b.children children) (of_forall rest siblings)
termination_by countAll forest
decreasing_by all_goals rw [countAll, count_eq]; omega

end Everywhere

/-- The boxes at every depth are those in document order. -/
theorem everywhere_iff {P : Box → Prop} {forest : List Box} :
    Everywhere P forest ↔ ∀ b ∈ preorderAll forest, P b := by
  refine ⟨fun h => ?_, Everywhere.of_forall forest⟩
  induction h with
  | nil => simp
  | cons head _ _ children siblings =>
      rw [preorderAll_cons, List.forall_mem_cons, List.forall_mem_append]
      exact ⟨head, children, siblings⟩

end Box

end ImageMetadata.Heif
