import ImageMetadata.Heif.Items
import ImageMetadata.Proofs.Heif.Forest

/-!
# Document order

In document order a box comes before the boxes inside it, and those come before the next box beside
it. A box is searched with a stack; what is found is the first one in document order. So the boxes
that describe items are those of the first item information box, in the order of the file.
-/

namespace ImageMetadata.Heif

namespace Box

/-- The first box of a forest with a type code, in document order. -/
def first? (id : Bytes) (forest : List Box) : Option Box :=
  (preorderAll forest).find? fun b => b.id = id

/-- A stack holds what is left of the forest in document order. -/
theorem find?_eq_first? (id : Bytes) (stack : List Box) : find? id stack = first? id stack := by
  unfold first?
  induction stack using find?.induct id with
  | case1 => rw [find?, preorderAll_nil, List.find?_nil]
  | case2 b rest here =>
      rw [find?, if_pos here, preorderAll_cons, List.find?_cons_of_pos (by simpa using here)]
  | case3 b rest elsewhere ih =>
      rw [find?, if_neg elsewhere, ih, preorderAll_cons, preorderAll_append,
        List.find?_cons_of_neg (by simpa using elsewhere)]

theorem first?_eq_none_iff {id : Bytes} {forest : List Box} :
    first? id forest = none ↔ Everywhere (fun b => b.id ≠ id) forest := by
  rw [first?, List.find?_eq_none, everywhere_iff]
  simp

theorem first?_eq_some_iff {id : Bytes} {forest : List Box} {b : Box} :
    first? id forest = some b ↔
      b.id = id ∧ ∃ before after, preorderAll forest = before ++ b :: after ∧
        ∀ c ∈ before, c.id ≠ id := by
  rw [first?, List.find?_eq_some_iff_append]
  simp

/-- A search with a stack whose top is at its end. In each turn the top box is taken off; it is what
was looked for, or the boxes inside it are put on, the last one first. -/
inductive Search (id : Bytes) : List Box → Option Box → Prop
  | exhausted : Search id [] none
  | found {stack : List Box} {b : Box} (here : b.id = id) : Search id (stack ++ [b]) (some b)
  | next {stack : List Box} {b : Box} {result : Option Box} (elsewhere : b.id ≠ id)
      (later : Search id (stack ++ b.children.reverse) result) : Search id (stack ++ [b]) result

/-- Every search ends, and the two reversals cancel out. -/
theorem search_iff {id : Bytes} {forest : List Box} {result : Option Box} :
    Search id forest.reverse result ↔ result = find? id forest := by
  constructor
  -- in every turn the stack is some forest in reverse, and its top is the first box of the forest
  · generalize stacked : forest.reverse = stack
    intro h
    induction h generalizing forest with
    | exhausted => rw [List.reverse_eq_nil_iff.1 stacked, find?]
    | @found stack b here =>
        rw [← forest.reverse_reverse, stacked, List.reverse_append, List.reverse_singleton,
          List.singleton_append, find?, if_pos here]
    | @next stack b result elsewhere _ ih =>
        rw [← forest.reverse_reverse, stacked, List.reverse_append, List.reverse_singleton,
          List.singleton_append, find?, if_neg elsewhere]
        refine ih ?_
        rw [List.reverse_append, List.reverse_reverse]
  · rintro rfl
    induction forest using find?.induct id with
    | case1 =>
        rw [find?]
        exact .exhausted
    | case2 b rest here =>
        rw [find?, if_pos here, List.reverse_cons]
        exact .found here
    | case3 b rest elsewhere ih =>
        rw [find?, if_neg elsewhere, List.reverse_cons]
        rw [List.reverse_append] at ih
        exact .next elsewhere ih

theorem item?_eq_some_iff {b : Box} {i : ItemBox} : b.item? = some i ↔ i.toBox = b := by
  unfold item?
  constructor
  · intro found
    split at found
    · cases found
      rfl
    · cases found
  · rintro rfl
    obtain ⟨b, entry, head, content⟩ := i
    dsimp only
    split
    · rename_i head' entry' content'
      obtain ⟨rfl, rfl⟩ := Content.itemEntry.inj (content'.symm.trans content)
      rfl
    · rename_i other
      exact absurd content (other head entry)

end Box

theorem ItemBox.item?_toBox (i : ItemBox) : i.toBox.item? = some i := Box.item?_eq_some_iff.2 rfl

namespace Session

open Box (Everywhere Search first? preorderAll)

/-- In a list of boxes, one describes an item and satisfies a condition, and none before it does. -/
def IsFirstItem (condition : ItemBox → Bool) (list : List Box) (found : ItemBox) : Prop :=
  ∃ before after, list = before ++ found.toBox :: after ∧ condition found = true ∧
    ∀ i : ItemBox, i.toBox ∈ before → condition i = false

theorem firstItem?_eq_none_iff {condition : ItemBox → Bool} {information : Box} :
    firstItem? condition information = none ↔
      ∀ i : ItemBox, i.toBox ∈ information.children → condition i = false := by
  unfold firstItem?
  simp only [List.find?_eq_none, List.mem_filterMap, Box.item?_eq_some_iff, Bool.not_eq_true]
  constructor
  · exact fun h i member => h i ⟨i.toBox, member, rfl⟩
  · rintro h i ⟨b, member, rfl⟩
    exact h i member

theorem firstItem?_eq_some_iff {condition : ItemBox → Bool} {information : Box}
    {found : ItemBox} :
    firstItem? condition information = some found ↔
      IsFirstItem condition information.children found := by
  unfold firstItem? IsFirstItem
  rw [List.find?_filterMap, Option.bind_eq_some_iff]
  simp only [Box.item?_eq_some_iff, List.find?_eq_some_iff_append]
  constructor
  · rintro ⟨_, ⟨satisfied, before, after, list, others⟩, rfl⟩
    rw [found.item?_toBox] at satisfied
    refine ⟨before, after, list, satisfied, fun i member => ?_⟩
    have passed := others _ member
    rw [i.item?_toBox] at passed
    simpa using passed
  · rintro ⟨before, after, list, satisfied, others⟩
    refine ⟨found.toBox, ⟨?_, before, after, list, fun b member => ?_⟩, rfl⟩
    · rw [found.item?_toBox]
      exact satisfied
    · cases described : b.item? with
      | none => rfl
      | some i =>
          obtain rfl := Box.item?_eq_some_iff.1 described
          simp [others i member]

variable {s : Session}

theorem run_find? (id : Bytes) : (find? id).run s = (pure (first? id s.boxes), s) := by
  unfold find?
  rw [Action.run_state_bind, Action.run_pure, Box.find?_eq_first?]

/-- Items are looked for in the first box that describes some, if both item boxes are found. -/
theorem run_findItem (condition : ItemBox → Bool) :
    (findItem condition).run s =
      (match first? (Bytes.ascii "iinf") s.boxes, first? (Bytes.ascii "iloc") s.boxes with
        | none, _ => Outcome.fail .noItemInformation
        | some _, none => Outcome.fail .noItemLocation
        | some information, some _ => pure (firstItem? condition information), s) := by
  unfold findItem itemBoxes
  rw [bind_assoc, Action.run_bind_of_pure _ (run_find? _), bind_assoc,
    Action.run_bind_of_pure _ (run_find? _)]
  cases first? (Bytes.ascii "iinf") s.boxes with
  | none => rfl
  | some information =>
      cases first? (Bytes.ascii "iloc") s.boxes with
      | none => rfl
      | some location => rfl

/-- A file is searched in document order. -/
structure IsSearchedInOrder (s : Session) : Prop where
  /-- The first box with a type code is found, and the boxes stay as they are. -/
  run_find? (id : Bytes) : (find? id).run s = (pure (first? id s.boxes), s)
  /-- No box before it, at whatever depth, has that type code. -/
  found_iff (id : Bytes) (b : Box) :
    first? id s.boxes = some b ↔
      b.id = id ∧ ∃ before after, preorderAll s.boxes = before ++ b :: after ∧
        ∀ c ∈ before, c.id ≠ id
  /-- Nothing is found exactly if no box at any depth has that type code. -/
  none_iff (id : Bytes) : first? id s.boxes = none ↔ Everywhere (fun b => b.id ≠ id) s.boxes
  /-- A search with a stack, on which boxes are put in reverse, ends with that box. -/
  search_iff (id : Bytes) (result : Option Box) :
    Search id s.boxes.reverse result ↔ result = first? id s.boxes
  /-- Without a box that describes the items none is looked for. -/
  undescribed (condition : ItemBox → Bool) :
    first? (Bytes.ascii "iinf") s.boxes = none →
    (findItem condition).run s = (Outcome.fail .noItemInformation, s)
  /-- Neither is one without a box that locates the items. -/
  unlocated {information : Box} (condition : ItemBox → Bool) :
    first? (Bytes.ascii "iinf") s.boxes = some information →
    first? (Bytes.ascii "iloc") s.boxes = none →
    (findItem condition).run s = (Outcome.fail .noItemLocation, s)
  /-- Of the descriptions in the first box that holds some, the first one that satisfies the
  condition is found, if there is one. -/
  described {information location : Box} (condition : ItemBox → Bool) :
    first? (Bytes.ascii "iinf") s.boxes = some information →
    first? (Bytes.ascii "iloc") s.boxes = some location →
    ∃ found, (findItem condition).run s = (pure found, s) ∧
      (∀ f, found = some f ↔ IsFirstItem condition information.children f) ∧
      (found = none ↔ ∀ i : ItemBox, i.toBox ∈ information.children → condition i = false)

/-- Whatever the boxes of a file are, it is searched in document order. Items are looked for among
the descriptions of the first item information box, where the file has an item location box too. -/
theorem isSearchedInOrder (s : Session) : IsSearchedInOrder s where
  run_find? := run_find?
  found_iff _ _ := Box.first?_eq_some_iff
  none_iff _ := Box.first?_eq_none_iff
  search_iff id result := by rw [Box.search_iff, Box.find?_eq_first?]
  undescribed condition missing := by rw [run_findItem, missing]
  unlocated condition found missing := by rw [run_findItem, found, missing]
  described {information location} condition found located :=
    ⟨firstItem? condition information, by rw [run_findItem, found, located],
      fun _ => firstItem?_eq_some_iff, firstItem?_eq_none_iff⟩

/-- A file that describes an item, but has no box that locates the items. -/
def unlocatedFile : Bytes :=
  [0, 0, 0, 16] ++ Bytes.ascii "ftypheic" ++ [0, 0, 0, 0] ++
  [0, 0, 0, 35] ++ Bytes.ascii "iinf" ++ [0, 0, 0, 0, 0, 1] ++
  [0, 0, 0, 21] ++ Bytes.ascii "infe" ++ [2, 0, 0, 0, 0, 1, 0, 0] ++ Bytes.ascii "Exif" ++ [0]

/-- What the file says about the item. -/
def unlocatedEntry : ItemEntry := ⟨1, 0, some (Bytes.ascii "Exif"), "", none, none, none⟩

/-- The box with what the file says about the item. -/
def unlocatedItem : ItemBox where
  toBox := ⟨Bytes.ascii "infe", 30, 21, 8, .itemEntry ⟨2, 0⟩ unlocatedEntry, []⟩
  toItemEntry := unlocatedEntry
  head := ⟨2, 0⟩
  content_eq := rfl

def unlocatedSession : Session where
  cursor := Cursor.ofBytes unlocatedFile .big
  boxes :=
    [⟨Bytes.ascii "ftyp", 0, 16, 8, .fileType (Bytes.ascii "heic") 0 [], []⟩,
      ⟨Bytes.ascii "iinf", 16, 35, 8, .itemInformation ⟨0, 0⟩ 1, [unlocatedItem.toBox]⟩]
  strict := true

/-- The description of the item is the first one in the file that satisfies the condition. It is not
found, since no box locates the items. -/
theorem findItem_refused :
    (readAll 32).run (Session.start unlocatedFile true) = (⟨[], .ok ()⟩, unlocatedSession) ∧
      (∃ information, first? (Bytes.ascii "iinf") unlocatedSession.boxes = some information ∧
        IsFirstItem isExif information.children unlocatedItem) ∧
      (findItem isExif).run unlocatedSession =
        (⟨[], .error .noItemLocation⟩, unlocatedSession) := by
  refine ⟨by with_unfolding_all rfl, ⟨_, by with_unfolding_all rfl, ?_⟩, by with_unfolding_all rfl⟩
  exact ⟨[], [], rfl, by decide, by simp⟩

end Session

end ImageMetadata.Heif
