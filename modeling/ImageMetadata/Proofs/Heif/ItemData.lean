import ImageMetadata.Heif.Items
import ImageMetadata.Proofs.Heif.Forest
import ImageMetadata.Proofs.Runs

/-!
# The data of items

The data of an item is what its extents hold, put together; without the header of the first extent
if asked to. Reading it leaves the session as it was.
-/

namespace ImageMetadata.Heif

open Cursor

/-- What extents hold that count from a start. -/
def extentData (bytes : Bytes) (start : Nat) (extents : List Extent) : Bytes :=
  extents.flatMap fun e => bytes.slice (start + e.offset) e.length

theorem extentData_cons (bytes : Bytes) (start : Nat) (e : Extent) (rest : List Extent) :
    extentData bytes start (e :: rest) =
      bytes.slice (start + e.offset) e.length ++ extentData bytes start rest :=
  List.flatMap_cons

/-- Extents that count from a start end before a limit. -/
def ExtentsFit (start limit : Nat) (extents : List Extent) : Prop :=
  ∀ e ∈ extents, start + e.offset + e.length ≤ limit

namespace Session

variable {c : Cursor} (item : Int) {position length start limit : Nat}

theorem run_readExtent (h : position + length ≤ c.size) :
    (readExtent item position length false).run c =
      .ok (c.bytes.slice position length) { c with position := position + length } := by
  unfold readExtent
  rw [run_bind_of_ok _ (run_seek (by omega))]
  exact run_read (c := { c with position := position }) h

/-- Without its header, an extent holds what follows the number and as many bytes as it says. -/
theorem run_readExtent_header {header : Nat} (big : c.order = .big)
    (h : position + length ≤ c.size)
    (stored : ByteOrder.big.unsigned (c.bytes.slice position 4) = header) (long : 8 ≤ length)
    (fits : header + 4 ≤ length) :
    (readExtent item position length true).run c =
      .ok ((c.bytes.slice position length).drop (header + 4))
        { c with position := position + length } := by
  have number : (Cursor.unsigned 4).run { c with position := position } =
      .ok header { c with position := position + 4 } := by
    rw [run_unsigned (show position + 4 ≤ c.size by omega)]
    simp only [big, stored]
  have skipped : (skip header).run { c with position := position + 4 } =
      .ok () { c with position := position + 4 + header } :=
    run_skip (show position + 4 + header ≤ c.size by omega)
  have data : (Cursor.read (length - header - 4 : Nat)).run
      { c with position := position + 4 + header } =
        .ok ((c.bytes.slice position length).drop (header + 4))
          { c with position := position + length } := by
    have inside : position + 4 + header + (length - header - 4) ≤ c.size := by omega
    have past : position + 4 + header + (length - header - 4) = position + length := by omega
    have part : (c.bytes.slice position length).drop (header + 4) =
        c.bytes.slice (position + 4 + header) (length - header - 4) := by
      rw [Bytes.drop_slice, Nat.sub_sub, Nat.add_assoc, Nat.add_comm 4 header]
    rw [run_read (c := { c with position := position + 4 + header }) inside, part]
    simp only [past]
  unfold readExtent
  rw [run_bind_of_ok _ (run_seek (by omega)), if_pos rfl,
    run_bind_of_ok _ (run_require _ (decide_eq_true long) _), run_bind_of_ok _ number,
    run_bind_of_ok _ (run_require _ (decide_eq_true fits) _), run_bind_of_ok _ skipped]
  exact data

/-- Extents after the first one are read as they are. -/
theorem run_readExtents {extents : List Extent} (skipHeader : Bool) (index : Nat)
    (free : c.mark = none) (fit : ExtentsFit start limit extents) (inside : limit ≤ c.size)
    (plain : skipHeader = false ∨ index ≠ 0) :
    (readExtents item start limit skipHeader index extents).run c =
      .ok (extentData c.bytes start extents) c := by
  induction extents generalizing index with
  | nil => rfl
  | cons e rest ih =>
      have room := fit e (by simp)
      have whole : (skipHeader && index == 0) = false := by
        rcases plain with rfl | later
        · rfl
        · simp [later]
      have first : (restoring (readExtent item (start + e.offset) e.length
          (skipHeader && index == 0))).run c =
            .ok (c.bytes.slice (start + e.offset) e.length) c := by
        rw [whole]
        exact run_restoring free (run_readExtent (c := { c with mark := some c.position }) item
          (show start + e.offset + e.length ≤ c.size by omega))
      have others := ih (index + 1) (fun e member => fit e (by simp [member])) (.inr (by simp))
      unfold readExtents
      rw [run_bind_of_ok _ (run_require _ (decide_eq_true room) c), run_bind_of_ok _ first,
        run_bind_of_ok _ others, extentData_cons]
      rfl

/-- All extents are read, the first one without its header. -/
theorem run_readExtents_header {e : Extent} {rest : List Extent} {header : Nat}
    (free : c.mark = none) (big : c.order = .big) (fit : ExtentsFit start limit (e :: rest))
    (inside : limit ≤ c.size)
    (stored : ByteOrder.big.unsigned (c.bytes.slice (start + e.offset) 4) = header)
    (long : 8 ≤ e.length) (fits : header + 4 ≤ e.length) :
    (readExtents item start limit true 0 (e :: rest)).run c =
      .ok ((extentData c.bytes start (e :: rest)).drop (header + 4)) c := by
  have room := fit e (by simp)
  have first : (restoring (readExtent item (start + e.offset) e.length (true && 0 == 0))).run c =
      .ok ((c.bytes.slice (start + e.offset) e.length).drop (header + 4)) c :=
    run_restoring free (run_readExtent_header (c := { c with mark := some c.position }) item big
      (show start + e.offset + e.length ≤ c.size by omega) stored long fits)
  have others := run_readExtents item true 1 free
    (fun e member => fit e (List.mem_cons_of_mem _ member)) inside (.inr (by simp))
  have whole : (c.bytes.slice (start + e.offset) e.length).length = e.length :=
    Bytes.slice_length_of_le (show start + e.offset + e.length ≤ c.size by omega)
  unfold readExtents
  rw [run_bind_of_ok _ (run_require _ (decide_eq_true room) c), run_bind_of_ok _ first,
    run_bind_of_ok _ others, extentData_cons, List.drop_append_of_le_length (by omega)]
  rfl

open ImageMetadata.Action (Runs)

variable {s : Session}

theorem runs_find? (id : Bytes) : Runs (find? id) s (Box.find? id s.boxes) s :=
  Runs.state_bind (.pure _)

/-- The boxes describe and locate the items, one of them at a given place. -/
structure Locates (s : Session) (item : Int) (l : Location) : Prop where
  described : ∃ b, Box.find? (Bytes.ascii "iinf") s.boxes = some b
  located : ∃ b head items id, Box.find? (Bytes.ascii "iloc") s.boxes = some b ∧
    b.content = .itemLocation head items ∧
    items.find? (fun i => (i.1 : Int) == item) = some (id, l)

/-- The boxes locate an item, whose extents count from a start and end before a limit. -/
structure Places (s : Session) (item : Int) (l : Location) (start limit : Nat) : Prop where
  described : ∃ b, Box.find? (Bytes.ascii "iinf") s.boxes = some b
  located : ∃ b head items id, Box.find? (Bytes.ascii "iloc") s.boxes = some b ∧
    b.content = .itemLocation head items ∧
    items.find? (fun i => (i.1 : Int) == item) = some (id, l)
  within : l.method = 0 ∧ start = 0 ∧ limit = s.cursor.size ∨
    l.method = 1 ∧ ∃ b, Box.find? (Bytes.ascii "idat") s.boxes = some b ∧
      start = b.dataOffset ∧ limit = b.offset + b.length

theorem runs_itemBoxes {information location : Box}
    (hi : Box.find? (Bytes.ascii "iinf") s.boxes = some information)
    (hl : Box.find? (Bytes.ascii "iloc") s.boxes = some location) :
    Runs itemBoxes s (information, location) s := by
  refine (runs_find? _).bind ((runs_find? _).bind ?_)
  rw [hi, hl]
  exact .pure _

theorem runs_findItem (condition : ItemBox → Bool) {information location : Box}
    (hi : Box.find? (Bytes.ascii "iinf") s.boxes = some information)
    (hl : Box.find? (Bytes.ascii "iloc") s.boxes = some location) :
    Runs (findItem condition) s (firstItem? condition information) s :=
  (runs_itemBoxes hi hl).bind (.pure _)

variable {item} {l : Location}

theorem Locates.runs_location (h : s.Locates item l) : Runs (location item) s l s := by
  obtain ⟨information, hi⟩ := h.described
  obtain ⟨box, head, items, id, hl, content, found⟩ := h.located
  apply (runs_itemBoxes hi hl).bind
  dsimp only
  rw [content]
  dsimp only
  rw [found]
  exact .pure _

namespace Places

theorem locates (h : s.Places item l start limit) : s.Locates item l := ⟨h.described, h.located⟩

theorem runs_range? (h : s.Places item l start limit) :
    Runs (range? l) s (some (start, limit)) s := by
  unfold range?
  rcases h.within with ⟨method, rfl, rfl⟩ | ⟨method, b, found, rfl, rfl⟩
  · rw [if_pos method]
    exact Runs.state_bind (.pure _)
  · rw [if_neg (by omega), if_pos method]
    apply (runs_find? _).bind
    rw [found]
    exact .pure _

/-- Where all boxes lie in the file, so does the range of the item. -/
theorem limit_le (h : s.Places item l start limit)
    (inside : Box.Everywhere (fun b => b.offset + b.length ≤ s.cursor.size) s.boxes) :
    limit ≤ s.cursor.size := by
  rcases h.within with ⟨_, _, rfl⟩ | ⟨_, b, found, _, rfl⟩
  · exact Nat.le_refl _
  · exact (inside.of_find? found).2

/-- A reading of the extents that leaves the cursor as it was gives the data of the item. -/
theorem runs_itemData {skipHeader : Bool} {data : Bytes} (h : s.Places item l start limit)
    (nonempty : l.extents ≠ [])
    (read : (readExtents item (start + l.base) limit skipHeader 0 l.extents).run s.cursor =
      .ok data s.cursor) :
    Runs (itemData item skipHeader) s (some data) s := by
  have data' : Runs (reading (readExtents item (start + l.base) limit skipHeader 0 l.extents)) s
      data s := by
    constructor <;> simp only [reading, Action.run, read]
    exact .pure data
  refine h.locates.runs_location.bind (Runs.require_bind _ (by simpa using nonempty) ?_)
  exact h.runs_range?.bind (data'.bind (.pure _))

end Places

end Session

end ImageMetadata.Heif
