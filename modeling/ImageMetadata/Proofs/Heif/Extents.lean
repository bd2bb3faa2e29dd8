import ImageMetadata.Proofs.Embedding.Heif
import ImageMetadata.Proofs.Heif.Queries

/-!
# Extents that hold the data of items

The data of an item with a place is what its extents hold. It is answered just if they end before
the limit of the place and, where a header is left out, if the first one also covers the header; so
how a range is cut into extents does not matter. Whatever else is asked for is refused because of
the bytes, except that a lenient reader warns of data that it cannot read.
-/

namespace ImageMetadata.Heif

open Cursor

/-- One or more extents that follow each other from an offset on and have a total length. -/
inductive IsCut : Nat → Nat → List Extent → Prop
  | last (offset size : Nat) : IsCut offset size [⟨offset, size⟩]
  | cons {offset size length : Nat} {rest : List Extent} (h : IsCut (offset + size) length rest) :
      IsCut offset (size + length) (⟨offset, size⟩ :: rest)

namespace IsCut

variable {offset length : Nat} {extents : List Extent}

/-- Together the extents hold the range. -/
theorem extentData_eq (h : IsCut offset length extents) (bytes : Bytes) (start : Nat) :
    extentData bytes start extents = bytes.slice (start + offset) length := by
  induction h with
  | last offset size =>
      rw [extentData_cons]
      exact List.append_nil _
  | cons _ ih =>
      rw [extentData_cons, ih, ← Nat.add_assoc]
      exact bytes.slice_append_slice _ _ _

/-- The extents lie where the range lies. -/
theorem fit (h : IsCut offset length extents) {start limit : Nat}
    (room : start + offset + length ≤ limit) : ExtentsFit start limit extents := by
  induction h with
  | last offset size => exact List.forall_mem_singleton.2 room
  | cons _ ih => exact List.forall_mem_cons.2 ⟨by dsimp only; omega, ih (by omega)⟩

theorem ne_nil (h : IsCut offset length extents) : extents ≠ [] := by
  cases h <;> exact List.cons_ne_nil _ _

/-- The first extent stands at the start of the range. -/
theorem offset_eq {first : Extent} {others : List Extent}
    (h : IsCut offset length (first :: others)) : first.offset = offset := by
  cases h <;> rfl

end IsCut

/-- The number that is stored in four bytes at a position. -/
def storedSize (bytes : Bytes) (position : Nat) : Nat :=
  ByteOrder.big.unsigned (bytes.slice position 4)

/-- As many bytes from a position on have room for a TIFF header and cover the size at their start
with the header that it measures. -/
structure CoversHeader (bytes : Bytes) (position length : Nat) : Prop where
  long : 8 ≤ length
  fits : storedSize bytes position + 4 ≤ length

namespace Session

section

variable {item : Int} {start limit : Nat} {c d : Cursor} {data : Bytes} {e : Extent}
  {extents rest : List Extent}

theorem fit_of_run_readExtents {skipHeader : Bool} {index : Nat}
    (read : (readExtents item start limit skipHeader index extents).run c = .ok data d) :
    ExtentsFit start limit extents := by
  induction extents generalizing index c data with
  | nil => exact fun _ member => nomatch member
  | cons e rest ih =>
      unfold readExtents at read
      obtain ⟨_, _, required, read⟩ := ok_of_run_bind read
      have room := of_decide_eq_true (of_run_require required).1
      obtain ⟨_, _, _, read⟩ := ok_of_run_bind read
      obtain ⟨_, _, others, finished⟩ := ok_of_run_bind read
      cases finished
      exact List.forall_mem_cons.2 ⟨room, ih others⟩

theorem covers_of_run_readExtent {position length : Nat} (big : c.order = .big)
    (room : position + length ≤ c.size)
    (read : (readExtent item position length true).run c = .ok data d) :
    CoversHeader c.bytes position length := by
  unfold readExtent at read
  rw [run_bind_of_ok _ (run_seek (by omega)), if_pos rfl] at read
  obtain ⟨_, _, required, read⟩ := ok_of_run_bind read
  obtain ⟨met, rfl⟩ := of_run_require required
  have long : 8 ≤ length := of_decide_eq_true met
  have number : (Cursor.unsigned 4).run { c with position := position } =
      .ok (storedSize c.bytes position) { c with position := position + 4 } := by
    rw [run_unsigned (show position + 4 ≤ c.size by omega)]
    simp only [big, storedSize]
  rw [run_bind_of_ok _ number] at read
  obtain ⟨_, _, required, _⟩ := ok_of_run_bind read
  exact ⟨long, of_decide_eq_true (of_run_require required).1⟩

variable (free : c.mark = none) (inside : limit ≤ c.size)
include free inside

/-- Whole extents are read just if they end before the limit. -/
theorem run_readExtents_iff :
    (readExtents item start limit false 0 extents).run c = .ok data d ↔
      ExtentsFit start limit extents ∧ extentData c.bytes start extents = data ∧ c = d := by
  constructor
  · intro read
    have fit := fit_of_run_readExtents read
    rw [run_readExtents item false 0 free fit inside (.inl rfl)] at read
    cases read
    exact ⟨fit, rfl, rfl⟩
  · rintro ⟨fit, rfl, rfl⟩
    exact run_readExtents item false 0 free fit inside (.inl rfl)

/-- Without a header they are read just if the first one covers it, too. -/
theorem run_readExtents_header_iff (big : c.order = .big) :
    (readExtents item start limit true 0 (e :: rest)).run c = .ok data d ↔
      ExtentsFit start limit (e :: rest) ∧ CoversHeader c.bytes (start + e.offset) e.length ∧
        (extentData c.bytes start (e :: rest)).drop (storedSize c.bytes (start + e.offset) + 4) =
          data ∧ c = d := by
  have whole (fit : ExtentsFit start limit (e :: rest))
      (covers : CoversHeader c.bytes (start + e.offset) e.length) :=
    run_readExtents_header item free big fit inside rfl covers.long covers.fits
  constructor
  · intro read
    have fit := fit_of_run_readExtents read
    have covers : CoversHeader c.bytes (start + e.offset) e.length := by
      have room := Nat.le_trans (fit e List.mem_cons_self) inside
      have first := read
      unfold readExtents at first
      rw [run_bind_of_ok _ (run_require _ (decide_eq_true (fit e List.mem_cons_self)) c)] at first
      obtain ⟨_, _, first, _⟩ := ok_of_run_bind first
      obtain ⟨_, first⟩ := Reading.Keeps.ok_of_restoring free (keeps_readExtent item _ _ _) first
      exact covers_of_run_readExtent (c := { c with mark := some c.position }) big room first
    rw [whole fit covers] at read
    cases read
    exact ⟨fit, covers, rfl, rfl⟩
  · rintro ⟨fit, covers, rfl, rfl⟩
    exact whole fit covers

end

open ImageMetadata.Action (Runs Warns Yields)

variable {s t : Session} {item : Int} {l : Location} {start limit : Nat} {skipHeader : Bool}
  {answer : Option Bytes}

theorem result_reading_iff {α : Type} {x : Reading α} {a : α} :
    ((reading x).run s).1.result = .ok a ↔ ∃ d, x.run s.cursor = .ok a d := by
  cases run : x.run s.cursor with
  | ok b d => simp [reading, Action.run, run, Outcome.pure]
  | error p d => simp [reading, Action.run, run, Outcome.fail]

/-- An item with a place is answered just as its extents are read. -/
theorem Places.result_itemData_iff (h : s.Places item l start limit) (nonempty : l.extents ≠ []) :
    ((itemData item skipHeader).run s).1.result = .ok answer ↔
      ∃ data d, (readExtents item (start + l.base) limit skipHeader 0 l.extents).run s.cursor =
        .ok data d ∧ some data = answer := by
  have met : Runs (Action.require (!l.extents.isEmpty) (.noExtents item)) s () s :=
    .require _ (by simpa using nonempty)
  unfold itemData
  rw [h.locates.runs_location.yields.result_bind, met.yields.result_bind,
    h.runs_range?.yields.result_bind]
  dsimp only
  rw [Action.run_bind_fst, Outcome.result_bind_iff]
  constructor
  · rintro ⟨data, read, rest⟩
    obtain ⟨d, read⟩ := result_reading_iff.1 read
    exact ⟨data, d, read, Except.ok.inj rest⟩
  · rintro ⟨data, d, read, rfl⟩
    exact ⟨data, result_reading_iff.2 ⟨d, read⟩, rfl⟩

namespace Places

variable (h : s.Places item l start limit) (rest : s.IsAtRest)
include h rest

/-- A placed item is answered just if its extents end before the limit. -/
theorem whole_iff (nonempty : l.extents ≠ []) :
    ((itemData item false).run s).1.result = .ok answer ↔
      ExtentsFit (start + l.base) limit l.extents ∧
        some (extentData s.cursor.bytes (start + l.base) l.extents) = answer := by
  rw [h.result_itemData_iff nonempty]
  simp only [run_readExtents_iff rest.unmarked (h.limit_le rest.inside)]
  constructor
  · rintro ⟨_, _, ⟨fit, rfl, _⟩, rfl⟩
    exact ⟨fit, rfl⟩
  · rintro ⟨fit, rfl⟩
    exact ⟨_, _, ⟨fit, rfl, rfl⟩, rfl⟩

/-- Without a header it is answered just if the first extent also covers the header. -/
theorem headless_iff {first : Extent} {others : List Extent} (extents : l.extents = first :: others) :
    ((itemData item true).run s).1.result = .ok answer ↔
      ExtentsFit (start + l.base) limit l.extents ∧
        CoversHeader s.cursor.bytes (start + l.base + first.offset) first.length ∧
        some ((extentData s.cursor.bytes (start + l.base) l.extents).drop
          (storedSize s.cursor.bytes (start + l.base + first.offset) + 4)) = answer := by
  have nonempty : l.extents ≠ [] := by
    rw [extents]
    exact List.cons_ne_nil first others
  rw [h.result_itemData_iff nonempty, extents]
  simp only [run_readExtents_header_iff rest.unmarked (h.limit_le rest.inside) rest.big]
  constructor
  · rintro ⟨_, _, ⟨fit, covers, rfl, _⟩, rfl⟩
    exact ⟨fit, covers, rfl⟩
  · rintro ⟨fit, covers, rfl⟩
    exact ⟨_, _, ⟨fit, covers, rfl, rfl⟩, rfl⟩

variable {offset length : Nat} (cut : IsCut offset length l.extents)
  (room : start + l.base + offset + length ≤ limit)
include cut room

/-- However a range is cut into extents, its bytes are the answer. -/
theorem result_of_isCut :
    ((itemData item false).run s).1.result =
      .ok (some (s.cursor.bytes.slice (start + l.base + offset) length)) := by
  rw [h.whole_iff rest cut.ne_nil, cut.extentData_eq]
  exact ⟨cut.fit room, rfl⟩

/-- So are those behind a header, as long as the first extent covers it. -/
theorem headless_of_isCut {first : Extent} {others : List Extent}
    (extents : l.extents = first :: others)
    (covers : CoversHeader s.cursor.bytes (start + l.base + offset) first.length) :
    ((itemData item true).run s).1.result =
      .ok (some ((s.cursor.bytes.slice (start + l.base + offset) length).drop
        (storedSize s.cursor.bytes (start + l.base + offset) + 4))) := by
  have begins : first.offset = offset := (extents ▸ cut).offset_eq
  rw [h.headless_iff rest extents, cut.extentData_eq, begins]
  exact ⟨cut.fit room, covers, rfl⟩

end Places

/-- Item boxes that are found are the ones that the file has. -/
theorem of_yields_itemBoxes {boxes : Box × Box} (h : Yields itemBoxes s boxes t) :
    Box.find? (Bytes.ascii "iinf") s.boxes = some boxes.1 ∧
      Box.find? (Bytes.ascii "iloc") s.boxes = some boxes.2 ∧ s = t := by
  unfold itemBoxes at h
  obtain ⟨information, _, found, h⟩ := Yields.bind_iff.1 h
  obtain ⟨rfl, rfl⟩ := (runs_find? _).yields.unique found
  obtain ⟨location, _, found, h⟩ := Yields.bind_iff.1 h
  obtain ⟨rfl, rfl⟩ := (runs_find? _).yields.unique found
  split at h
  · exact absurd h Yields.not_fail
  · exact absurd h Yields.not_fail
  · rename_i information location
    obtain ⟨rfl, same⟩ := Yields.pure_iff.1 h
    exact ⟨information, location, same⟩

/-- A place that is found is the one at which the boxes locate the item. -/
theorem of_yields_location (h : Yields (location item) s l t) : s.Locates item l ∧ s = t := by
  unfold location at h
  obtain ⟨⟨information, box⟩, _, found, h⟩ := Yields.bind_iff.1 h
  obtain ⟨hi, hl, rfl⟩ := of_yields_itemBoxes found
  dsimp only at h
  split at h
  · rename_i head items content
    split at h
    · rename_i id l' entry
      obtain ⟨rfl, same⟩ := Yields.pure_iff.1 h
      exact ⟨⟨⟨information, hi⟩, ⟨box, head, items, id, hl, content, entry⟩⟩, same⟩
    · exact absurd h Yields.not_fail
  · exact absurd h Yields.not_fail

/-- A range that is found is the one in which a located item is placed; there is none if the item
is stored in another way. -/
theorem of_yields_range? {range : Option (Nat × Nat)} (located : s.Locates item l)
    (h : Yields (range? l) s range t) :
    (∀ start limit, range = some (start, limit) → s.Places item l start limit) ∧
      (range = none → 2 ≤ l.method) ∧ s = t := by
  obtain ⟨described, located⟩ := located
  unfold range? at h
  split at h
  · rename_i method
    have whole : Yields (pure (some (0, s.cursor.size))) s range t := Yields.state_bind_iff.1 h
    obtain ⟨rfl, same⟩ := Yields.pure_iff.1 whole
    refine ⟨?_, nofun, same⟩
    rintro _ _ ⟨rfl, rfl⟩
    exact ⟨described, located, .inl ⟨method, rfl, rfl⟩⟩
  split at h
  · rename_i method
    obtain ⟨box, _, found, h⟩ := Yields.bind_iff.1 h
    obtain ⟨rfl, rfl⟩ := (runs_find? _).yields.unique found
    split at h
    · rename_i box found
      obtain ⟨rfl, same⟩ := Yields.pure_iff.1 h
      refine ⟨?_, nofun, same⟩
      rintro _ _ ⟨rfl, rfl⟩
      exact ⟨described, located, .inr ⟨method, box, found, rfl, rfl⟩⟩
    · exact absurd h Yields.not_fail
  · obtain ⟨rfl, same⟩ := Yields.pure_iff.1 h
    exact ⟨nofun, fun _ => by omega, same⟩

/-- What is answered is located and has extents; unless it has a place, it is stored in a way that
cannot be read, and the reader is lenient. -/
theorem exists_of_itemData (h : ((itemData item skipHeader).run s).1.result = .ok answer) :
    ∃ l, s.Locates item l ∧ l.extents ≠ [] ∧
      ((∃ start limit, s.Places item l start limit) ∨ s.strict = false ∧ 2 ≤ l.method) := by
  have answered : Yields (itemData item skipHeader) s answer _ := ⟨h, rfl⟩
  unfold itemData at answered
  obtain ⟨l, _, found, answered⟩ := Yields.bind_iff.1 answered
  obtain ⟨located, rfl⟩ := of_yields_location found
  obtain ⟨nonempty, answered⟩ := Yields.require_bind_iff.1 answered
  obtain ⟨range, _, found, answered⟩ := Yields.bind_iff.1 answered
  obtain ⟨placed, elsewhere, rfl⟩ := of_yields_range? located found
  refine ⟨l, located, by simpa using nonempty, ?_⟩
  cases range with
  | some range => exact .inl ⟨range.1, range.2, placed _ _ rfl⟩
  | none =>
      obtain ⟨_, flagged, _⟩ := Yields.lift_bind_iff.1 (Yields.state_bind_iff.1 answered)
      refine .inr ⟨?_, elsewhere rfl⟩
      cases strict : s.strict with
      | false => rfl
      | true =>
          rw [strict] at flagged
          cases flagged

theorem runs_range?_none (method : 2 ≤ l.method) : Runs (range? l) s none s := by
  unfold range?
  rw [if_neg (by omega), if_neg (by omega)]
  exact .pure none

/-- A lenient reader warns of an item that is stored in a way that it cannot read. -/
theorem Locates.warns_itemData (h : s.Locates item l) (nonempty : l.extents ≠ [])
    (method : 2 ≤ l.method) (lenient : s.strict = false) :
    Warns (itemData item skipHeader) s [.constructionMethod item l.method] none s := by
  have met : Runs (Action.require (!l.extents.isEmpty) (.noExtents item)) s () s :=
    .require _ (by simpa using nonempty)
  refine h.runs_location.warns.bind (met.warns.bind ((runs_range?_none method).warns.bind ?_))
  constructor <;> rw [Action.run_state_bind, lenient] <;> rfl

/-- The data of the items of a file is what their extents hold. -/
structure AnswersItems (bytes : Bytes) (s : Session) : Prop where
  cursor_eq : s.cursor = Cursor.ofBytes bytes .big
  /-- An item with a place is answered just if its extents end before the limit. -/
  whole_iff {item : Int} {l : Location} {start limit : Nat} {answer : Option Bytes} :
    s.Places item l start limit → l.extents ≠ [] →
    (((itemData item false).run s).1.result = .ok answer ↔
      ExtentsFit (start + l.base) limit l.extents ∧
        some (extentData bytes (start + l.base) l.extents) = answer)
  /-- Without a header it is answered just if the first extent also covers the header. -/
  headless_iff {item : Int} {l : Location} {start limit : Nat} {answer : Option Bytes}
    {first : Extent} {others : List Extent} :
    s.Places item l start limit → l.extents = first :: others →
    (((itemData item true).run s).1.result = .ok answer ↔
      ExtentsFit (start + l.base) limit l.extents ∧
        CoversHeader bytes (start + l.base + first.offset) first.length ∧
        some ((extentData bytes (start + l.base) l.extents).drop
          (storedSize bytes (start + l.base + first.offset) + 4)) = answer)
  /-- A lenient reader warns of an item with extents that is stored in another way. -/
  warns {item : Int} {l : Location} (skipHeader : Bool) :
    s.Locates item l → l.extents ≠ [] → 2 ≤ l.method → s.strict = false →
    Warns (itemData item skipHeader) s [.constructionMethod item l.method] none s
  /-- No other item is answered. -/
  refused {item : Int} (skipHeader : Bool) :
    (∀ l start limit, s.Places item l start limit → l.extents = []) →
    (s.strict = false → ∀ l, s.Locates item l → 2 ≤ l.method → l.extents = []) →
    ∃ p, ((itemData item skipHeader).run s).1.result = .error p
  /-- What is not answered fails because of the bytes. -/
  structural {item : Int} {skipHeader : Bool} {p : Problem} :
    ((itemData item skipHeader).run s).1.result = .error p → p.isStructural = true
  /-- Whether or not it is answered, the session is as it was. -/
  unchanged (item : Int) (skipHeader : Bool) : ((itemData item skipHeader).run s).2 = s
  /-- However a range is cut into extents, its bytes are the answer. -/
  cut {item : Int} {l : Location} {start limit offset length : Nat} :
    s.Places item l start limit → IsCut offset length l.extents →
    start + l.base + offset + length ≤ limit →
    ((itemData item false).run s).1.result =
      .ok (some (bytes.slice (start + l.base + offset) length))
  /-- So are those behind the header, as long as the first extent covers it. -/
  headless_cut {item : Int} {l : Location} {start limit offset length : Nat} {first : Extent}
    {others : List Extent} :
    s.Places item l start limit → l.extents = first :: others →
    IsCut offset length l.extents → start + l.base + offset + length ≤ limit →
    CoversHeader bytes (start + l.base + offset) first.length →
    ((itemData item true).run s).1.result =
      .ok (some ((bytes.slice (start + l.base + offset) length).drop
        (storedSize bytes (start + l.base + offset) + 4)))

/-- The items of a file that was read are answered from their extents. -/
theorem answersItems_of_readAll {bytes : Bytes} {strict : Bool} {depth : Int}
    (read : Yields (readAll depth) (Session.start bytes strict) () s) : AnswersItems bytes s := by
  have rest := isAtRest_of_readAll read.result_eq
  have ready := ends_readAll depth (Session.start bytes strict) rfl
  unfold Outcome.Ends at ready
  rw [read.result_eq] at ready
  obtain ⟨boxes, _, state⟩ := run_readAll_snd read.result_eq
  rw [read.state_eq] at rest ready state
  have cursor : s.cursor = Cursor.ofBytes bytes .big := congrArg Session.cursor state
  obtain rfl : s.cursor.bytes = bytes := congrArg Cursor.bytes cursor
  refine {
    cursor_eq := cursor
    whole_iff := fun placed nonempty => placed.whole_iff rest nonempty
    headless_iff := fun placed extents => placed.headless_iff rest extents
    warns := fun _ located nonempty method lenient =>
      located.warns_itemData nonempty method lenient
    refused := fun {item} skipHeader unplaced readable => ?_
    structural := fun {item skipHeader p} failed => ?_
    unchanged := fun item skipHeader => keeps_itemData rest.unmarked item skipHeader s rfl
    cut := fun placed cut room => placed.result_of_isCut rest cut room
    headless_cut := fun placed extents cut room covers =>
      placed.headless_of_isCut rest cut room extents covers }
  · cases result : ((itemData item skipHeader).run s).1.result with
    | error p => exact ⟨p, rfl⟩
    | ok answer =>
        obtain ⟨l, located, nonempty, ⟨start, limit, placed⟩ | ⟨lenient, method⟩⟩ :=
          exists_of_itemData result
        · exact absurd (unplaced l start limit placed) nonempty
        · exact absurd (readable lenient l located method) nonempty
  · have ends := ends_itemData item skipHeader s ready.1
    unfold Outcome.Ends at ends
    rw [failed] at ends
    exact ends

/-- A file whose only item lies in an item data box, cut into two extents. -/
def cutFile : Bytes :=
  [0, 0, 0, 16] ++ Bytes.ascii "ftypheic" ++ [0, 0, 0, 0] ++
  [0, 0, 0, 14] ++ Bytes.ascii "iinf" ++ [0, 0, 0, 0, 0, 0] ++
  [0, 0, 0, 40] ++ Bytes.ascii "iloc" ++ [1, 0, 0, 0, 0x44, 0, 0, 1, 0, 1, 0, 1, 0, 0, 0, 2] ++
  [0, 0, 0, 0, 0, 0, 0, 8, 0, 0, 0, 8, 0, 0, 0, 4] ++
  [0, 0, 0, 20] ++ Bytes.ascii "idat" ++ [0, 0, 0, 2, 0, 0] ++ Bytes.ascii "II*pqr"

/-- Where the item is. -/
def cutLocation : Location := ⟨1, 1, 0, 0, [⟨0, 8⟩, ⟨8, 4⟩]⟩

/-- What the file is read into. -/
def cutSession : Session where
  cursor := Cursor.ofBytes cutFile .big
  boxes :=
    [⟨Bytes.ascii "ftyp", 0, 16, 8, .fileType (Bytes.ascii "heic") 0 [], []⟩,
      ⟨Bytes.ascii "iinf", 16, 14, 8, .itemInformation ⟨0, 0⟩ 0, []⟩,
      ⟨Bytes.ascii "iloc", 30, 40, 8, .itemLocation ⟨1, 0⟩ [(1, cutLocation)], []⟩,
      ⟨Bytes.ascii "idat", 70, 20, 8, .itemData, []⟩]
  strict := false

/-- The extents make up the payload of the box, and the first one covers the header. -/
theorem answersItems_cut :
    (readAll 32).run (Session.start cutFile false) = (⟨[], .ok ()⟩, cutSession) ∧
      cutSession.Places 1 cutLocation 78 90 ∧ IsCut 0 12 cutLocation.extents ∧
      CoversHeader cutFile 78 8 ∧ AnswersItems cutFile cutSession ∧
      ((itemData 1 true).run cutSession).1.result = .ok (some (Bytes.ascii "II*pqr")) := by
  have read : (readAll 32).run (Session.start cutFile false) = (⟨[], .ok ()⟩, cutSession) :=
    Action.run_eq_of_silent (by decide +kernel)
  have answers : AnswersItems cutFile cutSession := answersItems_of_readAll (.of_run read)
  have described : Box.find? (Bytes.ascii "iinf") cutSession.boxes =
      some ⟨Bytes.ascii "iinf", 16, 14, 8, .itemInformation ⟨0, 0⟩ 0, []⟩ := by decide +kernel
  have located : Box.find? (Bytes.ascii "iloc") cutSession.boxes =
      some ⟨Bytes.ascii "iloc", 30, 40, 8, .itemLocation ⟨1, 0⟩ [(1, cutLocation)], []⟩ := by
    decide +kernel
  have held : Box.find? (Bytes.ascii "idat") cutSession.boxes =
      some ⟨Bytes.ascii "idat", 70, 20, 8, .itemData, []⟩ := by decide +kernel
  have placed : cutSession.Places 1 cutLocation 78 90 :=
    { described := ⟨_, described⟩
      located := ⟨_, _, _, 1, located, rfl, rfl⟩
      within := .inr ⟨rfl, _, held, rfl, rfl⟩ }
  have stored : storedSize cutFile 78 = 2 := by rfl
  have covers : CoversHeader cutFile 78 8 := ⟨Nat.le_refl 8, by omega⟩
  have cut : IsCut 0 (8 + 4) [⟨0, 8⟩, ⟨8, 4⟩] := .cons (.last 8 4)
  have data := answers.headless_cut placed rfl cut (by decide) covers
  refine ⟨read, placed, cut, covers, answers, data.trans ?_⟩
  rfl

/-- A file that locates an item, but has no box that describes the items. -/
def undescribedFile : Bytes :=
  [0, 0, 0, 16] ++ Bytes.ascii "ftypheic" ++ [0, 0, 0, 0] ++
  [0, 0, 0, 30] ++ Bytes.ascii "iloc" ++ [0, 0, 0, 0, 0x44, 0, 0, 1, 0, 1, 0, 0, 0, 1] ++
  [0, 0, 0, 0, 0, 0, 0, 4]

def undescribedSession : Session where
  cursor := Cursor.ofBytes undescribedFile .big
  boxes :=
    [⟨Bytes.ascii "ftyp", 0, 16, 8, .fileType (Bytes.ascii "heic") 0 [], []⟩,
      ⟨Bytes.ascii "iloc", 16, 30, 8, .itemLocation ⟨0, 0⟩ [(1, ⟨1, 0, 0, 0, [⟨0, 4⟩]⟩)], []⟩]
  strict := false

/-- A file with an item that is stored in a way that cannot be read, and that has no extents. -/
def emptyFile : Bytes :=
  [0, 0, 0, 16] ++ Bytes.ascii "ftypheic" ++ [0, 0, 0, 0] ++
  [0, 0, 0, 14] ++ Bytes.ascii "iinf" ++ [0, 0, 0, 0, 0, 0] ++
  [0, 0, 0, 24] ++ Bytes.ascii "iloc" ++ [1, 0, 0, 0, 0x44, 0, 0, 1, 0, 1, 0, 2, 0, 0, 0, 0]

def emptySession : Session where
  cursor := Cursor.ofBytes emptyFile .big
  boxes :=
    [⟨Bytes.ascii "ftyp", 0, 16, 8, .fileType (Bytes.ascii "heic") 0 [], []⟩,
      ⟨Bytes.ascii "iinf", 16, 14, 8, .itemInformation ⟨0, 0⟩ 0, []⟩,
      ⟨Bytes.ascii "iloc", 30, 24, 8, .itemLocation ⟨1, 0⟩ [(1, ⟨1, 2, 0, 0, []⟩)], []⟩]
  strict := false

/-- An item is refused whose one extent lies in the file, since no box describes the items. A
lenient reader refuses an item that it cannot read, and does not warn, since it has no extents. -/
theorem itemData_refused :
    ((readAll 32).run (Session.start undescribedFile false) = (⟨[], .ok ()⟩, undescribedSession) ∧
      ExtentsFit 0 undescribedFile.length [⟨0, 4⟩] ∧
      (itemData 1 false).run undescribedSession =
        (⟨[], .error .noItemInformation⟩, undescribedSession)) ∧
    ((readAll 32).run (Session.start emptyFile false) = (⟨[], .ok ()⟩, emptySession) ∧
      (itemData 1 false).run emptySession = (⟨[], .error (.noExtents 1)⟩, emptySession)) := by
  refine ⟨⟨Action.run_eq_of_silent (by decide +kernel), ?_, by with_unfolding_all rfl⟩,
    Action.run_eq_of_silent (by decide +kernel), by with_unfolding_all rfl⟩
  exact List.forall_mem_singleton.2 (by decide)

end Session

end ImageMetadata.Heif
