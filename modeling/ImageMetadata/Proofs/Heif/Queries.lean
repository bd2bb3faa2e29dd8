import ImageMetadata.Proofs.Keeps
import ImageMetadata.Proofs.Safety.Heif

/-!
# Queries of a file

Once the boxes of a file are read, it is asked for boxes, items and their data, in any order and
with any arguments. Extents are read from a marked position to which the cursor returns however the
reading ends. So no query leaves a trace, and each is answered as if it were the only one.
-/

namespace ImageMetadata.Heif.Session

open ImageMetadata.Action (Ends Keeps Yields)

/-- What is asked of a file. -/
inductive Query where
  | find (id : Bytes)
  | findItem (condition : ItemBox → Bool)
  | location (item : Int)
  | itemData (item : Int) (skipHeader : Bool)
  | exifPayload
  | xmpPacket

/-- What a file answers. -/
inductive Answer where
  | box (b : Option Box)
  | item (i : Option ItemBox)
  | location (l : Location)
  | data (d : Option Bytes)

/-- Asks a file. -/
def Query.ask : Query → Action Session Answer
  | find id => do return .box (← Session.find? id)
  | findItem condition => do return .item (← Session.findItem condition)
  | location item => do return .location (← Session.location item)
  | itemData item skipHeader => do return .data (← Session.itemData item skipHeader)
  | exifPayload => do return .data (← Session.exifPayload)
  | xmpPacket => do return .data (← Session.xmpPacket)

/-- The answers to some queries one after the other, with the session that the last one leaves. -/
def askAll : List Query → Session → List (Outcome Answer) × Session
  | [], s => ([], s)
  | q :: rest, s =>
    let first := q.ask.run s
    let others := askAll rest first.2
    (first.1 :: others.1, others.2)

section

variable (P : Session → Prop)

theorem keeps_find? (id : Bytes) : Keeps P (find? id) := Keeps.state_bind fun _ => Keeps.pure _

theorem keeps_itemBoxes : Keeps P itemBoxes := by
  refine (keeps_find? P _).bind fun information => (keeps_find? P _).bind fun location => ?_
  cases information with
  | none => exact Keeps.lift _
  | some information =>
      cases location with
      | none => exact Keeps.lift _
      | some location => exact Keeps.pure _

theorem keeps_findItem (condition : ItemBox → Bool) : Keeps P (findItem condition) :=
  (keeps_itemBoxes P).bind fun _ => Keeps.pure _

theorem keeps_location (item : Int) : Keeps P (location item) := by
  refine (keeps_itemBoxes P).bind fun boxes => ?_
  dsimp only
  split
  · split
    · exact Keeps.pure _
    · exact Keeps.lift _
  · exact Keeps.lift _

theorem keeps_range? (l : Location) : Keeps P (range? l) := by
  unfold range?
  split
  · exact Keeps.state_bind fun _ => Keeps.pure _
  split
  · refine (keeps_find? P _).bind fun box => ?_
    cases box with
    | none => exact Keeps.lift _
    | some box => exact Keeps.pure _
  · exact Keeps.pure _

end

/-- An extent is read by moving the cursor only. -/
theorem keeps_readExtent {c : Cursor} (item : Int) (position length : Nat) (skipHeader : Bool) :
    Reading.Keeps (Cursor.IsMoved c) (readExtent item position length skipHeader) := by
  refine (Reading.Keeps.seek _).bind fun _ => ?_
  split
  · refine (Reading.Keeps.require _ _).bind fun _ => (Reading.Keeps.unsigned 4).bind fun _ => ?_
    refine (Reading.Keeps.require _ _).bind fun _ => (Reading.Keeps.skip _).bind fun _ => ?_
    exact Reading.Keeps.read _
  · exact Reading.Keeps.read _

/-- Extents are read without a trace. -/
theorem keeps_readExtents {c : Cursor} (free : c.mark = none) (item : Int) (start limit : Nat)
    (skipHeader : Bool) (index : Nat) (extents : List Extent) :
    Reading.Keeps (fun d => d = c) (readExtents item start limit skipHeader index extents) := by
  induction extents generalizing index with
  | nil => exact Reading.Keeps.pure _
  | cons e rest ih =>
      have extent := Reading.Keeps.restoring free
        (keeps_readExtent item (start + e.offset) e.length (skipHeader && index == 0))
      refine (Reading.Keeps.require _ _).bind fun _ => extent.bind fun _ => ?_
      exact (ih (index + 1)).bind fun _ => Reading.Keeps.pure _

variable {s : Session}

/-- A reading that leaves the cursor as it was leaves the session. -/
theorem keeps_reading {α : Type} {x : Reading α}
    (h : Reading.Keeps (fun d => d = s.cursor) x) : Keeps (fun t => t = s) (reading x) := by
  intro t same
  rw [same]
  have left := h s.cursor rfl
  unfold Reading.final at left
  cases run : x.run s.cursor with
  | ok a c =>
      rw [run] at left
      simp only [reading, Action.run, run, left]
  | error p c =>
      rw [run] at left
      simp only [reading, Action.run, run, left]

theorem keeps_itemData (free : s.cursor.mark = none) (item : Int) (skipHeader : Bool) :
    Keeps (fun t => t = s) (itemData item skipHeader) := by
  refine (keeps_location _ item).bind fun l => (Keeps.require _ _).bind fun _ => ?_
  refine (keeps_range? _ l).bind fun range => ?_
  cases range with
  | none => exact Keeps.state_bind fun _ => (Keeps.lift _).bind fun _ => Keeps.pure _
  | some range =>
      have data := keeps_readExtents free item (range.1 + l.base) range.2 skipHeader 0 l.extents
      exact (keeps_reading data).bind fun _ => Keeps.pure _

theorem keeps_exifPayload (free : s.cursor.mark = none) :
    Keeps (fun t => t = s) exifPayload := by
  refine (keeps_findItem _ _).bind fun found => ?_
  cases found with
  | none => exact (Keeps.lift _).bind fun _ => Keeps.pure _
  | some found => exact keeps_itemData free _ _

theorem keeps_xmpPacket (free : s.cursor.mark = none) : Keeps (fun t => t = s) xmpPacket := by
  refine (keeps_findItem _ _).bind fun found => ?_
  cases found with
  | none => exact Keeps.pure _
  | some found => exact keeps_itemData free _ _

namespace Query

/-- A query leaves the session as it was, whether or not it fails. -/
theorem run_ask_snd (free : s.cursor.mark = none) (q : Query) : (q.ask.run s).2 = s := by
  have keeps : Keeps (fun t => t = s) q.ask := by
    cases q with
    | find id => exact (keeps_find? _ id).bind fun _ => Keeps.pure _
    | findItem condition => exact (keeps_findItem _ condition).bind fun _ => Keeps.pure _
    | location item => exact (keeps_location _ item).bind fun _ => Keeps.pure _
    | itemData item skipHeader =>
        exact (keeps_itemData free item skipHeader).bind fun _ => Keeps.pure _
    | exifPayload => exact (keeps_exifPayload free).bind fun _ => Keeps.pure _
    | xmpPacket => exact (keeps_xmpPacket free).bind fun _ => Keeps.pure _
  exact keeps s rfl

/-- A query fails only because of the bytes. -/
theorem ends_ask (q : Query) : Ends IsReady q.ask fun _ => IsReady := by
  cases q with
  | find id => exact (ends_find? id).bind fun _ => Ends.pure fun _ ready => ready
  | findItem condition =>
      exact (ends_findItem condition).bind fun _ => Ends.pure fun _ ready => ready
  | location item => exact (ends_location item).bind fun _ => Ends.pure fun _ ready => ready
  | itemData item skipHeader =>
      exact (ends_itemData item skipHeader).bind fun _ => Ends.pure fun _ ready => ready
  | exifPayload => exact ends_exifPayload.bind fun _ => Ends.pure fun _ ready => ready
  | xmpPacket => exact ends_xmpPacket.bind fun _ => Ends.pure fun _ ready => ready

end Query

theorem askAll_eq (free : s.cursor.mark = none) (queries : List Query) :
    askAll queries s = (queries.map fun q => (q.ask.run s).1, s) := by
  induction queries with
  | nil => rfl
  | cons q rest ih =>
      simp only [askAll, q.run_ask_snd free, ih, List.map_cons]

/-- No position is marked, and the queries leave no trace. -/
structure IsUndisturbed (s : Session) (queries : List Query) : Prop where
  unmarked : s.cursor.mark = none
  /-- Any one query leaves the cursor and the boxes as they were. -/
  run_ask_snd (q : Query) : (q.ask.run s).2 = s
  /-- So do all of them. -/
  session_eq : (askAll queries s).2 = s
  /-- Each query is answered as if it were the only one. -/
  answers_eq : (askAll queries s).1 = queries.map fun q => (q.ask.run s).1
  /-- A query that fails does so because of the bytes, and not because of a mark. -/
  fails (q : Query) (p : Problem) : (q.ask.run s).1.result = .error p →
    p.isStructural = true ∧ ∀ position, p ≠ .alreadyMarked position

/-- After a file was read, wherever its cursor stands, no queries disturb it. -/
theorem isUndisturbed_of_readAll {start s : Session} {limit : Int}
    (free : start.cursor.mark = none) (read : Yields (readAll limit) start () s)
    (queries : List Query) : IsUndisturbed s queries := by
  have ready : s.IsReady := by
    have ends := ends_readAll limit start free
    unfold Outcome.Ends at ends
    rw [read.result_eq, read.state_eq] at ends
    exact ends.1
  refine {
    unmarked := ready.unmarked
    run_ask_snd := fun q => q.run_ask_snd ready.unmarked
    session_eq := congrArg Prod.snd (askAll_eq ready.unmarked queries)
    answers_eq := congrArg Prod.fst (askAll_eq ready.unmarked queries)
    fails := fun q p failed => ?_ }
  have ends := q.ends_ask s ready
  unfold Outcome.Ends at ends
  rw [failed] at ends
  refine ⟨ends, fun position same => ?_⟩
  rw [same] at ends
  cases ends

/-- A file with one item, whose extent is too short for a header. -/
def shortFile : Bytes :=
  [0, 0, 0, 16] ++ Bytes.ascii "ftypheic" ++ [0, 0, 0, 0] ++
  [0, 0, 0, 14] ++ Bytes.ascii "iinf" ++ [0, 0, 0, 0, 0, 0] ++
  [0, 0, 0, 30] ++ Bytes.ascii "iloc" ++ [0, 0, 0, 0, 0x44, 0, 0, 1, 0, 1, 0, 0, 0, 1] ++
  [0, 0, 0, 0, 0, 0, 0, 4]

/-- What the file is read into. -/
def shortSession : Session where
  cursor := Cursor.ofBytes shortFile .big
  boxes :=
    [⟨Bytes.ascii "ftyp", 0, 16, 8, .fileType (Bytes.ascii "heic") 0 [], []⟩,
      ⟨Bytes.ascii "iinf", 16, 14, 8, .itemInformation ⟨0, 0⟩ 0, []⟩,
      ⟨Bytes.ascii "iloc", 30, 30, 8, .itemLocation ⟨0, 0⟩ [(1, ⟨1, 0, 0, 0, [⟨0, 4⟩]⟩)], []⟩]
  strict := true

/-- The first query fails while the cursor is marked, the next one does not. -/
theorem isUndisturbed_short :
    (readAll 32).run (Session.start shortFile true) = (⟨[], .ok ()⟩, shortSession) ∧
      ((Query.itemData 1 true).ask.run shortSession).1.result = .error (.extentTooShort 1 4) ∧
      IsUndisturbed shortSession [.itemData 1 true, .itemData 1 false, .exifPayload] := by
  have read : (readAll 32).run (Session.start shortFile true) = (⟨[], .ok ()⟩, shortSession) :=
    Action.run_eq_of_silent (by decide +kernel)
  exact ⟨read, by with_unfolding_all rfl, isUndisturbed_of_readAll rfl (.of_run read) _⟩

end ImageMetadata.Heif.Session
