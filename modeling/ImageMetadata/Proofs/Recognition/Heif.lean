import ImageMetadata.Heif.File
import ImageMetadata.Proofs.Recognition.Tiff

/-!
# HEIF files are recognized by their first box

A file is a HEIF file for its reader if the type code of a file type box stands where that of the
first box does. The brands are looked at later, and nothing that is found then, or in the boxes and
the items, makes the file one of another format.
-/

namespace ImageMetadata.Heif

open ImageMetadata.Action (Recognizes)

variable (bytes : Bytes) (strict : Bool) (limit : Int) (policy : Policy)

/-- Contents that cannot be decoded are taken over, whatever is wrong with them. -/
theorem recognizes_readContent (id : Bytes) (offset : Nat) (payload : Bytes) :
    (readContent strict id offset payload).Recognizes := by
  unfold readContent
  split
  · exact (Outcome.Recognizes.trace _).bind fun _ => .pure _
  cases Content.decoder? id with
  | none => exact (Outcome.Recognizes.trace _).bind fun _ => .pure _
  | some decode =>
      apply Outcome.Recognizes.rescue
      intro cause
      apply (Outcome.Recognizes.require _ (by nofun)).bind
      exact fun _ => .flag_pure strict (by nofun) _

theorem isOwn_of_readHeader {start stop : Nat} {p : Problem}
    (failed : readHeader bytes start stop = .error p) : p.IsOwn := by
  unfold readHeader at failed
  dsimp only at failed
  repeat' split at failed
  all_goals cases failed
  all_goals simp [Problem.IsOwn, Problem.kind]

theorem recognizes_readBoxes (depth start stop : Nat) :
    (readBoxes bytes strict limit depth start stop).Recognizes := by
  induction depth, start, stop using readBoxes.induct bytes limit with
  | case1 depth start stop done =>
      rw [readBoxes, dif_pos done]
      exact .pure []
  | case2 depth start stop more short =>
      rw [readBoxes, dif_neg more, if_pos short]
      exact .flag_pure strict (by nofun) []
  | case3 depth start stop more long p failed =>
      rw [readBoxes, dif_neg more, if_neg long, failed]
      exact .fail (isOwn_of_readHeader bytes failed)
  | case4 depth start stop more long header read _ _ _ inside past children siblings =>
      rw [readBoxes, dif_neg more, if_neg long, read]
      apply (recognizes_readContent strict _ _ _).bind
      intro content
      refine .bind ?_ fun boxes => siblings.bind fun rest => .pure _
      split
      · split
        · exact .flag_pure strict (by nofun) []
        · exact children content.2
      · exact .pure []

namespace Session

/-- A file whose first box may be a file type box is read. -/
theorem recognizes_load (signed : bytes.slice 4 4 = Bytes.ascii "ftyp") :
    ((load limit).run (start bytes strict)).1.Recognizes := by
  have long : 8 ≤ bytes.length :=
    Bytes.le_length_of_slice_eq signed (by decide) (by decide)
  have present : (decide (8 ≤ (start bytes strict).cursor.bytes.length) &&
      (start bytes strict).cursor.bytes.slice 4 4 == Bytes.ascii "ftyp") = true := by
    simp [start, Cursor.ofBytes, long, signed]
  unfold load
  rw [Action.run_state_bind]
  refine Recognizes.bind (.require_of_true _ present) (fun _ => ?_) _
  exact (Recognizes.lift (recognizes_readBoxes _ _ _ _ _ _)).bind fun _ => .update _

/-- Any other file is refused. -/
theorem run_load_of_ne (unsigned : bytes.slice 4 4 ≠ Bytes.ascii "ftyp") :
    (load limit).run (start bytes strict) =
      (Outcome.fail .noFileTypeBox, start bytes strict) := by
  have absent : (decide (8 ≤ (start bytes strict).cursor.bytes.length) &&
      (start bytes strict).cursor.bytes.slice 4 4 == Bytes.ascii "ftyp") = false := by
    rw [Bool.and_eq_false_iff]
    exact .inr (beq_false_of_ne unsigned)
  unfold load
  rw [Action.run_state_bind]
  apply Action.run_bind_of_error
  rw [absent]
  rfl

theorem recognizes_checkBrands : Recognizes checkBrands := by
  apply Recognizes.state_bind
  intro s
  cases s.boxes with
  | nil => exact .fail (by nofun)
  | cons first rest =>
      dsimp only
      split
      · exact .lift (.check s.strict _ (by nofun))
      · exact .fail (by nofun)

theorem recognizes_reading {α : Type} {x : Reading α} (h : x.Recognizes) :
    Recognizes (reading x) := by
  intro s
  cases run : x.run s.cursor with
  | ok a c =>
      simp only [reading, Action.run, run]
      exact .pure a
  | error p c =>
      simp only [reading, Action.run, run]
      exact .fail (h _ _ p run)

theorem recognizes_find? (id : Bytes) : Recognizes (find? id) := .state_bind fun _ => .pure _

theorem recognizes_itemBoxes : Recognizes itemBoxes := by
  refine (recognizes_find? _).bind fun information => (recognizes_find? _).bind fun location => ?_
  cases information with
  | none => exact .fail (by nofun)
  | some information =>
      cases location with
      | none => exact .fail (by nofun)
      | some location => exact .pure _

theorem recognizes_findItem (condition : ItemBox → Bool) : Recognizes (findItem condition) :=
  recognizes_itemBoxes.bind fun _ => .pure _

theorem recognizes_location (item : Int) : Recognizes (location item) := by
  apply recognizes_itemBoxes.bind
  intro boxes
  dsimp only
  split
  · split
    · exact .pure _
    · exact .fail (by nofun)
  · exact .fail (by nofun)

theorem recognizes_range? (l : Location) : Recognizes (range? l) := by
  unfold range?
  split
  · exact .state_bind fun _ => .pure _
  split
  · apply (recognizes_find? _).bind
    intro box
    cases box with
    | none => exact .fail (by nofun)
    | some box => exact .pure _
  · exact .pure none

theorem recognizes_readExtent (item : Int) (position length : Nat) (skipHeader : Bool) :
    (readExtent item position length skipHeader).Recognizes := by
  apply (Reading.Recognizes.seek _).bind
  intro _
  split
  · apply (Reading.Recognizes.require _ (by nofun)).bind
    intro _
    apply (Reading.Recognizes.unsigned 4).bind
    intro header
    apply (Reading.Recognizes.require _ (by nofun)).bind
    intro _
    exact (Reading.Recognizes.skip _).bind fun _ => .read _
  · exact .read _

theorem recognizes_readExtents (item : Int) (start stop : Nat) (skipHeader : Bool) (index : Nat)
    (extents : List Extent) :
    (readExtents item start stop skipHeader index extents).Recognizes := by
  induction extents generalizing index with
  | nil => exact .pure []
  | cons e rest ih =>
      apply (Reading.Recognizes.require _ (by nofun)).bind
      intro _
      apply (Reading.Recognizes.restoring (recognizes_readExtent item _ _ _)).bind
      exact fun data => (ih (index + 1)).bind fun others => .pure _

theorem recognizes_itemData (item : Int) (skipHeader : Bool) :
    Recognizes (itemData item skipHeader) := by
  refine (recognizes_location item).bind fun l => (Recognizes.require _ (by nofun)).bind fun _ => ?_
  apply (recognizes_range? l).bind
  intro range
  cases range with
  | none =>
      apply Recognizes.state_bind
      exact fun s => (Recognizes.lift (.flag s.strict (by nofun))).bind fun _ => .pure none
  | some range =>
      apply (recognizes_reading (recognizes_readExtents item _ _ skipHeader 0 l.extents)).bind
      exact fun _ => .pure _

theorem recognizes_exifPayload : Recognizes exifPayload := by
  apply (recognizes_findItem _).bind
  intro found
  cases found with
  | none => exact (Recognizes.trace _).bind fun _ => .pure none
  | some found => exact recognizes_itemData _ _

end Session

theorem recognizes_packet? (s : Session) : (packet? s strict).Recognizes :=
  .rescue fun _ => .flag_pure strict (by nofun) none

theorem recognizes_collect (s : Session) : Recognizes (collect s policy) := by
  rw [collect_eq]
  apply (Recognizes.lift (Session.recognizes_exifPayload s)).bind
  intro stream
  apply (Tiff.recognizes_collect? policy stream).bind
  intro _
  exact (Recognizes.lift (recognizes_packet? policy.strict _)).bind Xmp.recognizes_collect?

/-- Only the type code of the first box decides whether a file is a HEIF file for its reader. -/
theorem recognizes_metadata_iff :
    (metadata bytes policy).Recognizes ↔ bytes.slice 4 4 = Bytes.ascii "ftyp" := by
  rw [metadata_eq, Session.readAll, Action.run_bind_fst]
  by_cases signed : bytes.slice 4 4 = Bytes.ascii "ftyp"
  · refine iff_of_true (.bind (.bind ?_ fun _ => ?_) fun _ => ?_) signed
    · exact Session.recognizes_load bytes policy.strict policy.limit signed
    · exact Session.recognizes_checkBrands _
    · exact Metadata.recognizes_collect .heif (recognizes_collect policy _)
  · refine iff_of_false (fun h => ?_) signed
    rw [Session.run_load_of_ne bytes policy.strict policy.limit signed] at h
    exact h _ rfl rfl

end ImageMetadata.Heif
