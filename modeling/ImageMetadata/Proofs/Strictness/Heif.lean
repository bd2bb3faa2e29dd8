import ImageMetadata.Proofs.Strictness.Containers
import ImageMetadata.Heif.File

/-!
# Strict and lenient reading of HEIF files

A session knows its own mode, so two sessions are compared that differ in nothing else. A box that
cannot be decoded and an XMP item that cannot be read are caught, but a strict reader fails there.
-/

namespace ImageMetadata.Heif

open Outcome (Agrees)

variable (bytes : Bytes) (limit : Int)

theorem agrees_readContent (id : Bytes) (offset : Nat) (payload : Bytes) :
    (readContent true id offset payload).Agrees (readContent false id offset payload) := by
  unfold readContent
  split
  · exact (Agrees.trace _).bind fun _ => .pure _
  cases Content.decoder? id with
  | none => exact (Agrees.trace _).bind fun _ => .pure _
  | some decode =>
      refine ((Agrees.ofExcept _).bind fun content => .pure _).rescue ?_ ?_
      · intro cause
        exact (Agrees.require _ _).bind fun _ => .flag_pure rfl _
      · intro cause
        refine ⟨.unreadableBox id offset cause, ?_, rfl⟩
        cases Content.isRequired id <;> rfl

theorem agrees_readBoxes (depth start stop : Nat) :
    (readBoxes bytes true limit depth start stop).Agrees
      (readBoxes bytes false limit depth start stop) := by
  induction depth, start, stop using readBoxes.induct bytes limit with
  | case1 depth start stop done =>
      rw [readBoxes, readBoxes, dif_pos done, dif_pos done]
      exact .pure []
  | case2 depth start stop more short =>
      rw [readBoxes, readBoxes, dif_neg more, dif_neg more, if_pos short, if_pos short]
      exact .flag_pure rfl []
  | case3 depth start stop more long p failed =>
      rw [readBoxes, readBoxes, dif_neg more, dif_neg more, if_neg long, if_neg long, failed]
      exact .fail p
  | case4 depth start stop more long header read _ _ _ inside past children siblings =>
      rw [readBoxes, readBoxes, dif_neg more, dif_neg more, if_neg long, if_neg long, read]
      apply (agrees_readContent _ _ _).bind
      intro content
      refine Agrees.bind ?_ fun boxes => siblings.bind fun rest => .pure _
      split
      · split
        · exact .flag_pure rfl []
        · exact children content.2
      · exact .pure []

/-- Two sessions for one file, of which the first one is strict and the second one is lenient. -/
structure Session.Twins (s t : Session) : Prop where
  strict : s.strict = true
  lenient : t.strict = false
  cursor : s.cursor = t.cursor
  boxes : s.boxes = t.boxes

namespace Session

theorem agrees_load : Action.Agrees Twins (load limit) (load limit) := by
  apply Action.Agrees.state_bind
  intro s t twins
  rw [twins.strict, twins.lenient, twins.cursor]
  apply (Action.Agrees.require _ _).bind
  intro _
  apply (Action.Agrees.lift (agrees_readBoxes _ limit _ _ _)).bind
  intro boxes
  exact Action.Agrees.update fun s t twins =>
    ⟨twins.strict, twins.lenient, twins.cursor, rfl⟩

theorem agrees_checkBrands : Action.Agrees Twins checkBrands checkBrands := by
  apply Action.Agrees.state_bind
  intro s t twins
  rw [twins.strict, twins.lenient, twins.boxes]
  cases t.boxes with
  | nil => exact .fail _
  | cons first rest =>
      dsimp only
      split
      · exact .lift (.check _ rfl)
      · exact .fail _

theorem agrees_readAll : Action.Agrees Twins (readAll limit) (readAll limit) :=
  (agrees_load limit).bind fun _ => agrees_checkBrands

/-- A query of the boxes has the same answer in both sessions. -/
theorem agrees_find? (id : Bytes) : Action.Agrees Twins (find? id) (find? id) := by
  apply Action.Agrees.state_bind
  intro s t twins
  rw [twins.boxes]
  exact .pure _

theorem agrees_itemBoxes : Action.Agrees Twins itemBoxes itemBoxes := by
  refine (agrees_find? _).bind fun information => (agrees_find? _).bind fun location => ?_
  cases information with
  | none => exact .fail _
  | some information =>
      cases location with
      | none => exact .fail _
      | some location => exact .pure _

theorem agrees_findItem (condition : ItemBox → Bool) :
    Action.Agrees Twins (findItem condition) (findItem condition) :=
  agrees_itemBoxes.bind fun _ => .pure _

theorem agrees_location (item : Int) : Action.Agrees Twins (location item) (location item) := by
  apply agrees_itemBoxes.bind
  intro boxes
  dsimp only
  split
  · split
    · exact .pure _
    · exact .fail _
  · exact .fail _

theorem agrees_range? (l : Location) : Action.Agrees Twins (range? l) (range? l) := by
  unfold range?
  split
  · apply Action.Agrees.state_bind
    intro s t twins
    rw [twins.cursor]
    exact .pure _
  split
  · apply (agrees_find? _).bind
    intro box
    cases box with
    | none => exact .fail _
    | some box => exact .pure _
  · exact .pure none

theorem agrees_reading {α : Type} (x : Reading α) :
    Action.Agrees Twins (reading x) (reading x) := by
  intro s t twins
  simp only [reading, Action.run, twins.cursor]
  cases x.run t.cursor with
  | ok a c => exact ⟨.pure a, fun _ => ⟨twins.strict, twins.lenient, rfl, twins.boxes⟩⟩
  | error p c => exact ⟨.fail p, fun _ => ⟨twins.strict, twins.lenient, rfl, twins.boxes⟩⟩

theorem agrees_itemData (item : Int) (skipHeader : Bool) :
    Action.Agrees Twins (itemData item skipHeader) (itemData item skipHeader) := by
  refine (agrees_location item).bind fun l => (Action.Agrees.require _ _).bind fun _ => ?_
  apply (agrees_range? l).bind
  intro range
  cases range with
  | none =>
      apply Action.Agrees.state_bind
      intro s t twins
      rw [twins.strict, twins.lenient]
      exact (Action.Agrees.lift (.flag rfl)).bind fun _ => .pure none
  | some range => exact (agrees_reading _).bind fun data => .pure _

theorem agrees_exifPayload : Action.Agrees Twins exifPayload exifPayload := by
  apply (agrees_findItem _).bind
  intro found
  cases found with
  | none => exact (Action.Agrees.lift (.trace _)).bind fun _ => .pure none
  | some found => exact agrees_itemData _ _

theorem agrees_xmpPacket : Action.Agrees Twins xmpPacket xmpPacket := by
  apply (agrees_findItem _).bind
  intro found
  cases found with
  | none => exact .pure none
  | some found => exact agrees_itemData _ _

end Session

theorem agrees_packet? {s t : Session} (twins : s.Twins t) :
    (packet? s true).Agrees (packet? t false) := by
  apply (Session.agrees_xmpPacket s t twins).1.rescue (fun cause => .flag_pure rfl none)
  exact fun cause => ⟨.unreadableXmp cause, rfl, rfl⟩

theorem agrees_collect {s t : Session} (twins : s.Twins t) :
    Action.Agrees Eq (collect s ⟨true, limit⟩) (collect t ⟨false, limit⟩) := by
  obtain ⟨outcomes, sessions⟩ := Session.agrees_exifPayload s t twins
  rw [collect_eq, collect_eq]
  apply Action.Agrees.lift_bind outcomes
  intro clean stream
  apply (Tiff.agrees_collect? limit stream).bind
  intro _
  apply Action.Agrees.lift_bind (agrees_packet? (sessions clean))
  intro _ packet
  exact Xmp.agrees_collect? packet

theorem agrees_metadata :
    (metadata bytes ⟨true, limit⟩).Agrees (metadata bytes ⟨false, limit⟩) := by
  have twins : (Session.start bytes true).Twins (Session.start bytes false) := ⟨rfl, rfl, rfl, rfl⟩
  obtain ⟨outcomes, sessions⟩ := Session.agrees_readAll limit _ _ twins
  rw [metadata_eq, metadata_eq]
  apply outcomes.bind_of_clean
  intro clean _ _
  exact Metadata.agrees_collect (agrees_collect limit (sessions clean))

end ImageMetadata.Heif
