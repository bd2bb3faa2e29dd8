import ImageMetadata.Heif.File
import ImageMetadata.Proofs.Heif.Forest
import ImageMetadata.Proofs.Safety.Containers
import ImageMetadata.Proofs.Safety.HeifContent

/-!
# Safe reading of HEIF files

A box keeps contents of another type than its own, namely unknown ones, only if its type is not
required to find items. So a box that is looked up by a required type has the contents that its
reader expects, and the first box of a file is a file type box.
-/

namespace ImageMetadata.Heif

open ImageMetadata.Action (Ends)
open Metadata (IsOpen)

variable (bytes : Bytes) (strict : Bool) (limit : Int)

/-- The contents belong to a type code, or they are unknown and the type is not required. -/
def Content.Fits (content : Content) (id : Bytes) : Prop :=
  content.code = some id ∨ content = .unknown ∧ Content.isRequired id = false

theorem ends_readContent (id : Bytes) (offset : Nat) (payload : Bytes) :
    (readContent strict id offset payload).Ends fun r => r.1.Fits id := by
  unfold readContent
  split
  · rename_i media
    refine (Outcome.Ends.of_silent rfl).bind fun _ _ => .pure (.inl ?_)
    rw [media]
    rfl
  cases known : Content.decoder? id with
  | none =>
      refine (Outcome.Ends.of_silent rfl).bind fun _ _ => .pure (.inr ?_)
      exact ⟨rfl, Content.isRequired_of_decoder?_none known⟩
  | some decode =>
      have decoded := (Content.ends_of_decoder? none known).decode payload
      refine Outcome.Ends.rescue ?_ fun cause => ?_
      · cases result : decode.decode payload with
        | error p =>
            rw [result] at decoded
            exact .fail decoded
        | ok r =>
            rw [result] at decoded
            exact .pure (.inl decoded)
      · apply (Outcome.Ends.require _ rfl).bind
        intro _ optional
        refine (Outcome.Ends.flag strict rfl).bind fun _ _ => .pure (.inr ⟨rfl, ?_⟩)
        simpa using optional

namespace Box

/-- The contents fit the type of the box. -/
def IsTyped (b : Box) : Prop := b.content.Fits b.id

/-- A box of a required type has contents of that type. -/
theorem IsTyped.code {b : Box} (typed : b.IsTyped) (required : Content.isRequired b.id = true) :
    b.content.code = some b.id := by
  rcases typed with known | ⟨_, optional⟩
  · exact known
  · simp [required] at optional

end Box

theorem structural_of_readHeader {start stop : Nat} {p : Problem}
    (failed : readHeader bytes start stop = .error p) : p.isStructural = true := by
  unfold readHeader at failed
  dsimp only at failed
  split at failed
  · cases failed; rfl
  split at failed
  · cases failed; rfl
  split at failed
  · cases failed; rfl
  · cases failed

/-- The boxes of a range fit their types and do not reach past its end; a range that has room for a
header has a first box, whose type stands there. -/
structure IsForestOf (start stop : Nat) (boxes : List Box) : Prop where
  typed : Box.Everywhere Box.IsTyped boxes
  inside : Box.Everywhere (fun b => b.offset + b.length ≤ stop) boxes
  first : start + 8 ≤ stop → ∃ b rest, boxes = b :: rest ∧ b.id = bytes.slice (start + 4) 4

theorem ends_readBoxes (depth start stop : Nat) :
    (readBoxes bytes strict limit depth start stop).Ends (IsForestOf bytes start stop) := by
  induction depth, start, stop using readBoxes.induct bytes limit with
  | case1 depth start stop done =>
      rw [readBoxes, dif_pos done]
      exact .pure ⟨.nil, .nil, fun room => by omega⟩
  | case2 depth start stop more short =>
      rw [readBoxes, dif_neg more, if_pos short]
      exact (Outcome.Ends.flag strict rfl).bind fun _ _ =>
        .pure ⟨.nil, .nil, fun room => by omega⟩
  | case3 depth start stop more long p failed =>
      rw [readBoxes, dif_neg more, if_neg long, failed]
      exact .fail (structural_of_readHeader bytes failed)
  | case4 depth start stop more long header read _ _ _ inside past children siblings =>
      rw [readBoxes, dif_neg more, if_neg long, read]
      have most : past ≤ stop := header.length_le
      apply (ends_readContent strict _ _ _).bind
      intro content fits
      have forest : (if content.1.category = .container then
            if limit < (depth : Int) + 1 then do
              Outcome.flag strict (.boxTooDeep header.id start limit)
              pure []
            else readBoxes bytes strict limit (depth + 1) (inside + content.2) past
          else pure [] : Outcome (List Box)).Ends fun boxes =>
            Box.Everywhere Box.IsTyped boxes ∧
              Box.Everywhere (fun b => b.offset + b.length ≤ stop) boxes := by
        split
        · split
          · exact (Outcome.Ends.flag strict rfl).bind fun _ _ => .pure ⟨.nil, .nil⟩
          · refine (children content.2).mono fun _ forest => ⟨forest.typed, ?_⟩
            exact forest.inside.mono fun _ => (Nat.le_trans · most)
        · exact .pure ⟨.nil, .nil⟩
      refine forest.bind fun boxes within => siblings.bind fun rest others => .pure ?_
      exact
        { typed := .cons fits within.1 others.typed
          inside := .cons most within.2 others.inside
          first := fun _ => ⟨_, rest, rfl, (readHeader_eq_iff.1 read).1.symm⟩ }

theorem Content.eq_fileType {content : Content} (h : content.code = some (Bytes.ascii "ftyp")) :
    ∃ major minor compatible, content = .fileType major minor compatible := by
  cases content with
  | fileType major minor compatible => exact ⟨major, minor, compatible, rfl⟩
  | unknown => cases h
  | _ => exact absurd h (by rw [Content.code]; decide)

theorem Content.eq_itemInformation {content : Content}
    (h : content.code = some (Bytes.ascii "iinf")) :
    ∃ head count, content = .itemInformation head count := by
  cases content with
  | itemInformation head count => exact ⟨head, count, rfl⟩
  | unknown => cases h
  | _ => exact absurd h (by rw [Content.code]; decide)

theorem Content.eq_itemLocation {content : Content}
    (h : content.code = some (Bytes.ascii "iloc")) :
    ∃ head items, content = .itemLocation head items := by
  cases content with
  | itemLocation head items => exact ⟨head, items, rfl⟩
  | unknown => cases h
  | _ => exact absurd h (by rw [Content.code]; decide)

/-- The boxes that a reader relies on have the contents that it expects. -/
structure IsWellTyped (boxes : List Box) : Prop where
  first (b : Box) (rest : List Box) : boxes = b :: rest →
    ∃ major minor compatible, b.content = .fileType major minor compatible
  information (b : Box) : Box.find? (Bytes.ascii "iinf") boxes = some b →
    ∃ head count, b.content = .itemInformation head count
  location (b : Box) : Box.find? (Bytes.ascii "iloc") boxes = some b →
    ∃ head items, b.content = .itemLocation head items

theorem IsWellTyped.nil : IsWellTyped [] where
  first _ _ h := nomatch h
  information _ h := by simp [Box.find?] at h
  location _ h := by simp [Box.find?] at h

/-- The boxes of a file that starts with a file type box. -/
theorem IsForestOf.isWellTyped {stop : Nat} {boxes : List Box}
    (forest : IsForestOf bytes 0 stop boxes) (room : 8 ≤ stop)
    (headed : bytes.slice 4 4 = Bytes.ascii "ftyp") : IsWellTyped boxes where
  first b rest same := by
    obtain ⟨b', rest', same', id⟩ := forest.first (by omega)
    obtain ⟨rfl, rfl⟩ : b = b' ∧ rest = rest' := by simpa [same] using same'
    rw [headed] at id
    obtain _ | ⟨typed, _, _⟩ := same ▸ forest.typed
    exact Content.eq_fileType (id ▸ typed.code (by rw [id]; decide))
  information b found := by
    obtain ⟨id, typed⟩ := forest.typed.of_find? found
    exact Content.eq_itemInformation (id ▸ typed.code (by rw [id]; decide))
  location b found := by
    obtain ⟨id, typed⟩ := forest.typed.of_find? found
    exact Content.eq_itemLocation (id ▸ typed.code (by rw [id]; decide))

namespace Session

/-- No position is marked, and the boxes can be relied on. -/
structure IsReady (s : Session) : Prop where
  unmarked : s.cursor.mark = none
  boxes : IsWellTyped s.boxes

/-- Once the boxes are read, the session can be relied on. -/
theorem ends_load :
    Ends (fun s => s.cursor.mark = none) (load limit) fun _ s => s.IsReady ∧ s.boxes ≠ [] := by
  refine Ends.state_bind fun s _ => Ends.require_bind _ rfl fun present => ?_
  simp only [Bool.and_eq_true, decide_eq_true_eq, beq_iff_eq] at present
  obtain ⟨room, headed⟩ := present
  apply Ends.lift_bind (ends_readBoxes s.cursor.bytes s.strict limit _ _ _)
  intro boxes forest
  obtain ⟨first, rest, rfl, _⟩ := forest.first (by omega)
  have typed := forest.isWellTyped s.cursor.bytes room headed
  exact Ends.update fun t unmarked => ⟨⟨unmarked, typed⟩, List.cons_ne_nil first rest⟩

/-- The check of the brands always finds a file type box in front. -/
theorem ends_checkBrands :
    Ends (fun s => s.IsReady ∧ s.boxes ≠ []) checkBrands fun _ s => s.IsReady ∧ s.boxes ≠ [] := by
  apply Ends.state_bind
  intro s ready
  cases boxes : s.boxes with
  | nil => exact absurd boxes ready.2
  | cons first rest =>
      obtain ⟨major, minor, compatible, content⟩ := ready.1.boxes.first first rest boxes
      dsimp only
      rw [content]
      exact Ends.lift (.check s.strict _ rfl)

theorem ends_readAll :
    Ends (fun s => s.cursor.mark = none) (readAll limit) fun _ s => s.IsReady ∧ s.boxes ≠ [] :=
  (ends_load limit).bind fun _ => ends_checkBrands

/-- Whether or not a file is accepted, the boxes that are kept can be relied on. -/
theorem isWellTyped_of_readAll :
    IsWellTyped ((readAll limit).run (Session.start bytes strict)).2.boxes := by
  have loaded := ends_load limit (Session.start bytes strict) rfl
  unfold readAll
  rw [Action.run_bind_snd]
  rcases run_load_snd limit (Session.start bytes strict) with ⟨read, _⟩ | ⟨⟨p, failed⟩, state⟩
  · unfold Outcome.Ends at loaded
    rw [read] at loaded ⊢
    dsimp only
    rw [run_checkBrands_snd]
    exact loaded.1.boxes
  · rw [failed]
    dsimp only
    rw [state]
    exact IsWellTyped.nil

theorem ends_find? (id : Bytes) : Ends IsReady (find? id) fun _ => IsReady :=
  Ends.state_bind fun _ _ => Ends.pure fun _ ready => ready

/-- The box that locates the items has the contents that locate them. -/
theorem ends_itemBoxes :
    Ends IsReady itemBoxes fun r s =>
      s.IsReady ∧ ∃ head items, r.2.content = .itemLocation head items := by
  have located : Ends IsReady (find? (Bytes.ascii "iloc")) fun location s => s.IsReady ∧
      ∀ b, location = some b → ∃ head items, b.content = .itemLocation head items :=
    Ends.state_bind fun s ready => Ends.pure fun _ ready' => ⟨ready', ready.boxes.location⟩
  refine (ends_find? _).bind fun information => located.bind fun location => ?_
  cases information with
  | none => exact Ends.fail rfl
  | some information =>
      cases location with
      | none => exact Ends.fail rfl
      | some location => exact Ends.pure fun _ known => ⟨known.1, known.2 location rfl⟩

theorem ends_findItem (condition : ItemBox → Bool) :
    Ends IsReady (findItem condition) fun _ => IsReady :=
  ends_itemBoxes.bind fun _ => Ends.pure fun _ known => known.1

theorem ends_location (item : Int) : Ends IsReady (location item) fun _ => IsReady := by
  apply ends_itemBoxes.bind
  intro boxes s known
  obtain ⟨ready, head, items, content⟩ := known
  dsimp only
  rw [content]
  dsimp only
  split
  · exact .pure ready
  · exact .fail rfl

theorem ends_range? (l : Location) : Ends IsReady (range? l) fun _ => IsReady := by
  unfold range?
  split
  · exact Ends.state_bind fun _ _ => Ends.pure fun _ ready => ready
  split
  · apply (ends_find? _).bind
    intro box
    cases box with
    | none => exact Ends.fail rfl
    | some box => exact Ends.pure fun _ ready => ready
  · exact Ends.pure fun _ ready => ready

theorem ends_reading {α : Type} {x : Reading α} (h : Reading.Ends none x fun _ => True) :
    Ends IsReady (reading x) fun _ => IsReady := by
  intro s ready
  have ends := h s.cursor ready.unmarked
  cases hx : x.run s.cursor with
  | error p c =>
      rw [hx] at ends
      simp only [reading, Action.run, hx]
      exact .fail ends.1
  | ok a c =>
      rw [hx] at ends
      simp only [reading, Action.run, hx]
      exact .pure ⟨ends.2, ready.boxes⟩

theorem ends_readExtent (m : Option Nat) (item : Int) (position length : Nat) (skipHeader : Bool) :
    Reading.Ends m (readExtent item position length skipHeader) fun _ => True := by
  apply (Reading.Ends.seek m _).bind
  intro _ _
  split
  · apply (Reading.Ends.require _ rfl).bind
    intro _ _
    apply (Reading.Ends.unsigned m 4).bind
    intro header _
    apply (Reading.Ends.require _ rfl).bind
    intro _ _
    apply (Reading.Ends.skip m header).bind
    intro _ _
    exact (Reading.Ends.read m _).mono fun _ _ => trivial
  · exact (Reading.Ends.read m _).mono fun _ _ => trivial

/-- Each extent is read from a marked position, which is released before the next one. -/
theorem ends_readExtents (item : Int) (start stop : Nat) (skipHeader : Bool) (index : Nat)
    (extents : List Extent) :
    Reading.Ends none (readExtents item start stop skipHeader index extents) fun _ => True := by
  induction extents generalizing index with
  | nil => exact .pure trivial
  | cons e rest ih =>
      apply (Reading.Ends.require _ rfl).bind
      intro _ _
      have extent := Reading.Ends.restoring fun position =>
        ends_readExtent (some position) item (start + e.offset) e.length (skipHeader && index == 0)
      apply extent.bind
      intro data _
      exact (ih (index + 1)).bind fun others _ => .pure trivial

theorem ends_itemData (item : Int) (skipHeader : Bool) :
    Ends IsReady (itemData item skipHeader) fun _ => IsReady := by
  refine (ends_location item).bind fun l => Ends.require_bind _ rfl fun _ => ?_
  apply (ends_range? l).bind
  intro range
  cases range with
  | none =>
      apply Ends.state_bind
      intro s _
      exact (Ends.lift (.flag s.strict rfl)).bind fun _ => Ends.pure fun _ ready => ready
  | some range =>
      have data := ends_readExtents item (range.1 + l.base) range.2 skipHeader 0 l.extents
      exact (ends_reading data).bind fun _ => Ends.pure fun _ ready => ready

theorem ends_exifPayload : Ends IsReady exifPayload fun _ => IsReady := by
  apply (ends_findItem _).bind
  intro found
  cases found with
  | none => exact (Ends.trace _).bind fun _ => Ends.pure fun _ ready => ready
  | some found => exact ends_itemData _ _

theorem ends_xmpPacket : Ends IsReady xmpPacket fun _ => IsReady := by
  apply (ends_findItem _).bind
  intro found
  cases found with
  | none => exact Ends.pure fun _ ready => ready
  | some found => exact ends_itemData _ _

end Session

theorem ends_packet? {s : Session} (ready : s.IsReady) :
    (packet? s strict).Ends fun _ => True := by
  have packet := (Session.ends_xmpPacket s ready).mono fun _ _ => trivial
  exact packet.rescue fun cause => (Outcome.Ends.flag strict rfl).bind fun _ _ => .pure trivial

theorem ends_collect {s : Session} (policy : Policy) (ready : s.IsReady) :
    Ends IsOpen (collect s policy) fun _ => IsOpen := by
  rw [collect_eq]
  apply Ends.lift_bind (Session.ends_exifPayload s ready)
  intro stream ready'
  apply (Tiff.ends_collect? policy stream).bind
  intro _
  exact Ends.lift_bind (ends_packet? policy.strict ready') fun packet _ => Xmp.ends_collect? packet

theorem ends_metadata (policy : Policy) :
    (metadata bytes policy).Ends fun m => m.frozen = true := by
  rw [metadata_eq]
  have read := Session.ends_readAll policy.limit (Session.start bytes policy.strict) rfl
  apply read.bind
  intro _ known
  exact Metadata.ends_collect .heif (ends_collect policy known.1)

end ImageMetadata.Heif
