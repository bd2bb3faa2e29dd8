import ImageMetadata.Proofs.Heif.ItemBoxes
import ImageMetadata.Proofs.Safety.HeifContent

/-!
# References between items

The references of a payload are read box by box. The next box is looked for behind the declared end
of the one before it, wherever the targets end that are read, since only the end of the payload stops
them. So the boxes follow one another, but a reference need not lie in its own one: it does exactly
if there is room for its targets, and then it is what its box alone is read as.
-/

namespace ImageMetadata.Heif

open ImageMetadata.Reading (Takes Finds)
open Content (idWidth)

theorem Reference.length_body (narrow : Bool) (r : Reference) :
    (referenceBody narrow r).length =
      idWidth narrow + 2 + idWidth narrow * r.targets.length := by
  have targets : (r.targets.flatMap (ByteOrder.big.unsignedBytes (idWidth narrow))).length =
      r.targets.length * idWidth narrow := by
    simp [List.length_flatMap]
  simp only [referenceBody, List.length_append, ByteOrder.unsignedBytes_length, targets,
    Nat.mul_comm]
  omega

/-- The number of bytes that are read of a reference. -/
def Reference.readLength (narrow : Bool) (r : Reference) : Nat :=
  8 + idWidth narrow + 2 + idWidth narrow * r.targets.length

namespace PlacedReference

/-- The declared end of the box. -/
def stop (p : PlacedReference) : Nat := p.start + p.size

/-- The bytes of the box. -/
def box (p : PlacedReference) (payload : Bytes) : Bytes := payload.slice p.start p.size

/-- The position behind the last byte that is read. -/
def readStop (narrow : Bool) (p : PlacedReference) : Nat :=
  p.start + p.reference.readLength narrow

/-- The box has room for all targets. -/
def HasRoom (narrow : Bool) (p : PlacedReference) : Prop :=
  p.reference.readLength narrow ≤ p.size

instance (narrow : Bool) (p : PlacedReference) : Decidable (p.HasRoom narrow) :=
  inferInstanceAs (Decidable (_ ≤ _))

end PlacedReference

namespace Reference.IsAt

variable {payload : Bytes} {narrow : Bool} {start size : Nat} {r : Reference}

theorem length_held (h : r.IsAt payload narrow start size) :
    (ByteOrder.big.unsignedBytes 4 size ++ (r.type ++ referenceBody narrow r)).length =
      r.readLength narrow := by
  rw [List.length_append, List.length_append, ByteOrder.unsignedBytes_length,
    h.fits.type_length, Reference.length_body, Reference.readLength]
  omega

/-- What is read of a reference lies in the payload. -/
theorem add_readLength_le (h : r.IsAt payload narrow start size) :
    start + r.readLength narrow ≤ payload.length :=
  h.length_held ▸ h.held.add_length_le

/-- A reference for which there is room stands in its box alone. -/
theorem alone (h : r.IsAt payload narrow start size) (room : r.readLength narrow ≤ size) :
    r.IsAt (payload.slice start size) narrow 0 size where
  fits := h.fits
  size_lt := h.size_lt
  held := by
    obtain ⟨before, after, bytes, rfl⟩ := h.held
    refine ⟨[], after.take (size - r.readLength narrow), ?_, rfl⟩
    rw [bytes, Bytes.slice, List.drop_left, List.take_append, h.length_held,
      List.take_of_length_le (h.length_held ▸ room), List.nil_append]
  least := h.least
  inside := by rw [Bytes.slice_length_of_le h.inside, Nat.zero_add]

end Reference.IsAt

namespace Content

variable {narrow : Bool} {c d : Cursor} {r : Reference} {payload : Bytes}

theorem finds_versionFlags : Finds versionFlags VersionFlags.bytes VersionFlags.Fits := by
  intro c d head order inside run
  obtain ⟨version, version_lt, held, run⟩ := Finds.of_run_bind (.unsigned 1) run order inside
  obtain ⟨flags, length, held', ended⟩ :=
    Finds.of_run_bind (.read 3) run order held.add_length_le
  cases ended
  have flags_lt := ByteOrder.big.unsigned_lt flags
  have stored := ByteOrder.big.unsignedBytes_unsigned flags
  rw [length] at flags_lt stored
  have bytes : VersionFlags.bytes ⟨version, ByteOrder.big.unsigned flags⟩ =
      ByteOrder.big.unsignedBytes 1 version ++ flags := by
    rw [VersionFlags.bytes, stored]
  refine ⟨⟨version_lt, flags_lt⟩, ?_, ?_⟩
  · rw [bytes]
    exact held.append held'
  · rw [bytes, List.length_append, ← Nat.add_assoc]
    rfl

theorem finds_itemId (narrow : Bool) :
    Finds (itemId narrow) (ByteOrder.big.unsignedBytes (idWidth narrow))
      fun item => item < Bytes.capacity (idWidth narrow) :=
  .unsigned (idWidth narrow)

/-- A reference that is read stands where the cursor was, and the cursor moves to the end of its
box. -/
theorem of_run_decodeReference (order : c.order = .big) (inside : c.position ≤ c.size)
    (run : (decodeReference narrow).run c = .ok r d) :
    ∃ size, r.IsAt c.bytes narrow c.position size ∧ d = { c with position := c.position + size } := by
  obtain ⟨_, _, ⟨⟩, run⟩ := Cursor.ok_of_run_bind run
  obtain ⟨size, size_lt, sized, run⟩ := Finds.of_run_bind (.unsigned 4) run order inside
  obtain ⟨type, length, typed, run⟩ := Finds.of_run_bind (.read 4) run order sized.add_length_le
  obtain ⟨_, _, required, run⟩ := Cursor.ok_of_run_bind run
  obtain ⟨valid, rfl⟩ := Cursor.of_run_require required
  obtain ⟨source, source_lt, sourced, run⟩ :=
    (finds_itemId narrow).of_run_bind run order typed.add_length_le
  obtain ⟨count, count_lt, counted, run⟩ :=
    Finds.of_run_bind (.unsigned 2) run order sourced.add_length_le
  obtain ⟨targets, ⟨rfl, targets_lt⟩, listed, run⟩ :=
    ((finds_itemId narrow).times count).of_run_bind run order counted.add_length_le
  obtain ⟨_, _, moved, ended⟩ := Cursor.ok_of_run_bind run
  obtain ⟨least, room⟩ := Bool.and_eq_true_iff.1 valid
  have least : 8 ≤ size := of_decide_eq_true least
  have room : size ≤ c.size - c.position := of_decide_eq_true room
  have last : c.position + size ≤ c.size := by omega
  have jump (e : Cursor) (same : e.bytes = c.bytes) :
      (Cursor.seek (c.position + (size : Nat))).run e =
        .ok () { e with position := c.position + size } :=
    Cursor.run_seek (by unfold Cursor.size; rw [same]; exact last)
  cases moved.symm.trans (jump _ rfl)
  cases ended
  refine ⟨size, ⟨⟨length, source_lt, count_lt, targets_lt⟩, size_lt, ?_, least, last⟩, rfl⟩
  exact sized.append (typed.append (sourced.append (counted.append listed)))

/-- Where references are read to the end, they stand from the position of the cursor on. -/
theorem of_run_decodeReferences {fuel : Nat} {found references : List Reference}
    (order : c.order = .big) (inside : c.position ≤ c.size)
    (enough : c.size < c.position + 8 * fuel)
    (run : (decodeReferences narrow fuel found).run c = .ok references d) :
    ∃ placed stop, ReferencesFrom c.bytes narrow c.position placed stop ∧
      references = found.reverse ++ placed.map PlacedReference.reference := by
  induction fuel generalizing found c with
  | zero => omega
  | succ fuel ih =>
      obtain ⟨_, _, ⟨⟩, run⟩ := Cursor.ok_of_run_bind run
      have size_eq : c.size = c.bytes.length := rfl
      have left : c.remaining = c.bytes.length - c.position := rfl
      by_cases short : c.remaining < 8
      · rw [if_pos short] at run
        cases run
        exact ⟨[], _, .done (by omega), (List.append_nil _).symm⟩
      · rw [if_neg short] at run
        obtain ⟨r, c', read, others⟩ := Cursor.ok_of_run_bind run
        obtain ⟨size, first, rfl⟩ := of_run_decodeReference order inside read
        have least := first.least
        obtain ⟨placed, stop, rest, rfl⟩ :=
          ih (c := { c with position := c.position + size }) order first.inside
            (show c.size < c.position + size + 8 * fuel by omega) others
        exact ⟨_, stop, .next first rest, by simp⟩

/-- A payload is accepted exactly if references stand in it behind a version and flags, and then
they are what is returned. -/
theorem decode_itemReference_iff {content : Content} :
    (∃ c, decodeItemReference.decode payload = .ok (content, c)) ↔
      ∃ head placed stop, content = itemReference head (placed.map PlacedReference.reference) ∧
        head.Fits ∧ payload.Holds head.bytes 0 ∧
        ReferencesFrom payload (head.version == 0) head.bytes.length placed stop := by
  constructor
  · rintro ⟨c, decoded⟩
    obtain ⟨head, fits, held, run⟩ := finds_versionFlags.of_run_bind
      (Reading.run_of_decode decoded) rfl (Nat.zero_le _)
    obtain ⟨_, _, ⟨⟩, run⟩ := Cursor.ok_of_run_bind run
    obtain ⟨references, _, read, ended⟩ := Cursor.ok_of_run_bind run
    cases ended
    obtain ⟨placed, stop, placed_from, rfl⟩ :=
      of_run_decodeReferences rfl held.add_length_le (by simp only [Cursor.size]; omega) read
    rw [show (Cursor.ofBytes payload .big).position = 0 from rfl, Nat.zero_add] at placed_from
    exact ⟨head, placed, stop, rfl, fits, held, placed_from⟩
  · rintro ⟨head, placed, stop, rfl, fits, held, placed_from⟩
    have start := Nat.zero_add head.bytes.length
    rw [← start] at placed_from
    exact ⟨_, Reading.decode_of_run (run_decodeItemReference fits held placed_from rfl)⟩

end Content

/-- One reference stands at a position, in a box of one size. -/
theorem Reference.IsAt.unique {bytes : Bytes} {narrow : Bool} {start size size' : Nat}
    {r r' : Reference} (h : r.IsAt bytes narrow start size) (h' : r'.IsAt bytes narrow start size') :
    r = r' ∧ size = size' := by
  have run := Content.run_decodeReference (c := ⟨bytes, .big, start, none⟩) h rfl
  have run' := Content.run_decodeReference (c := ⟨bytes, .big, start, none⟩) h' rfl
  obtain ⟨same, moved⟩ := EStateM.Result.ok.inj (run.symm.trans run')
  exact ⟨same, Nat.add_left_cancel (congrArg Cursor.position moved)⟩

namespace ReferencesFrom

variable {payload : Bytes} {narrow : Bool} {start stop : Nat} {placed : List PlacedReference}

theorem isAt (h : ReferencesFrom payload narrow start placed stop) :
    ∀ p ∈ placed, p.reference.IsAt payload narrow p.start p.size := by
  induction h with
  | done _ => exact fun _ member => nomatch member
  | next first _ ih => exact List.forall_mem_cons.2 ⟨first, ih⟩

theorem le_start (h : ReferencesFrom payload narrow start placed stop) :
    ∀ p ∈ placed, start ≤ p.start := by
  induction h with
  | done _ => exact fun _ member => nomatch member
  | next _ _ ih =>
      refine List.forall_mem_cons.2 ⟨Nat.le_refl _, fun p member => ?_⟩
      exact Nat.le_trans (Nat.le_add_right _ _) (ih p member)

/-- References stand in one way only. -/
theorem unique {placed' : List PlacedReference} {stop' : Nat}
    (h : ReferencesFrom payload narrow start placed stop)
    (h' : ReferencesFrom payload narrow start placed' stop') : placed = placed' := by
  induction h generalizing placed' with
  | done short =>
      cases h' with
      | done _ => rfl
      | next first _ =>
          have least := first.least
          have inside := first.inside
          omega
  | next first _ ih =>
      cases h' with
      | done short =>
          have least := first.least
          have inside := first.inside
          omega
      | next first' others' =>
          obtain ⟨rfl, rfl⟩ := first.unique first'
          rw [ih others']

/-- The boxes of the references follow one another. -/
theorem pairwise (h : ReferencesFrom payload narrow start placed stop) :
    placed.Pairwise fun p q => p.stop ≤ q.start := by
  induction h with
  | done _ => exact .nil
  | next _ others ih => exact .cons others.le_start ih

end ReferencesFrom

/-- A reference is what its box alone is read as exactly if the box has room for all targets. -/
theorem Reference.IsAt.decode_box_iff {payload : Bytes} {narrow : Bool} {p : PlacedReference}
    (h : p.reference.IsAt payload narrow p.start p.size) :
    (∃ c, (Content.decodeReference narrow).decode (p.box payload) = .ok (p.reference, c)) ↔
      p.HasRoom narrow := by
  have length : (p.box payload).length = p.size := Bytes.slice_length_of_le h.inside
  constructor
  · rintro ⟨c, decoded⟩
    obtain ⟨size, alone, _⟩ :=
      Content.of_run_decodeReference rfl (Nat.zero_le _) (Reading.run_of_decode decoded)
    have read := alone.add_readLength_le
    rw [show (Cursor.ofBytes (p.box payload) .big).bytes = p.box payload from rfl, length] at read
    exact Nat.le_of_add_left_le read
  · intro room
    have run := Content.run_decodeReference (c := Cursor.ofBytes (p.box payload) .big)
      (h.alone room) rfl
    exact ⟨_, Reading.decode_of_run run⟩

namespace Content

/-- A payload is refused because of its bytes, or it is accepted with the references that stand in
it. Then their boxes follow one another, a reference is what its box alone is read as exactly if there
is room for it, and if there is room for all of them, no two are read from the same bytes. -/
theorem decode_itemReference_cases (payload : Bytes) :
    (∃ p, decodeItemReference.decode payload = .error p ∧ p.isStructural = true) ∨
      ∃ head c placed stop,
        decodeItemReference.decode payload =
            .ok (itemReference head (placed.map PlacedReference.reference), c) ∧
          ReferencesFrom payload (head.version == 0) head.bytes.length placed stop ∧
          (placed.Pairwise fun p q => p.stop ≤ q.start) ∧
          (∀ p ∈ placed,
            (∃ c, (decodeReference (head.version == 0)).decode (p.box payload) =
                .ok (p.reference, c)) ↔
              p.HasRoom (head.version == 0)) ∧
          ((∀ p ∈ placed, p.HasRoom (head.version == 0)) →
            placed.Pairwise fun p q => p.readStop (head.version == 0) ≤ q.start) := by
  cases decoded : decodeItemReference.run (Cursor.ofBytes payload .big) with
  | error p d =>
      have ends := decodes_itemReference none (Cursor.ofBytes payload .big) rfl
      rw [decoded] at ends
      exact .inl ⟨p, by rw [Reading.decode, decoded], ends.1⟩
  | ok content c =>
      have decoded := Reading.decode_of_run decoded
      obtain ⟨head, placed, stop, rfl, _, _, placed_from⟩ :=
        decode_itemReference_iff.1 ⟨c, decoded⟩
      refine .inr ⟨head, c, placed, stop, decoded, placed_from, placed_from.pairwise, ?_, ?_⟩
      · exact fun p member => (placed_from.isAt p member).decode_box_iff
      · intro room
        refine placed_from.pairwise.imp_of_mem fun {p q} member _ apart => ?_
        exact Nat.le_trans (Nat.add_le_add_left (room p member) _) apart

/-- Two boxes of twelve bytes. The first one has no room for the target that it counts, the second
one counts none. -/
def crossingPayload : Bytes :=
  [0, 0, 0, 0] ++
    ([0, 0, 0, 12] ++ Bytes.ascii "cdsc" ++ [0, 1, 0, 1]) ++
    ([0, 0, 0, 12] ++ Bytes.ascii "thmb" ++ [0, 2, 0, 0])

/-- The target is read from the size of the second box. -/
def crossingReferences : List PlacedReference :=
  [⟨4, 12, ⟨Bytes.ascii "cdsc", 1, [0]⟩⟩, ⟨16, 12, ⟨Bytes.ascii "thmb", 2, []⟩⟩]

theorem referencesFrom_crossing : ReferencesFrom crossingPayload true 4 crossingReferences 28 := by
  have first : Reference.IsAt crossingPayload true 4 12 ⟨Bytes.ascii "cdsc", 1, [0]⟩ :=
    { fits := ⟨by decide, by decide, by decide, by decide⟩
      size_lt := by decide
      held := ⟨crossingPayload.take 4, crossingPayload.drop 18, by decide, by decide⟩
      least := by decide
      inside := by decide }
  have second : Reference.IsAt crossingPayload true 16 12 ⟨Bytes.ascii "thmb", 2, []⟩ :=
    { fits := ⟨by decide, by decide, by decide, by decide⟩
      size_lt := by decide
      held := ⟨crossingPayload.take 16, [], by decide, by decide⟩
      least := by decide
      inside := by decide }
  exact .next first (.next second (.done (by decide)))

/-- A file with that payload. -/
def crossingFile : Bytes :=
  [0, 0, 0, 16] ++ Bytes.ascii "ftypheic" ++ [0, 0, 0, 0] ++
    ([0, 0, 0, 36] ++ Bytes.ascii "iref" ++ crossingPayload)

/-- A strict reader accepts the file without a warning, though a reference does not fit into its box
and two references share bytes. -/
theorem readAll_crossing :
    (Session.readAll 32).run (Session.start crossingFile true) =
        (⟨[], .ok ()⟩,
          { Session.start crossingFile true with
            boxes :=
              [⟨Bytes.ascii "ftyp", 0, 16, 8, .fileType (Bytes.ascii "heic") 0 [], []⟩,
                ⟨Bytes.ascii "iref", 16, 36, 8,
                  itemReference ⟨0, 0⟩ (crossingReferences.map PlacedReference.reference),
                  []⟩] }) ∧
      ReferencesFrom crossingPayload true 4 crossingReferences 28 ∧
      ¬ (∀ p ∈ crossingReferences, p.HasRoom true) ∧
      ¬ crossingReferences.Pairwise fun p q => p.readStop true ≤ q.start :=
  ⟨Action.run_eq_of_silent (by decide +kernel), referencesFrom_crossing, by decide, by decide⟩

end Content

end ImageMetadata.Heif
