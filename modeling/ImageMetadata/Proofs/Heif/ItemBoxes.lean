import ImageMetadata.Proofs.Heif.Keyed
import ImageMetadata.Proofs.Heif.RoundTrip
import ImageMetadata.Proofs.Text.Utf8

/-!
# Items that are described, equipped and related

Descriptions of items, associations of items with properties and references between items are
written in fields whose widths depend on versions and flags. They are read back as they are. A text
that may be left out is recognized by the bytes that are left, and so is the end of the references.
-/

namespace ImageMetadata.Heif

open ImageMetadata.Reading (Takes TakesRest)
open Content (idWidth)

/-- The bytes of a text, with a zero byte at the end. -/
def textBytes (text : String) : Bytes := Text.Utf8.encode text.toList ++ [0]

/-- The bytes of a text that may be left out. -/
def optionalBytes : Option String → Bytes
  | none => []
  | some text => textBytes text

/-- A text without the character 0. -/
def IsPlain (text : String) : Prop := Char.ofNat 0 ∉ text.toList

namespace Content

theorem takes_zeroEnded {text : String} (plain : IsPlain text) :
    Takes zeroEnded (textBytes text) text := by
  intro c _ held
  have inside := held.add_length_le
  have decoded := Text.Utf8.decodeReplacing_encode text.toList
  have split : ∃ rest, Bytes.splitZero? (c.bytes.drop c.position) =
      some (Text.Utf8.encode text.toList, rest) := by
    obtain ⟨before, after, bytes, start⟩ := held
    refine ⟨after, ?_⟩
    rw [bytes, List.drop_left' start, textBytes, List.append_assoc]
    exact Bytes.splitZero?_append (Text.Utf8.zero_not_mem_encode plain) after
  obtain ⟨rest, split⟩ := split
  have size : (textBytes text).length = (Text.Utf8.encode text.toList).length + 1 :=
    List.length_append
  rw [size] at inside ⊢
  unfold zeroEnded
  rw [Cursor.run_bind_of_ok _ (EStateM.run_get c)]
  dsimp only
  rw [split]
  dsimp only
  rw [Cursor.run_bind_of_ok _ (Cursor.run_skip inside), decoded, String.ofList_toList]
  rfl

/-- A text is there if the payload goes on. -/
theorem takesRest_optionalText {text : Option String} (plain : ∀ t ∈ text, IsPlain t) :
    TakesRest optionalText (optionalBytes text) text := by
  refine .remaining_bind (f := fun left =>
    if 0 < left then do return some (← zeroEnded) else return none) ?_
  cases text with
  | none => exact .of_takes (.pure none)
  | some text =>
      have long : 0 < (optionalBytes (some text)).length := by
        simp [optionalBytes, textBytes]
      rw [if_pos long]
      exact .of_takes ((takes_zeroEnded (plain text rfl)).bind_pure some)

theorem takesRest_mimeTexts {type : String} {encoding : Option String} (plain : IsPlain type)
    (optional : ∀ t ∈ encoding, IsPlain t) :
    TakesRest mimeTexts (textBytes type ++ optionalBytes encoding) (type, encoding) :=
  .bind (takes_zeroEnded plain) ((takesRest_optionalText optional).bind_pure rfl)

end Content

/-- How an item is described in a version. The first two versions give every item a content type,
the others give one to items of one type, and a URI to items of another type. -/
inductive ItemEntry.StoredAs (version : Nat) : ItemEntry → Bytes → Prop
  | early {item protection : Nat} {name contentType : String} {encoding : Option String}
      (version_lt : version < 2) (item_lt : item < Bytes.capacity 2)
      (protection_lt : protection < Bytes.capacity 2) (name_plain : IsPlain name)
      (type_plain : IsPlain contentType) (encoding_plain : ∀ t ∈ encoding, IsPlain t) :
      StoredAs version ⟨item, protection, none, name, some contentType, encoding, none⟩
        (ByteOrder.big.unsignedBytes 2 item ++ (ByteOrder.big.unsignedBytes 2 protection ++
          (textBytes name ++ (textBytes contentType ++ optionalBytes encoding))))
  | mime {item protection : Nat} {name contentType : String} {encoding : Option String}
      (version_ge : 2 ≤ version) (item_lt : item < Bytes.capacity (idWidth (version == 2)))
      (protection_lt : protection < Bytes.capacity 2) (name_plain : IsPlain name)
      (type_plain : IsPlain contentType) (encoding_plain : ∀ t ∈ encoding, IsPlain t) :
      StoredAs version
        ⟨item, protection, some (Bytes.ascii "mime"), name, some contentType, encoding, none⟩
        (ByteOrder.big.unsignedBytes (idWidth (version == 2)) item ++
          (ByteOrder.big.unsignedBytes 2 protection ++ (Bytes.ascii "mime" ++
            (textBytes name ++ (textBytes contentType ++ optionalBytes encoding)))))
  | uri {item protection : Nat} {name uri : String}
      (version_ge : 2 ≤ version) (item_lt : item < Bytes.capacity (idWidth (version == 2)))
      (protection_lt : protection < Bytes.capacity 2) (name_plain : IsPlain name)
      (uri_plain : IsPlain uri) :
      StoredAs version ⟨item, protection, some (Bytes.ascii "uri "), name, none, none, some uri⟩
        (ByteOrder.big.unsignedBytes (idWidth (version == 2)) item ++
          (ByteOrder.big.unsignedBytes 2 protection ++ (Bytes.ascii "uri " ++
            (textBytes name ++ textBytes uri))))
  | other {item protection : Nat} {type : Bytes} {name : String}
      (version_ge : 2 ≤ version) (item_lt : item < Bytes.capacity (idWidth (version == 2)))
      (protection_lt : protection < Bytes.capacity 2) (length : type.length = 4)
      (not_mime : type ≠ Bytes.ascii "mime") (not_uri : type ≠ Bytes.ascii "uri ")
      (name_plain : IsPlain name) :
      StoredAs version ⟨item, protection, some type, name, none, none, none⟩
        (ByteOrder.big.unsignedBytes (idWidth (version == 2)) item ++
          (ByteOrder.big.unsignedBytes 2 protection ++ (type ++ textBytes name)))

namespace Content

theorem takesRest_decodeItemEntry {head : VersionFlags} {entry : ItemEntry} {fields : Bytes}
    (fits : head.Fits) (stored : entry.StoredAs head.version fields) :
    TakesRest decodeItemEntry (head.bytes ++ fields) (itemEntry head entry) := by
  refine .bind (takes_versionFlags fits) ?_
  cases stored with
  | early version_lt item_lt protection_lt name_plain type_plain encoding_plain =>
      rw [if_pos version_lt]
      refine .bind (.unsigned item_lt) (.bind (.unsigned protection_lt) ?_)
      refine .bind (takes_zeroEnded name_plain) ?_
      exact (takesRest_mimeTexts type_plain encoding_plain).bind_pure rfl
  | mime version_ge item_lt protection_lt name_plain type_plain encoding_plain =>
      rw [if_neg (by omega)]
      refine .bind (takes_itemId item_lt) (.bind (.unsigned protection_lt) ?_)
      refine .bind (.read (by decide)) (.bind (takes_zeroEnded name_plain) ?_)
      rw [if_pos rfl]
      exact (takesRest_mimeTexts type_plain encoding_plain).bind_pure rfl
  | uri version_ge item_lt protection_lt name_plain uri_plain =>
      rw [if_neg (by omega)]
      refine .bind (takes_itemId item_lt) (.bind (.unsigned protection_lt) ?_)
      refine .bind (.read (by decide)) (.bind (takes_zeroEnded name_plain) ?_)
      rw [if_neg (by decide), if_pos rfl]
      exact .of_takes ((takes_zeroEnded uri_plain).bind_pure _)
  | other version_ge item_lt protection_lt length not_mime not_uri name_plain =>
      rw [if_neg (by omega)]
      refine .bind (takes_itemId item_lt) (.bind (.unsigned protection_lt) ?_)
      refine .bind (.read length) (.of_takes ?_)
      simp only [if_neg not_mime, if_neg not_uri]
      exact (takes_zeroEnded name_plain).bind_pure _

end Content

/-- The bit of a property index that says whether the property is essential. -/
def essentialBit (wide : Bool) : Nat := if wide then 0x8000 else 0x80

/-- The bytes of a property index with that bit. -/
def associationBytes (wide : Bool) (a : Bool × Nat) : Bytes :=
  ByteOrder.big.unsignedBytes (if wide then 2 else 1)
    ((if a.1 then essentialBit wide else 0) + a.2)

/-- Whether property indices are wide. -/
def VersionFlags.wide (head : VersionFlags) : Bool := head.flags % 2 == 1

/-- The bytes of an item with its properties. -/
def propertiesBytes (head : VersionFlags) (p : Nat × List (Bool × Nat)) : Bytes :=
  ByteOrder.big.unsignedBytes (idWidth (head.version < 1)) p.1 ++
    (ByteOrder.big.unsignedBytes 1 p.2.length ++ p.2.flatMap (associationBytes head.wide))

/-- An item with its properties fits into its fields. -/
structure PropertiesFit (head : VersionFlags) (p : Nat × List (Bool × Nat)) : Prop where
  item_lt : p.1 < Bytes.capacity (idWidth (head.version < 1))
  count_lt : p.2.length < Bytes.capacity 1
  index_lt : ∀ a ∈ p.2, a.2 < essentialBit head.wide

namespace Content

theorem takes_decodeAssociation {wide : Bool} {a : Bool × Nat} (room : a.2 < essentialBit wide) :
    Takes (decodeAssociation wide) (associationBytes wide a) a := by
  obtain ⟨essential, index⟩ := a
  have room : index < essentialBit wide := room
  have twice : Bytes.capacity (if wide then 2 else 1) = 2 * essentialBit wide := by
    cases wide <;> rfl
  have stored : (if essential then essentialBit wide else 0) + index <
      Bytes.capacity (if wide then 2 else 1) := by
    rw [twice]
    split <;> omega
  have taken := (Takes.unsigned stored).bind_pure fun value =>
    (decide (essentialBit wide ≤ value), value % essentialBit wide)
  have bit : decide (essentialBit wide ≤ (if essential then essentialBit wide else 0) + index) =
      essential := by
    cases essential with
    | false => exact decide_eq_false (by simpa using room)
    | true => exact decide_eq_true (Nat.le_add_right _ _)
  have low : ((if essential then essentialBit wide else 0) + index) % essentialBit wide =
      index := by
    cases essential with
    | false => exact (congrArg (· % _) (Nat.zero_add index)).trans (Nat.mod_eq_of_lt room)
    | true => exact (Nat.add_mod_left _ _).trans (Nat.mod_eq_of_lt room)
  rw [bit, low] at taken
  exact taken

theorem takes_decodePropertyAssociation {head : VersionFlags}
    {items : List (Nat × List (Bool × Nat))} (fits : head.Fits)
    (count_lt : items.length < Bytes.capacity 4) (items_fit : ∀ p ∈ items, PropertiesFit head p) :
    Takes decodePropertyAssociation
      (head.bytes ++
        (ByteOrder.big.unsignedBytes 4 items.length ++ items.flatMap (propertiesBytes head)))
      (propertyAssociation head (keyed items)) := by
  refine (takes_versionFlags fits).bind ((Takes.unsigned count_lt).bind ?_)
  refine (Takes.times fun p member => ?_).bind_pure fun items =>
    propertyAssociation head (keyed items)
  have fit := items_fit p member
  refine (takes_itemId fit.item_lt).bind ((Takes.unsigned fit.count_lt).bind ?_)
  exact (Takes.times fun a member => takes_decodeAssociation (fit.index_lt a member)).bind_pure _

end Content

/-- What follows the size and the type of a reference. -/
def referenceBody (narrow : Bool) (r : Reference) : Bytes :=
  ByteOrder.big.unsignedBytes (idWidth narrow) r.source ++
    (ByteOrder.big.unsignedBytes 2 r.targets.length ++
      r.targets.flatMap (ByteOrder.big.unsignedBytes (idWidth narrow)))

/-- The bytes of a reference. -/
def referenceBytes (narrow : Bool) (r : Reference) : Bytes :=
  ByteOrder.big.unsignedBytes 4 (8 + (referenceBody narrow r).length) ++
    (r.type ++ referenceBody narrow r)

/-- A reference fits into its fields. -/
structure ReferenceFits (narrow : Bool) (r : Reference) : Prop where
  type_length : r.type.length = 4
  source_lt : r.source < Bytes.capacity (idWidth narrow)
  count_lt : r.targets.length < Bytes.capacity 2
  targets_lt : ∀ t ∈ r.targets, t < Bytes.capacity (idWidth narrow)

namespace ReferenceFits

variable {narrow : Bool} {r : Reference}

theorem length_bytes (fits : ReferenceFits narrow r) :
    (referenceBytes narrow r).length = 8 + (referenceBody narrow r).length := by
  simp only [referenceBytes, List.length_append, ByteOrder.unsignedBytes_length, fits.type_length]
  omega

/-- The size of a reference fits into its field. -/
theorem size_lt (fits : ReferenceFits narrow r) :
    8 + (referenceBody narrow r).length < Bytes.capacity 4 := by
  have count : r.targets.length < 65536 := fits.count_lt
  have width : idWidth narrow ≤ 4 := by cases narrow <;> decide
  have targets : (r.targets.flatMap (ByteOrder.big.unsignedBytes (idWidth narrow))).length =
      r.targets.length * idWidth narrow := by
    simp [List.length_flatMap]
  have most : r.targets.length * idWidth narrow ≤ 65536 * 4 :=
    Nat.mul_le_mul (Nat.le_of_lt count) width
  show _ < 4294967296
  rw [referenceBody, List.length_append, List.length_append, ByteOrder.unsignedBytes_length,
    ByteOrder.unsignedBytes_length, targets]
  omega

end ReferenceFits

/-- A reference stands at a position behind a size that it declares, of a box that is not smaller
than its header and ends before the bytes do. What the reference holds may go on behind that box. -/
structure Reference.IsAt (bytes : Bytes) (narrow : Bool) (start size : Nat) (r : Reference) :
    Prop where
  fits : ReferenceFits narrow r
  size_lt : size < Bytes.capacity 4
  held : bytes.Holds
    (ByteOrder.big.unsignedBytes 4 size ++ (r.type ++ referenceBody narrow r)) start
  least : 8 ≤ size
  inside : start + size ≤ bytes.length

/-- A reference with the place and the declared size of its box. -/
structure PlacedReference where
  start : Nat
  size : Nat
  reference : Reference
  deriving DecidableEq, Repr

/-- The references from a position up to another one, behind which no header of a box fits. -/
inductive ReferencesFrom (bytes : Bytes) (narrow : Bool) : Nat → List PlacedReference → Nat → Prop
  | done {start : Nat} (short : bytes.length < start + 8) :
      ReferencesFrom bytes narrow start [] start
  | next {start size stop : Nat} {r : Reference} {rest : List PlacedReference}
      (first : r.IsAt bytes narrow start size)
      (others : ReferencesFrom bytes narrow (start + size) rest stop) :
      ReferencesFrom bytes narrow start (⟨start, size, r⟩ :: rest) stop

/-- A reference that is written as it should be stands where it is written. -/
theorem ReferenceFits.isAt {bytes : Bytes} {narrow : Bool} {start : Nat} {r : Reference}
    (fits : ReferenceFits narrow r) (held : bytes.Holds (referenceBytes narrow r) start) :
    r.IsAt bytes narrow start (referenceBytes narrow r).length := by
  have inside := held.add_length_le
  rw [fits.length_bytes] at inside ⊢
  exact ⟨fits, fits.size_lt, held, Nat.le_add_right _ _, inside⟩

/-- References that are written one after the other stand so, if behind them there is no room for
another one. -/
theorem ReferencesFrom.of_holds {bytes rest : Bytes} {narrow : Bool} {start : Nat}
    {references : List Reference} (fits : ∀ r ∈ references, ReferenceFits narrow r)
    (short : rest.length < 8)
    (held : bytes.Holds (references.flatMap (referenceBytes narrow) ++ rest) start)
    (last : start + (references.flatMap (referenceBytes narrow) ++ rest).length = bytes.length) :
    ∃ placed stop, ReferencesFrom bytes narrow start placed stop ∧
      placed.map PlacedReference.reference = references := by
  induction references generalizing start with
  | nil =>
      rw [List.flatMap_nil, List.nil_append] at last
      exact ⟨[], start, .done (by omega), rfl⟩
  | cons r references ih =>
      rw [List.flatMap_cons, List.append_assoc] at held last
      rw [List.length_append, ← Nat.add_assoc] at last
      obtain ⟨placed, stop, others, rfl⟩ :=
        ih (fun r' member => fits r' (List.mem_cons_of_mem r member)) held.right last
      exact ⟨_, stop, .next ((fits r List.mem_cons_self).isAt held.left) others, rfl⟩

namespace Content

variable {narrow : Bool}

/-- A reference is read where it stands, and its box is left behind, wherever its targets end. -/
theorem run_decodeReference {c : Cursor} {r : Reference} {size : Nat}
    (h : r.IsAt c.bytes narrow c.position size) (order : c.order = .big) :
    (decodeReference narrow).run c = .ok r { c with position := c.position + size } := by
  have least := h.least
  have inside := h.inside
  have held := h.held
  have room : size ≤ c.remaining := by
    unfold Cursor.remaining Cursor.size
    omega
  have valid : (8 ≤ size && size ≤ c.remaining) = true :=
    Bool.and_eq_true_iff.2 ⟨decide_eq_true least, decide_eq_true room⟩
  have targets : Takes (Cursor.times r.targets.length (itemId narrow))
      (r.targets.flatMap (ByteOrder.big.unsignedBytes (idWidth narrow))) r.targets :=
    .times fun t member => takes_itemId (h.fits.targets_lt t member)
  have jump (d : Cursor) (same : d.size = c.size) :
      (Cursor.seek (c.position + (size : Nat))).run d =
        .ok () { d with position := c.position + size } :=
    Cursor.run_seek (same ▸ inside)
  unfold decodeReference
  rw [Cursor.run_bind_of_ok _ (EStateM.run_get c), (Takes.unsigned h.size_lt).run_bind_eq order
    held.left]
  refine Eq.trans ((Takes.read h.fits.type_length).run_bind_eq order held.right.left) ?_
  refine Eq.trans (Cursor.run_bind_of_ok _ (Cursor.run_require _ valid _)) ?_
  have body := held.right.right
  refine Eq.trans ((takes_itemId h.fits.source_lt).run_bind_eq order body.left) ?_
  refine Eq.trans ((Takes.unsigned h.fits.count_lt).run_bind_eq order body.right.left) ?_
  refine Eq.trans (targets.run_bind_eq order body.right.right) ?_
  exact Cursor.run_bind_of_ok _ (jump _ rfl)

/-- References are read where they stand. Each box moves on by at least eight bytes, so the bound on
their number is never reached. -/
theorem run_decodeReferences {placed : List PlacedReference} {start stop fuel : Nat}
    (found : List Reference) {c : Cursor} (h : ReferencesFrom c.bytes narrow start placed stop)
    (here : c.position = start) (order : c.order = .big) (inside : c.position ≤ c.size)
    (enough : c.size < c.position + 8 * fuel) :
    (decodeReferences narrow fuel found).run c =
      .ok (found.reverse ++ placed.map PlacedReference.reference) { c with position := stop } := by
  induction fuel generalizing start placed found c with
  | zero => omega
  | succ fuel ih =>
      have size_eq : c.size = c.bytes.length := rfl
      have left : c.remaining = c.bytes.length - start := by
        rw [Cursor.remaining, here, size_eq]
      rw [decodeReferences, Cursor.run_bind_of_ok _ (EStateM.run_get c), left]
      subst here
      cases h with
      | done short =>
          rw [if_pos (by omega), List.map_nil, List.append_nil]
          rfl
      | @next _ size _ r rest first others =>
          have least := first.least
          have last := first.inside
          have later := ih (r :: found) (c := { c with position := c.position + size }) others rfl
            order last
            (show c.size < c.position + size + 8 * fuel by omega)
          rw [if_neg (by omega), Cursor.run_bind_of_ok _ (run_decodeReference first order), later,
            List.reverse_cons, List.append_assoc]
          rfl

theorem run_decodeItemReference {head : VersionFlags} {placed : List PlacedReference} {stop : Nat}
    {c : Cursor} (fits : head.Fits) (held : c.bytes.Holds head.bytes c.position)
    (h : ReferencesFrom c.bytes (head.version == 0) (c.position + head.bytes.length) placed stop)
    (order : c.order = .big) :
    decodeItemReference.run c =
      .ok (itemReference head (placed.map PlacedReference.reference))
        { c with position := stop } := by
  unfold decodeItemReference
  rw [(takes_versionFlags fits).run_bind_eq order held]
  refine Eq.trans (Cursor.run_bind_of_ok _ (EStateM.run_get _)) ?_
  refine Cursor.run_bind_of_ok _ (run_decodeReferences [] h rfl order held.add_length_le ?_)
  simp only [Cursor.size]
  omega

end Content

/-- Contents that are written in a payload of a box of some type. -/
inductive Content.IsWrittenAs : Content → Bytes → Bytes → Prop
  | itemEntry {head : VersionFlags} {entry : ItemEntry} {fields : Bytes} (fits : head.Fits)
      (stored : entry.StoredAs head.version fields) :
      IsWrittenAs (.itemEntry head entry) (Bytes.ascii "infe") (head.bytes ++ fields)
  /-- No item is listed twice. -/
  | propertyAssociation {head : VersionFlags} {items : List (Nat × List (Bool × Nat))}
      (fits : head.Fits) (count_lt : items.length < Bytes.capacity 4)
      (items_fit : ∀ p ∈ items, PropertiesFit head p) (once : (items.map Prod.fst).Nodup) :
      IsWrittenAs (.propertyAssociation head items) (Bytes.ascii "ipma")
        (head.bytes ++
          (ByteOrder.big.unsignedBytes 4 items.length ++ items.flatMap (propertiesBytes head)))
  /-- Behind the references there is no room for another one. -/
  | itemReference {head : VersionFlags} {references : List Reference} (rest : Bytes)
      (fits : head.Fits)
      (references_fit : ∀ r ∈ references, ReferenceFits (head.version == 0) r)
      (short : rest.length < 8) :
      IsWrittenAs (.itemReference head references) (Bytes.ascii "iref")
        (head.bytes ++ (references.flatMap (referenceBytes (head.version == 0)) ++ rest))

/-- What is written is read back as it is by the rule for the type of the box. -/
theorem Content.decodes_of_isWrittenAs {content : Content} {id payload : Bytes}
    (h : content.IsWrittenAs id payload) :
    ∃ decode c, Content.decoder? id = some decode ∧ decode.decode payload = .ok (content, c) := by
  cases h with
  | itemEntry fits stored =>
      exact ⟨_, _, rfl, (takesRest_decodeItemEntry fits stored).decode_eq⟩
  | propertyAssociation fits count_lt items_fit once =>
      have taken := takes_decodePropertyAssociation fits count_lt items_fit
      rw [(isKeyed_keyed _).eq_of_nodup once] at taken
      exact ⟨_, _, rfl, taken.decode_eq (.refl _)⟩
  | @itemReference head references rest fits references_fit short =>
      have whole := Bytes.Holds.refl (head.bytes ++
        (references.flatMap (referenceBytes (head.version == 0)) ++ rest))
      obtain ⟨placed, stop, placed_from, rfl⟩ :=
        ReferencesFrom.of_holds references_fit short whole.right
          (by rw [Nat.zero_add, ← List.length_append])
      have read := run_decodeItemReference (c := Cursor.ofBytes _ .big) fits whole.left placed_from
      exact ⟨_, _, rfl, Reading.decode_of_run (read rfl)⟩

/-- The description of an item with an empty content encoding. -/
def packetEntry : ItemEntry :=
  ⟨3, 0, some (Bytes.ascii "mime"), "é", some "a/b", some "", none⟩

/-- Its payload, with a name of one character that takes two bytes. -/
def packetPayload : Bytes :=
  [2, 0, 0, 0, 0, 3, 0, 0] ++ Bytes.ascii "mime" ++ [0xC3, 0xA9, 0] ++ Bytes.ascii "a/b" ++ [0, 0]

theorem isWrittenAs_packet :
    (Content.itemEntry ⟨2, 0⟩ packetEntry).IsWrittenAs (Bytes.ascii "infe") packetPayload := by
  have plain : IsPlain "é" ∧ IsPlain "a/b" ∧ IsPlain "" := by
    refine ⟨?_, ?_, ?_⟩ <;> unfold IsPlain <;> decide
  have bytes : VersionFlags.bytes ⟨2, 0⟩ ++ (ByteOrder.big.unsignedBytes (idWidth (2 == 2)) 3 ++
      (ByteOrder.big.unsignedBytes 2 0 ++ (Bytes.ascii "mime" ++
        (textBytes "é" ++ (textBytes "a/b" ++ optionalBytes (some "")))))) = packetPayload := by
    rfl
  rw [← bytes]
  refine .itemEntry (by decide) ?_
  exact .mime (by decide) (by decide) (by decide) plain.1 plain.2.1 (by simpa using plain.2.2)

/-- An item with an essential property and one with a large index. -/
theorem isWrittenAs_properties :
    (Content.propertyAssociation ⟨0, 1⟩ [(7, [(true, 5), (false, 0x7FFF)])]).IsWrittenAs
      (Bytes.ascii "ipma") [0, 0, 0, 1, 0, 0, 0, 1, 0, 7, 2, 0x80, 5, 0x7F, 0xFF] := by
  have fit : PropertiesFit ⟨0, 1⟩ (7, [(true, 5), (false, 0x7FFF)]) :=
    ⟨by decide, by decide, by decide⟩
  exact .propertyAssociation (by decide) (by decide) (List.forall_mem_singleton.2 fit) (by decide)

/-- A reference with three bytes behind it. -/
theorem isWrittenAs_references :
    (Content.itemReference ⟨0, 0⟩ [⟨Bytes.ascii "cdsc", 2, [1]⟩]).IsWrittenAs (Bytes.ascii "iref")
      ([0, 0, 0, 0, 0, 0, 0, 14] ++ Bytes.ascii "cdsc" ++ [0, 2, 0, 1, 0, 1, 9, 9, 9]) := by
  have fit : ReferenceFits true ⟨Bytes.ascii "cdsc", 2, [1]⟩ :=
    ⟨by decide, by decide, by decide, by decide⟩
  exact .itemReference [9, 9, 9] (by decide) (List.forall_mem_singleton.2 fit) (by decide)

theorem Content.decodes_of_isWrittenAs_small :
    (∃ decode c, decoder? (Bytes.ascii "infe") = some decode ∧
      decode.decode packetPayload = .ok (itemEntry ⟨2, 0⟩ packetEntry, c)) ∧
    (∃ decode c, decoder? (Bytes.ascii "ipma") = some decode ∧
      decode.decode [0, 0, 0, 1, 0, 0, 0, 1, 0, 7, 2, 0x80, 5, 0x7F, 0xFF] =
        .ok (propertyAssociation ⟨0, 1⟩ [(7, [(true, 5), (false, 0x7FFF)])], c)) ∧
    ∃ decode c, decoder? (Bytes.ascii "iref") = some decode ∧
      decode.decode
          ([0, 0, 0, 0, 0, 0, 0, 14] ++ Bytes.ascii "cdsc" ++ [0, 2, 0, 1, 0, 1, 9, 9, 9]) =
        .ok (itemReference ⟨0, 0⟩ [⟨Bytes.ascii "cdsc", 2, [1]⟩], c) :=
  ⟨decodes_of_isWrittenAs isWrittenAs_packet, decodes_of_isWrittenAs isWrittenAs_properties,
    decodes_of_isWrittenAs isWrittenAs_references⟩

end ImageMetadata.Heif
