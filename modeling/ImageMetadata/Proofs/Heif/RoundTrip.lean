import ImageMetadata.Proofs.Heif.Contents
import ImageMetadata.Proofs.Heif.Layout
import ImageMetadata.Proofs.Heif.Reads

/-!
# Boxes that are laid out are read back

A forest that is laid out is read back as it is, wherever it stands: each header gives the box its
range, and the fields of a container end where the boxes inside begin.
-/

namespace ImageMetadata.Heif

open ImageMetadata.Reading (Takes)

variable {bytes : Bytes} {strict : Bool} {limit : Int} {start stop : Nat}

namespace SizeForm

variable {form : SizeForm} {id : Bytes} {length : Nat} {p q : Prop}

theorem Fits.mono (h : form.Fits length p) (k : p → q) : form.Fits length q := by
  cases form with
  | short => exact h
  | long => exact h
  | rest => exact k h

theorem eight_le_headerSize (form : SizeForm) : 8 ≤ form.headerSize := by
  cases form <;> decide

/-- The type code stands at the same place in every header. -/
theorem slice_of_holds (size : id.length = 4) (held : bytes.Holds (form.header id length) start) :
    bytes.slice (start + 4) 4 = id := by
  have code : bytes.Holds id (start + 4) := by
    cases form with
    | short => exact held.right
    | long => exact held.right.left
    | rest => exact held.right
  have part := code.slice_eq
  rwa [size] at part

/-- A header that stands at the start of a range is read. -/
theorem exists_readHeader (size : id.length = 4) (whole : form.headerSize ≤ length)
    (inside : start + length ≤ stop) (fits : form.Fits length (start + length = stop))
    (held : bytes.Holds (form.header id length) start) :
    ∃ h : BoxHeader start stop, readHeader bytes start stop = .ok h ∧ h.id = id ∧
      h.size = form.headerSize ∧ h.length = length := by
  refine ⟨⟨id, length, form.headerSize, form.eight_le_headerSize, whole, inside⟩,
    readHeader_eq_iff.2 ⟨slice_of_holds size held, ?_⟩, rfl, rfl, rfl⟩
  have room : 8 ≤ length := Nat.le_trans form.eight_le_headerSize whole
  cases form with
  | short =>
      have number : shortLength bytes start = length := held.left.unsigned_eq fits
      constructor
      · rw [Heif.headerSize, number, if_neg (by omega)]
        rfl
      · rw [boxLength, number, if_neg (by omega), if_neg (by omega)]
  | long =>
      have mark : shortLength bytes start = 1 := held.left.unsigned_eq (by decide)
      have number := held.right.right
      rw [ByteOrder.unsignedBytes_length, size] at number
      constructor
      · rw [Heif.headerSize, mark, if_pos rfl]
        rfl
      · rw [boxLength, mark, if_neg (by decide), if_pos rfl]
        exact number.unsigned_eq fits
  | rest =>
      have mark : shortLength bytes start = 0 := held.left.unsigned_eq (by decide)
      have last : start + length = stop := fits
      constructor
      · rw [Heif.headerSize, mark, if_neg (by decide)]
        rfl
      · rw [boxLength, mark, if_pos rfl]
        dsimp only
        omega

end SizeForm

namespace Content

theorem takes_versionFlags {head : VersionFlags} (fits : head.Fits) :
    Takes versionFlags head.bytes head := by
  have flags := (Takes.read (ByteOrder.unsignedBytes_length .big 3 head.flags)).bind_pure
    fun bytes => (⟨head.version, ByteOrder.big.unsigned bytes⟩ : VersionFlags)
  rw [ByteOrder.unsigned_unsignedBytes _ fits.flags_lt] at flags
  exact (Takes.unsigned fits.version_lt).bind flags

theorem takes_itemId {narrow : Bool} {item : Nat} (room : item < Bytes.capacity (idWidth narrow)) :
    Takes (itemId narrow) (ByteOrder.big.unsignedBytes (idWidth narrow) item) item :=
  .unsigned room

theorem takes_itemInformation {head : VersionFlags} {count : Nat} (fits : head.Fits)
    (count_lt : count < Bytes.capacity (countWidth head)) :
    Takes decodeItemInformation (head.bytes ++ ByteOrder.big.unsignedBytes (countWidth head) count)
      (itemInformation head count) := by
  have width : itemId (head.version == 0) = Cursor.unsigned (countWidth head) := by
    unfold itemId countWidth
    simp
  apply (takes_versionFlags fits).bind
  rw [width]
  exact (Takes.unsigned count_lt).bind_pure (itemInformation head)

/-- The compatible brands take what is left of the payload. -/
theorem takesRest_fileType {major : Bytes} {minor : Nat} {compatible : List Bytes}
    (major_length : major.length = 4) (minor_lt : minor < Bytes.capacity 4)
    (lengths : ∀ brand ∈ compatible, brand.length = 4) :
    decodeFileType.TakesRest
      (major ++ (ByteOrder.big.unsignedBytes 4 minor ++ compatible.flatten))
      (fileType major minor compatible) := by
  have brands : Takes (Cursor.times compatible.length Cursor.code) (compatible.flatMap id)
      compatible := .times fun brand member => .read (lengths brand member)
  rw [List.flatMap_id] at brands
  have sizes : compatible.map List.length = List.replicate compatible.length 4 :=
    List.eq_replicate_iff.2 ⟨List.length_map _, by simpa using lengths⟩
  have count : compatible.flatten.length / 4 = compatible.length := by
    rw [List.length_flatten, sizes, List.sum_replicate_nat]
    omega
  refine .bind (.read major_length) (.bind (.unsigned minor_lt) ?_)
  refine .remaining_bind (f := fun left => do
    return fileType major minor (← Cursor.times (left / 4) Cursor.code)) ?_
  rw [count]
  exact .of_takes (brands.bind_pure (fileType major minor))

/-- Stored contents are read back; what follows the fields of a container may be anything. -/
theorem StoredAs.exists_readsContent {content : Content} {id fields more : Bytes}
    (h : content.StoredAs id fields) (leaf : content.category ≠ .container → more = [])
    (strict : Bool) (offset : Nat) :
    ∃ (traces : List Trace) (used : Nat),
      ReadsContent strict id offset (fields ++ more) (traces.map .trace) content used ∧
        (content.category = .container → used = fields.length) := by
  have start : (fields ++ more).Holds fields 0 := ⟨[], more, rfl, rfl⟩
  cases h with
  | fileType major_length minor_lt lengths =>
      obtain rfl := leaf nofun
      have read := (takesRest_fileType major_length minor_lt lengths).decode_eq
      rw [← List.append_nil (_ ++ _)] at read
      exact ⟨[], _, .decoded rfl read, nofun⟩
  | mediaData => exact ⟨[.mediaDataSkipped offset], _, .media rfl, nofun⟩
  | unknown _ _ other unruled =>
      exact ⟨[.unrecognizedBox id offset], _, .unrecognized other unruled, nofun⟩
  | free | skip | itemData => exact ⟨[], _, .decoded rfl rfl, nofun⟩
  | metaBox fits =>
      have taken := (takes_versionFlags fits).bind_pure Content.metaBox
      exact ⟨[], _, .decoded rfl (taken.decode_eq start), fun _ => rfl⟩
  | itemInformation fits count_lt =>
      have taken := takes_itemInformation fits count_lt
      exact ⟨[], _, .decoded rfl (taken.decode_eq start), fun _ => rfl⟩
  | itemProperties | itemPropertyContainer | dataInformation =>
      exact ⟨[], _, .decoded rfl rfl, fun _ => rfl⟩

end Content

namespace Layout

/-- A box that is laid out starts with its header and its contents. -/
theorem exists_starts {b : Layout} (stored : b.content.StoredAs b.id b.fields)
    (childless : b.content.category ≠ .container → b.inside = [])
    (inside : start + b.length ≤ stop) (fits : b.form.Fits b.length (start + b.length = stop))
    (held : bytes.Holds b.bytes start) (strict : Bool) :
    ∃ (h : BoxHeader start stop) (traces : List Trace) (used : Nat),
      Starts bytes strict start stop h (traces.map .trace) b.content used ∧
        h.size = b.form.headerSize ∧ h.length = b.length ∧
        (b.content.category = .container → used = b.fields.length) ∧
        ∀ children, h.box b.content children =
          ⟨b.id, start, b.length, b.form.headerSize, b.content, children⟩ := by
  rw [bytes_eq] at held
  have room := b.form.eight_le_headerSize
  have whole : b.length = b.form.headerSize + b.payload.length := rfl
  have size_le : b.form.headerSize ≤ b.length := Nat.le_add_right _ _
  obtain ⟨h, read, id_eq, size_eq, length_eq⟩ :=
    SizeForm.exists_readHeader stored.length_id size_le inside fits held.left
  have leaf (leaf : b.content.category ≠ .container) : bytesAll b.inside = [] := by
    rw [childless leaf, bytesAll_nil]
  obtain ⟨traces, used, content, used_eq⟩ := stored.exists_readsContent leaf strict start
  have stands : h.payload bytes = b.payload := by
    have part := held.right.slice_eq
    rw [SizeForm.length_header _ stored.length_id] at part
    unfold BoxHeader.payload
    rw [size_eq, length_eq, whole, Nat.add_sub_add_left, Nat.add_sub_cancel_left]
    exact part
  refine ⟨h, traces, used, ⟨by omega, read, ?_⟩, size_eq, length_eq, used_eq, ?_⟩
  · rw [id_eq, stands]
    exact readContent_eq_iff.2 content
  · intro children
    rw [BoxHeader.box, id_eq, size_eq, length_eq]

/-- A forest that stands in a range is read back, and the reader only traces. -/
theorem AreLaidOut.exists_reads {layouts : List Layout} (laidOut : AreLaidOut layouts)
    (bytes : Bytes) (strict : Bool) (limit : Int) (depth start stop : Nat)
    (held : bytes.Holds (bytesAll layouts) start)
    (last : start + (bytesAll layouts).length = stop)
    (within : (depth + nestingAll layouts : Int) ≤ limit) :
    ∃ traces : List Trace, Reads bytes strict limit depth start stop (traces.map .trace)
      (boxesAll start layouts) := by
  induction laidOut generalizing depth start stop with
  | nil =>
      rw [boxesAll_nil]
      exact ⟨[], .done (by simp at last; omega)⟩
  | @cons b rest stored fits childless _ _ children others =>
      have length := length_bytes stored.length_id
      rw [bytesAll_cons] at held last
      rw [List.length_append, length] at last
      have following := held.right
      rw [length] at following
      -- only the last box may leave its length out, and it reaches the end of the range
      have fills (only : rest = []) : start + b.length = stop := by
        subst only
        exact last
      obtain ⟨h, first, used, head, size_eq, length_eq, used_eq, box_eq⟩ :=
        exists_starts stored childless (by omega) (fits.mono fills) held.left strict
      have shallower := nestingAll_le_cons b rest
      obtain ⟨later, siblings⟩ :=
        others depth (start + b.length) stop following (by omega) (by omega)
      rw [boxesAll_cons, ← box_eq]
      rw [← length_eq] at siblings ⊢
      by_cases container : b.content.category = .container
      · have deeper := nestingAll_inside_lt rest container
        have whole := b.length_eq
        obtain ⟨inner, nested⟩ := children (depth + 1)
          (start + b.form.headerSize + b.fields.length) (start + b.length)
          (holds_inside stored.length_id held.left) (by omega) (by omega)
        have nested' : Reads bytes strict limit (depth + 1) (start + h.size + used)
            (start + h.length) (inner.map .trace)
            (boxesAll (start + b.form.headerSize + b.fields.length) b.inside) := by
          rw [size_eq, length_eq, used_eq container]
          exact nested
        have read := Reads.opened head container (by omega) nested' siblings
        rw [← List.map_append, ← List.map_append] at read
        exact ⟨_, read⟩
      · have read := Reads.leaf head container siblings
        rw [← List.map_append] at read
        rw [childless container, boxesAll_nil]
        exact ⟨_, read⟩

/-- The bytes of a forest with a first box start with a header of its type. -/
theorem AreLaidOut.header_eq {first : Layout} {rest : List Layout}
    (laidOut : AreLaidOut (first :: rest)) :
    8 ≤ (bytesAll (first :: rest)).length ∧ (bytesAll (first :: rest)).slice 4 4 = first.id := by
  obtain _ | ⟨stored, _, _, _, _⟩ := laidOut
  have held : (bytesAll (first :: rest)).Holds first.bytes 0 := by
    rw [bytesAll_cons]
    exact ⟨[], _, rfl, rfl⟩
  have inside := held.add_length_le
  rw [bytes_eq] at held
  constructor
  · have length := length_bytes stored.length_id
    have room := first.form.eight_le_headerSize
    unfold Layout.length at length
    omega
  · have code := SizeForm.slice_of_holds stored.length_id held.left
    rwa [Nat.zero_add] at code

end Layout

/-- A forest that starts with a file type box of the family, laid out in any forms and nested no
deeper than the limit, is read back exactly. No reader warns. -/
theorem readAll_laidOut {first : Layout} {rest : List Layout} {major : Bytes} {minor : Nat}
    {compatible : List Bytes} (laidOut : Layout.AreLaidOut (first :: rest))
    (typed : first.content = .fileType major minor compatible)
    (family : Session.hasBrand (major :: compatible) = true)
    (within : (Layout.nestingAll (first :: rest) : Int) ≤ limit) (strict : Bool) :
    ∃ traces : List Trace,
      (Session.readAll limit).run
          (Session.start (Layout.bytesAll (first :: rest)) strict) =
        (⟨traces.map .trace, .ok ()⟩,
          { Session.start (Layout.bytesAll (first :: rest)) strict with
            boxes := Layout.boxesAll 0 (first :: rest) }) := by
  have held : (Layout.bytesAll (first :: rest)).Holds (Layout.bytesAll (first :: rest)) 0 :=
    ⟨[], [], (List.append_nil _).symm, rfl⟩
  obtain ⟨traces, reads⟩ := laidOut.exists_reads _ strict limit 0 0 _ held (Nat.zero_add _)
    (by simpa using within)
  obtain ⟨room, headed⟩ := laidOut.header_eq
  obtain _ | ⟨stored, _, _, _, _⟩ := laidOut
  rw [stored.eq_fileType typed] at headed
  refine ⟨traces, Session.run_readAll_iff.2 ⟨_, [], _, ⟨room, headed, reads, ?_⟩,
    List.append_nil _, rfl⟩⟩
  refine ⟨_, _, major, minor, compatible, Layout.boxesAll_cons .., typed, ?_⟩
  rw [family]
  rfl

/-- A file type box with a second brand. -/
def brandLayout : Layout :=
  ⟨.short, Bytes.ascii "ftyp", .fileType (Bytes.ascii "mif1") 0 [Bytes.ascii "heic"],
    Bytes.ascii "mif1" ++ (ByteOrder.big.unsignedBytes 4 0 ++ [Bytes.ascii "heic"].flatten), []⟩

/-- A long container whose last box inside lasts to its end, and a container that lasts to the end
of the file. -/
def mixedLayouts : List Layout :=
  [⟨.long, Bytes.ascii "meta", .metaBox ⟨0, 0⟩, VersionFlags.bytes ⟨0, 0⟩,
      [⟨.short, Bytes.ascii "iinf", .itemInformation ⟨1, 0⟩ 3,
          VersionFlags.bytes ⟨1, 0⟩ ++ ByteOrder.big.unsignedBytes (Content.countWidth ⟨1, 0⟩) 3,
          []⟩,
        ⟨.rest, Bytes.ascii "free", .free, [1, 2, 3], []⟩]⟩,
    ⟨.rest, Bytes.ascii "iprp", .itemProperties, [],
      [⟨.rest, Bytes.ascii "abcd", .unknown, [0], []⟩]⟩]

/-- A forest in all three forms is read back by a strict reader. -/
theorem readAll_laidOut_mixed :
    Layout.AreLaidOut (brandLayout :: mixedLayouts) ∧
      Session.hasBrand [Bytes.ascii "mif1", Bytes.ascii "heic"] = true ∧
      (Layout.nestingAll (brandLayout :: mixedLayouts) : Int) ≤ 2 ∧
      Layout.boxesAll 0 (brandLayout :: mixedLayouts) =
        [⟨Bytes.ascii "ftyp", 0, 20, 8, .fileType (Bytes.ascii "mif1") 0 [Bytes.ascii "heic"], []⟩,
          ⟨Bytes.ascii "meta", 20, 47, 16, .metaBox ⟨0, 0⟩,
            [⟨Bytes.ascii "iinf", 40, 16, 8, .itemInformation ⟨1, 0⟩ 3, []⟩,
              ⟨Bytes.ascii "free", 56, 11, 8, .free, []⟩]⟩,
          ⟨Bytes.ascii "iprp", 67, 17, 8, .itemProperties,
            [⟨Bytes.ascii "abcd", 75, 9, 8, .unknown, []⟩]⟩] ∧
      ∃ traces : List Trace,
        (Session.readAll 2).run
            (Session.start (Layout.bytesAll (brandLayout :: mixedLayouts)) true) =
          (⟨traces.map .trace, .ok ()⟩,
            { Session.start (Layout.bytesAll (brandLayout :: mixedLayouts)) true with
              boxes := Layout.boxesAll 0 (brandLayout :: mixedLayouts) }) := by
  have zero : (⟨0, 0⟩ : VersionFlags).Fits := ⟨by decide, by decide⟩
  have one : (⟨1, 0⟩ : VersionFlags).Fits := ⟨by decide, by decide⟩
  have inner : Layout.AreLaidOut (mixedLayouts.head (by decide)).inside :=
    .cons (.itemInformation one (by decide)) (by decide) nofun .nil
      (.cons (.free [1, 2, 3]) rfl (fun _ => rfl) .nil .nil)
  have laidOut : Layout.AreLaidOut (brandLayout :: mixedLayouts) :=
    .cons (.fileType rfl (by decide) (by decide)) (by decide) (fun _ => rfl) .nil
      (.cons (.metaBox zero) (by decide) nofun inner
        (.cons .itemProperties rfl nofun
          (.cons (.unknown [0] rfl (by decide) (by rfl)) rfl (fun _ => rfl) .nil .nil) .nil))
  have family : Session.hasBrand [Bytes.ascii "mif1", Bytes.ascii "heic"] = true := by decide
  have within : (Layout.nestingAll (brandLayout :: mixedLayouts) : Int) ≤ 2 := by decide
  exact ⟨laidOut, family, within, by rfl, readAll_laidOut laidOut rfl family within true⟩

end ImageMetadata.Heif
