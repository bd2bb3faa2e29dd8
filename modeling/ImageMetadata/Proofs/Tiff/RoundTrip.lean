import ImageMetadata.Proofs.Tiff.Route
import Mathlib.Data.List.Forall2

/-!
# Reading undoes writing

A stream that was laid out is read as the directories that were written, in their order, each with
the entries that were written, and no warning is reported. The pointers that a layout adds lead the
walk from one directory to the next one.
-/

namespace ImageMetadata.Tiff

namespace Field

variable {order : ByteOrder} {h : Header} {family : Family} {f : Field}

theorem IsPlain.isReadable (plain : f.IsPlain h family) : f.IsReadable h family :=
  { plain with clear := .inl plain.plain }

theorem IsPlain.links_eq (order : ByteOrder) (plain : f.IsPlain h family) : f.links order = [] := by
  unfold links
  rw [plain.plain]

theorem isReadable_pointer {tag : Nat} {id : DirectoryId} (known : (family.name? tag).isSome = true)
    (leads : Pointer.ofTag? tag = some (.fixed id)) (offset : Nat) :
    (pointer order tag offset).IsReadable h family where
  known := known
  allowed := by simp [Header.allows, pointer, FieldType.code]
  count_lt := by
    have small : 1 < Bytes.capacity h.offsetSize := by
      unfold Header.offsetSize
      split <;> decide
    exact small
  clear := .inr ⟨⟨id, leads⟩, rfl, rfl⟩

theorem links_pointer (order : ByteOrder) (tag : Nat) {offset : Nat} {id : DirectoryId}
    (leads : Pointer.ofTag? tag = some (.fixed id)) (room : offset < Bytes.capacity 4) :
    (pointer order tag offset).links order = [⟨some id, offset⟩] := by
  simp only [links, pointer, leads, order.unsigned_unsignedBytes room]

/-- A pointer that may be missing. -/
theorem flatMap_links_pointer {α : Type} (order : ByteOrder) (tag : Nat) {offset : Nat}
    {id : DirectoryId} (x : Option α) (leads : Pointer.ofTag? tag = some (.fixed id))
    (room : x.isSome → offset < Bytes.capacity 4) :
    (x.map fun _ => pointer order tag offset).toList.flatMap (links order) =
      (x.map fun _ => ⟨some id, offset⟩).toList := by
  cases x with
  | none => rfl
  | some a => simp [links_pointer order tag leads (room rfl)]

/-- Sorting keeps the order of the entries that lead somewhere, if their tags ascend. -/
theorem flatMap_links_sorted {fields added : List Field}
    (plain : ∀ f ∈ fields, f.links order = [])
    (ascending : added.Pairwise fun a b => a.tag ≤ b.tag) :
    (sorted (fields ++ added)).flatMap (links order) = added.flatMap (links order) := by
  let leading : Field → Bool := fun f => !(f.links order).isEmpty
  have leading_only : ∀ list : List Field,
      list.flatMap (links order) = (list.filter leading).flatMap (links order) := by
    intro list
    induction list with
    | nil => rfl
    | cons f rest ih =>
        cases found : f.links order <;> simp [leading, found, ih]
  have chosen : (fields ++ added).filter leading = added.filter leading := by
    have none : fields.filter leading = [] := by
      rw [List.filter_eq_nil_iff]
      intro f member
      simp [leading, plain f member]
    rw [List.filter_append, none, List.nil_append]
  have kept : (added.filter leading).Sublist (sorted (fields ++ added)) := by
    apply List.sublist_mergeSort
    · intro a b c
      simp only [decide_eq_true_eq]
      omega
    · intro a b
      simp only [Bool.or_eq_true, decide_eq_true_eq]
      omega
    · simpa using ascending.filter leading
    · exact List.filter_sublist.trans (List.sublist_append_right fields added)
  have inside : (added.filter leading).Sublist ((sorted (fields ++ added)).filter leading) := by
    simpa [List.filter_filter] using kept.filter leading
  have same : (added.filter leading).length =
      ((sorted (fields ++ added)).filter leading).length := by
    have permuted := (List.mergeSort_perm (fields ++ added) fun a b => a.tag ≤ b.tag).filter leading
    rw [sorted, permuted.length_eq, chosen]
  rw [leading_only, ← inside.eq_of_length same, ← leading_only]

end Field

/-- A directory that is there has an offset that fits. -/
theorem Block.offset_lt_of_optional {h : Header} (id : DirectoryId) {offset : Nat}
    {fields? : Option (List Field)} (fits : ∀ b ∈ Block.optional id offset fields?, b.Fits h)
    (present : fields?.isSome) : offset < Bytes.capacity h.offsetSize := by
  obtain ⟨fields, rfl⟩ := Option.isSome_iff_exists.1 present
  exact (fits ⟨id, offset, fields, 0⟩ (List.mem_singleton_self _)).offset_lt

theorem Block.mem_optional {id : DirectoryId} {offset : Nat} {fields? : Option (List Field)}
    {b : Block} : b ∈ Block.optional id offset fields? ↔
      ∃ fields ∈ fields?, b = ⟨id, offset, fields, 0⟩ := by
  cases fields? <;> simp [Block.optional]

namespace Layout

/-- The entries belong into the directories and are no pointers. -/
structure IsPlain (order : ByteOrder) (l : Layout) : Prop where
  ifd0 : ∀ f ∈ l.ifd0, f.IsPlain (header order) .image
  exif : ∀ e ∈ l.exif, ∀ f ∈ e.fields, f.IsPlain (header order) .exif
  interop : ∀ e ∈ l.exif, ∀ fields ∈ e.interop, ∀ f ∈ fields, f.IsPlain (header order) .interop
  gps : ∀ fields ∈ l.gps, ∀ f ∈ fields, f.IsPlain (header order) .gps
  ifd1 : ∀ fields ∈ l.ifd1, ∀ f ∈ fields, f.IsPlain (header order) .image

variable {order : ByteOrder} {l : Layout}

/-- Every entry that is laid out can be read. -/
theorem IsPlain.isReadable (plain : l.IsPlain order) :
    ∀ b ∈ l.blocks order, ∀ f ∈ b.fields, f.IsReadable (header order) b.id.family := by
  intro b member f inside
  simp only [blocks, List.mem_cons, List.mem_append, Block.mem_optional] at member
  rcases member with rfl | ⟨fields, exif, rfl⟩ | ⟨fields, interop, rfl⟩ | ⟨fields, gps, rfl⟩ |
    ⟨fields, ifd1, rfl⟩
  · simp only [ifd0LaidOut, Field.mem_sorted, List.mem_append, pointers, Option.mem_toList,
      Option.map_eq_some_iff] at inside
    rcases inside with known | ⟨_, _, rfl⟩ | ⟨_, _, rfl⟩
    · exact (plain.ifd0 f known).isReadable
    · exact Field.isReadable_pointer rfl rfl _
    · exact Field.isReadable_pointer rfl rfl _
  · obtain ⟨e, present, rfl⟩ := Option.map_eq_some_iff.1 exif
    have known := plain.exif e present
    simp only [ExifPart.laidOut] at inside
    split at inside
    · exact (known f inside).isReadable
    · simp only [Field.mem_sorted, List.mem_append, List.mem_singleton] at inside
      rcases inside with old | rfl
      · exact (known f old).isReadable
      · exact Field.isReadable_pointer rfl rfl _
  · obtain ⟨e, present, found⟩ := Option.bind_eq_some_iff.1 interop
    exact (plain.interop e present fields found f inside).isReadable
  · exact (plain.gps fields gps f inside).isReadable
  · exact (plain.ifd1 fields ifd1 f inside).isReadable

theorem flatMap_links_eq_nil {h : Header} {family : Family} {fields : List Field}
    (plain : ∀ f ∈ fields, f.IsPlain h family) : fields.flatMap (Field.links order) = [] :=
  List.flatMap_eq_nil_iff.2 fun f member => (plain f member).links_eq order

/-- The EXIF directory leads to the interoperability directory, if there is one. -/
theorem IsPlain.links_exif (plain : l.IsPlain order) {e : ExifPart} (present : e ∈ l.exif)
    {interopAt : Nat} (room : e.interop.isSome → interopAt < Bytes.capacity 4) :
    (e.laidOut order interopAt).flatMap (Field.links order) =
      (e.interop.map fun _ => ⟨some .interop, interopAt⟩).toList := by
  have known := plain.exif e present
  have pointer := Field.flatMap_links_pointer order Tag.interopIfd e.interop rfl room
  unfold ExifPart.laidOut
  cases interop : e.interop with
  | none => exact flatMap_links_eq_nil known
  | some fields =>
      rw [interop] at pointer
      exact (Field.flatMap_links_sorted (fun f member => (known f member).links_eq order)
        (List.pairwise_singleton ..)).trans pointer

/-- The first directory leads to the EXIF and the GPS directory, if they exist. -/
theorem IsPlain.links_ifd0 (plain : l.IsPlain order) {exifAt gpsAt : Nat}
    (exif_room : l.exif.isSome → exifAt < Bytes.capacity 4)
    (gps_room : l.gps.isSome → gpsAt < Bytes.capacity 4) :
    (l.ifd0LaidOut order exifAt gpsAt).flatMap (Field.links order) =
      (l.exif.map fun _ => ⟨some .exif, exifAt⟩).toList ++
        (l.gps.map fun _ => ⟨some .gps, gpsAt⟩).toList := by
  have ascending : (l.pointers order exifAt gpsAt).Pairwise fun a b => a.tag ≤ b.tag := by
    have tags : Tag.exifIfd ≤ Tag.gpsIfd := by decide
    unfold pointers
    cases l.exif <;> cases l.gps <;> simp [Field.pointer, tags]
  rw [ifd0LaidOut,
    Field.flatMap_links_sorted (fun f member => (plain.ifd0 f member).links_eq order) ascending,
    pointers, List.flatMap_append, Field.flatMap_links_pointer order _ l.exif rfl exif_room,
    Field.flatMap_links_pointer order _ l.gps rfl gps_room]

/-- The first directory is followed by the second one of the main chain, if there is one. -/
theorem follow_ifd0 (order : ByteOrder) (l : Layout) {s : Source} :
    s.follow ⟨.first 8, none, 0⟩ (.ifd 0) (if l.ifd1.isSome then l.ifd1At order else 0) =
      pure (l.ifd1.map fun _ => ⟨⟨some (.ifd 1), l.ifd1At order⟩, none, 1⟩).toList := by
  cases l.ifd1 with
  | none => rfl
  | some fields =>
      have later : l.ifd1At order ≠ 0 := by
        unfold ifd1At gpsAt interopAt exifAt
        omega
      exact if_neg later

/-- The stream of a layout, as it is read. -/
abbrev source (order : ByteOrder) (l : Layout) (strict : Bool) (limit : Int) : Source :=
  ⟨l.bytes order, header order, strict, limit⟩

variable {strict : Bool} {limit : Int}

variable (strict limit) in
/-- Every directory of a layout stands in the bytes. -/
theorem IsPlain.stands (plain : l.IsPlain order)
    (fits : ∀ b ∈ l.blocks order, b.Fits (header order)) :
    ∀ b ∈ l.blocks order, (l.source order strict limit).Stands b := by
  have together : (l.bytes order).Holds ((l.blocks order).flatMap (Block.bytes (header order))) 8 :=
    ⟨(header order).bytes, [], by rw [List.append_nil]; rfl, Header.length_bytes order false⟩
  intro b member
  exact
    { readable := plain.isReadable b member
      fits := fits b member
      stored := (l.contiguous_blocks order).holds together b member }

variable (strict) in
/-- The EXIF directory and the interoperability directory lie on a route. -/
theorem IsPlain.route_exif (plain : l.IsPlain order)
    (fits : ∀ b ∈ l.blocks order, b.Fits (header order)) (deep : 2 ≤ limit) (n : Nat) :
    ∃ ds : List Directory, List.Forall₂ Directory.IsOf ds
        (Block.optional .exif (l.exifAt order) (l.exif.map (·.laidOut order (l.interopAt order))) ++
          Block.optional .interop (l.interopAt order) (l.exif.bind (·.interop))) ∧
      (l.source order strict limit).Route n
        (l.exif.map fun _ => ⟨⟨some .exif, l.exifAt order⟩, some 0, 1⟩).toList ds := by
  have stands := plain.stands strict limit fits
  cases exif : l.exif with
  | none => exact ⟨[], .nil, .done n⟩
  | some e =>
      let b : Block := ⟨.exif, l.exifAt order, e.laidOut order (l.interopAt order), 0⟩
      have here : (l.source order strict limit).Stands b :=
        stands b (by simp [b, blocks, Block.optional, exif])
      have room : e.interop.isSome → l.interopAt order < Bytes.capacity 4 :=
        Block.offset_lt_of_optional .interop fun b member =>
          fits b (by simp [blocks, exif, member])
      have links := plain.links_exif exif room
      obtain ⟨ds, are, inner⟩ :
          ∃ ds : List Directory, List.Forall₂ Directory.IsOf ds
              (Block.optional .interop (l.interopAt order) e.interop) ∧
            (l.source order strict limit).Route (n + 1)
              (e.interop.map fun _ => ⟨⟨some .interop, l.interopAt order⟩, some n, 2⟩).toList ds :=
        Source.Route.of_optional rfl
          (fun b member => stands b (by simp [blocks, exif, member])) deep
          (fun fields found => flatMap_links_eq_nil (plain.interop e exif fields found))
      have later : (l.source order strict limit).Route (n + 1)
          (((b.fields.flatMap (Field.links order)).map fun link => ⟨link, some n, 1 + 1⟩) ++ [])
          ds := by
        rw [List.append_nil, links]
        cases interop : e.interop <;> simpa [interop] using inner
      have shallow : ((1 : Nat) : Int) ≤ limit := by omega
      obtain ⟨d, is_of, route⟩ := Source.Route.of_stands rfl here shallow rfl later
      exact ⟨d :: ds, .cons is_of are, route⟩

variable (strict) in
/-- All directories of a layout lie on a route. -/
theorem IsPlain.route (plain : l.IsPlain order)
    (fits : ∀ b ∈ l.blocks order, b.Fits (header order)) (deep : 2 ≤ limit) :
    ∃ ds : List Directory, List.Forall₂ Directory.IsOf ds (l.blocks order) ∧
      (l.source order strict limit).Route 0 [⟨.first 8, none, 0⟩] ds := by
  have stands := plain.stands strict limit fits
  have shallow : ((1 : Nat) : Int) ≤ limit := by omega
  have exif_room : l.exif.isSome → l.exifAt order < Bytes.capacity 4 := by
    have room := Block.offset_lt_of_optional .exif fun b member =>
      fits b (List.mem_cons_of_mem _ (List.mem_append_left _ member))
    rwa [Option.isSome_map] at room
  have gps_room : l.gps.isSome → l.gpsAt order < Bytes.capacity 4 :=
    Block.offset_lt_of_optional .gps fun b member => fits b (by simp [blocks, member])
  obtain ⟨exif_ds, exif_are, exif_route⟩ := plain.route_exif strict fits deep 1
  obtain ⟨gps_ds, gps_are, gps_route⟩ :
      ∃ ds : List Directory, List.Forall₂ Directory.IsOf ds
          (Block.optional .gps (l.gpsAt order) l.gps) ∧
        (l.source order strict limit).Route (1 + exif_ds.length)
          (l.gps.map fun _ => ⟨⟨some .gps, l.gpsAt order⟩, some 0, 1⟩).toList ds :=
    Source.Route.of_optional rfl (fun b member => stands b (by simp [blocks, member])) shallow
      (fun fields found => flatMap_links_eq_nil (plain.gps fields found))
  obtain ⟨ifd1_ds, ifd1_are, ifd1_route⟩ :
      ∃ ds : List Directory, List.Forall₂ Directory.IsOf ds
          (Block.optional (.ifd 1) (l.ifd1At order) l.ifd1) ∧
        (l.source order strict limit).Route (1 + exif_ds.length + gps_ds.length)
          (l.ifd1.map fun _ => ⟨⟨some (.ifd 1), l.ifd1At order⟩, none, 1⟩).toList ds :=
    Source.Route.of_optional rfl
      (fun b member => stands b (List.mem_cons_of_mem _ (by simp only [List.mem_append]; tauto)))
      shallow (fun fields found => flatMap_links_eq_nil (plain.ifd1 fields found))
  have later : (l.source order strict limit).Route 1
      ((((l.ifd0LaidOut order (l.exifAt order) (l.gpsAt order)).flatMap (Field.links order)).map
          fun link => ⟨link, some 0, 0 + 1⟩) ++
        (l.ifd1.map fun _ => ⟨⟨some (.ifd 1), l.ifd1At order⟩, none, 1⟩).toList)
      (exif_ds ++ (gps_ds ++ ifd1_ds)) := by
    have route := exif_route.append (gps_route.append ifd1_route)
    rw [plain.links_ifd0 exif_room gps_room]
    cases exif : l.exif <;> cases gps : l.gps <;> simpa [exif, gps] using route
  obtain ⟨d, is_of, route⟩ := Source.Route.of_stands rfl
    (stands _ (List.mem_cons_self ..)) (by simp; omega) (l.follow_ifd0 order) later
  have are := List.rel_append exif_are (List.rel_append gps_are ifd1_are)
  dsimp only at are
  rw [List.append_assoc] at are
  exact ⟨d :: (exif_ds ++ (gps_ds ++ ifd1_ds)), .cons is_of are, route⟩

end Layout

/-- Reading undoes writing. A directory of plain entries that follows a header is read as it was
written, in both byte orders and both widths. A narrow stream with up to five directories is read as
these directories in the order in which they are laid out. -/
theorem readsAs_laidOut (order : ByteOrder) (strict : Bool) (limit : Int) :
    (∀ (big : Bool) (fields : List Field), 0 ≤ limit →
      (∀ f ∈ fields, f.IsPlain (.laidOut order big) .image) →
      (Block.only (.laidOut order big) fields).Fits (.laidOut order big) →
      ReadsAs ((Header.laidOut order big).bytes ++
          (Block.only (.laidOut order big) fields).bytes (.laidOut order big))
        strict limit (.laidOut order big) [.only (.laidOut order big) fields]) ∧
    ∀ l : Layout, 2 ≤ limit → l.IsPlain order →
      (∀ b ∈ l.blocks order, b.Fits (Layout.header order)) →
      ReadsAs (l.bytes order) strict limit (Layout.header order) (l.blocks order) := by
  constructor
  · intro big fields deep plain fits
    let h := Header.laidOut order big
    let b := Block.only h fields
    have base : h.base = 0 := by cases big <;> rfl
    have stands : (⟨h.bytes ++ b.bytes h, h, strict, limit⟩ : Source).Stands b :=
      { readable := fun f member => (plain f member).isReadable
        fits := fits
        stored := ⟨h.bytes, [], by rw [List.append_nil], Header.length_bytes order big⟩ }
    obtain ⟨d, is_of, route⟩ :=
      Source.Route.of_leaf base stands deep (Layout.flatMap_links_eq_nil plain) rfl
    exact readsAs_of_route rfl (b.countSize_le_length_bytes h) (.cons is_of .nil) route
      (List.nodup_singleton _) (List.nodup_singleton _)
  · intro l deep plain fits
    obtain ⟨ds, are, route⟩ := plain.route strict fits deep
    have ascending := (l.contiguous_blocks order).offsets_lt.2
    have offsets : ((l.blocks order).map Block.offset).Nodup :=
      ascending.imp fun less same => absurd same (Nat.ne_of_lt less)
    have room : (Layout.header order).countSize ≤
        ((l.blocks order).flatMap (Block.bytes (Layout.header order))).length := by
      rw [Layout.blocks, List.flatMap_cons, List.length_append]
      exact Nat.le_add_right_of_le (Block.countSize_le_length_bytes _ _)
    exact readsAs_of_route rfl room are route offsets (l.ids_nodup order)

/-- Entries of a wide stream, one of them with a long value of odd length. -/
def wideFields : List Field :=
  [⟨271, .ascii, 9, [80, 105, 99, 116, 117, 114, 101, 115, 0], rfl⟩,
    ⟨256, .byte, 3, [1, 2, 3], rfl⟩, ⟨324, .long8, 1, [1, 0, 0, 0, 0, 0, 0, 0], rfl⟩]

/-- An entry whose value is stored after the slots. -/
def resolution : Field := ⟨282, .rational, 1, [72, 0, 0, 0, 1, 0, 0, 0], rfl⟩

/-- An entry whose value has an odd length. -/
def maker : Field := ⟨271, .ascii, 5, [80, 105, 99, 115, 0], rfl⟩

/-- An entry of the EXIF directory. -/
def exifVersion : Field := ⟨36864, .undefined, 4, [48, 50, 51, 50], rfl⟩

/-- An entry that may stand in an interoperability and in a GPS directory. -/
def letter : Field := ⟨1, .ascii, 2, [78, 0], rfl⟩

/-- A layout with all five directories; the entries of the first one are not sorted. -/
def fullLayout : Layout where
  ifd0 := [resolution, maker]
  exif := some ⟨[exifVersion], some [letter]⟩
  gps := some [letter]
  ifd1 := some [resolution]

set_option maxRecDepth 4000 in
/-- Both sorts of streams are read as they were laid out, the narrow one with sorted entries. -/
theorem readsAs_laidOut_small :
    ((∀ f ∈ wideFields, f.IsPlain (.laidOut .little true) .image) ∧
      (Block.only (.laidOut .little true) wideFields).Fits (.laidOut .little true) ∧
      ReadsAs ((Header.laidOut .little true).bytes ++
          (Block.only (.laidOut .little true) wideFields).bytes (.laidOut .little true))
        true 2 (.laidOut .little true) [.only (.laidOut .little true) wideFields]) ∧
    fullLayout.IsPlain .little ∧
    fullLayout.blocks .little =
      [⟨.ifd 0, 8, [maker, resolution, .pointer .little Tag.exifIfd 76,
          .pointer .little Tag.gpsIfd 124], 142⟩,
        ⟨.exif, 76, [exifVersion, .pointer .little Tag.interopIfd 106], 0⟩,
        ⟨.interop, 106, [letter], 0⟩, ⟨.gps, 124, [letter], 0⟩, ⟨.ifd 1, 142, [resolution], 0⟩] ∧
    (∀ b ∈ fullLayout.blocks .little, b.Fits (Layout.header .little)) ∧
    ReadsAs (fullLayout.bytes .little) true 2 (Layout.header .little)
      (fullLayout.blocks .little) := by
  have wide : ∀ f ∈ wideFields, f.IsPlain (.laidOut .little true) .image := by decide
  have room : (Block.only (.laidOut .little true) wideFields).Fits (.laidOut .little true) := by
    decide
  have plain : fullLayout.IsPlain .little :=
    { ifd0 := by decide
      exif := by decide
      interop := by decide
      gps := by decide
      ifd1 := by decide }
  have first (exifAt gpsAt : Nat) : fullLayout.ifd0LaidOut .little exifAt gpsAt =
      [maker, resolution, .pointer .little Tag.exifIfd exifAt,
        .pointer .little Tag.gpsIfd gpsAt] := by
    simp [Layout.ifd0LaidOut, Layout.pointers, fullLayout, Field.sorted, List.mergeSort, maker,
      resolution, Field.pointer, Tag.exifIfd, Tag.gpsIfd]
  have second (interopAt : Nat) :
      ExifPart.laidOut .little interopAt ⟨[exifVersion], some [letter]⟩ =
        [exifVersion, .pointer .little Tag.interopIfd interopAt] := by
    simp [ExifPart.laidOut, Field.sorted, List.mergeSort, exifVersion, Field.pointer,
      Tag.interopIfd]
  have exif : fullLayout.exif = some ⟨[exifVersion], some [letter]⟩ := rfl
  have shape : fullLayout.blocks .little =
      [⟨.ifd 0, 8, [maker, resolution, .pointer .little Tag.exifIfd 76,
          .pointer .little Tag.gpsIfd 124], 142⟩,
        ⟨.exif, 76, [exifVersion, .pointer .little Tag.interopIfd 106], 0⟩,
        ⟨.interop, 106, [letter], 0⟩, ⟨.gps, 124, [letter], 0⟩,
        ⟨.ifd 1, 142, [resolution], 0⟩] := by
    simp only [Layout.blocks, Layout.ifd1At, Layout.gpsAt, Layout.interopAt, Layout.exifAt, first,
      exif, Option.map_some, second]
    rfl
  have fits : ∀ b ∈ fullLayout.blocks .little, b.Fits (Layout.header .little) := by
    rw [shape]
    decide
  refine ⟨⟨wide, room, ?_⟩, plain, shape, fits, ?_⟩
  · exact (readsAs_laidOut .little true 2).1 true wideFields (by decide) wide room
  · exact (readsAs_laidOut .little true 2).2 fullLayout (by decide) plain fits

end ImageMetadata.Tiff
