import ImageMetadata.Proofs.Heif.Keyed
import ImageMetadata.Proofs.Heif.RoundTrip

/-!
# Item locations that are written

The places of items are written in fields whose widths depend on the version of the box and on the
sizes that it states. Whatever the layout is, the places are read back in order, and what follows
them does not matter; a box that ends too soon is refused.
-/

namespace ImageMetadata.Heif

open ImageMetadata.Reading (Takes IsLocal)
open Content (LocationSizes idWidth)

/-- A place of an item to be written; the index of each extent is written, but not kept. -/
structure StoredLocation where
  item : Nat
  method : Nat
  dataReference : Nat
  base : Nat
  extents : List (Nat × Extent)

namespace StoredLocation

/-- The place that is kept. -/
def location (l : StoredLocation) : Location :=
  ⟨l.item, l.method, l.dataReference, l.base, l.extents.map Prod.snd⟩

variable (version : Nat) (sizes : LocationSizes)

/-- The bytes of an extent with an index. -/
def extentBytes (e : Nat × Extent) : Bytes :=
  ByteOrder.big.unsignedBytes sizes.index e.1 ++
    (ByteOrder.big.unsignedBytes sizes.offset e.2.offset ++
      ByteOrder.big.unsignedBytes sizes.length e.2.length)

/-- The bytes of a construction method, which the first version does not store. -/
def methodBytes (method : Nat) : Bytes :=
  if version = 0 then [] else ByteOrder.big.unsignedBytes 2 method

/-- The bytes of a place. -/
def bytes (l : StoredLocation) : Bytes :=
  ByteOrder.big.unsignedBytes (idWidth (version < 2)) l.item ++ (methodBytes version l.method ++
    (ByteOrder.big.unsignedBytes 2 l.dataReference ++
      (ByteOrder.big.unsignedBytes sizes.base l.base ++
        (ByteOrder.big.unsignedBytes 2 l.extents.length ++ l.extents.flatMap (extentBytes sizes)))))

/-- The numbers of an extent fit into their fields; an empty field only has room for 0. -/
structure ExtentFits (e : Nat × Extent) : Prop where
  index_lt : e.1 < Bytes.capacity sizes.index
  offset_lt : e.2.offset < Bytes.capacity sizes.offset
  length_lt : e.2.length < Bytes.capacity sizes.length

instance (e : Nat × Extent) : Decidable (ExtentFits sizes e) :=
  decidable_of_iff (e.1 < Bytes.capacity sizes.index ∧ e.2.offset < Bytes.capacity sizes.offset ∧
      e.2.length < Bytes.capacity sizes.length)
    ⟨fun ⟨index, offset, length⟩ => ⟨index, offset, length⟩,
      fun ⟨index, offset, length⟩ => ⟨index, offset, length⟩⟩

/-- The numbers of a place fit into their fields. -/
structure Fits (l : StoredLocation) : Prop where
  item_lt : l.item < Bytes.capacity (idWidth (version < 2))
  method_lt : l.method < if version = 0 then 1 else 16
  reference_lt : l.dataReference < Bytes.capacity 2
  base_lt : l.base < Bytes.capacity sizes.base
  count_lt : l.extents.length < Bytes.capacity 2
  extents : ∀ e ∈ l.extents, ExtentFits sizes e

instance (l : StoredLocation) : Decidable (l.Fits version sizes) :=
  decidable_of_iff (l.item < Bytes.capacity (idWidth (version < 2)) ∧
      l.method < (if version = 0 then 1 else 16) ∧ l.dataReference < Bytes.capacity 2 ∧
      l.base < Bytes.capacity sizes.base ∧ l.extents.length < Bytes.capacity 2 ∧
      ∀ e ∈ l.extents, ExtentFits sizes e)
    ⟨fun ⟨item, method, reference, base, count, extents⟩ =>
        ⟨item, method, reference, base, count, extents⟩,
      fun ⟨item, method, reference, base, count, extents⟩ =>
        ⟨item, method, reference, base, count, extents⟩⟩

end StoredLocation

/-- The places of items to be written, with the widths of their fields. -/
structure StoredLocations where
  head : VersionFlags
  sizes : LocationSizes
  items : List StoredLocation

namespace StoredLocations

/-- The bytes of the places. -/
def bytes (box : StoredLocations) : Bytes :=
  box.head.bytes ++ (ByteOrder.big.unsignedBytes 1 (box.sizes.offset * 16 + box.sizes.length) ++
    (ByteOrder.big.unsignedBytes 1 (box.sizes.base * 16 + box.sizes.index) ++
      (ByteOrder.big.unsignedBytes (idWidth (box.head.version < 2)) box.items.length ++
        box.items.flatMap (StoredLocation.bytes box.head.version box.sizes))))

/-- The widths are among those that are known, and everything fits into its field. The first version
stores no index. -/
structure Fits (box : StoredLocations) : Prop where
  head : box.head.Fits
  version_le : box.head.version ≤ 2
  sizes : box.sizes.valid = true
  index_eq : box.head.version = 0 → box.sizes.index = 0
  count_lt : box.items.length < Bytes.capacity (idWidth (box.head.version < 2))
  items : ∀ l ∈ box.items, l.Fits box.head.version box.sizes

end StoredLocations

namespace Content

variable {version : Nat} {sizes : LocationSizes}

theorem takes_decodeExtent (valid : sizes.valid = true) {e : Nat × Extent}
    (fits : StoredLocation.ExtentFits sizes e) :
    Takes (decodeExtent sizes) (StoredLocation.extentBytes sizes e) e.2 := by
  have widths := LocationSizes.widths valid
  refine (Takes.field (widths sizes.index (by simp)) fits.index_lt).discard.bind ?_
  refine (Takes.field (widths sizes.offset (by simp)) fits.offset_lt).bind ?_
  exact (Takes.field (widths sizes.length (by simp)) fits.length_lt).bind_pure _

theorem takes_itemMethod {method : Nat} (room : method < if version = 0 then 1 else 16) :
    Takes (itemMethod version) (StoredLocation.methodBytes version method) method := by
  unfold itemMethod StoredLocation.methodBytes
  split at room
  · rename_i first
    obtain rfl : method = 0 := Nat.lt_one_iff.1 room
    rw [if_pos first, if_pos first]
    exact .pure 0
  · rename_i later
    rw [if_neg later, if_neg later]
    have wide : method < Bytes.capacity 2 := Nat.lt_trans room (by decide)
    have taken := (Takes.unsigned wide).bind_pure (· % 16)
    rwa [Nat.mod_eq_of_lt room] at taken

theorem takes_decodeLocation (valid : sizes.valid = true) {l : StoredLocation}
    (fits : l.Fits version sizes) :
    Takes (decodeLocation version sizes) (l.bytes version sizes) l.location := by
  have base := LocationSizes.widths valid sizes.base (by simp)
  have extents := Takes.times_map fun e member => takes_decodeExtent valid (fits.extents e member)
  refine (takes_itemId fits.item_lt).bind ((takes_itemMethod fits.method_lt).bind ?_)
  refine (Takes.unsigned fits.reference_lt).bind ((Takes.field base fits.base_lt).bind ?_)
  exact (Takes.unsigned fits.count_lt).bind (extents.bind_pure _)

/-- Two widths share a byte. -/
theorem eq_of_halves {high low : Nat} (room : low < 16) :
    (high * 16 + low) / 16 = high ∧ (high * 16 + low) % 16 = low := by
  omega

theorem takes_decodeItemLocation {box : StoredLocations} (fits : box.Fits) :
    Takes decodeItemLocation box.bytes
      (itemLocation box.head (keyed (box.items.map fun l => (l.item, l.location)))) := by
  have widths := LocationSizes.widths fits.sizes
  have offset := widths box.sizes.offset (by simp)
  have length := widths box.sizes.length (by simp)
  have base := widths box.sizes.base (by simp)
  have index := widths box.sizes.index (by simp)
  have first : box.sizes.offset * 16 + box.sizes.length < Bytes.capacity 1 := by
    show _ < 256
    omega
  have second : box.sizes.base * 16 + box.sizes.index < Bytes.capacity 1 := by
    show _ < 256
    omega
  have sizes : (⟨(box.sizes.offset * 16 + box.sizes.length) / 16,
      (box.sizes.offset * 16 + box.sizes.length) % 16,
      (box.sizes.base * 16 + box.sizes.index) / 16,
      if box.head.version = 0 then 0 else (box.sizes.base * 16 + box.sizes.index) % 16⟩ :
        LocationSizes) = box.sizes := by
    rw [(eq_of_halves (by omega)).1, (eq_of_halves (by omega)).2, (eq_of_halves (by omega)).1,
      (eq_of_halves (by omega)).2]
    split
    · rename_i zero
      rw [← fits.index_eq zero]
    · rfl
  have items := Takes.times_map fun l member => takes_decodeLocation fits.sizes (fits.items l member)
  refine (takes_versionFlags fits.head).bind ?_
  refine .require_bind (decide_eq_true fits.version_le) ?_
  refine (Takes.unsigned first).bind ((Takes.unsigned second).bind ?_)
  dsimp only
  rw [sizes]
  refine .require_bind fits.sizes ((takes_itemId fits.count_lt).bind ?_)
  have taken := items.bind_pure fun locations =>
    itemLocation box.head (keyed (locations.map fun l => (l.item, l)))
  rwa [List.map_map] at taken

theorem isLocal_decodeExtent (sizes : LocationSizes) : IsLocal (decodeExtent sizes) := by
  refine (IsLocal.field _).discard.bind fun _ => (IsLocal.field _).bind fun offset => ?_
  exact (IsLocal.field _).bind fun length => .pure _

theorem isLocal_decodeLocation (version : Nat) (sizes : LocationSizes) :
    IsLocal (decodeLocation version sizes) := by
  have method : IsLocal (itemMethod version) := by
    unfold itemMethod
    split
    · exact .pure 0
    · exact (IsLocal.unsigned 2).bind fun _ => .pure _
  refine (IsLocal.unsigned _).bind fun item => method.bind fun method => ?_
  refine (IsLocal.unsigned 2).bind fun reference => (IsLocal.field _).bind fun base => ?_
  refine (IsLocal.unsigned 2).bind fun count => ?_
  exact ((isLocal_decodeExtent sizes).times count).bind fun extents => .pure _

theorem isLocal_decodeItemLocation : IsLocal decodeItemLocation := by
  refine isLocal_versionFlags.bind fun head => (IsLocal.require _ _).bind fun _ => ?_
  refine (IsLocal.unsigned 1).bind fun first => (IsLocal.unsigned 1).bind fun second => ?_
  refine (IsLocal.require _ _).bind fun _ => (IsLocal.unsigned _).bind fun count => ?_
  exact ((isLocal_decodeLocation _ _).times count).bind fun locations => .pure _

end Content

namespace StoredLocations

/-- The places as they are kept, each by its item. -/
def places (box : StoredLocations) : List (Nat × Location) :=
  box.items.map fun l => (l.item, l.location)

/-- The places are read back, and nothing that is cut off is taken for them. -/
structure IsReadBack (box : StoredLocations) : Prop where
  /-- Whatever follows them, they are read in order; of places of the same item the first one gives
  the position and the last one counts. -/
  exists_decode (rest : Bytes) : ∃ found c,
    Content.decodeItemLocation.decode (box.bytes ++ rest) =
        .ok (.itemLocation box.head found, c) ∧
      Content.IsKeyed box.places found ∧ c.position = box.bytes.length
  /-- Where no item is repeated, they are read back as they are. -/
  decode_eq (rest : Bytes) : (box.items.map StoredLocation.item).Nodup → ∃ c,
    Content.decodeItemLocation.decode (box.bytes ++ rest) =
      .ok (.itemLocation box.head box.places, c)
  /-- What ends too soon is refused because of the bytes. -/
  refused (payload : Bytes) : payload <+: box.bytes → payload ≠ box.bytes →
    ∃ p, Content.decodeItemLocation.decode payload = .error p ∧ p.isStructural = true

/-- Places that fit into their fields are read back in every layout. -/
theorem Fits.isReadBack {box : StoredLocations} (fits : box.Fits) : box.IsReadBack := by
  have taken := Content.takes_decodeItemLocation fits
  have keyed := Content.isKeyed_keyed box.places
  refine ⟨fun rest => ?_, fun rest once => ?_, fun payload begins short => ?_⟩
  · have decoded := taken.decode_eq ((Bytes.Holds.refl box.bytes).extend rest)
    exact ⟨_, _, decoded, keyed, rfl⟩
  · have decoded := taken.decode_eq ((Bytes.Holds.refl box.bytes).extend rest)
    have same : Content.keyed box.places = box.places := by
      apply keyed.eq_of_nodup
      rwa [places, List.map_map]
    exact ⟨_, decoded.trans (by rw [← same]; rfl)⟩
  · obtain ⟨p, failed⟩ := Content.isLocal_decodeItemLocation.exists_error taken begins short
    have structural := (Content.decodes_itemLocation none).decode payload
    rw [failed] at structural
    exact ⟨p, failed, structural⟩

/-- Places of two items, one of which is repeated, with fields of every width. -/
def repeated : StoredLocations where
  head := ⟨1, 0⟩
  sizes := ⟨4, 8, 0, 4⟩
  items :=
    [⟨7, 1, 0, 0, [(3, ⟨16, 32⟩), (4, ⟨48, 0⟩)]⟩, ⟨9, 0, 1, 0, []⟩, ⟨7, 2, 0, 0, [(0, ⟨5, 6⟩)]⟩]

/-- Both places of the repeated item are written, and the second one counts. -/
theorem isReadBack_repeated :
    repeated.Fits ∧ repeated.IsReadBack ∧
      Content.keyed repeated.places = [(7, ⟨7, 2, 0, 0, [⟨5, 6⟩]⟩), (9, ⟨9, 0, 1, 0, []⟩)] := by
  have fits : repeated.Fits :=
    { head := by decide
      version_le := by decide
      sizes := by decide
      index_eq := by decide
      count_lt := by decide
      items := by decide }
  exact ⟨fits, fits.isReadBack, by decide⟩

end StoredLocations

end ImageMetadata.Heif
