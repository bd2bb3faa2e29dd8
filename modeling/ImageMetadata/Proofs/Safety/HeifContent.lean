import ImageMetadata.Heif.Content
import ImageMetadata.Proofs.Safety.Reading

/-!
# Safe decoding of box contents

Each rule for a type code gives contents of that type or fails because of the payload. The types
that are required to find items all have a rule.
-/

namespace ImageMetadata.Heif

/-- The type code that contents belong to. -/
def Content.code : Content → Option Bytes
  | fileType .. => some (Bytes.ascii "ftyp")
  | metaBox _ => some (Bytes.ascii "meta")
  | itemProperties => some (Bytes.ascii "iprp")
  | itemPropertyContainer => some (Bytes.ascii "ipco")
  | dataInformation => some (Bytes.ascii "dinf")
  | itemInformation .. => some (Bytes.ascii "iinf")
  | itemEntry .. => some (Bytes.ascii "infe")
  | itemLocation .. => some (Bytes.ascii "iloc")
  | itemReference .. => some (Bytes.ascii "iref")
  | handler .. => some (Bytes.ascii "hdlr")
  | primaryItem .. => some (Bytes.ascii "pitm")
  | propertyAssociation .. => some (Bytes.ascii "ipma")
  | spatialExtents .. => some (Bytes.ascii "ispe")
  | rotation _ => some (Bytes.ascii "irot")
  | colour .. => some (Bytes.ascii "colr")
  | itemData => some (Bytes.ascii "idat")
  | mediaData => some (Bytes.ascii "mdat")
  | free => some (Bytes.ascii "free")
  | skip => some (Bytes.ascii "skip")
  | uuid _ => some (Bytes.ascii "uuid")
  | unknown => none

namespace Content

section

open Reading (Ends)

variable (m : Option Nat)

theorem ends_versionFlags : Ends m versionFlags fun _ => True :=
  (Ends.unsigned m 1).bind fun _ _ => (Ends.read m 3).bind fun _ _ => .pure trivial

theorem ends_zeroEnded : Ends m zeroEnded fun _ => True := by
  apply Ends.get_bind
  intro c _
  dsimp only
  exact (Ends.skip m _).bind fun _ _ => .pure trivial

theorem ends_optionalText : Ends m optionalText fun _ => True := by
  apply Ends.get_bind
  intro c _
  split
  · exact (ends_zeroEnded m).bind fun _ _ => .pure trivial
  · exact .pure trivial

theorem ends_itemId (narrow : Bool) : Ends m (itemId narrow) fun _ => True :=
  Ends.unsigned m _

theorem ends_itemMethod (version : Nat) : Ends m (itemMethod version) fun _ => True := by
  unfold itemMethod
  split
  · exact .pure trivial
  · exact (Ends.unsigned m 2).bind fun _ _ => .pure trivial

theorem ends_mimeTexts : Ends m mimeTexts fun _ => True :=
  (ends_zeroEnded m).bind fun _ _ => (ends_optionalText m).bind fun _ _ => .pure trivial

/-- The field widths of item locations are checked before a field is read. -/
theorem LocationSizes.widths {sizes : LocationSizes} (valid : sizes.valid = true) (width : Nat)
    (member : width ∈ [sizes.offset, sizes.length, sizes.base, sizes.index]) :
    width = 0 ∨ width = 4 ∨ width = 8 := by
  have known := List.all_eq_true.1 valid width member
  simpa using known

variable {sizes : LocationSizes} (valid : sizes.valid = true)

include valid

theorem ends_decodeExtent : Ends m (decodeExtent sizes) fun _ => True := by
  have widths := LocationSizes.widths valid
  apply (Ends.field m (widths sizes.index (by simp))).discard.bind
  intro _ _
  apply (Ends.field m (widths sizes.offset (by simp))).bind
  intro offset _
  exact (Ends.field m (widths sizes.length (by simp))).bind fun length _ => .pure trivial

theorem ends_decodeLocation (version : Nat) :
    Ends m (decodeLocation version sizes) fun _ => True := by
  have widths := LocationSizes.widths valid
  refine (ends_itemId m _).bind fun item _ => (ends_itemMethod m version).bind fun method _ => ?_
  apply (Ends.unsigned m 2).bind
  intro reference _
  apply (Ends.field m (widths sizes.base (by simp))).bind
  intro base _
  apply (Ends.unsigned m 2).bind
  intro count _
  exact (Ends.times count (ends_decodeExtent m valid)).bind fun extents _ => .pure trivial

omit valid

theorem ends_decodeReference (narrow : Bool) : Ends m (decodeReference narrow) fun _ => True := by
  refine Ends.get_bind fun c _ => (Ends.unsigned m 4).bind fun size _ => ?_
  refine (Ends.code m).bind fun type _ => (Ends.require _ rfl).bind fun _ _ => ?_
  refine (ends_itemId m narrow).bind fun source _ => (Ends.unsigned m 2).bind fun count _ => ?_
  apply (Ends.times count (ends_itemId m narrow)).bind
  intro targets _
  exact (Ends.seek m _).bind fun _ _ => .pure trivial

theorem ends_decodeReferences (narrow : Bool) (fuel : Nat) (found : List Reference) :
    Ends m (decodeReferences narrow fuel found) fun _ => True := by
  induction fuel generalizing found with
  | zero => exact .pure trivial
  | succ fuel ih =>
      apply Ends.get_bind
      intro c _
      split
      · exact .pure trivial
      · exact (ends_decodeReference m narrow).bind fun reference _ => ih _

theorem ends_decodeAssociation (wide : Bool) :
    Ends m (decodeAssociation wide) fun _ => True :=
  (Ends.unsigned m _).bind fun _ _ => .pure trivial

/-- The rule ends well, with contents that belong to a type code. -/
abbrev Decodes (code : String) (decode : Reading Content) : Prop :=
  Ends m decode fun content => content.code = some (Bytes.ascii code)

theorem decodes_fileType : Decodes m "ftyp" decodeFileType := by
  refine (Ends.code m).bind fun major _ => (Ends.unsigned m 4).bind fun minor _ => ?_
  apply Ends.get_bind
  intro c _
  exact (Ends.times _ (Ends.code m)).bind fun compatible _ => .pure rfl

theorem decodes_metaBox : Decodes m "meta" (do return metaBox (← versionFlags)) :=
  (ends_versionFlags m).bind fun _ _ => .pure rfl

theorem decodes_itemInformation : Decodes m "iinf" decodeItemInformation :=
  (ends_versionFlags m).bind fun _ _ => (ends_itemId m _).bind fun _ _ => .pure rfl

theorem decodes_itemEntry : Decodes m "infe" decodeItemEntry := by
  apply (ends_versionFlags m).bind
  intro head _
  split
  · refine (Ends.unsigned m 2).bind fun item _ => (Ends.unsigned m 2).bind fun protection _ => ?_
    apply (ends_zeroEnded m).bind
    intro name _
    exact (ends_mimeTexts m).bind fun texts _ => .pure rfl
  · refine (ends_itemId m _).bind fun item _ => (Ends.unsigned m 2).bind fun protection _ => ?_
    refine (Ends.code m).bind fun type _ => (ends_zeroEnded m).bind fun name _ => ?_
    split
    · exact (ends_mimeTexts m).bind fun texts _ => .pure rfl
    split
    · exact (ends_zeroEnded m).bind fun uri _ => .pure rfl
    · exact .pure rfl

theorem decodes_itemLocation : Decodes m "iloc" decodeItemLocation := by
  refine (ends_versionFlags m).bind fun head _ => (Ends.require _ rfl).bind fun _ _ => ?_
  refine (Ends.unsigned m 1).bind fun first _ => (Ends.unsigned m 1).bind fun second _ => ?_
  refine (Ends.require _ rfl).bind fun _ valid => (ends_itemId m _).bind fun count _ => ?_
  exact (Ends.times count (ends_decodeLocation m valid _)).bind fun locations _ => .pure rfl

theorem decodes_itemReference : Decodes m "iref" decodeItemReference := by
  refine (ends_versionFlags m).bind fun head _ => Ends.get_bind fun c _ => ?_
  exact (ends_decodeReferences m _ _ _).bind fun references _ => .pure rfl

theorem decodes_handler : Decodes m "hdlr" decodeHandler := by
  apply (ends_versionFlags m).bind
  intro head _
  refine (Ends.unsigned m 4).discard.bind fun _ _ => (Ends.code m).bind fun type _ => ?_
  exact (Ends.skip m 12).bind fun _ _ => (ends_zeroEnded m).bind fun name _ => .pure rfl

theorem decodes_primaryItem : Decodes m "pitm" decodePrimaryItem :=
  (ends_versionFlags m).bind fun _ _ => (ends_itemId m _).bind fun _ _ => .pure rfl

theorem decodes_propertyAssociation : Decodes m "ipma" decodePropertyAssociation := by
  refine (ends_versionFlags m).bind fun head _ => (Ends.unsigned m 4).bind fun count _ => ?_
  refine (Ends.times count ?_).bind fun items _ => .pure rfl
  refine (ends_itemId m _).bind fun item _ => (Ends.unsigned m 1).bind fun number _ => ?_
  exact (Ends.times number (ends_decodeAssociation m _)).bind fun _ _ => .pure trivial

theorem decodes_spatialExtents : Decodes m "ispe" decodeSpatialExtents := by
  refine (ends_versionFlags m).bind fun head _ => (Ends.unsigned m 4).bind fun width _ => ?_
  exact (Ends.unsigned m 4).bind fun height _ => .pure rfl

theorem decodes_rotation : Decodes m "irot" decodeRotation :=
  (Ends.unsigned m 1).bind fun _ _ => .pure rfl

theorem decodes_colour : Decodes m "colr" decodeColour := by
  apply (Ends.code m).bind
  intro type _
  split
  · refine (Ends.unsigned m 2).bind fun primaries _ => (Ends.unsigned m 2).bind fun transfer _ => ?_
    apply (Ends.unsigned m 2).bind
    intro matrix _
    exact (Ends.unsigned m 1).bind fun range _ => .pure rfl
  · exact Ends.get_bind fun c _ => .pure rfl

/-- An identifier of sixteen bytes was read, so the check of its length cannot fail. -/
theorem decodes_uuid : Decodes m "uuid" decodeUuid := by
  apply (Ends.read m 16).bind
  intro id size
  exact (Ends.require_of_true _ (beq_iff_eq.2 size)).bind fun _ _ => .pure rfl

/-- Every rule gives contents of the type that the rule is for. -/
theorem decodes_of_mem {d : String × Reading Content} (member : d ∈ decoders) :
    Decodes m d.1 d.2 := by
  simp only [decoders, List.mem_cons, List.not_mem_nil, or_false] at member
  rcases member with rfl | rfl | rfl | rfl | rfl | rfl | rfl | rfl | rfl | rfl | rfl | rfl | rfl |
    rfl | rfl | rfl | rfl | rfl | rfl
  · exact decodes_colour m
  · exact .pure rfl
  · exact .pure rfl
  · exact decodes_fileType m
  · exact decodes_handler m
  · exact .pure rfl
  · exact decodes_itemInformation m
  · exact decodes_itemLocation m
  · exact decodes_itemEntry m
  · exact .pure rfl
  · exact decodes_propertyAssociation m
  · exact .pure rfl
  · exact decodes_itemReference m
  · exact decodes_rotation m
  · exact decodes_spatialExtents m
  · exact decodes_metaBox m
  · exact decodes_primaryItem m
  · exact .pure rfl
  · exact decodes_uuid m

theorem ends_of_decoder? {id : Bytes} {decode : Reading Content}
    (known : decoder? id = some decode) :
    Ends m decode fun content => content.code = some id := by
  obtain ⟨d, found, rfl⟩ := Option.map_eq_some_iff.1 known
  have same : Bytes.ascii d.1 = id := by simpa using List.find?_some found
  rw [← same]
  exact decodes_of_mem m (List.mem_of_find?_eq_some found)

end

/-- Every type that is required to find items has a rule. -/
theorem isRequired_of_decoder?_none {id : Bytes} (unknown : decoder? id = none) :
    isRequired id = false := by
  have ruled : ∀ code ∈ ["ftyp", "meta", "iinf", "infe", "iloc"].map Bytes.ascii,
      (decoder? code).isSome = true := by
    intro code member
    simp only [List.map_cons, List.map_nil, List.mem_cons, List.not_mem_nil, or_false] at member
    rcases member with rfl | rfl | rfl | rfl | rfl <;> rfl
  apply Bool.eq_false_iff.2
  intro required
  have some := ruled id (List.contains_iff_mem.1 required)
  rw [unknown] at some
  exact absurd some (by simp)

end Content

end ImageMetadata.Heif
