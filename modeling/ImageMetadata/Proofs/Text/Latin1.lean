import ImageMetadata.Text.Latin1

/-!
# Texts in Latin-1

Bytes and texts whose characters all lie below U+0100 belong to each other, one byte to one
character.
-/

namespace ImageMetadata.Text.Latin1

variable {text : List Char} {bytes : Bytes}

/-- Every character of a text has a byte. -/
def Covers (text : List Char) : Prop := ∀ c ∈ text, c.toNat < 0x100

theorem toNat_ofNat_toNat (b : UInt8) : (Char.ofNat b.toNat).toNat = b.toNat := by
  have small := b.toNat_lt
  rw [Char.ofNat, dif_pos (.inl (by omega))]
  rfl

theorem decode_cons (b : UInt8) (bytes : Bytes) :
    decode (b :: bytes) = Char.ofNat b.toNat :: decode bytes := rfl

theorem length_decode (bytes : Bytes) : (decode bytes).length = bytes.length := List.length_map _

theorem covers_decode (bytes : Bytes) : Covers (decode bytes) := by
  intro c member
  obtain ⟨b, _, rfl⟩ := List.mem_map.1 member
  rw [toNat_ofNat_toNat]
  exact b.toNat_lt

/-- Only the zero byte is the character 0. -/
theorem zero_mem_decode_iff : Char.ofNat 0 ∈ decode bytes ↔ 0 ∈ bytes := by
  constructor
  · intro member
    obtain ⟨b, member, same⟩ := List.mem_map.1 member
    have zero : b.toNat = 0 := by
      rw [← toNat_ofNat_toNat b, same]
      rfl
    rwa [show (0 : UInt8) = b from (UInt8.toNat_inj.1 zero).symm]
  · exact fun member => List.mem_map.2 ⟨0, member, rfl⟩

/-- A text is encoded by the bytes that are decoded to it. -/
theorem encode?_eq_some_iff : encode? text = some bytes ↔ decode bytes = text := by
  induction text generalizing bytes with
  | nil => cases bytes <;> simp [encode?, decode]
  | cons c text ih =>
      have step : encode? (c :: text) = some bytes ↔
          ∃ b rest, (c.toNat < 0x100 ∧ UInt8.ofNat c.toNat = b) ∧ encode? text = some rest ∧
            b :: rest = bytes := by
        simp [encode?, List.mapM_cons, Option.bind_eq_some_iff, Option.ite_none_right_eq_some]
      rw [step]
      constructor
      · rintro ⟨b, rest, ⟨small, rfl⟩, encoded, rfl⟩
        have own : (UInt8.ofNat c.toNat).toNat = c.toNat := by
          rw [UInt8.toNat_ofNat']
          omega
        rw [decode_cons, own, Char.ofNat_toNat, ih.1 encoded]
      · intro decoded
        cases bytes with
        | nil => cases decoded
        | cons b rest =>
            obtain ⟨rfl, others⟩ := List.cons.inj decoded
            have own := toNat_ofNat_toNat b
            exact ⟨b, rest, ⟨own ▸ b.toNat_lt, by rw [own, UInt8.ofNat_toNat]⟩, ih.2 others, rfl⟩

/-- Exactly the texts whose characters all have a byte are encoded. -/
theorem exists_encode?_iff : (∃ bytes, encode? text = some bytes) ↔ Covers text := by
  constructor
  · rintro ⟨bytes, encoded⟩
    rw [← encode?_eq_some_iff.1 encoded]
    exact covers_decode bytes
  · intro covers
    refine ⟨text.map fun c => UInt8.ofNat c.toNat, encode?_eq_some_iff.2 ?_⟩
    rw [decode, List.map_map]
    refine (List.map_congr_left fun c member => ?_).trans (List.map_id text)
    have small := covers c member
    have own : (UInt8.ofNat c.toNat).toNat = c.toNat := by
      rw [UInt8.toNat_ofNat']
      omega
    rw [Function.comp_apply, own, Char.ofNat_toNat, id]

theorem toList_text (bytes : Bytes) : (Latin1.text bytes).toList = decode bytes :=
  String.toList_ofList

theorem text_eq_iff {s : String} : Latin1.text bytes = s ↔ encode? s.toList = some bytes := by
  rw [encode?_eq_some_iff]
  constructor
  · rintro rfl
    exact (toList_text bytes).symm
  · intro decoded
    rw [Latin1.text, decoded, String.ofList_toList]

end ImageMetadata.Text.Latin1
