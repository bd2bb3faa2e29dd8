import ImageMetadata.Png.Text

/-!
# Failures of text decoders

There are three sorts of text chunks. A decoder of one of them either gives a record or says that
the payload holds no text, which the reader of the file takes as a notice.
-/

namespace ImageMetadata.Png

/-- The sorts of text chunks. -/
inductive TextForm where
  | plain
  | compressed
  | international

/-- The name of the chunk type. -/
def TextForm.name : TextForm → String
  | plain => "tEXt"
  | compressed => "zTXt"
  | international => "iTXt"

/-- The decoder of the payload. -/
def TextForm.decode : TextForm → Bytes → Except Problem TextRecord
  | plain => decodePlain
  | compressed => decodeCompressed
  | international => decodeInternational

theorem TextForm.decoder?_name (form : TextForm) :
    decoder? (Bytes.ascii form.name) = some form.decode := by
  cases form <;> rfl

/-- Only the names of the three sorts have a decoder. -/
theorem exists_of_decoder? {type : Bytes} {decode : Bytes → Except Problem TextRecord}
    (h : decoder? type = some decode) :
    ∃ form : TextForm, type = Bytes.ascii form.name ∧ form.decode = decode := by
  unfold decoder? at h
  split at h
  · exact ⟨.plain, ‹_›, Option.some.inj h⟩
  split at h
  · exact ⟨.compressed, ‹_›, Option.some.inj h⟩
  split at h
  · exact ⟨.international, ‹_›, Option.some.inj h⟩
  · cases h

/-- The failures of a decoder: a field is missing or wrong, or bytes hold no UTF-8 or no compressed
stream. -/
def IsTextFault (p : Problem) : Prop :=
  p.kind = .value ∨ p.kind = .unicode ∨ p.kind = .decompression

theorem IsTextFault.isTextual {p : Problem} (h : IsTextFault p) : p.isTextual = true := by
  unfold Problem.isTextual
  obtain kind | kind | kind := h <;> rw [kind] <;> rfl

/-- The computation gives a result or says that bytes hold no text. -/
def IsTextual {α : Type} (x : Except Problem α) : Prop := ∀ p, x = .error p → IsTextFault p

namespace IsTextual

variable {α β : Type}

theorem ok (a : α) : IsTextual (.ok a) := fun _ h => nomatch h

theorem error {p : Problem} (h : IsTextFault p) : IsTextual (.error p : Except Problem α) := by
  intro q same
  cases same
  exact h

theorem bind {x : Except Problem α} {f : α → Except Problem β} (h : IsTextual x)
    (k : ∀ a, IsTextual (f a)) : IsTextual (x >>= f) := by
  cases x with
  | error p => exact error (h p rfl)
  | ok a => exact k a

end IsTextual

open IsTextual (ok error)

theorem textual_split {missing : Problem} (h : IsTextFault missing) (payload : Bytes) :
    IsTextual (split missing payload) := by
  unfold split
  split
  · exact ok _
  · exact error h

theorem textual_splitKeyword (payload : Bytes) : IsTextual (splitKeyword payload) := by
  apply (textual_split (.inl rfl) payload).bind
  intro parts
  dsimp only
  split
  · exact error (.inl rfl)
  · exact ok _

theorem textual_utf8 (data : Bytes) : IsTextual (utf8 data) := by
  unfold utf8
  split
  · exact ok _
  · exact error (.inr (.inl rfl))

theorem textual_decompress (data : Bytes) : IsTextual (decompress data) := by
  unfold decompress
  split
  · exact ok _
  · exact error (.inr (.inr rfl))

theorem textual_decodePlain (payload : Bytes) : IsTextual (decodePlain payload) :=
  (textual_splitKeyword payload).bind fun _ => ok _

theorem textual_decodeCompressed (payload : Bytes) : IsTextual (decodeCompressed payload) := by
  apply (textual_splitKeyword payload).bind
  rintro ⟨keyword, rest⟩
  cases rest with
  | nil => exact error (.inl rfl)
  | cons method data =>
      dsimp only
      split
      · exact error (.inl rfl)
      · exact (textual_decompress data).bind fun _ => ok _

theorem textual_decodeInternational (payload : Bytes) :
    IsTextual (decodeInternational payload) := by
  apply (textual_splitKeyword payload).bind
  rintro ⟨keyword, rest⟩
  dsimp only
  split
  · split
    · exact error (.inl rfl)
    split
    · exact error (.inl rfl)
    apply (textual_split (.inl rfl) _).bind
    rintro ⟨language, rest⟩
    apply (textual_split (.inl rfl) rest).bind
    rintro ⟨translated, data⟩
    have texts (data : Bytes) (record : String → String → TextRecord) :
        IsTextual (do return record (← utf8 data) (← utf8 translated)) :=
      (textual_utf8 data).bind fun _ => (textual_utf8 translated).bind fun _ => ok _
    split
    · exact (textual_decompress data).bind fun data => texts data _
    · exact texts data _
  · exact error (.inl rfl)

theorem TextForm.textual_decode (form : TextForm) (payload : Bytes) :
    IsTextual (form.decode payload) := by
  cases form with
  | plain => exact textual_decodePlain payload
  | compressed => exact textual_decodeCompressed payload
  | international => exact textual_decodeInternational payload

/-- Every failure of a text decoder is caught. -/
theorem textual_of_decoder? {type payload : Bytes} {decode : Bytes → Except Problem TextRecord}
    (h : decoder? type = some decode) : IsTextual (decode payload) := by
  obtain ⟨form, _, rfl⟩ := exists_of_decoder? h
  exact form.textual_decode payload

end ImageMetadata.Png
