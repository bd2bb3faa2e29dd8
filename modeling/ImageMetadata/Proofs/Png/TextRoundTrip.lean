import ImageMetadata.Proofs.Png.Text
import ImageMetadata.Proofs.Text.Latin1
import ImageMetadata.Proofs.Text.Utf8

/-!
# Texts that are written and read back

A record is written in one of four layouts: as a plain text, as a compressed text, or as an
international text that is compressed or not. A payload is decoded to a record exactly if it is what
the record is written as, so that nothing is lost either way. What a layout leaves open is the
compressed stream, and the method byte that says nothing where no text is compressed.
-/

namespace ImageMetadata.Png

open Text (Latin1.Covers)

theorem bind_eq_ok_iff {ε α β : Type} {x : Except ε α} {f : α → Except ε β} {b : β} :
    (x >>= f) = .ok b ↔ ∃ a, x = .ok a ∧ f a = .ok b := by
  cases x with
  | error e => exact ⟨nofun, fun ⟨_, same, _⟩ => nomatch same⟩
  | ok a => exact ⟨fun h => ⟨a, rfl, h⟩, fun ⟨_, same, h⟩ => Except.ok.inj same ▸ h⟩

theorem split_eq_ok_iff {missing : Problem} {bytes l r : Bytes} :
    split missing bytes = .ok (l, r) ↔ bytes = l ++ 0 :: r ∧ 0 ∉ l := by
  rw [← Bytes.splitZero?_eq_some_iff, split]
  cases bytes.splitZero? with
  | none => exact ⟨nofun, nofun⟩
  | some parts => simp

theorem utf8_eq_ok_iff {bytes : Bytes} {s : String} :
    utf8 bytes = .ok s ↔ bytes = Text.Utf8.encode s.toList := by
  rw [← Text.Utf8.decode?_eq_some_iff, utf8]
  cases Text.Utf8.decode? bytes with
  | none => exact ⟨nofun, nofun⟩
  | some chars =>
      simp only [Except.ok.injEq, Option.some.injEq]
      constructor
      · rintro rfl
        exact String.toList_ofList.symm
      · rintro rfl
        exact String.ofList_toList

theorem decompress_eq_ok_iff {bytes data : Bytes} :
    decompress bytes = .ok data ↔ Deflate.Zlib.decompress? bytes = some data := by
  rw [decompress]
  cases Deflate.Zlib.decompress? bytes with
  | none => exact ⟨nofun, nofun⟩
  | some d => simp

/-- A text of Latin-1 characters, none of which is the character 0. -/
structure IsTag (s : String) : Prop where
  latin : Latin1.Covers s.toList
  free : Char.ofNat 0 ∉ s.toList

/-- A tag of 1 to 79 characters. -/
structure IsKeyword (s : String) : Prop extends IsTag s where
  nonempty : 1 ≤ s.toList.length
  short : s.toList.length ≤ 79

/-- A tag is what bytes without a zero byte are decoded to. -/
theorem isTag_text_iff {bytes : Bytes} : IsTag (Text.Latin1.text bytes) ↔ 0 ∉ bytes := by
  constructor
  · intro tag
    rw [← Text.Latin1.zero_mem_decode_iff, ← Text.Latin1.toList_text]
    exact tag.free
  · intro free
    refine ⟨?_, ?_⟩ <;> rw [Text.Latin1.toList_text]
    · exact Text.Latin1.covers_decode bytes
    · rwa [Text.Latin1.zero_mem_decode_iff]

theorem splitKeyword_eq_ok_iff {payload rest : Bytes} {keyword : String} :
    splitKeyword payload = .ok (keyword, rest) ↔
      IsKeyword keyword ∧
        ∃ bytes, Text.Latin1.encode? keyword.toList = some bytes ∧
          payload = bytes ++ 0 :: rest := by
  unfold splitKeyword
  rw [bind_eq_ok_iff]
  constructor
  · rintro ⟨⟨bytes, rest'⟩, split, h⟩
    obtain ⟨rfl, free⟩ := split_eq_ok_iff.1 split
    dsimp only at h
    split at h
    · cases h
    · rename_i length
      cases h
      refine ⟨⟨isTag_text_iff.2 free, ?_, ?_⟩, bytes, Text.Latin1.text_eq_iff.1 rfl, rfl⟩ <;>
        rw [Text.Latin1.toList_text, Text.Latin1.length_decode] <;> omega
  · rintro ⟨named, bytes, encoded, rfl⟩
    obtain rfl := Text.Latin1.text_eq_iff.2 encoded
    have free := isTag_text_iff.1 named.toIsTag
    have length := named.nonempty
    have length' := named.short
    rw [Text.Latin1.toList_text, Text.Latin1.length_decode] at length length'
    refine ⟨(bytes, rest), split_eq_ok_iff.2 ⟨rfl, free⟩, ?_⟩
    dsimp only
    rw [if_neg (by omega)]
    rfl

/-- How a record is written, with what the record leaves open. -/
inductive TextLayout where
  | plain
  | compressed (stream : Bytes)
  | international (method : UInt8)
  | deflated (stream : Bytes)

namespace TextLayout

def form : TextLayout → TextForm
  | plain => .plain
  | compressed _ => .compressed
  | international _ | deflated _ => .international

/-- A record with a keyword that a layout writes. The stream of a compressed text is one that holds
the bytes of the text. -/
inductive Admits : TextLayout → TextRecord → Prop
  | plain {keyword text : String} (named : IsKeyword keyword) (latin : Latin1.Covers text.toList) :
      Admits .plain ⟨"tEXt", keyword, text, "", "", false⟩
  | compressed {keyword text : String} {stream data : Bytes} (named : IsKeyword keyword)
      (encoded : Text.Latin1.encode? text.toList = some data)
      (holds : Deflate.Zlib.decompress? stream = some data) :
      Admits (.compressed stream) ⟨"zTXt", keyword, text, "", "", true⟩
  | international {keyword text language translated : String} (method : UInt8)
      (named : IsKeyword keyword) (tag : IsTag language) (free : Char.ofNat 0 ∉ translated.toList) :
      Admits (.international method) ⟨"iTXt", keyword, text, language, translated, false⟩
  | deflated {keyword text language translated : String} {stream : Bytes}
      (named : IsKeyword keyword) (tag : IsTag language) (free : Char.ofNat 0 ∉ translated.toList)
      (holds : Deflate.Zlib.decompress? stream = some (Text.Utf8.encode text.toList)) :
      Admits (.deflated stream) ⟨"iTXt", keyword, text, language, translated, true⟩

/-- The bytes of the language and the translated keyword, with what follows them. -/
def tagged? (r : TextRecord) (rest : Bytes) : Option Bytes := do
  return (← Text.Latin1.encode? r.language.toList) ++
    0 :: (Text.Utf8.encode r.translatedKeyword.toList ++ 0 :: rest)

/-- What is written behind the keyword. -/
def body? (r : TextRecord) : TextLayout → Option Bytes
  | plain => Text.Latin1.encode? r.text.toList
  | compressed stream => some (0 :: stream)
  | international method => do
    return 0 :: method :: (← tagged? r (Text.Utf8.encode r.text.toList))
  | deflated stream => do return 1 :: 0 :: (← tagged? r stream)

/-- The payload that a record is written as; there is none for characters that Latin-1 lacks. -/
def payload? (l : TextLayout) (r : TextRecord) : Option Bytes := do
  return (← Text.Latin1.encode? r.keyword.toList) ++ 0 :: (← l.body? r)

theorem payload?_eq_some_iff {l : TextLayout} {r : TextRecord} {payload : Bytes} :
    l.payload? r = some payload ↔
      ∃ bytes, Text.Latin1.encode? r.keyword.toList = some bytes ∧
        ∃ body, l.body? r = some body ∧ bytes ++ 0 :: body = payload := by
  simp [payload?, Option.bind_eq_some_iff]

example :
    (international 0).payload? ⟨"iTXt", "Title", "A", "de", "Titel", false⟩ =
      some (Bytes.ascii "Title" ++ [0, 0, 0] ++ Bytes.ascii "de" ++ [0] ++ Bytes.ascii "Titel" ++
        [0, 0x41]) := by
  decide

theorem tagged?_eq_some_iff {r : TextRecord} {rest bytes : Bytes} :
    tagged? r rest = some bytes ↔
      ∃ language, Text.Latin1.encode? r.language.toList = some language ∧
        language ++ 0 :: (Text.Utf8.encode r.translatedKeyword.toList ++ 0 :: rest) = bytes := by
  simp [tagged?, Option.bind_eq_some_iff]

end TextLayout

variable {payload : Bytes} {r : TextRecord}

theorem decodePlain_eq_ok_iff :
    decodePlain payload = .ok r ↔
      TextLayout.plain.Admits r ∧ TextLayout.plain.payload? r = some payload := by
  unfold decodePlain
  rw [bind_eq_ok_iff, TextLayout.payload?_eq_some_iff]
  constructor
  · rintro ⟨⟨keyword, rest⟩, split, h⟩
    obtain ⟨named, bytes, encoded, rfl⟩ := splitKeyword_eq_ok_iff.1 split
    cases h
    have text := Text.Latin1.text_eq_iff.1 (Eq.refl (Text.Latin1.text rest))
    exact ⟨.plain named (Text.Latin1.exists_encode?_iff.1 ⟨rest, text⟩), bytes, encoded, rest, text,
      rfl⟩
  · rintro ⟨admits, bytes, encoded, body, text, rfl⟩
    cases admits with
    | plain named latin =>
        refine ⟨_, splitKeyword_eq_ok_iff.2 ⟨named, bytes, encoded, rfl⟩, ?_⟩
        dsimp only
        rw [Text.Latin1.text_eq_iff.2 text]
        rfl

theorem decodeCompressed_eq_ok_iff :
    decodeCompressed payload = .ok r ↔
      ∃ stream, (TextLayout.compressed stream).Admits r ∧
        (TextLayout.compressed stream).payload? r = some payload := by
  unfold decodeCompressed
  rw [bind_eq_ok_iff]
  simp only [TextLayout.payload?_eq_some_iff]
  constructor
  · rintro ⟨⟨keyword, rest⟩, split, h⟩
    obtain ⟨named, bytes, encoded, rfl⟩ := splitKeyword_eq_ok_iff.1 split
    cases rest with
    | nil => cases h
    | cons method stream =>
        dsimp only at h
        split at h
        · cases h
        · rename_i known
          obtain rfl := not_not.1 known
          obtain ⟨data, holds, h⟩ := bind_eq_ok_iff.1 h
          cases h
          have text := Text.Latin1.text_eq_iff.1 (Eq.refl (Text.Latin1.text data))
          exact ⟨stream, .compressed named text (decompress_eq_ok_iff.1 holds), bytes, encoded,
            _, rfl, rfl⟩
  · rintro ⟨stream, admits, bytes, encoded, _, ⟨⟩, rfl⟩
    cases admits with
    | compressed named text holds =>
        refine ⟨_, splitKeyword_eq_ok_iff.2 ⟨named, bytes, encoded, rfl⟩, ?_⟩
        dsimp only
        rw [if_neg (not_not.2 rfl)]
        refine bind_eq_ok_iff.2 ⟨_, decompress_eq_ok_iff.2 holds, ?_⟩
        rw [Text.Latin1.text_eq_iff.2 text]
        rfl

/-- What the fields behind the flags of an international text are decoded to. -/
def decodeTagged (keyword : String) (deflated : Bool) (rest : Bytes) :
    Except Problem TextRecord := do
  let (language, rest) ← split .noLanguageEnd rest
  let (translated, data) ← split .noTranslatedKeywordEnd rest
  let data ← if deflated then decompress data else pure data
  let text ← utf8 data
  return ⟨"iTXt", keyword, text, Text.Latin1.text language, ← utf8 translated, deflated⟩

theorem utf8_utf8_eq_ok_iff {data translated : Bytes} {record : String → String → TextRecord} :
    (do return record (← utf8 data) (← utf8 translated)) = .ok r ↔
      ∃ text name, data = Text.Utf8.encode text.toList ∧
        translated = Text.Utf8.encode name.toList ∧ record text name = r := by
  constructor
  · intro h
    obtain ⟨text, read, rest⟩ := bind_eq_ok_iff.1 h
    obtain ⟨name, read', same⟩ := bind_eq_ok_iff.1 rest
    exact ⟨text, name, utf8_eq_ok_iff.1 read, utf8_eq_ok_iff.1 read', Except.ok.inj same⟩
  · rintro ⟨text, name, rfl, rfl, rfl⟩
    refine bind_eq_ok_iff.2 ⟨text, utf8_eq_ok_iff.2 rfl, ?_⟩
    exact bind_eq_ok_iff.2 ⟨name, utf8_eq_ok_iff.2 rfl, rfl⟩

/-- Behind the flags stand a tag, a text without the character 0, and the text. -/
theorem decodeTagged_eq_ok_iff {keyword : String} {deflated : Bool} {rest : Bytes} :
    decodeTagged keyword deflated rest = .ok r ↔
      ∃ data text language translated,
        r = ⟨"iTXt", keyword, text, language, translated, deflated⟩ ∧ IsTag language ∧
        Char.ofNat 0 ∉ translated.toList ∧
        (if deflated then Deflate.Zlib.decompress? data = some (Text.Utf8.encode text.toList)
          else data = Text.Utf8.encode text.toList) ∧
        TextLayout.tagged? r data = some rest := by
  unfold decodeTagged
  simp only [TextLayout.tagged?_eq_some_iff]
  constructor
  · intro h
    obtain ⟨⟨language, rest₁⟩, tagged, h₁⟩ := bind_eq_ok_iff.1 h
    obtain ⟨⟨translated, data⟩, translation, h₂⟩ := bind_eq_ok_iff.1 h₁
    obtain ⟨rfl, free⟩ := split_eq_ok_iff.1 tagged
    obtain ⟨rfl, free'⟩ := split_eq_ok_iff.1 translation
    have encoded := Text.Latin1.text_eq_iff.1 (Eq.refl (Text.Latin1.text language))
    have tag := isTag_text_iff.2 free
    cases deflated with
    | true =>
        obtain ⟨bytes, inflated, h₃⟩ := bind_eq_ok_iff.1 h₂
        obtain ⟨text, name, rfl, rfl, rfl⟩ := utf8_utf8_eq_ok_iff.1 h₃
        rw [Text.Utf8.zero_mem_encode_iff] at free'
        exact ⟨data, text, _, name, rfl, tag, free', decompress_eq_ok_iff.1 inflated, language,
          encoded, rfl⟩
    | false =>
        obtain ⟨text, name, rfl, rfl, rfl⟩ := utf8_utf8_eq_ok_iff.1 h₂
        rw [Text.Utf8.zero_mem_encode_iff] at free'
        exact ⟨_, text, _, name, rfl, tag, free', rfl, language, encoded, rfl⟩
  · rintro ⟨data, text, language, translated, rfl, tag, free, inflated, bytes, encoded, rfl⟩
    obtain rfl := Text.Latin1.text_eq_iff.2 encoded
    have free' : 0 ∉ Text.Utf8.encode translated.toList :=
      fun zero => free (Text.Utf8.zero_mem_encode_iff.1 zero)
    refine bind_eq_ok_iff.2 ⟨_, split_eq_ok_iff.2 ⟨rfl, isTag_text_iff.1 tag⟩, ?_⟩
    refine bind_eq_ok_iff.2 ⟨_, split_eq_ok_iff.2 ⟨rfl, free'⟩, ?_⟩
    cases deflated with
    | true =>
        refine bind_eq_ok_iff.2 ⟨_, decompress_eq_ok_iff.2 inflated, ?_⟩
        exact utf8_utf8_eq_ok_iff.2 ⟨text, translated, rfl, rfl, rfl⟩
    | false => exact utf8_utf8_eq_ok_iff.2 ⟨text, translated, inflated, rfl, rfl⟩

/-- The flag says whether a text is compressed, and then the method has to be the known one. -/
theorem decodeInternational_flags_iff :
    decodeInternational payload = .ok r ↔
      ∃ keyword rest, (splitKeyword payload = .ok (keyword, 1 :: 0 :: rest) ∧
        decodeTagged keyword true rest = .ok r) ∨
        ∃ method, splitKeyword payload = .ok (keyword, 0 :: method :: rest) ∧
          decodeTagged keyword false rest = .ok r := by
  unfold decodeInternational
  rw [bind_eq_ok_iff]
  constructor
  · rintro ⟨⟨keyword, rest⟩, named, h⟩
    dsimp only at h
    split at h
    · rename_i flag method rest
      split at h
      · cases h
      · rename_i known
        split at h
        · cases h
        · rename_i known'
          by_cases deflated : flag = 1
          · obtain rfl := deflated
            obtain rfl : method = 0 := by simpa using known'
            exact ⟨keyword, rest, .inl ⟨named, h⟩⟩
          · obtain rfl : flag = 0 := by simpa [deflated] using known
            exact ⟨keyword, rest, .inr ⟨method, named, h⟩⟩
    · cases h
  · rintro ⟨keyword, rest, ⟨named, h⟩ | ⟨method, named, h⟩⟩
    · exact ⟨_, named, h⟩
    · exact ⟨_, named, h⟩

theorem decodeInternational_eq_ok_iff :
    decodeInternational payload = .ok r ↔
      ∃ l : TextLayout, l.form = .international ∧ l.Admits r ∧ l.payload? r = some payload := by
  rw [decodeInternational_flags_iff]
  simp only [TextLayout.payload?_eq_some_iff]
  constructor
  · rintro ⟨keyword, rest, ⟨first, h⟩ | ⟨method, first, h⟩⟩
    · obtain ⟨named, bytes, encoded, rfl⟩ := splitKeyword_eq_ok_iff.1 first
      obtain ⟨data, text, language, translated, rfl, tag, free, inflated, tagged⟩ :=
        decodeTagged_eq_ok_iff.1 h
      refine ⟨.deflated data, rfl, .deflated named tag free inflated, bytes, encoded, _, ?_, rfl⟩
      rw [TextLayout.body?, tagged]
      rfl
    · obtain ⟨named, bytes, encoded, rfl⟩ := splitKeyword_eq_ok_iff.1 first
      obtain ⟨_, text, language, translated, rfl, tag, free, rfl, tagged⟩ :=
        decodeTagged_eq_ok_iff.1 h
      refine ⟨.international method, rfl, .international method named tag free, bytes, encoded, _,
        ?_, rfl⟩
      rw [TextLayout.body?, tagged]
      rfl
  · rintro ⟨l, sort, admits, bytes, encoded, body, written, rfl⟩
    cases admits with
    | plain | compressed => cases sort
    | international method named tag free =>
        obtain ⟨rest, tagged, same⟩ := Option.bind_eq_some_iff.1 written
        cases same
        refine ⟨_, rest, .inr ⟨method, splitKeyword_eq_ok_iff.2 ⟨named, bytes, encoded, rfl⟩, ?_⟩⟩
        exact decodeTagged_eq_ok_iff.2 ⟨_, _, _, _, rfl, tag, free, rfl, tagged⟩
    | @deflated _ _ _ _ stream named tag free holds =>
        obtain ⟨rest, tagged, same⟩ := Option.bind_eq_some_iff.1 written
        cases same
        refine ⟨_, rest, .inl ⟨splitKeyword_eq_ok_iff.2 ⟨named, bytes, encoded, rfl⟩, ?_⟩⟩
        exact decodeTagged_eq_ok_iff.2 ⟨stream, _, _, _, rfl, tag, free, holds, tagged⟩

/-- A payload is decoded to a record exactly if it is what the record is written as. -/
theorem TextForm.decode_eq_ok_iff (form : TextForm) :
    form.decode payload = .ok r ↔
      ∃ l : TextLayout, l.form = form ∧ l.Admits r ∧ l.payload? r = some payload := by
  cases form with
  | plain =>
      refine decodePlain_eq_ok_iff.trans ⟨fun h => ⟨_, rfl, h⟩, ?_⟩
      rintro ⟨l, sort, h⟩
      cases l with
      | plain => exact h
      | _ => cases sort
  | compressed =>
      refine decodeCompressed_eq_ok_iff.trans ⟨fun ⟨stream, h⟩ => ⟨_, rfl, h⟩, ?_⟩
      rintro ⟨l, sort, h⟩
      cases l with
      | compressed stream => exact ⟨stream, h⟩
      | _ => cases sort
  | international => exact decodeInternational_eq_ok_iff

namespace TextLayout

variable {l : TextLayout}

theorem exists_tagged? (tag : IsTag r.language) (rest : Bytes) :
    ∃ bytes, tagged? r rest = some bytes := by
  obtain ⟨language, encoded⟩ := Text.Latin1.exists_encode?_iff.2 tag.latin
  exact ⟨_, tagged?_eq_some_iff.2 ⟨language, encoded, rfl⟩⟩

theorem exists_payload? {body : Bytes} (named : IsKeyword r.keyword)
    (written : l.body? r = some body) : ∃ payload, l.payload? r = some payload := by
  obtain ⟨bytes, encoded⟩ := Text.Latin1.exists_encode?_iff.2 named.latin
  exact ⟨_, payload?_eq_some_iff.2 ⟨bytes, encoded, body, written, rfl⟩⟩

/-- Whatever a layout admits, it writes. -/
theorem Admits.exists_payload? (h : l.Admits r) : ∃ payload, l.payload? r = some payload := by
  cases h with
  | plain named latin =>
      obtain ⟨body, written⟩ := Text.Latin1.exists_encode?_iff.2 latin
      exact TextLayout.exists_payload? named written
  | compressed named => exact TextLayout.exists_payload? named rfl
  | @international keyword text language translated method named tag =>
      obtain ⟨rest, written⟩ :=
        exists_tagged? (r := ⟨"iTXt", keyword, text, language, translated, false⟩) tag
          (Text.Utf8.encode text.toList)
      exact TextLayout.exists_payload? named (by rw [body?, written]; rfl)
  | @deflated keyword text language translated stream named tag =>
      obtain ⟨rest, written⟩ :=
        exists_tagged? (r := ⟨"iTXt", keyword, text, language, translated, true⟩) tag stream
      exact TextLayout.exists_payload? named (by rw [body?, written]; rfl)

/-- Payloads of one record that is not compressed differ in the method byte at most, which stands
behind the keyword, the zero byte and the flag. -/
theorem Admits.payload_unique {l' : TextLayout} {payload' : Bytes} (h : l.Admits r)
    (h' : l'.Admits r) (same : l'.form = l.form) (bare : r.compressed = false)
    (written : l.payload? r = some payload) (written' : l'.payload? r = some payload') :
    payload' = payload ∨ l.form = .international ∧
      ∃ method, payload' = payload.set (r.keyword.toList.length + 2) method := by
  obtain ⟨bytes, encoded, body, filled, rfl⟩ := payload?_eq_some_iff.1 written
  obtain ⟨bytes', encoded', body', filled', rfl⟩ := payload?_eq_some_iff.1 written'
  obtain rfl := Option.some.inj (encoded.symm.trans encoded')
  cases h with
  | compressed | deflated => cases bare
  | plain =>
      cases l' with
      | plain => exact .inl (by rw [Option.some.inj (filled'.symm.trans filled)])
      | _ => cases same
  | international method =>
      cases l' with
      | plain | compressed => cases same
      | deflated => cases h'
      | international method' =>
          obtain ⟨rest, tagged, ⟨⟩⟩ := Option.bind_eq_some_iff.1 filled
          obtain ⟨rest', tagged', ⟨⟩⟩ := Option.bind_eq_some_iff.1 filled'
          obtain rfl := Option.some.inj (tagged.symm.trans tagged')
          have width := Text.Latin1.length_decode bytes
          rw [Text.Latin1.encode?_eq_some_iff.1 encoded] at width
          refine .inr ⟨rfl, method', ?_⟩
          rw [width, List.set_append_right _ _ (Nat.le_add_right _ _), Nat.add_sub_cancel_left]
          rfl

end TextLayout

/-- A decoder and the layouts of its records undo each other, and whatever else is decoded is
refused as bytes without a text. -/
structure TextForm.IsLossless (form : TextForm) : Prop where
  decoder?_eq : decoder? (Bytes.ascii form.name) = some form.decode
  decode_written : ∀ (l : TextLayout) r, l.form = form → l.Admits r →
    ∃ payload, l.payload? r = some payload ∧ form.decode payload = .ok r
  written_of_decode : ∀ payload r, form.decode payload = .ok r →
    ∃ l : TextLayout, l.form = form ∧ l.Admits r ∧ l.payload? r = some payload
  refuses : ∀ payload,
    (∀ (l : TextLayout) r, l.form = form → l.Admits r → l.payload? r ≠ some payload) →
      ∃ p, form.decode payload = .error p ∧ IsTextFault p
  injective : ∀ payload payload' r, form.decode payload = .ok r → form.decode payload' = .ok r →
    r.compressed = false → payload' = payload ∨ form = .international ∧
      ∃ method, payload' = payload.set (r.keyword.toList.length + 2) method

/-- The decoders of text chunks lose nothing. -/
theorem TextForm.isLossless (form : TextForm) : form.IsLossless where
  decoder?_eq := form.decoder?_name
  decode_written l r sort admits := by
    obtain ⟨payload, written⟩ := admits.exists_payload?
    exact ⟨payload, written, form.decode_eq_ok_iff.2 ⟨l, sort, admits, written⟩⟩
  written_of_decode payload r decoded := form.decode_eq_ok_iff.1 decoded
  refuses payload foreign := by
    cases decoded : form.decode payload with
    | ok r =>
        obtain ⟨l, sort, admits, written⟩ := form.decode_eq_ok_iff.1 decoded
        exact absurd written (foreign l r sort admits)
    | error p => exact ⟨p, rfl, form.textual_decode payload p decoded⟩
  injective payload payload' r decoded decoded' bare := by
    obtain ⟨l, rfl, admits, written⟩ := form.decode_eq_ok_iff.1 decoded
    obtain ⟨l', same, admits', written'⟩ := TextForm.decode_eq_ok_iff _ |>.1 decoded'
    exact admits.payload_unique admits' same bare written written'

end ImageMetadata.Png
