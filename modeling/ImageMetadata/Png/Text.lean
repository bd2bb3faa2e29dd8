import ImageMetadata.Deflate.Zlib
import ImageMetadata.Metadata
import ImageMetadata.Text.Utf8

/-!
# PNG texts

Three chunk types hold a keyword with a text. The plain one is Latin-1; the compressed one is
Latin-1 behind a compression method; the international one is UTF-8 with a language and a translated
keyword, compressed or not.
-/

namespace ImageMetadata.Png

/-- The bytes up to the first zero byte and those after it. -/
def split (missing : Problem) (bytes : Bytes) : Except Problem (Bytes × Bytes) :=
  match bytes.splitZero? with
  | some parts => .ok parts
  | none => .error missing

/-- The keyword at the start of a payload and the bytes after it. -/
def splitKeyword (payload : Bytes) : Except Problem (String × Bytes) := do
  let (keyword, rest) ← split .noKeywordEnd payload
  if keyword.length < 1 ∨ 79 < keyword.length then .error (.keywordLength keyword.length)
  return (Text.Latin1.text keyword, rest)

/-- The text of UTF-8 bytes. -/
def utf8 (bytes : Bytes) : Except Problem String :=
  match Text.Utf8.decode? bytes with
  | some chars => .ok (String.ofList chars)
  | none => .error .undecodableText

/-- The bytes of a compressed text. -/
def decompress (bytes : Bytes) : Except Problem Bytes :=
  match Deflate.Zlib.decompress? bytes with
  | some data => .ok data
  | none => .error .undecompressable

/-- Decodes the payload of a plain text chunk. -/
def decodePlain (payload : Bytes) : Except Problem TextRecord := do
  let (keyword, rest) ← splitKeyword payload
  return ⟨"tEXt", keyword, Text.Latin1.text rest, "", "", false⟩

/-- Decodes the payload of a compressed text chunk. -/
def decodeCompressed (payload : Bytes) : Except Problem TextRecord := do
  let (keyword, rest) ← splitKeyword payload
  match rest with
  | [] => .error .noCompressionMethod
  | method :: data =>
    if method ≠ 0 then .error (.compressionMethod method.toNat)
    return ⟨"zTXt", keyword, Text.Latin1.text (← decompress data), "", "", true⟩

/-- Decodes the payload of an international text chunk. -/
def decodeInternational (payload : Bytes) : Except Problem TextRecord := do
  let (keyword, rest) ← splitKeyword payload
  match rest with
  | flag :: method :: rest =>
    if flag ≠ 0 ∧ flag ≠ 1 then .error (.compressionFlag flag.toNat)
    if flag = 1 ∧ method ≠ 0 then .error (.compressionMethod method.toNat)
    let (language, rest) ← split .noLanguageEnd rest
    let (translated, data) ← split .noTranslatedKeywordEnd rest
    let data ← if flag = 1 then decompress data else pure data
    let text ← utf8 data
    return ⟨"iTXt", keyword, text, Text.Latin1.text language, ← utf8 translated, flag == 1⟩
  | _ => .error .noCompressionFlag

/-- The decoder of a chunk type that holds a text. -/
def decoder? (type : Bytes) : Option (Bytes → Except Problem TextRecord) :=
  if type = Bytes.ascii "tEXt" then some decodePlain
  else if type = Bytes.ascii "zTXt" then some decodeCompressed
  else if type = Bytes.ascii "iTXt" then some decodeInternational
  else none

end ImageMetadata.Png
