import ImageMetadata.Charset.Registry
import ImageMetadata.Text.Latin1
import ImageMetadata.Text.Utf32
import ImageMetadata.Xml.Scanner

/-!
# Encodings of documents

A document may start with a declaration of its version, its encoding, and whether it stands alone.
Its first bytes may tell a Unicode encoding, and then the declared one does not count. Else the
declaration names a character set, and without it the document is UTF-8.
-/

namespace ImageMetadata.Xml

/-- What a document declares at its start. -/
structure Declaration where
  encoding : Option String
  standalone : Bool
  deriving DecidableEq, Repr

namespace Declaration

/-- Nothing declared. -/
def empty : Declaration := ⟨none, false⟩

/-- Whether a version is one that the rules for the first one also cover. -/
def validVersion (version : List Char) : Bool :=
  match version with
  | '1' :: '.' :: minor => minor.all Char.isDigit
  | _ => false

/-- Whether a text may be the name of an encoding. -/
def validEncoding (name : List Char) : Bool :=
  (name.head?.map Char.isAlpha).getD false &&
    name.all fun c => c.isAlphanum || c = '.' || c = '_' || c = '-'

/-- Takes a keyword with its value, which space has to separate from what stands before. -/
def value? (keyword : String) (spaced : Bool) : Scanner (Option (List Char)) := do
  if ← Scanner.ahead keyword then
    guard spaced
    Scanner.expect keyword
    Scanner.equals
    return some (← Scanner.quoted)
  else return none

/-- Takes the rest of a declaration behind its start. -/
def scan : Scanner Declaration := do
  let version ← value? "version" (← Scanner.space)
  guard ((version.map validVersion).getD false)
  let spaced ← Scanner.space
  let encoding ← value? "encoding" spaced
  guard ((encoding.map validEncoding).getD true)
  let spaced ← if encoding.isSome then Scanner.space else pure spaced
  let standalone ← value? "standalone" spaced
  guard (standalone == none || standalone == some "yes".toList || standalone == some "no".toList)
  discard Scanner.space
  Scanner.expect "?>"
  return ⟨encoding.map String.ofList, standalone == some "yes".toList⟩

/-- Takes the declaration at the start of a document, if there is one. -/
def scan? : Scanner Declaration := do
  match ← get with
  | '<' :: '?' :: 'x' :: 'm' :: 'l' :: c :: _ =>
    if isSpace c then
      Scanner.expect "<?xml"
      scan
    else return empty
  | _ => return empty

end Declaration

namespace Encoding

/-- The text of bytes in the character set that they declare. -/
def declared? (bytes : Bytes) : Option (List Char) := do
  let (declaration, _) ← Declaration.scan?.run (Text.Latin1.decode bytes)
  (← Charset.named? (declaration.encoding.getD "UTF-8")).decode? bytes

/-- The text of a document. A byte order mark, or zero bytes around the first characters of markup,
tell its encoding. -/
def text? (bytes : Bytes) : Option (List Char) :=
  match bytes with
  | 0x00 :: 0x00 :: 0xFE :: 0xFF :: rest => Text.Utf32.decode? .big rest
  | 0xFF :: 0xFE :: 0x00 :: 0x00 :: rest => Text.Utf32.decode? .little rest
  | 0xEF :: 0xBB :: 0xBF :: rest => Text.Utf8.decode? rest
  | 0xFE :: 0xFF :: rest => Text.Utf16.decode? .big rest
  | 0xFF :: 0xFE :: rest => Text.Utf16.decode? .little rest
  | 0x00 :: 0x00 :: 0x00 :: 0x3C :: _ => Text.Utf32.decode? .big bytes
  | 0x3C :: 0x00 :: 0x00 :: 0x00 :: _ => Text.Utf32.decode? .little bytes
  | 0x00 :: 0x3C :: 0x00 :: 0x3F :: _ => Text.Utf16.decode? .big bytes
  | 0x3C :: 0x00 :: 0x3F :: 0x00 :: _ => Text.Utf16.decode? .little bytes
  | _ => declared? bytes

/-- The text of a document with unified line ends, if it only holds characters that it may hold. -/
def decode? (bytes : Bytes) : Option (List Char) := do
  let text ← text? bytes
  guard (text.all isChar)
  return unifyLineEnds text

end Encoding

end ImageMetadata.Xml
