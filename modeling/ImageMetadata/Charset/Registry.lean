import ImageMetadata.Charset.Chinese
import ImageMetadata.Charset.CodePage
import ImageMetadata.Charset.Iso8859
import ImageMetadata.Charset.Japanese
import ImageMetadata.Charset.Korean
import ImageMetadata.Charset.Macintosh
import ImageMetadata.Charset.Regional
import ImageMetadata.Charset.Vietnamese
import ImageMetadata.Text.Utf7
import ImageMetadata.Text.Utf8

/-!
# Registry of character sets

A character set is found by any of its names, in capital or small letters.
-/

namespace ImageMetadata.Charset

/-- UTF-8. -/
def utf8 : Charset := ⟨["UTF-8", "UTF8"], Text.Utf8.decode?⟩

/-- UTF-7. -/
def utf7 : Charset :=
  ⟨["UTF-7", "UNICODE-1-1-UTF-7", "CSUNICODE11UTF7"], Text.Utf7.decode?⟩

/-- All character sets. -/
def all : List Charset :=
  utf8 :: utf7 :: (Iso8859.all ++ CodePage.all ++ Macintosh.all ++ Regional.all ++ Vietnamese.all ++
    Japanese.all ++ Chinese.all ++ Korean.all)

/-- A name in capital letters. -/
def capitals (name : String) : String := String.ofList (name.toList.map Char.toUpper)

/-- The character set with a name. -/
def named? (name : String) : Option Charset :=
  all.find? fun set => set.names.contains (capitals name)

end ImageMetadata.Charset
