import ImageMetadata.Charset.DoubleByte
import ImageMetadata.Charset.JisX0208
import ImageMetadata.Charset.JisX0212

/-!
# Japanese sets

The same characters are stored in three ways: as pairs with the highest bit set, as pairs shifted to
leave room for single bytes with the small syllables, and as pairs without the highest bit between
marks that switch them on and off.
-/

namespace ImageMetadata.Charset

namespace Japanese

/-- The character of a single byte in JIS X 0201: a yen sign and a line above stand in place of two
ASCII characters, and the upper half has syllables of half the width. -/
def halfWidth? (b : UInt8) : Option Char :=
  if b = 0x5C then some '¥'
  else if b = 0x7E then some '‾'
  else if b < 0x80 then some (Char.ofNat b.toNat)
  else if 0xA1 ≤ b ∧ b ≤ 0xDF then some (Char.ofNat (0xFF61 + (b.toNat - 0xA1)))
  else none

/-- JIS X 0201. -/
def jisX0201 : Charset :=
  ⟨["JIS_X0201", "JISX0201-1976", "X0201", "CSHALFWIDTHKATAKANA"], fun bytes =>
    bytes.mapM halfWidth?⟩

/-- The character of a pair with the highest bit set, in a grid or, behind its row 84, for private
use from some number on. -/
def squarePair? (grid : Grid) (privateStart : Nat) (lead trail : UInt8) : Option Char := do
  let place ← PairRanges.square.place? lead trail
  if place < 84 * 94 then grid.char? place
  else return Char.ofNat (privateStart + (place - 84 * 94))

/-- The step of pairs with the highest bit set. Two lead bytes are marks: for a syllable of half the
width, and for a pair of the supplementary set. -/
def eucStep (b : UInt8) (rest : Bytes) : Option (Char × Nat) :=
  match b, rest with
  | 0x8E, c :: _ => if 0xA1 ≤ c then (halfWidth? c).map (·, 1) else none
  | 0x8F, lead :: trail :: _ => (squarePair? jisX0212 0xE3AC lead trail).map (·, 2)
  | _, _ => doubleByte asciiByte? (squarePair? jisX0208 0xE000) b rest

/-- Pairs with the highest bit set. -/
def eucJp : Charset :=
  ⟨["EUC-JP", "EUCJP", "EXTENDED_UNIX_CODE_PACKED_FORMAT_FOR_JAPANESE", "CSEUCPKDFMTJAPANESE"],
    stepwise eucStep⟩

/-- The trail bytes of shifted pairs. -/
def shiftedTrails : List (Nat × Nat) := [(0x40, 0x7E), (0x80, 0xFC)]

/-- The ranges of shifted pairs. -/
def shifted : PairRanges := ⟨[(0x81, 0x9F), (0xE0, 0xFC)], shiftedTrails⟩

/-- The character for private use of a shifted pair. -/
def privatePair? (lead trail : UInt8) : Option Char :=
  (PairRanges.place? ⟨[(0xF0, 0xF9)], shiftedTrails⟩ lead trail).map fun place =>
    Char.ofNat (0xE000 + place)

/-- The character of a shifted pair. -/
def shiftedPair? (lead trail : UInt8) : Option Char :=
  privatePair? lead trail <|> (shifted.place? lead trail).bind jisX0208.char?

/-- Shifted pairs. -/
def shiftJis : Charset :=
  ⟨["SHIFT_JIS", "SHIFT-JIS", "SJIS", "MS_KANJI", "CSSHIFTJIS"],
    stepwise (doubleByte halfWidth? shiftedPair?)⟩

/-- Signs that the code page has in another width or form. -/
def changedSigns : List (Nat × Char) :=
  [(32, '～'), (33, '∥'), (60, '－'), (80, '￠'), (81, '￡'), (137, '￢')]

/-- Characters that the code page adds: runs that start at some place. -/
def furtherPairs : List (Nat × String) :=
  [(1128,
      "①②③④⑤⑥⑦⑧⑨⑩⑪⑫⑬⑭⑮⑯⑰⑱⑲⑳ⅠⅡⅢⅣⅤⅥⅦⅧⅨⅩ"),
    (1159,
      "㍉㌔㌢㍍㌘㌧㌃㌶㍑㍗㌍㌦㌣㌫㍊㌻㎜㎝㎞㎎㎏㏄㎡"),
    (1190,
      "㍻〝〟№㏍℡㊤㊥㊦㊧㊨㈱㈲㈹㍾㍽㍼≒≡∫∮∑√⊥∠∟⊿∵∩∪"),
    (8272,
      "纊褜鍈銈蓜俉炻昱棈鋹曻彅丨仡仼伀伃伹佖侒侊侚侔俍偀倢俿倞偆偰偂傔僴僘兊兤冝冾凬刕劜劦勀勛" ++
        "匀匇匤卲厓厲叝﨎咜咊咩哿喆坙坥垬埈埇﨏塚增墲夋奓奛奝奣妤妺孖寀甯寘寬尞岦岺峵崧嵓﨑嵂嵭嶸" ++
        "嶹巐弡弴彧德忞恝悅悊惞惕愠惲愑愷愰憘戓抦揵摠撝擎敎昀昕昻昉昮昞昤晥晗晙晴晳暙暠暲暿曺朎朗" ++
        "杦枻桒柀栁桄棏﨓楨﨔榘槢樰橫橆橳橾櫢櫤毖氿汜沆汯泚洄涇浯涖涬淏淸淲淼渹湜渧渼溿澈澵濵瀅瀇" ++
        "瀨炅炫焏焄煜煆煇凞燁燾犱犾猤猪獷玽珉珖珣珒琇珵琦琪琩琮瑢璉璟甁畯皂皜皞皛皦益睆劯砡硎硤硺" ++
        "礰礼神祥禔福禛竑竧靖竫箞精絈絜綷綠緖繒罇羡羽茁荢荿菇菶葈蒴蕓蕙蕫﨟薰蘒﨡蠇裵訒訷詹誧誾諟" ++
        "諸諶譓譿賰賴贒赶﨣軏﨤逸遧郞都鄕鄧釚釗釞釭釮釤釥鈆鈐鈊鈺鉀鈼鉎鉙鉑鈹鉧銧鉷鉸鋧鋗鋙鋐﨧鋕" ++
        "鋠鋓錥錡鋻﨨錞鋿錝錂鍰鍗鎤鏆鏞鏸鐱鑅鑈閒隆﨩隝隯霳霻靃靍靏靑靕顗顥飯飼餧館馞驎髙髜魵魲鮏" ++
        "鮱鮻鰀鵰鵫鶴鸙黑"),
    (8634,
      "ⅰⅱⅲⅳⅴⅵⅶⅷⅸⅹ￢￤＇＂"),
    (10716,
      "ⅰⅱⅲⅳⅴⅵⅶⅷⅸⅹⅠⅡⅢⅣⅤⅥⅦⅧⅨⅩ￢￤＇＂㈱№℡∵纊褜鍈銈蓜俉炻昱棈鋹曻彅丨仡仼伀" ++
        "伃伹佖侒侊侚侔俍偀倢俿倞偆偰偂傔僴僘兊兤冝冾凬刕劜劦勀勛匀匇匤卲厓厲叝﨎咜咊咩哿喆坙坥垬" ++
        "埈埇﨏塚增墲夋奓奛奝奣妤妺孖寀甯寘寬尞岦岺峵崧嵓﨑嵂嵭嶸嶹巐弡弴彧德忞恝悅悊惞惕愠惲愑愷" ++
        "愰憘戓抦揵摠撝擎敎昀昕昻昉昮昞昤晥晗晙晴晳暙暠暲暿曺朎朗杦枻桒柀栁桄棏﨓楨﨔榘槢樰橫橆橳" ++
        "橾櫢櫤毖氿汜沆汯泚洄涇浯涖涬淏淸淲淼渹湜渧渼溿澈澵濵瀅瀇瀨炅炫焏焄煜煆煇凞燁燾犱犾猤猪獷" ++
        "玽珉珖珣珒琇珵琦琪琩琮瑢璉璟甁畯皂皜皞皛皦益睆劯砡硎硤硺礰礼神祥禔福禛竑竧靖竫箞精絈絜綷" ++
        "綠緖繒罇羡羽茁荢荿菇菶葈蒴蕓蕙蕫﨟薰蘒﨡蠇裵訒訷詹誧誾諟諸諶譓譿賰賴贒赶﨣軏﨤逸遧郞都鄕" ++
        "鄧釚釗釞釭釮釤釥鈆鈐鈊鈺鉀鈼鉎鉙鉑鈹鉧銧鉷鉸鋧鋗鋙鋐﨧鋕鋠鋓錥錡鋻﨨錞鋿錝錂鍰鍗鎤鏆鏞鏸" ++
        "鐱鑅鑈閒隆﨩隝隯霳霻靃靍靏靑靕顗顥飯飼餧館馞驎髙髜魵魲鮏鮱鮻鰀鵰鵫鶴鸙黑")]

/-- The character of a shifted pair in the code page. -/
def windowsPair? (lead trail : UInt8) : Option Char :=
  privatePair? lead trail <|> do
    let place ← shifted.place? lead trail
    changedSigns.lookup place <|> jisX0208.char? place <|> do
      let run ← furtherPairs.find? fun r => r.1 ≤ place && place < r.1 + r.2.length
      charAt? run.2 (place - run.1)

/-- The character of a single byte in the code page: ASCII or a syllable of half the width. -/
def windowsByte? (b : UInt8) : Option Char := asciiByte? b <|> halfWidth? b

/-- Shifted pairs with further characters. -/
def windows932 : Charset := ⟨["CP932"], stepwise (doubleByte windowsByte? windowsPair?)⟩

/-- What bytes stand for between two marks. -/
inductive Mode where
  | ascii
  /-- Single bytes of the lower half of JIS X 0201. -/
  | roman
  /-- Pairs. -/
  | kanji
  deriving DecidableEq, Repr

/-- The text of bytes that start in some mode. -/
def switched? : Mode → Bytes → Option (List Char)
  | _, [] => some []
  | _, 0x1B :: 0x28 :: 0x42 :: rest => switched? .ascii rest
  | _, 0x1B :: 0x28 :: 0x4A :: rest => switched? .roman rest
  | _, 0x1B :: 0x24 :: 0x40 :: rest => switched? .kanji rest
  | _, 0x1B :: 0x24 :: 0x42 :: rest => switched? .kanji rest
  | .ascii, b :: rest => do
    let c ← asciiByte? b
    return c :: (← switched? .ascii rest)
  | .roman, b :: rest => do
    discard (asciiByte? b)
    let c ← halfWidth? b
    return c :: (← switched? .roman rest)
  | .kanji, lead :: trail :: rest => do
    let place ← PairRanges.place? ⟨[(0x21, 0x7E)], [(0x21, 0x7E)]⟩ lead trail
    let c ← jisX0208.char? place
    return c :: (← switched? .kanji rest)
  | .kanji, [_] => none

/-- Modes between marks. -/
def iso2022Jp : Charset := ⟨["ISO-2022-JP", "CSISO2022JP"], switched? .ascii⟩

/-- The Japanese sets. -/
def all : List Charset := [jisX0201, eucJp, shiftJis, windows932, iso2022Jp]

end Japanese

end ImageMetadata.Charset
