import ImageMetadata.Charset.Basic

/-!
# Code pages

Sets that put printable characters into the whole upper half. In the one for Hebrew, points that
follow a letter are put together with it where there is a character for both.
-/

namespace ImageMetadata.Charset

namespace CodePage

/-- Latin for Central Europe. -/
def windows1250 : Charset :=
  ofTable ["WINDOWS-1250", "CP1250", "MS-EE"] 0x80
    ("€�‚�„…†‡�‰Š‹ŚŤŽŹ�‘’“”•–—�™š›śťžź\u00a0ˇ˘Ł¤Ą¦§¨©Ş«¬\u00ad®Ż°±˛ł´µ¶·¸ąş»Ľ˝ľż" ++
      "ŔÁÂĂÄĹĆÇČÉĘËĚÍÎĎĐŃŇÓÔŐÖ×ŘŮÚŰÜÝŢßŕáâăäĺćçčéęëěíîďđńňóôőö÷řůúűüýţ˙")

/-- Cyrillic. -/
def windows1251 : Charset :=
  ofTable ["WINDOWS-1251", "CP1251", "MS-CYRL"] 0x80
    ("ЂЃ‚ѓ„…†‡€‰Љ‹ЊЌЋЏђ‘’“”•–—�™љ›њќћџ\u00a0ЎўЈ¤Ґ¦§Ё©Є«¬\u00ad®Ї°±Ііґµ¶·ё№є»јЅѕї" ++
      "АБВГДЕЖЗИЙКЛМНОПРСТУФХЦЧШЩЪЫЬЭЮЯабвгдежзийклмнопрстуфхцчшщъыьэюя")

/-- Latin for Western Europe. -/
def windows1252 : Charset :=
  ofTable ["WINDOWS-1252", "CP1252", "MS-ANSI"] 0x80
    ("€�‚ƒ„…†‡ˆ‰Š‹Œ�Ž��‘’“”•–—˜™š›œ�žŸ\u00a0¡¢£¤¥¦§¨©ª«¬\u00ad®¯°±²³´µ¶·¸¹º»¼½¾¿" ++
      "ÀÁÂÃÄÅÆÇÈÉÊËÌÍÎÏÐÑÒÓÔÕÖ×ØÙÚÛÜÝÞßàáâãäåæçèéêëìíîïðñòóôõö÷øùúûüýþÿ")

/-- Greek. -/
def windows1253 : Charset :=
  ofTable ["WINDOWS-1253", "CP1253", "MS-GREEK"] 0x80
    ("€�‚ƒ„…†‡�‰�‹�����‘’“”•–—�™�›����\u00a0΅Ά£¤¥¦§¨©�«¬\u00ad®―°±²³΄µ¶·ΈΉΊ»Ό½ΎΏ" ++
      "ΐΑΒΓΔΕΖΗΘΙΚΛΜΝΞΟΠΡ�ΣΤΥΦΧΨΩΪΫάέήίΰαβγδεζηθικλμνξοπρςστυφχψωϊϋόύώ")

/-- Latin with the letters of Turkish. -/
def windows1254 : Charset :=
  ofTable ["WINDOWS-1254", "CP1254", "MS-TURK"] 0x80
    ("€�‚ƒ„…†‡ˆ‰Š‹Œ����‘’“”•–—˜™š›œ��Ÿ\u00a0¡¢£¤¥¦§¨©ª«¬\u00ad®¯°±²³´µ¶·¸¹º»¼½¾¿" ++
      "ÀÁÂÃÄÅÆÇÈÉÊËÌÍÎÏĞÑÒÓÔÕÖ×ØÙÚÛÜİŞßàáâãäåæçèéêëìíîïğñòóôõö÷øùúûüışÿ")

/-- Arabic. -/
def windows1256 : Charset :=
  ofTable ["WINDOWS-1256", "CP1256", "MS-ARAB"] 0x80
    ("€\u067e‚ƒ„…†‡ˆ‰\u0679‹Œ\u0686\u0698\u0688\u06af‘’“”•–—\u06a9™\u0691›œ\u200c\u200d\u06ba" ++
      "\u00a0،¢£¤¥¦§¨©\u06be«¬\u00ad®¯°±²³´µ¶·¸¹\u061b»¼½¾\u061f" ++
      "\u06c1\u0621\u0622\u0623\u0624\u0625\u0626\u0627\u0628\u0629\u062a\u062b\u062c\u062d" ++
      "\u062e\u062f\u0630\u0631\u0632\u0633\u0634\u0635\u0636×\u0637\u0638\u0639\u063a\u0640" ++
      "\u0641\u0642\u0643" ++
      "à\u0644â\u0645\u0646\u0647\u0648çèéêë\u0649\u064aîï\u064b\u064c\u064d\u064eô\u064f\u0650÷" ++
      "\u0651ù\u0652ûü\u200e\u200f\u06d2")

/-- Latin for the Baltic languages. -/
def windows1257 : Charset :=
  ofTable ["WINDOWS-1257", "CP1257", "WINBALTRIM"] 0x80
    ("€�‚�„…†‡�‰�‹�¨ˇ¸�‘’“”•–—�™�›�¯˛�\u00a0�¢£¤�¦§Ø©Ŗ«¬\u00ad®Æ°±²³´µ¶·ø¹ŗ»¼½¾æ" ++
      "ĄĮĀĆÄÅĘĒČÉŹĖĢĶĪĻŠŃŅÓŌÕÖ×ŲŁŚŪÜŻŽßąįāćäåęēčéźėģķīļšńņóōõö÷ųłśūüżž˙")

/-- Thai. -/
def thai874 : Charset :=
  ofTable ["CP874", "WINDOWS-874"] 0x80
    ("€����…�����������‘’“”•–—��������" ++
      "\u00a0กขฃคฅฆงจฉชซฌญฎฏฐฑฒณดตถทธนบปผฝพฟ" ++
      "ภมยรฤลฦวศษสหฬอฮฯะ\u0e31าำ\u0e34\u0e35\u0e36\u0e37\u0e38\u0e39\u0e3a����฿" ++
      "เแโใไๅๆ\u0e47\u0e48\u0e49\u0e4a\u0e4b\u0e4c\u0e4d\u0e4e๏๐๑๒๓๔๕๖๗๘๙๚๛")

/-- Lao. -/
def lao1133 : Charset :=
  ofTable ["CP1133", "IBM-CP1133"] 0xA0
    ("�ກຂຄງຈສຊຍດຕຖທນບປຜຝພຟມຢຣລວຫອຮ���ຯ" ++
      "ະາຳ\u0eb4\u0eb5\u0eb6\u0eb7\u0eb8\u0eb9\u0ebc\u0eb1\u0ebbຽ���ເແໂໃໄ\u0ec8\u0ec9\u0eca" ++
      "\u0ecb\u0ecc\u0ecdໆ�ໜໝ₭" ++
      "����������������໐໑໒໓໔໕໖໗໘໙��¢¬¦\u00a0")

/-- Latin for Western Europe, with characters for boxes. -/
def ibm850 : Charset :=
  ofTable ["CP850", "IBM850", "CSPC850MULTILINGUAL"] 0x80
    ("ÇüéâäàåçêëèïîìÄÅÉæÆôöòûùÿÖÜø£Ø×ƒáíóúñÑªº¿®¬½¼¡«»░▒▓│┤ÁÂÀ©╣║╗╝¢¥┐" ++
      "└┴┬├─┼ãÃ╚╔╩╦╠═╬¤ðÐÊËÈıÍÎÏ┘┌█▄¦Ì▀ÓßÔÒõÕµþÞÚÛÙýÝ¯´\u00ad±‗¾¶§÷¸°¨·¹³²■\u00a0")

/-- Hebrew, with characters for boxes. -/
def ibm862 : Charset :=
  ofTable ["CP862", "IBM862", "CSPC862LATINHEBREW"] 0x80
    ("\u05d0\u05d1\u05d2\u05d3\u05d4\u05d5\u05d6\u05d7\u05d8\u05d9\u05da\u05db\u05dc\u05dd" ++
      "\u05de\u05df\u05e0\u05e1\u05e2\u05e3\u05e4\u05e5\u05e6\u05e7\u05e8\u05e9\u05ea¢£¥₧ƒ" ++
      "áíóúñÑªº¿⌐¬½¼¡«»░▒▓│┤╡╢╖╕╣║╗╝╜╛┐" ++
      "└┴┬├─┼╞╟╚╔╩╦╠═╬╧╨╤╥╙╘╒╓╫╪┘┌█▄▌▐▀" ++
      "αßΓπΣσµτΦΘΩδ∞φε∩≡±≥≤⌠⌡÷≈°∙·√ⁿ²■\u00a0")

/-- Cyrillic, with characters for boxes. -/
def ibm866 : Charset :=
  ofTable ["CP866", "IBM866", "CSIBM866"] 0x80
    ("АБВГДЕЖЗИЙКЛМНОПРСТУФХЦЧШЩЪЫЬЭЮЯабвгдежзийклмноп░▒▓│┤╡╢╖╕╣║╗╝╜╛┐" ++
      "└┴┬├─┼╞╟╚╔╩╦╠═╬╧╨╤╥╙╘╒╓╫╪┘┌█▄▌▐▀рстуфхцчшщъыьэюяЁёЄєЇїЎў°∙·√№¤■\u00a0")

/-- Points of Hebrew that are put together with the letter before them. -/
def hebrewSequences : List (List Char × Char) :=
  [(['\u05e9', '\u05bc', '\u05c1'], '\ufb2c'),
    (['\u05e9', '\u05bc', '\u05c2'], '\ufb2d'),
    (['\u05e9', '\u05c1', '\u05bc'], '\ufb2c'),
    (['\u05e9', '\u05c2', '\u05bc'], '\ufb2d')] ++
  withMark '\u05b4' "\u05d9" "\ufb1d" ++
  withMark '\u05b7' "\u05f2\u05d0" "\ufb1f\ufb2e" ++
  withMark '\u05b8' "\u05d0" "\ufb2f" ++
  withMark '\u05b9' "\u05d5" "\ufb4b" ++
  withMark '\u05bc'
    ("\u05d0\u05d1\u05d2\u05d3\u05d4\u05d5\u05d6\u05d8\u05d9\u05da\u05db\u05dc\u05de\u05e0" ++
      "\u05e1\u05e3\u05e4\u05e6\u05e7\u05e8\u05e9\u05ea")
    ("\ufb30\ufb31\ufb32\ufb33\ufb34\ufb35\ufb36\ufb38\ufb39\ufb3a\ufb3b\ufb3c\ufb3e\ufb40" ++
      "\ufb41\ufb43\ufb44\ufb46\ufb47\ufb48\ufb49\ufb4a") ++
  withMark '\u05bf' "\u05d1\u05db\u05e4" "\ufb4c\ufb4d\ufb4e" ++
  withMark '\u05c1' "\u05e9" "\ufb2a" ++
  withMark '\u05c2' "\u05e9" "\ufb2b"

/-- The upper half of the set for Hebrew with points. -/
def hebrewPoints : String :=
  "€�‚ƒ„…†‡ˆ‰�‹�����‘’“”•–—˜™�›����" ++
  "\u00a0¡¢£₪¥¦§¨©×«¬\u00ad®¯°±²³´µ¶·¸¹÷»¼½¾¿" ++
  "\u05b0\u05b1\u05b2\u05b3\u05b4\u05b5\u05b6\u05b7\u05b8\u05b9�\u05bb\u05bc\u05bd\u05be" ++
  "\u05bf\u05c0\u05c1\u05c2\u05c3\u05f0\u05f1\u05f2\u05f3\u05f4�������" ++
  "\u05d0\u05d1\u05d2\u05d3\u05d4\u05d5\u05d6\u05d7\u05d8\u05d9\u05da\u05db\u05dc\u05dd" ++
  "\u05de\u05df\u05e0\u05e1\u05e2\u05e3\u05e4\u05e5\u05e6\u05e7\u05e8\u05e9\u05ea��\u200e" ++
  "\u200f"

/-- Hebrew with points. -/
def windows1255 : Charset :=
  let table : ByteTable := { start := 0x80, upper := hebrewPoints }
  ⟨["WINDOWS-1255", "CP1255", "MS-HEBR"], fun bytes =>
    (table.decode? bytes).map (compose hebrewSequences)⟩

/-- The code pages. -/
def all : List Charset :=
  [windows1250, windows1251, windows1252, windows1253, windows1254, windows1256, windows1257,
    thai874, lao1133, ibm850, ibm862, ibm866, windows1255]

end CodePage

end ImageMetadata.Charset
