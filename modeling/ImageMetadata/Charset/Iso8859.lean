import ImageMetadata.Charset.Basic
import ImageMetadata.Text.Latin1

/-!
# ISO 8859

ASCII and the sets that extend it by one more alphabet. The upper half starts with control
characters, which have the numbers of their bytes.
-/

namespace ImageMetadata.Charset

namespace Iso8859

/-- ASCII, which leaves the upper half empty. -/
def ascii : Charset :=
  ofTable ["US-ASCII", "ASCII", "ISO646-US", "ISO-IR-6", "ANSI_X3.4-1968", "ANSI_X3.4-1986",
    "CP367", "IBM367", "US", "CSASCII"] 0x80 ""

/-- Latin for Western Europe, where each byte is the number of its character. -/
def latin1 : Charset :=
  ofTable ["ISO-8859-1", "ISO_8859-1", "ISO8859-1", "ISO-IR-100", "ISO-LATIN-1", "LATIN1", "L1",
    "CSISOLATIN1", "CP819", "IBM819"] 0x100 ""

/-- Latin for Central Europe. -/
def latin2 : Charset :=
  ofTable ["ISO-8859-2", "ISO_8859-2", "ISO8859-2", "ISO-IR-101", "ISO-LATIN-2", "LATIN2", "L2",
    "CSISOLATIN2"] 0xA0
    ("\u00a0Ą˘Ł¤ĽŚ§¨ŠŞŤŹ\u00adŽŻ°ą˛ł´ľśˇ¸šşťź˝žżŔÁÂĂÄĹĆÇČÉĘËĚÍÎĎĐŃŇÓÔŐÖ×ŘŮÚŰÜÝŢß" ++
      "ŕáâăäĺćçčéęëěíîďđńňóôőö÷řůúűüýţ˙")

/-- Latin for Southern Europe. -/
def latin3 : Charset :=
  ofTable ["ISO-8859-3", "ISO_8859-3", "ISO8859-3", "ISO-IR-109", "LATIN3", "L3", "CSISOLATIN3"]
    0xA0
    ("\u00a0Ħ˘£¤�Ĥ§¨İŞĞĴ\u00ad�Ż°ħ²³´µĥ·¸ışğĵ½�żÀÁÂ�ÄĊĈÇÈÉÊËÌÍÎÏ�ÑÒÓÔĠÖ×ĜÙÚÛÜŬŜß" ++
      "àáâ�äċĉçèéêëìíîï�ñòóôġö÷ĝùúûüŭŝ˙")

/-- Latin for Northern Europe. -/
def latin4 : Charset :=
  ofTable ["ISO-8859-4", "ISO_8859-4", "ISO8859-4", "ISO-IR-110", "LATIN4", "L4", "CSISOLATIN4"]
    0xA0
    ("\u00a0ĄĸŖ¤ĨĻ§¨ŠĒĢŦ\u00adŽ¯°ą˛ŗ´ĩļˇ¸šēģŧŊžŋĀÁÂÃÄÅÆĮČÉĘËĖÍÎĪĐŅŌĶÔÕÖ×ØŲÚÛÜŨŪß" ++
      "āáâãäåæįčéęëėíîīđņōķôõö÷øųúûüũū˙")

/-- Cyrillic. -/
def cyrillic : Charset :=
  ofTable ["ISO-8859-5", "ISO_8859-5", "ISO8859-5", "ISO-IR-144", "CYRILLIC", "CSISOLATINCYRILLIC"]
    0xA0
    ("\u00a0ЁЂЃЄЅІЇЈЉЊЋЌ\u00adЎЏАБВГДЕЖЗИЙКЛМНОПРСТУФХЦЧШЩЪЫЬЭЮЯабвгдежзийклмноп" ++
      "рстуфхцчшщъыьэюя№ёђѓєѕіїјљњћќ§ўџ")

/-- Arabic. -/
def arabic : Charset :=
  ofTable ["ISO-8859-6", "ISO_8859-6", "ISO8859-6", "ISO-IR-127", "ECMA-114", "ASMO-708", "ARABIC",
    "CSISOLATINARABIC"] 0xA0
    ("\u00a0���¤�������،\u00ad�������������\u061b���\u061f" ++
      "�\u0621\u0622\u0623\u0624\u0625\u0626\u0627\u0628\u0629\u062a\u062b\u062c\u062d\u062e" ++
      "\u062f\u0630\u0631\u0632\u0633\u0634\u0635\u0636\u0637\u0638\u0639\u063a�����" ++
      "\u0640\u0641\u0642\u0643\u0644\u0645\u0646\u0647\u0648\u0649\u064a\u064b\u064c\u064d" ++
      "\u064e\u064f\u0650\u0651\u0652")

/-- Greek. -/
def greek : Charset :=
  ofTable ["ISO-8859-7", "ISO_8859-7", "ISO8859-7", "ISO-IR-126", "ECMA-118", "ELOT_928", "GREEK8",
    "GREEK", "CSISOLATINGREEK"] 0xA0
    ("\u00a0‘’£€₯¦§¨©ͺ«¬\u00ad�―°±²³΄΅Ά·ΈΉΊ»Ό½ΎΏΐΑΒΓΔΕΖΗΘΙΚΛΜΝΞΟΠΡ�ΣΤΥΦΧΨΩΪΫάέήί" ++
      "ΰαβγδεζηθικλμνξοπρςστυφχψωϊϋόύώ")

/-- Hebrew. -/
def hebrew : Charset :=
  ofTable ["ISO-8859-8", "ISO_8859-8", "ISO8859-8", "ISO-IR-138", "HEBREW", "CSISOLATINHEBREW"] 0xA0
    ("\u00a0�¢£¤¥¦§¨©×«¬\u00ad®¯°±²³´µ¶·¸¹÷»¼½¾�" ++
      "�������������������������������‗" ++
      "\u05d0\u05d1\u05d2\u05d3\u05d4\u05d5\u05d6\u05d7\u05d8\u05d9\u05da\u05db\u05dc\u05dd" ++
      "\u05de\u05df\u05e0\u05e1\u05e2\u05e3\u05e4\u05e5\u05e6\u05e7\u05e8\u05e9\u05ea��\u200e" ++
      "\u200f")

/-- Latin with the letters of Turkish. -/
def latin5 : Charset :=
  ofTable ["ISO-8859-9", "ISO_8859-9", "ISO8859-9", "ISO-IR-148", "LATIN5", "L5", "CSISOLATIN5"]
    0xA0
    ("\u00a0¡¢£¤¥¦§¨©ª«¬\u00ad®¯°±²³´µ¶·¸¹º»¼½¾¿ÀÁÂÃÄÅÆÇÈÉÊËÌÍÎÏĞÑÒÓÔÕÖ×ØÙÚÛÜİŞß" ++
      "àáâãäåæçèéêëìíîïğñòóôõö÷øùúûüışÿ")

/-- Latin for the Nordic languages. -/
def latin6 : Charset :=
  ofTable ["ISO-8859-10", "ISO_8859-10", "ISO8859-10", "ISO-IR-157", "LATIN6", "L6", "CSISOLATIN6"]
    0xA0
    ("\u00a0ĄĒĢĪĨĶ§ĻĐŠŦŽ\u00adŪŊ°ąēģīĩķ·ļđšŧž―ūŋĀÁÂÃÄÅÆĮČÉĘËĖÍÎÏÐŅŌÓÔÕÖŨØŲÚÛÜÝÞß" ++
      "āáâãäåæįčéęëėíîïðņōóôõöũøųúûüýþĸ")

/-- Thai. -/
def thai : Charset :=
  ofTable ["ISO-8859-11", "ISO_8859-11", "ISO8859-11"] 0xA0
    ("\u00a0กขฃคฅฆงจฉชซฌญฎฏฐฑฒณดตถทธนบปผฝพฟ" ++
      "ภมยรฤลฦวศษสหฬอฮฯะ\u0e31าำ\u0e34\u0e35\u0e36\u0e37\u0e38\u0e39\u0e3a����฿" ++
      "เแโใไๅๆ\u0e47\u0e48\u0e49\u0e4a\u0e4b\u0e4c\u0e4d\u0e4e๏๐๑๒๓๔๕๖๗๘๙๚๛")

/-- Latin for the Baltic languages. -/
def latin7 : Charset :=
  ofTable ["ISO-8859-13", "ISO_8859-13", "ISO8859-13", "ISO-IR-179", "LATIN7", "L7"] 0xA0
    ("\u00a0”¢£¤„¦§Ø©Ŗ«¬\u00ad®Æ°±²³“µ¶·ø¹ŗ»¼½¾æĄĮĀĆÄÅĘĒČÉŹĖĢĶĪĻŠŃŅÓŌÕÖ×ŲŁŚŪÜŻŽß" ++
      "ąįāćäåęēčéźėģķīļšńņóōõö÷ųłśūüżž’")

/-- Latin with the letters of the Celtic languages. -/
def latin8 : Charset :=
  ofTable ["ISO-8859-14", "ISO_8859-14", "ISO8859-14", "ISO-IR-199", "LATIN8", "L8", "ISO-CELTIC"]
    0xA0
    ("\u00a0Ḃḃ£ĊċḊ§Ẁ©ẂḋỲ\u00ad®ŸḞḟĠġṀṁ¶ṖẁṗẃṠỳẄẅṡÀÁÂÃÄÅÆÇÈÉÊËÌÍÎÏŴÑÒÓÔÕÖṪØÙÚÛÜÝŶß" ++
      "àáâãäåæçèéêëìíîïŵñòóôõöṫøùúûüýŷÿ")

/-- Latin for Western Europe with the euro sign. -/
def latin9 : Charset :=
  ofTable ["ISO-8859-15", "ISO_8859-15", "ISO8859-15", "ISO-IR-203", "LATIN-9"] 0xA0
    ("\u00a0¡¢£€¥Š§š©ª«¬\u00ad®¯°±²³Žµ¶·ž¹º»ŒœŸ¿ÀÁÂÃÄÅÆÇÈÉÊËÌÍÎÏÐÑÒÓÔÕÖ×ØÙÚÛÜÝÞß" ++
      "àáâãäåæçèéêëìíîïðñòóôõö÷øùúûüýþÿ")

/-- Latin for South-Eastern Europe. -/
def latin10 : Charset :=
  ofTable ["ISO-8859-16", "ISO_8859-16", "ISO8859-16", "ISO-IR-226", "LATIN10", "L10"] 0xA0
    ("\u00a0ĄąŁ€„Š§š©Ș«Ź\u00adźŻ°±ČłŽ”¶·žčș»ŒœŸżÀÁÂĂÄĆÆÇÈÉÊËÌÍÎÏĐŃÒÓÔŐÖŚŰÙÚÛÜĘȚß" ++
      "àáâăäćæçèéêëìíîïđńòóôőöśűùúûüęțÿ")

/-- No bytes are refused, and each one is the number of its character. -/
theorem latin1_decode? (bytes : Bytes) :
    latin1.decode? bytes = some (Text.Latin1.decode bytes) :=
  ByteTable.decode?_of_lt rfl fun b _ => b.toNat_lt

/-- The sets of the family. -/
def all : List Charset :=
  [ascii, latin1, latin2, latin3, latin4, cyrillic, arabic, greek, hebrew, latin5, latin6, thai,
    latin7, latin8, latin9, latin10]

end Iso8859

end ImageMetadata.Charset
