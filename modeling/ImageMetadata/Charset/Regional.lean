import ImageMetadata.Charset.Basic

/-!
# Regional sets

Sets for one language or one script that belong to none of the large families.
-/

namespace ImageMetadata.Charset

namespace Regional

/-- KOI-8 for Russian. -/
def koi8r : Charset :=
  ofTable ["KOI8-R", "CSKOI8R"] 0x80
    ("─│┌┐└┘├┤┬┴┼▀▄█▌▐░▒▓⌠■∙√≈≤≥\u00a0⌡°²·÷═║╒ё╓╔╕╖╗╘╙╚╛╜╝╞╟╠╡Ё╢╣╤╥╦╧╨╩╪╫╬©" ++
      "юабцдефгхийклмнопярстужвьызшэщчъЮАБЦДЕФГХИЙКЛМНОПЯРСТУЖВЬЫЗШЭЩЧЪ")

/-- KOI-8 for Ukrainian. -/
def koi8u : Charset :=
  ofTable ["KOI8-U"] 0x80
    ("─│┌┐└┘├┤┬┴┼▀▄█▌▐░▒▓⌠■∙√≈≤≥\u00a0⌡°²·÷═║╒ёє╔ії╗╘╙╚╛ґ╝╞╟╠╡ЁЄ╣ІЇ╦╧╨╩╪Ґ╬©" ++
      "юабцдефгхийклмнопярстужвьызшэщчъЮАБЦДЕФГХИЙКЛМНОПЯРСТУЖВЬЫЗШЭЩЧЪ")

/-- KOI-8 for Russian, Ukrainian and Belarusian. -/
def koi8ru : Charset :=
  ofTable ["KOI8-RU"] 0x80
    ("─│┌┐└┘├┤┬┴┼▀▄█▌▐░▒▓“■∙”—№™\u00a0»®«·¤═║╒ёє╔ії╗╘╙╚╛ґў╞╟╠╡ЁЄ╣ІЇ╦╧╨╩╪ҐЎ©" ++
      "юабцдефгхийклмнопярстужвьызшэщчъЮАБЦДЕФГХИЙКЛМНОПЯРСТУЖВЬЫЗШЭЩЧЪ")

/-- KOI-8 for Tajik. -/
def koi8t : Charset :=
  ofTable ["KOI8-T"] 0x80
    ("қғ‚Ғ„…†‡�‰ҳ‹ҲҷҶ�Қ‘’“”•–—�™�›�����ӯӮё¤ӣ¦§���«¬\u00ad®�°±²Ё�Ӣ¶·�№�»���©" ++
      "юабцдефгхийклмнопярстужвьызшэщчъЮАБЦДЕФГХИЙКЛМНОПЯРСТУЖВЬЫЗШЭЩЧЪ")

/-- Cyrillic for languages of Asia. -/
def asianCyrillic : Charset :=
  ofTable ["PT154", "PTCP154", "CP154", "CYRILLIC-ASIAN", "CSPTCP154"] 0x80
    ("ҖҒӮғ„…ҶҮҲүҠӢҢҚҺҸҗ‘’“”•–—ҳҷҡӣңқһҹ\u00a0ЎўЈӨҘҰ§Ё©Ә«¬ӯ®Ҝ°ұІіҙө¶·ё№ә»јҪҫҝ" ++
      "АБВГДЕЖЗИЙКЛМНОПРСТУФХЦЧШЩЪЫЬЭЮЯабвгдежзийклмнопрстуфхцчшщъыьэюя")

/-- Cyrillic for Kazakh. -/
def kazakh : Charset :=
  ofTable ["RK1048", "STRK1048-2002", "KZ-1048", "CSKZ1048"] 0x80
    ("ЂЃ‚ѓ„…†‡€‰Љ‹ЊҚҺЏђ‘’“”•–—�™љ›њқһџ\u00a0ҰұӘ¤Ө¦§Ё©Ғ«¬\u00ad®Ү°±Ііөµ¶·ё№ғ»әҢңү" ++
      "АБВГДЕЖЗИЙКЛМНОПРСТУФХЦЧШЩЪЫЬЭЮЯабвгдежзийклмнопрстуфхцчшщъыьэюя")

/-- Armenian. -/
def armenian : Charset :=
  ofTable ["ARMSCII-8"] 0xA0
    ("\u00a0�և։)(»«—.՝,-֊…՜՛՞ԱաԲբԳգԴդԵեԶզԷէԸըԹթԺժԻիԼլԽխԾծԿկՀհՁձՂղՃճՄմՅյՆնՇշ" ++
      "ՈոՉչՊպՋջՌռՍսՎվՏտՐրՑցՒւՓփՔքՕօՖֆ՚")

/-- Georgian, with the letters from 0xC0 on. -/
def georgianAcademy : Charset :=
  ofTable ["GEORGIAN-ACADEMY"] 0x80
    ("\u0080\u0081‚ƒ„…†‡ˆ‰Š‹Œ\u008d\u008e\u008f\u0090‘’“”•–—˜™š›œ\u009d\u009eŸ" ++
      "\u00a0¡¢£¤¥¦§¨©ª«¬\u00ad®¯°±²³´µ¶·¸¹º»¼½¾¿" ++
      "აბგდევზთიკლმნოპჟრსტუფქღყშჩცძწჭხჯ" ++
      "ჰჱჲჳჴჵჶçèéêëìíîïðñòóôõö÷øùúûüýþÿ")

/-- Georgian, in another order. -/
def georgianPs : Charset :=
  ofTable ["GEORGIAN-PS"] 0x80
    ("\u0080\u0081‚ƒ„…†‡ˆ‰Š‹Œ\u008d\u008e\u008f\u0090‘’“”•–—˜™š›œ\u009d\u009eŸ" ++
      "\u00a0¡¢£¤¥¦§¨©ª«¬\u00ad®¯°±²³´µ¶·¸¹º»¼½¾¿" ++
      "აბგდევზჱთიკლმნჲოპჟრსტჳუფქღყშჩცძწ" ++
      "ჭხჴჯჰჵæçèéêëìíîïðñòóôõö÷øùúûüýþÿ")

/-- Thai. -/
def thai620 : Charset :=
  ofTable ["TIS-620", "TIS620", "TIS620-0", "TIS620.2529-1", "TIS620.2533-0", "TIS620.2533-1",
    "ISO-IR-166"] 0x80
    ("��������������������������������" ++
      "�กขฃคฅฆงจฉชซฌญฎฏฐฑฒณดตถทธนบปผฝพฟ" ++
      "ภมยรฤลฦวศษสหฬอฮฯะ\u0e31าำ\u0e34\u0e35\u0e36\u0e37\u0e38\u0e39\u0e3a����฿" ++
      "เแโใไๅๆ\u0e47\u0e48\u0e49\u0e4a\u0e4b\u0e4c\u0e4d\u0e4e๏๐๑๒๓๔๕๖๗๘๙๚๛")

/-- Latin for Western Europe, as printers use it. -/
def roman8 : Charset :=
  ofTable ["HP-ROMAN8", "ROMAN8", "R8", "CSHPROMAN8"] 0xA0
    ("\u00a0ÀÂÈÊËÎÏ´ˋˆ¨˜ÙÛ₤¯Ýý°ÇçÑñ¡¿¤£¥§ƒ¢âêôûáéóúàèòùäëöüÅîØÆåíøæÄìÖÜÉïßÔ" ++
      "ÁÃãÐðÍÌÓÒÕõŠšÚŸÿÞþ·µ¶¾—¼½ªº«■»±")

/-- Latin with typographic signs. -/
def nextstep : Charset :=
  ofTable ["NEXTSTEP"] 0x80
    ("\u00a0ÀÁÂÃÄÅÇÈÉÊËÌÍÎÏÐÑÒÓÔÕÖÙÚÛÜÝÞµ×÷©¡¢£⁄¥ƒ§¤’“«‹›ﬁﬂ®–†‡·¦¶•‚„”»…‰¬¿" ++
      "¹ˋ´ˆ˜¯˘˙¨²˚¸³˝˛ˇ—±¼½¾àáâãäåçèéêëìÆíªîïðñŁØŒºòóôõöæùúûıüýłøœßþÿ")

/-- The regional sets. -/
def all : List Charset :=
  [koi8r, koi8u, koi8ru, koi8t, asianCyrillic, kazakh, armenian, georgianAcademy, georgianPs,
    thai620, roman8, nextstep]

end Regional

end ImageMetadata.Charset
