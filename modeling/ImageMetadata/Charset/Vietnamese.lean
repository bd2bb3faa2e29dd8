import ImageMetadata.Charset.Basic

/-!
# Vietnamese sets

Some sets store the mark of a tone behind its letter, and both are put together to one character.
Others also use bytes of control characters for letters.
-/

namespace ImageMetadata.Charset

namespace Vietnamese

/-- The marks of tones that are put together with the letter before them. -/
def toneSequences : List (List Char × Char) :=
  withMark '\u0300'
    "AEINOUWYaeinouwy¨ÂÊÔÜâêôüĂăƠơƯư"
    "ÀÈÌǸÒÙẀỲàèìǹòùẁỳ῭ẦỀỒǛầềồǜẰằỜờỪừ" ++
  withMark '\u0301'
    "ACEGIKLMNOPRSUWYZacegiklmnoprsuwyz¨ÂÅÆÇÊÏÔÕØÜâåæçêïôõøüĂăŨũƠơƯư"
    "ÁĆÉǴÍḰĹḾŃÓṔŔŚÚẂÝŹáćéǵíḱĺḿńóṕŕśúẃýź΅ẤǺǼḈẾḮỐṌǾǗấǻǽḉếḯốṍǿǘẮắṸṹỚớỨứ" ++
  withMark '\u0303'
    "AEINOUVYaeinouvyÂÊÓÔÖÚâêóôöúĂăƠơƯư"
    "ÃẼĨÑÕŨṼỸãẽĩñõũṽỹẪỄṌỖṎṸẫễṍỗṏṹẴẵỠỡỮữ" ++
  withMark '\u0309'
    "AEIOUYaeiouyÂÊÔâêôĂăƠơƯư"
    "ẢẺỈỎỦỶảẻỉỏủỷẨỂỔẩểổẲẳỞởỬử" ++
  withMark '\u0323'
    "ABDEHIKLMNORSTUVWYZabdehiklmnorstuvwyzÂÊÔâêôĂăƠơƯư"
    "ẠḄḌẸḤỊḲḶṂṆỌṚṢṬỤṾẈỴẒạḅḍẹḥịḳḷṃṇọṛṣṭụṿẉỵẓẬỆỘậệộẶặỢợỰự"

/-- The code page with marks of tones. -/
def windows1258Table : ByteTable where
  start := 0x80
  upper :=
    "€�‚ƒ„…†‡ˆ‰�‹Œ����‘’“”•–—˜™�›œ��Ÿ\u00a0¡¢£¤¥¦§¨©ª«¬\u00ad®¯°±²³´µ¶·¸¹º»¼½¾¿" ++
    "ÀÁÂĂÄÅÆÇÈÉÊË\u0300ÍÎÏĐÑ\u0309ÓÔƠÖ×ØÙÚÛÜƯ\u0303ßàáâăäåæçèéêë\u0301íîïđñ\u0323óôơö÷øùúûüư₫ÿ"

/-- Letters and marks of tones. -/
def windows1258 : Charset :=
  ⟨["CP1258", "WINDOWS-1258"], fun bytes =>
    (windows1258Table.decode? bytes).map (compose toneSequences)⟩

/-- The set with all letters, some of them in place of control characters. -/
def visciiTable : ByteTable where
  start := 0x80
  upper :=
    "ẠẮẰẶẤẦẨẬẼẸẾỀỂỄỆỐỒỔỖỘỢỚỜỞỊỎỌỈỦŨỤỲÕắằặấầẩậẽẹếềểễệốồổỗỠƠộờởịỰỨỪỬơớƯ" ++
    "ÀÁÂÃẢĂẳẵÈÉÊẺÌÍĨỳĐứÒÓÔạỷừửÙÚỹỵÝỡưàáâãảăữẫèéêẻìíĩỉđựòóôõỏọụùúũủýợỮ"
  lower :=
    [(0x02, 'Ẳ'), (0x05, 'Ẵ'), (0x06, 'Ẫ'), (0x14, 'Ỷ'), (0x19, 'Ỹ'), (0x1E, 'Ỵ')]

/-- All letters with their marks. -/
def viscii : Charset := ⟨["VISCII", "VISCII1.1-1", "CSVISCII"], visciiTable.decode?⟩

/-- The set with letters and with marks of tones. -/
def tcvnTable : ByteTable where
  start := 0x80
  upper :=
    "ÀẢÃÁẠẶẬÈẺẼÉẸỆÌỈĨÍỊÒỎÕÓỌỘỜỞỠỚỢÙỦŨ" ++
    "\u00a0ĂÂÊÔƠƯĐăâêôơưđẰ\u0300\u0309\u0303\u0301\u0323àảãáạẲằẳẵắẴ" ++
    "ẮẦẨẪẤỀặầẩẫấậèỂẻẽéẹềểễếệìỉỄẾỒĩíịò" ++
    "ỔỏõóọồổỗốộờởỡớợùỖủũúụừửữứựỳỷỹýỵỐ"
  lower :=
    [(0x01, 'Ú'), (0x02, 'Ụ'), (0x04, 'Ừ'), (0x05, 'Ử'), (0x06, 'Ữ'), (0x11, 'Ứ'), (0x12, 'Ự'),
     (0x13, 'Ỳ'), (0x14, 'Ỷ'), (0x15, 'Ỹ'), (0x16, 'Ý'), (0x17, 'Ỵ')]

/-- Letters with and without their marks. -/
def tcvn : Charset :=
  ⟨["TCVN", "TCVN-5712", "TCVN5712-1"], fun bytes =>
    (tcvnTable.decode? bytes).map (compose toneSequences)⟩

/-- The Vietnamese sets. -/
def all : List Charset := [windows1258, viscii, tcvn]

end Vietnamese

end ImageMetadata.Charset
