import ImageMetadata.Charset.Big5
import ImageMetadata.Charset.DoubleByte
import ImageMetadata.Charset.Gbk

/-!
# Chinese sets

GBK covers the smaller GB 2312 and differs from it in two signs. GB 18030 adds pairs for private use
and further characters, and codes of four bytes for all that have no pair. Big5 is a set of its own.
-/

namespace ImageMetadata.Charset

namespace Chinese

/-- The ranges of the pairs of GBK. -/
def pairs : PairRanges := ⟨[(0x81, 0xFE)], [(0x40, 0x7E), (0x80, 0xFE)]⟩

/-- The character of a pair in GBK. -/
def gbkPair? (lead trail : UInt8) : Option Char :=
  (pairs.place? lead trail).bind gbkGrid.char?

/-- GBK. -/
def gbk : Charset := ⟨["GBK"], stepwise (doubleByte asciiByte? gbkPair?)⟩

/-- The blocks of GB 2312 in 94 rows of 94 columns: the first and last row, and the first and last
column of each. -/
def smallerRanges : List ((Nat × Nat) × (Nat × Nat)) :=
  [((1, 1), (1, 94)), ((2, 2), (17, 66)), ((2, 2), (69, 78)), ((2, 2), (81, 92)), ((3, 3), (1, 94)),
    ((4, 4), (1, 83)), ((5, 5), (1, 86)), ((6, 6), (1, 24)), ((6, 6), (33, 56)), ((7, 7), (1, 33)),
    ((7, 7), (49, 81)), ((8, 8), (1, 26)), ((8, 8), (37, 73)), ((9, 9), (4, 79)),
    ((16, 54), (1, 94)), ((55, 55), (1, 89)), ((56, 87), (1, 94))]

/-- The character of a pair in GB 2312. -/
def gb2312Pair? (lead trail : UInt8) : Option Char :=
  let row := lead.toNat - 0xA0
  let column := trail.toNat - 0xA0
  if (row, column) = (1, 4) then some '・'
  else if (row, column) = (1, 10) then some '―'
  else if smallerRanges.any fun r =>
      r.1.1 ≤ row && row ≤ r.1.2 && r.2.1 ≤ column && column ≤ r.2.2 then
    gbkPair? lead trail
  else none

/-- GB 2312 with ASCII. -/
def gb2312 : Charset :=
  ⟨["EUC-CN", "EUCCN", "GB2312", "CN-GB", "CSGB2312"],
    stepwise (doubleByte asciiByte? gb2312Pair?)⟩

/-- The character for private use of a pair in one of the areas that are left to the user. -/
def privatePair? (lead trail : UInt8) : Option Char := do
  let place ← (PairRanges.place? ⟨[(0xAA, 0xAF), (0xF8, 0xFE)], [(0xA1, 0xFE)]⟩ lead trail) <|>
    (PairRanges.place? ⟨[(0xA1, 0xA7)], [(0x40, 0x7E), (0x80, 0xA0)]⟩ lead trail).map (· + 1222)
  return Char.ofNat (0xE000 + place)

/-- The set that adds the euro sign as a single byte, and the areas that are left to the user. -/
def windows936 : Charset :=
  ⟨["CP936", "MS936", "WINDOWS-936"],
    stepwise (doubleByte (fun b => if b = 0x80 then some '€' else asciiByte? b)
      fun lead trail => gbkPair? lead trail <|> privatePair? lead trail)⟩

/-- Further characters of pairs in GB 18030: runs that start at some place. -/
def furtherPairs : List (Nat × String) :=
  [(0x18E8, "\ue766\ue767\ue768\ue769\ue76a\ue76b"),
    (0x1920, "€\ue76d"),
    (0x192C, "\ue76e\ue76f"),
    (0x193A, "\ue770\ue771"),
    (0x1AAD, "\ue772\ue773\ue774\ue775\ue776\ue777\ue778\ue779\ue77a\ue77b\ue77c"),
    (0x1B6E, "\ue77d\ue77e\ue77f\ue780\ue781\ue782\ue783\ue784"),
    (0x1BEE, "\ue785\ue786\ue787\ue788\ue789\ue78a\ue78b\ue78c"),
    (0x1C0E, "\ue78d\ue78e\ue78f\ue790\ue791\ue792\ue793"),
    (0x1C21, "\ue794\ue795"),
    (0x1C28, "\ue796"),
    (0x1C2B, "\ue797\ue798\ue799\ue79a\ue79b\ue79c\ue79d\ue79e\ue79f"),
    (0x1CB5, "\ue7a0\ue7a1\ue7a2\ue7a3\ue7a4\ue7a5\ue7a6\ue7a7\ue7a8\ue7a9\ue7aa\ue7ab\ue7ac" ++
      "\ue7ad\ue7ae"),
    (0x1CE5, "\ue7af\ue7b0\ue7b1\ue7b2\ue7b3\ue7b4\ue7b5\ue7b6\ue7b7\ue7b8\ue7b9\ue7ba\ue7bb"),
    (0x1D47, "\ue7bc\ue7bd\ue7be\ue7bf\ue7c0\ue7c1\ue7c2\ue7c3\ue7c4\ue7c5\ue7c6"),
    (0x1D6D, "ḿ"),
    (0x1D70, "ǹ"),
    (0x1D72, "\ue7c9\ue7ca\ue7cb\ue7cc"),
    (0x1D9B, "\ue7cd\ue7ce\ue7cf\ue7d0\ue7d1\ue7d2\ue7d3\ue7d4\ue7d5\ue7d6\ue7d7\ue7d8\ue7d9" ++
      "\ue7da\ue7db\ue7dc\ue7dd\ue7de\ue7df\ue7e0\ue7e1"),
    (0x1DC8, "\ue7e2"),
    (0x1DCB, "\ue7e3"),
    (0x1DCD, "\ue7e4\ue7e5\ue7e6"),
    (0x1DF8, "〾⿰⿱⿲⿳⿴⿵⿶⿷⿸⿹⿺⿻"),
    (0x1E06, "\ue7f4\ue7f5\ue7f6\ue7f7\ue7f8\ue7f9\ue7fa\ue7fb\ue7fc\ue7fd\ue7fe\ue7ff\ue800"),
    (0x1E5F, "\ue801\ue802\ue803\ue804\ue805\ue806\ue807\ue808\ue809\ue80a\ue80b\ue80c\ue80d" ++
      "\ue80e\ue80f"),
    (0x408D, "\ue810\ue811\ue812\ue813\ue814"),
    (0x5CD6, "⺁\ue816\ue817\ue818⺄㑳㑇⺈⺋\ue81e㖞㘚㘎⺌⺗㥮㤘\ue826㧏㧟㩳㧐\ue82b\ue82c㭎㱮㳠⺧\ue831\ue832⺪䁖䅟⺮䌷⺳⺶" ++
      "⺷\ue83b䎱䎬⺻䏝䓖䙡䙌\ue843䜣䜩䝼䞍⻊䥇䥺䥽䦂䦃䦅䦆䦟䦛䦷䦶\ue854\ue855䲣䲟䲠䲡䱷䲢䴓䴔䴕䴖䴗䴘䴙䶮\ue864")]

/-- The character of a pair in GB 18030. -/
def gb18030Pair? (lead trail : UInt8) : Option Char := do
  gbkPair? lead trail <|> privatePair? lead trail <|> do
    let place ← pairs.place? lead trail
    let run ← furtherPairs.find? fun r => r.1 ≤ place && place < r.1 + r.2.length
    charAt? run.2 (place - run.1)

/-- The runs of codes of four bytes below U+10000: the first code, and the number of its character.
-/
def quadRuns : List (Nat × Nat) :=
  [(0, 0x80), (36, 0xA5), (38, 0xA9), (45, 0xB2), (50, 0xB8), (81, 0xD8), (89, 0xE2), (95, 0xEB),
    (96, 0xEE), (100, 0xF4), (103, 0xF8), (104, 0xFB), (105, 0xFD), (109, 0x102), (126, 0x114),
    (133, 0x11C), (148, 0x12C), (172, 0x145), (175, 0x149), (179, 0x14E), (208, 0x16C),
    (306, 0x1CF), (307, 0x1D1), (308, 0x1D3), (309, 0x1D5), (310, 0x1D7), (311, 0x1D9),
    (312, 0x1DB), (313, 0x1DD), (341, 0x1FA), (428, 0x252), (443, 0x262), (544, 0x2C8),
    (545, 0x2CC), (558, 0x2DA), (741, 0x3A2), (742, 0x3AA), (749, 0x3C2), (750, 0x3CA),
    (805, 0x402), (819, 0x450), (820, 0x452), (7457, 0xE7C7), (7458, 0x1E40), (7922, 0x2011),
    (7924, 0x2017), (7925, 0x201A), (7927, 0x201E), (7934, 0x2027), (7943, 0x2031), (7944, 0x2034),
    (7945, 0x2036), (7950, 0x203C), (8062, 0x20AD), (8148, 0x2104), (8149, 0x2106), (8152, 0x210A),
    (8164, 0x2117), (8174, 0x2122), (8236, 0x216C), (8240, 0x217A), (8262, 0x2194), (8264, 0x219A),
    (8374, 0x2209), (8380, 0x2210), (8381, 0x2212), (8384, 0x2216), (8388, 0x221B), (8390, 0x2221),
    (8392, 0x2224), (8393, 0x2226), (8394, 0x222C), (8396, 0x222F), (8401, 0x2238), (8406, 0x223E),
    (8416, 0x2249), (8419, 0x224D), (8424, 0x2253), (8437, 0x2262), (8439, 0x2268), (8445, 0x2270),
    (8482, 0x2296), (8485, 0x229A), (8496, 0x22A6), (8521, 0x22C0), (8603, 0x2313), (8936, 0x246A),
    (8946, 0x249C), (9046, 0x254C), (9050, 0x2574), (9063, 0x2590), (9066, 0x2596), (9076, 0x25A2),
    (9092, 0x25B4), (9100, 0x25BE), (9108, 0x25C8), (9111, 0x25CC), (9113, 0x25D0), (9131, 0x25E6),
    (9162, 0x2607), (9164, 0x260A), (9218, 0x2641), (9219, 0x2643), (11329, 0x2E82),
    (11331, 0x2E85), (11334, 0x2E89), (11336, 0x2E8D), (11346, 0x2E98), (11361, 0x2EA8),
    (11363, 0x2EAB), (11366, 0x2EAF), (11370, 0x2EB4), (11372, 0x2EB8), (11375, 0x2EBC),
    (11389, 0x2ECB), (11682, 0x2FFC), (11686, 0x3004), (11687, 0x3018), (11692, 0x301F),
    (11694, 0x302A), (11714, 0x303F), (11716, 0x3094), (11723, 0x309F), (11725, 0x30F7),
    (11730, 0x30FF), (11736, 0x312A), (11982, 0x322A), (11989, 0x3232), (12102, 0x32A4),
    (12336, 0x3390), (12348, 0x339F), (12350, 0x33A2), (12384, 0x33C5), (12393, 0x33CF),
    (12395, 0x33D3), (12397, 0x33D6), (12510, 0x3448), (12553, 0x3474), (12851, 0x359F),
    (12962, 0x360F), (12973, 0x361B), (13738, 0x3919), (13823, 0x396F), (13919, 0x39D1),
    (13933, 0x39E0), (14080, 0x3A74), (14298, 0x3B4F), (14585, 0x3C6F), (14698, 0x3CE1),
    (15583, 0x4057), (15847, 0x4160), (16318, 0x4338), (16434, 0x43AD), (16438, 0x43B2),
    (16481, 0x43DE), (16729, 0x44D7), (17102, 0x464D), (17122, 0x4662), (17315, 0x4724),
    (17320, 0x472A), (17402, 0x477D), (17418, 0x478E), (17859, 0x4948), (17909, 0x497B),
    (17911, 0x497E), (17915, 0x4984), (17916, 0x4987), (17936, 0x499C), (17939, 0x49A0),
    (17961, 0x49B8), (18664, 0x4C78), (18703, 0x4CA4), (18814, 0x4D1A), (18962, 0x4DAF),
    (19043, 0x9FA6), (33469, 0xE76C), (33470, 0xE7C8), (33471, 0xE7E7), (33484, 0xE815),
    (33485, 0xE819), (33490, 0xE81F), (33497, 0xE827), (33501, 0xE82D), (33505, 0xE833),
    (33513, 0xE83C), (33520, 0xE844), (33536, 0xE856), (33550, 0xE865), (37845, 0xF92D),
    (37921, 0xF97A), (37948, 0xF996), (38029, 0xF9E8), (38038, 0xF9F2), (38064, 0xFA10),
    (38065, 0xFA12), (38066, 0xFA15), (38069, 0xFA19), (38075, 0xFA22), (38076, 0xFA25),
    (38078, 0xFA2A), (39108, 0xFE32), (39109, 0xFE45), (39113, 0xFE53), (39114, 0xFE58),
    (39115, 0xFE67), (39116, 0xFE6C), (39265, 0xFF5F), (39394, 0xFFE6)]

/-- The character of a code of four bytes that are counted through. -/
def quad? (code : Nat) : Option Char :=
  if code < 39420 then
    ((quadRuns.filter fun r => r.1 ≤ code).getLast?).map fun r => Char.ofNat (r.2 + (code - r.1))
  else if 189000 ≤ code ∧ code < 189000 + 0x100000 then
    some (Char.ofNat (0x10000 + (code - 189000)))
  else none

/-- The ranges of a lead byte that is followed by a digit. -/
def quadRanges : PairRanges := ⟨[(0x81, 0xFE)], [(0x30, 0x39)]⟩

/-- The step of GB 18030: a single byte, two pairs of which the second bytes are digits, or a pair.
-/
def gb18030Step (b : UInt8) (rest : Bytes) : Option (Char × Nat) :=
  match asciiByte? b, rest with
  | some c, _ => some (c, 0)
  | none, trail :: others =>
    match quadRanges.place? b trail, others with
    | some high, lead :: last :: _ => do
      let low ← quadRanges.place? lead last
      return (← quad? (high * quadRanges.size + low), 3)
    | some _, _ => none
    | none, _ => (gb18030Pair? b trail).map (·, 1)
  | none, [] => none

/-- GB 18030. -/
def gb18030 : Charset := ⟨["GB18030", "CSGB18030"], stepwise gb18030Step⟩

/-- The ranges of the pairs of Big5. -/
def big5Pairs : PairRanges := ⟨[(0xA1, 0xF9)], [(0x40, 0x7E), (0xA1, 0xFE)]⟩

/-- Big5 with ASCII. -/
def big5 : Charset :=
  ⟨["BIG5", "BIG-5", "BIG-FIVE", "BIGFIVE", "CN-BIG5", "CSBIG5"],
    stepwise (doubleByte asciiByte? fun lead trail =>
      (big5Pairs.place? lead trail).bind big5Grid.char?)⟩

/-- The Chinese sets. -/
def all : List Charset := [gb2312, gbk, windows936, gb18030, big5]

end Chinese

end ImageMetadata.Charset
