import LogSift.Unicode.Category
import LogSift.Unicode.Property

/-!
How characters join: to the clusters that readers take for one character, to words and to
sentences. Each of the three properties has values that are sets of characters, and every
character without a value stands alone.
-/

namespace LogSift.Unicode.Break

def carriageReturn : CharSet := .singleton '\r'

def lineFeed : CharSet := .singleton '\n'

/-- The zero width joiner. -/
def joiner : CharSet := .singleton '\u200D'

/-- Controls, formats and reserved code points that are not shown; a cluster ends beside them. -/
def control : CharSet := .ofBlocks
  [0x11ff1c83f38afa8d71ab9f318c9c81f3a8ec1b3e801dfa9f1f696381203ffc018fe902dde01d481bf29111190,
   0x1789f3e8]

/-- What belongs to the cluster before it: marks and the modifiers of emoji. -/
def clusterExtend : CharSet := Property.graphemeExtend.union Property.emojiModifier

/-- What belongs to the cluster after it. -/
def prepended : CharSet :=
  ⟨[(0x600, 0x605), (0x6DD, 0x6DD), (0x70F, 0x70F), (0x890, 0x891), (0x8E2, 0x8E2),
    (0xD4E, 0xD4E), (0x110BD, 0x110BD), (0x110CD, 0x110CD), (0x111C2, 0x111C3),
    (0x113D1, 0x113D1), (0x1193F, 0x1193F), (0x11941, 0x11941), (0x11A3A, 0x11A3A),
    (0x11A84, 0x11A89), (0x11D46, 0x11D46), (0x11F02, 0x11F02)]⟩

/-- Marks with a width of their own. -/
def clusterSpacingMark : CharSet := .ofBlocks
  [0x117b11e05e110207a17d37d26c21231101ea121607c16d1101827a018a27a06e121617b16a113182206f04c8b,
   0x103e018837902a952d0107a13c851142235ba117703ce905c13911902e907f129a01ff07f12b66119c16d2125,
   0x10106a8ab01111113dd051202bd0381211df1214168068029e1f6a11b802118dcdb02d02db11876d012207f14,
   0x1613de0201110611db0311821cf1101f11ad12d12123107b13f22dc1321bd01e01926807b13801eb1425d01ff,
   0x115be011443ad020701da01e06af07e13d01ac04318229e01071143f8019248d0701de1101dd0111821e9023,
   0x16e78cc248fda11816801c]

/-- The jamo that Korean syllables begin with. -/
def leadingJamo : CharSet := ⟨[(0x1100, 0x115F), (0xA960, 0xA97C)]⟩

/-- Korean vowels, and the vowel signs of Kirat Rai that join as they do. -/
def vowel : CharSet :=
  ⟨[(0x1160, 0x11A7), (0xD7B0, 0xD7C6), (0x16D63, 0x16D63), (0x16D67, 0x16D6A)]⟩

/-- The jamo that Korean syllables end with. -/
def trailingJamo : CharSet := ⟨[(0x11A8, 0x11FF), (0xD7CB, 0xD7FB)]⟩

/-- Korean syllables that end with their vowel. Every 28th syllable does. -/
def openSyllable : CharSet :=
  ⟨(List.range 399).map fun k => (0xAC00 + 28 * k, 0xAC00 + 28 * k)⟩

/-- Korean syllables that end with a consonant. -/
def closedSyllable : CharSet :=
  ⟨(List.range 399).map fun k => (0xAC01 + 28 * k, 0xAC1B + 28 * k)⟩

/-- The values of the property Grapheme_Cluster_Break under the names they go by. -/
def clusters : List (List String × CharSet) :=
  [(["cn", "control"], control),
   (["cr"], carriageReturn),
   (["ex", "extend"], clusterExtend),
   (["l"], leadingJamo),
   (["lf"], lineFeed),
   (["lv"], openSyllable),
   (["lvt"], closedSyllable),
   (["pp", "prepend"], prepended),
   (["ri", "regionalindicator"], Property.regionalIndicator),
   (["sm", "spacingmark"], clusterSpacingMark),
   (["t"], trailingJamo),
   (["v"], vowel),
   (["zwj"], joiner)]

/-- What does not break words: marks and the modifiers of emoji. -/
def wordExtend : CharSet :=
  .unionAll [Property.graphemeExtend, Category.spacingMark, Property.emojiModifier]

/-- Format characters that words may hold. -/
def wordFormat : CharSet :=
  ⟨[(0xAD, 0xAD), (0x61C, 0x61C), (0x180E, 0x180E), (0x200E, 0x200F), (0x202A, 0x202E),
    (0x2060, 0x2064), (0x2066, 0x206F), (0xFEFF, 0xFEFF), (0xFFF9, 0xFFFB),
    (0x13430, 0x1343F), (0x1BCA0, 0x1BCA3), (0x1D173, 0x1D17A), (0xE0001, 0xE0001)]⟩

/-- Digits of numbers, and the marks that stand before digits. -/
def numeric : CharSet :=
  .unionAll [Category.decimalNumber,
    ⟨[(0x600, 0x605), (0x66B, 0x66B), (0x6DD, 0x6DD), (0x890, 0x891), (0x8E2, 0x8E2),
      (0x19DA, 0x19DA), (0x110BD, 0x110BD), (0x110CD, 0x110CD)]⟩]

/-- Letters of words. Ideographs and the scripts that write no blank between words are not among
    them. -/
def wordLetter : CharSet := .ofBlocks
  [0x1114b5a5c01d80158101324d12cd1829a11aa12b101210601321141e84967bf13e12e5010201a05f39639189,
   0x112d212741f1f19702a036d7a5929512f51a7382f03019042d504119483801b1b83d3d111f0221a1711f011ca,
   0x1034111612d21271b02f11f02a034111612d121182822b0133f111111612d21451801a11e2111d0280333016,
   0x1258121182911f1113f03411912e1217403e120223a031f12e12176c02e1b3231311011331235102901f2113e,
   0x12317811e231016231482315823101623159c15a205014d4ab43b4b177f04f962011812f3295538218250280,
   0x13d6e7295e3de2e3c93e1a18d501492471b82df211c1e291e2a1d2971a319a539128219db3521ad281f4d18a,
   0x11ec61251c45233612301616c23e101010172524d2524ad1882ff5031151359225a51a24b1a2594b3a5b1a11d,
   0x11616161616192e28076f205014d1c13363cc3cae6b1cdd58290445321a13101010643011920401cd1c2801d0,
   0x12e131211f2d71011238d3819f23e285e2c11a1f349c25d18b2a9c6f9883f291bd15a39816d07ad01a861616,
   0x1629c8c6842e1c2decb3d1ea679161619525251c271a2ac7122f586803c5e73c392e1a3b1b110357e691e6b3d,
   0x16833c49b6c18d1fa4a1d21e1112a13911b4b225252533e18d396394c28e141ec1b586d27f2a5da491c97841c,
   0x118159153871a2d194ee1c6b311611e11a111611e11a1c6b184f44b44b2a2bd5a41744b23d1a4d53d1d3f5f,
   0x1291d2a1a2d1a6d3b3b174b3c33c5a3c12131f0188166f18e391a2d1a112a1893e192e1a2e203115b102518d,
   0x1180203d4b3a38485c1d021796c1c2e3b2c5e295a2d1801a3c7b22816593fa2e193b4e4b1d6a1d6a6f1981de,
   0x12a6c5c01039014d10201193e41c02a034111612d21274e5e71911e1310167f12b381294b0102d31e5f1c034a,
   0x11b02d074f1a03c010284e271be0101f2f111720273f7f1ec5b58f01d5a7b02c5f4c3595e2f80112c5f3e22c3,
   0x138b291de1ce1eb919f01fc4911c101f2a58f01e3f11153902d4d11161e83d690294c1183f4838f1982a02b5d,
   0x10519a2887f3ab5c6e82a52c3f3285f2a3d2919e293e718f83bca3d1daf9198e57eba3952928df1f1c8599c,
   0x113813825ab1630141313b1617231188161011b13212021118e11ac1bdce1971831c51da4e8bc0111881c18a,
   0x17b38c11e1113167df023d3cc3b7cc5b2a3d58902861a5c2aa7d48d563e3cec713813e13813e13813e13813e,
   0x13963919ec2814125281191013131613201110101010102011121010104060101311910201113a132aec0718b,
   0x1396]

def hebrewLetter : CharSet :=
  ⟨[(0x5D0, 0x5EA), (0x5EF, 0x5F2), (0xFB1D, 0xFB1D), (0xFB1F, 0xFB28), (0xFB2A, 0xFB36),
    (0xFB38, 0xFB3C), (0xFB3E, 0xFB3E), (0xFB40, 0xFB41), (0xFB43, 0xFB44), (0xFB46, 0xFB4F)]⟩

def katakana : CharSet :=
  ⟨[(0x3031, 0x3035), (0x309B, 0x309C), (0x30A0, 0x30FA), (0x30FC, 0x30FF), (0x31F0, 0x31FF),
    (0x32D0, 0x32FE), (0x3300, 0x3357), (0xFF66, 0xFF9D), (0x1AFF0, 0x1AFF3),
    (0x1AFF5, 0x1AFFB), (0x1AFFD, 0x1AFFE), (0x1B000, 0x1B000), (0x1B120, 0x1B122),
    (0x1B155, 0x1B155), (0x1B164, 0x1B167)]⟩

/-- What joins letters, but not digits. -/
def midLetter : CharSet :=
  ⟨[(0x3A, 0x3A), (0xB7, 0xB7), (0x387, 0x387), (0x55F, 0x55F), (0x5F4, 0x5F4),
    (0x2027, 0x2027), (0xFE13, 0xFE13), (0xFE55, 0xFE55), (0xFF1A, 0xFF1A)]⟩

/-- What joins digits, but not letters. -/
def midNumber : CharSet :=
  ⟨[(0x2C, 0x2C), (0x3B, 0x3B), (0x37E, 0x37E), (0x589, 0x589), (0x60C, 0x60D),
    (0x66C, 0x66C), (0x7F8, 0x7F8), (0x2044, 0x2044), (0xFE10, 0xFE10), (0xFE14, 0xFE14),
    (0xFE50, 0xFE50), (0xFE54, 0xFE54), (0xFF0C, 0xFF0C), (0xFF1B, 0xFF1B)]⟩

/-- What joins letters as well as digits. -/
def midLetterNumber : CharSet :=
  ⟨[(0x2E, 0x2E), (0x2018, 0x2019), (0x2024, 0x2024), (0xFE52, 0xFE52), (0xFF07, 0xFF07),
    (0xFF0E, 0xFF0E)]⟩

/-- Underscores and what joins like them. -/
def connector : CharSet :=
  ⟨[(0x5F, 0x5F), (0x202F, 0x202F), (0x203F, 0x2040), (0x2054, 0x2054), (0xFE33, 0xFE34),
    (0xFE4D, 0xFE4F), (0xFF3F, 0xFF3F)]⟩

/-- Characters that end a line. -/
def newline : CharSet := ⟨[(0xB, 0xC), (0x85, 0x85), (0x2028, 0x2029)]⟩

/-- Blank between words. -/
def wordSpace : CharSet :=
  ⟨[(0x20, 0x20), (0x1680, 0x1680), (0x2000, 0x2006), (0x2008, 0x200A), (0x205F, 0x205F),
    (0x3000, 0x3000)]⟩

/-- The values of the property Word_Break under the names they go by. -/
def words : List (List String × CharSet) :=
  [(["cr"], carriageReturn),
   (["dq", "doublequote"], .singleton '"'),
   (["ex", "extendnumlet"], connector),
   (["extend"], wordExtend),
   (["fo", "format"], wordFormat),
   (["hl", "hebrewletter"], hebrewLetter),
   (["ka", "katakana"], katakana),
   (["le", "aletter"], wordLetter),
   (["lf"], lineFeed),
   (["mb", "midnumlet"], midLetterNumber),
   (["ml", "midletter"], midLetter),
   (["mn", "midnum"], midNumber),
   (["nl", "newline"], newline),
   (["nu", "numeric"], numeric),
   (["ri", "regionalindicator"], Property.regionalIndicator),
   (["sq", "singlequote"], .singleton '\''),
   (["wsegspace"], wordSpace),
   (["zwj"], joiner)]

/-- What does not break sentences: marks and the joiner. -/
def sentenceExtend : CharSet :=
  .unionAll [Property.graphemeExtend, Category.spacingMark, joiner]

/-- Format characters that sentences may hold. -/
def sentenceFormat : CharSet := wordFormat.union ⟨[(0x70F, 0x70F), (0x200B, 0x200B)]⟩

/-- Georgian letters have two cases, but no sentence begins with the upper one. -/
def georgianSmall : CharSet := ⟨[(0x10D0, 0x10FA), (0x10FD, 0x10FF)]⟩

def georgianCapital : CharSet := ⟨[(0x1C90, 0x1CBA), (0x1CBD, 0x1CBF)]⟩

/-- Letters of lower case; the one mark among them is left to `sentenceExtend`. -/
def lower : CharSet := Property.lowercase.diff (georgianSmall.union (.singleton '\u0345'))

/-- Letters of upper or title case. -/
def upper : CharSet :=
  (Property.uppercase.union Category.titlecaseLetter).diff georgianCapital

/-- Letters without case. -/
def otherLetter : CharSet := .ofBlocks
  [0x1042d504119483801b1b83d3d10280221a1711f011ca114b5a5c443a1ee07cc028d0103a1b664c03a83406fb,
   0x10133f111111612d21451801a11e2111d028033301612d212741f1f19702a036d7a5929512f51a7382f03019,
   0x112e12176c02e1b3231311011331235102901f2113e034111612d21271b02f11f02a034111612d121182822b,
   0x11410117a61c115f7a62011812f3295538218250280258121182911f1113f03411912e1217403e120223a031f,
   0x11016231482315823101623159b25a18901c1c42713033452802c5a1eb43b4b177f04832d014201911191012f,
   0x13d693e1a18d501492471b818b0404b6b1f211c1e291e2a1d2971a319a539128219db1e91f4d18a2317811e23,
   0x128076f5ecf32218f328fa031151359225a2a4b1a2594b3a5b1a11d3d6e7295e1bd01aa6c192e6e3945b1b42,
   0x149c25d18b5ba9c1881ceff18881f683f291bd15a5311b91261ad44247183927ad01a8616161616161616192e,
   0x12f58141a19142803c5e73c392e1a3b1b110357e691e6b3d2e131216301cf0601d8184f19f48028018a11a1f3,
   0x1101411c1191018b1d925dd28c8c6842e1c2decb3d4a2a961619525251c271a22380102421301693032e2c712,
   0x13f5f6833c49b6c18d1fa4a1d21e1112a13911b4b225252533e26f1d928e141ec1b586d27f2a5da491db1111,
   0x12d1a112a1893e192e1a2e203115b10251fd13971a2d194ee1c6b1bc6b184f1ca19d1fa41744b23d1a4d53d1d,
   0x11801a3c7b22816594a803f54e4b2ef1981de291d2a1a2d1a6d3b3b174b3c33c5a3c12131f0188166f18e391a,
   0x1274e5e71911e1310167f12b381294b0102d31e5f1c034a180203d4b3a38485c1d021796c1c2e3b2c5e295a2d,
   0x12f964d3a18f01d5a7b02c5f4c3595e2f80112c5f3e22c32a6c5c01039014d10201193e41c02a034111612d21,
   0x102d4d11161e83d690294c1183f4838f1982a02b5d1b02d074f1a03c010284e271be0101f2f111720273ab5b,
   0x13bca3d1daf9198e57eba3952928df1f1c8599c38b291de1ce1eb919f01fc4911c101f2a58f01e3f111539,
   0x101f4ca11161329bcf19592bad181bfef3c0111881c18a0519a6ab5c6e82a52c3f3285f2a3d2919e293e718f8,
   0x1028e38c11e1113167df023d3cc3b7cc5b2a3d58902861a5c7ed0299e81971831c51da4c8c69b1831e0223d,
   0x1481abbbf18d8c2814125281191013131613201110101010102011121010104060101311910201113a132aec,
   0x1189bf519d9a2fca18bd4eca19dd1f1ece81e1ba8923bd6188f9]

/-- Full stops, which may also end an abbreviation. -/
def fullStop : CharSet :=
  ⟨[(0x2E, 0x2E), (0x2024, 0x2024), (0xFE52, 0xFE52), (0xFF0E, 0xFF0E)]⟩

/-- What ends a sentence beyond doubt. -/
def terminator : CharSet := Property.sentenceTerminal.diff fullStop

/-- What goes on with a sentence after a full stop. -/
def goingOn : CharSet :=
  ⟨[(0x2C, 0x2D), (0x3A, 0x3B), (0x37E, 0x37E), (0x55D, 0x55D), (0x60C, 0x60D),
    (0x7F8, 0x7F8), (0x1802, 0x1802), (0x1808, 0x1808), (0x2013, 0x2014), (0x3001, 0x3001),
    (0xFE10, 0xFE11), (0xFE13, 0xFE14), (0xFE31, 0xFE32), (0xFE50, 0xFE51), (0xFE54, 0xFE55),
    (0xFE58, 0xFE58), (0xFE63, 0xFE63), (0xFF0C, 0xFF0D), (0xFF1A, 0xFF1B), (0xFF64, 0xFF64)]⟩

/-- Brackets and quotation marks. -/
def closing : CharSet :=
  .unionAll [Category.openPunctuation, Category.closePunctuation, Category.initialPunctuation,
    Category.finalPunctuation,
    ⟨[(0x22, 0x22), (0x27, 0x27), (0x275B, 0x2760), (0x2E00, 0x2E01), (0x2E06, 0x2E08),
      (0x2E0B, 0x2E0B), (0x1F676, 0x1F678)]⟩]

/-- Characters that end a paragraph. -/
def separator : CharSet := ⟨[(0x85, 0x85), (0x2028, 0x2029)]⟩

/-- Blank between sentences. -/
def sentenceSpace : CharSet :=
  Property.whiteSpace.diff (.unionAll [separator, carriageReturn, lineFeed])

/-- The values of the property Sentence_Break under the names they go by. -/
def sentences : List (List String × CharSet) :=
  [(["at", "aterm"], fullStop),
   (["cl", "close"], closing),
   (["cr"], carriageReturn),
   (["ex", "extend"], sentenceExtend),
   (["fo", "format"], sentenceFormat),
   (["le", "oletter"], otherLetter),
   (["lf"], lineFeed),
   (["lo", "lower"], lower),
   (["nu", "numeric"], numeric.union (.singleton '\u066C')),
   (["sc", "scontinue"], goingOn),
   (["se", "sep"], separator),
   (["sp"], sentenceSpace),
   (["st", "sterm"], terminator),
   (["up", "upper"], upper)]

end LogSift.Unicode.Break
