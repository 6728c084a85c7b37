import LogSift.Unicode.CharSet

/-!
The scripts of Unicode: the names of each script, the characters whose script it is and the
characters that are used with it (its script extension).
-/

namespace LogSift.Unicode.Script

/-- A script: its names in lower case and without separators, its own characters, further
    characters that are used with it, and those of its own that only other scripts use. -/
structure Entry where
  names : List String
  own : CharSet
  borrowed : CharSet := .empty
  lent : CharSet := .empty

/-- The characters used with a script: its script extension. -/
def Entry.extended (s : Entry) : CharSet := (s.own.diff s.lent).union s.borrowed

def adlam : Entry where
  names := ["adlm", "adlam"]
  own := .ofBlocks
    [0x11419419b3ecc88]
  borrowed := .ofBlocks
    [0x106fe901d89e048038bf]

def ahom : Entry where
  names := ["ahom"]
  own := .ofBlocks
    [0x12e41e23a29bc88]

def anatolianHieroglyphs : Entry where
  names := ["hluw", "anatolianhieroglyphs"]
  own := .ofBlocks
    [0x1198e2ca888]

def arabic : Entry where
  names := ["arab", "arabic"]
  own := .ofBlocks
    [0x17dcb28e141e81f48076d219f25da281ea1f99a83c119a5113e3e85f1a84911db1391b1913f1211d15143888,
     0x116c2814125281191013131613201110101010102011121010104060101311910201113a131dfc8836f218b3e]
  borrowed := .ofBlocks
    [0x13b2ec811cfbfc06fe901cfbe03a1a1a0480301e0389c]

def armenian : Entry where
  names := ["armn", "armenian"]
  own := .ofBlocks
    [0x141fae8b226924d2ce9]
  borrowed := .ofBlocks
    [0x101c98]

def avestan : Entry where
  names := ["avst", "avestan"]
  own := .ofBlocks
    [0x1636d28dc88]
  borrowed := .ofBlocks
    [0x112edf802ef]

def balinese : Entry where
  names := ["bali", "balinese"]
  own := .ofBlocks
    [0x169119c1dc88]

def bamum : Entry where
  names := ["bamu", "bamum"]
  own := .ofBlocks
    [0x118f81c8c981af1abac8]

def bassaVah : Entry where
  names := ["bass", "bassavah"]
  own := .ofBlocks
    [0x1523d2edba8]

def batak : Entry where
  names := ["batk", "batak"]
  own := .ofBlocks
    [0x13186b1df88]

def bengali : Entry where
  names := ["beng", "bengali"]
  own := .ofBlocks
    [0x1382411401832121823301612d2127134e88]
  borrowed := .ofBlocks
    [0x1018dff9220402018018011201019dda12913aac01afc]

def bhaiksuki : Entry where
  names := ["bhks", "bhaiksuki"]
  own := .ofBlocks
    [0x13c1a1d15c11829e888]

def bopomofo : Entry where
  names := ["bopo", "bopomofo"]
  own := .ofBlocks
    [0x13f1e85a2f8b911bda]
  borrowed := .ofBlocks
    [0x144ba11ced99038b060231a1c119422eccf01d2101b8f]

def brahmi : Entry where
  names := ["brah", "brahmi"]
  own := .ofBlocks
    [0x10194b419d298888]

def braille : Entry where
  names := ["brai", "braille"]
  own := .ofBlocks
    [0x13ff2c888]

def buginese : Entry where
  names := ["bugi", "buginese"]
  own := .ofBlocks
    [0x1123b1d888]
  borrowed := .ofBlocks
    [0x101acf9f]

def buhid : Entry where
  names := ["buhd", "buhid"]
  own := .ofBlocks
    [0x12b1bd88]
  borrowed := .ofBlocks
    [0x111bced]

def canadianAboriginal : Entry where
  names := ["cans", "canadianaboriginal"]
  own := .ofBlocks
    [0x11f288efa18d18e819ff1a888]

def carian : Entry where
  names := ["cari", "carian"]
  own := .ofBlocks
    [0x168289ac8]
  borrowed := .ofBlocks
    [0x106fab0201feca02ef]

def caucasianAlbanian : Entry where
  names := ["aghb", "caucasianalbanian"]
  own := .ofBlocks
    [0x101b6b28ace8]
  borrowed := .ofBlocks
    [0x105c05c01c8c]

def chakma : Entry where
  names := ["cakm", "chakma"]
  own := .ofBlocks
    [0x12916c298c88]
  borrowed := .ofBlocks
    [0x11939a8194fce]

def cham : Entry where
  names := ["cham"]
  own := .ofBlocks
    [0x1321921d196e1ad888]

def cherokee : Entry where
  names := ["cher", "cherokee"]
  own := .ofBlocks
    [0x119f19bdea521ad19ec8]
  borrowed := .ofBlocks
    [0x111b12e160121c88]

def chorasmian : Entry where
  names := ["chrs", "chorasmian"]
  own := .ofBlocks
    [0x13b28fee8]

def common : Entry where
  names := ["zyyy", "common"]
  own := .ofBlocks
    [0x12fdf04ca36ad02bb912890188c02bc0480301e06019fd010601901ec2b2454e78903f02f411e15e3a53a1880,
     0x14881ebf2d1a2e1ab942592813a152214d7f48291e11a31a11ae21b1c8d0221513701d02b9d01139b118f2,
     0x1495cc887f1cf882cf1b805f1a83f7f680194d481f2ab11ba0311bb3471f381012c6aa1bd18881d813f219eb,
     0x11c1a81835c4248a41a61618815d01a1a3a53a3f102ab312a14a2e193a8158faa11e069b02c803ec192cd21ce,
     0x121118e11ac28f38191ae1c2b1c2b3ad7c43d71182837d24e1a3ed7c1eb2bc6eb63f97dbc31bcecc3a3cc5c6b,
     0x1782dd1a4c11e11e21e1c1cb45b1b8a7c19c18b1a9e96924cb25ab1630141313b1617231188161011b132120,
     0x121e76f51931c21d1c5ab7e141b23d184f619186f41b1f041b61be41ee31c32841faf2ba51e171845b1d1139,
     0x11bf3e0388a88f1cd12aa71861a]
  lent := .ofBlocks
    [0x103f01cec0221513701d02b9d01139b118f22fdf03ead11ccb0480301e01aaf02ba01019012101a0188c02ef,
     0x141a381b806b1b1f68784f680194d481f2ab11ba0311bb34015281c119102211f6dc010401a13806ef90201a,
     0x111fbbe291bafc31bcecc3a6c91835c425c815d01a44ba148d159dde02c803ec194d8779c893e1c8]

def coptic : Entry where
  names := ["copt", "coptic", "qaac"]
  own := .ofBlocks
    [0x1651eb2caa81d1fca]
  borrowed := .ofBlocks
    [0x13b1dab9802dac911dc01130199802ef]

def cuneiform : Entry where
  names := ["xsux", "cuneiform"]
  own := .ofBlocks
    [0x138b1b411de1ce1eb92a8888]

def cypriot : Entry where
  names := ["cprt", "cypriot"]
  own := .ofBlocks
    [0x10203115b102528c888]
  borrowed := .ofBlocks
    [0x11835c42288c88]

def cyproMinoan : Entry where
  names := ["cpmn", "cyprominoan"]
  own := .ofBlocks
    [0x11ca2afea8]
  borrowed := .ofBlocks
    [0x11288c88]

def cyrillic : Entry where
  names := ["cyrl", "cyrillic"]
  own := .ofBlocks
    [0x10497d1e988815be9e1bf7c9883f189cf019c02c81a1bda82d8228c2888]
  borrowed := .ofBlocks
    [0x101899a01cde915eb0502010101218b01afc]

def deseret : Entry where
  names := ["dsrt", "deseret"]
  own := .ofBlocks
    [0x119f28a888]

def devanagari : Entry where
  names := ["deva", "devanagari"]
  own := .ofBlocks
    [0x119798883f19fdc83921e41a84c88]
  borrowed := .ofBlocks
    [0x11918bcff01fee114e19dda12913aac01afc]

def divesAkuru : Entry where
  names := ["diak", "divesakuru"]
  own := .ofBlocks
    [0x119191b2113d1117202629cc88]

def dogra : Entry where
  names := ["dogr", "dogra"]
  own := .ofBlocks
    [0x17b29c888]
  borrowed := .ofBlocks
    [0x11919fb881b4dcc]

def duployan : Entry where
  names := ["dupl", "duployan"]
  own := .ofBlocks
    [0x1321971831c51da3be888]
  borrowed := .ofBlocks
    [0x1338f9cb02dcaf138011199f02ef]

def egyptianHieroglyphs : Entry where
  names := ["egyp", "egyptianhieroglyphs"]
  own := .ofBlocks
    [0x17eba1a29ad2b8888]

def elbasan : Entry where
  names := ["elba", "elbasan"]
  own := .ofBlocks
    [0x14f28ac88]
  borrowed := .ofBlocks
    [0x10199d02ef]

def elymaic : Entry where
  names := ["elym", "elymaic"]
  own := .ofBlocks
    [0x12e28ffc8]

def ethiopic : Entry where
  names := ["ethi", "ethiopic"]
  own := .ofBlocks
    [0x11619525257ecca616161616161616192e1cfce3933f218a2317811e231016231482315823101623119819888,
     0x11e1113162beae96]
  borrowed := .ofBlocks
    [0x101c9e]

def garay : Entry where
  names := ["gara", "garay"]
  own := .ofBlocks
    [0x11183c34d28ed88]
  borrowed := .ofBlocks
    [0x10301e0389c]

def georgian : Entry where
  names := ["geor", "georgian"]
  own := .ofBlocks
    [0x105014d18988225a5ea8315a205014d18ac8]
  borrowed := .ofBlocks
    [0x106fae07dbe05de902ba902ef]

def glagolitic : Entry where
  names := ["glag", "glagolitic"]
  own := .ofBlocks
    [0x141116228163b9ec81bf2e888]
  borrowed := .ofBlocks
    [0x107c8db06fd807dbe05de904890205fe010199b02ef]

def gothic : Entry where
  names := ["goth", "gothic"]
  own := .ofBlocks
    [0x13a289ce8]
  borrowed := .ofBlocks
    [0x1058021199c02ef]

def grantha : Entry where
  names := ["gran", "grantha"]
  own := .ofBlocks
    [0x1436265060222121824111612d212713299c88]
  borrowed := .ofBlocks
    [0x10116aac01f999a01fee1323e11018bbc1d1a8812914da9]

def greek : Entry where
  names := ["grek", "greek"]
  own := .ofBlocks
    [0x1181222a1521d11e16c23e101010172524d2522d58801ac4446a41ccce1f1e7e12b10121010401322131de8,
     0x118d1d89bf02919e5afba018d8fe04cf]
  borrowed := .ofBlocks
    [0x101abb11d99b05e0205e01a0101021199802ef]

def gujarati : Entry where
  names := ["gujr", "gujarati"]
  own := .ofBlocks
    [0x1671b231f0221211924111612d12118125a89]
  borrowed := .ofBlocks
    [0x11919fb9a12914da9]

def gunjalaGondi : Entry where
  names := ["gong", "gunjalagondi"]
  own := .ofBlocks
    [0x119751114c111529edc8]
  borrowed := .ofBlocks
    [0x114adc02ef]

def gurmukhi : Entry where
  names := ["guru", "gurmukhi"]
  own := .ofBlocks
    [0x128701370322144102111111612d2145125889]
  borrowed := .ofBlocks
    [0x11919fb9a12914da9]

def gurungKhema : Entry where
  names := ["gukh", "gurungkhema"]
  own := .ofBlocks
    [0x1792e8c88]
  borrowed := .ofBlocks
    [0x104dcd]

def han : Entry where
  names := ["hani", "han"]
  own := .ofBlocks
    [0x16188f9481abbbf19889e11c17ac981d925dd5cc8858fff1881ceff1f8c31e18390105f3ad1c1b81392fa88,
     0x1189bf519d9a2fca18bd4eca19dd1f1ece81e1ba8923bd]
  borrowed := .ofBlocks
    [0x115bcfd779c893e1c841a381b806b1b1f68784f680194d481f2ac02fb34060231a1c119102211f2fcf802ef,
     0x111fbbe291d9ffa44ba]

def hangul : Entry where
  names := ["hang", "hangul"]
  own := .ofBlocks
    [0x1225252533e2becc6842e1c2decb1a8b3c7bbc93e1893e1e91bd48911f8de3ff18c88]
  borrowed := .ofBlocks
    [0x144ba11ced99038b060281c1194238889]

def hanifiRohingya : Entry where
  names := ["rohg", "hanifirohingya"]
  own := .ofBlocks
    [0x119184f28ec88]
  borrowed := .ofBlocks
    [0x102ab0480301e0389c]

def hanunoo : Entry where
  names := ["hano", "hanunoo"]
  own := .ofBlocks
    [0x12c1bcc8]
  borrowed := .ofBlocks
    [0x111bced]

def hatran : Entry where
  names := ["hatr", "hatran"]
  own := .ofBlocks
    [0x145112a28cbc8]

def hebrew : Entry where
  names := ["hebr", "hebrew"]
  own := .ofBlocks
    [0x119111110141391facd8543a186e2ea9]
  borrowed := .ofBlocks
    [0x111c8f]

def hiragana : Entry where
  names := ["hira", "hiragana"]
  own := .ofBlocks
    [0x1048add23d02a4be2ffdc9261ad38989]
  borrowed := .ofBlocks
    [0x115d01a44ba11ced9811ba0331bb14015281c1194238889]

def imperialAramaic : Entry where
  names := ["armi", "imperialaramaic"]
  own := .ofBlocks
    [0x11812d28c988]

def inherited : Entry where
  names := ["zinh", "inherited", "qaai"]
  own := .ofBlocks
    [0x101f9f1d281f1cedcd11db37cf94838a1189c7f38e130604611c1218893e18dbb31bc803a1a78c14ad1df1c88,
     0x13df38afdaa33e62729218c82e25d1bdf8c0189ba03ca]
  lent := .ofBlocks
    [0x111db37cf901bed0106e138e130604611c1219dfd11bc803a1a78c14ad1c40502a02028111721f01111e1c88,
     0x10189ba01d998d]

def inscriptionalPahlavi : Entry where
  names := ["phli", "inscriptionalpahlavi"]
  own := .ofBlocks
    [0x1752a28ddc8]

def inscriptionalParthian : Entry where
  names := ["prti", "inscriptionalparthian"]
  own := .ofBlocks
    [0x1722d28dd88]

def javanese : Entry where
  names := ["java", "javanese"]
  own := .ofBlocks
    [0x11419219d1ace88]
  borrowed := .ofBlocks
    [0x101acf9f]

def kaithi : Entry where
  names := ["kthi", "kaithi"]
  own := .ofBlocks
    [0x101a18a298a88]
  borrowed := .ofBlocks
    [0x1197cffe02ab89194dce]

def kannada : Entry where
  names := ["knda", "kannada"]
  own := .ofBlocks
    [0x1211923116173121182411912e1211c6a88]
  borrowed := .ofBlocks
    [0x1518dcfb0102f0611019dda12914da9]

def katakana : Entry where
  names := ["kana", "katakana"]
  own := .ofBlocks
    [0x131e06a24bf01116131b89aa5c1191ce89e1af15e3a81f3e8221b938ac9]
  borrowed := .ofBlocks
    [0x115d01a44ba11ced9811ba0331bb14015281c119422ebbd03d01c8d]

def kawi : Entry where
  names := ["kawi"]
  own := .ofBlocks
    [0x13c35812829fc88]

def kayahLi : Entry where
  names := ["kali", "kayahli"]
  own := .ofBlocks
    [0x1015d1acc88]
  borrowed := .ofBlocks
    [0x101accde]

def kharoshthi : Entry where
  names := ["khar", "kharoshthi"]
  own := .ofBlocks
    [0x1187194223c1217511328d888]

def khitanSmallScript : Entry where
  names := ["kits", "khitansmallscript"]
  own := .ofBlocks
    [0x10597ad1dcbb02effcc]

def khmer : Entry where
  names := ["khmr", "khmer"]
  own := .ofBlocks
    [0x13f7ce1961921bd1be88]

def khojki : Entry where
  names := ["khoj", "khojki"]
  own := .ofBlocks
    [0x15e129299888]
  borrowed := .ofBlocks
    [0x11919ed88195bce]

def khudawadi : Entry where
  names := ["sind", "khudawadi"]
  own := .ofBlocks
    [0x11957a299ae8]
  borrowed := .ofBlocks
    [0x11919fb9a14dcc]

def kiratRai : Entry where
  names := ["krai", "kiratrai"]
  own := .ofBlocks
    [0x1792eed88]

def lao : Entry where
  names := ["laoo", "lao"]
  own := .ofBlocks
    [0x1321916101422e1012f1410117a89]

def latin : Entry where
  names := ["latn", "latin"]
  own := .ofBlocks
    [0x17daca3f5baf582903b06129d1c2801d05e93ff18918d11c5356864d1d8bb44f78813e12e501f05f39639189,
     0x1563e1dbd8d181591548cd3963928ba64feae311815a1ce81d2d71011218a31cd]
  borrowed := .ofBlocks
    [0x1018ce77cbd806cce0388018ee06bfc03ed812b9a14ad1c40504e111721f01111e4e01019012101a0188c02ef]

def lepcha : Entry where
  names := ["lepc", "lepcha"]
  own := .ofBlocks
    [0x1231e36f1e888]

def limbu : Entry where
  names := ["limb", "limbu"]
  own := .ofBlocks
    [0x11b3041b41b13e1cc88]
  borrowed := .ofBlocks
    [0x104dcd]

def linearA : Entry where
  names := ["lina", "lineara"]
  own := .ofBlocks
    [0x171a2d194ee28b888]
  borrowed := .ofBlocks
    [0x15c288c8f]

def linearB : Entry where
  names := ["linb", "linearb"]
  own := .ofBlocks
    [0x11fa4a1d21e1112a13911b288888]
  borrowed := .ofBlocks
    [0x11835c42288c88]

def lisu : Entry where
  names := ["lisu"]
  own := .ofBlocks
    [0x107dae85f1aaba8]
  borrowed := .ofBlocks
    [0x112ecfc02801afc]

def lycian : Entry where
  names := ["lyci", "lycian"]
  own := .ofBlocks
    [0x13c289a88]
  borrowed := .ofBlocks
    [0x10289ba]

def lydian : Entry where
  names := ["lydi", "lydian"]
  own := .ofBlocks
    [0x1053928ccc8]
  borrowed := .ofBlocks
    [0x102edf902ef]

def mahajani : Entry where
  names := ["mahj", "mahajani"]
  own := .ofBlocks
    [0x14e298da8]
  borrowed := .ofBlocks
    [0x11919fb881b4adc02ef]

def makasar : Entry where
  names := ["maka", "makasar"]
  own := .ofBlocks
    [0x13829fbc8]

def malayalam : Entry where
  names := ["mlym", "malayalam"]
  own := .ofBlocks
    [0x13921f451216a1211c6c88]
  borrowed := .ofBlocks
    [0x1218dcfd02f019dec12914da9]

def mandaic : Entry where
  names := ["mand", "mandaic"]
  own := .ofBlocks
    [0x1023b4988]
  borrowed := .ofBlocks
    [0x103988]

def manichaean : Entry where
  names := ["mani", "manichaean"]
  own := .ofBlocks
    [0x11b44e28db88]
  borrowed := .ofBlocks
    [0x103988]

def marchen : Entry where
  names := ["marc", "marchen"]
  own := .ofBlocks
    [0x11d12d23f29e9e8]

def masaramGondi : Entry where
  names := ["gonm", "masaramgondi"]
  own := .ofBlocks
    [0x1191818111035b111629ec88]
  borrowed := .ofBlocks
    [0x114dcc]

def medefaidrin : Entry where
  names := ["medf", "medefaidrin"]
  own := .ofBlocks
    [0x11ba2ef988]

def meeteiMayek : Entry where
  names := ["mtei", "meeteimayek"]
  own := .ofBlocks
    [0x11925d3992e1adbc8]

def mendeKikakui : Entry where
  names := ["mend", "mendekikakui"]
  own := .ofBlocks
    [0x11f238c3ec888]

def meroiticCursive : Entry where
  names := ["merc", "meroiticcursive"]
  own := .ofBlocks
    [0x15d22b42f28cec8]

def meroiticHieroglyphs : Entry where
  names := ["mero", "meroitichieroglyphs"]
  own := .ofBlocks
    [0x13f28ce88]
  borrowed := .ofBlocks
    [0x10289bd]

def miao : Entry where
  names := ["plrd", "miao"]
  own := .ofBlocks
    [0x128778419a2efc88]

def modi : Entry where
  names := ["modi"]
  own := .ofBlocks
    [0x1191b18c29b888]
  borrowed := .ofBlocks
    [0x1191ac8e8]

def mongolian : Entry where
  names := ["mong", "mongolian"]
  own := .ofBlocks
    [0x11c1feeed5a71b862b10211c888]
  borrowed := .ofBlocks
    [0x13517fa9048d90111c88a]

def mro : Entry where
  names := ["mroo", "mro"]
  own := .ofBlocks
    [0x1141913e2ed988]

def multani : Entry where
  names := ["mult", "multani"]
  own := .ofBlocks
    [0x11a11e131016299a88]
  borrowed := .ofBlocks
    [0x11959ce]

def myanmar : Entry where
  names := ["mymr", "myanmar"]
  own := .ofBlocks
    [0x12b6e9a83f1c93e19cd882bf18888]
  borrowed := .ofBlocks
    [0x101accde]

def nabataean : Entry where
  names := ["nbat", "nabataean"]
  own := .ofBlocks
    [0x118183e28ca88]

def nagMundari : Entry where
  names := ["nagm", "nagmundari"]
  own := .ofBlocks
    [0x1593eaba8]

def nandinagari : Entry where
  names := ["nand", "nandinagari"]
  own := .ofBlocks
    [0x11a25d2729cec8]
  borrowed := .ofBlocks
    [0x1518dced0701807ff9191e8814dcc]

def newTaiLue : Entry where
  names := ["talu", "newtailue"]
  own := .ofBlocks
    [0x1131a63945b1ce88]

def newa : Entry where
  names := ["newa"]
  own := .ofBlocks
    [0x1411bb29a888]

def nko : Entry where
  names := ["nkoo", "nko"]
  own := .ofBlocks
    [0x1227a3f88]
  borrowed := .ofBlocks
    [0x111fbcbe0301e0389c]

def nushu : Entry where
  names := ["nshu", "nushu"]
  own := .ofBlocks
    [0x169b48e9e02effc9]

def nyiakengPuachueHmong : Entry where
  names := ["hmnp", "nyiakengpuachuehmong"]
  own := .ofBlocks
    [0x1141921d35c3e8c88]

def ogham : Entry where
  names := ["ogam", "ogham"]
  own := .ofBlocks
    [0x13c1ba88]

def olChiki : Entry where
  names := ["olck", "olchiki"]
  own := .ofBlocks
    [0x15f1e9a8]

def olOnal : Entry where
  names := ["onao", "olonal"]
  own := .ofBlocks
    [0x1045a3eafa8]
  borrowed := .ofBlocks
    [0x114dcc]

def oldHungarian : Entry where
  names := ["hung", "oldhungarian"]
  own := .ofBlocks
    [0x1576a1d6a28ea88]
  borrowed := .ofBlocks
    [0x101f06fab020289ba]

def oldItalic : Entry where
  names := ["ital", "olditalic"]
  own := .ofBlocks
    [0x12194b289c88]

def oldNorthArabian : Entry where
  names := ["narb", "oldnortharabian"]
  own := .ofBlocks
    [0x13f28da88]

def oldPermic : Entry where
  names := ["perm", "oldpermic"]
  own := .ofBlocks
    [0x15a289da8]
  borrowed := .ofBlocks
    [0x105df01a250199802ef]

def oldPersian : Entry where
  names := ["xpeo", "oldpersian"]
  own := .ofBlocks
    [0x11d44b289ec8]

def oldSogdian : Entry where
  names := ["sogo", "oldsogdian"]
  own := .ofBlocks
    [0x14f28fc88]

def oldSouthArabian : Entry where
  names := ["sarb", "oldsoutharabian"]
  own := .ofBlocks
    [0x13f28d9c8]

def oldTurkic : Entry where
  names := ["orkh", "oldturkic"]
  own := .ofBlocks
    [0x119828e888]
  borrowed := .ofBlocks
    [0x106fad0289ba]

def oldUyghur : Entry where
  names := ["ougr", "olduyghur"]
  own := .ofBlocks
    [0x13928fde8]
  borrowed := .ofBlocks
    [0x1028aae903988]

def oriya : Entry where
  names := ["orya", "oriya"]
  own := .ofBlocks
    [0x129241142722121824111612d2127125c89]
  borrowed := .ofBlocks
    [0x102f019dec12914da9]

def osage : Entry where
  names := ["osge", "osage"]
  own := .ofBlocks
    [0x14b44b28aae8]
  borrowed := .ofBlocks
    [0x1019c060201c89]

def osmanya : Entry where
  names := ["osma", "osmanya"]
  own := .ofBlocks
    [0x11923d28aa88]

def pahawhHmong : Entry where
  names := ["hmng", "pahawhhmong"]
  own := .ofBlocks
    [0x12a52c161191a18d2edc88]

def palmyrene : Entry where
  names := ["palm", "palmyrene"]
  own := .ofBlocks
    [0x13f28c9c8]

def pauCinHau : Entry where
  names := ["pauc", "paucinhau"]
  own := .ofBlocks
    [0x17829db88]

def phagsPa : Entry where
  names := ["phag", "phagspa"]
  own := .ofBlocks
    [0x16f1ac988]
  borrowed := .ofBlocks
    [0x107faa048d90111c88a]

def phoenician : Entry where
  names := ["phnx", "phoenician"]
  own := .ofBlocks
    [0x1033b28cc88]

def psalterPahlavi : Entry where
  names := ["phlp", "psalterpahlavi"]
  own := .ofBlocks
    [0x161c372928de88]
  borrowed := .ofBlocks
    [0x103988]

def rejang : Entry where
  names := ["rjng", "rejang"]
  own := .ofBlocks
    [0x101b4b1acce8]

def runic : Entry where
  names := ["runr", "runic"]
  own := .ofBlocks
    [0x11a319a1bac8]
  borrowed := .ofBlocks
    [0x121bbdb]

def samaritan : Entry where
  names := ["samr", "samaritan"]
  own := .ofBlocks
    [0x11e25d4888]
  borrowed := .ofBlocks
    [0x102f8e9]

def saurashtra : Entry where
  names := ["saur", "saurashtra"]
  own := .ofBlocks
    [0x11b1818d1aca88]

def sharada : Entry where
  names := ["shrd", "sharada"]
  own := .ofBlocks
    [0x11bf298e88]
  borrowed := .ofBlocks
    [0x102518dd9f021201019e8d04da9]

def shavian : Entry where
  names := ["shaw", "shavian"]
  own := .ofBlocks
    [0x15f28a9a8]
  borrowed := .ofBlocks
    [0x102ef]

def siddham : Entry where
  names := ["sidd", "siddham"]
  own := .ofBlocks
    [0x14d26d29ae88]

def signwriting : Entry where
  names := ["sgnw", "signwriting"]
  own := .ofBlocks
    [0x11e141f1a9b3dc888]

def sinhala : Entry where
  names := ["sinh", "sinhala"]
  own := .ofBlocks
    [0x12b289fdc221967101540362011812f329126e89]
  borrowed := .ofBlocks
    [0x1019e9c14dcc]

def sogdian : Entry where
  names := ["sogd", "sogdian"]
  own := .ofBlocks
    [0x15928fce8]
  borrowed := .ofBlocks
    [0x103988]

def soraSompeng : Entry where
  names := ["sora", "sorasompeng"]
  own := .ofBlocks
    [0x119738298ba8]

def soyombo : Entry where
  names := ["soyo", "soyombo"]
  own := .ofBlocks
    [0x11aa29d9a8]

def sundanese : Entry where
  names := ["sund", "sundanese"]
  own := .ofBlocks
    [0x174887f1de88]

def sunuwar : Entry where
  names := ["sunu", "sunuwar"]
  own := .ofBlocks
    [0x1191e4929df88]
  borrowed := .ofBlocks
    [0x10303c020190111c88]

def sylotiNagri : Entry where
  names := ["sylo", "sylotinagri"]
  own := .ofBlocks
    [0x15c1ac888]
  borrowed := .ofBlocks
    [0x11928814dcc]

def syriac : Entry where
  names := ["syrc", "syriac"]
  own := .ofBlocks
    [0x11a4a8227b11d3c88]
  borrowed := .ofBlocks
    [0x10101be8f03a1a1a0480211e01bba1117238011211c8b]

def tagalog : Entry where
  names := ["tglg", "tagalog"]
  own := .ofBlocks
    [0x10192d1bc88]
  borrowed := .ofBlocks
    [0x111bced]

def tagbanwa : Entry where
  names := ["tagb", "tagbanwa"]
  own := .ofBlocks
    [0x111211c1bdc8]
  borrowed := .ofBlocks
    [0x111bced]

def taiLe : Entry where
  names := ["tale", "taile"]
  own := .ofBlocks
    [0x1423d1cda8]
  borrowed := .ofBlocks
    [0x1196ceb031511c88]

def taiTham : Entry where
  names := ["lana", "taitham"]
  own := .ofBlocks
    [0x11d61961a23c17e1d8c8]

def taiViet : Entry where
  names := ["tavt", "taiviet"]
  own := .ofBlocks
    [0x143818a1ada88]

def takri : Entry where
  names := ["takr", "takri"]
  own := .ofBlocks
    [0x11967929ba88]
  borrowed := .ofBlocks
    [0x11919fb9a14dcc]

def tamil : Entry where
  names := ["taml", "tamil"]
  own := .ofBlocks
    [0x101d69299f8d2c1e06023123441b3231311011331235115e8a]
  borrowed := .ofBlocks
    [0x116f0106d89d018e8b8019dec12914da9]

def tangsa : Entry where
  names := ["tnsa", "tangsa"]
  own := .ofBlocks
    [0x119119e2ed9e8]

def tangut : Entry where
  names := ["tang", "tangut"]
  own := .ofBlocks
    [0x11818881bff181bfef3f02effc8]
  borrowed := .ofBlocks
    [0x107df1f2ffe8]

def telugu : Entry where
  names := ["telu", "telugu"]
  own := .ofBlocks
    [0x11871923202211731211821f12e1211c6888]
  borrowed := .ofBlocks
    [0x102f019dec12914da9]

def thaana : Entry where
  names := ["thaa", "thaana"]
  own := .ofBlocks
    [0x1693e88]
  borrowed := .ofBlocks
    [0x101a01fbe98191880211e0389c]

def thai : Entry where
  names := ["thai"]
  own := .ofBlocks
    [0x13b5797889]
  borrowed := .ofBlocks
    [0x105d05b03a01afc]

def tibetan : Entry where
  names := ["tibt", "tibetan"]
  own := .ofBlocks
    [0x114611e14b14e44b118f7c88]
  borrowed := .ofBlocks
    [0x1338898]

def tifinagh : Entry where
  names := ["tfng", "tifinagh"]
  own := .ofBlocks
    [0x101e176f2ece8]
  borrowed := .ofBlocks
    [0x101020101c8a]

def tirhuta : Entry where
  names := ["tirh", "tirhuta"]
  own := .ofBlocks
    [0x1191818f29aa88]
  borrowed := .ofBlocks
    [0x11918dcfd019e9c12914da9]

def todhri : Entry where
  names := ["todr", "todhri"]
  own := .ofBlocks
    [0x16b28af88]
  borrowed := .ofBlocks
    [0x1019a01019020201c89]

def toto : Entry where
  names := ["toto"]
  own := .ofBlocks
    [0x13e3e9aa8]
  borrowed := .ofBlocks
    [0x101afc]

def tuluTigalari : Entry where
  names := ["tutg", "tulutigalari"]
  own := .ofBlocks
    [0x1118111913102011914d1020119299e88]
  borrowed := .ofBlocks
    [0x102fb518dcfb0101888a196bce]

def ugaritic : Entry where
  names := ["ugar", "ugaritic"]
  own := .ofBlocks
    [0x1013d289e88]

def vai : Entry where
  names := ["vaii", "vai"]
  own := .ofBlocks
    [0x14db1aac88]

def vithkuqi : Entry where
  names := ["vith", "vithkuqi"]
  own := .ofBlocks
    [0x111611e11a111611e11a28ade8]

def wancho : Entry where
  names := ["wcho", "wancho"]
  own := .ofBlocks
    [0x105793e9b88]

def warangCiti : Entry where
  names := ["wara", "warangciti"]
  own := .ofBlocks
    [0x101c1aa29cac8]

def yezidi : Entry where
  names := ["yezi", "yezidi"]
  own := .ofBlocks
    [0x112215928fa88]
  borrowed := .ofBlocks
    [0x1191880301e0389c]

def yi : Entry where
  names := ["yiii", "yi"]
  own := .ofBlocks
    [0x16e32a9c1a8888]
  borrowed := .ofBlocks
    [0x141cf9cd03bf72195138889]

def zanabazarSquare : Entry where
  names := ["zanb", "zanabazarsquare"]
  own := .ofBlocks
    [0x118f29d888]

/-- Every script. -/
def all : List Entry :=
  [adlam, ahom, anatolianHieroglyphs, arabic, armenian, avestan, balinese, bamum,
   bassaVah, batak, bengali, bhaiksuki, bopomofo, brahmi, braille, buginese, buhid,
   canadianAboriginal, carian, caucasianAlbanian, chakma, cham, cherokee, chorasmian,
   common, coptic, cuneiform, cypriot, cyproMinoan, cyrillic, deseret, devanagari,
   divesAkuru, dogra, duployan, egyptianHieroglyphs, elbasan, elymaic, ethiopic, garay,
   georgian, glagolitic, gothic, grantha, greek, gujarati, gunjalaGondi, gurmukhi,
   gurungKhema, han, hangul, hanifiRohingya, hanunoo, hatran, hebrew, hiragana,
   imperialAramaic, inherited, inscriptionalPahlavi, inscriptionalParthian, javanese,
   kaithi, kannada, katakana, kawi, kayahLi, kharoshthi, khitanSmallScript, khmer, khojki,
   khudawadi, kiratRai, lao, latin, lepcha, limbu, linearA, linearB, lisu, lycian, lydian,
   mahajani, makasar, malayalam, mandaic, manichaean, marchen, masaramGondi, medefaidrin,
   meeteiMayek, mendeKikakui, meroiticCursive, meroiticHieroglyphs, miao, modi, mongolian,
   mro, multani, myanmar, nabataean, nagMundari, nandinagari, newTaiLue, newa, nko, nushu,
   nyiakengPuachueHmong, ogham, olChiki, olOnal, oldHungarian, oldItalic, oldNorthArabian,
   oldPermic, oldPersian, oldSogdian, oldSouthArabian, oldTurkic, oldUyghur, oriya, osage,
   osmanya, pahawhHmong, palmyrene, pauCinHau, phagsPa, phoenician, psalterPahlavi,
   rejang, runic, samaritan, saurashtra, sharada, shavian, siddham, signwriting, sinhala,
   sogdian, soraSompeng, soyombo, sundanese, sunuwar, sylotiNagri, syriac, tagalog,
   tagbanwa, taiLe, taiTham, taiViet, takri, tamil, tangsa, tangut, telugu, thaana, thai,
   tibetan, tifinagh, tirhuta, todhri, toto, tuluTigalari, ugaritic, vai, vithkuqi,
   wancho, warangCiti, yezidi, yi, zanabazarSquare]

end LogSift.Unicode.Script
