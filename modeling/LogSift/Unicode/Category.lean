import LogSift.Unicode.CharSet

/-!
The general categories of Unicode, one set for each category that has no parts. The groups
of categories (letters, marks, numbers, ...) are unions of these and stand at the end.
-/

namespace LogSift.Unicode.Category

/-- General category Lu: uppercase letter. -/
def uppercaseLetter : CharSet := .ofBlocks
  [0x11020101010101010102010101010101010101010101010101010101010101010101010101049612e1cd39189,
   0x17031101211102011101011113211132211101130101110101010101010101010101010101010101010101010,
   0x11010101010101010101010101010101010101010101210202010101010101010102010101010101010202020,
   0x12050101010101010101010101032204b18128111012106018030104c90101010131021117010101010101010,
   0x101010101010101010101010101010101010101010101019010101010101010101010101010101010686a2110,
   0x10101010101010101010101010101010101010101010101010101010101010101020101010101011101010101,
   0x10101010101010101010101010588225a604aab1ad1baa05014d5d994d2010101010101010101010101010101,
   0x10101010101010101010101010101010101010101010101010101010101010101010101010101010101010101,
   0x11010101010101010101010101010101010101010101010101019010101010101010101010101010101010101,
   0x141c31c31c319871801010101b51871871a51871901010101010101010101010101010101010101010101010,
   0x1101010101010101010101010101218020131010102210685f59fc07d0511a32310101064302222304048e31b,
   0x1010107cd9d040101801010101010101010101010101010101010101010101010101010101010101010101010,
   0x1103010101010101028f0101010101010101010101010102b0101010101010101010101010101010101010101,
   0x10101030102010401010101110101a01010101010101010101010101010101010101010101010101010101010,
   0x16a3bda11611e11a2bc4b2984f2b8d395bcdb038010101050311013101010101010101414101010101010101,
   0x13a393a393a393a393b6301413113b61723113a393a713212021103a393a393a396aec83f5ae883f5cfa2d2bd,
   0x14918ced0493849384938493849383e393a39]

/-- General category Ll: lowercase letter. -/
def lowercaseLetter : CharSet := .ofBlocks
  [0x101110101010101010111010101010101010101010101010101010101010101010101010101712f5907a391c9,
   0x12212010302011102010102022302041302010221010201010101010101010101010101010101010101010101,
   0x10101010101010101010101010101010101010101010301021101010101010101011101010101010101020206,
   0x112020141010101010101010101010123114a3b02a23030103893a118c1010101040112026101010101010101,
   0x11010101010101010101010101010101010101010101010101901010101010101010101010101010101015f6b,
   0x11010101010101010101010101010101010101010101010101010101010101010101011101010101010201010,
   0x10101010101010101010101ce4911c7f5b1ed01184a8a51bf8225a5d8f5868010101010101010101010101010,
   0x10101010101010101010101010101010101010101010101010101010101010101010101010101010101010101,
   0x11010101010101010101010101010101010101010101010118101010101010101010101010101010101010101,
   0x1611418718718721d1871871a51871871a5181810101010101010101010101010101010101010101010101010,
   0x11010101010101010101010551110401010113015f5adb06d0431812040403b031304aa1121a7181231811230,
   0x114d1c04010711010101010101010101010101010101010101010101010101010101010101010101010101010,
   0x101028f0101010101010101010101010102b0101010101010101010101010101010101010101010107ccab050,
   0x10101010102010171010101010101010101010101010101010101010101010101010101010101012101010101,
   0x164fd8819f71855a1ced0303a0101010101030201040101010101010105050101010101010101010121020104,
   0x1393a1a1610133a393a29163a396aeba3f5ae883f5cfa2d1fd6a3c8b11611e11a2bb4b2984f2b9d3928d941c,
   0x1494fef562b1193cec0151383a51383a51383a51383a51383c3b3a393a393a393a393a393a393a393a]

/-- General category Lt: titlecase letter. -/
def titlecaseLetter : CharSet := .ofBlocks
  [0x105f01f01c71871871eead04e0202078d]

/-- General category Lm: modifier letter. -/
def modifierLetter : CharSet := .ofBlocks
  [0x157a8019cb01db03bba018ed01ff02bac02cf02c80301903f04149d12cc03ce07be05028d010741e1b4291ae8,
   0x102f01a8181f913c01ea049e52bca06fcae21bd11c90545b07ad02ff03e915fbf1c2801d01ae94c4a01d7e2de,
   0x10111881c18ce15827fc35efa804802eab18159153fc815d05a88e01931cf12d01dc029902e07ad1321d9,
   0x1029bf01edd63997d388e9116134889c]

/-- General category Lo: other letter. -/
def otherLetter : CharSet := .ofBlocks
  [0x15829512f51a7385a2d2d483801b1b83d3d10280221a138011ca114b1913f5d343a1cfb03a834048801f02da,
   0x12a034111612d121182822b0133f111111612d21451801a11e2111d028033301612d212741e2819702a036d7b,
   0x112e1217403e120223a031f12e12176c02e1b3231311011331235102901f2113e034111612d21271b02f11f0,
   0x17f04832f4201911191012f1410117b51c115f7a62011812f3295538218250280258121182911f1113f034119,
   0x128219db1e91f4d18a2317811e23101623148231582310162315981e901c1c42713033452802c5a1eb43b4b17,
   0x16e7295e2e86c192e6e3945b1b423d693e1a18d501492476c14a18b0586b1f211c1e291e2a1d2977619a5391,
   0x115a5041b910181ad406d018cf616161616161616192e386f5fef328fa03115131e93d1a2594b3a5b1a11d3d,
   0x10357e691e6b3d2e131216301cf02d918d69018a11a1f449b184f18b29ee1598ac1881ceff18881f683f291bd,
   0x12decb3d4a2a961619525251e071a3138010242130169303511f2c7122f58141a18245d5e73c392e1a3b1b11,
   0x11b4b225252533e25c1191d928e141ec1b586d27f2a5da491db1111101411c1191018b1d925dd28c8c6842e1c,
   0x110252b871a2d194ee1c6b1bc6b184f1ca19d288744b23d1a4d6712b1d3f5f6833c68d1fa4a1d21e1112a1391,
   0x11981de291d2a1a2d1a6d3b3b174b3c33c5a3c12131f0188166f18e391a2d1a112a1893e192e1a2e203115b,
   0x10102d31e5f1c034a180203d4b3a38485c1d021796c1c2e3b2c5e295a2d1801a3c7b22816594e80134e4b2ef,
   0x12f80112c5f3e22c32a6c5c01039014d10201193e41c02a034111612d21274e5e71911e1310167f12b381294b,
   0x11982a02b5d1b02d074f1a03c010284e271be0101f2f111720273ab5b2f964d3a18f01d5a7b02c5f4c3595e,
   0x12928df1f1c8599c38b3ce1eb919f01fc4911c101f2a58f01e3f11153902d4d11161e83d690294c1183f4838f,
   0x129bef19592bad181bfef2df0519a6ad4f6eb2a52c6b5f2a3d2919e293e718f83bca3d1daf9198e57eba395,
   0x138c11e1113167df023d3cd3a7cc5b2a3d5890495c7ed0299e81971831c51da4c8c69b1831e0223d01f4ca,
   0x1481abbbf18d8c2814125281191013131613201110101010102011121010104060101311910201113a132cfb,
   0x1189bf519d9a2fca18bd4eca19dd1f1ece81e1ba8923bd6188f9]

/-- General category Mn: nonspacing mark. -/
def nonspacingMark : CharSet := .ofBlocks
  [0x112f5a187b25b4121181338019187a1a1bb3a3e04b31125261cd0282c681a198011111015c49944ab1df1c88,
   0x13e11b17018310207a0152e12c04114407911b0313e032214140791203a12c0183407a03d11a6304740106f3f,
   0x119961b18201ca71c6201ba0127019803d12c0183417913c12c15060207a03d11b1731252106f0306a01c07d0,
   0x10191a201861118813e13e13d21eea21aff01f061201d3282413912115131ce0194b11a511411d6f010103b1,
   0x1210311078211234811c18580501410683691f11d68021967201016107a0213bb260191421ee04a11ed0125d,
   0x105139040304a811a814819407afac11db318da3f1c8029d25ffe1b3041c1ba87f38e130604611c122b81277a,
   0x1281f1bc904fce8040203de01815a0115122106b05f01801c1212518b04f123206825e1a3974e01d293a12af,
   0x1144c27d071236921a120591e6e01fb3691a18e319f14fd4189318fd12cd04258351123a8e42ad03ca01f9d1f,
   0x11633de11140151ac02f012271ad11e010101d518e4364d0317912d7302bd0206110221bf0231a186c11c07e7,
   0x1015166ae111c5e22519018325581948041232a804011488111848b41320101cd01520101da110271ad13b11,
   0x101a937f028b867b44f88231b2eb981e601abcd02f010546c11b15bb010311980161110351fa1111622d1aa,
   0x137fc37d05ef62c801cc41116228162da81e142e01e0186946e3efb22ac33e62729218c82e25d199c914eaf8,
   0x13df389beed61dd61bc813fe]

/-- General category Mc: spacing mark. -/
def spacingMark : CharSet := .ofBlocks
  [0x14107a17d37d25901a21231111ce01a12160107a16d1101827a018a27a05b01a121627a16a113182206f04c8b,
   0x11177028903e039f821a025212d6221a13912060412db07f159a12a76219b15a01a212527a11e03c1191112,
   0x10217bfeb119cee02d02db11876813012207c021403e07d11410506802a9518110190107a13c851142235ba,
   0x111926807b13801eb1425d01ff0106a8ab01111113dd051201dd0105d0381211de221416805f129e1f6a11b8,
   0x1101dd0111821e9023623dd02310621da0311821cd011131020721ac11a01922123117a13f22da011321bd01d,
   0x10111816801c15be011443ad020701da01e06af07e13d01ac04318229e0102041153ef019248d041101cf061,
   0x156168deb11d86e78cc248fd8]

/-- General category Me: enclosing mark. -/
def enclosingMark : CharSet := .ofBlocks
  [0x1218ae9b21338be01b8ec12a98]

/-- General category Nd: decimal number. -/
def decimalNumber : CharSet := .ofBlocks
  [0x14ae1918e191ee191c8191ee191ee191ee191ee191ee191ee191ee191ee191ee196bc1938e1928e1938ce1968,
   0x16ae191ae192e1938e194e191ace1918cf8e1961928e191ae192ee196192ce19288194dc194e193d8e1918e19,
   0x1191ce196ce1919c2b6191ce195ee191ee195ae194ae192a8197c19288191cbc196194a8e192e8e1959cae19,
   0x13ef197ee196ce194d88695bac195fdee1918ae1928e191ae194cce1948fae196ce1918e193ee191ae191aae,
   0x11919aae191dad19]

/-- General category Nl: letter number. -/
def letterNumber : CharSet := .ofBlocks
  [0x11de288da428e018079c6c5d9a8197badb21e1839079fe324a59df21bbde]

/-- General category No: other number. -/
def otherNumber : CharSet := .ofBlocks
  [0x119ee2d19e7b1bae0591f38e1965303aad07c81929eb2b28ed196e9182963b9628d21f855f854ced220512ea,
   0x15d21f212c852e419b184f63972cec34c3a5ad12931895c5cba957ade81e4f19481e173e1929a32aac02dd93d,
   0x11cbe64de8e2c1dab2a1dcf186de12d8d2b5fb2b28e61e835a192be3e5c8559a65973871d8419b23e16c18188,
   0x11c1f8a1e15c19c31217a1ec9181ad9e381dc2b1c2b6a8d92e]

/-- General category Pc: connector punctuation. -/
def connectorPunctuation : CharSet := .ofBlocks
  [0x103df23811defbe02b11ffbf01bf]

/-- General category Pd: dash punctuation. -/
def dashPunctuation : CharSet := .ofBlocks
  [0x104fe079c802d901a04d11ceea801df02b06fe03c0413f0207889548990288d0798906b02dbc05d]

/-- General category Ps: open punctuation. -/
def openPunctuation : CharSet := .ofBlocks
  [0x11010106ac0101010104801a8010101010101028fe03e01019fa01f06f04e0304dfe03dbe0107afe03f06a058,
   0x11010103d03af01cecc902010101030101010106dc01010102a039010101028cd049010188010101010101010,
   0x1020303f06a02da010102903010101010]

/-- General category Pe: close punctuation. -/
def closePunctuation : CharSet := .ofBlocks
  [0x1010101010106ac0101010104801a8010101010101028fe03e01019fa01f06f04ed903dbe0107afd03f06b059,
   0x1101010101010103d03b901cecbe12010101030101010106dc01010105c010101028cd0490101880101010101,
   0x1020203f06b02da0101029030]

/-- General category Pi: initial punctuation. -/
def initialPunctuation : CharSet := .ofBlocks
  [0x10301f02040106f98039021201fddc02db]

/-- General category Pf: final punctuation. -/
def finalPunctuation : CharSet := .ofBlocks
  [0x10301f02040106f9803c0301fdbd02fb]

/-- General category Po: other punctuation. -/
def otherPunctuation : CharSet := .ofBlocks
  [0x103f1e6e23d91d5b01ce319a2101d1112c15c020206e05957aa01801afe0711e05018c03b1311a11010221249,
   0x12122bd118f21fc01c8d1819cc02db51df14419a01e8011e2d811a01ba05df01c068e01f901f8029c01a148d,
   0x1224129f01e81136aba191011a32232181871811d8a01b718817e47b31fc23c61a12c851628813b814f93154d,
   0x131fc1281c1c905f1690125811ae35fc51eb01a01cb249d17a88a02fd07926dc221c1013219141a1201111820,
   0x1038f01bcf06be06801abc26ba1204c03b1311a1101022122ad11062731233212c02e026598cc03f912811fe,
   0x101d80111a41ea1114da01db51b82101d04319f16831fe3111dd62fd35c41ef831b9618a61e804e184a803f,
   0x13d9fb15dfc429e802df1c19a11a8d15a41bf03af191bd4121ab71bc02bb249803fc228a019c1c3c21d92e3fa,
   0x111dbe05deb41efcf04eafc058f34cf218d80184189028d1]

/-- General category Sm: math symbol. -/
def mathSymbol : CharSet := .ofBlocks
  [0x11ba14849b3f010213f0702020415418c0644f029b21d24f01d01d8fb2189f01bfe03f04d0405d0107d22805b,
   0x136028b0107d22802cc2101cf801cffbc522c6848923f47e2e28a4881f1a3e245a801df76e01907ad558383e0,
   0x111bcdc03903f03903f03903f03903f03901ccce916ec9]

/-- General category Sc: currency symbol. -/
def currencySymbol : CharSet := .ofBlocks
  [0x131ffee1313bb02ba01dc05af8b018bdef484b8c04ebb0198d048f03ed0717ea17ea01fb02bd931fd04c,
   0x104ee801c9cbe]

/-- General category Sk: modifier symbol. -/
def modifierSymbol : CharSet := .ofBlocks
  [0x11fa811cf1192e7b9cb118abc11d21d21d21b2101bcec02c8a11e01ed28101651d1c31899030406018f0101be,
   0x141fa8af02ca0101dfb285898e11e0]

/-- General category So: other symbol. -/
def otherSymbol : CharSet := .ofBlocks
  [0x1151728d010102c522101f268f059039f028c01528a05ed0188b03ef12b01a039e11ff149a01fa901040202ce,
   0x13e16111113241917a011101e11b04010101561101a113112e8b1819195c9492bd01baa01bab191be8138d351,
   0x113f24e612d5f18883ff1885b5c3ef11de186d11812ee2e19d1a91a2e18f64f393d11a82622b4749c3e10112,
   0x17f1cf884ff1f4e1a3f1f0183d1b3e280194d4819415a81612d01c11d041f3a3ad1c1b81395e15cd53cd1d8,
   0x1474aad069ee0199f139fa5c5f031c1222879184f911d140307cc25d01ff1f59b8e218fd0111a31dc96e5baa8,
   0x1111d176a36f7ff2ad91ae2fa031892d7c43d712e257b24e1a3ed7c1eb2bc6eb283df7dcb058dae0534dd9a28,
   0x1041b61be41ee31c32841baf53fa2ba51e171845b1d3c782c82f4c11e11e21e1c1cb45b1ba9028905dbc03b98,
   0x11bb12aa71861a21e76f51931c21d1c5ab7e141b23d184f619186f41b1f]

/-- General category Zs: space separator. -/
def spaceSeparator : CharSet := .ofBlocks
  [0x107ec805f04c1a4dff01afbf01ff048]

/-- General category Zl: line separator. -/
def lineSeparator : CharSet := .ofBlocks
  [0x10288d8]

/-- General category Zp: paragraph separator. -/
def paragraphSeparator : CharSet := .ofBlocks
  [0x10288d9]

/-- General category Cc: control. -/
def control : CharSet := .ofBlocks
  [0x1481bf3f0]

/-- General category Cf: format. -/
def format : CharSet := .ofBlocks
  [0x171ab9f318c9c81f29dca01f018b8923f901dfa9f19146943a43ffc07cdb01a81688069038802e52daa02dd,
   0x11bf3e038afa8e]

/-- General category Co: private use. -/
def privateUse : CharSet := .ofBlocks
  [0x11ffffd21ffffd3c8bc881cbff1e8888]

/-- Letters with case: upper, lower and title case. -/
def casedLetter : CharSet := .unionAll [uppercaseLetter, lowercaseLetter, titlecaseLetter]

/-- Letters of every kind. -/
def letter : CharSet := .unionAll [casedLetter, modifierLetter, otherLetter]

/-- Combining marks. -/
def mark : CharSet := .unionAll [nonspacingMark, spacingMark, enclosingMark]

/-- Numbers: decimal digits, letter numbers and other numbers. -/
def number : CharSet := .unionAll [decimalNumber, letterNumber, otherNumber]

/-- Punctuation of every kind. -/
def punctuation : CharSet :=
  .unionAll [connectorPunctuation, dashPunctuation, openPunctuation, closePunctuation,
    initialPunctuation, finalPunctuation, otherPunctuation]

/-- Symbols of every kind. -/
def symbol : CharSet := .unionAll [mathSymbol, currencySymbol, modifierSymbol, otherSymbol]

/-- Separators: spaces, the line separator and the paragraph separator. -/
def separator : CharSet := .unionAll [spaceSeparator, lineSeparator, paragraphSeparator]

/-- The characters with a category other than unassigned. -/
def assigned : CharSet :=
  .unionAll [letter, mark, number, punctuation, symbol, separator, control, format, privateUse]

/-- The scalar values that stand for no character. -/
def unassigned : CharSet := assigned.complement

/-- Control characters, format characters, private use and unassigned scalar values. -/
def other : CharSet := .unionAll [control, format, privateUse, unassigned]

end LogSift.Unicode.Category
