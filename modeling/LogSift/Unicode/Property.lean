import LogSift.Unicode.CharSet

/-!
The binary properties of Unicode, and `named`, which lists each with the names it goes by.
-/

namespace LogSift.Unicode.Property

def asciiHexDigit : CharSet := .ofBlocks
  [0x153a571968]

def alphabetic : CharSet := .ofBlocks
  [0x111011d4f586024d12cd1829a11aa12b1012106013211293d01ae010741e1b479913e12e50401a05f39639189,
   0x119b6631b1a5918018512f51a7382b2a22f50411948381cc1d5f280221a2474711cd1e616f51a3d343a180111,
   0x112118121b529013704121444111111612d214512401a11c4114018011212733301612d212712a1d1e4211f1,
   0x15806032123441b3231311011331235112801d41141191212734111612d212712432d31f0311211834111612d,
   0x12f32912152e473501212172581211c1c21d3116118212173411912e1217133c3202211182121731f12e1211c,
   0x14d231a7f2842016e18b4b11f42a44b177f04831e060142212a1012f1410116b0665791d12a71015186201181,
   0x12b1c2c1b2b71a319a539128219db3521ad281f4d18a2317811e231016231482315823101623159c15a20501,
   0x1596b711e16b6921b12f06a2b27e43b6e3945b1b423d2f1841b13e1a18d55a71b818b0401e2a26b1c11211c1c,
   0x1251c45233612301616c23e101010172524d2524ad1b492b2ff5031151359225a51a24b1a22e6e1e1a15b1a32,
   0x161616192e28076f205014d1c13363cc3cae6b1cdd58290445321a13101010643011920401cd1c2801d01ec61,
   0x111a1f349c25d18b5ba9c1881ceff18881f683f291bd15a5311b91261ad44247183927ad05f3f16161616161,
   0x11d196e141a1f2801f1b16a33c1d4a5481a210355c0118b1c6b384812b2d71011218a21ce2184f1e83755e2c,
   0x1111101411c11b541c64e1d925dd28c8c6842e1c2decb2d1fa61d15a161619525251b321f2238010118c32e2a,
   0x13f5f6833c49b6c18d1fa4a1d21e1112a13911b4b225252531b81b396394c28e141ec1b586d27f2a5da491db1,
   0x1102518d18159153871a2d194ee1c6b311611e11a111611e11a1c6b184f44b44b2a2bd5a41744b23d55a53d1d,
   0x11981de291d2a1a2d1a6d3b3b174b3c33c5a3c12175113188166f18e391a2d1a112a1893e192e1a2e203115b,
   0x14a183296a2f381d019781a45b18d192e3b2c5e295a2d1801a3c306f2281311593fa2e5033b4a4f1d6a1d6a6f,
   0x12011914d10201193c6506031212734111612d2127132f7871911e1310167e3602491294b0101a119317f1903,
   0x113d111720273f7f1cf782f962d1d23a18f026d7b03017e4a539626d2f801121893e22c31211895c010311310,
   0x111153812012111035b11161991d12d23d6901615c1183f4838f1982a0518f291926a3b1101525d271bd32121,
   0x1718f83ba95e1daf9198e57eba3952928df1f1c8599c38b291de1ce1eb919f01df2358128192e58f0131114c,
   0x14ca11161329bcf19592bad181bfef1e11c01118828778419a2887f3ab5c6e82a52c3f3285f2a3d2919e293e,
   0x125ab1630141313b1617231188161011b13212021118e11ac1bdc9041971831c51da4c8c69b1831e0223d01f,
   0x13d3cc3b7cc5b2a3d58902861a5c1e80497d541116228163ad563e3cec713813e13813e13813e13813e138138,
   0x11013131613201110101010102011121010104060101311910201113a132aec030318b7b38c11e1113167df02,
   0x1189bf519d9a2fca18bd4eca19dd1f1ece81e1ba8923bd6188f9481abbbf79ee3963963919ec281412528119]

def bidiControl : CharSet := .ofBlocks
  [0x136f43a11cfe9038bc]

def bidiMirrored : CharSet := .ofBlocks
  [0x117101119352910518401013133130353338802e911e16e11a14ebc13dbd379fe01f05d0103d0103c0102a158,
   0x151a12210442114403570181d1522d6ab1d32535211132019a1d28fd1712c3181f22f412419152a211905323f,
   0x172196db75b19211e11133188b0488014304254301054f1725a412113411b138261531020102312a1c12,
   0x107907907907901dbdef11110103d0103c0102a12ca1551cf8fd]

def caseIgnorable : CharSet := .ofBlocks
  [0x171cd0282c1a04b011a1a51b05c011111015c6905039f63fb0111904142ff7ef12040104018f0104b01b0604f,
   0x14140791203a12c0183407a01f01d11a6304740106f79591851705c25b2f3802041a7a1a1bb3a3e0104931191,
   0x112c15060207a03d11b1731252106f0306a01c07d03e11b17018310207a0152e12c04114407911b0313e03221,
   0x113912115131ce0194b11a511411d6f010103b11996101918201ca181b6201ba0127019803d12c0183417913c,
   0x1107a0213bb260191421ee04a118906b45d05031a201861118813e13e13d21eea219c801be01f061201d32824,
   0x14a01d7e6a130604611c121aa51881277a210311078211234811c18580501410683693e1804f021967201016,
   0x1054334c07ad05f3f1c801f01fd21e915e9b486b1c2801d01191469420201a11841c11d21d21d21b2106fd1cc,
   0x15e1a3974e01d293a12af0513904030181321cf22f019e491e11a833c0119131ca049e52bca06fcae21bd51bd,
   0x131f18fd282ab04fce8040201f921941cc011511e03b0115122106b01b04b01801c1212518a12d02912320682,
   0x14e318fd12cd0425835112198e1815915288d42ad03ca0188922d018b15d05f0104b01b060702d90204a1f1c0,
   0x12bd0206110221bf0231a186c11c07e7144c26a01a04021236921a120591e6e01fb3691a18e319f14fb0143a0,
   0x1320101cd01520101da110271ad13b111633de11140151ac02f012271ad11e010101d518e4364d0317912d730,
   0x1010311980161110351fa1111622d1aa015166ae111c5e22519018325581948041232a804011488111848b41,
   0x13116abe116134889b111188287f07ca15827fc31967b44f88231b2eb981e6281abad02f010546c11b15bb,
   0x13fe47fb37d05e81d2c80497d541116228162da81e142e01e0186946e3efb22ac33e621f19218c82e25d199bc,
   0x13df2881bf3e0388e88945adf71dd61bc81]

def cased : CharSet := .ofBlocks
  [0x14d5caf58194d12cd1829a11aa12b101210601321235a01c843e174b139f43138a13e12e50401a05f39639189,
   0x101d01ec61251c45233612301616c23e101010172524d2524ad1882ff188225a51a4a8a521ad1ac8315a20501,
   0x17d1331cd28c3d2a5d7ccaa05014d1c13363cc3cae6b1ce9133f2904453204513101010643011920401cd1c28,
   0x159122078b11611e11a111611e11a1ec4b44b1c819f2acd39639289941c64fd8819f61d15a1ced2142d710112,
   0x125ab1630141313b1617231188161011b13212021118e11ac6ae887f5adc87f5cba2d1a2d1bd6a1d6a2b8d181,
   0x1396396393fdc18b4aaa7d48d562b1193cec713813e13813e13813e13813e138138]

def changesWhenCasefolded : CharSet := .ofBlocks
  [0x10101010101010102010101010101010101010101010101010101010101010101010101048712e1a01ba39189,
   0x10121110201110101111321113221110111010101110101010101010101010101010101010101010101010111,
   0x10101010101010101010101010101010101010121011201010101010101010201010101010101011111170311,
   0x101010101010101011321c02e18128111012106018030105a03ee010101013102111701010101010101010101,
   0x11010101010101010101010101010101019010101010101010101010101010101010686a21101121101010101,
   0x11010101010101010101010101010101010101010101010101010201010101010111010101010101010101010,
   0x11010101010588225a6194a8a51cda05014d5cb80684d20101010101010101010101010101010101010101010,
   0x11010101010101010101010101010101010101010101010101010101010101010101010101010101010101010,
   0x11010101010101010101010101010101010215010101010101010101010101010101010101010101010101010,
   0x101010101b51871871a518719010101010101010101010101010101010101010101010101010101010101010,
   0x10101010101010101218020131010102210685f3ce8391cea02b1f5d061304d9522541c31b522552225f28718,
   0x14010180101010101010101010101010101010101010101010101010101010101010101010101010101010101,
   0x10101028f0101010101010101010101010102b0101010101010101010101010101010101010101010107cd9d0,
   0x110401010101110101a0101010101010101010101010101010101010101010101010101010101010301010101,
   0x12b8d39289941c64fd8819f1dfa03801010105031101310101010101010141410101010101010101010301020,
   0x1497dac83f5ae883f5cfa2d2bd6a3bda11611e11a2bc4b2984f]

def changesWhenCasemapped : CharSet := .ofBlocks
  [0x11231235a02ce11a05531102070211024131131101113a62911bc401121d23b11ab17f13e12e1a07a39639189,
   0x11022bb1e90280302f9225a51a4a8a521ad1ac8225a205014d5cb84e1a4d12cd1828c1414835e12b10121060,
   0x11c13371cd711111e83cae6b1ce9133f2903b061304d961251c45233612301616c23e101010172524d2521ed,
   0x144b1c819f2acd39639289941c64fd8819f3c01dbc13864123d138142231e197d21d28e3b2a5d7ccaa05014d,
   0x118b7da887f5adc87f5cba2d1a2d1bd6a1d6a3b8b11611e11a111611e11a1ec4b]

def changesWhenLowercased : CharSet := .ofBlocks
  [0x11020101010101010102010101010101010101010101010101010101010101010101010101049612e1cd39189,
   0x17031101211102011101011113211132211101130101110101010101010101010101010101010101010101010,
   0x11010101010101010101010101010101010101010101210112010101010101010102010101010101010111111,
   0x10205010101010101010101010101804b18128111012106018030104c90101010131021117010101010101010,
   0x1101010101010101010101010101010101010101010101019010101010101010101010101010101010686a211,
   0x11010101010101010101010101010101010101010101010101010101010101010102010101010101110101010,
   0x110101010101010101010101010588225a604aab1ad1baa05014d5d994d201010101010101010101010101010,
   0x11010101010101010101010101010101010101010101010101010101010101010101010101010101010101010,
   0x10101010101010101010101010101010101010101010101010101901010101010101010101010101010101010,
   0x141b41871871873871801010101b51871871a5187190101010101010101010101010101010101010101010101,
   0x101010101010101010101010101010101218020131010102210685f3ce8391cea02b1f5d061304d941b41c31b,
   0x110101010107cd9d0401018010101010101010101010101010101010101010101010101010101010101010101,
   0x101010103010101010101028f0101010101010101010101010102b01010101010101010101010101010101010,
   0x1101010101030102010401010101110101a010101010101010101010101010101010101010101010101010101,
   0x12d2bd6a3bda11611e11a2bc4b2984f2b8d395bcdb0380101010503110131010101010101014141010101010,
   0x1497dac83f5ae883f5cfa]

def changesWhenTitlecased : CharSet := .ofBlocks
  [0x101110101010101010201010101010101010101010101010101010101010101010101010101712f5907a391c9,
   0x10103020103020402010102022302050302010221010201010101010101010101010101010101010101010101,
   0x10301010101010101010101010101010101010101030101210101010101010101110101010101010101111104,
   0x123114a3b02a23030105b02ce11a0553110207021102413113110111510101010401120180101010101010101,
   0x11010101010101010101901010101010101010101010101010101015f6c020201410101010101010101010101,
   0x11010101010101010101010101010101010101011101010101010201010101010101010101010101010101010,
   0x1101ea0280303de01184a8a579e84e69010101010101010101010101010101010101010101010101010101010,
   0x11010101010101010101010101010101010101010101010101010101010101010101010101010101010101010,
   0x11010101010101010101010101010561010101010101010101010101010101010101010101010101010101010,
   0x11871871a51871871a51818101010101010101010101010101010101010101010101010101010101010101010,
   0x110101010101010101a020601010113015f3d8e391d9b041f4905ae1121a7181231811230611418718718721d,
   0x10101801010101010101010101010101010101010101010101010101010101010101010101010101010101010,
   0x1101010101010101010101010102b0101010101010101010101010101010101010101010107ccab05014d1c04,
   0x101020101a01010101010101010101010101010101010101010101010101010101010103010101010101028f0,
   0x141c64fd8819f3c01dbc03a010105030201040101010101010101b01010101010101010102110404010101,
   0x1497daca3f5ae883f5cfa2d1fd6a3c8b11611e11a2bb4b2984f2b9d3928d9]

def changesWhenUppercased : CharSet := .ofBlocks
  [0x101110101010101010201010101010101010101010101010101010101010101010101010101712f5907a391c9,
   0x10103020103020402010102022302050302010221010201010101010101010101010101010101010101010101,
   0x10103010101010101010101010101010101010101010301111101010101010101011101010101010101111115,
   0x10123114a3b02a23030105b02ce11a05531102070211024131131101115101010104011201801010101010101,
   0x1101010101010101010101901010101010101010101010101010101015f6c0202014101010101010101010101,
   0x11010101010101010101010101010101010101010111010101010102010101010101010101010101010101010,
   0x1280303de01184a8a51bf8225a5d984e690101010101010101010101010101010101010101010101010101010,
   0x11010101010101010101010101010101010101010101010101010101010101010101010101010101010101ea0,
   0x11010101010101010101010561010101010101010101010101010101010101010101010101010101010101010,
   0x11a51871871a51818101010101010101010101010101010101010101010101010101010101010101010101010,
   0x101010101010101a020601010113015f3d8e391d9b041f4905a9041121a71812330411230104116c21d187187,
   0x11801010101010101010101010101010101010101010101010101010101010101010101010101010101010101,
   0x1010101010101010101010102b0101010101010101010101010101010101010101010107ccab05014d1c04010,
   0x120101a01010101010101010101010101010101010101010101010101010101010103010101010101028f0101,
   0x141c64fd8819f3c01dbc03a010105030201040101010101010101b01010101010101010102110404010101010,
   0x1497daca3f5ae883f5cfa2d1fd6a3c8b11611e11a2bb4b2984f2b9d3928d9]

def dash : CharSet := .ofBlocks
  [0x1079c802d901a04d11ceea801df02b06fe03c0413f020688c068e01f04f07d548990288d0798906b02dbc05d,
   0x104fe]

def defaultIgnorableCodePoint : CharSet := .ofBlocks
  [0x138afa8d71ab9f31beacf1819f02c803df1f1ceabb018bec1f6943a43ffb41ad139ab15d8a01b9c01ac902dd,
   0x17fff]

def deprecated : CharSet := .ofBlocks
  [0x103bdebae11af954b8d148d90104c8b02cd90599]

def diacritic : CharSet := .ofBlocks
  [0x114a1a7a1a1bb3a18b2314128e14728e0111013a1286f03a943fd1190412955712be7ef120406018f0101be,
   0x101df01fc02811dd02801de02801de01ef0702807c25f02801de02801de028019a03c3302807d3b28195971fe,
   0x10272c04cc25bb0191a2ac03e11eec21b8911a01639441581101e807e11218a14010103b119b41d01db0151c,
   0x104fd26be811d21d21d21b2106fd1a4d1b1b97e6a220604381aa5188118a11b07a16e184e01f01d81a21e68,
   0x141cc06b318922ad04c01c01bf04c379293b02af04d01c11dd21ce491e11aa13c0111c07adea01bf31d957fa,
   0x13883691a18e269f43a04e518fb12cd04219fd18159152abf01bfc018b15d05f01049e1f1c8904fce81288219,
   0x104148a149d01eb11ee01fe13fb11fb0301bf11d1121b94363802811a812ea11d8219019c07e11f811980590,
   0x11fc89116133fffe11a82818ca118ec67b44f8802ebb91e1abdc02f16d901a911048a06cd01a902a01ab02bc,
   0x12121dd61bc811bfe37d05ef638a7d7a8a33e6271853218c82e25d]

def emoji : CharSet := .ofBlocks
  [0x11102040212020194137a01901a13cf038f241a3902ce01c15df11f51ba02e03b801c01fe9d0401df1950604b,
   0x10603060101020152020402315512c110115021511b14120513110152a1202a01110211b1b50105218130302,
   0x119201e11c12c8039a03bedda01019b901c02bba0406b12b279f15ec01e01e01926811b012401040201f11a,
   0x14010221821c250191180211d14023201c72172f151b7e148e1221aa221121df2492de12d18202c02f113919b,
   0x11861a21e76f51931c1e82f811915e4bb041b3cb192031103194227518d681ad603060]

def emojiComponent : CharSet := .ofBlocks
  [0x11bf388b9dc32ee847fb391f9fae01decdb03ad01ffab1950604b]

def emojiModifier : CharSet := .ofBlocks
  [0x143f9ffb]

def emojiModifierBase : CharSet := .ofBlocks
  [0x102018ff01b01922801ab4322de1402d04139903801072124032a2d1a211ed220227c03ce9ef32803bb02b8bd,
   0x1185a23cd1c1229011117d07822191906718]

def emojiPresentation : CharSet := .ofBlocks
  [0x11dbb01e03827d01240104b03c14070204011702d050181512911801d02b05b1b6a12d118990203339d129cba,
   0x131d7e22fa10118e303281c445a1c2d118d1181c482de12d214202c038013919b19202fe039a03caade0406b1,
   0x11861a21e76f51931c1e82f811915e4bb041b3cb18711b3422230618d681ac1ae01d13a02a2f1]

def extendedPictographic : CharSet := .ofBlocks
  [0x101011a21ed1a1e911b15137a01901a13cf038f241a39018e01bf01c15df11f51ba02e03b801c01fe9d0402d9,
   0x11c57c03f21d3ff3bedce01019b901c02bba0406b12b279f15ec01e01e01925d41b012401040201f11a060306,
   0x16f811915e1c7d231c13e75851a77831c5a1ad1b1ec1ff68499184fd56e9193118202c01a1e3b782a19201e1,
   0x11ffd488]

def extender : CharSet := .ofBlocks
  [0x12fee06fcae21bd11cf45b019e99018c069e019cb07804d8b01ff01be801b90299019ee06f901dde118b802ef,
   0x102ae9178db80112abc158ad902b9f27ea11ec04cd02b8f0403b02f9b148a805a9fb12d01dc029902e01f8a0,
   0x121dac]

def graphemeBase : CharSet := .ofBlocks
  [0x1023f402160181cc11f2d5d101b1929543a1902020105e226924d12cd73bf12b101645271e819a911c491be48,
   0x1121611033301612d21271113c21972131831016e7959293e51a1053811e703019042f36195a1e01b1b83d3d1,
   0x11612d21271118071b411f0311018334111612d12118101c01221970133824111111612d21451052f42111d01,
   0x111a1197194120222b33031f12e12171262c2d03212311051b3231311011331235101b2942111f12160203411,
   0x11871b115f1c221976611962011812f329112394191241121251102581211a1e2119411138110213411912e12,
   0x12111c41f3323821206045c4d1c151769420502a4b11d101013a22f48321919014201911191012f1410114d1c,
   0x11e2919132a1d2971b831abc2521ad63933c518a2317811e23101623148231582310162315f8205014f11e15,
   0x11019016f3127831a63945b1b4259307511422343e1a18d501492471b861951a6196193181b1177026b1f211c,
   0x14ad1882ff50221513701d01b1a25a57d31e51185f1d0122016f6143f21b193c17331a5f1ae1d6196191d5181,
   0x15135af13f23cab2d1a2e1ab9429b7f4831c13a21286872f51a1181222a1521d11e16c23e101010172524d252,
   0x13799dc15f191ad11bd15a51cc41ad11f6793a3ad1c1b81394a1bd49616161616161616192e1f176f205015c,
   0x1214115f63d1c01b38184d11c381b1a18b186f61944238131211f2d71011239d185219f23f1a045e2c5bb196e,
   0x142e1c2decb619331111ec47b161619525251b72283801024213016a13f2192017121b1216581381641a11c11,
   0x1163225252533e22bc428e144312a14a2e19281f48076d26fc281fc1111101412f10541c64e1d925dd28c8c68,
   0x144b61922bd5a1d44c13d1a4d53d194b43a286833c28b5c5f031c11af35c4251fa4a1d21e1112a13911b211d6,
   0x13485112a68181818f12e203115b102518d18159153871a2d194ee1c6b311611e11a111611e11b1b6b184f44b,
   0x1182f184d6191c5976a1d6a6f1981a861c373953a23c36d191b64c487f7187181a3c12131f5e22b46f188053a,
   0x1182919054b19197381e311214681c02113d461f6d10192e2c3b4e34292e181b2d184f7b22812035913e3a81,
   0x161c0312123101034111612d21271118191d215e61a11e1310167f1154133b1291b2b11f114710196b1b214a,
   0x132011186a4c3a20236115e2ce19183202011106115f3e21012c1031186f4f1121031101f11014d10201193c,
   0x1318592718e1919213611412f111720271c1aa1cc020195e2f92e190411033a3c2b619611811015a2b1c6191b,
   0x1156191902d4d111619b02070393f33c1a5101e4d1186191e492ee1971981d18201d5d31601974164f1a03b31,
   0x1198e57eba3952928df1d1ca599c38b1b411de1ce1eba1d691f01ae2e31184b11e19322a4ee1970101144c11,
   0x13c31881c1b6f519a1cd1ba38e796e82a52c161191a1e75f1a073d61911a841913e718f83b8e19321c3d1daf9,
   0x13ed7c1eb2bc6eb63f97dc802021971831c51da4c8c69b1831e0223d01f4ca11161329bcf19592bad181bfef,
   0x130141313b1617231188161011b13212021118e11ac28f38191ae1c2b1c2b1fa031892d7c43d712e257b24e1a,
   0x1167c8041a23d3ae1943b7a8051945b2a3d5881419261a5c2aa7d48d563e29ec611d176a36f18e924cb25ab16,
   0x1201110101010102011121010104060101311910201113a1338a7c19c18b1ca9141940718b6818238c11e1113,
   0x141ee31c32841faf2ba51e171845b1d3c782dd1a4c11e11e21e1c1cb45b49e16c2814125281191013131613,
   0x123bd6188f9481abbbf288e1cd12aa71861a21e76f51931c21d1c5ab7e141b23d184f619186f41b1f041b61be,
   0x1189bf519d9a2fca18bd4eca19dd1f1ece81e1ba89]

def graphemeExtend : CharSet := .ofBlocks
  [0x112f5a187b25b4121181338019187a1a1bb3a3e04b31125261cd0282c681a198011111015c48f64ab1df1c88,
   0x127018311107a0152e12c04114407911b0313e032214140791203a11a019018320107a03d11a6304740106f3f,
   0x1012204019803d11a019018320117913c11b173123011207a03d11b1731252106f0305801901c0107b03e11a,
   0x131eea21aff01f061201d3282413912115131ce0194b11a511411d6f010103b119961b18201ca71c6201a9018,
   0x11c184e2419683693e68021967201016107a0213bb260191421ee04a11ed0125d0191a201861118813e13d23c,
   0x11a814819137afac11d9518da3f1c8029d25ffe4838b0189c7f38e130604611c122b812778410311078523481,
   0x1203de01815a0115122106b05f01801c1212518b04c02123206825c011a3974e01d293a12af05139040304a81,
   0x11e6e01fb3691a18e319f14fd4189318fd12cd04258351123a8e42ad03ca019bd15de1f281f1bc904fce8040,
   0x11020152018b4361e01901c010117912d7302bd02063221bf0231801186c11c07e7144c27d071236921a12059,
   0x10431a03ed111848b41320101cd720101da110271ad13b11163203db111102015201a902f012271ad11e01242,
   0x102f2546c11b15bb010311980161110351fa1111622d1aa015166ae111c5e22519018325581948041232a8,
   0x10186946e3efb22ac33e6271853418be2e25d199c914eadb11b01a937f028b867b44f88231b2eb981e601abcd,
   0x13df2881bf389bbad61dd61bc813fe37fc37d05ef62c801cc41116228162da81e142e01e]

def graphemeLink : CharSet := .ofBlocks
  [0x118e11cd03cb01a9d02bd03e13bb912ec039901ff01df01fc02811dd01ff01ff01ff01ff01ff01ff01ff04d9d,
   0x101ff01e9228801ca02ec01ec029b11f907901e0590388e05f9a903ee04ed01dc029e02af04d07da8e018e9b1,
   0x1048fdc16d901a9148c06cd01a902a01ab02c9148b049d01ec01ee01ff03fc]

def hexDigit : CharSet := .ofBlocks
  [0x153a57191ffad953a571968]

def hyphen : CharSet := .ofBlocks
  [0x101af02d901cedcf01bcb0788d148990199fb02bbc01ff05d]

def idsBinaryOperator : CharSet := .ofBlocks
  [0x107e919212ffe8]

def idsTrinaryOperator : CharSet := .ofBlocks
  [0x112ffea]

def idsUnaryOperator : CharSet := .ofBlocks
  [0x112fffe]

def idCompatMathContinue : CharSet := .ofBlocks
  [0x103903f03903f03903f03903f03903baaca02e0405eb1e11a301feee0512ea]

def idCompatMathStart : CharSet := .ofBlocks
  [0x103903f03903f03903f03903f03903baaca02e0402988a]

def idContinue : CharSet := .ofBlocks
  [0x1015c18586024d12cd24129a11aa12b101460132111ec29010741e1b479913e12e5020101a05f391043971968,
   0x112d212712a1192288119a18512f51a43b2a5d202046d1e1cc27a28022a1192711cd419951a3d343a18011111,
   0x10221211924111612d12118121b1f701370322144102111111612d21451220101a1b24114018321218233016,
   0x112e1211c28191e06023123441b323131101133123511280119241142722121824111612d212712161919231f,
   0x111812f32912151a192473541216a1211c1c211923116173121182411912e121713281923202211731211821f,
   0x1790194b12912b44b1194010101b19612f048321916101422e1012f1410114f1911e5791d1219671015403620,
   0x1539128219db3521ad281f1e18192218a2317811e231016231482315823101623159c15a205014d219d6199,
   0x117e43b4d1a63945b1b424f1a1b41b13e1a18d55a71b861a124919214031ab1c11211c1c2b1b2d192d71a319a,
   0x1616c23e101010172524d25218ad54e1228225a51a268319186f1c1eb1c182919319c691f11d1801d1961a23c,
   0x11c1863cc59ef58290445321f10101065201192040291b3041c6b1c2801d03c02b16911f61251c45233612301,
   0x11881ceff18881f683f291bd15a51be1621ad442411e392188d3f1616161616161616192f1f076f205014d,
   0x11a1e18833c1c4b2681032f6191a18d1c6b2b046d2d71011218a21ce2184d1ea11945f2c3b349c25d18b5ba9c,
   0x1541c64e1d925dd28c8c6842e1c2decb6192111fa61d15a161619525251a421f223819832e61921d196e13e6,
   0x112a13911b4b225252531b91a39104397192b28e1448238131f281f41b586d27f2a5da491db1111101411c11b,
   0x11a111611e11a1c6b184f44b44b61922bd5a41744b23d55a53d1d3f3f01f6833c28a02986c18d1fa4a1d21e11,
   0x112175113188166f18e391a2d1a112a1893e192e1a2e203115b102518d18159153871a2d194ee1c6b311611e1,
   0x1481801a486f2281311593fa2e1434d619184f1d6a1d6a6f1981de291d2a1a2d1a6d393d174b3c33c4804223c,
   0x11957a71911e1310167e364c1294b011c13418c19024b18341916c6197381d077b191f3f18e192e3b2c5a2d3f,
   0x12f1826d2ce19180118d3e3419519a3d11d713102011914d10201191b436265060222121914111612d2127136,
   0x1180187e3b11725d2718e191c182113d111720272d1991cd7a2f9661941e23a3c2b6197784e191b031884a5,
   0x158128192e4ee19751114c11156191818111035b11161991d12d23d38191f1815c1186191f4838f1982a03199,
   0x123d619119e61913e718f83b8e791daf9198e57eba1a2d2828df1f1c8599c38b291de1ce1eb919f01ad1a1d43,
   0x101f4ca11161329bcf19592bad181bfef1e11b11118828778419a2887f38e1935c6e82a52c19191c3196e1b4,
   0x111b13212021118e11ac6fb22ac33e6271853418be2e25d188e19189a9131971831c51da4c8c69b1831e0223d,
   0x129a81e142e01e0186946e1888692713813e13813e13813e13813e13813825ab1630141313b16172311881610,
   0x1132ace19419b5961b38c11e1113167cd5a3ae597ae79293e589041921d35c1e80497d541116228163ad563e,
   0x1481abbbf288e196cec2814125281191013131613201110101010102011121010104060101311910201113a,
   0x13df2ddeda8189bf519d9a2fca18bd4eca19dd1f1ece81e1ba8923bd6188f9]

def idStart : CharSet := .ofBlocks
  [0x15a5d343a18f586024d12cd1829a11aa12b10121060132114289010741e1b479913e12e50401a05f39639189,
   0x112741f1f19702a036d7a5929512f51a7382f03019042d504119483801b1b83d3d10280221a1711f011ca114b,
   0x1111612d21271b02f11f02a034111612d121182822b0133f111111612d21451801a11e2111d028033301612d2,
   0x1121182911f1113f03411912e1217403e120223a031f12e12176c02e1b3231311011331235102901f2113e034,
   0x1452802c5a1eb43b4b177f04832d014201911191012f1410117a61c115f7a62011812f3295538218250280258,
   0x1539128219db3521ad281f4d18a2317811e231016231482315823101623159c15a205014d2901c1c42713033,
   0x13d6e7295e1bd01aa6c192e6e3945b1b423d693e1a18d5015871b818b0404b6b1f211c1e291e2a1d2971a319a,
   0x11ec61251c45233612301616c23e101010172524d2524ad1882ff5031151359225a51a24b1a2594b3a5b1a11d,
   0x1616161616161616192e28076f205014d1c13363cc59ef58290445321f101010652011920401cd1c2801d0,
   0x1184f19f23e285e2c11a1f349c25d18b5ba9c1881ceff18881f683f291bd15a5311b91441ad442471839218ce,
   0x11301693032e2c7122f58141a19142803c5e73c392e1a3b1b110357e691e6b3d2e131211f2d71011218a21ce2,
   0x11db1111101411c11910541c64e1d925dd28c8c6842e1c2decb3d1ea61d15a161619525251c271a2238010242,
   0x13d1d3f5f6833c49b6c18d1fa4a1d21e1112a13911b4b225252531b81b396394c28e141ec1b586d27f2a5da49,
   0x115b102518d18159153871a2d194ee1c6b311611e11a111611e11a1c6b184f44b44b2a2bd5a41744b23d1a4d5,
   0x16a6f1981de291d2a1a2d1a6d3b3b174b3c33c5a3c12131f0188166f18e391a2d1a112a1893e192e1a2e2031,
   0x131e5f1c034a180203d4b3a38485c1d021796c1c2e3b2c5e295a2d1801a3c7b22816593fa2e193b4e4b1d6a1d,
   0x112c5f3e22c32a6c5c01039014d10201193e41c02a034111612d21274e5e71911e1310167f12b381294b0102d,
   0x15d1b02d074f1a03c010284e271be0101f2f111720273f7f1ec5b2f964d3a18f01d5a7b02c5f4c3595e2f801,
   0x138b291de1ce1eb919f01fc4911c101f2a58f01e3f11153902d4d11161e83d690294c1183f4838f1982a02b,
   0x10519a2887f3ab5c6e82a52c3f3285f2a3d2919e293e718f83bca3d1daf9198e57eba3952928df1f1c8599c,
   0x11118e11ac1bdce1971831c51da4c8c69b1831e0223d01f4ca11161329bcf19592bad181bfef3c0111881c18a,
   0x15c2aa7d48d563e3cec713813e13813e13813e13813e13813825ab1630141313b1617231188161011b1321202,
   0x102011121010104060101311910201113a132aec0718b7b38c11e1113167df023d3cc3b7cc5b2a3d58902861a,
   0x12fca18bd4eca19dd1f1ece81e1ba8923bd6188f9481abbbf18d8c28141252811910131316132011101010101,
   0x1189bf519d9a]

def ideographic : CharSet := .ofBlocks
  [0x1481abbbf4ec8c69b2a9cf19592bad181bfef3b07ac9a1d925dd5cc8858fff1881ceff1f8d21e183913888e,
   0x1189bf519d9a2fca18bd4eca19dd1f1ece81e1ba8923bd6188f9]

def joinControl : CharSet := .ofBlocks
  [0x112889c]

def logicalOrderException : CharSet := .ofBlocks
  [0x111021198bfa0225be841fb47988]

def lowercase : CharSet := .ofBlocks
  [0x1101010101010111010101010101010101010101010101010101010101010101010101712f4c0401a05f391c9,
   0x11030201110201010202230204130201022101020101010101010101010101010101010101010101010101110,
   0x11010101010101010101010101010101010101030102110101010101010101110101010101010102020622120,
   0x11010101010101010123114a3b02a32030105b01c843e174b118c101010104011202610101010101010101010,
   0x1010101010101010101010101010101010101901010101010101010101010101010101015f6b1202014101010,
   0x10101010101010101010101010101010101010101010101010101010111010101010102010101010101010101,
   0x1101010101010101892ff1ed01184a8a51bf8315a5d8f58680101010101010101010101010101010101010101,
   0x11010101010101010101010101010101010101010101010101010101010101010101010101010101010101010,
   0x10101010101010101010101010101010101010101181010101010101010101010101010101010101010101010,
   0x118718721d1871871a51871871a51818101010101010101010101010101010101010101010101010101010101,
   0x10401010113015f3d8e391d9b041f490431812040403b031301dd1c2801d01f91121a71812318112306114187,
   0x10101010101010101010101010101010101010101010101010101010101010101010101010101010101037111,
   0x11010102b0101010101010101010101010101010101010101010107ccab05014d1c0401071101010101010101,
   0x1101010101010101010101010101010101010101010101010101210101010101028d210101010101010101010,
   0x10101010103020104010101010101010505010101010101010101012102010401010101020101191010101010,
   0x15cfa2d1fd6a2c8d18159122078b11611e11a2bb4b2984f2b9d3928d941c64fd8819f61d15a1ced210122e01,
   0x1383a51383a51383c3b3a393a393a393a393a393a393a393a393a1a1610133a393a29163a396aeba3f5ae883f,
   0x1494aec7d48d562b1193cec0151383a51383a51]

def math : CharSet := .ofBlocks
  [0x111920402a4413041c18941b42d31e01d0301b23b01d89d2189f2213a0221bb803f04d0405d0103d03f22805b,
   0x11b520101e43121454191c16fd61b038013a3e01ba12c31849b1e16013f41411512f18c011d35121121306520,
   0x11118e11ac1cb9e816ec936028b0103d0103d22802ca0151cef01cffbc522c687ff4887f5a821933d01079157,
   0x110102011121010104060101311910201113a131b8886924cb25ab1630141313b1617231188161011b1321202,
   0x116c28141252811910131316132011101010]

def modifierCombiningMark : CharSet := .ofBlocks
  [0x103f032117c91306028b02139ac]

def noncharacterCodePoint : CharSet := .ofBlocks
  [0x111ffffe11ffffe11ffffe11ffffe11ffffe11ffffe11ffffe11ffffe11ffffe11ffffe1189e3f1fefa8,
   0x111ffffe11ffffe11ffffe11ffffe11ffffe11ffffe]

def otherAlphabetic : CharSet := .ofBlocks
  [0x1216e2b6631b7c01da312118311cd1a1ce1f3e04b04123461cd028611c681a198011111011d19881c3d01d8d,
   0x15801a212347b03e11a119121267a2422e12d112177a21b0313e04121447a23d11a01a121267a23d11a25111e,
   0x12a2cb028115201cb02a6207d12a7101519b23d11a01a212167a31c01f11b118212167a23d11b11821216794,
   0x121b119a2b2197943be1841b1ee04a12fc2a18a13e13e13e139ec31a011b1d3362212432f32011b1de4b11a19,
   0x11b6835d1b3c44e079011f6a11b842f01805ca14a77c9ec3f4bee6b3b89496bc2a6a1a7912183e27c1e68469,
   0x15d21b15d1d6d248b019f1589018931cac351123a8e449af04fceb73dd0545c05122106a25d11801c1d18b04d,
   0x16263dd291da211c1cf11310201181ac11a01a121267a32f192bd020602181bc11e1c6827912a1b4c27d01918,
   0x10121110351fa1d12d1ab6176af1d5e1a2a3145a193c0452629e0103121153ef1c4891d1cf1a1da011e1aa13d,
   0x1396396393fd804aef01cc411162281629dc904eadc11bd376e1078c82848fbd236680111935bc3111418a03]

def otherDefaultIgnorableCodePoint : CharSet := .ofBlocks
  [0x1789f3e81ff1c83d103a8888f1819f01cf8fb018bfe04adf139ab1789f01d9f]

def otherGraphemeExtend : CharSet := .ofBlocks
  [0x11188c9028b8118f01cd1501050288803e04ced01f01ef03801cf11911140103d803801ce03805ce03804efe,
   0x168deb158ade0388b01c019f9048e03e901c03c805210201901c801901e049801ec0198c815afbd01dc07cccb,
   0x11bf38afadd561]

def otherIDContinue : CharSet := .ofBlocks
  [0x101cf9d9018bdd138e9039d8187fc901b9f02ef]

def otherIDStart : CharSet := .ofBlocks
  [0x117ddc02d04aa911ca8d]

def otherLowercase : CharSet := .ofBlocks
  [0x113228903aa17d8be13eaa391da81f3ab1c2801d01ae94c4a01d7e68df06e8906c01c843e17187ed01f02da,
   0x17d1dc9ed1815912205e8ae01931dca]

def otherMath : CharSet := .ofBlocks
  [0x14101111132419b4533512112130643011920402a4413041c18911e13834801b23b01e8c81213a0221de901be,
   0x14837f2d6ab193f15ae11933d01079138520101e43121545181c16fd0290380112d834ca16016101122941412,
   0x113e13813e13813825ab1630141313b1617231188161011b13212021118e11ac1dab890103ab040101da9cb1,
   0x15281191013131613201110101010102011121010104060101311910201113a131b888692713813e13813e138,
   0x1281412]

def otherUppercase : CharSet := .ofBlocks
  [0x1396396393ce9c8391d8e1f28dc8]

def patternSyntax : CharSet := .ofBlocks
  [0x1426891ff188829db3e19ed2c81b9f4e91912a21e182f1fcb803f02f0304041101110164a33a0133a61a1e49,
   0x1148d11cec9d01f38]

def patternWhiteSpace : CharSet := .ofBlocks
  [0x113811fe9801cc02a419]

def prependedConcatenationMark : CharSet := .ofBlocks
  [0x101f028bfba01a8168806903af53888]

def quotationMark : CharSet := .ofBlocks
  [0x111ba0402fd31cf8c921d37990788f13971fdbc01f028b0404a]

def radical : CharSet := .ofBlocks
  [0x13ad1c1b81392fa88]

def regionalIndicator : CharSet := .ofBlocks
  [0x1393f8fce]

def sentenceTerminal : CharSet := .ofBlocks
  [0x11211a12ca35ca14fa0505d12bd138e01c8d1401cae13bcc14cd130107d03ee25b02ec22ab02d9902801c049,
   0x103f912a822ab12b801bf11ae15fe0303cb149e07abfc06dd12e01d04ea26adf21912f01ecc118912fb23d,
   0x11e515ed11ed14da01dc1111b812806128921ff31ed12fd35c42bfd15bec018902801c02d91307b120598ce,
   0x101efd804f88e04d8118d901b1189028d14dcd9119a11aec16cc11af13fb010188d23f911d9]

def softDotted : CharSet := .ofBlocks
  [0x116a16a16a16a16a13abecd05cea13ae06cd02bd028c0301d06b01cc990101ca058802c06c03e04b9038c11d9,
   0x103a14e904a8e16a16a16a16a16a16a16a]

def terminalPunctuation : CharSet := .ofBlocks
  [0x11c8d71cad14ef5402dc12bec148d03f7156e13db011a5b02ec2101e01980790188901801cfe0311b0101a049,
   0x17abfb16dc131101a0401d04ea26adf21912f01ecc17e42fb23d2111a12ca35ca14fa1234f0322bd118f21fc0,
   0x102a8e068028fa0201890311b0101a02d931279120598ce03f912801ff22ab22af01bf11ae15fe43cb249d1,
   0x10188d23f911d91e335ce11c21ed14da01dc41b812806128921ff31e862fd35c41ef831b9518c52b814ee038f,
   0x131efcf04f88e14cf118d901a2189028d14aff942cdb119a11a8d05d26be1411af13fb01]

def unifiedIdeograph : CharSet := .ofBlocks
  [0x118eca19dd1f1ece81e1ba8923bd6188f9481abbbf28afae22110101a110115d89e58fff1881ceff3a888,
   0x1189bf519d9a]

def uppercase : CharSet := .ofBlocks
  [0x11020101010101010102010101010101010101010101010101010101010101010101010101049612e1cd39189,
   0x17031101211102011101011113211132211101130101110101010101010101010101010101010101010101010,
   0x11010101010101010101010101010101010101010101210202010101010101010102010101010101010202020,
   0x12050101010101010101010101032204b18128111012106018030104c90101010131021117010101010101010,
   0x101010101010101010101010101010101010101010101019010101010101010101010101010101010686a2110,
   0x10101010101010101010101010101010101010101010101010101010101010101020101010101011101010101,
   0x10101010101010101010101010588225a604aab1ad1baa05014d5d994d2010101010101010101010101010101,
   0x10101010101010101010101010101010101010101010101010101010101010101010101010101010101010101,
   0x11010101010101010101010101010101010101010101010101019010101010101010101010101010101010101,
   0x141c31c31c319871801010101b51871871a51871901010101010101010101010101010101010101010101010,
   0x110101010101010101218020131010102210685f3ce8391cea02b1f3a0511a32310101064302222304048e31b,
   0x10401018010101010101010101010101010101010101010101010101010101010101010101010101010101010,
   0x110101028f0101010101010101010101010102b0101010101010101010101010101010101010101010107cd9d,
   0x1010401010101110101a010101010101010101010101010101010101010101010101010101010101030101010,
   0x111e11a2bc4b2984f2b8d395bcdb0380101010503110131010101010101014141010101010101010101030102,
   0x1393a393b6301413113b61723113a393a713212021103a393a393a396aec83f5ae883f5cfa2d2bd6a3bda116,
   0x139639639489e4918ced0493849384938493849383e393a393a393a393a]

def variationSelector : CharSet := .ofBlocks
  [0x13df3a89be81f1eafe80121c89b]

def whiteSpace : CharSet := .ofBlocks
  [0x107ec805f0513d1a4dff01afbf03a01cc02a419]

def xidContinue : CharSet := .ofBlocks
  [0x1015c18586024d12cd24129a11aa12b101460123111ec29010741e1b479913e12e5020101a05f391043971968,
   0x112d212712a1192288119a18512f51a43b2a5d202046d1e1cc27a28022a1192711cd419951a3d343a18011111,
   0x10221211924111612d12118121b1f701370322144102111111612d21451220101a1b24114018321218233016,
   0x112e1211c28191e06023123441b323131101133123511280119241142722121824111612d212712161919231f,
   0x111812f32912151a192473541216a1211c1c211923116173121182411912e121713281923202211731211821f,
   0x1790194b12912b44b1194010101b19612f048321916101422e1012f1410114f1911e5791d1219671015403620,
   0x1539128219db3521ad281f1e18192218a2317811e231016231482315823101623159c15a205014d219d6199,
   0x117e43b4d1a63945b1b424f1a1b41b13e1a18d55a71b861a124919214031ab1c11211c1c2b1b2d192d71a319a,
   0x1616c23e101010172524d25218ad54e1228225a51a268319186f1c1eb1c182919319c691f11d1801d1961a23c,
   0x11c1863cc59ef58290445321f10101065201192040291b3041c6b1c2801d03c02b16911f61251c45233612301,
   0x11881ceff18881f683f291bd15a51be122121ad442411e392188d3f1616161616161616192f1f076f205014d,
   0x11a1e18833c1c4b2681032f6191a18d1c6b2b046d2d71011218a21ce2184d1ea11945f2c3b349c25d18b5ba9c,
   0x1541c64e1d925dd28c8c6842e1c2decb6192111fa61d15a161619525251a421f223819832e61921d196e13e6,
   0x1252531b91a39104397192b1fd10101010301049238131f281f619586d27f2a3b9629a491db1111101411c11b,
   0x16b184f44b44b61922bd5a41744b23d55a53d1d3f3f01f6833c28a02986c18d1fa4a1d21e1112a13911b4b225,
   0x118e391a2d1a112a1893e192e1a2e203115b102518d18159153871a2d194ee1c6b311611e11a111611e11a1c,
   0x1311593fa2e1434d619184f1d6a1d6a6f1981de291d2a1a2d1a6d393d174b3c33c4804223c12175113188166f,
   0x1167e364c1294b011c13418c19024b18341916c6197381d077b191f3f18e192e3b2c5a2d3f481801a486f2281,
   0x1118d3e3419519a3d11d713102011914d10201191b436265060222121914111612d21271361957a71911e1310,
   0x15d2718e191c182113d111720272d1991cd7a2f9661941e23a3c2b6197784e191b031884a52f1826d2ce19180,
   0x1751114c11156191818111035b11161991d12d23d38191f1815c1186191f4838f1982a03199180187e3b1172,
   0x13e718f83b8e791daf9198e57eba1a2d2828df1f1c8599c38b291de1ce1eb919f01ad1a1d4358128192e4ee19,
   0x119592bad181bfef1e11b11118828778419a2887f38e1935c6e82a52c19191c3196e1b423d619119e6191,
   0x16fb22ac33e6271853418be2e25d188e19189a9131971831c51da4c8c69b1831e0223d01f4ca11161329bcf,
   0x16e1888692713813e13813e13813e13813e13813825ab1630141313b1617231188161011b13212021118e11ac,
   0x111e1113167cd5a3ae597ae79293e589041921d35c1e80497d541116228163ad563e29a81e142e01e018694,
   0x12814125281191013131613201110101010102011121010104060101311910201113a132ace19419b5961b38c,
   0x13df2ddeda8189bf519d9a2fca18bd4eca19dd1f1ece81e1ba8923bd6188f9481abbbf288e196cec]

def xidStart : CharSet := .ofBlocks
  [0x15a5d343a18f586024d12cd1829a11aa12b10121060123114289010741e1b479913e12e50401a05f39639189,
   0x112741f1f19702a036d7a5929512f51a7382f03019042d504119483801b1b83d3d10280221a1711f011ca114b,
   0x1111612d21271b02f11f02a034111612d121182822b0133f111111612d21451801a11e2111d028033301612d2,
   0x1121182911f1113f03411912e1217403e120223a031f12e12176c02e1b3231311011331235102901f2113e034,
   0x1452802c5a1eb43b4b177f04832d014201a01191012f1410117a61d015f7a62011812f3295538218250280258,
   0x1539128219db3521ad281f4d18a2317811e231016231482315823101623159c15a205014d2901c1c42713033,
   0x13d6e7295e1bd01aa6c192e6e3945b1b423d693e1a18d5015871b818b0404b6b1f211c1e291e2a1d2971a319a,
   0x11ec61251c45233612301616c23e101010172524d2524ad1882ff5031151359225a51a24b1a2594b3a5b1a11d,
   0x1616161616161616192e28076f205014d1c13363cc59ef58290445321f101010652011920401cd1c2801d0,
   0x1184f19f23e285e2c11a1f349c25d18b5ba9c1881ceff18881f683f291bd15a5311b91261ad442471839218ce,
   0x11301693032e2c7122f58141a19142803c5e73c392e1a3b1b110357e691e6b3d2e131211f2d71011218a21ce2,
   0x11db1111101411c11910541c64e1d925dd28c8c6842e1c2decb3d1ea61d15a161619525251c271a2238010242,
   0x16c18d1fa4a1d21e1112a13911b4b225252533e26f1b396394c1fd1010101030101ef19586d27f2a3b9629a49,
   0x153871a2d194ee1c6b311611e11a111611e11a1c6b184f44b44b2a2bd5a41744b23d1a4d53d1d3f5f6833c49b,
   0x11a2d1a6d3b3b174b3c33c5a3c12131f0188166f18e391a2d1a112a1893e192e1a2e203115b102518d181591,
   0x13d4b3a38485c1d021796c1c2e3b2c5e295a2d1801a3c7b22816593fa2e193b4e4b1d6a1d6a6f1981de291d2a,
   0x101039014d10201193e41c02a034111612d21274e5e71911e1310167f12b381294b0102d31e5f1c034a18020,
   0x1010284e271be0101f2f111720273f7f1ec5b2f964d3a18f01d5a7b02c5f4c3595e2f80112c5f3e22c32a6c5c,
   0x119f01fc4911c101f2a58f01e3f11153902d4d11161e83d690294c1183f4838f1982a02b5d1b02d074f1a03c,
   0x15c6e82a52c3f3285f2a3d2919e293e718f83bca3d1daf9198e57eba3952928df1f1c8599c38b291de1ce1eb9,
   0x11971831c51da4c8c69b1831e0223d01f4ca11161329bcf19592bad181bfef3c0111881c18a0519a2887f3ab,
   0x13cec713813e13813e13813e13813e13813825ab1630141313b1617231188161011b13212021118e11ac1bdce,
   0x1060101311910201113a132aec0718b7b38c11e1113167df023d3cc3b7cc5b2a3d58902861a5c2aa7d48d563e,
   0x11f1ece81e1ba8923bd6188f9481abbbf18d8c2814125281191013131613201110101010102011121010104,
   0x1189bf519d9a2fca18bd4eca19dd]

/-- Every property under the names it goes by, in lower case and without separators. -/
def named : List (List String × CharSet) :=
  [(["asciihexdigit", "ahex"], asciiHexDigit),
   (["alphabetic", "alpha"], alphabetic),
   (["bidicontrol", "bidic"], bidiControl),
   (["bidimirrored", "bidim"], bidiMirrored),
   (["caseignorable", "ci"], caseIgnorable),
   (["cased"], cased),
   (["changeswhencasefolded", "cwcf"], changesWhenCasefolded),
   (["changeswhencasemapped", "cwcm"], changesWhenCasemapped),
   (["changeswhenlowercased", "cwl"], changesWhenLowercased),
   (["changeswhentitlecased", "cwt"], changesWhenTitlecased),
   (["changeswhenuppercased", "cwu"], changesWhenUppercased),
   (["dash"], dash),
   (["defaultignorablecodepoint", "di"], defaultIgnorableCodePoint),
   (["deprecated", "dep"], deprecated),
   (["diacritic", "dia"], diacritic),
   (["emoji"], emoji),
   (["emojicomponent", "ecomp"], emojiComponent),
   (["emojimodifier", "emod"], emojiModifier),
   (["emojimodifierbase", "ebase"], emojiModifierBase),
   (["emojipresentation", "epres"], emojiPresentation),
   (["extendedpictographic", "extpict"], extendedPictographic),
   (["extender", "ext"], extender),
   (["graphemebase", "grbase"], graphemeBase),
   (["graphemeextend", "grext"], graphemeExtend),
   (["graphemelink", "grlink"], graphemeLink),
   (["hexdigit", "hex"], hexDigit),
   (["hyphen"], hyphen),
   (["idsbinaryoperator", "idsb"], idsBinaryOperator),
   (["idstrinaryoperator", "idst"], idsTrinaryOperator),
   (["idsunaryoperator", "idsu"], idsUnaryOperator),
   (["idcompatmathcontinue"], idCompatMathContinue),
   (["idcompatmathstart"], idCompatMathStart),
   (["idcontinue", "idc"], idContinue),
   (["idstart", "ids"], idStart),
   (["ideographic", "ideo"], ideographic),
   (["joincontrol", "joinc"], joinControl),
   (["logicalorderexception", "loe"], logicalOrderException),
   (["lowercase", "lower"], lowercase),
   (["math"], math),
   (["modifiercombiningmark", "mcm"], modifierCombiningMark),
   (["noncharactercodepoint", "nchar"], noncharacterCodePoint),
   (["otheralphabetic", "oalpha"], otherAlphabetic),
   (["otherdefaultignorablecodepoint", "odi"], otherDefaultIgnorableCodePoint),
   (["othergraphemeextend", "ogrext"], otherGraphemeExtend),
   (["otheridcontinue", "oidc"], otherIDContinue),
   (["otheridstart", "oids"], otherIDStart),
   (["otherlowercase", "olower"], otherLowercase),
   (["othermath", "omath"], otherMath),
   (["otheruppercase", "oupper"], otherUppercase),
   (["patternsyntax", "patsyn"], patternSyntax),
   (["patternwhitespace", "patws"], patternWhiteSpace),
   (["prependedconcatenationmark", "pcm"], prependedConcatenationMark),
   (["quotationmark", "qmark"], quotationMark),
   (["radical"], radical),
   (["regionalindicator", "ri"], regionalIndicator),
   (["sentenceterminal", "sterm"], sentenceTerminal),
   (["softdotted", "sd"], softDotted),
   (["terminalpunctuation", "term"], terminalPunctuation),
   (["unifiedideograph", "uideo"], unifiedIdeograph),
   (["uppercase", "upper"], uppercase),
   (["variationselector", "vs"], variationSelector),
   (["whitespace", "wspace", "space"], whiteSpace),
   (["xidcontinue", "xidc"], xidContinue),
   (["xidstart", "xids"], xidStart)]

end LogSift.Unicode.Property
