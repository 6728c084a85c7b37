import LogSift.Unicode.CharSet

/-!
The ages of characters: the version of Unicode that each of them came with.
-/

namespace LogSift.Unicode.Age

/-- A version of Unicode: its names, and the characters that it added. -/
structure Version where
  names : List String
  added : CharSet

/-- The versions, the oldest first. -/
def versions : List Version :=
  [⟨["1.1", "v11"],
    .ofBlocks
      [0x16f12723b312126c195811b118911b1d29101010103615b12b10165030412a13a18d2e1915e71b8783d47ed0,
       0x123301612d21271228383422926c12188f1923d11e14218f21d1d2a53910301e02f453a1c181194e014e1624d,
       0x17122919501f0221211924111612d121016121c1e70131b22144102111111612d21452072c241140192212610,
       0x11917312164411912e1217121e1b1f019312344217323131101133123511291a421141182213723211612d212,
       0x112161360201120114d3c4792a91941180193122541f12e1217112a194110717312164411912e1217112a1941,
       0x11521d11e16c23e101010172524d2522d61b952ba688e1a9518b51b94044e1a4d78a12192510142211c112010,
       0x132a91ad62b2819f1a2ad2d29a2d1a3b4c28d1f8101e3e92d1ba1d5f3a783e294d1a293a364b2e15e1181222a,
       0x121ca41ee15e41b1f6933b3c4b33c1c81f11bd44f61bd2541ab1076f49891d12f33e1e62610331014a13b231,
       0x110228e10124312a11942c1c34c1b586d27f285dc491db11111014138641c63aa1d8dd489ba58ecd1d8893e,
       0x121e6163225252531bd21bd]⟩,
   ⟨["2.0", "v20"],
    .ofBlocks
      [0x111ffffe11ffffe11ffffe12ac9ba2decb18ddac0189f07bc901632c101543a748118f4cfb02c1c1282ea9,
       0x14888891ffffe11ffffe11ffffe11ffffe11ffffe11ffffe11ffffe11ffffe11ffffe11ffffe]⟩,
   ⟨["2.1", "v21"],
    .ofBlocks
      [0x101dfd9f028adc]⟩,
   ⟨["3.0", "v30"],
    .ofBlocks
      [0x13d11d145a01f0511ca239802bc11bc3215a01c018a01c03e0101010301ec02b181af41a06941ed29273e37ee,
       0x1231016231017e166ce396336111414968021e1210722f05b05ed22a7101540362011812f329112fa9686d3a3,
       0x159181af61911e2e1931bc29f1a833c1919ed1c1ac4b3b62a14e16231013e12e1616231016231013e231014e,
       0x15c90327c1b3a3ad1c1b81392e883ff69e11ae0497799129a3d101f9049d181cf019811ad16a21bf53803e8d,
       0x122bbb05b9ae01211b11f22932a9c5999a1ceed19982f]⟩,
   ⟨["3.1", "v31"],
    .ofBlocks
      [0x161723118811131011b13212021118e11ac18ca2eb34e1a3ed1cdeea4d24d2ed3a1c313e2ca83f1fcfba11fec,
       0x11bf3e02e8afcb18bd58cd91abbae2c8886944c945a91630141313b1]⟩,
   ⟨["3.2", "v32"],
    .ofBlocks
      [0x17e01d47044604bab11211c1c2b192e1b611c388f14d8d058915be1f69121217912ab03c11d81c2b04de018c8,
       0x101be11811af22cfb7ff4881f43b1ba1d3be1921b1ba12e71b8192af2b4bc6b3e01fc1d3ea1b2d81e1aa66a1,
       0x113db05c16d1f301ea97a5adda0301c028178fca1e1a91e1a91f3e8]⟩,
   ⟨["4.0", "v40"],
    .ofBlocks
      [0x1728907b018b01d21ac029801018b02f806ec23d25d01f12ad218818193188c42af2571a8287f11ef22a018c9,
       0x15b06913c9f1d29be11e71ec14ac04de11aab03ce11bcf1db1c883f1db42593041b41b33c48e192a05cbf1389,
       0x119219f4e128e013d19881835c4251fa4a1d21e1112a13911b6ef119901afffd7f1cf8803f11cb32cf319e1,
       0x13df38ae8fe05da1ae1cdb880203115b10251dae]⟩,
   ⟨["4.1", "v41"],
    .ofBlocks
      [0x13f03f03f04f07f07f049a0114cf11fd905f07cf01a80189f3d3e957a02a018b24a02da13ee32bf44ae1a18ef,
       0x11f51a2a11cd018fc1a1a8c01f01a806d33d4696111aa91af1d9c123b4814196396592fce393f12f04f01f0,
       0x15b3d92e3d8c2d6eccf02de1f1eca142f49616161616161616192e280196d1a5c1e1da495e15e3dc51d8f649e,
       0x1129be18d1cbecf1818184243a1217511338da1d44b18ad19a1cce191cee1d95998c]⟩,
   ⟨["5.0", "v50"],
    .ofBlocks
      [0x14ac01b9a1b19af06d11bd31bdc16b6198f5c419b789d11d11dca1116887a188d02ce32855a05a924db1d198a,
       0x1129b8291afbdc31d1ca2a91dde1bbc8053968a986f4be1537dabf371c4fc3561d993]⟩,
   ⟨["5.1", "v51"],
    .ofBlocks
      [0x117db6351c13d0602fd72c11813a01dc01dc13d039e04b03be17e9294de44841b43ca1f29c02ef01af1231de8,
       0x133192d02cac36d01be029b05cc51ba32ed3b59b6a31e36f18e1b35a1bad0489a147f3a54270205019d2301c9,
       0x118c28841de1da2428b3b182923f2c4db2cfc76efb82b2ca01bfc2a23383f5ca542124b84358441cdb33f0498,
       0x11cb45b1fbae01cbfd90539399f6833c28a5d6c1b1dd9259f8c321921d196e2c801b1ab4e1b19]⟩,
   ⟨["5.2", "v52"],
    .ofBlocks
      [0x11a23c17e18d05e12ec18d18e81819ee0188851aa418c42fc338932fb9028814b06019d03891e25d1bba12ccc,
       0x176edec1b28aa04ff61db11d04ae41ffd01af2f4012a119423d11aed019be06e22af21af8049a4a18ca1d6196,
       0x158c12fa1812d6faa2299df6842e2deee1925d3c843818a43b288141a119d33c1cc3b2ce194f81af6c85f2c8c,
       0x101df0231a0211039070184303020101b023e51a1beba928de1fcfe18918893e18af198288753a23c36d2883f,
       0x1188ec1baaef181e491f]⟩,
   ⟨["6.0", "v60"],
    .ofBlocks
      [0x11a1cdf03c71ab807fc3186b49c911e8a1199318fd02b02806e957fa43b1602b13bb023b7c807e03f812cce,
       0x161619525251c8e01a8191e1114db17aacd228f801e02ec811e01e03826c119240104b03c1403d3102b01bba,
       0x11911419112011861916175212111011a101a81e11e21d21e48abe14af8f18f85bea83d419d1a8fe1f58a8b,
       0x141b13201325121010101211f142ab2f2a7d3312ed1017e1f282d414c1c2b318d151f482de12d185f113919b,
       0x13bd1bff9c1eb7a18d681a]⟩,
   ⟨["6.1", "v61"],
    .ofBlocks
      [0x1078ea81939a1780506b12ccc0105bac35b748851c25adb25f0507cf11fdd07e93a6f1a101abb01ec02e9f,
       0x128285e1b18c5c8ee19186f2ace1971987c1d16c6197383ca8166f7da814fcef2e1bce119d02e13ea04b73acf,
       0x131fac119f816c2814125281191013131613201110101010102011121010104060101311910201113a137f9c8,
       0x104110416030101010302802fc]⟩,
   ⟨["6.2", "v62"],
    .ofBlocks
      [0x1028afa]⟩,
   ⟨["6.3", "v63"],
    .ofBlocks
      [0x131d999038bc]⟩,
   ⟨["7.0", "v70"],
    .ofBlocks
      [0x121b8d1e3dd118f91e6a9118cc74c89193cc01ff019c06b019ff0701f8019c51b01abb01ee11bd76d801dff,
       0x14ff02b11dbd659b89145f2e831fd3e7d8018d1221b1b3ee57c9ad619da711b34923f2391a2299c01c8d61cee,
       0x11b2b601c01ae4e3a802b9f61c37292991b44e483f7a818187e3f871a2d194ee2a801b6b184f68d5a6804b3b,
       0x17878801c1aa198e191b18c6e2926d2ce191818f49b43626501922121824111612d21271271957a1ea5a129,
       0x12d4803fd81f238c2ddbc721971831c51da589e82a52c161191a18d1a523d1c8141913e4af9b051b39a5949ee,
       0x11b5b1ac29c331c281918e5f1d118e1ad1581293d6417f1402ee01018f6291b53504d1b2e018e0191b18ac12d,
       0x13d184f619186f4]⟩,
   ⟨["8.0", "v80"],
    .ofBlocks
      [0x112a5ae81599de19f1c319ca158c54a03e803b981879fbd359c8139b06b885203aad048c05c8018ad05e14aeb,
       0x11fafc38b3ce069b91f41e3394ca2b19f9019f01ae1a11e1310162c841e32b99576a1d6a1a885d21f212fc451,
       0x11ba891bf9bf07b41cf1818ff029b13eb419b03ff74c419f119e21c9fd1e141f1a9b38af1a18deaf198e]⟩,
   ⟨["9.0", "v90"],
    .ofBlocks
      [0x101011b978906d8a4b44b1cc915cb8f04ae07cdd91598c32fff05ea187c8f22f6124039e01ebd1e2e74aee,
       0x1029e2948fb1419519a4bad41116228165ac9d1bea2b1bfdc3f059cd91d12d23f33c1a1d15c1182eab1c188a,
       0x11c4e1e41b11b201871518ca24914dc05901cfe]⟩,
   ⟨["10.0", "v100"],
    .ofBlocks
      [0x1412e26b1818f1bba8269d8a2c6facf01bcc419ea03faa01cff01b8d33fe07efa17a0188853fc16a91a49c8,
       0x12e7854e1c2a0391171802b1b188f14a129dd53fdcc69b1a94bc488c8059a8f191818111035b111619bd,
       0x11ece81dab99]⟩,
   ⟨["11.0", "v110"],
    .ofBlocks
      [0x111803eff46fafb01bc84199b1e4382e27bfa225a28af05feb01ff069d01ef04da03ab2189d01ce04f02dc8,
       0x1384ee19751114c11151b8a019c97b3cd01afb04ca07ec21ee05eb59184f78e19184f1aef02a168cec158c,
       0x11d1c8384c17191d1a3831033243c25ec33bb02f99029fa18b1cbf861fe2b4dbde41cdaa1ba4fd8f]⟩,
   ⟨["12.0", "v120"],
    .ofBlocks
      [0x11a25d271bcf019b8029d82e6a9f811ebf4257cdda0199f06d07b9e078ff01d021707045102020189e069ef,
       0x128de7c1eed0399b05795e8141921d35c2feb832922cdb851c89e11ba185f0453dc9c181a8e801d692cfa12bf,
       0x151d252433c1ab68227351a1355901906905f24c91b3cd04c02dd80]⟩,
   ⟨["12.1", "v121"],
    .ofBlocks
      [0x1039bff]⟩,
   ⟨["13.0", "v130"],
    .ofBlocks
      [0x11221596bcb05b8e831cfb06d15a33f9a1c598e8191dfee41dd821af8018bae16cfd01fc06de01a9d194afe,
       0x112cd807d21bd26a88c185a7ca1dc8911b0588eb039ae19191b2113d111720262abe1501a9a128e05fb3b3fe,
       0x119d9a5ccca61adbbd194d6e12aa5961d219672a1f31e02d803d2615a1401cd01ba16eb14b]⟩,
   ⟨["14.0", "v140"],
    .ofBlocks
      [0x11a7eb05f05dde01b8d019fb16801fd1d1ae903df01907058df01ff04801dd91a2a02d76113e19aa038bd,
       0x1019c53ce393eed181591578b11611e11a111611e11a3de815e01ff1f5fd059f9d238410111e13f88278ebf,
       0x113162ce93e1de93e6cad118cd1eb192e25d1efbd34c8116134acce19119e3d9fd1ca1aba81f1dd9628e02fee,
       0x13189ad11adfcf6187622921831a35c12de01aa069804a827bbe1e11]⟩,
   ⟨["15.0", "v150"],
    .ofBlocks
      [0x15929880497d48d569a92b28dda04a07ebbc3c1901abad3b3581281fee194afe21cff22888de07ba06beb,
       0x1189bf5e8ae01be98811e01c11a11e0121b24c11f21abb01b94422af018fca]⟩,
   ⟨["15.1", "v151"],
    .ofBlocks
      [0x119dd5bd88807df32fffc]⟩,
   ⟨["16.0", "v160"],
    .ofBlocks
      [0x11913102011914d10201192a8b06f24ea1183c34d3d9c6b5efcb21c27afcd16efa23ebc149905f119aee04aaf,
       0x1078f141919aea045a1bcbc6eb63f93fc8801fe8d79688e791ec8d7eba1ac8d01dc8191e492bbc2b1bdd11811,
       0x14c3c90190202d0705e05]⟩]

/-- The characters that a list of versions has by the time of the named one; none if no version
    goes by the name. -/
def upTo? (name : String) : List Version → Option CharSet
  | [] => none
  | version :: later =>
    if version.names.contains name then some version.added
    else (upTo? name later).map version.added.union

/-- The characters of the named version and all before it. -/
def named? (name : String) : Option CharSet := upTo? name versions

end LogSift.Unicode.Age
