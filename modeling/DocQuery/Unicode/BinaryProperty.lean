import DocQuery.Unicode.Partition
/-!
The properties that a character either has or lacks. Each is a table of runs that lack it and have it
by turns, starting with one that lacks it.
-/
namespace DocQuery.Unicode

inductive BinaryProperty where
  | asciiHexDigit
  | alphabetic
  | bidiControl
  | bidiMirrored
  | caseIgnorable
  | cased
  | changesWhenCasefolded
  | changesWhenCasemapped
  | changesWhenLowercased
  | changesWhenTitlecased
  | changesWhenUppercased
  | dash
  | defaultIgnorableCodePoint
  | deprecated
  | diacritic
  | emoji
  | emojiComponent
  | emojiModifier
  | emojiModifierBase
  | emojiPresentation
  | extendedPictographic
  | extender
  | graphemeBase
  | graphemeExtend
  | graphemeLink
  | hexDigit
  | hyphen
  | idsBinaryOperator
  | idsTrinaryOperator
  | idsUnaryOperator
  | idCompatMathContinue
  | idCompatMathStart
  | idContinue
  | idStart
  | ideographic
  | joinControl
  | logicalOrderException
  | lowercase
  | math
  | modifierCombiningMark
  | noncharacterCodePoint
  | otherAlphabetic
  | otherDefaultIgnorableCodePoint
  | otherGraphemeExtend
  | otherIDContinue
  | otherIDStart
  | otherLowercase
  | otherMath
  | otherUppercase
  | patternSyntax
  | patternWhiteSpace
  | prependedConcatenationMark
  | quotationMark
  | radical
  | regionalIndicator
  | sentenceTerminal
  | softDotted
  | terminalPunctuation
  | unifiedIdeograph
  | uppercase
  | variationSelector
  | whiteSpace
  | xidContinue
  | xidStart
deriving DecidableEq

namespace BinaryProperty

/-- The properties under all their names, as loose matching leaves them. -/
def named : List (List String × BinaryProperty) :=
  [
    (["ahex", "asciihexdigit"], .asciiHexDigit), (["alpha", "alphabetic"], .alphabetic),
    (["bidic", "bidicontrol"], .bidiControl), (["bidim", "bidimirrored"], .bidiMirrored),
    (["ci", "caseignorable"], .caseIgnorable), (["cased"], .cased),
    (["cwcf", "changeswhencasefolded"], .changesWhenCasefolded),
    (["cwcm", "changeswhencasemapped"], .changesWhenCasemapped),
    (["cwl", "changeswhenlowercased"], .changesWhenLowercased),
    (["cwt", "changeswhentitlecased"], .changesWhenTitlecased),
    (["cwu", "changeswhenuppercased"], .changesWhenUppercased), (["dash"], .dash),
    (["di", "defaultignorablecodepoint"], .defaultIgnorableCodePoint),
    (["dep", "deprecated"], .deprecated), (["dia", "diacritic"], .diacritic),
    (["emoji"], .emoji), (["ecomp", "emojicomponent"], .emojiComponent),
    (["emod", "emojimodifier"], .emojiModifier),
    (["ebase", "emojimodifierbase"], .emojiModifierBase),
    (["epres", "emojipresentation"], .emojiPresentation),
    (["extpict", "extendedpictographic"], .extendedPictographic),
    (["ext", "extender"], .extender), (["grbase", "graphemebase"], .graphemeBase),
    (["grext", "graphemeextend"], .graphemeExtend), (["grlink", "graphemelink"], .graphemeLink),
    (["hex", "hexdigit"], .hexDigit), (["hyphen"], .hyphen),
    (["idsb", "idsbinaryoperator"], .idsBinaryOperator),
    (["idst", "idstrinaryoperator"], .idsTrinaryOperator),
    (["idsu", "idsunaryoperator"], .idsUnaryOperator),
    (["idcompatmathcontinue"], .idCompatMathContinue),
    (["idcompatmathstart"], .idCompatMathStart), (["idc", "idcontinue"], .idContinue),
    (["ids", "idstart"], .idStart), (["ideo", "ideographic"], .ideographic),
    (["joinc", "joincontrol"], .joinControl),
    (["loe", "logicalorderexception"], .logicalOrderException),
    (["lower", "lowercase"], .lowercase), (["math"], .math),
    (["mcm", "modifiercombiningmark"], .modifierCombiningMark),
    (["nchar", "noncharactercodepoint"], .noncharacterCodePoint),
    (["oalpha", "otheralphabetic"], .otherAlphabetic),
    (["odi", "otherdefaultignorablecodepoint"], .otherDefaultIgnorableCodePoint),
    (["ogrext", "othergraphemeextend"], .otherGraphemeExtend),
    (["oidc", "otheridcontinue"], .otherIDContinue), (["oids", "otheridstart"], .otherIDStart),
    (["olower", "otherlowercase"], .otherLowercase), (["omath", "othermath"], .otherMath),
    (["oupper", "otheruppercase"], .otherUppercase),
    (["patsyn", "patternsyntax"], .patternSyntax),
    (["patws", "patternwhitespace"], .patternWhiteSpace),
    (["pcm", "prependedconcatenationmark"], .prependedConcatenationMark),
    (["qmark", "quotationmark"], .quotationMark), (["radical"], .radical),
    (["ri", "regionalindicator"], .regionalIndicator),
    (["sterm", "sentenceterminal"], .sentenceTerminal), (["sd", "softdotted"], .softDotted),
    (["term", "terminalpunctuation"], .terminalPunctuation),
    (["uideo", "unifiedideograph"], .unifiedIdeograph), (["upper", "uppercase"], .uppercase),
    (["vs", "variationselector"], .variationSelector),
    (["wspace", "whitespace", "space"], .whiteSpace), (["xidc", "xidcontinue"], .xidContinue),
    (["xids", "xidstart"], .xidStart)
  ]

def named? (name : String) : Option BinaryProperty :=
  (named.find? fun (names, _) => names.contains name).map Prod.snd

private def asciiHexDigitRuns : Partition :=
  Partition.ofAlternating [
    "m1A76Q6"]

private def alphabeticRuns : Partition :=
  Partition.ofAlternating [
    "X2Q6Ql11A1415N1V1gE4CE57111s21TI1224116113111K1p21h48c51c1216f1d1E111212118R44TB5u117Ec31848",
    "43A321Gm1Db3OX192415O2JJP7B5O16818g1AC376i21G134FDJ18222M17113438222211814215C2A14316422M171",
    "21212454222417411H6B319131M17121539131231F4L44318222M171215382222924215D1G216331432111232333",
    "C4533133161e1D131N1G38131382132124S418131N1A15381313826214D3CD131f1281313115475M6131I3O19112",
    "7861118I2Dw15761p1211151O111J13251161E4W11-181a14J4G1a1Z2t11125GW2A42c111512h11jA142711142f1",
    "142X1142711142F1v1142Z2b1GGs2263iJ2H1Q5h23B7KBLCKCD1312Cq12JE141Z2v27h15c2AV1C49NU25Bi14Qs1S",
    "4-12Ko11N2B3n1q11F18p1g124Ai11BEt1M3Aa12B5h123f141612315W6JY1Bs8262c126281111111V2r117113317",
    "34264D5317q31D1GDb31412A1135611111141B245541Hf1jPq1su1b76432Cc111512u171GN97171717171717171W",
    "1l11rE3P975254s2631w2145h11+2HW1m1GWGWk6W2jqLZ2k12j83GA2Kl1583n3d192d32Z2221118LK1X1Oq1Ca211",
    "i163113AX15Z1DT3p11CF1GGA51t19EIN3b21111O32G24B6262697171h11E6x3LazACN4n1ae8kB2g3c17C55C1D15",
    "1112121i3X1hBIW22s1e1Cq351d4a1Q6QBv236262623Z1C1Q1J121F2EY1x3b2r1h8T3n1l1W1DU5h15U2a14815g1+",
    "4Ia14a14e18q1CB1F17121B1F17123q1Ct99MA8O61g119b26211i112312NAN9VX2J12AMAQc2u162W241258131Tg1",
    "T3TZ181SRs1AMAJDIk3f2t1p1Dp1De1Y1S315Nw7g11232G3t113TA18Mg1Ik1LRN9c2h15Av191DPNp1H48Z1319W21",
    "492A111Z1I1Y12164+1711141F1A7v1N418222M171215382222316157SA11211c11A112114123111i1Y21314K3UY",
    "22211u5s127P6Y1-11131x1s121d2R2EL7v5v1d3W2V82128121U122224z282k1261112Rp12AHe251If2d6X1V91j1",
    "1711n1U2M1Ef27121i13112131122O6121b1121411dAN9H1f133l31l2wSc3l3Ha6io2X3FmX1H6Pxy35dIvr6l1ns1",
    "vH7VHl2HUIm1G4VL5JmDj1p6W2W4h24v17HW2211C2Eu-58sc1f1Adt8417121Z9F1T321E48iCae2h35D397A41Xx5r",
    "21d2122122241C11171X21428171S141511371qA2P1P1V1P1V1P1V1P1V1P18qv1V66r671H2712155+1X11m3j1A7G",
    "1XAUIi1aFSa7U21lF714121F1b6x1a23131qb141R1211211A1411116141111113121121111111111211241714141",
    "11A1H53151HqJQ6Q6Qsp3Wtf1W1wX46+62Yq5Enf7FkJYj2+GYl1hw45WZ4"]

private def bidiControlRuns : Partition :=
  Partition.ofAlternating [
    "ym11nl62Q5t14"]

private def bidiMirroredRuns : Partition :=
  Partition.ofAlternating [
    "e12I111S111T111j11F1+p34zw12yi22A2s12E2n51W643631323414111149511I549211181W12451922J5295224O",
    "2G84K272zX1Eg2124121354533EpCM261E817631451225411322A622CJ14211121145263O2B24412224h1281e151",
    "113553413511W81ZG43212E22Ah18hDA28znp1652Y52I111S111T1111212txr11v11v11v11v11"]

private def caseIgnorableRuns : Partition :=
  Partition.ofAlternating [
    "d1161B1Z1111d2141114122tFW642419211x77l6151n1j111121211i11B6AB11Z11ALG1b381A14X1111URx2Bw1B4",
    "121OOh13i117259f1w1t1111484137A2D1F1w114481K2Q122v1142422331U231B2v11451241K2M611w1121148172",
    "B2U1z11C1o1131t1113531472B2T1w11216152K2S2v124481K2T1e217311w2127B9Y31299117f22R11111t1E1512",
    "5B1a191c34161222P243G4D12261F1+21WJ3oT3T2U2U2W2217812B3151j15p11X22Y11s33429163x6221w1117111",
    "1286A21d118Vn14m11151151e19C2W142213u11123113w1822W26o231D17416132o1-1D1Y1b3zD113B3D3D3D2C58",
    "2A12125n151A11D1GDp1X1hy22n33z31F1W3W1l11rE1a143551z26z23suR1Yd16k81Y341A11S4m22EY1k21N3d333",
    "2813141P251t42QID1c18PBk13m112422H1L2Y262222C181Z11B1p1113225211R1E25211a3593v312141mvJ1p4Hz",
    "HG31CGY1121f517161B1Z1111l11j12Z21L3XG1Y71r45bW161g119cI31254e1341b52zH4c11Q511x92l24c2Bn14x",
    "31s1Ff1122A3n14222141A1o13a1518+11C2q19A421-2321126121z4138L2v1231b1735c26D11111E2r282311N1q",
    "26114212k746212R2r282112g31112611b31112415Z8912W821141m442241W1Ae1624819623k1D12sC71611o2M27",
    "1212w3631121711e223111xA2B2q155111N1rc5H6FecBC33Wk25x1794yF3e12YF1-1HW2212hWG41712+a3214yo4k",
    "12NWH39G27U4q43xz1t14o181E1M51Fmg171H2712155+1X11W5EmB1z14xF5+72WN7j38lr25XWZO1UW3W4m7"]

private def casedRuns : Partition :=
  Partition.ofAlternating [
    "X2Q6Ql11A1415N1V1Z6144m61a172U5W31g142224116113111K1p21h48c51c19f1tu2c111512h114WLs226Ya2B5h",
    "123W2W6W2s8262c126281111111V2r11711331734264D5317q31D1GDb31412A1135611111141641245541HW132nP",
    "q1su1b76432Cc11151oeUk1IUa4c3341+1221118L513rPh11E6m2WwJ7C5fW1Q6Qbb1m2W3a14a1q3B1F17121B1F17",
    "12ZE1231g119bc1p1Dp1z2MAMwu2W2WhLW2WiPr21d2122122241C11171X21428171S141511371qA2P1P1V1P1V1P1",
    "V1P1V1P18qv1A1K66b8+1oa2a2i-1Q6Q6Q"]

private def changesWhenCasefoldedRuns : Partition :=
  Partition.ofAlternating [
    "X2Qw21AN18W111111111111111111111111111111111111111111111111111111112111111111111111121111111",
    "11111111111111111111111111111111111111211111112111213241213321211111211211213111231721212111",
    "11111111111112111111111111111112211131111111111111111111111111111111111111111111111111111111",
    "1117212211411111111s71g11113181611311121H19M1C332111111111111111111111111122211122p1m1111111",
    "11111111111111111111111111191111111111111111111111111111111111111111111111111111112111111111",
    "11121111111111111111111111111111111111111111111111111111111111111111111111111111111111111111",
    "11111112c1m11uu2c11151gP6Ya2A6h123WA11111111111111111111111111111111111111111111111111111111",
    "11111111111111111111111111111111111111111111111111111111111111111111111111111111111111111111",
    "15221111111111111111111111111111111111111111111111111111111111111111111111111111111111111111",
    "1111111119886A88886B111111188Gm123265326B4C55326f913261j1GJ1oPQmv1m1m11132111111411218311111",
    "11111111111111111111111111111111111111111111111111111111111111111111111111111111111111111111",
    "1811141jgU111111111111111111111111111111111111111111111J111111111111111111111111111d41111111",
    "11111131111111111111111111111111111111111111111111111111111111111111A11112111111114111211131",
    "1111111111111111111515111111111111111411123151111111O1wRm2WwJ7C5fW1Qbc1e1e4a1y4B1F1712gt1p1z",
    "4Mwv2W1WiLW1WrUY1"]

private def changesWhenCasemappedRuns : Partition :=
  Partition.ofAlternating [
    "X2Q6Qw11AN1V1W21q21S2E22114z21I6R1211123214152112217121123651A2c51g142233116113111K1l13X1151",
    "b48c51c1Ad1uu2c111512h123WLs226Ya2B5h123v5131G1n3y4211s3262c126281111111V2r11711331734264D53",
    "17f913261R1HW132nPq1su1n312127c37432Cc11151oeUk1ISc4E2+19F33251P1U2247O2yQ1Sm2WwJ7C5fW1Q6Qbb",
    "1m2W3a14a1q3B1F17121B1F1712Zs1p1Dp1z2MAMwu2W2WhLW2WqUa2"]

private def changesWhenLowercasedRuns : Partition :=
  Partition.ofAlternating [
    "X2Qb3N17X11111111111111111111111111111111111111111111111111111111211111111111111121111111111",
    "11111111111111111111111111111111111121111321112132412133212111112112112131112317212121111111",
    "11111111121111111111111111122111311111111111111111111111111111111111111111111111111111111117",
    "212211411111111X91113181611311121H19Z118111111111111111111111115121122p1m1111111111111111111",
    "11111111111111191111111111111111111111111111111111111111111111111111112111111111111211111111",
    "1111111111111111111111111111111111111111111111111111111111111111111111111111111111111112c1fw",
    "2c11151oMs2pa216h123WA1111111111111111111111111111111111111111111111111111111111111111111111",
    "11111111111111111111111111111111111111111111111111111111111111111111111111111119111111111111",
    "11111111111111111111111111111111111111111111111111111111111111111111111111111111111119886A88",
    "886B111111188O8888885B5B4C5B5f913261j1GJ1oPQmv1m1m111321111114112183111111111111111111111111",
    "11111111111111111111111111111111111111111111111111111111111111111111111111811141jgU111111111",
    "111111111111111111111111111111111111J111111111111111111111111111d411111111111113111111111111",
    "1111111111111111111111111111111111111111111111111A111121111111141112111311111111111111111111",
    "515111111111111111411123151111111O1hvLQbc1e1e4a1y4B1F1712gt1p1z4Mwv2W1WiLW1WrUY1"]

private def changesWhenTitlecasedRuns : Partition :=
  Partition.ofAlternating [
    "X3Qw11f1O18111111111111111111111111111111111111111111111111111111112111111111111112111111111",
    "11111111111111111111111111111111111112111132111213151213321211111214121311121311141121211111",
    "11111111111121111111111111111131111311111111111111111111111111111111111111131111111111111111",
    "181221141111111161211123214152112217121123651A2c51h11113133I1RZ11233111111111111111111111115",
    "112121q1m11111111111111111111111111111111111911111111111111111111111111111111111111111111111",
    "11111121111111111112111111111111111111111111111111111111111111111111111111111111111111111111",
    "111111111111111111111111n1d1mp36Ya2911k7131G1o3111111111111111111111111111111111111111111111",
    "11111111111111111111111111111111111111111111111111111111111111111111111111111111111111111111",
    "11111111111751111111111111111111111111111111111111111111111111111111111111111111111111111111",
    "111111111111111986A88886A8888E2888888512613312842288A312sA1X1G41hQQcw1m111321111116121A11111",
    "11111111111111111111111111111111111111111111111111111111111111111111111111111111111111111111",
    "11811141Cc11151peU111111111111111111111111111111111111111111111J111111111111111111111111111d",
    "4111111111111131111111111111111111111111111111111111111111111111111111111111A111211111111141",
    "411221111111111111111111B11111111111111141112131511111Q1yQ1Sm2WwJ7C5fX1Qjc1e1e4a1x4B1F1712Zu",
    "1p1z3Mwv2W1WiLW1YrUY1"]

private def changesWhenUppercasedRuns : Partition :=
  Partition.ofAlternating [
    "X3Qw11f1O18111111111111111111111111111111111111111111111111111111112111111111111112111111111",
    "11111111111111111111111111111111111112111132111213151213321211111214121311121311152121211111",
    "11111111112111111111111111112121131111111111111111111111111111111111111113111111111111111118",
    "1221141111111161211123214152112217121123651A2c51h11113133I1RZ1123311111111111111111111111511",
    "2121q1m1111111111111111111111111111111111191111111111111111111111111111111111111111111111111",
    "11112111111111111211111111111111111111111111111111111111111111111111111111111111111111111111",
    "1111111111111111111111n1d1ew2h123uN6Ya2911k7131G1o311111111111111111111111111111111111111111",
    "11111111111111111111111111111111111111111111111111111111111111111111111111111111111111111111",
    "11111111111111175111111111111111111111111111111111111111111111111111111111111111111111111111",
    "1111111111111111111986A88886A8888E2r1124111331241342288A31241nA1X1G41hQQcw1m111321111116121A",
    "11111111111111111111111111111111111111111111111111111111111111111111111111111111111111111111",
    "1111111811141Cc11151peU111111111111111111111111111111111111111111111J11111111111111111111111",
    "1111d4111111111111131111111111111111111111111111111111111111111111111111111111111A1112111111",
    "11141411221111111111111111111B11111111111111141112131511111Q1yQ1Sm2WwJ7C5fX1Qjc1e1e4a1x4B1F1",
    "712Zu1p1z3Mwv2W1WiLW1YrUY1"]

private def dashRuns : Partition :=
  Partition.ofAlternating [
    "j11yg11p11Xo31bW11fW26z11d11F1cC1aW3121V241S1+D1J1l31mip12b11A1f51Wp31+91"]

private def defaultIgnorableCodePointRuns : Partition :=
  Partition.ofAlternating [
    "j51XL1iM1Yw22po12r25x-15Q5n1Gqd41xap1Gl71W51l29dbl14lc58bqhOWW4"]

private def deprecatedRuns : Partition :=
  Partition.ofAlternating [
    "fA1ff11Ze2111fX22bc26vL2sctR1"]

private def diacriticRuns : Partition :=
  Partition.ofAlternating [
    "+2111d21614122tF-41856H24192z75n61t1H1R111211c4842c424233Z2Rx2Bw1BY12+38f1AGSz11G134S1g21G1k",
    "31G1k31G1l13y11G171t31k31G1k31G1j32G1y31l31C611h31D5h22R1111142Y2312+11m3112e1245P711A2XM3qT",
    "2U1q4B91xA3a91K821m1F2Be31F1c19s12w11B2Y22W26o2P416123o1-1v2Cb1BzD113B3D3D3D2md33z91wF6f34-2",
    "1ohT1C211S2o22EY1c33j32C1b11t41RIv14a11-21C1a11r43X24p11a3593W42mvJ1XOGk8111l11j12Z21yN1-a16",
    "1g119zJ341b52xH6c11Q5lC3c2Bn14W61f11e22u32+11i2193e32o52m22G1O735v2312D2-2131x32x72+31s32p31",
    "j82Y8241y41p21I1n21bD1Y8112n21fD2N1id5FvcB1Wk25x17qH2YHHm22+-F41712Xu7k12NWH3368827U4Yq3+1Y6",
    "7tB1z14+N2WN7j3313"]

private def emojiRuns : Partition :=
  Partition.ofAlternating [
    "Z11615Al3141jy71C1u61M1w26F2lB2C1c51PB43d61d72A191w1415912122214121122131328351115CB2211211I",
    "122I6111232512242B25221521112K256142141212611211111613161A2F12141114311B2m1391E1E1qB2lE3J2p1",
    "141wc11C1vI111ghl31g61W52C2E12Ah2Q12N1K129L2k5Y12m322132p2231d81-1B61O7228C1242142D221829153",
    "C38321114161316s2m1c258234A3112312AZ7C41x8l11A1v5m3D3A5u17F2B69"]

private def emojiComponentRuns : Partition :=
  Partition.ofAlternating [
    "Z11615Ap+71r61hft11s+y1QxF5mj14ipXOW3"]

private def emojiModifierRuns : Partition :=
  Partition.ofAlternating [
    "x-y35"]

private def emojiModifierBaseRuns : Partition :=
  Partition.ofAlternating [
    "zm91x61G4tZp31y132123r322BLJ3143137111O1f6241L142k5335p21G391B1-H12188619A23u11z121211H31Db7",
    "3g19"]

private def emojiPresentationRuns : Partition :=
  Partition.ofAlternating [
    "wu82j643121fG2L2o1Ch11J1D182H2528151L1721141217142S1Z11114311z13O1E1xQ2p1141kbn31g61+512Ah2Q",
    "11O1K12513L2k5X1C91c21MCh145CH313d2111x52-1D41OI1Q2D1s2r2m1c261332344B279Z7C41x8l11A1v5m3D3A",
    "5u17F2B69"]

private def extendedPictographicRuns : Partition :=
  Partition.ofAlternating [
    "f5141jy71C1u61M1w26F2lB2C1-21c21PB43d61d72A191w14161C1o3As32B1111613161A2F12141114311B5j1391",
    "E1E1qB2lE3J2p1141wc11C1vI111chl3W8D3V1y16C2E12AIv1RFA1K129149oD5+98g8m1W4q3Cr2h1C4u18A6e18Uo",
    "2Cl11A1vDW8+V"]

private def extenderRuns : Partition :=
  Partition.ofAlternating [
    "t51uG2kR1vD1sJ1f41v21mN1-31Zg21u11ZJ1kC1a21fy41h15d32z23suR1sl11YU1M1f41i31L2xZL1mW22hk11R14",
    "1dc11b91q32oF3lc11fbK2ya1211ugS2nb11qQ3"]

private def graphemeBaseRuns : Partition :=
  Partition.ofAlternating [
    "W1-2X1D1oIm382647111K1W77c51c12o123k111121219R46HAB11k1LG1b38162214W1211UTv2B1Eh1973O4191317",
    "F1P511B5VHg1v1t1111484137A2T1218222M1711343112622211D2134O5116422M1712121243O4117A2311C11913",
    "1M17121534811231F24C718218222M17121531216222F2134IB116331432111232333C5112331331LL6318131N1G",
    "3134J321224A7A1B131N1A15322112O2124A13EB131f12112531312431A4Q221I3O19112792677A23Cm112B88Db1",
    "211151O111A129125119A24W1O2R11111E1a1I15125n18161Db1j14161222P243G4D12261F1e111512vB14271114",
    "2f1142X1142711142F1v1142Z25T3Q6s2262zK3v27IDJ329IED13Fq1217812B93A6A6B5A6v2752Y1115c2AV44234",
    "216713g125Bi14Q6B3v1223u111911286DA6A6Es2m1A4381T9C2W1426u1112311Dm1825F3+15h12BB1D174161321",
    "5W6W2s8262c126281111111V2r11F1E261J23191B5O7n1G22R1D3X1-1i44wKMBLqu12W11uA325j111512u172FN97",
    "17171717171717X1+2Y1Q1v2Cs6Qw16G1s24b35h11+21s29m11jpS3t19yAKl141AW12m2268k6221118LG13141P25",
    "4A6u18a2ACOD1c18PB1CU6m11242221D1B471P1f16222B318112A2W11p11132252111OH28B6262697171y14r3121",
    "43A6azACN4n1ae8kB2g3c17C5511O151112121z3GzD2s171W1GGAMZ11J14451d44z42V362626233717D22C1Q1J12",
    "1F2EY1x3534j13u21D31l1j1Z4T3n1GR4a19U5c1AU1b14Eg1+42A6a14a14e18q1BC1F17121B1F17123q1Ct99MA8O",
    "61g119b26211i112312N1e289m1J125X13R51W2u14K2l1F4131TA9797W2W1b16C9s13T2R5Q74C7m2f2t1p1Dp17g1",
    "CA6c18O82m6V1g13122G3x1e18MB9MI44c1SKN911s1F74U1221Cn1422214EP7A9a1519I8Z113Bq19118421G1KBI1",
    "S324612-1711141F1B6l113DA8218222M171215311114222231C7SA11211c11112F112311312d1u182311L1113Um",
    "11261121121248Ac5l11264212Ra1p1821124BA6DJh11112826A6KSR3112419Nv5l19121a3p2C82128121O151264",
    "139Ac282g18414R1Ae1624891623k1D129Df27As5Y1EA691c1E116AT3W1P17121h27121c1L19A66121b14211117A",
    "s9J249F1a1823Ns21Fo1DxSc3l315Ba6io2Z3DmX1H6Pxy35dIvr6UC33Acs1vH7V1A4n21A6U71Am17FAA171L5JmDw",
    "1c6x2b3h25u1BDW24Su-58sc1f1Adt8417121Z9F1T321E48iCae2h35D397A2121Wx3w76qDy4q3y1s7Ad12y153M27",
    "U4z1LY231w3KCKCt29Pd4r21d2122122241C11171X21428171S141511371qA2a92oHt14o181E17qZ1V66b8+1o4j1",
    "A72A42WAUIi14A51mES4As6U2B41WF714121F1b629m1a2714A42nOa2i2z1Y641R1211211A1411116141111113121",
    "12111111111121124171414111A1H53151Hq12k8i14a3CF2F1F1b1Ak5u1TDi14972E6w4uU4H3D3t34-26C41FC4u1",
    "8A6e18U2C42+1qACE2D3A5u17F2B697p41c3cW1Wtf1W1wX46+62Yq5Enf7FkJYj2+GYl1hw45WZ4"]

private def graphemeExtendRuns : Partition :=
  Partition.ofAlternating [
    "WOm3p87d8j111121211e2Bm1LG1b37262214Z11URx2Bw1991O4191315h13x19g1O1W1t1111484137A2T1w1111248",
    "191A2Q122v1142422331U231B2v11451241K2M611w1112148173A2U1x1111C191e1131t1113531472B2T1w112211",
    "331472B2S2v1211248191A2T1e2141231181n2127C8Y3129B7f22R11111t1E15125B1a191c34161222P243G4D122",
    "61F1-L3oT4S3T2U2W2217812B91j1311r32Y11s33429163x6221w11171111286A21m1Vn14m1A43c19C2W1426u111",
    "23115u1822u431D17416132c6W2iG1Z6X1+-23j41W3W1gH6f32qkT41AW12m22m813141P251t42QID1c18PB11i13m",
    "11242221a11Z262222C181l11p1113225211g1281k712141mvJ1XNGGGkB2zI1Y71r45cq131254e1341b52zH4X25z",
    "92l24c2Bn14x31s1Ff1122A3n142271z13a1518+11C2q19118421-23246121z4138L2v121111C191E735Z2126112",
    "1134311E2r282311N1n212611211212h71246212R2r282112g311128b31112415Z8912r71A441m442241W1Ae1624",
    "819623k1D12sC71611o2M271212w3631121711e223111xA2B2q1553N1bd516FecBC33Wk25x17uW11-14n21B2hbJ2",
    "Xp4k12N+G5368827U4q43xz1t14o181E1M51Fmg171H271215a31W57tB1z14yF4+72WN7j37rsbOW3W4m7"]

private def graphemeLinkRuns : Partition :=
  Partition.ofAlternating [
    "jg21-31-31-31-31-31-31-31j32G1y31l31-31f61q52vs12U1z41jK1Z71b32c22hi41cqU1b11t41k41i31r91s71",
    "noN1cm11f11E1v11v32h41q31q51Y31W43n31-31y71-31s31q31j81Z82X51p21I1n21bD1a82n21fD2ilG1"]

private def hexDigitRuns : Partition :=
  Partition.ofAlternating [
    "m1A76Q6fr-1A76Q6"]

private def hyphenRuns : Partition :=
  Partition.ofAlternating [
    "j11-31yc11xp41fW22bm31ZN1dhp11f51t21"]

private def idsBinaryOperatorRuns : Partition :=
  Partition.ofAlternating [
    "m-B22AnF1"]

private def idsTrinaryOperatorRuns : Partition :=
  Partition.ofAlternating [
    "o-B2"]

private def idsUnaryOperatorRuns : Partition :=
  Partition.ofAlternating [
    "+-B2"]

private def idCompatMathContinueRuns : Partition :=
  Partition.ofAlternating [
    "o5251sz713B1FpB141M1Ybj31P1V1P1V1P1V1P1V1P1"]

private def idCompatMathStartRuns : Partition :=
  Partition.ofAlternating [
    "Ym8141M1Ybj31P1V1P1V1P1V1P1V1P1"]

private def idContinueRuns : Partition :=
  Partition.ofAlternating [
    "m1A7Q411Ql11A111215N1V1gE4CE57111Hr312241165111K1p21h4152c51c1216f18j1111212118R44TB5g24c318",
    "2A1J21Gx12b3Es141212k1IS4B5O168h21X42A1J18222M1711342922248142152CA1112316422M17121212211542",
    "233174117GB319131M1712152A131321F42A971318222M1712152922237342152A11G216331432111232333C4533",
    "142161EAGD131N1G291314721321242AG418131N1A152913147262142A13CD131p1131554752AA6131I3O1911273",
    "14611186A22Dw15F1Ad1211151O111N2511171A24W11N26AB111114A1a14K1I1a191v1g26k22c111512h11jA1427",
    "11142f1142X1142711142F1v1142Z22399EGGs2263iJ2H1Q5h23B7M9MBKCD1312Cq231422AX131B6v27h15c2AV1C",
    "4CAe125Bi14Q6Bb1S4-11T2B6AD18E1Gn1j23AH9Cq3Cu18A3n12B5h123G31d15sG262c126281111111V2r1171133",
    "1734264D5317F2n12J1S1D1GDp1D413CH1412A11266111111G245541Hf1tp2b769Cc111512u171FO971717171717",
    "17171W1bG3PF15254s2271-25h11+2HW1m1GWGWk6W2jqLZ2k12j83SKm14A1p3b192d32Z2221118Ls141Jq1Cc2AA6",
    "O311n12a1CT3X2EB6V1t19E2A6N3f2O32G25A6262697171h11E6x3122A6azACN4n1ae8kB2g3c17C55C1D15111212",
    "1i3X1hBIW22s1e1C4GGG32O3W151d4JA7Q411QAw236262623Z1C1Q1J121F2EY1x3b2r1e41Y4T3n1F1VW1DU5h15U2",
    "a14815g1+42A6a14a14e18q1CB1F17121B1F17123q1Ct99MA8O61g119b26211i112312NAN9VX2J12AMAQc2u162W2",
    "41258131T2341W1T3TZ181UPs1AMAJDIk3f2t1p1Dp1De18A6c1351Nw7g11232G3t1X1A18X1VMg1LRN9d2VG9y171D",
    "P7A6r11A448a1219b2441D11Z1I1b164+1711141F1A7x15A6418222M1712151A22232161572735BA11211c11A112",
    "11418D2Th25A44Uc2118Ac5s129N6Y1X231BAc1v17A6KSR2F4A67v5x1b3g2L82128121U1229CAc282k12812R-181",
    "8g231If2d6X1FA691j119FAOU2M1Ef27121i13112198A66121b112167As9N9H1f135DBr21l2wSc3l3Ha6io2X3FmX",
    "1GMAxy35dIvr6w1cs1vH7V1A6l21A6U25Bt194CA9L5JmDj13Ac6W2W4h24v17HW2212B2Eu-58sc1f1Adt8417121Z9",
    "F1T321E48iCae2h35D397A32nY4AcGk12N+G5368827U4q43xDr21d2122122241C11171X21428171S141511371qA2",
    "P1P1V1P1V1P1V1P1V1P182o1WGt14o181E1M51FmY1V66r671H2712155+1X11m3j13E2A41XAVHw1sEg1s6h1bF7141",
    "21F1b6B7f1i24Acb141R1211211A141111614111111312112111111111121124171414111A1H53151Hqf3AcW1Wtf",
    "1W1wX46+62Yq5Enf7FkJYj2+GYl1hw45WZ4mgtLm7"]

private def idStartRuns : Partition :=
  Partition.ofAlternating [
    "X2Q6Ql11A1415N1V1gE4CE57111X451224116113111K1p21h48c51c1216f1d2R44j1h1Z121Z311F272A321G11UTv",
    "2B1OX192415M419131NP7B5O16Hg1w1s131I17AFG48222M17113431G1D213E2A186422M17121212V411J3G9131M1",
    "7121531I1F2N1B8222M17121531U213F1H116331432111232333CM1q18131N1G31Q32122U148131N1A1531V212F2",
    "H9131f121G15383O65I3O191127w1m112C7w1211151O111A12912511L4W11-181a1R5p3h1K1G6443132734DC1Hc1",
    "11512h11jA142711142f1142X1142711142F1v1142Z2b1GGs2263iJ2H1Q5h23B7IDJEIED13Fq1Z1141Z2v27f1115",
    "c2AVn1U25Bi14Qs1N9r1o21z2l1H8s1UD2Ai1Qa1f13Aa12B5h123f141612315W6W2s8262c126281111111V2r1171",
    "1331734264D5317q31D1GDb31412A11266111111G245541Hf1tp2b76432Cc111512u171GN9717171717171717cH3",
    "P975254s2451w2145h11+2HW1m1GWGWk6W2jqLZ2k12j83GA2Kl1GV2m2d192d32Z2221118LG13141NTq1Eo1+16311",
    "2BSANPT7l1S1G51AA51f1N318KN313o11132252111O32B73C6262697171h11E6p3TazACN4n1ae8kB2g3c17C5511A",
    "1D151112121i3X1hBIW22s1e1Cq351d4a1Q6QBv236262623Z1C1Q1J121F2EY1x3b2r1h8T3n1l1W1DU5c1AU2a1481",
    "5g1+4Ia14a14e18q1CB1F17121B1F17123q1Ct99MA8O61g119b26211i112312NAN9VX2J12AMAQc2u162W21F4131T",
    "g1T3TZ181SRs1AMAJDIk3f2t1p1Dp1Da1c1S9Nw7g162G3x1TA18Mg1Ik1LRNCr1v1221Dj1W1PQa1T1218Z131Cm1E4",
    "L111Z1I1PJ2-1711141F1A7l1c18222M17121531I1C5UA11211c111P111i1r1I4K3Um1K211u5l1f14a1m1K1x1h1D",
    "1d2Rb17v5i1q3W2V82128121OF111+282d1G111S1Ae171L1Bk1J1If2d6X1V91b1H1n1Um37121c1L1P6121W1E1dAJ",
    "F11D1Y1y31l2wSc3l3Ha6io2X3FmX1H6Pxy35dIvr6UYt1vH7VHl2HUIm1G4VL5JmDj1p6W2W4h251Y2DW2211Su-58s",
    "c1f1Adt8417121Z9F1T321E48iCae2h35D397Acx5r21d2122122241C11171X21428171S141511371qA2P1P1V1P1V",
    "1P1V1P1V1P18qv1V66b8+1o4j1A7G1XAUIi1aFSa7U21lF714121F1b6x1a271qb141R1211211A1411116141111113",
    "12112111111111121124171414111A1H53151Hag4Wtf1W1wX46+62Yq5Enf7FkJYj2+GYl1hw45WZ4"]

private def ideographicRuns : Partition :=
  Partition.ofAlternating [
    "cWC2P9E3bUWk6W2WmKWeMkB2g3geT1Ru-58sc1f1AdZ9iCaeJWtf1W1wX46+62Yq5Enf7FkJYj2+GYl1hw45WZ4"]

private def joinControlRuns : Partition :=
  Partition.ofAlternating [
    "iW82"]

private def logicalOrderExceptionRuns : Partition :=
  Partition.ofAlternating [
    "Wo35x35mt2321wda122112"]

private def lowercaseRuns : Partition :=
  Partition.ofAlternating [
    "X3Ql11A141a1O1811111111111111111111111111111111111111111111111111111112111111111111111211111",
    "11111111111111111111111111111111111111111211113211121324121332121111121121121311122236121211",
    "11111111111111211111111111111111221113111111111111111111111111111111111111111111111111111111",
    "11117212211411111111b21a172U5W31h11113124I1RZ11233111111111111111111111115112122p1m111111111",
    "11111111111111111111111111911111111111111111111111111111111111111111111111111111211111111111",
    "12111111111111111111111111111111111111111111111111111111111111111111111111111111111111111111",
    "111111m1f1dw2h114uN6Ya2911r3W6X2111111111111111111111111111111111111111111111111111111111111",
    "11111111111111111111111111111111111111111111111111111111111111111111111111111111111111119111",
    "11111111111111111111111111111111111111111111111111111111111111111111111111111111111111111111",
    "11986A88886A8888E2888888512613312842288A312v31D1GDj313231R14141228441X1G41hQQcw1m11132111111",
    "41121831111111111111111111111111111111111111111111111111111111111111111111111111111111111111",
    "11111111111112711141Cc11151peU111111111111111111111111111111111111111111111J1111111111111111",
    "11111111113b411111111111131111111111111111111111111111111111111111111111111111111111111A1111",
    "21111111114111211311111111111111111111515111111111111111411121311111111111M31113rPh11E6m2WwJ",
    "7C5fX1Qjc1e1e4a1x4B1F1712ZE1231g119be1p1z3Mwv2W1WiLW1wiPQQ71IQQQ411171BQQQQQQQQQQQQQQQQQSSP1",
    "6QP16QP16QP16QP1611qv1A1K66b8+1qb2Y1"]

private def mathRuns : Partition :=
  Partition.ofAlternating [
    "h11G3V1T111j1141b11V1uM321Q223lG3jm61R3B131D1E4L5B5X2D413245I1412A112661322213163E11a2O16124",
    "24W11162Ei884K2w21UR11O1B7zD2CA46422235E11126B852v1111T493mAW2W8WGm1L26y+p11tP611Y51G3T111T1",
    "11Z4164Xj32mpn1r21d2122122241C11171X21428171S141511371qA2a92o1Wm541R1211211A1411116141111113",
    "12112111111111121124171414111A1H53151Hq12"]

private def modifierCombiningMarkRuns : Partition :=
  Partition.ofAlternating [
    "qo1221Z416132XF21331V1"]

private def noncharacterCodePointRuns : Partition :=
  Partition.ofAlternating [
    "mk-1W1kG2+--12+--12+--12+--12+--12+--12+--12+--12+--12+--12+--12+--12+--12+--12+--12+--1"]

private def otherAlphabeticRuns : Partition :=
  Partition.ofAlternating [
    "bQ1TDWIE11121211e2Bm1D17G1b37442241Z11UGc3Bb32391314g31y1C376Ks122F1253A2T3w172222A1A2T3w154",
    "22241U231B3w181312L2M343w17222292A2U1x153313A1e15v17131382B2T3w17131382B2F1C4w171313A1A2T3h2",
    "61118I2z1127I1Z312612G1Z5J9B1a1k3C1124N443132734DC11A4qp12U2U2U2Y2Jy52Y11s3C49+65v1A2Kg22B3n",
    "15m1Fy13U922v1Bo1JyCY1Xs1q1sd2W1qZU8Y12YB181N5u22o1G11v11c15SCj14m1Cb11Z2EC182j13o11132251i1",
    "551j78pvJ1tY25cq131254qO4X21XA2l21Z83r1Ej12B3j1991z13a1CI2v13m1DE2y29216121z4AN4w172222A1A2q",
    "2911211412d3D13g3Ij7727T2o2F11g3Bd3EX8Dt7612223111k472641SAg1514IBk1EtC817p2M1Ew363112131131",
    "Y251214yA49211m1733zkGHWn311t174z22ibJ1Xx871H271215a31tb21e-1Q6Q6Q"]

private def otherDefaultIgnorableCodePointRuns : Partition :=
  Partition.ofAlternating [
    "lQ1lm32po12lb21+d41xnp11l29dWWQ11UW3W4m7mm3"]

private def otherGraphemeExtendRuns : Partition :=
  Partition.ofAlternating [
    "+j21O1cB1O1c31O1e7111421292d31O1t31F1rf21U1WW11511152b31d22uW11XX42ZfU1i31zkL2Wn41q31e81E191",
    "W3191211351W71C1n71c81vJ1C1Zm11kbK2phO266jrhOW3"]

private def otherIDContinueRuns : Partition :=
  Partition.ofAlternating [
    "t51lM1X-39ep11nn12jd41fpp11"]

private def otherIDStartRuns : Partition :=
  Partition.ofAlternating [
    "ba62na21L1ix32"]

private def otherLowercaseRuns : Partition :=
  Partition.ofAlternating [
    "g51F1rF972U5W31q11Xi31lX3-1D1Y1b1nL1D1GDp6GmQQoy12+mU2o61X4332YR491sWN1231g119rZs1+1"]

private def otherMathRuns : Partition :=
  Partition.ofAlternating [
    "+21nR321Q222WX71R3B1W14O2E2X2D413245I1412A113561322213163455h25241212111522424I2211171162Y94",
    "e5211O1H1zD2C955522235E11126O2v1111T492sA2VApCM-14W12ZZr111141p6111Xcr1r21d2122122241C11171X",
    "21428171S141511371qA2P1P1V1P1V1P1V1P1V1P182o1Wm541R1211211A141111614111111312112111111111121",
    "124171414111A1H53151H"]

private def otherUppercaseRuns : Partition :=
  Partition.ofAlternating [
    "Wh8GcQQWZp3Q6Q6Q"]

private def patternSyntaxRuns : Partition :=
  Partition.ofAlternating [
    "X1FA7Q411Q4Y1711121112414131N1V1uu7O8F2J1An9mMW5sJUiZ1WGW4XC34PF1jep12b82"]

private def patternWhiteSpaceRuns : Partition :=
  Partition.ofAlternating [
    "95I1a31ey72O2"]

private def prependedConcatenationMarkRuns : Partition :=
  Partition.ofAlternating [
    "Wm16t61n11WC2m21w+X21F1"]

private def quotationMarkRuns : Partition :=
  Partition.ofAlternating [
    "Y1141Z41F1yw78P2dm31fE4D3Xnp14z5141w22"]

private def radicalRuns : Partition :=
  Partition.ofAlternating [
    "WqBQ1v2Cs6"]

private def regionalIndicatorRuns : Partition :=
  Partition.ofAlternating [
    "cly3Q"]

private def sentenceTerminalRuns : Partition :=
  Partition.ofAlternating [
    "X11C1G1fg11p43q51h13s71z111132b92at12sO142bO1c62z42j1151w92YB4Y52A222T3x52X22aT1N293lb33o91D",
    "1M2jD1ydT1k82Z7131+B2s22-21u42p43m42v71cnK122x1132f51C1G1X21qt22zd15i14z52r34-33X4261G2u2212",
    "i31g92r32rB25Ff32v73bG111x72t22aD2qL2g22fvI2b41X22B1fH2e91cmJ1el71"]

private def softDottedRuns : Partition :=
  Partition.ofAlternating [
    "f32a61v81U1q11K1WA1Y3111fe61p11D131a41z41bD1s62ov21bzf32o12o12o12o12o12o12o12o12o12o12o12o12",
    "ca21n92Q1"]

private def terminalPunctuationRuns : Partition :=
  Partition.ofAlternating [
    "X11A111B231+P181XG1v11e21E113q51h1B11h72s1618V1b82qd12i5146t92rO8bO1y33d22z4331d1422w92YB4Y5",
    "2A213T3x55+12aT1N293lb33o91D141A11232iD2xdT2j83Z75+B2s22-21t43p43-31G2v71cnK122v1314f51A111B",
    "231X2121wX11m11ca11d61s92u46a26v24uT5i14z57m34-33X4261G2u25i31g92r33C2cB43Ff32v73bG111x72t22",
    "42+C3j11bK2g22hf15vlH2b41X23A1fH2d92cmJ1dl74"]

private def unifiedIdeographRuns : Partition :=
  Partition.ofAlternating [
    "WWDWk6W2WmKkmM21112A1111223skX2Wtf1W1wX46+62Yq5Enf7FkJYj4hw45WZ4"]

private def uppercaseRuns : Partition :=
  Partition.ofAlternating [
    "X2Qb3N17X11111111111111111111111111111111111111111111111111111111211111111111111121111111111",
    "11111111111111111111111111111111111121111321112132412133212111112112112131112317121212111111",
    "11111111121111111111111111121211311111111111111111111111111111111111111111111111111111111117",
    "212211411111111X91113181611311121H19Z11233111111111111111111111115121122p1m11111111111111111",
    "11111111111111111911111111111111111111111111111111111111111111111111111121111111111112111111",
    "111111111111111111111111111111111111111111111111111111111111111111111111111111111111111112c1",
    "fw2c11151oMs2pa216h123WA11111111111111111111111111111111111111111111111111111111111111111111",
    "11111111111111111111111111111111111111111111111111111111111111111111111111111111191111111111",
    "1111111111111111111111111111111111111111111111111111111111111111111111111111111111111119886A",
    "88886B111111188e24C4C4C5B4c8141332321356111111424A251QGJ1oPQmv1m1m11132111111411218311111111",
    "11111111111111111111111111111111111111111111111111111111111111111111111111111111111111111181",
    "1141jgU111111111111111111111111111111111111111111111J111111111111111111111111111d41111111111",
    "11131111111111111111111111111111111111111111111111111111111111111A11112111111114111211131111",
    "1111111111111111515111111111111111411123151111111O1hvLQbc1e1e4a1y4B1F1712gt1p1z4Mwv2W1WiLW1W",
    "jPQQQQQQ11221222418QQQ2142817R214151137RQQQQQQQQQQQUPX1PX1PX1PX1PX11rf4Y1kW2Q6Q6Q"]

private def variationSelectorRuns : Partition :=
  Partition.ofAlternating [
    "hW6311mlv1GmtWQm7"]

private def whiteSpaceRuns : Partition :=
  Partition.ofAlternating [
    "95I1a31Q1-k51-h2BT251l11Wz31"]

private def xidContinueRuns : Partition :=
  Partition.ofAlternating [
    "m1A7Q411Ql11A111215N1V1gE4CE57111Hr312331165111K1p21h4152c51c1216f18j1111212118R44TB5g24c318",
    "2A1J21Gx12b3Es141212k1IS4B5O168h21X42A1J18222M1711342922248142152CA1112316422M17121212211542",
    "233174117GB319131M1712152A131321F42A971318222M1712152922237342152A11G216331432111232333C4533",
    "142161EAGD131N1G291314721321242AG418131N1A152913147262142A13CD131p1131554752AA6131I3O1911273",
    "14611186A22Dw15F1Ad1211151O111N2511171A24W11N26AB111114A1a14K1I1a191v1g26k22c111512h11jA1427",
    "11142f1142X1142711142F1v1142Z22399EGGs2263iJ2H1Q5h23B7M9MBKCD1312Cq231422AX131B6v27h15c2AV1C",
    "4CAe125Bi14Q6Bb1S4-11T2B6AD18E1Gn1j23AH9Cq3Cu18A3n12B5h123G31d15sG262c126281111111V2r1171133",
    "1734264D5317F2n12J1S1D1GDp1D413CH1412A11266111111G245541Hf1tp2b769Cc111512u171FO971717171717",
    "17171W1bG3PF15254s222231-25h11+2HW1m1GWGWk6W2jqLZ2k12j83SKm14A1p3b192d32Z2221118Ls141Jq1Cc2A",
    "A6O311n12a1CT3X2EB6V1t19E2A6N3f2O32G25A6262697171h11E6x3122A6azACN4n1ae8kB2g3c17C55C1D151112",
    "121i3X1h46w6IW22s1e1A6GGG32O3X1111311111111+3JA7Q411QAw236262623Z1C1Q1J121F2EY1x3b2r1e41Y4T3",
    "n1F1VW1DU5h15U2a14815g1+42A6a14a14e18q1CB1F17121B1F17123q1Ct99MA8O61g119b26211i112312NAN9VX2",
    "J12AMAQc2u162W241258131T2341W1T3TZ181UPs1AMAJDIk3f2t1p1Dp1De18A6c1351Nw7g11232G3t1X1A18X1VMg",
    "1LRN9d2VG9y171DP7A6r11A448a1219b2441D11Z1I1b164+1711141F1A7x15A6418222M1712151A2223216157273",
    "5BA11211c11A11211418D2Th25A44Uc2118Ac5s129N6Y1X231BAc1v17A6KSR2F4A67v5x1b3g2L82128121U1229CA",
    "c282k12812R-1818g231If2d6X1FA691j119FAOU2M1Ef27121i13112198A66121b112167As9N9H1f135DBr21l2wS",
    "c3l3Ha6io2X3FmX1GMAxy35dIvr6w1cs1vH7V1A6l21A6U25Bt194CA9L5JmDj13Ac6W2W4h24v17HW2212B2Eu-58sc",
    "1f1Adt8417121Z9F1T321E48iCae2h35D397A32nY4AcGk12N+G5368827U4q43xDr21d2122122241C11171X214281",
    "71S141511371qA2P1P1V1P1V1P1V1P1V1P182o1WGt14o181E1M51FmY1V66r671H2712155+1X11m3j13E2A41XAVHw",
    "1sEg1s6h1bF714121F1b6B7f1i24Acb141R1211211A141111614111111312112111111111121124171414111A1H5",
    "3151Hqf3AcW1Wtf1W1wX46+62Yq5Enf7FkJYj2+GYl1hw45WZ4mgtLm7"]

private def xidStartRuns : Partition :=
  Partition.ofAlternating [
    "X2Q6Ql11A1415N1V1gE4CE57111X451233116113111K1p21h48c51c1216f1d2R44j1h1Z121Z311F272A321G11UTv",
    "2B1OX192415M419131NP7B5O16Hg1w1s131I17AFG48222M17113431G1D213E2A186422M17121212V411J3G9131M1",
    "7121531I1F2N1B8222M17121531U213F1H116331432111232333CM1q18131N1G31Q32122U148131N1A1531V212F2",
    "H9131f121G15383O65I3O191127w1m111D7w1211151O111A11A12511L4W11-181a1R5p3h1K1G6443132734DC1Hc1",
    "11512h11jA142711142f1142X1142711142F1v1142Z2b1GGs2263iJ2H1Q5h23B7IDJEIED13Fq1Z1141Z2v27f1115",
    "c2AVn1U25Bi14Qs1N9r1o21z2l1H8s1UD2Ai1Qa1f13Aa12B5h123f141612315W6W2s8262c126281111111V2r1171",
    "1331734264D5317q31D1GDb31412A11266111111G245541Hf1tp2b76432Cc111512u171GN9717171717171717cH3",
    "P975254s2631w2145h11+2HW1m1GWGWk6W2jqLZ2k12j83GA2Kl1GV2m2d192d32Z2221118LG13141NTq1Eo1+16311",
    "2BSANPT7l1S1G51AA51f1N318KN313o11132252111O32B73C6262697171h11E6p3TazACN4n1ae8kB2g3c17C5511A",
    "1D151112121i3X1h46w6IW22s1e1At3111311111111+3a1Q6QBu12V36262623Z1C1Q1J121F2EY1x3b2r1h8T3n1l1",
    "W1DU5c1AU2a14815g1+4Ia14a14e18q1CB1F17121B1F17123q1Ct99MA8O61g119b26211i112312NAN9VX2J12AMAQ",
    "c2u162W21F4131Tg1T3TZ181SRs1AMAJDIk3f2t1p1Dp1Da1c1S9Nw7g162G3x1TA18Mg1Ik1LRNCr1v1221Dj1W1PQa",
    "1T1218Z131Cm1E4L111Z1I1PJ2-1711141F1A7l1c18222M17121531I1C5UA11211c111P111i1r1I4K3Um1K211u5l",
    "1f14a1m1K1x1h1D1d2Rb17v5i1q3W2V82128121OF111+282d1G111S1Ae171L1Bk1J1If2d6X1V91b1H1n1Um37121c",
    "1L1P6121W1E1dAJF11D1Y1y31l2wSc3l3Ha6io2X3FmX1H6Pxy35dIvr6UYt1vH7VHl2HUIm1G4VL5JmDj1p6W2W4h25",
    "1Y2DW2211Su-58sc1f1Adt8417121Z9F1T321E48iCae2h35D397Acx5r21d2122122241C11171X21428171S141511",
    "371qA2P1P1V1P1V1P1V1P1V1P18qv1V66b8+1o4j1A7G1XAUIi1aFSa7U21lF714121F1b6x1a271qb141R1211211A1",
    "41111614111111312112111111111121124171414111A1H53151Hag4Wtf1W1wX46+62Yq5Enf7FkJYj2+GYl1hw45W",
    "Z4"]

def partition : BinaryProperty → Partition
  | .asciiHexDigit => asciiHexDigitRuns
  | .alphabetic => alphabeticRuns
  | .bidiControl => bidiControlRuns
  | .bidiMirrored => bidiMirroredRuns
  | .caseIgnorable => caseIgnorableRuns
  | .cased => casedRuns
  | .changesWhenCasefolded => changesWhenCasefoldedRuns
  | .changesWhenCasemapped => changesWhenCasemappedRuns
  | .changesWhenLowercased => changesWhenLowercasedRuns
  | .changesWhenTitlecased => changesWhenTitlecasedRuns
  | .changesWhenUppercased => changesWhenUppercasedRuns
  | .dash => dashRuns
  | .defaultIgnorableCodePoint => defaultIgnorableCodePointRuns
  | .deprecated => deprecatedRuns
  | .diacritic => diacriticRuns
  | .emoji => emojiRuns
  | .emojiComponent => emojiComponentRuns
  | .emojiModifier => emojiModifierRuns
  | .emojiModifierBase => emojiModifierBaseRuns
  | .emojiPresentation => emojiPresentationRuns
  | .extendedPictographic => extendedPictographicRuns
  | .extender => extenderRuns
  | .graphemeBase => graphemeBaseRuns
  | .graphemeExtend => graphemeExtendRuns
  | .graphemeLink => graphemeLinkRuns
  | .hexDigit => hexDigitRuns
  | .hyphen => hyphenRuns
  | .idsBinaryOperator => idsBinaryOperatorRuns
  | .idsTrinaryOperator => idsTrinaryOperatorRuns
  | .idsUnaryOperator => idsUnaryOperatorRuns
  | .idCompatMathContinue => idCompatMathContinueRuns
  | .idCompatMathStart => idCompatMathStartRuns
  | .idContinue => idContinueRuns
  | .idStart => idStartRuns
  | .ideographic => ideographicRuns
  | .joinControl => joinControlRuns
  | .logicalOrderException => logicalOrderExceptionRuns
  | .lowercase => lowercaseRuns
  | .math => mathRuns
  | .modifierCombiningMark => modifierCombiningMarkRuns
  | .noncharacterCodePoint => noncharacterCodePointRuns
  | .otherAlphabetic => otherAlphabeticRuns
  | .otherDefaultIgnorableCodePoint => otherDefaultIgnorableCodePointRuns
  | .otherGraphemeExtend => otherGraphemeExtendRuns
  | .otherIDContinue => otherIDContinueRuns
  | .otherIDStart => otherIDStartRuns
  | .otherLowercase => otherLowercaseRuns
  | .otherMath => otherMathRuns
  | .otherUppercase => otherUppercaseRuns
  | .patternSyntax => patternSyntaxRuns
  | .patternWhiteSpace => patternWhiteSpaceRuns
  | .prependedConcatenationMark => prependedConcatenationMarkRuns
  | .quotationMark => quotationMarkRuns
  | .radical => radicalRuns
  | .regionalIndicator => regionalIndicatorRuns
  | .sentenceTerminal => sentenceTerminalRuns
  | .softDotted => softDottedRuns
  | .terminalPunctuation => terminalPunctuationRuns
  | .unifiedIdeograph => unifiedIdeographRuns
  | .uppercase => uppercaseRuns
  | .variationSelector => variationSelectorRuns
  | .whiteSpace => whiteSpaceRuns
  | .xidContinue => xidContinueRuns
  | .xidStart => xidStartRuns

def holds (p : BinaryProperty) (c : Char) : Bool := p.partition.label c == 1

end BinaryProperty
end DocQuery.Unicode
