import DocQuery.Unicode.Partition
/-!
The script of every character, and all the scripts that it is used with. Scripts are counted in the
order of `scriptNames`; the number after the last one stands for no script.
-/
namespace DocQuery.Unicode

/-- The scripts under all their names, as loose matching leaves them. -/
def scriptNames : List (List String) :=
  [
    ["adlm", "adlam"], ["ahom"], ["hluw", "anatolianhieroglyphs"], ["arab", "arabic"],
    ["armn", "armenian"], ["avst", "avestan"], ["bali", "balinese"], ["bamu", "bamum"],
    ["bass", "bassavah"], ["batk", "batak"], ["beng", "bengali"], ["bhks", "bhaiksuki"],
    ["bopo", "bopomofo"], ["brah", "brahmi"], ["brai", "braille"], ["bugi", "buginese"],
    ["buhd", "buhid"], ["cans", "canadianaboriginal"], ["cari", "carian"],
    ["aghb", "caucasianalbanian"], ["cakm", "chakma"], ["cham"], ["cher", "cherokee"],
    ["chrs", "chorasmian"], ["zyyy", "common"], ["copt", "coptic", "qaac"],
    ["xsux", "cuneiform"], ["cprt", "cypriot"], ["cpmn", "cyprominoan"], ["cyrl", "cyrillic"],
    ["dsrt", "deseret"], ["deva", "devanagari"], ["diak", "divesakuru"], ["dogr", "dogra"],
    ["dupl", "duployan"], ["egyp", "egyptianhieroglyphs"], ["elba", "elbasan"],
    ["elym", "elymaic"], ["ethi", "ethiopic"], ["gara", "garay"], ["geor", "georgian"],
    ["glag", "glagolitic"], ["goth", "gothic"], ["gran", "grantha"], ["grek", "greek"],
    ["gujr", "gujarati"], ["gong", "gunjalagondi"], ["guru", "gurmukhi"],
    ["gukh", "gurungkhema"], ["hani", "han"], ["hang", "hangul"], ["rohg", "hanifirohingya"],
    ["hano", "hanunoo"], ["hatr", "hatran"], ["hebr", "hebrew"], ["hira", "hiragana"],
    ["armi", "imperialaramaic"], ["zinh", "inherited", "qaai"], ["phli", "inscriptionalpahlavi"],
    ["prti", "inscriptionalparthian"], ["java", "javanese"], ["kthi", "kaithi"],
    ["knda", "kannada"], ["kana", "katakana"], ["kawi"], ["kali", "kayahli"],
    ["khar", "kharoshthi"], ["kits", "khitansmallscript"], ["khmr", "khmer"], ["khoj", "khojki"],
    ["sind", "khudawadi"], ["krai", "kiratrai"], ["laoo", "lao"], ["latn", "latin"],
    ["lepc", "lepcha"], ["limb", "limbu"], ["lina", "lineara"], ["linb", "linearb"], ["lisu"],
    ["lyci", "lycian"], ["lydi", "lydian"], ["mahj", "mahajani"], ["maka", "makasar"],
    ["mlym", "malayalam"], ["mand", "mandaic"], ["mani", "manichaean"], ["marc", "marchen"],
    ["gonm", "masaramgondi"], ["medf", "medefaidrin"], ["mtei", "meeteimayek"],
    ["mend", "mendekikakui"], ["merc", "meroiticcursive"], ["mero", "meroitichieroglyphs"],
    ["plrd", "miao"], ["modi"], ["mong", "mongolian"], ["mroo", "mro"], ["mult", "multani"],
    ["mymr", "myanmar"], ["nbat", "nabataean"], ["nagm", "nagmundari"], ["nand", "nandinagari"],
    ["talu", "newtailue"], ["newa"], ["nkoo", "nko"], ["nshu", "nushu"],
    ["hmnp", "nyiakengpuachuehmong"], ["ogam", "ogham"], ["olck", "olchiki"], ["onao", "olonal"],
    ["hung", "oldhungarian"], ["ital", "olditalic"], ["narb", "oldnortharabian"],
    ["perm", "oldpermic"], ["xpeo", "oldpersian"], ["sogo", "oldsogdian"],
    ["sarb", "oldsoutharabian"], ["orkh", "oldturkic"], ["ougr", "olduyghur"], ["orya", "oriya"],
    ["osge", "osage"], ["osma", "osmanya"], ["hmng", "pahawhhmong"], ["palm", "palmyrene"],
    ["pauc", "paucinhau"], ["phag", "phagspa"], ["phnx", "phoenician"],
    ["phlp", "psalterpahlavi"], ["rjng", "rejang"], ["runr", "runic"], ["samr", "samaritan"],
    ["saur", "saurashtra"], ["shrd", "sharada"], ["shaw", "shavian"], ["sidd", "siddham"],
    ["sgnw", "signwriting"], ["sinh", "sinhala"], ["sogd", "sogdian"], ["sora", "sorasompeng"],
    ["soyo", "soyombo"], ["sund", "sundanese"], ["sunu", "sunuwar"], ["sylo", "sylotinagri"],
    ["syrc", "syriac"], ["tglg", "tagalog"], ["tagb", "tagbanwa"], ["tale", "taile"],
    ["lana", "taitham"], ["tavt", "taiviet"], ["takr", "takri"], ["taml", "tamil"],
    ["tnsa", "tangsa"], ["tang", "tangut"], ["telu", "telugu"], ["thaa", "thaana"], ["thai"],
    ["tibt", "tibetan"], ["tfng", "tifinagh"], ["tirh", "tirhuta"], ["todr", "todhri"], ["toto"],
    ["tutg", "tulutigalari"], ["ugar", "ugaritic"], ["vaii", "vai"], ["vith", "vithkuqi"],
    ["wcho", "wancho"], ["wara", "warangciti"], ["yezi", "yezidi"], ["yiii", "yi"],
    ["zanb", "zanabazarsquare"]
  ]

def script? (name : String) : Option Nat := scriptNames.findIdx? fun names => names.contains name

def scriptPartition : Partition :=
  Partition.ofText [
    "X2OQf26OQf2l1O1f2FO1f25ONf21OVf21OXEf2d1O5f25O2CKOm3v14i11O3i12g54i11O1i14g51i11O1i11O3i11g5",
    "1i11g5Ki11g5-1i1EPGi1b4T2v1f5T1g5c142g5o142g5341g5t1s18g5Rs14g56s1Bg5531O631OE31O331OW131OA3",
    "Bv1Q31v1i331OY13El41g5y1l42g53l4m13o1w4Eg5x1e32g53e3k1Y42g5FY41g5Sq22g51q21g5Bl45g5V31g5235g",
    "5h231OT3n2V4v1FV2OQV4A1g58A2g52A2g5MA1g57A1g51A3g54A2g59A2g52A2g54A8g51A4g52A1g55A2g5PA2g53l",
    "11g56l14g52l12g5Ml11g57l11g52l11g52l11g52l12g51l11g55l14g52l12g53l13g51l17g54l11g51l17g5Hl1A",
    "g53j11g59j11g53j11g5Mj11g57j11g52j11g55j12g5Aj11g53j11g53j12g51j1Fg54j12g5Cj17g57j11g53t31g5",
    "8t32g52t32g5Mt31g57t31g52t31g55t32g59t32g52t32g53t37g53t34g52t31g55t32g5It3Ag52s41g56s43g53s",
    "41g54s43g52s41g51s41g52s43g52s43g53s43g5Cs44g55s43g53s41g54s42g51s46g51s4Eg5Ls45g5Dv41g53v41",
    "g5Nv41g5Gv42g59v41g53v41g54v47g52v41g53v42g51v42g54v42g5Av47g59v4D+11g53+11g5N+11g5A+11g55+1",
    "2g59+11g53+11g54+17g52+16g52+11g54+12g5A+11g53+1Cg5Dp21g53p21g5p1p21g53p21g56p24g5Gp22g5Qp21",
    "g53e41g5Ie43g5Oe41g59e41g51e42g57e43g51e44g56e41g51e41g58e46g5Ae42g53e4Cg5w1x44g51OSx4b1g52e",
    "21g51e21g55e21g5Oe21g51e21g5Ne22g55e21g51e21g57e21g5Ae22g54e2W1g5e2y41g5a1y44g5d1y41g5a1y41g",
    "5Fy41g57y44O2y4b1g5W5Y3c1e11g51e15g51e12g5h1e11O4e1W8o1f2c11g54c12g57c11g51c11g54c12g5f1c11g",
    "54c12g5X1c11g54c12g57c11g51c11g54c12g5Fc11g5v1c11g54c12g5Z2c12g5W1c13g5Qc16g5s2M2g56M2g5WKHT",
    "h33g5h2X43OBX47g5Mm49g51m4Lq12O9g5KGCg5Dn41g53n41g52n4Cg5+2a22g5Aa26g5Aa26g52-22O1-21OK-26g5",
    "v2-27g5h1-25g5c2HAg5Vh21g5Ch24g5Ch24g51h23g5Ch2Uo42g55o4Bg5i1c34g5Qc36g5Bc33g52c3W1a2SF2g52F",
    "-1p41g5Tp42g5Bp46g5Ap46g5Ep42g5Vv1n1g5j261g5o16W2i4q198g549u1g23g5Fg23g53g2m1i3BT5g5h1e12g53",
    "e18i48g53v11ODv11O7v14O1v16O1v13O2v11O5g5c1f25i11Tn1f25i14f25i1Df21Tc2f21i1W2v1W8f2Mi12g56i1",
    "2g5c1i12g56i12g58i11g51i11g51i11g51i11g5Vi12g5r1i11g5Fi11g5Ei12g56i11g5Ji12g53i11g59i11g5CO2",
    "v1t2O1g5BO1f22g5BO1f2FO1g5Df23g5X1OFg5X1v1Fg5c1O1i13O2f26O1f2RO1f2HOf1f23O4g5wKOMg5BOLg5WTOW",
    "8EqJO2g5W1O1g5f3OW3f1W1f2q3P5g57Pc1e11g51e15g51e12g5u1z47g52z4Eg51z4Nc19g57c11g57c11g57c11g5",
    "7c11g57c11g57c11g57c11g57c11g5W1T+2OY1g5Qn11g5v2n1Cg5s6n1Qg5LO1n11O1n1PO9n14v12o18O4n14O1g5s",
    "2t12g52v12O3t11Ow2-12O3-15g5h1C1g5+2o11g5GOW1Cc1O9g51OG-1Vo11g5W2OVo1n2Ol1-11Ou2-1e5OWk6n1W2",
    "OWmKn1ja1e53g5t1e59g5m1k2i9Z5Kg5W3Tu278g5Y1Oc3f23OZ2f22g52f21g51f21g58f2Lg5Ef2j1k43g5AO6g5u1",
    "z38g5c2Z48g5CZ46g5W1Vk1X21O1X2a1W4Bg51W4To13g5k2y11g51OAy14g52y1VY31g5t1L9g5EL2g5AL2g54LW1Y3",
    "Z2q4Og55q4Nv2Ag56c12g56c12g56c19g57c11g57c11g5h1f21O9f21i14f22O4g5m2Mk1v22g5Av26g5azAo1Cg5No",
    "14g5n1o1ae8g5kBn12g5g3n1c1g57f2Cg5545g5Qs11g55s11g51s11g52s11g52s11g5As1p33Gg5hB32Om232g5s13",
    "7g513W1g5G3Gv1AO6g5Ev12TZ1O1g5JO1g54O4g5531g5d432g51O1g5W1OQf26OQf2BOA-11Oj1-12OVo13g56o12g5",
    "6o12g56o12g53o13g57O1g57OAg55O2g5Cj21g5Qj21g5Jj21g52j21g5Fj22g5Ej2Y1g5x3j25g53O4g5j1O3g59Ol2",
    "i11g5DO3g51i1l1g5j1O1v1Y4g5Tl23g5n1IFg51v1RO4g5a1l39g53l3Rg15g5h1n35g5UY51g51Y5a1o34g5Eo3g1g",
    "5m2Um1b4Uv32g5Av36g5a1u34g5a1u34g5e1a18g5q1JBg51JBa51g5Fa51g57a51g52a51g5Ba51g5Fa51g57a51g52",
    "a53g5q1-4Cg5t9i29g5Mi2Ag58i2Og56f21g5g1f21g59f2b2g56R2g51R1g5i1R1g52R3g51R2g51RMu11g59u1W1x3",
    "VZ38g59Z3m1g5Jr11g52r15g55r1S+33g51+3Qm25g51m2W2g5W1y2Ox24g5Kx22g5k1x24Y21g52Y25g58Y21g53Y21",
    "g5TY22g53Y24g5AY27g59Y27g5W1q3W1m3W1g5d1r24g5Cr29g5s153g575Mx12g58x1Jw15g58w1I-37g54-3Cg57-3",
    "m2g5f2r3t1g5p1k3Dg5p1k37g56k3e1p18g5Ap16g5c1d13g5Td18g52d1m6g5V31g5g1d51g53d52g52d5Gg533t1g5",
    "43e1p38g5g1f4Mg5Qs3c1g5SNKg5Nb19g5k2D4g5a1D9g51DZ2z1Ag51z12g5Pg47g5Ag46g5r1K1g5IK8g5d1n29g5W",
    "3a41g5Ke4Bg5Ib21g5l1b2+1g57X31g51X31g54X31g5FX31g5BX36g5x1c25g5Ac26g54h11g58h12g52h12g5Mh11g",
    "57h11g52h11g55h11g51v19h12g52h12g53h12g51h16g51h15g57h12g57h13g55h1Bg5AX51g51X52g51X51g5c1X5",
    "1g5AX51g51X52g51X51g54X51g5AX51g52X58g52X5Tg5y2d31g55d3Ug5e2+48g5A+4c5g5s1c42g5c1c4Y1g5b2+2B",
    "g5A+26g5D-2Jg5w1r46g5Ar46g5KY3Sg5R12g5F14g5N1v5g5y1X1a3g5p2c5Cg51c57W12g51W12g58W11g52W11g5U",
    "W11g52W12g5CW19g5AW1c2g58b32g5k1b32g5Bb3Rg5e2f58g5p2h4Dg5GHv1y37g5AVs5g5Y1j4Eg5Aj46g59B1g5j1",
    "B1g5EBAg5TB3g5W1s22g5Ms21g5Es2f2g57t21g52t21g5i1t23g51t21g52t21g59t28g5At26g56k11g52k11g5b1k",
    "11g52k11g56k17g5Ak1s9g5Po27g5HW21g5f1W23g5TW2r2g51k2Fg5o1s4Dg51s4wSQc3g5l3Q1g55QBg5a6Qio2g5Z",
    "3SDg5sY1Z1Ag5xy3Z15g5dI2vr6g5w1m1cs1g5vH77g5VW31g5AW34g52W3l2t41g5At46g5U82g568Ag5c2w3Ag5Aw3",
    "1g57w31g5Lw35g5Jw3mDg5w1d2c6g5x2u2b3g5h2z24g5v1z27g5Hz2W2g51u41f32n11Z2Bg52n1Eg5u-5u48g5WOu4",
    "sEZ2f1g51Z29u4dt8g54-11g57-11g52-11g51-1-8t13-1Fg51t1Tg53t12g51-1Eg54-18g5iCf3ae2g5h3Y15g5DY",
    "13g59Y17g5AY12g54Y14Oyw3g5w7O6g5qDOi2g5k1v12g5Nv19g5q3Oy1g5s7OAg5d1O2g5+1O3v1HO8v12O7v1UO4v1",
    "z1OLg5c2i1w3g5KOCg5KOCg5t2O9g5POd4g5r2O1g5d2O1g52O2g51O2g52O2g54O1g5CO1g51O1g57O1g5X2O1g54O2",
    "g58O1g57O1g5SO1g54O1g55O1g51O3g57O1g5qAO2g5a9O2g5o1OiKd4Fg55d41g5Fd4mY1g5Vf26g56f2r6g57f11g5",
    "Hf12g57f11g52f11g55f15g5+1TX1g51Tm3g5j1g33g5Eg32g5Ag34g52g3WAg5VW5Hg5w1b55g51b5mEg5g1a3s6g5h",
    "1j34g51j3WFg57c11g54c11g52c11g5Fc11g5b6w22g5Gw2f1g5i204g5A04g520nOg5a2Oi2g5z1OY6g5431g5R31g5",
    "231g5132g5131g5A31g5431g5131g5136g5134g5131g5131g5131g5331g5231g5132g5131g5131g5131g5131g513",
    "1g5231g5132g5431g5731g5431g5431g5131g5A31g5H35g5331g5531g5H3q1g523k8g5i1O4g5a3OCg5FO2g5FO1g5",
    "FO1g5b1OAg5k5Ou1g5QO1t12ODg5i1O4g59O7g52OEg56Ow4g5uUO4g5HO3g5DO3g5t3O4g5-2O6g5CO4g51OFg5CO4g",
    "5u1O8g5AO6g5e1O8g5UO2g5CO4g52O+1g5qAOCg5EO2g5DO3g5AO5g5u1O7g5FO2g5BO6g59O7g5p4O1g5c3OcW1g5Wt",
    "f1n1W1g5wX4n16g5+6n12g5Yq5n1Eg5nf7n1Fg5kJn1Yj2g5+Gn1Yl1g5hw4n15g5WZ4n1nYtLg51OUg5W3OW4g5m7v1",
    "mm-5g5"]

def script (c : Char) : Nat := scriptPartition.label c

/-- Sets of several scripts that some characters are used with. -/
def sharedScripts : List (List Nat) :=
  [
    [5, 18, 25, 34, 36, 40, 41, 42, 44, 46, 49, 73, 80, 81, 113, 133],
    [10, 29, 31, 73, 78, 155, 160], [12, 73], [73, 78], [73, 155],
    [22, 25, 29, 44, 73, 113, 141, 146], [22, 29, 44, 73, 120, 141, 146, 159], [22, 29, 73, 157],
    [41, 73, 141, 143, 155], [19, 22, 25, 29, 42, 44, 73, 120, 143, 157, 159],
    [25, 36, 41, 42, 63, 73], [29, 44, 73, 113, 157], [25, 34, 54, 73, 113, 143, 146, 157, 159],
    [4, 29, 34, 42, 44, 54, 73, 113, 143, 146, 157], [73, 157], [34, 73, 143], [22, 29, 73, 120],
    [22, 73, 146], [73, 141], [38, 73], [29, 73, 159], [44, 73, 113, 159],
    [22, 34, 63, 73, 143, 157], [22, 34, 73, 143], [73, 143], [73, 141, 143], [22, 73, 143],
    [19, 22, 42, 73, 141, 143, 155], [73, 120], [19, 73, 159], [25, 44], [29, 113], [29, 41],
    [29, 73], [4, 40, 41], [3, 39, 51, 104, 143, 154, 167], [3, 143, 154],
    [0, 3, 39, 51, 104, 143, 154, 167], [0, 3, 51, 84, 85, 118, 127, 137, 143], [3, 143],
    [3, 154, 167], [3, 51], [10, 31, 43, 45, 47, 62, 73, 83, 101, 103, 119, 132, 150, 153, 158],
    [10, 31, 43, 45, 47, 62, 73, 83, 103, 119, 150, 153, 158],
    [10, 31, 33, 43, 45, 46, 47, 62, 70, 81, 83, 87, 101, 109, 119, 136, 142, 149, 150, 153, 158],
    [10, 31, 33, 43, 45, 46, 47, 48, 62, 70, 75, 81, 83, 87, 101, 109, 119, 136, 142, 149, 150, 153, 158],
    [31, 33, 61, 81], [10, 20, 142], [47, 97], [45, 69], [43, 150], [62, 101, 161],
    [20, 98, 146], [40, 41, 73], [16, 52, 144, 145], [95, 125], [10, 31, 43, 62], [31, 43, 62],
    [10, 31, 103, 153, 158], [10, 31, 153], [31, 103, 132], [10, 31, 103, 153], [31, 132],
    [31, 62, 83, 119, 150, 153], [10, 31], [31, 103, 158], [31, 101, 103], [10, 31, 132],
    [31, 103], [10, 31, 103, 132], [10, 31, 43, 62, 83, 101, 119, 136, 153, 158, 161], [31, 43],
    [31, 43, 62, 161], [29, 73, 143], [73, 95, 125], [0, 3], [18, 40, 41, 79, 110, 117],
    [18, 44, 92, 110], [31, 43, 73], [25, 73], [5, 117], [5, 18, 40, 61, 80, 110, 130],
    [0, 3, 110], [49, 152], [12, 49, 50, 55, 63, 95, 168], [12, 49, 50, 55, 63, 95, 125, 168],
    [12, 49, 50, 55, 63], [12, 49, 50, 55, 63, 95, 156, 168],
    [12, 49, 50, 55, 63, 78, 95, 156, 168], [12, 49, 50, 55, 63, 168], [12, 49], [55, 63],
    [49, 55, 63], [49, 73],
    [31, 33, 45, 47, 61, 62, 69, 70, 81, 83, 94, 101, 132, 149, 158, 161],
    [31, 33, 45, 47, 61, 62, 69, 70, 81, 94, 101, 132, 149, 158, 161],
    [31, 33, 45, 47, 61, 69, 70, 81, 94, 149, 158],
    [31, 33, 45, 47, 61, 69, 70, 81, 94, 132, 149, 158], [10, 31, 161], [31, 150], [65, 73, 98],
    [15, 60], [3, 104], [3, 154], [27, 28, 77], [27, 77], [27, 76, 77], [3, 25], [85, 118]
  ]

/-- The scripts that each run of characters is used with: one script, or beyond those and the number
for none, one of the sets of several. -/
def extensionPartition : Partition :=
  Partition.ofText [
    "X2OQf26OQf2l1O1f2CO1h52O1f25ONf21OVf21OXEf23O1i5AO1j51O3j51O1k59O1l51O1j56O5f25O2CKO1m51n51o",
    "51p51q51r51s51t51u51v51w51x51y51z51+51v11z51-51v11W6Fv11X61Y61Z67v11a61Z61v11b61c6Gv11i12v11",
    "i1Iv11d65v11e64v1Df24i12f62i12g54i11O1i14g51i11O1i11O3i11g51i11g5Ki11g5-1i1EPGi1Z4T1g61h62i6",
    "1h6e5T1g5c142g5m141j6142g5341g5t1s18g5Rs14g56s1Bg5531O631k6E31k61l6231m6W131n6A3Bo6A3Ap6631o",
    "6Z331q6831OY13El41g5y1l42g53l4m13o1w4Eg5x1e32g53e3k1Y42g5FY41g5Sq22g51q21g5Bl45g5V31g5235g5h",
    "231OT3n2V1r61s62v1FV1t61u6Av6GV4A1g58A2g52A2g5MA1g57A1g51A3g54A2g59A2g52A2g54A8g51A4g52A1g55",
    "A2g5Aw6FA2g53l11g56l14g52l12g5Ml11g57l11g52l11g52l11g52l12g51l11g55l14g52l12g53l13g51l17g54l",
    "11g51l17g5Ax67l1Ag53j11g59j11g53j11g5Mj11g57j11g52j11g55j12g5Aj11g53j11g53j12g51j1Fg54j12g5A",
    "y62j17g57j11g53t31g58t32g52t32g5Mt31g57t31g52t31g55t32g59t32g52t32g53t37g53t34g52t31g55t32g5",
    "It3Ag52s41g56s43g53s41g54s43g52s41g51s41g52s43g52s43g53s43g5Cs44g55s43g53s41g54s42g51s46g51s",
    "4Eg5Ez67s45g5Dv41g53v41g5Nv41g5Gv42g59v41g53v41g54v47g52v41g53v42g51v42g54v42g5Av47g59v4D+11",
    "g53+11g5N+11g5A+11g55+12g59+11g53+11g54+17g52+16g52+11g54+12g5A+61g53+1Cg5Dp21g53p21g5p1p21g",
    "53p21g56p24g5Gp22g5Qp21g53e41g5Ie43g5Oe41g59e41g51e42g57e43g51e44g56e41g51e41g58e46g5Ae42g53",
    "e4Cg5w1x44g51OSx4b1g52e21g51e21g55e21g5Oe21g51e21g5Ne22g55e21g51e21g57e21g5Ae22g54e2W1g5e2y4",
    "1g5a1y44g5d1y41g5a1y41g5Fy41g57y44O2y4b1g5W2Y3A-6s2Y3c1e11g51e15g51e12g5h1e11W74e1W8o1f2c11g",
    "54c12g57c11g51c11g54c12g5f1c11g54c12g5X1c11g54c12g57c11g51c11g54c12g5Fc11g5v1c11g54c12g5Z2c1",
    "2g5W1c13g5Qc16g5s2M2g56M2g5WKHTh33g5v2X47g5Mm49g51m4Lq12X79g5KGCg5Dn41g53n41g52n4Cg5+2a22g5A",
    "a26g5Aa26g52-22Y71-21Y7K-26g5v2-27g5h1-25g5c2HAg5Vh21g5Ch24g5Ch24g51h23g5Ch2Uo42g55o4Bg5i1c3",
    "4g5Qc36g5Bc33g52c3W1a2SF2g52F-1p41g5Tp42g5Bp46g5Ap46g5Ep42g5Vv1n1g5j261g5o16W2i4q198g549u1g2",
    "3g5Fg23g53g2m1i3BT5g5h1e12g53e18i48g51Z71V1Z71a71V1b71c71d71e71f71g71V2f72V1f71h71i76V1j71k7",
    "1l71V1m74V1n71o71p72h71A2o71b35g5c1f25i11Tn1f25i14f25i1Df21Tc2f23i1s1v11q71v11l45v1W8f2Mi12g",
    "56i12g5c1i12g56i12g58i11g51i11g51i11g51i11g5Vi12g5r1i11g5Fi11g5Ei12g56i11g5Ji12g53i11g59i11g",
    "5CO2v1X1O1r7VO1s7AO1t72O1u77O1g5BO1f22g5BO1f2FO1g5Df23g5X1OFg5W1v11v7Fg5c1O1i13O2f26O1f2RO1f",
    "2HOf1f23O4g5wKOMg5BOLg5WTOW8EqJO2g5W1O1g5f3OW3f1W1f2q3P5g57Pc1e11g51e15g51e12g5u1z47g52z4Eg5",
    "1z4Nc19g57c11g57c11g57c11g57c11g57c11g57c11g57c11g57c11g5W1TNO1w7OO1x71y7AO1Y14O1z71O1h6QOY1",
    "g5Qn11g5v2n1Cg5s6n1Qg5G+71O1-71W81X81O3n12Y82Z86a81O1X88a84X81O9n14b82o11X85c81O1X84n12d82n1",
    "1g5s2t12g54c83t11c8w2-11a81c83-15g5h1C1g5+2o11g5Gn1W1Cc1n19g51+7G-1Vo11g5e1n1OOVo11On1n1FOCn",
    "14Ol1-11n1u2-1Pn1AO5n1W3OVn11OWk6n1W2OWmKn1ja1e53g5t1e59g5m1k2i9Z5Kg5l1T1h6m1Tu278g58e8QOc3f",
    "23OZ2f22g52f21g51f21g58f2Lg5Ef2j1k43g53f83g82h81i81h86g5u1z38g5c2Z48g5CZ46g5HV1j81V1k8CVk1X2",
    "1l81X2a1W4Bg51W4To13g5k2y11g51m8Ay14g52y1VY31g5t1L9g5EL2g5AL2g54LW1Y3Z2q4Og55q4Nv2Ag56c12g56",
    "c12g56c19g57c11g57c11g5h1f21O9f21i14f22O4g5m2Mk1v22g5Av26g5azAo1Cg5No14g5n1o1ae8g5kBn12g5g3n",
    "1c1g57f2Cg5545g5Qs11g55s11g51s11g52s11g52s11g5As1p33Gg5hB32n8m232g5s137g513W1g5231o8A31o823G",
    "v1AO6g5Ev12TLO2X8CO1g5JO1g54O4g5531g5d432g51O1g5W1OQf26OQf26O5a8A-11c8j1-12c8Vo13g56o12g56o1",
    "2g56o12g53o13g57O1g57OAg55O2g5Cj21g5Qj21g5Jj21g52j21g5Fj22g5Ej2Y1g5x3j25g52p81q84g5j1r83g59q",
    "8l2i11g5DO3g51i1l1g5j1O1v1Y4g5Tl23g5n1IFg5Ss84g5a1l39g53l3Rg15g5h1n35g5UY51g51Y5a1o34g5Eo3g1",
    "g5m2Um1b4Uv32g5Av36g5a1u34g5a1u34g5e1a18g5q1JBg51JBa51g5Fa51g57a51g52a51g5Ba51g5Fa51g57a51g5",
    "2a53g5q1-4Cg5t9i29g5Mi2Ag58i2Og56f21g5g1f21g59f2b2g56R2g51R1g5i1R1g52R3g51R2g51RMu11g59u1W1x",
    "3VZ38g59Z3m1g5Jr11g52r15g55r1S+33g51+3Qm25g51m2W2g5W1y2Ox24g5Kx22g5k1x24Y21g52Y25g58Y21g53Y2",
    "1g5TY22g53Y24g5AY27g59Y27g5W1q3W1m3W1g5d1r24g57r21t84r29g5s153g575Mx12g58x1Jw15g58w1I-37g54-",
    "3Cg57-3m2g5f2r3t1g5p1k3Dg5p1k37g56k3e1p18g5Ap16g5c1d13g5Td18g52d1m6g5V31g5g1d51g53d52g52d5Gg",
    "533t1g543e1p38g5g1f4Mg5Qs3c1g5SNKg5Nb19g5k2D4g5a1D9g51DZ2z1Ag51z12g5Pg47g5Ag46g5r1K1g5IK8g5d",
    "1n29g5W3a41g5Ke4Bg5Ib21g5l1b2+1g57X31g51X31g54X31g5FX31g5BX36g5x1c25g5Ac26g51h11z61h11z61g58",
    "h12g52h12g5Mh11g57h11g52h11g55h11g52z68h12g52h12g53h12g51h16g51h15g57h12g57h13g55h1Bg5AX51g5",
    "1X52g51X51g5c1X51g5AX51g51X52g51X51g54X51g5AX51g52X58g52X5Tg5y2d31g55d3Ug5e2+48g5A+4c5g5s1c4",
    "2g5c1c4Y1g5b2+2Bg5A+26g5D-2Jg5w1r46g5Ar46g5KY3Sg5R12g5F14g5N1v5g5y1X1a3g5p2c5Cg51c57W12g51W1",
    "2g58W11g52W11g5UW11g52W12g5CW19g5AW1c2g58b32g5k1b32g5Bb3Rg5e2f58g5p2h4Dg5GHv1y37g5AVs5g5Y1j4",
    "Eg5Aj46g59B1g5j1B1g5EBAg5TB3g5W1s22g5Ms21g5Es2f2g57t21g52t21g5i1t23g51t21g52t21g59t28g5At26g",
    "56k11g52k11g5b1k11g52k11g56k17g5Ak1s9g5Po27g5HW21g5f1W23g5TW2r2g51k2Fg5Gs42z61s41z6Us4Dg51s4",
    "wSQc3g5l3Q1g55QBg5a6Qio2g5Z3SDg5sY1Z1Ag5xy3Z15g5dI2vr6g5w1m1cs1g5vH77g5VW31g5AW34g52W3l2t41g",
    "5At46g5U82g568Ag5c2w3Ag5Aw31g57w31g5Lw35g5Jw3mDg5w1d2c6g5x2u2b3g5h2z24g5v1z27g5Hz2W2g51u41f3",
    "2n11Z2Bg52n1Eg5u-5u48g5WOu4sEZ2f1g51Z29u4dt8g54-11g57-11g52-11g51-1-8t13-1Fg51t1Tg53t12g51-1",
    "Eg54-18g5iCf3ae2g5h3Y15g5DY13g59Y17g5AY12g58Y1yw3g5w7O6g5qDOi2g5k1v12g5Nv19g5q3Oy1g5s7OAg5d1",
    "O2g5+1O3v1HO8v12O7v1UO4v1z1OLg5c2i1w3g5KOCg5KOCg5t2O9g5In17Od4g5r2O1g5d2O1g52O2g51O2g52O2g54",
    "O1g5CO1g51O1g57O1g5X2O1g54O2g58O1g57O1g5SO1g54O1g55O1g51O3g57O1g5qAO2g5a9O2g5o1OiKd4Fg55d41g",
    "5Fd4mY1g5Vf26g56f2r6g57f11g5Hf12g57f11g52f11g55f15g5+1TX1g51Tm3g5j1g33g5Eg32g5Ag34g52g3WAg5V",
    "W5Hg5w1b55g51b5mEg5g1a3s6g5h1j34g51j3WFg57c11g54c11g52c11g5Fc11g5b6w22g5Gw2f1g5i204g5A04g520",
    "nOg5a2Oi2g5z1OY6g5431g5R31g5231g5132g5131g5A31g5431g5131g5136g5134g5131g5131g5131g5331g5231g",
    "5132g5131g5131g5131g5131g5131g5231g5132g5431g5731g5431g5431g5131g5A31g5H35g5331g5531g5H3q1g5",
    "23k8g5i1O4g5a3OCg5FO2g5FO1g5FO1g5b1OAg5k5Ou1g5QO1t12ODg5i1O4g59O7g52n1Eg56Ow4g5uUO4g5HO3g5DO",
    "3g5t3O4g5-2O6g5CO4g51OFg5CO4g5u1O8g5AO6g5e1O8g5UO2g5CO4g52O+1g5qAOCg5EO2g5DO3g5AO5g5u1O7g5FO",
    "2g5BO6g59O7g5p4O1g5c3OcW1g5Wtf1n1W1g5wX4n16g5+6n12g5Yq5n1Eg5nf7n1Fg5kJn1Yj2g5+Gn1Yl1g5hw4n15",
    "g5WZ4n1nYtLg51OUg5W3OW4g5m7v1mm-5g5"]

def scriptExtensions (c : Char) : List Nat :=
  let label := extensionPartition.label c
  if label ≤ scriptNames.length then [label]
  else (sharedScripts[label - scriptNames.length - 1]?).getD []

end DocQuery.Unicode
