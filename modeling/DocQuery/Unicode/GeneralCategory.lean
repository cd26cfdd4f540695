import DocQuery.Unicode.Partition
/-!
The general category of every character, and the names of the categories and of their groups. Names
are written as loose matching leaves them: in lower case, with no blank, hyphen or underscore.
-/
namespace DocQuery.Unicode

inductive GeneralCategory where
  | lu | ll | lt | lm | lo | mn | mc | me | nd | nl
  | no | pc | pd | ps | pe | pi | pf | po | sm | sc
  | sk | so | zs | zl | zp | cc | cf | co | cs | cn
deriving DecidableEq

namespace GeneralCategory

/-- The categories in the order that the table counts them. -/
def all : List GeneralCategory :=
  [
    .lu, .ll, .lt, .lm, .lo, .mn, .mc, .me, .nd, .nl, .no, .pc, .pd, .ps, .pe, .pi, .pf, .po,
    .sm, .sc, .sk, .so, .zs, .zl, .zp, .cc, .cf, .co, .cs, .cn
  ]

/-- Categories and groups of categories under all their names. No scalar value is a surrogate, so
that category has no name. -/
def named : List (List String × List GeneralCategory) :=
  [
    (["c", "other"], [.cc, .cf, .co, .cn]), (["cc", "control", "cntrl"], [.cc]),
    (["cf", "format"], [.cf]), (["cn", "unassigned"], [.cn]), (["co", "privateuse"], [.co]),
    (["l", "letter"], [.lu, .ll, .lt, .lm, .lo]), (["lc", "casedletter"], [.lu, .ll, .lt]),
    (["ll", "lowercaseletter"], [.ll]), (["lm", "modifierletter"], [.lm]),
    (["lo", "otherletter"], [.lo]), (["lt", "titlecaseletter"], [.lt]),
    (["lu", "uppercaseletter"], [.lu]), (["m", "mark", "combiningmark"], [.mn, .mc, .me]),
    (["mc", "spacingmark"], [.mc]), (["me", "enclosingmark"], [.me]),
    (["mn", "nonspacingmark"], [.mn]), (["n", "number"], [.nd, .nl, .no]),
    (["nd", "decimalnumber", "digit"], [.nd]), (["nl", "letternumber"], [.nl]),
    (["no", "othernumber"], [.no]),
    (["p", "punctuation", "punct"], [.pc, .pd, .ps, .pe, .pi, .pf, .po]),
    (["pc", "connectorpunctuation"], [.pc]), (["pd", "dashpunctuation"], [.pd]),
    (["pe", "closepunctuation"], [.pe]), (["pf", "finalpunctuation"], [.pf]),
    (["pi", "initialpunctuation"], [.pi]), (["po", "otherpunctuation"], [.po]),
    (["ps", "openpunctuation"], [.ps]), (["s", "symbol"], [.sm, .sc, .sk, .so]),
    (["sc", "currencysymbol"], [.sc]), (["sk", "modifiersymbol"], [.sk]),
    (["sm", "mathsymbol"], [.sm]), (["so", "othersymbol"], [.so]),
    (["z", "separator"], [.zs, .zl, .zp]), (["zl", "lineseparator"], [.zl]),
    (["zp", "paragraphseparator"], [.zp]), (["zs", "spaceseparator"], [.zs])
  ]

def partition : Partition :=
  Partition.ofText [
    "W1P1M3H1J3H1D1E1H1I1H1C2HA82H3I2HQ01D1H1E1K1B1KQ11D1I1E1IX1P1M1H4J1L1H1K1L141F1I1Q1L1K1L1I2A",
    "1K112H1K1A141G3A1HN01I70O11I8110111011101110111011101110111011101110111011101110111011101110",
    "11101110111011101110111011101110111011101110111021101110111011101110111011101110211011101110",
    "11101110111011101110111011101110111011101110111011101110111011101110111011101110112011101110",
    "31201110112011302140112011303120112011101110112011102110112011301110112021141031441012111012",
    "11101211101110111011101110111011101110211011101110111011101110111011101110211012111011301110",
    "11101110111011101110111011101110111011101110111011101110111011101110111011101110111011101110",
    "1110111011101110111071201120211011401110111011101110b2114R1I34KC3EK537K131K13HKm351011101113",
    "1K10112T13311H104T2K101H301T101T2011H01T90Z1110213031101110111011101110111011101110111011101",
    "11011105110111I10112021p10m11101110111011101110111011101110111011101110111011101110111011101",
    "110111L5527101110111011101110111011101110111011101110111011101110111011101110111011101110111",
    "01110111011101110111011101120111011101110111011101110211011101110111011101110111011101110111",
    "01110111011101110111011101110111011101110111011101110111011101110111011101110111011101110111",
    "0111011101110111011101110111011101110111011101110111011101110111Tc102T136Hf111H1C2T2L1J1Tj15",
    "1C151H251H251H158TR44T442HBT6Q3I2H1J2H2LB51H1Q3HW1413A4L5A84H2415Z341H14751Q1L6523251L4524A8",
    "342L14EH1T1Q1415U4R52Tv24B514ETA8X1495231L3H132T152JM4451395133513552TFH1TP4352T1H1TB45TO41K",
    "641T2Q5T95f1413O51QW1516s141516151436854615261475A4252HA81H13F415261T842T242TM41T741T143T442",
    "T151436452T262T2615148T164T241T34252TA8242J6A1L1J141H152T25161T644T242TM41T741T241T241T242T1",
    "51T36254T252T353T157T441T147TA82534151HAT25161T941T341TM41T741T241T542T151436551T25161T26152",
    "T14FT24252TA81H1J7T14651T15261T842T242TM41T741T241T542T1514161516452T262T26157T25164T241T342",
    "52TA81L146AAT15141T643T341T443T241T141T243T243T343TC44T2615263T361T36152T146T16ETA83A6L1J1L5",
    "T153615841T341TN41TG42T151435461T351T457T251T342T142T24252TA87T1H7A1L1415261H841T341TN41TA41",
    "T542T15141615561T15261T26257T266T241T24252TA81T2416CT2526941T341Tf14251436451T361T3615141L4T",
    "34167A34252TA89A1L641T15261TI43TO41T941T142T743T154T36351T151T866TA82T261HCTm141524754T1J641",
    "3851HA82Hb1T241T141T541TO41T141TA4152495142T541T131T751TA82T44W1T143LFH1L1H3L256LA8AA1L151L1",
    "51L151D1E1D1E26841Ta144TE516551H2554B51Ta151T8L156L1T2L5H4L2Hb1Th14264516651625262514A86H642",
    "6254435143624763445D415262566151416A836152Lc101T105T102Th111H1331fA41T442T741T141T442Tf141T4",
    "42TX141T442T741T141T442TF41Tv141T442TZ242T359HKA3TG4AL6Ts202T612T1CiJ41L1HH41MQ41D1E3Th243H3",
    "9847TI435169TJ425162H9TI425CTD41T341T25CTq14251675861526B53H133H1J14152TA86TAA6T6H1C4H351Q15",
    "A86TZ1413r147T5425Y1415145Tc24ATV41T354625364T261566354T1L3T2HA8U42T54BTi144TQ46TA81A3TY1LN4",
    "2526152T2Hr14161516751T151615268566A52T15A86TA86T7H136H2TE517G5n1T4516l141516551615561526841",
    "T2HA87HAL959L3H2516U416452625163524A8i1415162536151635268T4Ha14868526253T5HA83T34A8U4632H911",
    "0115Th102T308H8T351HD5167544156415241625145Ti11-13D113Y11b13W2510111011101110111011101110111",
    "01110111011101110111011101110111011101110111011101110111011101110111011101110111011101110111",
    "01110111011101110111011101110111011101110111011101110111011101110111011101110111011101110111",
    "01110111011101110111011101110111011101110111011101110111011101110111011101110111011109110111",
    "01110111011101110111011101110111011101110111011101110111011101110111011101110111011101110111",
    "01110111011101110111011101110111011101110111011101110111011101110111011101110111011101110111",
    "011109180612T602T81808180612T602T811T101T101T101T108180E12T818281828182511T2140121K113K311T2",
    "140123K412T21401T3K81503K2T311T2140122K1TBM5Q6C2H1F1G1D2F1G1D1F8H1N1O5Q1M9H1F1G4H2B3H1I1D1EB",
    "H1I1H1BAH1M5Q1TAQ1A132T6A3I1D1E13AA3I1D1E1TD33TX1JFTD5471537C5FT2L104L102L11302130111L102L1I",
    "506L101L101L101L401L11401144112L21205I10411L1I2L111LGAZ191011491A2L4T5I5L2I4L1I2L1I2L1I7L1IV",
    "L2I2L1I1L1IVLi8I8L1D1E1D1EKL2I7L1D1En2L1IULPIe1L6Ie2LMTBLLTy1Ak2LMAt5L1I9L1Is1L8Il3L1Iu7L1D1",
    "E1D1E1D1E1D1E1D1E1D1E1D1EUAi1L5I1D1EVI1D1E1D1E1D1E1D1E1D1EGIW8LZ4I1D1E1D1E1D1E1D1E1D1E1D1E1D",
    "1E1D1E1D1E1D1E1D1E-1I1D1E1D1EW1I1D1EY8Im1LLI2L6Id1L2TW1L1Tf3Lm10m111011302110111011101140111",
    "02110612330111011101110111011101110111011101110111011101110111011101110111011101110111011101",
    "11011101110111011101110111011101110111011101110111011101110111011101110111011101110111011101",
    "11011101110111011101110216L101110113510115T4H1A2Hc111T115T112Tu147T131HET15N49T741T741T741T7",
    "41T741T741T741T741TW152H1F1G1F1G3H1F1G1H1F1G9H1C2H1C1H1F1G2H1F1G1D1E1D1E1D1E1D1E5H13AH2C4H1C",
    "1H1DDH2L3H1D1E1D1E1D1E1D1E1CY1TQL1Tv2LCTs6LQTGL1M3H1L1314191D1E1D1E1D1E1D1E1D1E2L1D1E1D1E1D1",
    "E1D1E1C1D2E1L9945261C532L3913141H2L1Ts242T252K23141Cw241H33145Th141T+241T2L4AALW14c1L9T1LG4V",
    "L1TAAUL8A1LFAW1LAAd1LFAWALWk64W2LrmK413tZ143Tt1L9Te14632Hi84133HG4A824KT10111011101110111011",
    "1011101110111011101110111011101110111011101110111011101110111011101110111415371HA51H13101110",
    "111011101110111011101110111011101110111011101110112325c24A9256H8TNK932K101110111011101110111",
    "01110311011101110111011101110111011101110111011101110111011101110111011101110111011101110111",
    "01110111011101110111011101110111011101113811011101120111011101110111011132K10111011141011103",
    "110111011101110111011101110111011101110115011501110111011101110111011101110114011101120112T1",
    "0111T111T1110111011101110LT331011142311741534154415N42625164L153T6A2L1J1L6Tq144H8T26o14G6258",
    "T2HA86TI5643H141H2415A8S4852HN4B526BT1HT43T3516l14152645262536DH1T13A84T2H54151394A8541Tf146",
    "5262526259T34158415162TA82T4HG413643L14161516o1415143524255425141514OT24132HB41625262H142316",
    "15AT642T642T649T741T741Th111K4391132K4Tm21Z1426152615261H16152TA86TazA4CTN44Tn144TWW2SWe6RkB",
    "42Tg34c1T71CT515T1415A41ID41T541T141T241T241Ti34HKGThB41E1DGLW242Ts147T1LW1TC41J3LG57H1D1E1H",
    "6TG51H2C2B1D1E1D1E1D1E1D1E1D1E1D1E1D1E1D1E2H1D1E4H3B3H1T4H1C1D1E1D1E1D1E3H1I1C3I1T1H1J2H4T54",
    "1Td442T1Q1T3H1J3H1D1E1H1I1H1C2HA82H3I2HQ01D1H1E1K1B1KQ11D1I1E1I1D1E1H1D1E2HA413j1423V43T642T",
    "642T642T343T2J1I1K1L2J1T1L4I2LAT3Q2L2TC41TQ41TJ41T241TF42TE4Y1Tx345T3H4Tj1A3T9Lr194AHL2A3L1T",
    "DL3T1Ll1Tj1L15Y4TT43Tn14FT15RA4TW144A9TK41984195Tc14555TU41T1Ha144T841H59g1Te10e11k242TA86Ta",
    "104Ta114Te148Tq14BT1HB01TF01T701T201TB11TF11T711T213Tq14CTt949TM4AT84OT631Tg131T93b2T642T141",
    "Ti141T243T142TN41T1H8AN42L7AV48T9Am1TJ41T245T5AM46A3T1HQ45T1HW2Tu144T2A24GA2Tk1A14351T255T45",
    "441T341TT42T354T159A7T9H7TT42A1HT43AW1T841LS4254T5A7H9Ts143T7HM42T8AJ45T8AI47T4HCT7Am2Tf24t1",
    "Tp10DTp117T6Aa14458TA86TA8441314M03T551C13M18T2Im6TVA1Tg141T251C2T24GT34t1T45T4AA148TM4B54A5",
    "HMTI4454Hc1TL47AKTN49T161516r14F57H4TKAA8152425149T3516j14364526252H1Q4H15AT1Q2TP47TA86T35a1",
    "45516851TA84H1426148TZ14152H149T2516m14369526444H451H1615A8141H143H1TKABTI41TP43635261516256",
    "H152415+1T741T141T441TF41TA41H6Tl141536855TA86T25261T842T242TM41T741T241T541T25142615462T262",
    "T362T146T165T54262T753T55BTA41T142T141Tc141T1436651T162T161T461T261516151415142H1T2H8T25TTr1",
    "4368526351615445HA82H1T1H1534UTm143665161546251625241H148TA8c5Tl1436452T46251625NH4425Y1Tm14",
    "3685261516253H14BTA86TDHJTh1415161526651615141H6TA86TK8STR42T151615264516554TA82A3H1L74v5Ti1",
    "4369516251Ha3TW10W11A89ACT842T142T841T241TO4661T262T25161514161416153H9TA8c2T842Td1436452T25",
    "4615141H1416RT14A5e14651614458H158T14652635k14D516253H145HDTf247TAHs5TX141HETA86T941Tb141675",
    "1T651615145HATA8JA3T2HU42TM51T167516251625f2T741T241Tc14653T151T251T7514158TA86T641T241TW145",
    "61T251T26151615147TA8s9TJ425262H7T251416D41TY1426553T26151615DHA815r2T14FTLA8L4JHLDT1HwS4c3T",
    "l391T5HBTa64io2TX342HDTmX14GQ1564F5ATxy345TdI4vr6TU4C53635A8cs1TvH47TV41TA84T2Hl241TA86TU42T",
    "551HATm14755H4L431H1LATA81T7A1TL45TJ4mDT33e14233HA8c6TW10W11NA4Hb3Th244T1514t167T45D3W2T231H",
    "1315BT26ETu-548Tsc14f1TA4dt8T431T731T231TZ94FT14TT342T14ET448TiC4ae2Th345TD43T947TA42T1L251H",
    "4Qyw3Tm7LA86TqDLi2Tk152TN59Tq3Ly1Ts7LATd1L2Ty1L26353L668Q852L75UL45z1LLTY2L351Lw3TKACTKACTt2",
    "L9TPAd4TQ0Q1Q0711TI1Q0Q1101T202T102T202T401T80411T111T711TB1Q0Q1201T402T801T701TQ1201T401T50",
    "1T103T701TQ1Q0Q1Q0Q1Q0Q1Q0Q1Q0Q1Q0S12TP01IP11I61P01IP11I61P01IP11I61P01IP11I61P01IP11I611011",
    "2To18WGLt154Lo158L15EL152L5HFT551TF5mY1TA114K16T61r6T751TH52T751T251T555T+13X1T15m3Tj143T757",
    "32TA84T141LWATU415HTi1445A85T1JmETR41345A8s6TU42514A84T1HWFT741T441T241TF41Tb642T9A75f1TY10Y",
    "1175134TA84T2HnOTx1A1L3A1J4Ai2Tj1A1LFAY6T441TR41T241T142T141TA41T441T141T146T144T141T141T141",
    "T341T241T142T141T141T141T141T141T241T142T441T741T441T441T141TA41TH45T341T541TH4q1T2Ik8Ti1L4T",
    "a3LCTFL2TFL1TFL1Tb1LATDAX5Lu1TTLDTi1L4T9L7T2LET6Lw4Tx7L5KuML4THL3TDL3Tt3L4T-2L6TCL4T1LFTCL4T",
    "u1L8TAL6Te1L8TUL2TCL4T2L+1TqALCTEL2TDL3TAL5Tu1L7TFL2TBL6T9L7Tp4L1Ty2LA8cW1TWtf14W1TwX446T+64",
    "2TYq54ETnf74FTkJ4Yj2T+G4Yl1Thw445TWZ44nYtLT1QUTW3QW4Tm75mm-1T+--1R2T+--1R2T"]

def of (c : Char) : GeneralCategory := (all[partition.label c]?).getD .cn

def named? (name : String) : Option (List GeneralCategory) :=
  (named.find? fun (names, _) => names.contains name).map Prod.snd

end GeneralCategory
end DocQuery.Unicode
