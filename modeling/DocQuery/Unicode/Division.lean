import DocQuery.Unicode.Partition
/-!
The parts that characters play where a text is divided into grapheme clusters, words and sentences.
Each division has a list of parts and a table that gives the place of a character's part in the list;
the place after the last part stands for none.
-/
namespace DocQuery.Unicode

inductive Division where
  | grapheme
  | word
  | sentence
deriving DecidableEq

namespace Division

/-- The parts in grapheme clusters under all their names, as loose matching leaves them. -/
private def graphemeParts : List (List String) :=
  [
    ["cn", "control"], ["cr"], ["ex", "extend"], ["l"], ["lf"], ["lv"], ["lvt"],
    ["pp", "prepend"], ["ri", "regionalindicator"], ["sm", "spacingmark"], ["t"], ["v"], ["zwj"]
  ]

private def graphemePartition : Partition :=
  Partition.ofText [
    "A0142011I0-2DX10DD10oIDm32p8D72d8Dj121D121D221D221D12u1D67ADB21D10k1DL2GD12b3D72171D622D221D",
    "42X1D171D12UDR2x2DB2w1D929D12OD421D921D321D52h1D32q1D275D92g1DO217W1219s1D1219121D3982491229",
    "1D72AD22TD1229u1D121D1229422D292D29129D12AD22QD122D2219u1D121D39224D222D323D12UD223D12BD2219",
    "u1D121D39521D22191D2912KD22MD621D1229u1D121D2219422D292D29127D32AD22UD12x1D121912293D391D391",
    "29D12e1D123912t1D121D32491D321D427D22BD22TD1229u1D121D19221912291D321D427D22BD22FD19CD2229t1",
    "D221D1229421D391D3912178D12AD22TD1229c2D124D1229321D121D7912ID29z1D121D1972CD82Y3D121D1992BD",
    "72f2D22RD121D121D124D29n1DE219521D225DB21Da129D12c3D4219621D222922ND29224D32GD42DD121D19226D",
    "12FD12Y3DW33e2Bu2AzAD32oTD42SD32TD22UD22W2D221972891229B29D12j1D321012r3D22Y1D12s3D324922394",
    "D29126932x6D222912v1D191219721D121D122D8269A22D12m1DV2n1D4219l1DA24932c1D92CD2219UD19422962u",
    "1D12192239121952m1D89822922u4D321DD219724D126D122D1922c6DW22hGD10121C20OD70n1DG0W3DX12+-2D32",
    "j4D12W3DW12gHD62f3D22qkTD421DA2W1D22m2D22m8D123D124D12ND2922194D12p2D29o1DG922QDI2DD12c1D82P",
    "DB21912CDT33D3219l1D12294229222912a1D12Z2D6229222922CD128D1219k1D12p1D121D322D225D221D12f1D1",
    "922295D1912i7D29122912291D1912ID15R615R615R615R615R615R615R615R615R615R615R615R615R615R615R6",
    "15R615R615R615R615R615R615R615R615R615R615R615R615R615R615R615R615R615R615R615R615R615R615R6",
    "15R615R615R615R615R615R615R615R615R615R615R615R615R615R615R615R615R615R615R615R615R615R615R6",
    "15R615R615R615R615R615R615R615R615R615R615R615R615R615R615R615R615R615R615R615R615R615R615R6",
    "15R615R615R615R615R615R615R615R615R615R615R615R615R615R615R615R615R615R615R615R615R615R615R6",
    "15R615R615R615R615R615R615R615R615R615R615R615R615R615R615R615R615R615R615R615R615R615R615R6",
    "15R615R615R615R615R615R615R615R615R615R615R615R615R615R615R615R615R615R615R615R615R615R615R6",
    "15R615R615R615R615R615R615R615R615R615R615R615R615R615R615R615R615R615R615R615R615R615R615R6",
    "15R615R615R615R615R615R615R615R615R615R615R615R615R615R615R615R615R615R615R615R615R615R615R6",
    "15R615R615R615R615R615R615R615R615R615R615R615R615R615R615R615R615R615R615R615R615R615R615R6",
    "15R615R615R615R615R615R615R615R615R615R615R615R615R615R615R615R615R615R615R615R615R615R615R6",
    "15R615R615R615R615R615R615R615R615R615R615R615R615R615R615R615R615R615R615R615R615R615R615R6",
    "15R615R615R615R615R615R615R615R615R615R615R615R615R615R615R615R615R615R615R615R615R615R615R6",
    "15R615R615R615R615R615R615R615R615R615R615R615R615R615R615R615R615R615R615R615R615R615R615R6",
    "15R615R615R615R615R615R615R615R615R615R615R615R615R615R615R615R615R615R615R615R615R615R615R6",
    "15R615R615R615R615R615R615R615R615R615R615R615R615R615R615R615R615R615R615R615R615R615R615R6",
    "15R615R615R615R615R615R615R615R615R615R615R615R615R615R615R615R615R615R615R615R615R615R615R6",
    "15R615R615R615R615R615R615R615R615R615R615R615R615R615R615R615R6CDNB4Dn1AYv8D12XNDG2GDG2l6D1",
    "0+4D22m2DC0XGD12Y7D12r4D52cq1D321D225D42e1D324D12b5D22zHD42X2D52z9D22l2D42c2DB2n1D42w3D19121",
    "9r1DF2f1D122D22AD3219j1D394229222D174D12AD17o1D32a1D521982GD29i1D12CD2219m1D399219121D275D42",
    "1D1912y2D393229426D122D12z4D123982LD2229t1D221D121912492D292D29129D12AD292D723D52Z2D1229621D",
    "122D121D32191D29321712ED22o2D398229321912ND12n2D1229621912291219221922h7D1229422D49221922RD2",
    "2o2D398229121922g3D1219122982b3D1219122D421952W8D39921922r7D12591D292D421719171912j4D39422D2",
    "249123D19SDA2e1D621917428D129D622932e1D67D21922rCD19721D621912o2DM21D197219221922w3D623D121D",
    "221D721712Y2D591D221D29121912xAD22299D221719m1D29523D2932ND12rc5DG0126DF2ecBDC23932Wk2D52x1D",
    "72iHD1B3D4BaFD121Dt197D42n2D12BD22hbJD221D40yo4Dk122DN2+GD523D6280822D72UD42q4D32xz1Dt124Do1",
    "28D12ED12MD521DF2mg1D721DH22D721D221D52a3D12W5D72tBD12z1D42yFD42+7D22WND72j3D72xa2DQ8xFD52WW",
    "ZODW10W32W40m72mm30WWy5D"]

/-- The parts in words. -/
private def wordParts : List (List String) :=
  [
    ["le", "aletter"], ["cr"], ["dq", "doublequote"], ["extend"], ["ex", "extendnumlet"],
    ["fo", "format"], ["hl", "hebrewletter"], ["ka", "katakana"], ["lf"], ["ml", "midletter"],
    ["mn", "midnum"], ["mb", "midnumlet"], ["nl", "newline"], ["nu", "numeric"],
    ["ri", "regionalindicator"], ["sq", "singlequote"], ["wsegspace"], ["zwj"]
  ]

private def wordPartition : Partition :=
  Partition.ofText [
    "AI182C11II1G1I124I1F4I1A1I1B1IAD191A5IQ04I141IQ0AI1Ca1I102I157I101I19101I105IN01IV01IWF06IY1",
    "0m33501I202I401A106I1019301I101IK01Ip201Ih401I73c501Ic102I401I1019f101A106Ij131I131I231I231I",
    "138IR64I461019BI6D6I2A2IB31I153Ih10L3AD1I1D1A1I2013Z301I10731D1I6320231I4320AD302I10FI2013U0",
    "R32Iv20B310EIADX1093202I1A1I102I132IM043109310331053IIP0334IB05IO01I601I2D5I93g10O31DX13s103",
    "310I31073A0232IAD1IG0331I802I202IM01I701I103I402I1310732I232I33108I134I201I30232IAD20AI101I1",
    "32I331I604I202IM01I701I201I201I202I131I534I232I333I137I401I107IAD233013BI331I901I301IM01I701",
    "I201I502I1310831I331I332I10FI20232IAD9I10631I331I802I202IM01I701I201I502I1310732I232I337I334",
    "I201I30232IAD1I10GI13101I603I301I403I201I101I203I203I303IC04I533I331I432I106I13EIADGI53801I3",
    "01IN01IG02I1310731I331I437I231I302I102I20232IADGI10331I801I301IN01IA01I502I1310731I331I437I2",
    "36I201I20232IAD1I2013CI43901I301If102310731I331I43105I30137I30232IADAI601I331II03IO01I901I10",
    "2I703I134I631I131I836IAD2I23z1I132I73CI831IADt2I132I93BI731IADc1I10NI236IADBI131I131I134I238",
    "01Ia104IK31I2350B31Ia139I13a3IK31IADCI434I331I332I733I43DIC31I13AD432Ic101I105I102Ih101IjA01",
    "I402I701I101I402If101I402IX101I402I701I101I402IF01Iv101I402IZ202I33W1IG0GIs202I603IiJ02IH01G",
    "Q05Ih203IB07II0439IJ033BII023CID01I301I23W2IW139I132IADX1I331513AD6Iv207I5023Y1013105Ic20AIV",
    "01IC34IC3AIADW4IBDb1IN053v1IA31IT32I13AD6IADMIV3n1I53l10H3803IADHI93CI33U0D320ADi10E3CIa10K3",
    "8IAD3I30ADa102IB05Ih102I30GI331IL3401360132033105IW60W23s802I602Ic102I602I801I101I101I101IV0",
    "2Ir101I701I103I301I703I402I604ID05I301I703I7G1I3G1I131H258I2BAI1B2I192C5514FI243I1AFI14AI1G5",
    "51IA51I10DI10GID0p1IX13HI104I102IA01I103I506I101I101I101I401IB02I405I504I10HIf10jPIq10su1Ib7",
    "06I403320CIc101I105I102Iu107I10FI13N09I701I701I701I701I701I701I701I701IW13l1I10mEI1G4I10a1I6",
    "31I575I20y2I23273Ix271I475Ih101I+20HIW10m1IG7m6Il171Iu27ebRIja10Z2Ik102Ij803IG0AD20KIl10431I",
    "A31IV023m2023MIc602I201I101I80LIG01330134013N0534I13JIq10CI23o10I3AIAD6II3603I101I2013ADS083",
    "2IN0D3CIT03I43l10E3EI10ADBI13AIAD6If10E39I301380232IADX1I33o1I131I332I235I231I13UIB0532I3023",
    "AI602I602I609I701I701Iw106Ip30831I232IAD6IazA0CIN04In10au8I70CI505I1613A61ID61I561I161I261I2",
    "61IA6Y30X1IhB0IIW202Is10e1IC04IG33I19CIG33I24OI341A1I1B1I1A19QI501Id402I157I1B4I1A1I1B1IAD19",
    "1A5IQ04I141IQ0BIu1723V03I602I602I602I30SI354IC01IQ01IJ01I201IF02IE0Y1Ix30b2Ir10e4I13Y4IT03In",
    "10FI13VIW10DIU05Ic10535IU02Ia104I801I50g1I+402IAD6Ia104Ia104Ie108Iq10CIB01IF01I701I201IB01IF",
    "01I701I203Iq10CIt909IM0AI80OI601Ig101I90b2I602I101Ii101I203I102IN0AIN09IV0X2IJ01I20AIM0AIQ0c",
    "2Iu106I20W2I10331I235I43401I301IT02I334I13W1IT03IT0Z1I801IS023PIs10AIM0AIJ0DII0k3If20t1Ip10D",
    "Ip10DIa10438IAD6IADS03I531IN0w7Ig101I233I20GI30t1I43T0AI108IM0B3VII043g1IL0RIN09I33r10F3VIAD",
    "132023109I43j10B32I1D4I13AI1D2IP07IAD6I33a10E31IAD4I1023108IZ10132I109I33m10E3404I431I23AD10",
    "1I10Z1II01IP0C36I132013+1I701I101I401IF01IA07Il10C35IAD6I431I802I202IM01I701I201I501I2310732",
    "I232I332I106I135I50232I733I53BIA01I102I101Ic101I10931I132I131I431I53101310DI23TIr10I3405IAD4",
    "I1330UIm10K3201I108IADc5Il10732I93NI4023Y1Im10H33I10BIADc1Ih10D3107IAD6IKDv1IF34IADc6Ii10F3b",
    "3IW20ADLI802I102I801I201IO0631I232I4310131023CIADc2I802Id10732I73101I1013RI10A3e107310438I13",
    "8I10B3k10G33I10IIf20d6IX10FIAD6I901Ib10831I8310FIADOIU02IM31IE3f2I701I201Ic10633I131I231I731",
    "0138IAD6I601I201IW10531I231I53107IADs9IJ0439I231013D01IY10733I53DIAD13r2I10l2IwS0c3Il30HIa60",
    "io2IX30FImX10G51360F3AIxy305IdI0vr6IU0I3ADcs1IvH07IV01IAD6Il201IAD6IU02I53BIm10739I40CIAD9IL",
    "05IJ0mDIj103IADc6IW20W4Ih204I1310t137I43D0W2I201I1013BI23+-FI471I771I271I17-8I37o1I17EI47uq2",
    "Ih305ID03I907IA03I231I45iY4IADcGIk132IN3+GI533I6385832I73UI43q4I33xDIr201Id201I202I102I202I4",
    "01IC01I101I701IX201I402I801I701IS01I401I501I103I701IqA02IP01IP01IV01IP01IV01IP01IV01IP01IV01",
    "IP01I802Io1DWGIt134Io138I13EI13MI531IF3mY1IV06I60r6I731IH32I731I231I535I+10X1I13m3Ij103I7370",
    "2IAD4I10XAIU013HIi1043ADsEIS043ADs6IU02310ADbFI701I401I201IF01Ib60BI73f1Ia2073104IADcb1I401I",
    "R01I201I102I101IA01I401I101I106I104I101I101I101I301I201I102I101I101I101I101I101I201I102I401I",
    "701I401I401I101IA01IH05I301I501IH0qJIQ06IQ06IQ0y2IQExFI53m-1IADdWXOI15UIW33W4Im73mm-5I"]

/-- The parts in sentences. -/
private def sentenceParts : List (List String) :=
  [
    ["at", "aterm"], ["cl", "close"], ["cr"], ["ex", "extend"], ["fo", "format"], ["lf"],
    ["lo", "lower"], ["nu", "numeric"], ["le", "oletter"], ["sc", "scontinue"], ["se", "sep"],
    ["sp"], ["st", "sterm"], ["up", "upper"]
  ]

private def sentencePartition : Partition :=
  Partition.ofText [
    "9E1B152B12IE1B1C114E312E29101EA7293E1C1EQD111E113EQ6111E117E1AQE1B9E16111E147E164E16114END1E",
    "7DO61E861D161D161D161D161D161D161D161D161D161D161D161D161D161D161D161D161D161D161D161D161D16",
    "1D161D161D161D161D161D161D261D161D161D161D161D161D161D161D261D161D161D161D161D161D161D161D16",
    "1D161D161D161D161D161D161D161D161D161D161D161D161D161D161D162D161D161D362D161D162D163D264D16",
    "2D163D362D162D161D161D162D161D261D162D163D161D162D26181D36482D162D162D161D161D161D161D161D16",
    "1D161D161D261D161D161D161D161D161D161D161D161D262D161D163D161D161D161D161D161D161D161D161D16",
    "1D161D161D161D161D161D161D161D161D161D161D161D161D161D161D161D161D161D161D161D161D762D162D26",
    "1D164D161D161D161D161Db2618a1678264EC8EE567E181E18HEm331D161D16181E1D162E46191D6E1D1E3D1E1D1",
    "E2D16HD1E9DZ161D263D361D161D161D161D161D161D161D161D161D161D161D161D561D161E1D162D26p1Dm161D",
    "161D161D161D161D161D161D161D161D161D161D161D161D161D161D161D161D161E731D161D161D161D161D161D",
    "161D161D161D161D161D161D161D161D161D161D161D161D161D161D161D161D161D161D161D161D161D162D161D",
    "161D161D161D161D161D261D161D161D161D161D161D161D161D161D161D161D161D161D161D161D161D161D161D",
    "161D161D161D161D161D161D161D161D161D161D161D161D161D161D161D161D161D161D161D161D161D161D161D",
    "161D161D161D161D161D161D161D161Ec1D2E183E192Ef161C7Ej131E131E231E231E138ER84E58CE676E292EB31",
    "E143Ch18L3A71E271E2813Z381C1873171E6328231E4328A7382E183CCE141813U8R32Ev28B318EEA7X1893282E1",
    "91C182E132EM8431893183318539E1C1E1C3E2C1EP8334EB85EO81E681E275E93g18O317X13s183318I31873A823",
    "2CA71EG8331E882E282EM81E781E183E482E1318732E232E33188E134E281E38232EA728AE181E132E331E684E28",
    "2EM81E781E281E281E282E131E534E232E333E137E481E187EA7233813BE331E981E381EM81E781E281E582E1318",
    "831E331E332E18FE28232EA79E18631E331E882E282EM81E781E281E582E1318732E232E337E334E281E38232EA7",
    "1E18GE13181E683E381E483E281E181E283E283E383EC84E533E331E432E186E13EEA7GE53881E381EN81EG82E13",
    "18731E331E437E231E382E182E28232EA7GE18331E881E381EN81EA81E582E1318731E331E437E236E281E28232E",
    "A71E2813CE43981E381Ef182318731E331E43185E38137E38232EA7AE681E331EI83EO81E981E182E783E134E631",
    "E131E836EA72E23DEm181328735E78831EA7d1E281E181E581EO81E181EA8132893182E581E181E731EA72E48W1E",
    "18NE236EA7BE131E131E134123881Ea184EK31E2358B31Ea139E13v1Eh18K318A72C4E68434833183328733843D8",
    "C31813A7432Ec1D1E1D5E1D2Eh181E16iA81E482E781E181E482Ef181E482EX181E482E781E181E482EF81Ev181E",
    "482EZ282E332E1C4E2CNEG8GEs2D2E663EiJ81E1CH81BQ8213Eh283EB87EI8439EJ8332C9EI823CED81E381E23CE",
    "q18W132C1E184E18132EA7OE191C4E191C1E331413A76Ev287E5823Y1813185Ec28AEV81EC34EC38E2CA7U82E58B",
    "Ei184EQ86EB7b1EN8534Er18A31ET32E13A76EA7DE184C4EV3n1E53l18H3881E2CA72C2E2CBE939E3C33U8D328A7",
    "i18E3CEa18K33E2C3EA73E38A7a182C961D165Eh182E38GE331EL3481368132833185EW66W231D161D161D161D16",
    "1D161D161D161D161D161D161D161D161D161D161D161D161D161D161D161D161D161D161D161D161D161D161D16",
    "1D161D161D161D161D161D161D161D161D161D161D161D161D161D161D161D161D161D161D161D161D161D161D16",
    "1D161D161D161D161D161D161D161D161D161D161D161D161D161D161D161D161D161D161D161D161D161D161D16",
    "1D161D961D161D161D161D161D161D161D161D161D161D161D161D161D161D161D161D161D161D161D161D161D16",
    "1D161D161D161D161D161D161D161D161D161D161D161D161D161D161D161D161D161D161D161D161D161D161D16",
    "1D161D161D161D161D968D662E6D2E868D868D662E6D2E861E1D1E1D1E1D1E1D868DE62E868D868D868D561E265D",
    "1E163E361E265D3E462E264D4E865D5E361E265D3EBB1423243E293E814E103E2A541B9E211E2C7E213CLE1B541E",
    "A41E16BE2116DE211ED6p1EX13HE1D4E1D2E163D263D161E1D3E5D6E1D1E1D1E1D1E4D1E164D1648162E262D5E1D",
    "464E16HEGDG6381D1648-BE41TE21hCEQDQ6nJE617EE1l2E21VEA1pCEM1-1E41W1E21YGEm1Dm161D163D261D161D",
    "161D164D161D261D863D161D161D161D161D161D161D161D161D161D161D161D161D161D161D161D161D161D161D",
    "161D161D161D161D161D161D161D161D161D161D161D161D161D161D161D161D161D161D161D161D161D161D161D",
    "161D161D161D161D161D161D161D161D266E1D161D16331D165E3C4Ec161E165E162Eu187E18FE13N89E781E781E",
    "781E781E781E781E781E781EW13E1EE212EA14E1C18CE1C5E11GE2C81ZDE1B191C2E38A12E811E311E98631E582E",
    "584Es282E232E381Ew281E485Eh181E+28HEW18m1EG8WGEWk68W2EjqL8Z2Ek181E1Cj881E2CG8A728KE1D161D161",
    "D161D161D161D161D161D161D161D161D161D161D161D161D161D161D161D161D161D161D161D161D1618431EA31",
    "E181D161D161D161D161D161D161D161D161D161D161D161D161D161D3623m28231E1C3E1CVE982E1D161D161D16",
    "1D161D161D161D361D161D161D161D161D161D161D161D161D161D161D161D161D161D161D161D161D161D161D16",
    "1D161D161D161D161D161D161D161D161D161D161D161DA61D161D162D161D161D161D161D16182E1D161D16181D",
    "161D361D161D161D161D161D161D161D161D161D161D165D165D161D161D161D161D161D161D161D164D161D162D",
    "162E1D161E161E161D161D161D161DLE361D161836781338134813N8534E13JEq182E2C8E23o18I38E2CA76EI368",
    "3E181E2813A7S8831E1CN8D3CET83E43l18E37E2C5E18A76E5813A8A7581Ef18E39E381388232EA73E3CN83E1833",
    "o1813183328235823181318OE382EB8532C3823AE682E682E689E781E781Eh161EE66Em26Z18831C232EA76EazA8",
    "CEN84En18ae8EkB82Eg38c1E76CE565E1813A81ED81E581E181E281E281Ei38X1EhB821GEW282Es18e1EC84EG329",
    "1C292C217EG31E292EG12E217E29101E292C19614E19CE581Ed482E141E1C6E212E29101EA7293E1C1EQD111E113",
    "EQ6111E111E211C21191Eu1823V83E682E682E682E38SE344EC81EQ81EJ81E281EF82EE8Y1Ex38b2Er18e4E13Y4E",
    "T83En18FE13VEW18DEU85Ec18535EU82Ea184E881E58g1Ee1De16k282EA76Ea1D4Ea164Ee188Eq18CEBD1EFD1E7D",
    "1E2D1EB61EF61E761E263Eq18CEt989EM8AE88OE1628361Eg161E96b2E682E181Ei181E283E182EN8AEN89EV8X2E",
    "J81E28AEM8AEQ8c2Eu186E28W2E18331E235E43481E381ET82E334E13ME2C8ET83ET8Z1E881ES823PEs18AEM8AEJ",
    "8DEI8k3Ef28t1Ep1DDEp16DEa18438EA76EA768MD3E531E18M6w7Eg181E233E28GE38t1E43T8AE188EM8B34E5CME",
    "I8434Cc1EL8REN89E33r18F32CTEA7132823189E43j18B32E174C13AE172EP87EA76E33a18E31EA71E3C1823188E",
    "Z18132E189E33m18E3482C2E431C23A7181E181E2CW1EI81EP8C32C1E2C1E132813+1E781E181E481EF81EA81C6E",
    "l18C35EA76E431E882E282EM81E781E281E581E2318732E232E332E186E135E58232E733E53BEA81E182E181Ec18",
    "1E18931E132E131E431E531813182CBE23TEr18I3482C3EA74E1338UEm18K3281E188EA7c5El18732E931E2C5EFC",
    "4823Y1Em18H32C1E18BEA7c1Eh18D3187EA76EK7SER82EF34EA72E3C1E78v5Ei18F3b3EW1DW16A7LE882E182E881",
    "E281EO8631E232E43181318231C1E1C9EA7c2E882Ed18732E73181E1813RE18A3e187318433E2C3E138E18B3k18G",
    "31E2C18IEf28d6EX18FEA76E981Eb18831E83182CDEA7OEU82EM31EE3f2E781E281Ec18633E131E231E7318138EA",
    "76E681E281EW18531E231E53187EA7s9EJ8432C7E231813D81EY18733E532CBEA713r2E18l2EwS8c3El38HEa68io",
    "2EX38FEmX18G41368F3AExy385EdI8vr6EU8I3A7cs1EvH87EV81EA74E2Cl281EA76EU82E531CAEm18732C7E481CB",
    "EA79EL85EJ8mDEj181E2CA7c6EW1DW16OE1Cd3Eh284E1318t137E43D8W2E281E1813BE23EEu-588Esc18f1EA8dt8",
    "E481E781E281EZ98FE18TE382E18EE488EiC8ae2Eh385ED83E987EA83E231C44iY4EA7cGEk132EN3+GE533E63848",
    "32E73UE43q4E33xDEQDQ6QD761EI6QDQ61D1E2D2E1D2E2D2E4D1E8D461E161E761EB6QDQ62D1E4D2E8D1E7D1EQ62",
    "D1E4D1E5D1E1D3E7D1EQ6QDQ6QDQ6QDQ6QDQ6QDQ6QDS62EPD1EP61E66PD1EP61E66PD1EP61E66PD1EP61E66PD1EP",
    "61E661D162Eo17WGEt134Eo138E13EE133E1CIE531EF3mY1EA618K66E66r6E731EH32E731E231E535E+16X1E13m3",
    "Ej183E73782EA74E18XAEU813HEi1843A7sEES843A7s6EU82318A7bFE781E481E281EF81Eb68BE73f1EY1DY16731",
    "84EA7cb1E481ER81E281E182E181EA81E481E181E186E184E181E181E181E381E281E182E181E181E181E181E181",
    "E281E182E481E781E481E481E181EA81EH85E381E581EH8qJEQD6EQD6EQDid1E31th1EA7cW1EWtf18W1EwX486E+6",
    "82EYq58EEnf78FEkJ8Yj2E+G8Yl1Ehw485EWZ48nYtLE14UEW33W4Em73mm-5E"]

def ofName? (name : String) : Option Division :=
  if name = "gcb" ∨ name = "graphemeclusterbreak" then some grapheme
  else if name = "wb" ∨ name = "wordbreak" then some word
  else if name = "sb" ∨ name = "sentencebreak" then some sentence
  else none

def parts : Division → List (List String)
  | grapheme => graphemeParts
  | word => wordParts
  | sentence => sentenceParts

def partition : Division → Partition
  | grapheme => graphemePartition
  | word => wordPartition
  | sentence => sentencePartition

def part? (d : Division) (name : String) : Option Nat :=
  d.parts.findIdx? fun names => names.contains name

def part (d : Division) (c : Char) : Nat := d.partition.label c

end Division
end DocQuery.Unicode
