import DocQuery.Unicode.Partition
/-!
The version of the character set in which each character was first assigned.
-/
namespace DocQuery.Unicode

/-- The versions under all their names, the earliest first. -/
def ageNames : List (List String) :=
  [
    ["1.1", "v11"], ["2.0", "v20"], ["2.1", "v21"], ["3.0", "v30"], ["3.1", "v31"],
    ["3.2", "v32"], ["4.0", "v40"], ["4.1", "v41"], ["5.0", "v50"], ["5.1", "v51"],
    ["5.2", "v52"], ["6.0", "v60"], ["6.1", "v61"], ["6.2", "v62"], ["6.3", "v63"],
    ["7.0", "v70"], ["8.0", "v80"], ["9.0", "v90"], ["10.0", "v100"], ["11.0", "v110"],
    ["12.0", "v120"], ["12.1", "v121"], ["13.0", "v130"], ["14.0", "v140"], ["15.0", "v150"],
    ["15.1", "v151"], ["16.0", "v160"]
  ]

def age? (name : String) : Option Nat := ageNames.findIdx? fun names => names.contains name

/-- The version of each run of characters; the number after the last version stands for none. -/
def agePartition : Partition :=
  Partition.ofText [
    "sF043U0831516I336B7E8v205326l1013A053H6c2093158657362013D54920292R1038101F4R701R101RK01Ri101",
    "97013251013101310131013I02415564713C013Y2013C013f1019232543r10252025202518S02380272068G548G9",
    "2A2B8F1Rc102R701Jd101J10132R2F1C1RH117D1A0189011378RR04R1J50BR461C1F5917109659101E1N17101BQ0",
    "59J03336671BE025e20235013F013U026A05316E31RU336R32R36U7I9n1315ERx182R3Jk1A2RFA1RSB2R1B1RBI5R",
    "VN1R2N5R1Q8N1C1FBC6F2G1N8HAMBN1JFH1GRC1F1A3016r102BI01A1B501A2BP0295B1F2A2817281F301R802R202",
    "RM01R701R103R402R1016702R202R30178R104R201R502RL01A2I1J2R1610161R604R202RM01R701R201R201R202",
    "R101R504R202R303R197R401R107RF0191JAR301R7016101R301RM01R701R201R502RA01R301R302R10FR10362RA",
    "01C167R1G6I1R301R802R202RM01R701R201R16402R80192R202R307R1M204R201R30292RB0166BAR201R603R301",
    "R403R201R101R203R203R303R8017304R503R301R402R196R10ER17C0865R1F301J801R301RN01RA01F502R1N197",
    "01R301R407R201R291G2R1N2R20292RA07R1K891H1F201J801R301RN01RA01R502R26701R301R407R206R1N101R2",
    "0282RA01R281OCR1I1F201M801R301RN01BG01B2I1960191R301R401B1H4R3H107H1G20292RA0693H791R1M231RI",
    "33RO31R931R132R733R134R631R131R836RAF2R33CRw104RT0b1R201R101R1K201K101R1K106K401K701K301R101",
    "R102K201KD01K302R501R101R601O1RA02R202CW1Re211RX1113294RR14B6113111RL133711311331RF31R191327",
    "394A2Bb1RY13195319231973394369Q3W294A29c101R1C5R1C2Rd10252710173Cw205Aa205Ao206A7317-1317131",
    "R432R731R131R432Rd1317131R432RV317131R432R731R131R432R7317731RN317V317131R432R7317d1317J32R2",
    "B27S33RQ76Rr231G2R6G2R1AsJ39AT33Rn238F7RD51N751N9R1NN59RK5CRD51R351R25CRz23162RA36RA66RF31NA",
    "36Ru231J7Rg13195Rc2AART62F1RC64RC64R163Rg162R56BRg172A4RQ76RA71A3R27W16S72R27-1A1RTA2RBA6RAA",
    "6REA2RFF2MENn1Ri281N1R2Qj182N1Qh193CC96Cq1B8R4Bu193RF93Rp199H2Q5Rh1J2R3J8C8RZ1A4C1I2F1K5Ri36",
    "u2778S9FF4I1N1H1B1A28x401149w2069M02R602Rc102R602R801R101R101R101RV02Rr101RF01RE02R601RJ02R3",
    "01R901Rl1013N01563552627157755191R4E70152RR01R578B3RB011123325473A1B1D3F1G1I1NFRI02375174819",
    "FRv10231617F51728193Am101318491A2G4Rx2093C5o70E51013v301315U3q1526B7C81ABB7F4H1Ib10233QMRB0L",
    "Rh40K516s40A5m208385K026251713s2023C527A586B7192A26G718A93A49AA1BJA1B1A4BOA1F401B402BS01BZ10",
    "1B101B403B101A702B70E5V03BO01BE01B77481C191C2BS549G5W83WG5E667785948f193F595AQF2RW1F1R1MY1F3",
    "JCF1K8F1IPJ4GFJ1Kl171Nl171ND8391A3948692Ah377A2C5Rj171R1C5R1C2Rs172C7R171BER1BN79R771R771R77",
    "1R771R771R771R771R771RW19O74927J91AAC7F2H5I5J1K3MBNY1RQ31Rv23CRs63QRC34Pu10333513101Rq20252R",
    "6025+20155Re10191I1J1R+201RG0O33B5MG7K92Q9R1PG5T0261Ra10CA16F5S02617o10F5C046l101Lt3046Z3026",
    "V016sj63AMW26cjK0M7898A1C9GLI5JDM3Nja133RI325G315C3153315139Rm1Ai99KRW192BI98CS96F1G1Cu2A8RN",
    "7485928h392B1G2B2CCFAB1C3F1H1J2F6G2J6K2N5K4M3Q2R2N1R1N1R5N3QLR3N2M1F2C1B59i171M3RAA6Ru188Rb2",
    "91H8RC96RSA2G2Jq29BR19TA3Rk2A1RBA4R2AVF1Rt199RE92RA92R49SA4FZ2AOR5ANCAR6B2R6B2R6B9R7B1R7B1Rm",
    "1F4G2F2K4M4Rm2Gk1A2RAA6RazA1CRNA4Rn1A4RWW21kn602Cx153A2Rg37c1R70CR505R13P01R501R101R201R201R",
    "i30GB1NGRjB0GNW202Rs107R1NW14C015162NG5A76R40397F2GL02526A01RJ01R404R3015101Rd402R101R+2025+",
    "203R602R602R602R303R701R70AR331230C61RQ61RJ61R261RF62RE6Y1Rx365R364Rj163R96h272F2H1RC91M3R1F",
    "l1Rk19Y4RT93Rn19FRSF4RV41F449R3IR45Rh1F5RU61R16a174RE7g1Rc1426c14m262RA66Ra1H4Ra1H4Re1F8Rq1F",
    "BR1FBN1RFN1R7N1R2N1RBN1RFN1R7N1R2N3Rq1QCRt9F9RMFAR8FOR6N1Rg1N1R9Nb2R662R161Ri161R263R162R16M",
    "A1R9A-1F8R9Fm1RJG1R2G5R5GQ82A3R18Q95R19W2Ru1C4R2G2CGG2Rk1G471R275R871R371RR72J2R374R971J7R97",
    "7RW1AW1FW1Rd1F4RCF9Rs1A3RTA2RRA5R8AIF7R4FCR7Fm2Rf2At1Rp1GDRp1G7R6Ge1J8RAJ6Rc1Q3RTQ8R2Qm6RVA1",
    "Rg1M1R3M2R2MGR3Qt1R1Q3Oe1J8Rg1JMRQNc1RSMKRNK9Rk2B4RUB6N9R1FY2A1NAR1J2RPC7RAC6Rr1C1REC3J1M8Rd",
    "1F9Rf2C4G1F2MAC1F5G1RKFBRIF1Rh1F1H3O+1R7G1R1G1R4G1RFG1RBG6Rx1F5RAF6R1G3F1R8F2R2F2RMF1R7F1R2F",
    "1R5F1R1J9F2R2F2R3F2R1G6R1F5R7F2R7F3R5FBRAQ1R1Q2R1Q1Rc1Q1RAQ1R1Q2R1Q1R4Q1RAQ1R2Q8R2QTRw2H1M1H",
    "1R1H1J1K2MURe2F8RAFc5Rs1F2RIFKGY1Rb2FBRAF6RDHJRu1C1K1N6RAC6RKQSRQG1J2RFG4RGG7Nv5Ry1Ja3Rp2FCR",
    "1F7M2R1M2R8M1R2M1RUM1R2M2RCM9RAMc2R8K2Rk1K2RBKRRe2I8Rq1I2KNI1J5IDRGNv1F7RAOs5RY1QERAQ6R9H1Rj",
    "1H1REHARTH3RW1H2RMH1REHf2R7I1R2I1Ri1I3R1I1R2I1R9I8RAI6R6J1R2J1Rb1J1R2J1R6J7RAJs9RPJ7RHO1Rf1O",
    "3RSO1Qr2R1MFRo1KDR1KlR8g1F1Gc3RZ38CF1R481FBRa6Gio2RZ3NDRlX1A1O9KTOARxy3Q5RdIGvr6Rw1Qcs1RvHB7",
    "RVF1RAF4R2Fl2N1RAN6RUF2R6FARc2FARAF1R7F1RLF5RJFmDRw1Qc6Rx2Jb3Rb2C6K4R1Kl1C9K7RHCW2R1H1I2K1MB",
    "R2MERj-5H5J6K8RpNHZFMf1R1Q9Mdt8R4N1R7N1R2N1R2Bz8I4NFR1OTR3K2R1OER4K8RiCIae2Rh3F5RDF3R9F7RAF2",
    "R8Fyw3Rw7Q6RqDQi2Rk1N2RNN9Rq3Ny1Rs74ARd142R19q54BG2NLRc27w3RKOCRKJCRt269RI87Jd4Rr241Rd241R24",
    "2R142R242R441RC41R141R4416241RX241R442R841R741RS41R441R541R143R741RoA4272RY94282Ro14iKGFR5G1",
    "RFGmY1RVN6R6Or6R7H1RHH2R7H1R2H1R5H5R+1OX1R1Om3Rj1K3REK2RAK4R2KWARVNHRw1K5R1KmERg1Os6Rh1Q4R1Q",
    "WFR7N1R4N1R2N1RFN1Rb6F2RGFf1Rh2H1K4RAH4R2HnORa2Ji2Rz1KY6R4C1RRC1R2C1R1C2R1C1RAC1R4C1R1C1R1C6",
    "R1C4R1C1R1C1R1C1R3C1R2C1R1C2R1C1R1C1R1C1R1C1R1C1R2C1R1C2R4C1R7C1R4C1R4C1R1C1RAC1RHC5R3C1R5C1",
    "RHCq1R2Ck8Ri194Ra39CRFB2REB1F1RFB1RFBMFARBA2F3MVA1J1B1ABB1A1B1A2B1A3B1A3B5A8B1A7B1AAB2C1K3M9",
    "B1A1B2A2B1AAB4A2B1AABIH1Mu1RQB1A2BDRY1A9B1H4R9A7R2BER6Iw4RX1BCF3G6B1Fc2B1F2GKBCFb1B1F5B4F5GC",
    "FHB7F8G-1B1F1B1Fs5B1F4B2F1G+1B2F4C7F5GOBIF1Hf1F1Hs2F5B1CGB1C3B1C1B1C1B1C1B1C3B1C6B2C4B1C1B2C",
    "4B1CCB2F2GBBm1Fc2BAF1G2H2I1K2M4R1O3NDF3R4F3H2I1J1K2M3Rq3B3O4R5Or2F4J1O6RCK4R1NFRCF4Ru1F8RAF6",
    "Re1F8RUF2R2MAQ4R2Q+1RCI1M3K9G6H1I8H8I1H2ICH1KCH1I3JFHDI5J1K1M4J2M1N1J1K4J5GDH6IBJ2M6K3M2KAJ6",
    "K1G2J8K1M1N3KNIPJq2KCREJ2R4K1M3O3K2N3R3K4M2O1Q5R1Q6KJM4N3O7M4N3O1Q1O3M3N1Q7R2O7M3N2O1Q2R1Q8N",
    "1O1Q6R7N2O7Rp4M1Rt1Mb1QAMaW1R21tsf147M2NW1RrX4A4N1O6R+6B2RYq5GERnf7IFRkJPYj2R+G4Wl1R21hw4M5R",
    "WZ4OkYt1R21+--1R21+--1R21+--1R21+--1R21+--1R21+--1R21+--1R21+--1R21+--1R21+--1R211R14URW34W4",
    "Rm76km-1RYWW41"]

def age (c : Char) : Nat := agePartition.label c

end DocQuery.Unicode
