import Conformance.Unicode.Packed

/-!
# Binary properties

One range table for each property that a character has or lacks.
-/

namespace Conformance.Unicode.Binary

/-- The range table of `ASCII_Hex_Digit`. -/
def asciiHexDigit : String :=
  "bG975Q5"

/-- The range table of `Alphabetic`. -/
def alphabetic : String :=
  "c1P6PbF0A0405M1U1o94BE47010cM0TH1123106012101J1cI1eA8f51b5206b8b7D101111108Q43TA5bN16Ed5174742
  A220GbFDd4Ob091405N2IJO7A5N15808b9AB366cB1F124EDI17212L16103337212110804114C1A04215412L1611111
  1444121407310H5B218121L16111438121130F3L34217212L161114372121914114D0G115321331101131323B44321
  23060b8C121M1F37121281122023S317121M1914371212816113D2CC121b8271212105374M5121H3N181026851017I
  1DbP5660bJ110141N101I12241060E3b00bV71b34I4F1b3c3bM1024GbVA32b510502bA1kC132610132b8132b013261
  0132E1bO132c2b5FGcL253tB2G1P5cA3A7JBKCJCC1211CbJ2IE040c3cO7bA5c5AU1B48NT24BbB4PbMR4bU2JbI0N1B2
  bHbJ1E17bJb923AbB1AEbMM2Ab32A5bA22b931511305fVJb1BiL252b525271010101U2bK1610321633254C5216dK0D
  0GCd5040291034601010131A235440Hb8zDbJbyMh46331Cb510502bN70GM96161616161616161VbF0oL2P874244cL6
  21cP135bA1cTHVbGFq0gnVc0vuCc3bD2iC3FA1KbE573dGb782d62c2211017LJ1b0ObJCc310bC53012Ab05b2DS3bI1B
  F0GFA41bM9DIM3c41010O22F23B5252596161bA1D6dQLkZ3CM4bGii4lD2d9b66C45B1C141011111dBb1lAIbV2bLb8B
  dK41e6b4P6PBcO35252522b3B1P1I111E2Db2dQc5bKiBS3bGbFVDT5bA5T2b34714bAeTIb34b34b78bJCA1E16111A1E
  16113bJCjM9LA7O51b918c55201bB11302MAM9Uc1I11ALAPc6bN61c031157121SbAS3Sb371RRbLALAIDHdEc8bNbIDb
  IDb7b2R305MhQb91131G2bN03SA08LbAHbEKRM9c5bB4AbO90DONbIH38b2309bV1391A010b3H1b12063bU610131E197
  bON317212L161114372121306056S910201b519102013113010bCc11213K2Uc12110fObL26P5b2bU1030bRbL20c7Q2
  DL6fPbOd7bVV72027111T112123cT72bD251011RbI29Hc750Ic8g7b0V81bC1610bHT2L1Dc96111bB3011121021O511
  1b4111310k7M9G1b832dF0cFYPd6dEHg3csCd0FbbFH5PdYQ5s6gvPbEbwHrO7UHcEHTIbFG3VK5InGbCgJbVe0cA4bO7G
  c0110C1Ef-N8bgLb99ix7316111j2F0T220E38mBci4dA5C387940fX1cK1c6112021231B10161c01327161R13141036
  1kJ2O1O1U1O1U1O1U1O1U1O17bzKU65gL61G2611145bTb10dGbCA6G0k1TIbBp4Rh4T20pF613111E1g4bRc33030bfK3
  1Q1110201913101060401010121110201010101011102316131310191G52141GtKP6P6PdtMbjwVb0ebP6gT2fu1EhjG
  FtDcn2qTbp2eWA5ecV"

/-- The range table of `Bidi_Control`. -/
def bidiControl : String :=
  "bqS0gpH1Q4bN3"

/-- The range table of `Bidi_Mirrored`. -/
def bidiMirrored : String :=
  "b81I010S010T010bD0F0dtU3bWT1cmS1A1bM1E1fH0g033530313313101048501H539110171V2350912I5194214N2F8
  3K171bbTDcA023111253523DmJL251D807530441124401221A521CI13201020135162O1B14311214bA271b75010345
  2403410i00q333111E129bB7nB927btrT551f21I010S010T0101111bvXN0bP0bP0bP0bP0"

/-- The range table of `Case_Ignorable`. -/
def caseIgnorable : String :=
  "b7060B0b3010c7040104021pNfV41409110hR6gF050bHbC10111110bC0B5AA10b30AKG0d571913b1010UQcRAbQA402
  0ONbB2bC07158b9bPbN010474036A1D0F0bQ04380K1Q021bP041412230U130B1bP0441140K1M510bQ020138071B1U0
  bT0C0bI030bN012521371B1T0bQ0206051K1S1bP14380K1T0c807210cQ026B8d20289016c91R01010bND14115A1b39
  0d63151121P142G3D02160F0cU0t02ZI2T1U1U1c0116802A3050bD4bJ0c11b20dM2419062gR120bQ0161010276920b
  708UbH3bG0141050b88C1b032112bO0113012bQ721c05cI21C16406031bIbUD0b2d4nT012B2D2D2D1C481A02024bH4
  1910D0GCbJb0cYB1dH2dT0F0d0VbF0oL0b433450cT5cT2XyM0bh25iE0d231910S3cG1Eb1cE0N2d7231803040P150eN
  1QHD0b67PAbE2bG02321H0L1c252121C080b30B0bJ012215110R0E15110d4492dP02040tzG0eJGrTF30CFb2020f907
  060B0b3010bF0bD1c30L2q10h20eL4ba551b918s621153b8240f51rT3b60Q410jR1cF3c6AbH3dR0bMEb9021A2bH321
  2040A0bI2b4417bU0C1bK8A320cV220116020eT037L1bP130b5634c65D01010E1cL72210N0cK5104111hE36111R1cL
  72011dA0102510d50102314i3811i011040eG32140b09b8523809522bEC11mM61510cIL261111dQ530111610c81301
  0kR1B1bK45010N0fgLG6Elg8B32co04bR693pS2b81p20bVGc0111qaB31611deU113esSbD2Mr029F26U3eK2bZRbM4bH
  80E0M41EbkG61G2611145bTb10f0DlG0bT3pR4hU1x06dD7cvF4yda10UcVe0hF"

/-- The range table of `Cased`. -/
def cased : String :=
  "c1P6PbF0A0405M1U1g2134gF1b371U4d00bA32123106012101J1cI1eA8f51b59b8cyNb510502bA13v0cL25ce2A5bA2
  2c0fVc0iL252b525271010101U2bK1610321633254C5216dK0D0GCd5040291034601010131540235440HV31zHbJbyM
  h46331Cb51050+iIbDITe4d5331bT211017L412zLbA1D6cFtW06C4ba9P6Pbf5cFd0b34b3dKA1E16111A1E1611o3022
  1b918bg5bIDbIcTLALcyQbVvl0bVzm0cK1c6112021231B10161c01327161R131410361kJ2O1O1U1O1U1O1U1O1U1O17
  bzK91J65i5bTceIc3b-CP6P6P"

/-- The range table of `Changes_When_Casefolded`. -/
def changesWhenCasefolded : String :=
  "c1PcQ0AM17b00101010101010101010101010101010101010101010101010101010201010101010101011101010101
  0101010101010101010101010101010101011101010111011122311123111101011102011121011307111111010101
  0101010102010101010101010102110121010101010101010101010101010101010101010101010101010101010711
  1201310101010hM0bA0103080601210111G18M0C231101010101010101010101010112110112bIbG01010101010101
  0101010101010101010901010101010101010101010101010101010101010101010101010111010101010102010101
  010101010101010101010101010101010101010101010101010101010101010101010101010101010101010102b5bG
  0cyOb51050zA5ce296bA22k00101010101010101010101010101010101010101010101010101010101010101010101
  0101010101010101010101010101010101010101010101010101010101010101010101010101010512010101010101
  01010101010101010101010101010101010101010101010101010101010101010101010101010101010109785A7878
  5B010101087GbF22255225B3C45225j903160bDFJ0zIPbzGbFbG012201010131020821010101010101010101010101
  0101010101010101010101010101010101010101010101010101010101010101010101010801040+kD010101010101
  010101010101010101010101010101010J010101010101010101010101010e70101010101010301010101010101010
  10101010101010101010101010101010101010101010A0101110101010401020103010101010101010101014141010
  10101010101310113050101010O0XQcFtW06C4ba9Pbg5b7e8b3eSA1E1611bxAbIeTLczQVvm0V+v0b1"

/-- The range table of `Changes_When_Casemapped`. -/
def changesWhenCasemapped : String :=
  "c1P6PbQ0AM1U1bV1cJ1R2D21104cS1H6Q1110113113142011207020113550A1f60bA32132106012101J1bE3b0141e4
  8f51b5Ab6cyOb510502bA22v0cL25ce2A5bA22fP030G0dHeR201dL252b525271010101U2bK1610321633254C5216j9
  03160R0HV31zHbJbyMdG11117d57331Cb51050+iIbDIRe6D2bT9E32241O1T2146O1WS0ScFtW06C4ba9P6Pbf5cFd0b3
  4b3dKA1E16111A1E1611bw3bIDbIcTLALcyQbVvl0bV+u0c3"

/-- The range table of `Changes_When_Lowercased`. -/
def changesWhenLowercased : String :=
  "c1Pd5M16b1010101010101010101010101010101010101010101010101010101020101010101010102010101010101
  0101010101010101010101010101010101110103110111223111231111010111020111210113071111110101010101
  0101020101010101010101021101210101010101010101010101010101010101010101010101010101010107111201
  310101010j10103080601210111G18b308010101010101010101010105020112bIbG01010101010101010101010101
  0101010901010101010101010101010101010101010101010101010101010111010101010102010101010101010101
  010101010101010101010101010101010101010101010101010101010101010101010101010102b5cW9b51050wIcLc
  eJ06bA22k0010101010101010101010101010101010101010101010101010101010101010101010101010101010101
  0101010101010101010101010101010101010101010101010101010101010101090101010101010101010101010101
  0101010101010101010101010101010101010101010101010101010101010101010109785A78785B010101087O7878
  784B4B3C4B4j903160bDFJ0zIPbzGbFbG0122010101310208210101010101010101010101010101010101010101010
  101010101010101010101010101010101010101010101010101010801040+kD0101010101010101010101010101010
  10101010101010J010101010101010101010101010e701010101010103010101010101010101010101010101010101
  0101010101010101010101010A01011101010104010201030101010101010101010141410101010101010131011305
  0101010O0vzBPbg5b7e8b3eSA1E1611bxAbIeTLczQVvm0V+v0b1"

/-- The range table of `Changes_When_Titlecased`. -/
def changesWhenTitlecased : String :=
  "d1PbQ0b9N1710101010101010101010101010101010101010101010101010101010201010101010101110101010101
  0101010101010101010101010101010101020101220102030502032202010102040203010203010401111101010101
  0101010111010101010101010121010301010101010101010101010101010101010101030101010101010101080211
  040101010151110113113142011207020113550A1f60bB0103032I0Rb21132101010101010101010101014102020bK
  bF10101010101010101010101010101010109010101010101010101010101010101010101010101010101010102010
  1010101011101010101010101010101010101010101010101010101010101010101010101010101010101010101010
  101010101010bHb6dtG5ce2810hE030G0dI01010101010101010101010101010101010101010101010101010101010
  1010101010101010101010101010101010101010101010101010101010101010101010101010101010101010165010
  1010101010101010101010101010101010101010101010101010101010101010101010101010101010101010101885
  A78785A7878D2787878411603211832187A211kM0b1F40WBPbW6bF10311010106020A0101010101010101010101010
  10101010101010101010101010101010101010101010101010101010101010101010101010801040Cb51050+iJ0101
  01010101010101010101010101010101010101010J010101010101010101010101010e701010101010103010101010
  1010101010101010101010101010101010101010101010101010A010201010101040401120101010101010101010B0
  1010101010101040102030501010Q0WS0ScFtW06C4bb9PbgDb7e8b3eRA1E1611by3bIdTLczQVvm0V+v2b1"

/-- The range table of `Changes_When_Uppercased`. -/
def changesWhenUppercased : String :=
  "d1PbQ0b9N1710101010101010101010101010101010101010101010101010101010201010101010101110101010101
  0101010101010101010101010101010101020101220102030502032202010102040203010203010511111101010101
  0101011101010101010101011111030101010101010101010101010101010101010103010101010101010108021104
  0101010151110113113142011207020113550A1f60bB0103032I0Rb21132101010101010101010101014102020bKbF
  1010101010101010101010101010101010901010101010101010101010101010101010101010101010101010201010
  1010101110101010101010101010101010101010101010101010101010101010101010101010101010101010101010
  1010101010bHb6cW8bA22xO5ce2810hE030G0dI0101010101010101010101010101010101010101010101010101010
  1010101010101010101010101010101010101010101010101010101010101010101010101010101010101010101016
  5010101010101010101010101010101010101010101010101010101010101010101010101010101010101010101010
  1885A78785A7878D2bK114010321140332187A21140kH0b1F40WBPbW6bF10311010106020A01010101010101010101
  0101010101010101010101010101010101010101010101010101010101010101010101010101010801040Cb51050+i
  J010101010101010101010101010101010101010101010J010101010101010101010101010e7010101010101030101
  010101010101010101010101010101010101010101010101010101010A010201010101040401120101010101010101
  010B01010101010101040102030501010Q0WS0ScFtW06C4bb9PbgDb7e8b3eRA1E1611by3bIdTLczQVvm0V+v2b1"

/-- The range table of `Dash`. -/
def dash : String :=
  "bD0bkS0bJ0ds10ba50ca95bT0b70F0m60da4020V140S0nU0J0dF0btmG1b50A0f90dt00jU0"

/-- The range table of `Default_Ignorable_Code_Point`. -/
def defaultIgnorableCodePoint : String :=
  "fD0v10wC0cW21bsJ1cL4b-R4Q4bHFehK0bteRFhF0f00cF8bpf73fgF7ylu5d-V"

/-- The range table of `Deprecated`. -/
def deprecated : String :=
  "k90bj90ci3010cb91cg55vP1XxgM0"

/-- The range table of `Diacritic`. -/
def diacritic : String :=
  "cU010c70604021pNeU1755H14091hT4gH0bNbC10111110e3741e614132c3QcRAbQAb21dU7b99GRbT0G033S0cA0G0dE
  0G0dE0G0bF2bS0G070dN0dE0G0dE0G0dD1G0dS0dF0C510dB0D4cB1R0101041c2211bU0dG011b8144P610A1w12ZK1U0
  eKA90kR2j40K720bGE2Ad80F0b68bM1bQ0B1c21c05cIO406022bIbUbGb35Bb5AnT012B2D2D2D1dhG2jT0pQ5d93cV0Z
  lI0C110S1cI1Eb1d62dD1C0b50eN0RHbP3b40cV0C0b40eL2c13bJ0d4492e01tzG0y1FiE010bF0bD1c30xS0beV51b91
  8tT240f51rR5b60Q4mF2c6AbH3g00b90c81dO1bU0cC092d81fI1cG1G0O634cP211D1cV030dR1hR1dU0dM1dJ0iD1i21
  40eS0cJ0I0cH0n50i2011cH0n91N0fhCElgP0co04bR6rK1r2GcG1p-U31611hy1bD2Mr02358726U3du2bTg26lN0bT3x
  U1x06dD212"

/-- The range table of `Emoji`. -/
def emoji : String :=
  "b306059dF040hYD0C0gO0M0cQ5F1lF1C0f60PA42g70h71A090bQ314902021204020112030318250105BB1201110I02
  1I5101131502141B15120511011K155132040202510201010603060A1F02040104210B1bG290E0E0lK1oF2J1bJ040b
  gQ0C0sP010dplA0gA0f01C1E029cBP11N0K028L1fEb12dF21122cI221i61bUB51N7127C0232041D120819052C28220
  104060306cLbGc557224930113029h3B40iRbE191fOdGC395bN7E2A68"

/-- The range table of `Emoji_Component`. -/
def emojiComponent : String :=
  "b306059h+J0gL0bxjB0bY+MPpR4bnG3ybtCcV"

/-- The range table of `Emoji_Modifier`. -/
def emojiModifier : String :=
  "dY-R4"

/-- The range table of `Emoji_Modifier_Base`. -/
def emojiModifierBase : String :=
  "jqT0gR0G3dtdN0bS22022dL12ALI3042127010O0g9140L041fE234cJ0G290B0rV02087609922bO0bT11110H21Ch52b
  A8"

/-- The range table of `Emoji_Presentation`. -/
def emojiPresentation : String :=
  "iyQ1gD33020q91L1bIBbB0J0D081H1518050L0711040207041S0b30104210bT2O0E0WR1bJ040drfE0gA0fU029cBP10
  O0K02412L1fEb0C81c51LCbA44CG303c6101fQ2bUD31NI0Q1D0cMcKbGc560322243B178h3B40iRbE191fOdGC395bN7
  E2A68"

/-- The range table of `Extended_Pictographic`. -/
def extendedPictographic : String :=
  "f9040hYD0C0gO0M0cQ5F1lF1C0cV0c60PA42g70h71A090bQ3151B1dHAdL2A1010603060A1F02040104210B4bD290E0
  E0lK1oF2J1bJ040bgQ0C0sP010dpl6hVD2V0bS5C1E029IbOREA0K028139nH5jT8i9bGdVdKBcLbAC3bO7A5b87UcHCbE
  191nOi0-T"

/-- The range table of `Extender`. -/
def extender : String :=
  "fN0qO1XE0nP0tM0e90cP0xG0dV0ck30bO0t30mE0c40eY90bB4d71cT2XyM0bpM0+20M0e90dC0L1vdR0caG1boB0R040b
  g70j50dK1pI2bgF0uf91beS110YkO1bfH0WK2"

/-- The range table of `Grapheme_Base`. -/
def graphemeBase : String :=
  "b0cUb1C1sHdG72546101J1gV7f51b52bH22bE01020209Q45H9B01bDLF1d48061204V201TTcOB0EbA963N4090307E1O
  501A5UHb9bPbM10138312792S1117212L1610333011612110D1124N5015412L1611111142O310792210C018121L161
  11433801130F14B708117212L16111430206121F1124HB015321331101131323B5011321230LK6217121M1F3033J22
  02149791A121M1914312011O1114912EA121b8201152121142194P211H3N18102691667922CbF11B78Cb5110141N10
  19119024109923b0N2Q10101D1b3I05024bH7151Cb5bC4060212O233F4C11251E1b710502lO132610132b8132b0132
  610132E1bO132c25S3P6cL252uS3cO7HDI319HEC12FbJ207711B839696A596cO742b1105c5AU43224115703b924BbB
  4P6A3bO213bN10901185D9696DcMbFA3371S9B2V416bN102210DbF815E3bT5bA2AB0D0731512205fVc0iL252b52527
  1010101U2bK1E1D251I22181A5N7bGG12Q1C3b0bVeB4uPMALbyJ2V1kN315bC10502bN71FM9616161616161616b1cTb
  2P1cOCgLQbP6F1cL4d45bA1cT1cL9bF1YtC3bM9kRKbE40AV2cF258gD211017LF12131O24496bN8c3ABOC1b58OB0CT6
  bF1141211C1A461O1b86121B21710292V1bI1031242010OG27B5252596161bR4dK1113396kZ3CM4bGii4lD2d9b66C4
  501N141011111dSGnS2bL70b0FG9Mb21I13441e64eS2U352525223616D12B1P1I111E2Db2dQ524bC3cN1C30bFbCe3S
  3bGGQ4b39T5b5AT1b44DbAeT296b34b34b78bJBB1E16111A1E16113bJCjM9LA7O51b918c55201bB11302M1c788bGI1
  15b03Q50c0bN4J2bEF3121SA8787bVb0b46B9bL3S2Q5P73C6cGc8bNbIDbI7b9C96b58N81gGU1b93021G2bRb78LB8MH
  43b6RKM901bLF64T1120CbG412113EO799b3509H8b212BbJ9017411F1JBH1R314511bV610131E1A6bE12D98117212L
  161114301013212130C6S910201b51011F011301211b7bN81301K1012UbF11601110202389f6bE1163202Qb4bI8110
  23B96CJbA101181696JSQ3011409MfPbE9020d4cIC72027111N1411631299c672b98313R0Ab7614790613bDD028Dc8
  79fMb1E9681b5E015AS3VP07020cB6111b5L09965111b441101079jMI239E1b3813McM0FbHDYQd6dE14Bg3csCd2Dbb
  FH5PdYQ5s6gvPTC239bw6rO7U194cG196T70AbF7EA9161K5InGbPg6cQd5cA5bNBCc03Sf-N8bgLb99ix7316111j2F0T
  220E38mBci4dA5C38792020dX0hP6nJeSdJbShLAb62bR52M17T4bSLc130dQJCJCcM9Oe7cK1c6112021231B10161c01
  327161R131410361kJ2j32rHbN3bI71D16bdKU65i5bTeIbCA62941k0TIbB4950oGR49gMT2A40p0613111E1g428bGc3
  704941yHc3cCbSg231Q1110201913101060401010121110201010101011102316131310191G52141GbK1iEbB4d3CE2
  E1E1b4AfDbOSDbB4871E5eQ+N4G3C3dM4cU6B40FB4bN896b78T2B41bUkJCD2C395bN7E2A687eI1d5ba6bjwVb0ebP6g
  T2fu1EhjGFtDcn2qTbp2eWA5ecV"

/-- The range table of `Grapheme_Extend`. -/
def graphemeExtend : String :=
  "y0dFiJ6i7bC10111110c8AbGKG0d56252113b30UQcRAbQ890O3181214bB2bR8bAN1VbN010474036A1T0bQ010238090
  A1Q021bP041412230U130B1bP0441140K1M510bQ011138072A1U0bR010C090b8030bN012521371B1T0bQ0211032137
  1B1S1bP110238090A1T0c8040221080cH026C7d2028B6c91R01010bND14115A1b390d63151121P142G3D02160F0vV2
  ZI3S2T1U1c0116802A90bD210dL1b20dM2419062gR120bQ0161010276920bGUbH3bG942b68C1b0325bO0113014bO72
  1eO21C16406031g6bVqC0g3b0c-U2eD0d0VrA5d91ZoK319b01cG1iG03040P150eN1QHD0b67PA10bC2bG0232120b40c
  352121C080bF0bJ012215110bA180hE02040tzG0x1FGFlE1sT0h20eL4bu621153b8240f51rT3c14jT1cF3c6AbH3dR0
  bMEb9021A2bH32170bT2b4417bU0C1bK8108320cV2236020eT037L1bP11010C090E634c30251020124210E1cL72210
  N0cH02510201111hB0236111R1cL72011dA01027d50102314i3811hL0A340eG32140b09b8523809522bEC11mM61510
  cIL261111dQ530111610c813010kR1B1bK452N0fh506Elg8B32co04bR6baO0bV3cH0B1tfB1et1bD2MqU4358726U3eK
  2bZRbM4bH80E0M41EbkG61G261114d40f06lN0bT3pS3hU1x06dD6yfwLcVe0hF"

/-- The range table of `Grapheme_Link`. -/
def graphemeLink : String :=
  "ckD0dV0dV0dV0dV0dV0dV0dV0dD1G0dS0dF0dV0g90fK1bwP1U0eT0uD0h30d51c61emB0+u60b50eN0eE0dC0jL0hM0xs
  H0bq60b90E0bP0dP1eB0dK0fK0d20e02dH0dV0hS0dV0dM0dK0iD0i31f10cJ0I0cH0n50i41cH0n91qpC0"

/-- The range table of `Hex_Digit`. -/
def hexDigit : String :=
  "bG975Q5b-v9975Q5"

/-- The range table of `Hyphen`. -/
def hyphen : String :=
  "bD0dV0bgS0etR0ca91dq50x30btl70f90cN0"

/-- The range table of `IDS_Binary_Operator`. -/
def idsBinaryOperator : String :=
  "l-G129pH0"

/-- The range table of `IDS_Trinary_Operator`. -/
def idsTrinaryOperator : String :=
  "l-I1"

/-- The range table of `IDS_Unary_Operator`. -/
def idsUnaryOperator : String :=
  "l-U1"

/-- The range table of `ID_Compat_Math_Continue`. -/
def idCompatMathContinue : String :=
  "fI150hZM03A1ElJ040M0dnf20P0V0P0V0P0V0P0V0P0"

/-- The range table of `ID_Compat_Math_Start`. -/
def idCompatMathStart : String :=
  "iq2040M0dnf20P0V0P0V0P0V0P0V0P0"

/-- The range table of `ID_Continue`. -/
def idContinue : String :=
  "bG97P401PbF0A010205M1U1o94BE47010HdK11231064101J1cI1eA142f51b5206b88bC101111108Q43TA5c94d51729
  1I20GbQ2d4EbL40202bDIR4A5N158cA1e0291I17212L1610332821238041142BA0102215412L161111112014412230
  73107FB218121L16111429121220F329961217212L1611142821227241142910G115321331101131323B4432132060
  E9GC121M1F2812137112202329G317121M19142812137161132912CC121bI1214537429A5121H3N181026304510176
  921DbP5E19b7110141N101M2410161923b00N169B01010491b34J1H1b390bPc96cD2b510502bA1kC132610132b8132
  b0132610132E1bO132c22298EFGcL253tB2G1P5cA3A7L9LBJCC1211CcJ304129b121A6cO7bA5c5AU1B4BAb724BbB4P
  6Ab5R4bU1S2A69D08D1FbHcC39H8CdJCbN893bG2A5bA22G21b65qL252b525271010101U2bK1610321633254C5216F1
  bH1J0S0D0GCbJC403BH0402910256010101F235440Hb8ctNh468Cb510502bN70FN96161616161616161Vq52PE14244
  cL261cU5bA1cTHVbGFq0gnVc0vuCc3bD2iC3RKbF491dIb582d62c2211017LbL40JbJCc5A96N301bG2b3CS3c0EA6U1b
  M9D296M3c8O22F24A5252596161bA1D6dQ11296kZ3CM4bGii4lD2d9b66C45B1C141011111dBb1lAIbV2bLb8B4FGF31
  O2b041e6J97P401PAcP35252522b3B1P1I111E2Db2dQc5bKe80e2S3bGF0VVDT5bA5T2b34714bAeT296b34b34b78bJC
  A1E16111A1E16113bJCjM9LA7O51b918c55201bB11302MAM9Uc1I11ALAPc6bN61c031157121S2240b0S3Sb371TPbLA
  LAIDHdEc8bNbIDbIDb7896b5341MhQb91131G2bNb0A08b0VLbAKRM9c6VF9bR70DO796bK19438b3209c4431C10b3H1b
  463bU610131E197bQ596317212L1611141921222060562634B910201b51910201317D1TcA5943Uc51089f6bL28N5b2
  c030B9b6bO796JSQ2E4966fPbQd5c9L72027111T1128C9c672bD2711RbU808c930Ic8g7b0F9681bC18F9OT2L1Dc961
  11bB3011188965111b4111579jMM9G1b834DAcL0cFYPd6dEHg3csCd0FbbFGLAdYQ5s6gvPbPbw6rO7U196cE196T24Bb
  M93C99K5InGbC39g6bVe0cA4bO7Gc0111B1Ef-N8bgLb99ix7316111j2F0T220E38mBci4dA5C387931ecH9q6bD2MqU4
  358726U3eK2nRcK1c6112021231B10161c01327161R131410361kJ2O1O1U1O1U1O1U1O1U1O172bHq0bM4bH80E0M41E
  bcGU65gL61G2611145bTb10dGbC3D2940k1UHbPoMb9gMbAp5613111E1g4B6b9cB49bf631Q111020191310106040101
  0121110201010101011102316131310191G52141GdjK9ba6bjwVb0ebP6gT2fu1EhjGFtDcn2qTbp2eWA5ecVvxkGhF"

/-- The range table of `ID_Start`. -/
def idStart : String :=
  "c1P6PbF0A0405M1U1o94BE47010e141123106012101J1cI1eA8f51b5206b8c7Q43bDbAb311d210F171A220G01TTcOB
  0Ob091405L409030NO7A5N15Hb9bQbL30I079FF47212L16103330G0D112E1A085412L16111111V310J2G8121L16111
  430I0F1N0B7212L16111430U112F0H015321331101131323BM0bK7121M1F30Q22021U047121M191430V111F1H8121b
  820G05282O55H3N181026bQbF11C6bQ110141N101911902410L3b00bV71b3R4dJbAK0G5433031724CC0Hb510502bA1
  kC132610132b8132b0132610132E1bO132c2b5FGcL253tB2G1P5cA3A7HDIEHEC12FbJb3040c3cO7b8105c5AUbHT24B
  bB4PbMM9bKcI0cTbEH7bMTD1AbBQb3b92Ab32A5bA22b931511305fVc0iL252b525271010101U2bK1610321633254C5
  216dK0D0GCd50402910256010101F235440Hb8ctNh46331Cb510502bN70GM9616161616161616r62P874244cL441cP
  135bA1cTHVbGFq0gnVc0vuCc3bD2iC3FA1KbEGU2cFb782d62c2211017LF12131MTbJEbHbU53011BRAMPS7bES0G419A
  41b8N217KM303bH1031242010O22A72C5252596161bA1D6dITkZ3CM4bGii4lD2d9b66C450191C141011111dBb1lAIb
  V2bLb8BdK41e6b4P6PBcO35252522b3B1P1I111E2Db2dQc5bKiBS3bGbFVDT5b5AT2b34714bAeTIb34b34b78bJCA1E1
  6111A1E16113bJCjM9LA7O51b918c55201bB11302MAM9Uc1I11ALAPc6bN61c00F3121SbAS3Sb371RRbLALAIDHdEc8b
  NbIDbIDb3b6R9MhQb961G2bRSA08LbAHbEKRMCbKbP120DbCb0OQb3T0208b230CbFE3L010b3H1OJ1bV610131E197bEb
  67212L16111430I0C4U910201b510P010bCbKI3K2UbFK110fObEb93b4bFK0bRbAD0c7Qb56fPbBdKbVV72027111NF01
  0cU72b6G010S0Ab770L0BbDJ0Ic8g7b0V81b4H0bHTdG6111b5L0P5111VE0k7IF01C1b1dS0cFYPd6dEHg3csCd0FbbFH
  5PdYQ5s6gvPTbx2rO7UHcEHTIbFG3VK5InGbCgJbVe0cA50c2Cc0110Sf-N8bgLb99ix7316111j2F0T220E38mBci4dA5
  C3879fX6cK1c6112021231B10161c01327161R131410361kJ2O1O1U1O1U1O1U1O1U1O17bzKU65i5bTeIbCA6G0k1TIb
  Bp4Rh4T20pF613111E1g4bRc370bfK31Q1110201913101060401010121110201010101011102316131310191G52141
  Gek4bjwVb0ebP6gT2fu1EhjGFtDcn2qTbp2eWA5ecV"

/-- The range table of `Ideographic`. -/
def ideographic : String :=
  "ma61P8E2+5gnVc0upVwi0lD2d9ZiA0Rf-N8bgLb99jd7mBti4bjwVb0ebP6gT2fu1EhjGFtDcn2qTbp2eWA5ecV"

/-- The range table of `Join_Control`. -/
def joinControl : String :=
  "iaC1"

/-- The range table of `Logical_Order_Exception`. -/
def logicalOrderException : String :=
  "ds04dR4cxG220behQ12011"

/-- The range table of `Lowercase`. -/
def lowercase : String :=
  "d1PbF0A040b4N171010101010101010101010101010101010101010101010101010101110101010101010111010101
  0101010101010101010101010101010101010102010122010203140203220201010201110203010212260202010101
  0101010101110101010101010101120103010101010101010101010101010101010101010101010101010101010162
  02110401010101c41b371U4d00bB0103023I0Rb21132101010101010101010101014102021bJbF1010101010101010
  1010101010101010109010101010101010101010101010101010101010101010101010102010101010101110101010
  1010101010101010101010101010101010101010101010101010101010101010101010101010101010101010bGb8cW
  7bA13xO5ce2810dLfVc101010101010101010101010101010101010101010101010101010101010101010101010101
  0101010101010101010101010101010101010101010101010101010101010101010101010181010101010101010101
  010101010101010101010101010101010101010101010101010101010101010101010101010101885A78785A7878D2
  787878411603211832187A211dP0D0GCdD03130R04040218340b1F40WBPbW6bF103110101040111730101010101010
  10101010101010101010101010101010101010101010101010101010101010101010101010101010101011701040Cb
  51050+iJ010101010101010101010101010101010101010101010J010101010101010101010101012e501010101010
  1210101010101010101010101010101010101010101010101010101010101019101020101010104010201210101010
  101010101010505010101010101010401020301010101010M21012zLbA1D6cFtW06C4bb9PbgDb7e8b3eRA1E1611o30
  221b918bi5bIdTLczQVvm0VzmQPQ61HQPQ310161AQPQPQPQPQPQPQPQPQRSO15QO15QO15QO15QO1510bzK91J65i5bTc
  fKb1"

/-- The range table of `Math`. -/
def math : String :=
  "bB0G2V0T010bD040b50V0wO220Q122qF2gqD0R2B030D0E3L4B4c1C403144I04029102560312112153D10c4N1511414
  V1061EiB83K1cQ0UQ10O0B6nT1C945412134E01025B751bP010T392kGbVi0pVbGK25bt+S0zN510f20G2T010T010e30
  63dn11brtGcK1c6112021231B10161c01327161R131410361kJ2j32bHfq031Q1110201913101060401010121110201
  010101011102316131310191G52141GbK1"

/-- The range table of `Modifier_Combining_Mark`. -/
def modifierCombiningMark : String :=
  "bsK120e306031p111230V0"

/-- The range table of `Noncharacter_Code_Point`. -/
def noncharacterCodePoint : String :=
  "b-oGVqE1b--U1b--U1b--U1b--U1b--U1b--U1b--U1b--U1b--U1b--U1b--U1b--U1b--U1b--U1b--U1b--U1"

/-- The range table of `Other_Alphabetic`. -/
def otherAlphabetic : String :=
  "W50TCs0D10111110c8AbGC16G0d56432140b30UFd6Ad51381213dA0bSB366JbM12E1152A1T2bQ62121A0A1T2bQ4412
  140U130B2bQ71211L1M242bQ6212191A1U0bR43212A0b84bP6121281B1T2bQ6121281B1F0C3bQ61212A0A1T2cB5101
  7I1bT026I0d302511G0f3I9A1b3dEB1023N342122633DB10A3btK1U1U1U1c2IfS1b20dMB48gU4bP92JcA1B2bH4bGEb
  S2U821bPAbIImSb1bw1bJchMV+dK7b21l2080N4cO1bIF10bP0b64SBbD3bGBb50c3DC081bD2bI0122150bC450hD7tzJ
  0ccN4bu621153yK3c10k11cF0i32bLDbD1B2bD890bT2b4BI1bP2bGCE1cS8206020eT9N3bQ62121A0A1cK810201311d
  7C12dAHhD626T1cIE10dAAd7Di1ChN511213010eE62540S9bA413IAbEDmN716cJL1DdQ53011121030c241113kS3911
  0bG632qoTGdr001bM73cT1tfC0iX161G261114d40cfN0b-8P6P6P"

/-- The range table of `Other_Default_Ignorable_Code_Point`. -/
def otherDefaultIgnorableCodePoint : String :=
  "WF0dqF1bsJ1cfF0ehU0btrR0cF8Waa701Td0dVhGdqF"

/-- The range table of `Other_Grapheme_Extend`. -/
def otherGraphemeExtend : String :=
  "cnU0O0l60O0d60O0h8010411191d70O0dN0F0cjL0U0ba00501051d50c71baO0eb11+j30dC0voT1er00dK0i80E090d0
  090201250h00C0hH0i60tP0C0bq30ufE1ylJ165ylvDcV"

/-- The range table of `Other_ID_Continue`. -/
def otherIDContinue : String :=
  "fN0wF0d-18bt80brH1ehD0btt90"

/-- The range table of `Other_ID_Start`. -/
def otherIDStart : String :=
  "ge51ceH0L0dXC1"

/-- The range table of `Other_Lowercase`. -/
def otherLowercase : String :=
  "fA0F0pL871U4d00bK0dm10dbFbUD0b2b4vH0D0GCgJFWGPbYI1+qU1gI0e1231X2390xaM0221b918bwdLbT"

/-- The range table of `Other_Math`. -/
def otherMath : String :=
  "cU0XH220Q121hb00R2B0b03O1E1c1C403144I04029103460312112153354cB4231111101421414H2110161061j23f8
  110O0H0nT1C854512134E01025O1bP010T391kM1V9mJLbV3b01bvd301040gJ010bvg1cK1c6112021231B10161c0132
  7161R131410361kJ2O1O1U1O1U1O1U1O1U1O172bHfq031Q11102019131010604010101211102010101010111023161
  31310191G52141G"

/-- The range table of `Other_Uppercase`. -/
def otherUppercase : String :=
  "il0FW6Pdtd0P6P6P"

/-- The range table of `Pattern_Syntax`. -/
def patternSyntax : String :=
  "b1EA6Q310Q3b2610111011404030N0V0hyON8E2I19jHwFf0tLUbdBq0dVm124OF0btiD1i51"

/-- The range table of `Pattern_White_Space`. -/
def patternWhiteSpace : String :=
  "94I0d40hY81O1"

/-- The range table of `Prepended_Concatenation_Mark`. -/
def prependedConcatenationMark : String :=
  "bq05gN0bH0m01cG0cb+Q0F0"

/-- The range table of `Quotation_Mark`. -/
def quotationMark : String :=
  "b2040e30F0hWS7P1dq70o93D2btr13fT040cQ1"

/-- The range table of `Radical`. -/
def radical : String :=
  "lu0P1cOCgL"

/-- The range table of `Regional_Indicator`. -/
def regionalIndicator : String :=
  "dYp6P"

/-- The range table of `Sentence_Terminal`. -/
def sentenceTerminal : String :=
  "b10C0G0bk90eJ2fK0bB2hM0bT01031j51bx41yM041y50g61eT1bD050jQ1l23f21A121T2fR1c11Z40N192dfF2jI0D0M
  1nD0ZhS0iE1h3030lU1cM1cV0eO1eJ2eG1hP0ur6021bR031f90C0G0c10cxK1bhT4bC3fT1dL3dV2e1160G1cO111dC0j
  A1dL1lL15Ed91hP2q5010hR1cN1n41vK1cA1sz91e50c11B0r91j80tq60hp80"

/-- The range table of `Soft_Dotted`. -/
def softDotted : String :=
  "d91g40iP0U0bK0K0k00d2010gi90bJ0D030e40eT0n50gM1czI0djZ51bI1bI1bI1bI1bI1bI1bI1bI1bI1bI1bI1bI1ce
  60jH1Q0"

/-- The range table of `Terminal_Punctuation`. -/
def terminalPunctuation : String :=
  "b10A010B130zU080q10bP0c80E012fK0bBA10hB1bM517V0i51bhK1fC045jN1yL7y50dS2c71eT230b7321jQ1l23f21A
  112T2fR4bU1Z40N192dfF2jI0D040A01131nC1ZhR1iD2h34lU1cM1cV0eN2eJ2dV0G1hP0ur6021bP213f90A010B130c
  1020bbQ0bG0be60g70jM1eO5c45cP3ZO4bC3fT6dG3dV2e1160G1cO4dC0jA1dL2C1l633Ed91hP2q5010hR1cN141mU2b
  D0u51cA1bjB4rpP1e50c12A0r91j71tq60hp73"

/-- The range table of `Unified_Ideograph`. -/
def unifiedIdeograph : String :=
  "na0gnVc0upVwqE11011A0101122cboMbjwVb0ebP6gT2fu1EhjGFtDen2eWA5ecV"

/-- The range table of `Uppercase`. -/
def uppercase : String :=
  "c1Pd5M16b1010101010101010101010101010101010101010101010101010101020101010101010102010101010101
  0101010101010101010101010101010101110103110111223111231111010111020111210113070202020101010101
  0101020101010101010101020201210101010101010101010101010101010101010101010101010101010107111201
  310101010j10103080601210111G18b30223010101010101010101010105020112bIbG010101010101010101010101
  0101010109010101010101010101010101010101010101010101010101010101110101010101020101010101010101
  01010101010101010101010101010101010101010101010101010101010101010101010101010102b5cW9b51050wIc
  LceJ06bA22k00101010101010101010101010101010101010101010101010101010101010101010101010101010101
  0101010101010101010101010101010101010101010101010101010101010101010901010101010101010101010101
  010101010101010101010101010101010101010101010101010101010101010101010109785A78785B010101087c83
  C3C3C4B3i6040322220346010101323A150QFJ0zIPbzGbFbG012201010131020821010101010101010101010101010
  1010101010101010101010101010101010101010101010101010101010101010101010801040+kD010101010101010
  101010101010101010101010101010J010101010101010101010101010e70101010101010301010101010101010101
  01010101010101010101010101010101010101010A0101110101010401020103010101010101010101014141010101
  01010101310113050101010O0vzBPbg5b7e8b3eSA1E1611bxAbIeTLczQVvm0Vzn0PQPQPQ01120212317QPQ1132716R
  113141036RPQPQPQPQPQPUOb1Ob1Ob1Ob1Ob10ejLb1caEP6P6P"

/-- The range table of `Variation_Selector`. -/
def variationSelector : String :=
  "gaB210bzpGFWaxGhF"

/-- The range table of `White_Space`. -/
def whiteSpace : String :=
  "94I0d40Q0foV0clVAT150bF0dZ00"

/-- The range table of `XID_Continue`. -/
def xidContinue : String :=
  "bG97P401PbF0A010205M1U1o94BE47010HdK11321064101J1cI1eA142f51b5206b88bC101111108Q43TA5c94d51729
  1I20GbQ2d4EbL40202bDIR4A5N158cA1e0291I17212L1610332821238041142BA0102215412L161111112014412230
  73107FB218121L16111429121220F329961217212L1611142821227241142910G115321331101131323B4432132060
  E9GC121M1F2812137112202329G317121M19142812137161132912CC121bI1214537429A5121H3N181026304510176
  921DbP5E19b7110141N101M2410161923b00N169B01010491b34J1H1b390bPc96cD2b510502bA1kC132610132b8132
  b0132610132E1bO132c22298EFGcL253tB2G1P5cA3A7L9LBJCC1211CcJ304129b121A6cO7bA5c5AU1B4BAb724BbB4P
  6Ab5R4bU1S2A69D08D1FbHcC39H8CdJCbN893bG2A5bA22G21b65qL252b525271010101U2bK1610321633254C5216F1
  bH1J0S0D0GCbJC403BH0402910256010101F235440Hb8ctNh468Cb510502bN70FN96161616161616161Vq52PE14244
  cL21221cU5bA1cTHVbGFq0gnVc0vuCc3bD2iC3RKbF491dIb582d62c2211017LbL40JbJCc5A96N301bG2b3CS3c0EA6U
  1bM9D296M3c8O22F24A5252596161bA1D6dQ11296kZ3CM4bGii4lD2d9b66C45B1C141011111dBb1eA6gPIbV2bLb896
  FGF31O2b1010301010101dTJ97P401PAcP35252522b3B1P1I111E2Db2dQc5bKe80e2S3bGF0VVDT5bA5T2b34714bAeT
  296b34b34b78bJCA1E16111A1E16113bJCjM9LA7O51b918c55201bB11302MAM9Uc1I11ALAPc6bN61c031157121S224
  0b0S3Sb371TPbLALAIDHdEc8bNbIDbIDb7896b5341MhQb91131G2bNb0A08b0VLbAKRM9c6VF9bR70DO796bK19438b32
  09c4431C10b3H1b463bU610131E197bQ596317212L1611141921222060562634B910201b51910201317D1TcA5943Uc
  51089f6bL28N5b2c030B9b6bO796JSQ2E4966fPbQd5c9L72027111T1128C9c672bD2711RbU808c930Ic8g7b0F9681b
  C18F9OT2L1Dc96111bB3011188965111b4111579jMM9G1b834DAcL0cFYPd6dEHg3csCd0FbbFGLAdYQ5s6gvPbPbw6rO
  7U196cE196T24BbM93C99K5InGbC39g6bVe0cA4bO7Gc0111B1Ef-N8bgLb99ix7316111j2F0T220E38mBci4dA5C3879
  31ecH9q6bD2MqU4358726U3eK2nRcK1c6112021231B10161c01327161R131410361kJ2O1O1U1O1U1O1U1O1U1O172bH
  q0bM4bH80E0M41EbcGU65gL61G2611145bTb10dGbC3D2940k1UHbPoMb9gMbAp5613111E1g4B6b9cB49bf631Q111020
  1913101060401010121110201010101011102316131310191G52141GdjK9ba6bjwVb0ebP6gT2fu1EhjGFtDcn2qTbp2
  eWA5ecVvxkGhF"

/-- The range table of `XID_Start`. -/
def xidStart : String :=
  "c1P6PbF0A0405M1U1o94BE47010e141132106012101J1cI1eA8f51b5206b8c7Q43bDbAb311d210F171A220G01TTcOB
  0Ob091405L409030NO7A5N15Hb9bQbL30I079FF47212L16103330G0D112E1A085412L16111111V310J2G8121L16111
  430I0F1N0B7212L16111430U112F0H015321331101131323BM0bK7121M1F30Q22021U047121M191430V111F1H8121b
  820G05282O55H3N181026bQbF10D6bQ110141N101910A02410L3b00bV71b3R4dJbAK0G5433031724CC0Hb510502bA1
  kC132610132b8132b0132610132E1bO132c2b5FGcL253tB2G1P5cA3A7HDIEHEC12FbJb3040c3cO7b8105c5AUbHT24B
  bB4PbMM9bKcI0cTbEH7bMTD1AbBQb3b92Ab32A5bA22b931511305fVc0iL252b525271010101U2bK1610321633254C5
  216dK0D0GCd50402910256010101F235440Hb8ctNh46331Cb510502bN70GM9616161616161616r62P874244cL621cP
  135bA1cTHVbGFq0gnVc0vuCc3bD2iC3FA1KbEGU2cFb782d62c2211017LF12131MTbJEbHbU53011BRAMPS7bES0G419A
  41b8N217KM303bH1031242010O22A72C5252596161bA1D6dITkZ3CM4bGii4lD2d9b66C450191C141011111dBb1eA6g
  PIbV2bLb89dN010301010101dTb4P6PBbN2U35252522b3B1P1I111E2Db2dQc5bKiBS3bGbFVDT5b5AT2b34714bAeTIb
  34b34b78bJCA1E16111A1E16113bJCjM9LA7O51b918c55201bB11302MAM9Uc1I11ALAPc6bN61c00F3121SbAS3Sb371
  RRbLALAIDHdEc8bNbIDbIDb3b6R9MhQb961G2bRSA08LbAHbEKRMCbKbP120DbCb0OQb3T0208b230CbFE3L010b3H1OJ1
  bV610131E197bEb67212L16111430I0C4U910201b510P010bCbKI3K2UbFK110fObEb93b4bFK0bRbAD0c7Qb56fPbBdK
  bVV72027111NF010cU72b6G010S0Ab770L0BbDJ0Ic8g7b0V81b4H0bHTdG6111b5L0P5111VE0k7IF01C1b1dS0cFYPd6
  dEHg3csCd0FbbFH5PdYQ5s6gvPTbx2rO7UHcEHTIbFG3VK5InGbCgJbVe0cA50c2Cc0110Sf-N8bgLb99ix7316111j2F0
  T220E38mBci4dA5C3879fX6cK1c6112021231B10161c01327161R131410361kJ2O1O1U1O1U1O1U1O1U1O17bzKU65i5
  bTeIbCA6G0k1TIbBp4Rh4T20pF613111E1g4bRc370bfK31Q1110201913101060401010121110201010101011102316
  131310191G52141Gek4bjwVb0ebP6gT2fu1EhjGFtDcn2qTbp2eWA5ecV"

/-- The names of each property and its table. -/
def tables : List (List String × String) :=
  [(["asciihexdigit", "ahex"], asciiHexDigit),
   (["alphabetic", "alpha"], alphabetic),
   (["bidicontrol", "bidic"], bidiControl),
   (["bidimirrored", "bidim"], bidiMirrored),
   (["caseignorable", "ci"], caseIgnorable),
   (["cased"], cased),
   (["changeswhencasefolded", "cwcf"], changesWhenCasefolded),
   (["changeswhencasemapped", "cwcm"], changesWhenCasemapped),
   (["changeswhenlowercased", "cwl"], changesWhenLowercased),
   (["changeswhentitlecased", "cwt"], changesWhenTitlecased),
   (["changeswhenuppercased", "cwu"], changesWhenUppercased),
   (["dash"], dash),
   (["defaultignorablecodepoint", "di"], defaultIgnorableCodePoint),
   (["deprecated", "dep"], deprecated),
   (["diacritic", "dia"], diacritic),
   (["emoji"], emoji),
   (["emojicomponent", "ecomp"], emojiComponent),
   (["emojimodifier", "emod"], emojiModifier),
   (["emojimodifierbase", "ebase"], emojiModifierBase),
   (["emojipresentation", "epres"], emojiPresentation),
   (["extendedpictographic", "extpict"], extendedPictographic),
   (["extender", "ext"], extender),
   (["graphemebase", "grbase"], graphemeBase),
   (["graphemeextend", "grext"], graphemeExtend),
   (["graphemelink", "grlink"], graphemeLink),
   (["hexdigit", "hex"], hexDigit),
   (["hyphen"], hyphen),
   (["idsbinaryoperator", "idsb"], idsBinaryOperator),
   (["idstrinaryoperator", "idst"], idsTrinaryOperator),
   (["idsunaryoperator", "idsu"], idsUnaryOperator),
   (["idcompatmathcontinue"], idCompatMathContinue),
   (["idcompatmathstart"], idCompatMathStart),
   (["idcontinue", "idc"], idContinue),
   (["idstart", "ids"], idStart),
   (["ideographic", "ideo"], ideographic),
   (["joincontrol", "joinc"], joinControl),
   (["logicalorderexception", "loe"], logicalOrderException),
   (["lowercase", "lower"], lowercase),
   (["math"], math),
   (["modifiercombiningmark", "mcm"], modifierCombiningMark),
   (["noncharactercodepoint", "nchar"], noncharacterCodePoint),
   (["otheralphabetic", "oalpha"], otherAlphabetic),
   (["otherdefaultignorablecodepoint", "odi"], otherDefaultIgnorableCodePoint),
   (["othergraphemeextend", "ogrext"], otherGraphemeExtend),
   (["otheridcontinue", "oidc"], otherIDContinue),
   (["otheridstart", "oids"], otherIDStart),
   (["otherlowercase", "olower"], otherLowercase),
   (["othermath", "omath"], otherMath),
   (["otheruppercase", "oupper"], otherUppercase),
   (["patternsyntax", "patsyn"], patternSyntax),
   (["patternwhitespace", "patws"], patternWhiteSpace),
   (["prependedconcatenationmark", "pcm"], prependedConcatenationMark),
   (["quotationmark", "qmark"], quotationMark),
   (["radical"], radical),
   (["regionalindicator", "ri"], regionalIndicator),
   (["sentenceterminal", "sterm"], sentenceTerminal),
   (["softdotted", "sd"], softDotted),
   (["terminalpunctuation", "term"], terminalPunctuation),
   (["unifiedideograph", "uideo"], unifiedIdeograph),
   (["uppercase", "upper"], uppercase),
   (["variationselector", "vs"], variationSelector),
   (["whitespace", "wspace", "space"], whiteSpace),
   (["xidcontinue", "xidc"], xidContinue),
   (["xidstart", "xids"], xidStart)]

/-- The characters that have the property of a name. -/
def set? (name : String) : Option CharSet :=
  (tables.find? fun entry => entry.1.contains name).map fun entry => rangeTable entry.2

end Conformance.Unicode.Binary
