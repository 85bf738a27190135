import Conformance.Unicode.Packed

/-!
# General categories

Every code point has one of thirty categories; a name stands for one category or for a group of
them. Names are written as they are compared: in lower case, without blanks, underscores and
hyphens.
-/

namespace Conformance.Unicode.Category

/-- The names of each category and group, with the classes of the run table they stand for. -/
def names : List (List String × List Nat) :=
  [(["cn", "unassigned"], [0]),
   (["lu", "uppercaseletter"], [1]),
   (["ll", "lowercaseletter"], [2]),
   (["lt", "titlecaseletter"], [3]),
   (["lm", "modifierletter"], [4]),
   (["lo", "otherletter"], [5]),
   (["mn", "nonspacingmark"], [6]),
   (["mc", "spacingmark"], [7]),
   (["me", "enclosingmark"], [8]),
   (["nd", "decimalnumber", "digit"], [9]),
   (["nl", "letternumber"], [10]),
   (["no", "othernumber"], [11]),
   (["pc", "connectorpunctuation"], [12]),
   (["pd", "dashpunctuation"], [13]),
   (["ps", "openpunctuation"], [14]),
   (["pe", "closepunctuation"], [15]),
   (["pi", "initialpunctuation"], [16]),
   (["pf", "finalpunctuation"], [17]),
   (["po", "otherpunctuation"], [18]),
   (["sm", "mathsymbol"], [19]),
   (["sc", "currencysymbol"], [20]),
   (["sk", "modifiersymbol"], [21]),
   (["so", "othersymbol"], [22]),
   (["zs", "spaceseparator"], [23]),
   (["zl", "lineseparator"], [24]),
   (["zp", "paragraphseparator"], [25]),
   (["cc", "control", "cntrl"], [26]),
   (["cf", "format"], [27]),
   (["co", "privateuse"], [29]),
   (["c", "other"], [26, 27, 29, 0]),
   (["l", "letter"], [1, 2, 3, 4, 5]),
   (["lc", "casedletter"], [1, 2, 3]),
   (["m", "mark", "combiningmark"], [6, 7, 8]),
   (["n", "number"], [9, 10, 11]),
   (["p", "punctuation", "punct"], [12, 13, 14, 15, 16, 17, 18]),
   (["s", "symbol"], [19, 20, 21, 22]),
   (["z", "separator"], [23, 24, 25])]

/-- The names of the category that holds no characters. -/
def surrogateNames : List String := ["cs", "surrogate"]

/-- The run table of the categories: unassigned is 0, and the others follow in the order of
    `names`. -/
def table : String :=
  "QVN0I2K0I2E0F0I0J0I0D0I199I1J2I11PE0I0F0L0C0L02PE0J0F0J0Qb0N0I0K3M0I0L0M050G0J0R0M0L0M0J0B1L02
  0I1L0B050H0B2I01MJ0162NJ0271020102010201020102010201020102010201020102010201020102010201020102
  0102010201020102010201020102010201020102010211020102010201020102010201020102110201020102010201
  0201020102010201020102010201020102010201020102010201020102010201020102010201120102010221120102
  0112012211320112012221120112010201020112010211020112012201020112150102253103020103020103020102
  0102010201020102010201020102110201020102010201020102010201020102110302010201220102010201020102
  0102010201020102010201020102010201020102010201020102010201020102010201020102010201020102010201
  02010261120112110201320102010201020102c4502Q4HL34BLD44L640L040LG6dF1020102040L01020014022I0100
  3L110I01200100011201G00182b2102112221020102010201020102010201020102010201020102010241020J01020
  11211bI2bF10201020102010201020102010201020102010201020102010201020102010201020M064811020102010
  2010201020102010201020102010201020102010201020102010201020102010201020102010201020102010201020
  1020112010201020102010201020102110201020102010201020102010201020102010201020102010201020102010
  2010201020102010201020102010201020102010201020102010201020102010201020102010201020102010201020
  102010201020102010201020102010201020001b50140I52b8I0D001M1K0006bCD060I061I061I060075Q0353I10AR
  5J2I1K0I1M16AI0R0I25V40596K99I351605d2I05066R0M0654161M063519952M150ID00R050605T6Q015cO6A500D9
  95b06841M0I2400160K15L6340684062406401IE005O6201I0005A045NL05500R104685b8406NR06V705bL60706050
  726773607150665961I199I0405E607100570151015L00560050025301605072630171017160500770035100526101
  9951K1B5M0K050I06001617000550351015L00560051005100510160007261036101620260065300500699615260I0
  09617000580052005L005600510054016050726400617000716001500E51610199I0K006506500607100570151015L
  00560051005401605070607063017101716006617003510052610199M050B509605000550252005302510050005102
  510252025B037160710272007260015005700D99B2M5K0M004607260570052005M005F016050627300620063066100
  520150015161019906I0B6M0506071I0570052005M0059005401605070607400607100716106710551005161019900
  51700B6171580052005b861507263007200726050M0035270B652610199B8M055006071005H025N005800500156026
  00372620060007705990171I00B5bF60516603K0554067I099I10b45100500054005N0050005960516850015400400
  066009901530V50M2IEM0I0M261M599B9M060M060M060E0F0E0F07157005b3036D7064I061546A006b300M760M500M
  1I4M3I10b45bA71637065706171615099I555716153625072517652635C60716175605070997260M11b50010041001
  2bAI040225k80053015600500053015b80053015b00053015600500053015E005bO0053015c20162I8BJ025FM9051c
  L012501D05tBM0I05GN05PE0F0025cAI2A257065H6270085I6170I1085H610B5C005200610B5bJ6170667760716AI2
  40I2K05060019905B905I5D0I362R06099055b2405bK0654615b16050045c5095U0062736172037160756203M002I1
  995T01540A5bB035P0599B002Mb15M61716001I15bK706070660060706071677569016099059905I640I5016D806F0
  bG63705bE60706470607460715700I199I6M968M8I261705T70637161706251995bB607061726070627107I35b3776
  7716102I4990252995T45I1281020041bA0112I70762I06C70665360556051706150042bB4bU2C402b14b46bV10201
  0201020102010201020102010201020102010201020102010201020102010201020102010201020102010201020102
  0102010201020102010201020102010201020102010201020102010201020102010201020102010201020102010201
  0201020102010201020102010201020102010201020102010201020102010201020102010201020102010201020102
  0102010201028102010201020102010201020102010201020102010201020102010201020102010201020102010201
  0201020102010201020102010201020102010201020102010201020102010201020102010201020102010201020102
  0102010201020102010281725011501271727172501150127001000100010001027172D01273727372737240021133
  0L020L22200211330L22301211300L22714L2012200211330L100NAR4D5I1G0H0E0G1H0E0G0I7O0P0R4N0I8G0H0I3C
  1I2J0E0F0IAJ0I0C0I9N0R400R9B04001B5J2E0F040B9J2E0F0004C02Kb00E6C8360826B0EM110M310M12012211220
  M010M1J014M510M010M010M013M02013205320M12111J41023M0J0M120M0BFAb21020A3B0M103J4M4J1M3J0M1J0M1J
  0M6J0MUJ1M1J0M0J0MUJiBM7E0F0E0F0MJJ1M6E0F0McGJ0MTJOMb7J5Mc70LMA0KBbRMcDBLMfMJ0M8J0MbLJ7MdEJ0Mh
  NE0F0E0F0E0F0E0F0E0F0E0F0E0F0BTMbBJ4E0F0JUE0F0E0F0E0F0E0F0E0F0JFMhVJe2E0F0E0F0E0F0E0F0E0F0E0F0
  E0F0E0F0E0F0E0F0E0F0JbUE0F0E0F0JVE0F0Ji1MbFJKM1J5Mb601MV00Md81bF2bF102012211020102010201320102
  1102541122010201020102010201020102010201020102010201020102010201020102010201020102010201020102
  0102010201020102010201020102010201020102010201020102010201020102010201020102010201020102010201
  0201020102010201021M51020102062102004I3B0I12b500200420015bN0640I00D605M08560056005600560056005
  600560056006VI1G0H0G0H0I2G0H0I0G0H0I8D0I1D0I0G0H0I1G0H0E0F0E0F0E0F0E0F0I440I9D1I3D0I0E0ICM1I2E
  0F0E0F0E0F0E0F0D00b1MP00McO0BMgL0PMFN0I2M04050A0E0F0E0F0E0F0E0F0E0F0M1E0F0E0F0E0F0E0F0D0E0F1M0
  A86371D044M1A24050I0M1005cL0161L14150D05cPI04250045bA005cT00M1B3M95VMb508M05FMU00B9MTB7M0BEMVB
  9Mb6BEMjV5gnVMbV5uqK405bdM02MbM085b745I15iB40I25F99510J102010201020102010201020102010201020102
  01020102010201020102010201020102010201020102010201020506082I069I040102010201020102010201020102
  0102010201020102010201020102041615c5A961I507LM48L110201020102010201020102010221020102010201020
  1020102010201020102010201020102010201020102010201020102010201020102010201020102010201020102010
  201020102010204027102010201120102010201020102040L110201020501020102210201020102010201020102010
  2010201020102014201420102010201020102010201020102013201020112001102000200020102010201020100K42
  10205041205660526053605M716170M36002B5M1K0M0055bJI307715bH7F6107I199056H55I250I05160995R67I15M
  6A710AI05S0262705bE607163716172IC00409903I1546040589954005b86571617161085260576070019901I35F40
  55M2507060705bH605062516154615060500N5140I15A706171I15041706009550155015508560056002bAL0432840
  L1032cF5b27160716071I070600199055kZ30B5M035bG03Sb-VTghV5lD015d90b5260B2404506059J05C0054005000
  510051005dBLG0F5lAF0E0MF5bV015bL06M00V5BK0M26FI6E0F0I0056FI0D1C1E0F0E0F0E0F0E0F0E0F0E0F0E0F0E0
  F0I1E0F0I3C2I200I3D0E0F0E0F0E0F0I2J0D0J200I0K0I10354005e601R000I2K0I2E0F0I0J0I0D0I199I1J2I11PE
  0I0F0L0C0L02PE0J0F0J0E0F0I0E0F0I159405bC415U025501550155015202K1J0L0M0K100M0J3M109R2M1015B005P
  005I0051005E015D0b15dQ04I203BbC02M8AbKB3MGB1M200MC02M00bEMbC600e15S025bG0E60BQ035VB3085JA057A0
  045b564045T00I05b30357I0A40b91b72b75cD0199051b3032b3035b7075bJ0AI01A001E00160011002A002E002600
  21025bJ0B5jM085L09570N45004b900480c4550150005bB00510250015M00I0B75MM1B65U07B80bF5I005104B45LB5
  02I05P04I00bV5bN03B151BF01BbD506200610463530052005S01620360B806I8065SB1I05SB20V57M05R6103B4I60
  85bL02I65L01B75I04B75H06I30BB60cF5c80bM1bI0C2bI06B55b363079905995340501L0264D0402L07J10gFBU005
  b90061D001510F520bM635SB950075L6AB3I40L5H63I30b55KB60J5M087060705bK6EI603BJ99605161500862705bC
  72637161I1R0I36009R0015O069905625b36470670099I3507150075b260I1500861705bF72687153I363I07060995
  0I050I200BJ0A5H005O726271607061I56051600bT5600500053005E0059I0055bE607267049905617100570151015
  L0056005100540061507160730171017201500570045471016602640A5900500150005b50050726500700170007300
  71607060506050I100I107610S5bK72677162706053I499I100I060520T5bF726570607361706151I05007990f55bE
  72630173617061IM53610b15bF726771607061I2500A9905IC0I5bA6070607165706050I00599059J0R5Q016070607
  16370640399B1I2M0560fO5bB72687061I00d31V2V99B80B57015001570051005N750071016170605070507060I208
  990c557015b672630161736050I050700Q50695b765705063I76007506571625bD6C7061I250I40C5c806I90fL5b0I
  00D990558005b470660065706050I40999BI02I15T016L007066706170610c8560051005b565026000610066506007
  9905550051005V74006100716070605006990jL5I6171I1066150705C005b171640271607060IC99600cK500EBKM7K
  3MG0CI05YP0d5AdE00I40A5g30csB5d0I10C5bbFRF60556E095dYQ045s60gvO5T6B7262990bw55rO065U009903I15c
  E0099055T0164I0095bF66I4M343I0M0099900B6005K045I0nF425b741I2990g51V2VBMI30d45cA0360507bM06634C
  0bV41I040600A710D5f-N075bgL0b8590ix64300460041005j20E500S5201500D53075mB0ci35dA045C0258065901M
  061I0R30dWRMhF9905MnJ0cB6bD016M08MdJ0bRMhL09Mb601MbR7162M275R767M166MT63MbS0KMc162M00dPBJ0BBJ0
  BMcM08BO0e61P2P1P26002H1P2P10001101100111011300172300200026002A1P2P11001301170016002P110013001
  400100216002P1P2P1P2P1P2P1P2P1P2P1P2R011OJ02OJ0251OJ02OJ0251OJ02OJ0251OJ02OJ0251OJ02OJ02510200
  19bHMpV6bMM36bHM760MD60M1I40E64006E0bcF29502J05250gK66006G016600610064044bT0b0600dF5bC02664601
  990350M00jV5T600G5bB639904K00oF5Q4063990gL5T61509903I00oV5600530051005E005g401B8660b81b12b1664
  0039903I10yGBbQM0B2K0B30cBBbCM0BE0g153005Q0051005001500059005300500050055003500050005000520051
  00500150005000500050005000510050015300560053005300500059005G04520054005G0bJJ10iDMbB03Md30BME01
  ME00ME00Mb409BCMf00bNMS0CMbB03M806M10DM50ePMhQL4MwN03MG02MC02MdM03McU05MB03M00EMB03MbN07M905Mb
  707MT01MB03M10bTMkJ0BMD01MC02M904MbN06ME01MA05M806MeI00McR990ba55bjwV0V5ebP055gT015fu10D5hjG0E
  5tD0cn15qT0bp15eWA045ecV0vxcGR00TRcV0dV6hF0b-qFTb--T01Tb--T01"

/-- The characters of the given classes. -/
def ofClasses (classes : List Nat) : CharSet := runTable table fun k => classes.contains k

/-- The decimal digits. -/
def decimalNumber : CharSet := ofClasses [9]

/-- The numeric characters: decimal digits, letter numbers and the other numbers. -/
def number : CharSet := ofClasses [9, 10, 11]

end Conformance.Unicode.Category
