import Conformance.Unicode.Packed

/-!
# Segmentation properties

The classes that text is cut by: at grapheme clusters, at words and at sentences.
-/

namespace Conformance.Unicode.Segmentation

/-- The names of the values of the grapheme cluster break, by class. Class 0 stands for all other characters. -/
def graphemeNames : List (List String) :=
  [["xx", "other"], ["cn", "control"], ["cr"], ["eb", "ebase"], ["ebg", "ebasegaz"], ["em",
   "emodifier"], ["ex", "extend"], ["gaz", "glueafterzwj"], ["l"], ["lf"], ["lv"], ["lvt"], ["pp",
   "prepend"], ["ri", "regionalindicator"], ["sm", "spacingmark"], ["t"], ["v"], ["zwj"]]

/-- The run table of the grapheme cluster break. -/
def graphemeTable : String :=
  "199011201H0cU1b00C100sH6dF0iI660i66bC00600061006100600bNC5096A00100bD6K0F600d466C0006501610063
  0b0C000600T6Q0cQ6A0bP6808600N630068006200640bA620bJC104680b96NC06VE00bL60E06000E267E360E100660
  9610S60E10bN600060E16301E101E160086009610P600161E00bN6000E2610361016202600T6102600A61E00bN6000
  E2640061E000E1600J610L650060E10bN600061E06301E101E160066209610T600bQ60E060E102E200E26008600b76
  0E2600bM600062E30062006306610A610S60E10bN6000E061E060E10062006306610A610EE00B61E10bM610060E163
  00E200E260C0076009610S60E10c5600360E162006000E6600HE10bS6000E0660B670d16000E0680A660c8610Q6000
  60006003E10bG6DE0640061046A006b308600d563E0650061E1610ME16103620F630C6000E06105600E600d18cVGc7
  FcN0kS620ZH630R620S610T610bV61E066E760E16A08600bC6210600dK610b1600dL62E361E203E160E5620gQ61E16
  00bOE060E066006000600167E56901600bF6U0bG63E00bE69E3620b5680B61E00TE063E1650bN60E061E260E0640bF
  E767E1610eN62006CE0660360056001E0610g56bV0qA1060H0110N160bG1F0cV6b00c-T620eC600cV6V0r9650d8610
  ZoJ6300690V610cF610iF60026003600ME161E003600cIE10bHEF610P6H0C600b5670O6AE0600B8S0262E00bE60E16
  3E161E1600b3600c265E161E1610B600760E00bD600bI6000620161046100600b8E061E104E0600hBE160E160E100E
  0600HA0BQA0BQA0BQA0BQA0BQA0BQA0BQA0BQA0BQA0BQA0BQA0BQA0BQA0BQA0BQA0BQA0BQA0BQA0BQA0BQA0BQA0BQA
  0BQA0BQA0BQA0BQA0BQA0BQA0BQA0BQA0BQA0BQA0BQA0BQA0BQA0BQA0BQA0BQA0BQA0BQA0BQA0BQA0BQA0BQA0BQA0B
  QA0BQA0BQA0BQA0BQA0BQA0BQA0BQA0BQA0BQA0BQA0BQA0BQA0BQA0BQA0BQA0BQA0BQA0BQA0BQA0BQA0BQA0BQA0BQA
  0BQA0BQA0BQA0BQA0BQA0BQA0BQA0BQA0BQA0BQA0BQA0BQA0BQA0BQA0BQA0BQA0BQA0BQA0BQA0BQA0BQA0BQA0BQA0B
  QA0BQA0BQA0BQA0BQA0BQA0BQA0BQA0BQA0BQA0BQA0BQA0BQA0BQA0BQA0BQA0BQA0BQA0BQA0BQA0BQA0BQA0BQA0BQA
  0BQA0BQA0BQA0BQA0BQA0BQA0BQA0BQA0BQA0BQA0BQA0BQA0BQA0BQA0BQA0BQA0BQA0BQA0BQA0BQA0BQA0BQA0BQA0B
  QA0BQA0BQA0BQA0BQA0BQA0BQA0BQA0BQA0BQA0BQA0BQA0BQA0BQA0BQA0BQA0BQA0BQA0BQA0BQA0BQA0BQA0BQA0BQA
  0BQA0BQA0BQA0BQA0BQA0BQA0BQA0BQA0BQA0BQA0BQA0BQA0BQA0BQA0BQA0BQA0BQA0BQA0BQA0BQA0BQA0BQA0BQA0B
  QA0BQA0BQA0BQA0BQA0BQA0BQA0BQA0BQA0BQA0BQA0BQA0BQA0BQA0BQA0BQA0BQA0BQA0BQA0BQA0BQA0BQA0BQA0BQA
  0BQA0BQA0BQA0BQA0BQA0BQA0BQA0BQA0BQA0BQA0BQA0BQA0BQA0BQA0BQA0BQA0BQA0BQA0BQA0BQA0BQA0BQA0BQA0B
  QA0BQA0BQA0BQA0BQA0BQA0BQA0BQA0BQA0BQA0BQA0BQA0BQA0BQA0BQA0BQA0BQA0BQA0BQA0BQA0BQA0BQA0BQA0BQA
  0BQA0BQA0BQA0BQA0BQA0BQA0BQA0BQA0BQA0BQA0BQA0BQA0BQA0BQA0BQA0BQA0BQA0BQA0BQA0BQA0BQA0BQA0BQA0B
  QA0BQA0BQA0BQA0BQA0BQA0BQA0BQA0BQA0BQA0BQA0BQA0BQA0BQA0BQA0BQA0BQA0BQA0BQA0BQA0BQA0BQA0BQA0BQA
  0BQA0BQA0BQA0BQA0BQA0BQA0BQA0BQA0BQA0BQA0BQA0BQA0BQA0BQA0BQA0BQA0BQA0BQA0BQA0BQA0BQA0BQA0BQA0B
  QA0BQA0BQA0BQA0BQA0BQA0BQA0BQA0BQA0BQA0BQA0BQA0BQA0BQA0BQA0BQA0BQA0BQA0BQA0BQA0BQA0BQA0BQA0BQA
  0BQA0BQA0BQA0BQA0BQA0BQA0BQA0BQA0BQA0BQA0BQA0BQA0BQA0BQA0BQA0BQA0BQA0BQA0BQA0BQA0BQA0BQA0BQA0B
  QA0BQA0BQA0BQA0BQA0BQA0BQA0BQA0BQA0BQA0BQA0BQA0BQA0BQA0BQA0BQA0BQA0BQA0BQA0BQA0BQA0BQA0BQA0BQA
  0BQ0BGM03FbG031b-V0gyT600x06F0F6F0gE100eT610cF1B0q0600h1600eK640bu562006104630b76203600f4610rS
  630c0640jS610cE630c56A0bG630dPE060E00bK6E0b86001610962E00bCE263E16101C0036009C00bH620b364E0670
  FE10bB600B61E00bFE268E06000C1046300E0600cRE262E163056001600eS60E2670K61E10bM610060E060E301E101
  E160086009E1016602640c260E165006001600062E000E162C0600D610cHE267E162E0600M600cG60E165E060E160E
  061E0610hA60E16301E361E0610Q610cHE267E160E0610d960E060E1670d460E0600163E0640hVE268E0610hK60E40
  0E10163C0E0C0E0600eCE2630161E36002E00R690b765E0C06307600865E1620b7C56CE0610mKE0660065E0600cH6L
  00E066E061E0610dP65026000610066C0600c1E4006100E160E0600kQ61E10861C0E00bFE16402E1620M600fgK1F60
  056E0lg76BE2620cnV640bQ660rBG002G30p36000EbM06630cG600A610tfA6100130esR6bD016M0qT6402651767016
  60T630eJ620bZQ6bM036bH07600D600L64006E0bkF66006G0166006100640d3600eV660lM600bS630pR630hT610wV6
  60dC660ceQDP0pQ640yc-V1V6cV1dV6hF1dqF0fX-V"

/-- The names of the values of the word break, by class. Class 0 stands for all other characters. -/
def wordNames : List (List String) :=
  [["xx", "other"], ["cr"], ["dq", "doublequote"], ["eb", "ebase"], ["ebg", "ebasegaz"], ["em",
   "emodifier"], ["ex", "extendnumlet"], ["extend"], ["fo", "format"], ["gaz", "glueafterzwj"],
   ["hl", "hebrewletter"], ["ka", "katakana"], ["le", "aletter"], ["lf"], ["mb", "midnumlet"],
   ["ml", "midletter"], ["mn", "midnum"], ["nl", "newline"], ["nu", "numeric"], ["ri",
   "regionalindicator"], ["sq", "singlequote"], ["wsegspace"], ["zwj"]]

/-- The run table of the word break. -/
def wordTable : String :=
  "09D0H1100HL0002003K003G000E000I9F0G004CP036000CP09H00b3C0018006C000F001C004CM00CU00CoV05Cb17dF
  C400C101C3G0C005C0F0C200C000CJ00CcI00CeA0076Cf500Cb501C300C0F0Cb8G0C0057bC007000710071007007AQ
  03A3C0F00AI505G1017A008002CbA7KI900I0G000C170Cd200C076I00075C1710073C1I9C201C00EC170CT7Q01CcO7
  AC00DI9Cb078C101G000C0017001CL73C078C072C0740HCO7203CA04CN00C500I10478Cb97NI07b0CbL72C07HC076C
  97101I900CF7200C701C101CL00C600C002C30170C07601710172C0077003C100C27101I9C109C00070017200C503C
  101CL00C600C100C100C10170007403710172027006C300C006I971C2700A7200C800C200CL00C600C100C40170C07
  70072007201C00EC17101I908C075007200C701C101CL00C600C100C40170C07601710172067203C100C27101I900C
  00F70C000C502C200C302C100C000C102C102C202CB03740272007301C005700DI90F74C700C200CM00CF0170C0760
  0720073067100C201C001C17101I90FC07200C700C200CM00C900C40170C07600720073067105C100C17101I900C17
  00B73C800C200Cb871C07600720073C004C27006C27101I909C5007200CH02CN00C800C001C6027003750070007705
  I901710bS7001760B7700I90cM7001780A7600I90b5C00M7105I90A70007000700371C700Cb3037J0071C47A007b30
  8700d37J00I90B7303720072017602730C7B0070I97301Cb500C004C001CbA00CkC00C301C600C000C301Cb800C301
  Cb000C301C600C000C301CE00CbO00C301Cc201720VCF0FCcL01C502CtB01CGL0CP04CcA02CA06CH7308CI720ACH71
  0BCC00C200710bV7V087001I90b0728070I905CcO06C471Cb170C004Cc509CU007B037B09I90dVIA0b4CM740bO7900
  7S0170I905I90L7U0bG74CbE7GC702I90G780B72CT7CC1I9CbB7D0BCb37J07I902C2I9Cb301CA04CbA01C20F72007K
  C370C570C172C004CfV7bVCiL01C501Cb501C501C700C000C000C000CU01CbK00C600C002C200C602C301C503CC04C
  200C602L600L20070M08107E109E001F0H184600E6102G00E6009L084008900C00CC00FCC0bI7b00GC003C001C900C
  002C405C000C000C000C300CA01C304C403C00GCb80zCCbJ0byLCh405C372C10BCb500C004C001CbN06C00E70CM08C
  600C600C600C600C600C600C600C6007V0bEC00oFL003C00b37500B404C10cR71B102BcQ00B304CbA00CcT0GCV0bFB
  F0gFBbE00BcN0Xf7CbeC0c2CbD01CiC02CFI9C10JCbE73007900CU71CcF710LCg501C100C000C70KCF70C270C370CM
  7403700ICbJ0B71CbH7H09I9057HC502C000C170I9CR7701CM7C0BCS0273CbE7D0DC0I90A7009I905Cb87D08C270C7
  7101I90b0720bH7000720171047100700TCA7401C27109C501C501C508C600C600CbP05CdI77007101I905CkZ30BCM
  03CbG0iy3C60BC404A070A900AC00A400A000A100A100A9Cd10b0ClA0HCbV01CbL0b7CB037F02F00B7F02610N62G00
  0E000G0F00PC400Ce6018006E003G000E000I9F0G004CP036000CP0ABbN71CU02C501C501C501C20R8203CB00CP00C
  I00C100CE01CD0b1CdQ0c4CbK0e7700e1CS02CbG0E700UCV0CCT04Cb57404CT01Cb303C700C40b9CeT01I905Cb303C
  b303Cb707CbJ0BCA00CE00C600C100CA00CE00C600C102CbJ0BCjM08CL09C70NC500Cb900C80c4C501C000CbB00C10
  2C001CM09CM08CU0c0CI00C109CL09CP0c5CbN05C10bVC07200710473C300C200CS017203700VCS02CS0b2C700CR71
  0OCbL09CL09CI0CCH0dDCc80bMCbI0CCbI0CCb37307I905I9CR027400CM0hPCb9007102C10FC20bM73CS09C007CL7A
  0UCH730b9CK0QCM0872CbK7E0UI970C171C00873CbC7A01I0037009I001CO06I90572Cb37D00I903C071C007Cb2700
  1C00872CbF7DC303730071I9C000C00b2CH00CO7B0570C1700bTC600C000C300CE00C906CbE7B04I9057300C701C10
  1CL00C600C100C40071C0760171017201C0057004C471017602740AC900C001C000Cb500C0780070017000730074C0
  70C00C710SCbK7HC304I90370C20TCbF7JC100C007I90f5CbE7601780MC3710b1CbF7G02C00AI90b5CbA7CC006I905
  IJ0bO7E03I90g5CbB7E0d4CbVI90KC701C001C700C100CN7500710173C070C0710BI90c5C701Cb6760176C000C0700
  QC079Cb776C073077007C07ACbD7F02C00HCc80g6Cb00EI905C800Cb4770077C00EI90NCT017L007D0c8C600C100Cb
  575027000710076C07007I905C500C100CV7400710074C006I90jLCI730871C070CC00Cb17602740CI9700cKC00cEC
  YP0d5CdE0GCg30csBCd00ECbbF8F70C57E09CdYQ04Cs60gvOCT7HI90bw5CrO06CU00I905CcE00I905CT01740ACbF76
  08C30BI908CK04CI0nFCbC02I90g5CbV0dVCcA0370C07bM0673CC0bVC100C0700A710p-TB300B600B100B00iUB20bH
  B00DB30cuNCdA04CC02C806C9027100830ecBI90q57bD017M0qT740275877701760T730eJ720nQCcK00Cc600C101C0
  01C101C300CB00C000C600Cc000C301C700C600CR00C300C400C002C600CkJ01CO00CO00CU00CO00CU00CO00CU00CO
  00CU00CO00C701IbH0pV7bM037bH07700D700L74007E0bcFCU05C50gK76007G01760071007404CbT0b0700dFCbC027
  6C601I903C00k0CT700GCbB73I90oLCR73I90gLCT71C0I90p4C600C300C100CE00Cg40A760b8Cc376C003I90bf5C30
  0CQ00C100C001C000C900C300C000C005C003C000C000C000C200C100C001C000C000C000C000C000C100C001C300C
  600C300C300C000C900CG04C200C400CG0tJCP05CP05CP0cRJP0pQ740b-FI90yba6800T7cV0dV7hF0f-qF"

/-- The names of the values of the sentence break, by class. Class 0 stands for all other characters. -/
def sentenceNames : List (List String) :=
  [["xx", "other"], ["at", "aterm"], ["cl", "close"], ["cr"], ["ex", "extend"], ["fo", "format"],
   ["le", "oletter"], ["lf"], ["lo", "lower"], ["nu", "numeric"], ["sc", "scontinue"], ["se",
   "sep"], ["sp"], ["st", "sterm"], ["up", "upper"]]

/-- The run table of the sentence break. -/
def sentenceTable : String :=
  "08C070C1300HC0D020032201A1100099A102D000EP200020028P20002006B00PC00880200050068003802003EM00E6
  8N0087E080E080E080E080E080E080E080E080E080E080E080E080E080E080E080E080E080E080E080E080E080E080
  E080E080E080E080E080E081E080E080E080E080E080E080E080E081E080E080E080E080E080E080E080E080E080E0
  80E080E080E080E080E080E080E080E080E080E080E080E080E080E180E080E082E180E080E180E281E380E180E282
  E180E180E080E080E180E081E080E180E280E080E18160E08263E180E180E180E080E080E080E080E080E080E080E0
  81E080E080E080E080E080E080E080E080E081E180E080E280E080E080E080E080E080E080E080E080E080E080E080
  E080E080E080E080E080E080E080E080E080E080E080E080E080E080E080E080E080E086E180E181E080E380E080E0
  80E080E08c4608b36681036B0D84066000600G4dFE080E0806000E0800183A0E005E000E200E000E180EG00E88b2E0
  81E282E080E080E080E080E080E080E080E080E080E080E080E084E08000E080E181EbI8bFE080E080E080E080E080
  E080E080E080E080E080E080E080E080E080E080E080E0800046E080E080E080E080E080E080E080E080E080E080E0
  80E080E080E080E080E080E080E080E080E080E080E080E080E080E080E080E080E180E080E080E080E080E080E081
  E080E080E080E080E080E080E080E080E080E080E080E080E080E080E080E080E080E080E080E080E080E080E080E0
  80E080E080E080E080E080E080E080E080E080E080E080E080E080E080E080E080E080E080E080E080E080E080E080
  E08000Eb5016002A0018b8D0064bC0040004100410040076Q03640B9505A1014A0050D26bA4K9900910061406d2D06
  046900045614100436199620160D20B5060406T4Q016cO4A600D996b0486101A0D0600140016L4360486042604408D
  000D002D1006O42036A046N0065009104486b94N904b06bL42604H60466941D199006F4200670161016L0066006002
  630140604601410142600740036100624101996109600040014200650361016L006600610061006101400044034101
  4202400663006006994162400A4200680062006L006600610064014060470042004201600E61410199086045004200
  670161016L006600610064014060460141014206420361006241019900600F40600065026200630261006000610261
  0262026B034402420043016005400D990F44670062006M006F014060460042004306410062016001614101990F6042
  00670062006M0069006401406046004200430641056100614101990061400B43680062006b84160460042004360046
  240066241019909650042006H026N0068006001660240034500400047059901410C6bF40614604664700990b661006
  00064006N0060006940614860016400600046009901630V600M4105990A4000400040234167006b3034J0041644A00
  4b308400bO6bA4J6099D103654363426042614662436C4B6040994301Eb500E004E0016bA00806kB00630166006000
  63016b80063016b00063016600600063016E006bO0063016c2014201D003D10M6F0FEcL0185026tB00D06GC06P2102
  6cA026A066H43086I42D1086H410B6C006200410B6bJ4VD1006003604001990NA0D003A0D00042504099056cO06644
  16b14060046c5096U004B034B07D1996T01640A6bB036P059A0b46M44036bK49004S01409905990C60D3034U0bG446
  bE4G6700D199D101D10A4808D2426T4C61996bB4D0B6b34J02D102990262996b3D188E080046bA01620F42004K6340
  6540614260048fV4bVE080E080E080E080E080E080E080E080E080E080E080E080E080E080E080E080E080E080E080
  E080E080E080E080E080E080E080E080E080E080E080E080E080E080E080E080E080E080E080E080E080E080E080E0
  80E080E080E080E080E080E080E080E080E080E080E080E080E080E080E080E080E080E080E080E080E080E080E080
  E080E080E080E080E080E080E080E080E088E080E080E080E080E080E080E080E080E080E080E080E080E080E080E0
  80E080E080E080E080E080E080E080E080E080E080E080E080E080E080E080E080E080E080E080E080E080E080E080
  E080E080E080E080E080E080E080E080E080E080E088E78501E50187E787E78501E5018700E000E000E000E087E78D
  0187E787E787E7840081E4008002820081E402830181E30387E404820081E402CA50415102A10227031002B154C008
  2100D10621D20KC054005900800A21800C21008C0bI4b00GE003E00180E281E28000E002E405E000E000E000E30080
  E38063800181E104E08303800GEF8F62E080630lU230S210mAEP8P0tG25062D0cE210U290mI2L0bU230V210q1EbF8b
  FE080E281E080E080E080E380E081E087E280E080E080E080E080E080E080E080E080E080E080E080E080E080E080E
  080E080E080E080E080E080E080E080E080E080E080E080E080E080E080E080E080E080E080E080E080E080E080E08
  0E080E080E080E080E080E080E080E080E080E080E08105E080E08042E08004D2038b500800480016bN06600E406M0
  8660066006600660066006600660066004V2D0D21012903D0600BD004200FD1270n2C0A0D001622901270022006845
  00640164036cL01410162006cP0063046bA006cT0G6V0bF6F0pV6gnV0bV6vuC0c26bD00D06iC00D16F99610JE080E0
  80E080E080E080E080E080E080E080E080E080E080E080E080E080E080E080E080E080E080E080E080E08060430049
  0060E080E080E080E080E080E080E080E080E080E080E080E080E080E082416cF4100D002D00U6801E080E080E080E
  080E080E080E082E080E080E080E080E080E080E080E080E080E080E080E080E080E080E080E080E080E080E080E08
  0E080E080E080E080E080E080E080E080E080E080E089E080E080E180E080E080E080E0806001E080E08060E080E08
  2E080E080E080E080E080E080E080E080E080E080E480E480E080E080E080E080E080E080E080E380E080E18001E08
  000800080E080E080E080E00K82E08060826640624063406M4403400I6bJ01D107416bH4H07D199054H65026000614
  0996R4700D06M4C0B6S02436bE4D06D1046099056440699964006b84D0862406741019902D26M0260426bH40604261
  4164416040600N62016A44D1624109650165016508660066008bA008D058cF6b247D0410199056kZ30B6M036bG0ii3
  6lD016d90b5860B8404604069006C0064006000610061006dB0b06lA210F6bV016bL0b76B034FA1D0A1D121064F00A
  1012F012106A11000A1D1A02503A00B64006e6015000D0052101A1100099A102D000EP200020028P2000200021D021
  A0006bN416U02650165016501620R52036B006P006I0061006E016D0b16dQ0c46bK0e7400e16S026bG0E400U6V0C6T
  046b544046T016b3036700640b9Eb78b76cD019905Eb3038b3036b7076bJ0BEA00EE00E600E1008A008E0086008102
  6bJ0B6jM086L09670N806182008b900880c4650160006bB00610260016M096M086U0c06I0061096L096P0c56bN0561
  0bV604200410443630062006S014203400LD1076S026S0b267006R410O6bL096L096I0C6H0dD6c80bMEbI0C8bI0C6b
  3430799059965EL024400608L0hP6b9004102610F620bM436S0960076L4A03D40L6H43D30b56K0Q6M08426bK4ED10S
  994061416008436bC4A0190D3400990016O069905426b34D009900D2604160076b240016008426bF4D63D10143D041
  9960006000D10V6H006O4BD100D1004061400bT6600600063006E0069D0056bE4B0499054300670161016L00660061
  0064004160460141014201600540046441014602440A6900600160006b50060480040014000430044604060D10A410
  S6bK4H63D102990340620T6bF4J61006007990f56bE46014800D104DE63410b16bF4GD100600A990b56bA4C6006990
  59J0R6Q014E039901D200660fO6bB4E0d4EV8V990K67016001670061006N450041014360406041D000D008990c5670
  16b6460146600060400Q60496b746604302D1024007604A6bD4F00D1600H6c80g66b00E990568006b447004760D10C
  990N6T014L004D0c8660061006b5450240004100466040079905650061006V44004100446006990jL6I43D10641604
  06C006b1460244D10A99400cK600cE6YP0d56dE0G6g30csB6d00E6bbF5F40654E096dYQ046s60gvO6T4H990bw56rO0
  66U009903D16cE0099056T0144D0096bF46D10663D00A99086K046I0nF6bC00D1990g5EV8V0ND00d66cA0340604bM0
  6436C0bV610060400A410D6f-N076bgL0b8690ix66300660061006j20E600S6201600D63076mB0ci36dA046C026806
  690241D0530ecB990q54bD014M0qT440245574701460T430eJ420nQEP8PEP86008HEP8PE000E101E001E101E300E78
  300800086008AEP8PE100E301E700E6008PE100E300E400E002E6008PEP8PEP8PEP8PEP8PEP8PEP8R01EO008O0085E
  O008O0085EO008O0085EO008O0085EO008O0085E080019bH0pV4bM034bH07400D4002D00H44004E0bcF89608J05850
  gK46004G014600410044048bT0b0400dF6bC024666019903600k06T400G6bB43990oL6R43990gL6T4160990p466006
  30061006E006g40A460b8Eb18b1466003990bf563006Q0061006001600069006300600060056003600060006000620
  06100600160006000600060006000610060016300660063006300600069006G04620064006G0tJEP05EP05EP0bhB22
  0blM990ba56bjwV0V6ebP056gT016fu10D6hjG0E6tD0cn16qT0bp16eWA046ecV0vxcG500T4cV0dV4hF0f-qF"

/-- The characters with the named value, given the names and the table of a property. Class 0 has
    no set of its own. -/
def set? (names : List (List String)) (table : String) (name : String) : Option CharSet :=
  match names.findIdx? (·.contains name) with
  | some (k + 1) =>
    let s := runTable table (· == k + 1)
    if s.ranges.isEmpty then none else some s
  | _ => none

end Conformance.Unicode.Segmentation
