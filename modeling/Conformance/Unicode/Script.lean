import Conformance.Unicode.Packed

/-!
# Scripts

The script of every code point, and the scripts that share a character.
-/

namespace Conformance.Unicode.Script

/-- The names of the scripts, by their class in the run table. Class 0 is the unknown script. -/
def names : List (List String) :=
  [["zzzz", "unknown"], ["adlm", "adlam"], ["ahom"], ["hluw", "anatolianhieroglyphs"], ["arab",
   "arabic"], ["armn", "armenian"], ["avst", "avestan"], ["bali", "balinese"], ["bamu", "bamum"],
   ["bass", "bassavah"], ["batk", "batak"], ["beng", "bengali"], ["bhks", "bhaiksuki"], ["bopo",
   "bopomofo"], ["brah", "brahmi"], ["brai", "braille"], ["bugi", "buginese"], ["buhd", "buhid"],
   ["cans", "canadianaboriginal"], ["cari", "carian"], ["aghb", "caucasianalbanian"], ["cakm",
   "chakma"], ["cham"], ["cher", "cherokee"], ["chrs", "chorasmian"], ["zyyy", "common"], ["copt",
   "coptic", "qaac"], ["xsux", "cuneiform"], ["cprt", "cypriot"], ["cpmn", "cyprominoan"], ["cyrl",
   "cyrillic"], ["dsrt", "deseret"], ["deva", "devanagari"], ["diak", "divesakuru"], ["dogr",
   "dogra"], ["dupl", "duployan"], ["egyp", "egyptianhieroglyphs"], ["elba", "elbasan"], ["elym",
   "elymaic"], ["ethi", "ethiopic"], ["gara", "garay"], ["geor", "georgian"], ["glag",
   "glagolitic"], ["goth", "gothic"], ["gran", "grantha"], ["grek", "greek"], ["gujr", "gujarati"],
   ["gong", "gunjalagondi"], ["guru", "gurmukhi"], ["gukh", "gurungkhema"], ["hani", "han"],
   ["hang", "hangul"], ["rohg", "hanifirohingya"], ["hano", "hanunoo"], ["hatr", "hatran"], ["hebr",
   "hebrew"], ["hira", "hiragana"], ["armi", "imperialaramaic"], ["zinh", "inherited", "qaai"],
   ["phli", "inscriptionalpahlavi"], ["prti", "inscriptionalparthian"], ["java", "javanese"],
   ["kthi", "kaithi"], ["knda", "kannada"], ["kana", "katakana"], ["kawi"], ["kali", "kayahli"],
   ["khar", "kharoshthi"], ["kits", "khitansmallscript"], ["khmr", "khmer"], ["khoj", "khojki"],
   ["sind", "khudawadi"], ["krai", "kiratrai"], ["laoo", "lao"], ["latn", "latin"], ["lepc",
   "lepcha"], ["limb", "limbu"], ["lina", "lineara"], ["linb", "linearb"], ["lisu"], ["lyci",
   "lycian"], ["lydi", "lydian"], ["mahj", "mahajani"], ["maka", "makasar"], ["mlym", "malayalam"],
   ["mand", "mandaic"], ["mani", "manichaean"], ["marc", "marchen"], ["gonm", "masaramgondi"],
   ["medf", "medefaidrin"], ["mtei", "meeteimayek"], ["mend", "mendekikakui"], ["merc",
   "meroiticcursive"], ["mero", "meroitichieroglyphs"], ["plrd", "miao"], ["modi"], ["mong",
   "mongolian"], ["mroo", "mro"], ["mult", "multani"], ["mymr", "myanmar"], ["nbat", "nabataean"],
   ["nagm", "nagmundari"], ["nand", "nandinagari"], ["talu", "newtailue"], ["newa"], ["nkoo",
   "nko"], ["nshu", "nushu"], ["hmnp", "nyiakengpuachuehmong"], ["ogam", "ogham"], ["olck",
   "olchiki"], ["onao", "olonal"], ["hung", "oldhungarian"], ["ital", "olditalic"], ["narb",
   "oldnortharabian"], ["perm", "oldpermic"], ["xpeo", "oldpersian"], ["sogo", "oldsogdian"],
   ["sarb", "oldsoutharabian"], ["orkh", "oldturkic"], ["ougr", "olduyghur"], ["orya", "oriya"],
   ["osge", "osage"], ["osma", "osmanya"], ["hmng", "pahawhhmong"], ["palm", "palmyrene"], ["pauc",
   "paucinhau"], ["phag", "phagspa"], ["phnx", "phoenician"], ["phlp", "psalterpahlavi"], ["rjng",
   "rejang"], ["runr", "runic"], ["samr", "samaritan"], ["saur", "saurashtra"], ["shrd", "sharada"],
   ["shaw", "shavian"], ["sidd", "siddham"], ["sgnw", "signwriting"], ["sinh", "sinhala"], ["sogd",
   "sogdian"], ["sora", "sorasompeng"], ["soyo", "soyombo"], ["sund", "sundanese"], ["sunu",
   "sunuwar"], ["sylo", "sylotinagri"], ["syrc", "syriac"], ["tglg", "tagalog"], ["tagb",
   "tagbanwa"], ["tale", "taile"], ["lana", "taitham"], ["tavt", "taiviet"], ["takr", "takri"],
   ["taml", "tamil"], ["tnsa", "tangsa"], ["tang", "tangut"], ["telu", "telugu"], ["thaa",
   "thaana"], ["thai"], ["tibt", "tibetan"], ["tfng", "tifinagh"], ["tirh", "tirhuta"], ["todr",
   "todhri"], ["toto"], ["tutg", "tulutigalari"], ["ugar", "ugaritic"], ["vaii", "vai"], ["vith",
   "vithkuqi"], ["wcho", "wancho"], ["wara", "warangciti"], ["yezi", "yezidi"], ["yiii", "yi"],
   ["zanb", "zanabazarsquare"], ["hrkt", "katakanaorhiragana"]]

/-- The run table of the scripts. -/
def table : String :=
  "Pc0cAPP5cAPPbEcA0PEcA0P4cAMP0cAUP0cAo0Pb6cA4P4D1PJbQdFbD3P0bD201bD3P0bD003bD0P0bD0P0bD200bD000
  bDJ00bDbUQDbDFUe4bQ1Uf8005b5015bH015200bNbM07bNQ03bN50A44P045P04DP042P04VP049bQA4PbQ04dBP04b1e
  GD00eGbR01eG24bFeRbH0Dd9bQ01d92e3bD01e3E00cLR01cL000eGA044U0041044cAP04Sb0cGbQ3b0EP1b0PB300B70
  1B101BL00B600B002B301B801B101B307B003B100B401BO01bG200bG503bG101bGL00bG600bG100bG100bG101bG000
  bG403bG101bG202bG006bG300bG006bGG09bE200bE800bE200bEL00bE600bE100bE401bE900bE200bE201bE00EbE30
  1bEB06bE600dO200dO701dO101dOL00dO600dO100dO401dO801dO101dO206dO203dO100dO401dOH09eN100eN502eN2
  00eN302eN100eN000eN102eN102eN202eNB03eN402eN200eN301eN005eN00DeNK04eQC00eQ200eQM00eQF01eQ800eQ
  200eQ306eQ100eQ201eQ001eQ301eQ906eQ8bVC00bV200bVM00bV900bV401bV800bV200bV306bV105bV100bV301bV9
  00bV20BcKC00cK200cKbI00cK200cK503cKF01cKP00e9200e9H02e9N00e9800e9001e9602e9003e9500e9000e9705e
  9901e920BeSbP03P0eSR0b4c9100c9000c9400c9N00c9000c9M01c9400c9000c9600c9901c930VeTc700eTb303eTb6
  00eTb300eTE00eT6P3eT10b4d3eVb9b500b9004b9001b9bAP0b93bJhVb7c800b7301b7600b7000b7301b7b800b7301
  b7b000b7301b7600b7000b7301b7E00b7bO00b7301b7c201b7V02b7P05NcL01N501ItVdCS02e2cAP2e2A06eHL08eH0
  bLKP108HJ0BeIC00eI200eI10Bc5cT01c5905c5905d01P1d00P0d0J05d0cO06d0bA04Ic509cCU00cCB03cCB03cC002
  cCBeJT01eJ40Ad7bB03d7P05d7A02d71c5VGR01G1eKbU00eKS01eKA05eK905eKD01bQU0bG7cC007bHeDbVAbJ07A3cB
  bN02cBE02cB2dDbFUA04b9bA01b92eD707bQ2P0bQCP0bQ6P3bQ0P5bQ0P2bQ1P004cAb5bD4U0cAbGbD4cA3bD4cACU0c
  Ac5bD0bQbVcAhVbDL01bD501bDb501bD501bD700bD000bD000bD000bDU01bDbK00bDE00bDD01bD500bDI01bD200bD8
  00PBbQ1PcM00PAcA001PAcA0PE00cAC02Pb00EbQb00EPb5bD0P2cA1P5cA0PQcA0PGcAb8P203PuP0LPA0KPYVFhVPtJ0
  1PV00Pd8bAcVcAVQdJ04Q6b9b500b9004b9001eUbN06eU10DeU0b7M08b7600b7600b7600b7600b7600b7600b7600b7
  600UVPcT0b1bIP00bIcO0BbIgL0PPKbI0P0bI0PObI8bQ3bJ1P7bI3P300bOcL01bQ1P1bO2P0c0cPP1c0204DbA00bJcT
  00PFDVPb508P0c0FbJU00PbVbJUPcGc0bEP0c0cNPf7bIgnVPbVbIupVf9beC02f9bM08cFbFf4jB0JUcV8cN07Pb1cAd5
  P2cAc201cA100cA000cA70KcADeFbC02P905dUbN07e4c507e4B05b0Vc2bDP0c20e1b30Ae10bJS02bTcD00P0bT903bT
  1d3U00MbM08MD01M901M3d3VeLc20NeL4cQM09b7501b7501b7508b7600b7600cAbAP0cA8bD0cA3P103NcFcQbD01cQ9
  05bJkZ30BbJM03bJbG0ii3bIlD01bId90b5cA60B5404bNP00bN400bN000bN100bN100bN94dI0F4lAP14cF014bL0640
  0V4FbQFP905bQDU1Pb200PI00P30344004e601P000PVcAPP5cAPPAc09P0c0bCP1bJU02bJ501bJ501bJ501bJ202P600
  P609P401cEB00cEP00cEI00cE100cEE01cED0b1cEdQ04P203PbC02P8bDcE00PC02bD00bEPbCbQ00e1cGS02JbG0EbQ0
  PQ03dGb308dG2bBQ04dIbA04f3T00f30dJb303dJD0b9VcFe6bFdQT01dQ905dPb303dPb303b5b707KbJ0AK0f5A00f5E
  00f5600f5100f5A00f5E00f5600f5102f0bJ0BcDjM08cDL09cD70NcA500cAb900cA80c4S501S000SbB00S102S001S0
  bPL00bP8dSVd4U07d480bFbMI00bM104bM4dVR02dV0cHP04cH00bVcTVcSN03cSJ01cSbDc3300c3104c3700c3200c3S
  01c3203c3906c3806dLVdHV0VcMb603cMB086bL0266bSL01bS7bRI04bR7e0H06e030Be060cFdMc80bMdFbI0CdFbI06
  dF5bKb707bK905b8b502b8S07b810gF4U00f8b900f8201f810F420bM43dKb707eAb90LdNP0b5OR0Jb6M08EcD03Eb30
  8E0bUc209bU001eBO06eB905LbK00LH07cIb608e5cV00e9J0Ac6H00c6bE0bTd2600d2000d2300d2E00d2A05c7bQ04c
  7905bC300bC701bC101bCL00bC600bC100bC400bQ0bC801bC101bC201bC005bC004bC601bC602bC40Af2900f2001f2
  000f2b500f2900f2001f2000f2300f2900f2107f210Sd8cR00d840TeVc707eV90f5e7bL01e7b50b1cVc40AcV905d0C
  0IeMbP05eM905d3J0R2Q012E032M0fOb2bR0d3f7cI0Bf70b1601b1001b1700b1100b1T00b1101b1B08b190c5d6701d
  6bD01d6A0QfAc707eCcI0CIFdTbO06b090fLeEb10DeE905C800CbC00CD09CS02cNV01cNL00cND0c8cO600cO100cObB
  02cO000cO100cO807cO905bF500bF100bFb400bF100bF506bF90jLcJO06c1G00c1b802c1S0cKcF00EeNbH0CeN0RYP0
  d5RdE00R40ARg30csBTd20Cb4bcL09b4dYQ043s60gvObHbP0bw58rO06d1U00d1903d11eOcE00eO9059T019509dRc50
  9dR900dR600dRK04dRI0nFc8bP0g5cPcQ0d4cUcA03cUbO06cUG0bVeP0dA0bI1c400AbI10DePf-N07ePxVc4oL0b8c40
  eP80ix6c0300c0600c0100c00bOiUc020EbO00SbO201c000Dc0307dAmB0ci3b3dA04b3C02b3806b3901b33P30dWRPh
  P05PnJ0cBbQbD01bQM08PdJ0bRPhL09Pb601PbTbQ2PGbQ7P1bQ6PTbQ3PbS0KbDc50dPPJ0BPJ0BPcM08PO0e6PcK00Pc
  600P101P001P101P300PB00P000P600Pc000P301P700P600PR00P300P400P002P600PkJ01Pj301PbHe8uB0Ee8400e8
  E0bcFcAU05cA50gKbA600bAG01bA600bA100bA404UbT0b0U00dFdBbC02dBD01dB903dB10jVf1U0Gf6bP04f600oFd5b
  90gLdEbA03dE00oVb7600b7300b7100b7E00cRg401cRF0b81cB031903110yGPc30cBPbS0g143004Q00410040014000
  4900430040004005400340004000400042004100400140004000400040004000410040014300460043004300400049
  004G04420044004G0bJ410iDPbB03Pd30BPE01PE00PE00Pb409PfD0bNPPbO0P10CPbB03P806P10DP50ePP+N03PG02P
  C02PdM03PcU05PB03P00EPB03PbN07P905Pb707PT01PB03P10bTPkJ0BPD01PC02P904PbN06PE01PA05P806PeI00Pd5
  0ba5bIbjwV0VbIebP05bIgT01bIfu10DbIhjG0EbItD0cn1bIqT0bp1bIeWA04bIecV0vxcGP00TPcV0dVbQhF0f-qF"

/-- The characters that are shared: gap, length, the number of scripts and their classes. -/
def sharedTable : String :=
  "fN0G6JQb3b5b9bAbBbDbFbIcAcHcIdIe6q407BUb0cAcFeSf1A02DcA122DcA102cAcF902cAeS102DcAb608NQUbDcAdI
  eEeJ008NUbDcAdPeEeJf0004NUcAeU005bAcAeEeGeS00BKNQUbBbDcAdPeGeUf0006Qb5bAbBc0cA004UbDcAdI009Qb3
  bNcAdIeGeJeUf000A5Ub3bBbDbNcAdIeGeJ002cAeU003b3cAeG004NUcAdP003NcAeJ002cAeE002b7cA102cAeE003Uc
  Af0104bDcAdIf0C02cAeG205Nb3c0cAeG004Nb3cAeG002cAeG703cAeEeG002cAeG103NcAeG006KNbBcAeEeSG01bD20
  1bDI02cAdP503KcAf04C1cA412QbDiD02UdI002UbA012UcA002UbAi1035b9bAe2074b8bKd9eGeRf8E074b8bKd9eGeR
  f80034eGeR20814b8bKd9eGeRf8b00914bKcLcMdNe0eAeGAA24eGA934eRf86024eGd3024bKtS0EBb0bCbEbGbVcAcKd
  8dOe5eNeQeV00DBb0bCbEbGbVcAcKd8dOeNeQeVH0LBb0b2bCbEbFbGbVc7cIcKcOd6dEdOe9eFeMeNeQeV00NBb0b2bCb
  EbFbGbHbVc7cCcIcKcOd6dEdOe9eFeMeNeQeV094b0b2bUcIdM93BLeFdM92bGd2dM92bEc6hMD2bCeNhI93bVd6f2WG93
  Ld3eJfH03b9bAcAbpF21e2c714HbLeHeIgB12d0dU102d0dUbgA04Bb0bCbV001b0004Bb0bCbV003b0bCbV001b0004Bb
  0d8eQ003Bb0eQ003b0d8e5004Bb0d8eQ002b0e5006b0bVcKdOeNeQ001b0012b0e5011b0002b0e5002Bb0003b0d8eV0
  51b0003b0d6d8002Bb0002b0d8001b0004Bb0d8e5031b000BBb0bCbVcKd6dOe9eQeVf2002b0bC004b0bCbVf2012Bb0
  001B012b0bC001d6g511bDbM03UcAeG101eGrK03cAd0dUV0214A06Jb9bAcGdFdM204JbDcTdFeI03b0bCcAdj602QcAO
  026dM0076Jb9bUcHdFe3A01b340314dF102UbAnCF2bIeP107DbIbJbOc0d0f9008DbIbJbOc0d0dUf9005DbIbJbOc020
  1bI118DbIbJbOc0d0eTf9019DbIbJbOc0cFd0eTf9056DbIbJbOc0f9105DbIbJbOc0076DbIbJbOc0f9035DbIbJbOc0A
  32DbI205DbIbJbOc0042bOc0105DbIbJbOc0413bIbOc0011bIcP32bOc0302bOc0cQ06DbIbJbOc0f9002bOc0eJF1bIb
  0b51bI902bIePbGb71bIbObG1bIFB1bIbJ01bIcOO1bIA41bId0U1bIYtG02UbAeG72bIcAj82Gb0b2bEbGbUbVc6c7cIc
  KcVd6e5eMeVf202Fb0b2bEbGbUbVc6c7cIcVd6e5eMeVf201Bb0b2bEbGbUc6c7cIcVeMeV00Cb0b2bEbGbUc6c7cIcVe5
  eMeV00Bb0b2bEbGbUc6c7cIcVeMeVfN03Bb0f2102b0eNbQ03c2cAd3f002GbTuXE124d9fI024eRA024eRc715DbIbJbO
  c0iQ46DbIbJbOc0f9A02bOc0bD12bOc0l013STcE002ScE4bC3ScDcE382ScEn0R24Qb-M02cMdNcaE02bCeN102bCeNbN
  12bCeNdeJ12bCeN102bCeNbhgC31b3fvSH1bIhwU11bI"

/-- The class of a name. -/
def classOf? (name : String) : Option Nat :=
  match names.findIdx? (·.contains name) with
  | some i => some i
  | none => none

/-- The shared intervals with their scripts. `fuel` bounds the number of entries. -/
def sharedFrom (start : Nat) : (fuel : Nat) → List Nat → List ((Nat × Nat) × List Nat)
  | 0, _ => []
  | fuel + 1, gap :: length :: count :: rest =>
    ((start + gap, start + gap + length), rest.take count)
      :: sharedFrom (start + gap + length + 1) fuel (rest.drop count)
  | _ + 1, _ => []

/-- The shared intervals with their scripts. -/
def shared : List ((Nat × Nat) × List Nat) :=
  let ns := numbers sharedTable
  sharedFrom 0 ns.length ns

/-- The characters of a script; class 0 and a class without characters have none. -/
def set? (cls : Nat) : Option CharSet :=
  if cls = 0 then none
  else
    let s := runTable table (· == cls)
    if s.ranges.isEmpty then none else some s

/-- The characters that a script uses, the shared ones included. -/
def extended? (cls : Nat) : Option CharSet := do
  let own ← set? cls
  let all := CharSet.ofRanges (shared.map (·.1))
  let mine := CharSet.ofRanges ((shared.filter (·.2.contains cls)).map (·.1))
  return (own.diff all).union mine

end Conformance.Unicode.Script
