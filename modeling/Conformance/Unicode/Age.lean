import Conformance.Unicode.Packed

/-!
# Ages

The version of the standard that introduced each character. The classes of the table are in the
order of the versions, so the characters that existed at a version are those of the classes up to
its own.
-/

namespace Conformance.Unicode.Age

/-- The names of the values of the age, by class. Class 0 stands for all other characters. -/
def names : List (List String) :=
  [["na", "unassigned"], ["1.1", "v11"], ["2.0", "v20"], ["2.1", "v21"], ["3.0", "v30"], ["3.1",
   "v31"], ["3.2", "v32"], ["4.0", "v40"], ["4.1", "v41"], ["5.0", "v50"], ["5.1", "v51"], ["5.2",
   "v52"], ["6.0", "v60"], ["6.1", "v61"], ["6.2", "v62"], ["6.3", "v63"], ["7.0", "v70"], ["8.0",
   "v80"], ["9.0", "v90"], ["10.0", "v100"], ["11.0", "v110"], ["12.0", "v120"], ["12.1", "v121"],
   ["13.0", "v130"], ["14.0", "v140"], ["15.0", "v150"], ["15.1", "v151"], ["16.0", "v160"]]

/-- The run table of the age. -/
def table : String :=
  "1pL431T4760704H728A9D1cO44711bE4019447G1c5486077847211406CA311A101109210G003160010001J001bBA01
  6406110401040104010401H51607483401B401c1401B401b8A04161431bK6111611161901R41178111956F93AFB1C1
  G7001b50116K01b6K0104001G1D0002G802C1990182082071Q03K0140A73D0G0A4801078A410F0O08010C01PA41I42
  7285C01D611c74114401E401T711944704D004T724Q01728TAH4bG600D9bQ01K2BbD01BE00CR01C000JA04OU00O104
  R0O7D0G0DAG5H1O0I7N9OAK0IEH0DQG0B012701bKC11HB0C014B0C11OA1C4G0B1918091G01200170111011L0016001
  00213011070160111011280071003110014011KB0J1K00170107000150311011L00160011001100110110001403110
  11202A006130010061EA0K00912001670100012001L00160011001401190012001201100E10720119D07006H0J5001
  200170111011L001600110070130117A00111011206N01103110012A1011A70C509110015021200130211001000110
  21102120217801203140212001301A005100D801B7704G012K0170012001M0019G01401O0A01600120013061100A1H
  001O00111A1011906L0A7I0G011K0170012001M0019001401711600120013061105O01000119101190091P00BJ0G01
  1N0170012001MC01FC0J1A015A000120013C0I003I210I6H011A10119A5I2A600N041004H024N00480040014602400
  3450040004705G901420B1bP031S0b411001000L011L01000L010L513L016L01200100010L111L01CL012011400100
  015P000190111D10V2c7002b040A1032QC3254020002K4226402042004E00A04081A2B3C10b44b1A044A041A046A24
  3A54PAbVB3A11b500D004D0011b661811080D21cPB41c3B41cHB546804bU80400043014600400043014b6804000430
  14U8040004301460040004301468046004M804U804000430146804b6804I01C1814R028P054cKH001H501B04tLB84S
  024cGG7066CO066O008O06M086J0B6C006200610B4cS7001490579054EO049054cNK0064b9A004Bc5097SG1007B037
  B0370027b901740A8b9B1038P0589B002817V8R0181BbU00BS01BA05B905BD01GEN1OD0bG9cBO000R19bCO1R0AbAD2
  ABD5CbJ07C3AbN02AE02AbII8R104KbA01K2D707Bb2D3J0G1L0047dB8cN96ARGEJ3O0I0C0B0911eQ20A31cPA51L011
  5011b501150117001000100010001U011bK001E001D0115001I01120018001bE401M6045647181608664A000F31660
  011Q0084C7021A2030426183B2C0E0G2H0J0O00E1H41668093A00E1bO4170806E8091A0B21bF4090A3B0H1031cQ486
  B1hH6D10401dO40604T6bJ718A9BB0CAG6I3J01b441R20L1A0K1eA6J701eL691cF47671J716180401cL416B8169778
  AA0B1718F90A9B2A3B9C0BIC0B0C3BNG013C013C11RC01b2C010C013C210B016C1166D1UC21NC01DC08693D0A0D0C1
  6RA36F4hV6pV7D8596A493Ab8G2A4B4GP01GV00N0Gb1K2GBL0G7J0KOH3KEL08bEO08bEO09CA2B0A293A5B18dAB6D10
  48bC00D004D0018bLD10680C00DC08M0886008600860086008600860086008600AV8NA381AIB0D9G6I1J4K4L0N2OA0
  b14P004cO0B4gL0P4BQ31bN42624010001cJ610115611cT60041b7A0J0K0001cT001F4NC2N48FAJR108Q06F1S71001
  b3BB706E1R71801bH6E1B731bEM01dM731d2711U704gnLN97bV1un58LA7B7D0H8JKK4NCO24beC024H614F604B60426
  04008BbFAjB0JAVC1AHD7ARG5H0D0BcN078M93A491AdAC1H0C1D1GBC9D0G2I0K0G1H5K1L5O1L4N3R201O100O000O4R
  20KO2N1G0D1C0A48bBN002B9059bN07Ac4I007AB05BRH1K1AcJ0AA0BS02BcD00BA03B1GU00AbM08AD01A901A3BRG3B
  c20NB4DM09C501C501C508C600C600GbFH3G1L1N303HcFBbD01B9052kZ30BBM03BbG0ca31grDD16bQB2018d90b5160
  B1404401O0014001000110011001dBCFO00F1lCOF1bV011bL06O05V1B6070O16F890513A2G6H11K617119001I00130
  3126010001e60110001cT611cT021501150115011202160016094230127B007P007I0071007E017D0b17dQ0472037b
  C02788cAG1I100ABN002G00bEAbD0e1AS02AbG0EGR035UG05308J25Q04GbA047T00708b3038D0b95b5715b57cF0179
  05Ib303Ib303Gb707GbJ0AG0OA00OE00O600O100OA00OE00O600O102RbJ0BGjM08GL09G70NO500Ob900O80c4750170
  007bB007102700170BL00B8GbU07G80bFHI00H104H49PB10290AP04A00bVDbN03H1D1HF01HbD83008104870082008Q
  K101820388K0068806BVGV0VGb603GB08BbL02BS01BQ04B7GH06G30BG60cFBc80bMHbI0CHbI06H5Kb707K905Rb502R
  S07R10gFBU00Nb900N201N10FR20bMR0P2Kb707Kb90LOP0b5NR0JLM08CcD03CTO508G0Bc1O009K001DO06D905DbK00
  DDK2N007Gb608Dc8H3G0N1D9G0H400GJ0AGH00GbAI0P20bTH600H000H300HE00HA05GbQ04G905H0G200G701G101GL0
  0G600G100G400K0G801G101G201H005G004G601G602G40AR900R001R000Rb500R900R001R000R300R900R107R10SIc
  PN0I000I0K0L0N10TGc707G90f5GbL01GHHJ0b1Gc40AG905IC0IDbNL0O005D905RJ0RHPK001HE03HFO60fOKbR0d3Gc
  I0BG0N601N001N700N100NT00N101NB08N90c5L701LbD01LA0QJc707JbJL1JMK0J40COFGbO06P90fLRb10DR905I800
  IbC00ID09IS02IV01IL00ID0c8J600J100JbB02J000J100J807J905K500K100Kb400K100K506K90jLKO06PG00Pb802
  PRR00cKN00ELbH0CL09XEGb9H00d59d2GB0093G00AHg30csBOd20CBbbEP0L8PS09RdYQ04Hs60gvORbP0bw5CrO06GU0
  0G903G1OcE00O905GT01G509Gc509G900G600GK04GI0nFRbP0g5KcQ0d4Dc4L503L0DbEL806DG0bVI0J0L1N00AN10DI
  f-CK4L507IxINp20b8R0N80ix6O300O600O100C1JiSO30EP00SL201P00DL307JmB0ci3GdA04GC02G806G901G70dWRR
  hP05RnJ0cBObD01OM08OdJ0bR5hL095b601A05fJHAO10K8c50dPPJ0BKJ0B7cM089HK60e65cK005c600510150015101
  53005B005000537051005c0005301570056005R0053005400500256005kH81015j191015bHHuB0EH400HE0bcFOU05P
  50gKI600IG01I600I100I404PbT0b0P00dFLbC02LD01L903L10jVOU0GLbP04L00oFPb90gLRbA03R00oVO600O300O10
  0OE00Gg401GF0b8IcAL003I903I10yGKc30cBLbS0g1D300DQ00D100D001D000D900D300D000D005D003D000D000D00
  0D200D100D001D000D000D000D000D000D100D001D300D600D300D300D000D900DG04D200D400DG0bJD10iDAbB03Ad
  30BCE01CDG000CE00CEGL09BAG1N2BUK0C0B0CAB0C0B0C1B0C2B0C2B4C7B0C6B0C9D1L0N2C8B0C0B1C1B0C9B3C1B0C
  9IHN00bNCPB0C10CBb1C8I003B806C10DJ50ePCb0GBH2C5G0Cc5G0H1CJGBCb4G0C4G3H4GBCGG6H7CbUG0C0G0CfLG0C
  3G1H0CbTG1D3G6H4CNGHI0Gb8I0GcLC4D0CFD0C2D0C0D0C0D0C0D0C2D0C5D1C3D0C0D1C3D0CBG1H1CAGbFCc5G9H0I1
  J1L0N103P0O2GC02G3I2J1K0L0N102CdJP203P4GcKK3P005LB03O00EGB03GbN07G905Gb707GT01N1R903R10bTJBN0L
  2H8I5J0I7J7I0J1IBL0IBJ0K2IEJCK4L0N0K3N1O0K0L0K3H4ICJ5KAN1L5N2L1K9L5H0K1L7N0O0L2JMKOLcJ0BKD01L3
  N0P2L2O102L2N3P1R004R0L5NIO3P2N6O3P2R0P0N2O2R006P1N6O2P1R001R0O7P0R005O6P106NeI00NbMRb4N90ba32
  15bjwMN6O10VBebKO3P005CgT01Hfu10DJhjG0EQtD0cn15qT0boV21NeWA04PecV0bxcD210b--T210b--T210b--T210
  b--T210b--T210b--T210b--T210b--T210b--T210b--T2100500T5cV0dV7hF0b-qD2eaa1"

/-- The characters that existed at the named version. -/
def set? (name : String) : Option CharSet :=
  match names.findIdx? (·.contains name) with
  | some (k + 1) => some (runTable table fun j => 0 < j && j ≤ k + 1)
  | _ => none

end Conformance.Unicode.Age
