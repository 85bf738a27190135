import Conformance.Unicode.Packed

/-!
# Simple case folding

Characters that differ in case only form small orbits. The table lists each orbit by its least
member: the distance from the orbit before, the number of members (less two), and the distances
between members.
-/

namespace Conformance.Unicode.Folding

/-- The table of the orbits. -/
def table : String :=
  "c10b010b010b010b010b010b010b010b010b010b011b0ifV10b010b010b010b010b010b010b011b0iC10b010b010b0
  10b010b010b010b0cR1x7b0B0b010b010b010b010b011b0ic610b010b010b010b010b010b010b010b010b010b010b0
  10b010b010b010b010b010b020b010b010b010b010b010b010b010hnVb00dP10120120120120120120120120120120
  1201201201201201201201201201201201201201401201201301201201201201201201201301201201201201201201
  20120120120120120120120120120120120120120120120130120120130g310gI10120120gE10120gD10gD10130cF1
  0gA10gB10120gD10gF10d110gJ10gH10120f310bjs110gJ10gL10e210gM10120120120gQ10120gQ30120gQ10120gP1
  0gP10120120gR10140130bO51113111311130120120120120120120120130120120120120120120120120131113014
  0120120120120120120120120120120120120120120120120120120120140120120120120120120120120180krB101
  30kr810krV10krV10130c510c710120120120120120kqV10kqS10kqUA0bjkF50bjkB30bjl710bjj810bjk440bjk410
  kpN10bjk150kpTC0kp750bjk350bjjAM0bjiL10bjiIf72cKb0ha5bB0120140150e210e210e220dK70b620b510b510b
  520c020bV10bV10hc310b011b0U10b010b011b0c010b010b012b0Pb321b0bM10b020b010b010b011b0M11b0bG21V11
  0b010b011b0F10b010b011b0hkT10b010b050hbJV0890120120120120120120120120120120120140750130160cG10
  cG10cG10cG10cG10cG10cG10cG10cG10cG10cG10cG10cG10cG10cG10cG10b010b011b0gcE10b011b0gcD10b010b010
  b010b010b010b010b010b010b011b0gc410b010b011b0gc212b0gc2110b010b010b010b010b010b010b011b0gbS10b
  010b010b010b010b0bH01211gb4201201201201201201201201201201201201201201201A012012012012012012012
  0120120120120120120120120120120120120120120120120120120120120F10120120120120120120130120120120
  1201201201201201201201201201201201201201201201201201201201201201201201201201201201201201201201
  20120120120120120120120120120120120120130bG10bG10bG10bG10bG10bG10bG10bG10bG10bG10bG10bG10bG10b
  G10bG10bG10bG10bG10bG10bG10bG10bG10bG10bG10bG10bG10bG10bG10bG10bG10bG10bG10bG10bG10bG10bG10bG1
  0bGcWA0hd010hd010hd010hd010hd010hd010hd010hd010hd010hd010hd010hd010hd010hd010hd010hd010hd010hd
  010hd010hd010hd010hd010hd010hd010hd010hd010hd010hd010hd010hd010hd010hd010hd010hd010hd010hd010h
  d010hd020hd060hd030c+010c+010c+010c+010c+010c+010c+010c+010c+010c+010c+010c+010c+010c+010c+010
  c+010c+010c+010c+010c+010c+010c+010c+010c+010c+010c+010c+010c+010c+010c+010c+010c+010c+010c+01
  0c+010c+010c+010c+010c+010c+010c+010c+010c+030c+010c+010c+0v10bf+G10bf+G10bf+G10bf+G10bf+G10bf
  +G10bf+G10bf+G10bf+G10bf+G10bf+G10bf+G10bf+G10bf+G10bf+G10bf+G10bf+G10bf+G10bf+G10bf+G10bf+G10
  bf+G10bf+G10bf+G10bf+G10bf+G10bf+G10bf+G10bf+G10bf+G10bf+G10bf+G10bf+G10bf+G10bf+G10bf+G10bf+G
  10bf+G10bf+G10bf+G10bf+G10bf+G10bf+G10bf+G10bf+G10bf+G10bf+G10bf+G10bf+G10bf+G10bf+G10bf+G10bf
  +G10bf+G10bf+G10bf+G10bf+G10bf+G10bf+G10bf+G10bf+G10bf+G10bf+G10bf+G10bf+G10bf+G10bf+G10bf+G10
  bf+G10bf+G10bf+G10bf+G10bf+G10bf+G10bf+G10bf+G10bf+G10bf+G10bf+G10bf+G108108108108108108ceJ1bc
  o21101hG0bcq440dx6H0bcrOdI01201201201201201201201201201201201201201201201201201201201201201201
  201201201201201201201201201201201201201201201201201201201201201201201201201211bQ20120120120120
  1201201201201201201201201201201201201201201201201201201201201201C01201201201201201201201201201
  2012012012012012012012012012012012012012012012012012012012012012012012012012012012012012012012
  01201201201201201201208108108108108108108108908108108108108108B0810810810810810810810890810810
  8108108108108108908108108108108108C0820820820890810810810810810810810890cA10cA10cM10cM10cM10cM
  10d410d410e010e010dG10dG10dU10dU30810810810810810810810890810810810810810810810890810810810810
  8108108108908108209G09D08108F08108407E09jV0SbE0G10G10G10G10G10G10G10G10G10G10G10G10G10G10G10GK
  01zJ0Q10Q10Q10Q10Q10Q10Q10Q10Q10Q10Q10Q10Q10Q10Q10Q10Q10Q10Q10Q10Q10Q10Q10Q10Q10QbzH0bG10bG10b
  G10bG10bG10bG10bG10bG10bG10bG10bG10bG10bG10bG10bG10bG10bG10bG10bG10bG10bG10bG10bG10bG10bG10bG1
  0bG10bG10bG10bG10bG10bG10bG10bG10bG10bG10bG10bG10bG10bG10bG10bG10bG10bG10bG10bG10bG10bGbH01701
  201201701301B012012012012012012012012012012012012012012012012012012012012012012012012012012012
  01201201201201201201201201201201201201201201201201201201201201201201901201501+kE01201201201201
  401201201201201201201201201201201201201201201201201K01201201201201201201201201201201201201201e
  8012012012012012012014012012012012012012012012012012012012012012012012012012012012012012012012
  01201201201201201201B0120130120120120120150150120120bG201201201201201201201201201201B0Z0101201
  201201201201201201501201301401601201201R01uyG01baS0b010b010b010b010b010b010b010b010b010b010b01
  0b010b010b010b010b010b010b010b010b010b010b010b010b010b010b0bg60b810b810b810b810b810b810b810b81
  0b810b810b810b810b810b810b810b810b810b810b810b810b810b810b810b810b810b810b810b810b810b810b810b
  810b810b810b810b810b810b810b810b8e90b810b810b810b810b810b810b810b810b810b810b810b810b810b810b8
  10b810b810b810b810b810b810b810b810b810b810b810b810b810b810b810b810b810b810b810b810b8eT0b710b71
  0b710b710b710b710b710b710b710b710b720b710b710b710b710b710b710b710b710b710b710b710b710b710b710b
  720b710b710b710b710b710b710b720b710b7bxB0c010c010c010c010c010c010c010c010c010c010c010c010c010c
  010c010c010c010c010c010c010c010c010c010c010c010c010c010c010c010c010c010c010c010c010c010c010c01
  0c010c010c010c010c010c010c010c010c010c010c010c010c010c0eU0b010b010b010b010b010b010b010b010b010
  b010b010b010b010b010b010b010b010b010b010b010b010b0czR0b010b010b010b010b010b010b010b010b010b010
  b010b010b010b010b010b010b010b010b010b010b010b010b010b010b010b010b010b010b010b010b010b0vm10b010
  b010b010b010b010b010b010b010b010b010b010b010b010b010b010b010b010b010b010b010b010b010b010b010b0
  10b010b010b010b010b010b010b0+v10b210b210b210b210b210b210b210b210b210b210b210b210b210b210b210b2
  10b210b210b210b210b210b210b210b210b210b210b210b210b210b210b210b210b210b2"

/-- Running sums: the members of an orbit from its least one and the distances. -/
def membersFrom (first : Nat) : List Nat → List Nat
  | [] => [first]
  | d :: rest => first :: membersFrom (first + d) rest

/-- The orbits from a code point on. `fuel` bounds their number. -/
def orbitsFrom (last : Nat) : (fuel : Nat) → List Nat → List (List Nat)
  | 0, _ => []
  | fuel + 1, gap :: more :: rest =>
    membersFrom (last + gap) (rest.take (more + 1))
      :: orbitsFrom (last + gap) fuel (rest.drop (more + 1))
  | _ + 1, _ => []

/-- All orbits. -/
def orbits : List (List Nat) :=
  let ns := numbers table
  orbitsFrom 0 ns.length ns

/-- A set with every character that differs from one of its members in case only. -/
def close (s : CharSet) : CharSet :=
  let extra := orbits.flatMap fun orbit =>
    if orbit.any s.covers then orbit.map fun n => (n, n) else []
  CharSet.ofRanges (s.ranges ++ extra)

/-- A set with the other case of its ASCII letters. -/
def closeAscii (s : CharSet) : CharSet :=
  let extra := (List.range 26).flatMap fun i =>
    if s.covers (65 + i) || s.covers (97 + i) then [(65 + i, 65 + i), (97 + i, 97 + i)] else []
  CharSet.ofRanges (s.ranges ++ extra)

end Conformance.Unicode.Folding
