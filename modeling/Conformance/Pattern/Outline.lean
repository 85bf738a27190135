import Conformance.Pattern.Expr
import Conformance.Pattern.Octets

/-!
# Outlines

An outline is a normal form of an expression: sequences hold neither sequences nor neighbouring
literals, choices hold no choices, and a choice between single characters is a set. The functions
`concat`, `choice` and `repetition` build such forms from such forms. A choice between sequences that
begin alike is the common beginning and a choice between the rests.

Literals are written in octets.
-/

namespace Conformance.Pattern

/-- The normal form of an expression. A set comes with its products of octets. -/
inductive Outline where
  | empty
  | literal (octets : List Nat)
  | set (s : CharSet) (products : List (List Interval))
  | look (l : Look)
  | group (e : Outline)
  | repeated (low : Nat) (high : Option Nat) (e : Outline)
  | concat (es : List Outline)
  | choice (es : List Outline)
  deriving Repr, Inhabited

namespace Outline

/-- The outline of a set: a set of one character is a literal. -/
def ofSet (s : CharSet) : Outline :=
  match s.point? with
  | some n => .literal (Interval.octets n)
  | none => .set s (Interval.productsOf s)

/-! ## Lengths -/

mutual

/-- The length of a shortest match in octets, conditions apart, unless some part has no match. -/
def least : Outline → Option Nat
  | .empty | .look _ => some 0
  | .literal octets => some octets.length
  | .set s _ => s.ranges.head?.map fun r => (Interval.octets r.1).length
  | .group e => e.least
  | .repeated low _ e => e.least.map (low * ·)
  | .concat es => leastSum es
  | .choice es => leastOf es

/-- The sum of the shortest matches. -/
def leastSum : List Outline → Option Nat
  | [] => some 0
  | e :: es =>
    match e.least, leastSum es with
    | some m, some n => some (m + n)
    | _, _ => none

/-- The shortest of the shortest matches. -/
def leastOf : List Outline → Option Nat
  | [] => none
  | [e] => e.least
  | e :: es =>
    match e.least, leastOf es with
    | some m, some n => some (min m n)
    | _, _ => none

end

mutual

/-- Whether every match is empty. -/
def alwaysEmpty : Outline → Bool
  | .empty | .look _ => true
  | .literal octets => octets.isEmpty
  | .set _ _ => false
  | .group e => e.alwaysEmpty
  | .repeated _ high e => high = some 0 || (high.isSome && e.alwaysEmpty)
  | .concat es | .choice es => allAlwaysEmpty es

/-- Whether every match of every outline is empty. -/
def allAlwaysEmpty : List Outline → Bool
  | [] => true
  | e :: es => e.alwaysEmpty && allAlwaysEmpty es

end

/-! ## Building -/

/-- Repeats an outline. What is always empty need not be repeated more than once. -/
def repetition (low : Nat) (high : Option Nat) (e : Outline) : Outline :=
  let (low, high) :=
    if e.alwaysEmpty then (min low 1, some ((high.map (min · 1)).getD 1)) else (low, high)
  if low = 0 && high = some 0 then .empty
  else if low = 1 && high = some 1 then e
  else .repeated low high e

/-- Puts an outline that is no sequence in front of the parts of a sequence. -/
def prepend (e : Outline) (parts : List Outline) : List Outline :=
  match e, parts with
  | .empty, parts => parts
  | .literal front, .literal back :: rest => .literal (front ++ back) :: rest
  | e, parts => e :: parts

/-- The parts of a sequence of outlines. -/
def parts : List Outline → List Outline
  | [] => []
  | .concat es :: rest => es.foldr prepend (parts rest)
  | e :: rest => prepend e (parts rest)

/-- The sequence of its parts. -/
def ofParts : List Outline → Outline
  | [] => .empty
  | [e] => e
  | es => .concat es

/-- A sequence of outlines. -/
def sequence (es : List Outline) : Outline := ofParts (parts es)

mutual

/-- Whether two outlines are the same. Groups never are: each is marked for itself. -/
def same : Outline → Outline → Bool
  | .empty, .empty => true
  | .literal a, .literal b => a = b
  | .set s _, .set t _ => s = t
  | .look k, .look l => k = l
  | .repeated low high a, .repeated low' high' b => low = low' && high = high' && a.same b
  | .concat as, .concat bs => sameAll as bs
  | .choice as, .choice bs => sameAll as bs
  | _, _ => false

/-- Whether two lists of outlines are the same. -/
def sameAll : List Outline → List Outline → Bool
  | [], [] => true
  | a :: as, b :: bs => a.same b && sameAll as bs
  | _, _ => false

end

/-- How many parts two sequences share at the front. -/
def shared : List Outline → List Outline → Nat
  | a :: as, b :: bs => if a.same b then shared as bs + 1 else 0
  | _, _ => 0

/-- The parts of a sequence. -/
def concatParts? : Outline → Option (List Outline)
  | .concat es => some es
  | _ => none

/-- The code point of a literal of one character. -/
def single? : Outline → Option Nat
  | .literal [a] => some a
  | .literal [a, b] => if 0xC0 ≤ a then some ((a - 0xC0) * 64 + (b - 0x80)) else none
  | .literal [a, b, c] =>
    if 0xE0 ≤ a then some ((a - 0xE0) * 4096 + (b - 0x80) * 64 + (c - 0x80)) else none
  | .literal [a, b, c, d] =>
    if 0xF0 ≤ a then
      some ((a - 0xF0) * 262144 + (b - 0x80) * 4096 + (c - 0x80) * 64 + (d - 0x80))
    else none
  | _ => none

/-- The characters of a set. -/
def set? : Outline → Option CharSet
  | .set s _ => some s
  | _ => none

/-- The branches of a choice of outlines. -/
def branches (es : List Outline) : List Outline :=
  es.flatMap fun e =>
    match e with
    | .choice es => es
    | e => [e]

/-- A choice of outlines. `fuel` bounds how often a common beginning is put in front. -/
def alternatives : (fuel : Nat) → List Outline → Outline
  | 0, es => .choice (branches es)
  | fuel + 1, es =>
    match branches es with
    | [] => .ofSet .empty
    | [e] => e
    | es =>
      match es.mapM single?, es.mapM set? with
      | some points, _ => .ofSet (.ofRanges (points.map fun n => (n, n)))
      | none, some sets => .ofSet (.ofRanges (sets.flatMap (·.ranges)))
      | none, none =>
        match es.mapM concatParts? with
        | some (front :: others) =>
          let count := others.foldl (fun n o => min n (shared front o)) front.length
          if count = 0 then .choice es
          else
            let rests := (front :: others).map fun parts => ofParts (parts.drop count)
            sequence (front.take count ++ [alternatives fuel rests])
        | _ => .choice es

/-- How often a common beginning is looked for in a choice. -/
def liftLimit : Nat := 1000

mutual

/-- The outline of an expression. -/
def ofExpr : Expr → Outline
  | .empty => .empty
  | .never => .ofSet .empty
  | .char c => .literal (Interval.octets c.toNat)
  | .set s => .ofSet s
  | .look l => .look l
  | .group e => .group (ofExpr e)
  | .seq a b => sequence (itemsOnto (itemsOnto [] b) a)
  | .alt a b => alternatives liftLimit (ofExpr a :: branchesOf b)
  | .repeated low high e => repetition low high (ofExpr e)

/-- The outlines of the items of a sequence, before others. -/
def itemsOnto (after : List Outline) : Expr → List Outline
  | .empty => after
  | .never => .ofSet .empty :: after
  | .char c => .literal (Interval.octets c.toNat) :: after
  | .set s => .ofSet s :: after
  | .look l => .look l :: after
  | .group e => .group (ofExpr e) :: after
  | .seq a b => itemsOnto (itemsOnto after b) a
  | .alt a b => alternatives liftLimit (ofExpr a :: branchesOf b) :: after
  | .repeated low high e => repetition low high (ofExpr e) :: after

/-- The outlines of the branches of a choice. -/
def branchesOf : Expr → List Outline
  | .alt a b => ofExpr a :: branchesOf b
  | _ => []

end

/-! ## Directions -/

mutual

/-- An outline read backwards. -/
def mirror : Outline → Outline
  | .empty => .empty
  | .literal octets => .literal octets.reverse
  | .set s products => .set s products
  | .look l => .look l
  | .group e => .group e.mirror
  | .repeated low high e => .repeated low high e.mirror
  | .concat es => .concat (mirrorOnto [] es)
  | .choice es => .choice (mirrorAll es)

/-- The parts of a sequence read backwards. `done` holds those before. -/
def mirrorOnto (done : List Outline) : List Outline → List Outline
  | [] => done
  | e :: es => mirrorOnto (e.mirror :: done) es

/-- The branches of a choice read backwards. -/
def mirrorAll : List Outline → List Outline
  | [] => []
  | e :: es => e.mirror :: mirrorAll es

end

mutual

/-- Whether every match begins under a condition. -/
def beginsWith (l : Look) : Outline → Bool
  | .look k => k = l
  | .empty | .literal _ | .set _ _ => false
  | .group e => e.beginsWith l
  | .repeated low _ e => low ≠ 0 && e.beginsWith l
  | .concat es => sequenceBeginsWith l es
  | .choice es => allBeginWith l es

/-- Whether every match of a sequence begins under a condition. -/
def sequenceBeginsWith (l : Look) : List Outline → Bool
  | [] => false
  | e :: es => e.beginsWith l || (e.alwaysEmpty && sequenceBeginsWith l es)

/-- Whether every match of each outline begins under a condition. -/
def allBeginWith (l : Look) : List Outline → Bool
  | [] => true
  | e :: es => e.beginsWith l && allBeginWith l es

end

end Outline
end Conformance.Pattern
