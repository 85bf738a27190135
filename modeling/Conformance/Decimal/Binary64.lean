/-!
# Binary fractions with 53 digits

The numbers `mantissa * 2 ^ exponent` with a mantissa of 53 binary digits, and zero. A ratio of
natural numbers is rounded to the nearest of them, and to the one with the even mantissa if two are
equally near. The range of the exponent is not limited: the numbers in use are far from its ends.
-/

namespace Conformance

/-- A number `mantissa * 2 ^ exponent`; the mantissa is 0 or has 53 binary digits. -/
structure Binary64 where
  mantissa : Nat
  exponent : Int
  deriving DecidableEq, Repr

namespace Binary64

/-- Zero. -/
def zero : Binary64 := ⟨0, 0⟩

/-- The quotient of two numbers, rounded to the nearest integer, and to the even one of two that
    are equally near. -/
def divNearest (n d : Nat) : Nat :=
  let q := n / d
  let r := n % d
  if 2 * r < d then q
  else if d < 2 * r then q + 1
  else if q % 2 = 0 then q else q + 1

/-- A ratio times a power of two, as a ratio. -/
def scale (n d : Nat) (e : Int) : Nat × Nat :=
  match e with
  | .ofNat k => (n * .pow 2 k, d)
  | .negSucc k => (n, d * .pow 2 (k + 1))

/-- The number nearest to a ratio. -/
def ofRatio (n d : Nat) : Binary64 :=
  if n = 0 ∨ d = 0 then zero
  else
    let e : Int := (Nat.log2 n : Int) - (Nat.log2 d : Int) - 52
    let s := scale n d (-e)
    let e := if s.1 / s.2 < .pow 2 52 then e - 1 else e
    let s := scale n d (-e)
    let m := divNearest s.1 s.2
    if m = .pow 2 53 then ⟨.pow 2 52, e + 1⟩ else ⟨m, e⟩

/-- The number as a ratio. -/
def ratio (x : Binary64) : Nat × Nat := scale x.mantissa 1 x.exponent

/-- The sum of two numbers, rounded. -/
def add (x y : Binary64) : Binary64 :=
  let (a, b) := x.ratio
  let (c, d) := y.ratio
  ofRatio (a * d + c * b) (b * d)

end Binary64
end Conformance
