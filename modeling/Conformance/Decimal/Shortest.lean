import Conformance.Decimal.Binary64

/-!
# Shortest decimals

The decimal text of a binary number: the fewest digits that are read back as that number, the
nearest such decimal, in positional notation and without a fraction of zero.

A decimal is read back as a number if it lies between the midpoints to the two neighbouring
numbers; the midpoints count if the mantissa is even. For one digit, two digits, and so on, the two
points of the decimal grid around the number are tried.
-/

namespace Conformance.Decimal

/-- The bounds of the decimals that are read back as a number, over a common denominator: low
    bound, number, high bound, denominator. -/
def bounds (x : Binary64) : Nat × Nat × Nat × Nat :=
  let below := if x.mantissa = .pow 2 52 then 1 else 2
  let s := Binary64.scale 1 1 (x.exponent - 2)
  ((4 * x.mantissa - below) * s.1, 4 * x.mantissa * s.1, (4 * x.mantissa + 2) * s.1, s.2)

/-- A number of grid units and the power of ten of the unit. -/
structure Digits where
  units : Nat
  power : Int
  deriving DecidableEq, Repr

/-- The number of decimal digits before the point, less one, of a ratio of at least one. -/
def magnitude (n d : Nat) : Nat := (toString (n / d)).length - 1

/-- The power of ten of the first digit of a ratio. `fuel` bounds the zeros after the point. -/
def leadingPower (n d : Nat) : (fuel : Nat) → Int
  | 0 => 0
  | fuel + 1 => if d ≤ n then magnitude n d else leadingPower (n * 10) d fuel - 1

/-- The point of the grid of `10 ^ power` that is read back as the number, if there is one; the
    nearer one of two, and the lower one of two that are equally near. -/
def onGrid? (x : Binary64) (power : Int) : Option Digits :=
  let (low, value, high, den) := bounds x
  let ten : Nat × Nat :=
    match power with
    | .ofNat k => (.pow 10 k, 1)
    | .negSucc k => (1, .pow 10 (k + 1))
  let unit := ten.1 * den
  let (low, value, high) := (low * ten.2, value * ten.2, high * ten.2)
  let q := value / unit
  let inside (k : Nat) : Bool :=
    if x.mantissa % 2 = 0 then low ≤ k * unit ∧ k * unit ≤ high
    else low < k * unit ∧ k * unit < high
  match inside q, inside (q + 1) with
  | true, true =>
    if value - q * unit ≤ (q + 1) * unit - value then some ⟨q, power⟩ else some ⟨q + 1, power⟩
  | true, false => some ⟨q, power⟩
  | false, true => some ⟨q + 1, power⟩
  | false, false => none

/-- The first grid with a point that is read back as the number, from a power of ten downwards. -/
def searchFrom (x : Binary64) (power : Int) : (fuel : Nat) → Digits
  | 0 => ⟨0, 0⟩
  | fuel + 1 =>
    match onGrid? x power with
    | some d => d
    | none => searchFrom x (power - 1) fuel

/-- The fewest digits that are read back as a number. -/
def shortest (x : Binary64) : Digits :=
  if x.mantissa = 0 then ⟨0, 0⟩
  else
    let (n, d) := x.ratio
    searchFrom x (leadingPower n d 400) 20

/-- Digits in positional notation. -/
def Digits.text (d : Digits) : String :=
  match d.power with
  | .ofNat k => toString (d.units * .pow 10 k)
  | .negSucc k =>
    let places := k + 1
    let fraction := toString (d.units % .pow 10 places)
    let padding := String.ofList (List.replicate (places - fraction.length) '0')
    let fraction := (padding ++ fraction).toList.reverse.dropWhile (· = '0')
    if fraction.isEmpty then toString (d.units / .pow 10 places)
    else toString (d.units / .pow 10 places) ++ "." ++ String.ofList fraction.reverse

/-- The text of a number. -/
def text (x : Binary64) : String := (shortest x).text

end Conformance.Decimal
