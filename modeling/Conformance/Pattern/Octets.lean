import Conformance.Text.CharSet

/-!
# Sets of characters as octets

The octets of an interval of code points are a union of products of intervals of octets. The products
are told in increasing order. Surrogates are left out: they are no characters.
-/

namespace Conformance.Pattern

/-- An interval of octets. -/
structure Interval where
  low : Nat
  high : Nat
  deriving DecidableEq, Repr

namespace Interval

/-- The octets of a code point. -/
def octets (n : Nat) : List Nat :=
  if n < 0x80 then [n]
  else if n < 0x800 then [0xC0 + n / 64, 0x80 + n % 64]
  else if n < 0x10000 then [0xE0 + n / 4096, 0x80 + n / 64 % 64, 0x80 + n % 64]
  else [0xF0 + n / 262144, 0x80 + n / 4096 % 64, 0x80 + n / 64 % 64, 0x80 + n % 64]

/-- Where an interval of code points has to be cut so that each part is a product of intervals of
    octets: the first code point of the second part. -/
def cut? (low high : Nat) : Option Nat :=
  if low < 0xE000 ∧ 0xD7FF < high then some (if low < 0xD800 then 0xD800 else 0xE000)
  else if low ≤ 0x7F ∧ 0x7F < high then some 0x80
  else if low ≤ 0x7FF ∧ 0x7FF < high then some 0x800
  else if low ≤ 0xFFFF ∧ 0xFFFF < high then some 0x10000
  else if high ≤ 0x7F then none
  else [64, 4096, 262144].findSome? fun m =>
    if low / m ≠ high / m then
      if low % m ≠ 0 then some (low / m * m + m)
      else if high % m ≠ m - 1 then some (high / m * m)
      else none
    else none

/-- The products that an interval of code points consists of. `fuel` bounds the number of cuts on
    the way to one product. -/
def products : (fuel low high : Nat) → List (List Interval)
  | 0, _, _ => []
  | fuel + 1, low, high =>
    if high < low ∨ (0xD800 ≤ low ∧ high ≤ 0xDFFF) then []
    else
      match cut? low high with
      | some m => products fuel low (m - 1) ++ products fuel m high
      | none => [(octets low).zipWith Interval.mk (octets high)]

/-- The products of a set of characters. -/
def productsOf (s : CharSet) : List (List Interval) :=
  s.ranges.flatMap fun r => products 64 r.1 r.2

end Interval
end Conformance.Pattern
