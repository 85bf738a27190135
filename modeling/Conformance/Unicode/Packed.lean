import Conformance.Text.CharSet

/-!
# Packed tables of the character database

The tables of this folder are written as strings of base-32 numbers, most significant digit first.
A letter of `a … z W … Z + -` is a digit with more to come; one of `0 … 9 A … V` ends its number.
Line breaks and blanks do not count.

- A *range table* alternates gaps and lengths: so many code points out, so many in (less one).
- A *run table* alternates classes and lengths: the next so many code points (less one) are of
  this class.
-/

namespace Conformance.Unicode

/-- The value of a packed digit, and whether it ends its number. -/
def digit (c : Char) : Nat × Bool :=
  if '0' ≤ c ∧ c ≤ '9' then (c.toNat - 48, true)
  else if 'A' ≤ c ∧ c ≤ 'V' then (c.toNat - 55, true)
  else if 'a' ≤ c ∧ c ≤ 'z' then (c.toNat - 97, false)
  else if 'W' ≤ c ∧ c ≤ 'Z' then (c.toNat - 61, false)
  else if c = '+' then (30, false)
  else (31, false)

/-- The numbers of a packed text. `acc` holds those read so far, last first, and `value` the
    digits of an open number. -/
def numbersOnto (acc : List Nat) (value : Nat) : List Char → List Nat
  | [] => acc.reverse
  | c :: cs =>
    let d := digit c
    let value := value * 32 + d.1
    if d.2 then numbersOnto (value :: acc) 0 cs else numbersOnto acc value cs

/-- The numbers of a packed table. -/
def numbers (table : String) : List Nat :=
  numbersOnto [] 0 (table.toList.filter fun c => c != '\n' && c != ' ')

/-- The intervals of a range table, from a code point on. -/
def rangesFrom (start : Nat) : List Nat → List (Nat × Nat)
  | gap :: length :: rest =>
    (start + gap, start + gap + length) :: rangesFrom (start + gap + length + 1) rest
  | _ => []

/-- The set that a range table describes. -/
def rangeTable (table : String) : CharSet := ⟨rangesFrom 0 (numbers table)⟩

/-- The intervals of the runs whose class is wanted, from a code point on. -/
def runsFrom (wanted : Nat → Bool) (start : Nat) : List Nat → List (Nat × Nat)
  | cls :: length :: rest =>
    let later := runsFrom wanted (start + length + 1) rest
    if wanted cls then (start, start + length) :: later else later
  | _ => []

/-- The set of the code points whose class in a run table is wanted. -/
def runTable (table : String) (wanted : Nat → Bool) : CharSet :=
  CharSet.ofRanges (runsFrom wanted 0 (numbers table))

end Conformance.Unicode
