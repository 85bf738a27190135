/-!
# Sets of characters

A set is a list of closed intervals of code points in increasing order, with a gap between any
two of them. `CharSet.ofRanges` brings any list of intervals into this form, so every operation
ends with it.

The universe is the code points `0 … 0x10FFFF`. Code points that are no characters may lie in a
set; they are never asked for.
-/

namespace Conformance

/-- A set of characters, as increasing, separated intervals of code points. -/
structure CharSet where
  ranges : List (Nat × Nat)
  deriving DecidableEq, Repr, Inhabited

namespace CharSet

/-- The largest code point. -/
def top : Nat := 0x10FFFF

/-- Joins the intervals that touch or overlap, in a list sorted by left end. `low … high` is the
    interval under construction. -/
def joinFrom (low high : Nat) : List (Nat × Nat) → List (Nat × Nat)
  | [] => [(low, high)]
  | (l, h) :: rest =>
    if l ≤ high + 1 then joinFrom low (max high h) rest
    else (low, high) :: joinFrom l h rest

/-- The set of a list of intervals in any order; `(l, h)` with `h < l` is empty. -/
def ofRanges (rs : List (Nat × Nat)) : CharSet :=
  match (rs.filter fun r => r.1 ≤ r.2).mergeSort (fun a b => a.1 ≤ b.1) with
  | [] => ⟨[]⟩
  | (l, h) :: rest => ⟨joinFrom l h rest⟩

/-- The empty set. -/
def empty : CharSet := ⟨[]⟩

/-- Every character. -/
def all : CharSet := ⟨[(0, top)]⟩

/-- The set of one code point. -/
def point (n : Nat) : CharSet := ⟨[(n, n)]⟩

/-- Whether a code point lies in one of the increasing intervals. -/
def coversFrom (n : Nat) : List (Nat × Nat) → Bool
  | [] => false
  | (l, h) :: rest => if n < l then false else if n ≤ h then true else coversFrom n rest

/-- Whether a code point is in the set. -/
def covers (s : CharSet) (n : Nat) : Bool := coversFrom n s.ranges

/-- Whether a character is in the set. -/
def contains (s : CharSet) (c : Char) : Bool := s.covers c.toNat

/-- The union of two sets. -/
def union (s t : CharSet) : CharSet := ofRanges (s.ranges ++ t.ranges)

/-- The gaps between intervals, from a code point on, up to `high`. -/
def gapsFrom (high : Nat) (start : Nat) : List (Nat × Nat) → List (Nat × Nat)
  | [] => [(start, high)]
  | (l, h) :: rest => (start, l - 1) :: gapsFrom high (h + 1) rest

/-- The code points up to `high` that are not in the set. -/
def complementUpTo (high : Nat) (s : CharSet) : CharSet :=
  match s.ranges with
  | [] => ⟨[(0, high)]⟩
  | (l, h) :: rest =>
    let gaps := gapsFrom high (h + 1) rest
    ofRanges (if l = 0 then gaps else (0, l - 1) :: gaps)

/-- The characters that are not in the set. -/
def complement (s : CharSet) : CharSet := s.complementUpTo top

/-- The characters in both sets. -/
def inter (s t : CharSet) : CharSet := (s.complement.union t.complement).complement

/-- The characters of the first set that are not in the second. -/
def diff (s t : CharSet) : CharSet := s.inter t.complement

/-- The characters in exactly one of the two sets. -/
def symmDiff (s t : CharSet) : CharSet := (s.union t).diff (s.inter t)

/-- Whether every code point of the set is ASCII. -/
def isAscii (s : CharSet) : Bool := s.ranges.all fun r => r.2 < 0x80

/-- The code point of a set of one, if it is a set of one. -/
def point? (s : CharSet) : Option Nat :=
  match s.ranges with
  | [(l, h)] => if l = h then some l else none
  | _ => none

end CharSet
end Conformance
