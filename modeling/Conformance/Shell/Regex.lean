import Conformance.Shell.Octet

/-!
# Regular expressions of programs

The expressions that `grep`, `sed`, `expr` and `awk` look for. Of all parts of a text that match, the
one that begins first is found, and of those that begin there the longest one.

From a spot in a text, an expression leads to the spots where its matches end. Of ways that lead to the
same spot one is kept, that whose earlier parts are longer, so the number of spots is bounded by the
length of the text.
-/

namespace Conformance.Shell

/-- A regular expression. -/
inductive Regex where
  | empty
  /-- An octet inside of ranges, or outside of them. -/
  | member (negated : Bool) (ranges : List (UInt8 × UInt8))
  | lineStart
  | lineEnd
  | wordStart
  | wordEnd
  | wordEdge
  | wordInside
  | sequence (first second : Regex)
  | either (first second : Regex)
  | repeated (body : Regex) (least : Nat) (most : Option Nat)
  | group (n : Nat) (body : Regex)
  /-- What a group matched once more. -/
  | again (n : Nat) (fold : Bool)
  deriving DecidableEq, Repr

namespace Regex

/-- A text to look at. With `inner`, lines inside of it have their own ends. -/
structure Subject where
  octets : Array UInt8
  inner : Bool

/-- The subject of octets. -/
def Subject.of (bs : Bytes) : Subject := ⟨bs.toArray, false⟩

/-- A position in a text, and where the groups before it lie. -/
structure Spot where
  position : Nat
  groups : List (Nat × Nat × Nat)
  deriving Repr

/-- The spots with the greatest positions first. -/
def descending (spots : List Spot) : List Spot :=
  spots.mergeSort fun a b => b.position ≤ a.position

/-- The spots with the first one of every position, the greatest positions first. -/
def distinct (size : Nat) (spots : List Spot) : List Spot :=
  match spots with
  | [] | [_] => spots
  | spots =>
    let kept := spots.foldl
      (fun (kept : Array Bool × List Spot) s =>
        if kept.1[s.position]?.getD true then kept
        else (kept.1.setIfInBounds s.position true, s :: kept.2))
      (Array.replicate (size + 1) false, [])
    descending kept.2.reverse

/-- Takes a step a number of times. -/
def times (size : Nat) (step : Spot → List Spot) : Nat → List Spot → List Spot
  | 0, spots => spots
  | n + 1, spots => times size step n (distinct size (spots.flatMap step))

/-- All spots that up to `count` steps lead to. `seen` holds the positions met,
    and `acc` the spots before. -/
def reached (step : Spot → List Spot) :
    (count : Nat) → (seen : Array Bool) → (acc level : List Spot) → List Spot
  | 0, _, acc, _ => acc
  | count + 1, seen, acc, level =>
    let (seen, next) := (level.flatMap step).foldl
      (fun (kept : Array Bool × List Spot) s =>
        if kept.1[s.position]?.getD true then kept
        else (kept.1.setIfInBounds s.position true, s :: kept.2))
      (seen, [])
    if next.isEmpty then acc else reached step count seen (next.reverse ++ acc) next.reverse

/-- Whether an octet stands at a position that belongs to words. -/
def isWordAt (t : Subject) (i : Nat) : Bool := t.octets[i]?.any isNameByte

/-- Whether a word ends directly before a position. -/
def isWordBefore (t : Subject) (i : Nat) : Bool := i != 0 && isWordAt t (i - 1)

/-- Whether an octet is a member of ranges. -/
def isMember (negated : Bool) (ranges : List (UInt8 × UInt8)) (b : UInt8) : Bool :=
  (ranges.any fun r => r.1 ≤ b && b ≤ r.2) != negated

/-- How many octets from a position on are members, up to `count`. -/
def run (t : Subject) (negated : Bool) (ranges : List (UInt8 × UInt8)) (i : Nat) :
    (count : Nat) → Nat
  | 0 => 0
  | count + 1 =>
    if t.octets[i]?.any (isMember negated ranges) then run t negated ranges (i + 1) count + 1
    else 0

/-- Whether a part of a text stands at another position once more. -/
def repeats (t : Subject) (fold : Bool) (i j : Nat) : (count : Nat) → Bool
  | 0 => true
  | count + 1 =>
    match t.octets[i]?, t.octets[j]? with
    | some a, some b =>
      (a == b || (fold && lowerByte a == lowerByte b)) && repeats t fold (i + 1) (j + 1) count
    | _, _ => false

/-- The spots where the matches of an expression end that begin at a spot. -/
def ends (t : Subject) : Regex → Spot → List Spot
  | .empty, s => [s]
  | .member negated ranges, s =>
    if t.octets[s.position]?.any (isMember negated ranges) then
      [{ s with position := s.position + 1 }]
    else []
  | .lineStart, s =>
    if s.position = 0 || (t.inner && t.octets[s.position - 1]? = some 0x0A) then [s] else []
  | .lineEnd, s =>
    if s.position = t.octets.size || (t.inner && t.octets[s.position]? = some 0x0A) then [s]
    else []
  | .wordStart, s =>
    if !isWordBefore t s.position && isWordAt t s.position then [s] else []
  | .wordEnd, s =>
    if isWordBefore t s.position && !isWordAt t s.position then [s] else []
  | .wordEdge, s =>
    if isWordBefore t s.position != isWordAt t s.position then [s] else []
  | .wordInside, s =>
    if isWordBefore t s.position = isWordAt t s.position then [s] else []
  | .sequence a b, s => distinct t.octets.size ((ends t a s).flatMap (ends t b))
  | .either a b, s => distinct t.octets.size (ends t a s ++ ends t b s)
  | .repeated (.member negated ranges) least most, s =>
    let count := run t negated ranges s.position (most.getD t.octets.size)
    (List.range (count + 1 - least)).map fun i => { s with position := s.position + count - i }
  | .repeated body least most, s =>
    let step := ends t body
    let first := times t.octets.size step least [s]
    let seen := first.foldl (fun seen s => seen.setIfInBounds s.position true)
      (Array.replicate (t.octets.size + 1) false)
    descending (reached step ((most.map (· - least)).getD (t.octets.size + 1)) seen first first)
  | .group n body, s =>
    (ends t body s).map fun e =>
      { e with groups := (n, s.position, e.position) :: e.groups.filter (·.1 ≠ n) }
  | .again n fold, s =>
    match s.groups.find? (·.1 = n) with
    | some (_, i, j) =>
      if repeats t fold i s.position (j - i) then [{ s with position := s.position + (j - i) }]
      else []
    | none => []

/-- Where the longest match ends that begins at a position. -/
def matchAt? (t : Subject) (r : Regex) (i : Nat) : Option Spot :=
  (ends t r ⟨i, []⟩).foldl
    (fun best s =>
      match best with
      | none => some s
      | some b => if b.position < s.position then some s else some b)
    none

/-- A part of a text that matched, and its groups. -/
structure Found where
  start : Nat
  finish : Nat
  groups : List (Nat × Nat × Nat)
  deriving Repr

/-- The first match from a position on, looked for at `count` positions. -/
def searchFrom (t : Subject) (r : Regex) (i : Nat) : (count : Nat) → Option Found
  | 0 => none
  | count + 1 =>
    match matchAt? t r i with
    | some s => some ⟨i, s.position, s.groups⟩
    | none => searchFrom t r (i + 1) count

/-- The first match from a position on. -/
def search? (t : Subject) (r : Regex) (i : Nat) : Option Found :=
  searchFrom t r i (t.octets.size + 1 - i)

/-- Whether a text holds a match. -/
def occursIn (r : Regex) (bs : Bytes) : Bool := (search? (.of bs) r 0).isSome

/-- A part of a text. -/
def Subject.part (t : Subject) (i j : Nat) : Bytes := (t.octets.extract i j).toList

/-- What a group of a match holds; nothing if it took no part. -/
def Found.group (t : Subject) (f : Found) (n : Nat) : Bytes :=
  if n = 0 then t.part f.start f.finish
  else
    match f.groups.find? (·.1 = n) with
    | some (_, i, j) => t.part i j
    | none => []

end Regex
end Conformance.Shell
