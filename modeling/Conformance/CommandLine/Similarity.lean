import Conformance.Decimal.Binary64

/-!
# Similar words

How alike two words are, for telling what a mistyped word may have meant.

Two words are alike if they share many characters at about the same places, in about the same
order. The measure is the mean of three ratios: the shared characters to the length of either word,
and those of them in order to all of them. It is computed with rounded numbers, because words are
compared with a bound that some pairs hit exactly.

This is how `clap` (§10.10 of the specification) finds what a word may have meant.
-/

namespace Conformance
namespace Similarity

/-- Whether a character stands at one of the places `low … high` of a word, and is not taken yet;
    if so, the word with the first such place taken. `place` is the place of the first character. -/
def takeWithin (c : Char) (low high : Nat) (place : Nat) :
    List (Char × Bool) → Option (List (Char × Bool))
  | [] => none
  | (d, taken) :: rest =>
    if high < place then none
    else if low ≤ place && d = c && !taken then some ((d, true) :: rest)
    else (takeWithin c low high (place + 1) rest).map ((d, taken) :: ·)

/-- The shared characters of a word in its order, and the other word with its shared characters
    taken. `shared` holds the characters before, last first. -/
def pairUp (range : Nat) (place : Nat) (shared : List Char) :
    List Char → List (Char × Bool) → List Char × List (Char × Bool)
  | [], other => (shared.reverse, other)
  | c :: cs, other =>
    match takeWithin c (place - range) (place + range) 0 other with
    | some other => pairUp range (place + 1) (c :: shared) cs other
    | none => pairUp range (place + 1) shared cs other

/-- How many places two words differ at. -/
def differences : List Char → List Char → Nat
  | a :: as, b :: bs => (if a = b then 0 else 1) + differences as bs
  | _, _ => 0

/-- How alike two words are. -/
def degree (a b : List Char) : Binary64 :=
  if a.isEmpty && b.isEmpty then .ofRatio 1 1
  else
    let range := max a.length b.length / 2 - 1
    let (shared, other) := pairUp range 0 [] a (b.map fun c => (c, false))
    let count := shared.length
    if count = 0 then .zero
    else
      let others := (other.filter (·.2)).map (·.1)
      let ordered := count - differences shared others / 2
      let sum := ((Binary64.ofRatio count a.length).add (.ofRatio count b.length)).add
        (.ofRatio ordered count)
      let (n, d) := sum.ratio
      .ofRatio n (3 * d)

/-- Whether a number is smaller than another. -/
def less (x y : Binary64) : Bool :=
  let (a, b) := x.ratio
  let (c, d) := y.ratio
  a * d < c * b

/-- The degree that similar words exceed. -/
def bound : Binary64 := .ofRatio 7 10

/-- The last of the words that are most like a word. `best` is the best one before. -/
def bestOf (word : String) (best : Option (Binary64 × String)) : List String → Option String
  | [] => best.map (·.2)
  | candidate :: rest =>
    let d := degree word.toList candidate.toList
    let better : Bool :=
      match best with
      | some (e, _) => !less d e
      | none => less bound d
    bestOf word (if better then some (d, candidate) else best) rest

/-- The word that is most like a given one, if it is similar. -/
def closest? (word : String) (candidates : List String) : Option String :=
  bestOf word none candidates

end Similarity
end Conformance
