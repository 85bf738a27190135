import Conformance.Unicode.Property

/-!
# Expressions

What a pattern means, without its spelling: which texts it matches, and under which conditions on
the place where they stand.

`Expr.Matches r before text after` says that `r` matches `text` where it stands between `before` and
`after`. The condition of a `Look` depends on the two characters around a position only.
-/

namespace Conformance.Pattern

/-- Where a position stands: the character before it and the one after it. -/
structure Site where
  prev : Option Char
  next : Option Char
  deriving DecidableEq, Repr

/-- Which characters count as parts of words. -/
inductive Alphabet where
  | ascii | unicode
  deriving DecidableEq, Repr

/-- The sides on which a word is asked for. -/
inductive Boundary where
  /-- A word on one side only. -/
  | edge
  /-- Words on both sides or on none. -/
  | interior
  /-- A word begins. -/
  | opens
  /-- A word ends. -/
  | closes
  /-- No word before. -/
  | halfOpens
  /-- No word after. -/
  | halfCloses
  deriving DecidableEq, Repr

/-- A condition on a position. -/
inductive Look where
  | textStart | textEnd | lineStart | lineEnd | crlfLineStart | crlfLineEnd
  | word (alphabet : Alphabet) (boundary : Boundary)
  deriving DecidableEq, Repr

/-- The ASCII letters and digits and the underscore. -/
def asciiWord (c : Char) : Bool := c.isAlphanum || c = '_'

/-- Whether a position satisfies a condition; `isWord` says which characters are parts of words. -/
def Boundary.holds (isWord : Char → Bool) (site : Site) (b : Boundary) : Bool :=
  let before := site.prev.any isWord
  let after := site.next.any isWord
  match b with
  | .edge => before != after
  | .interior => before == after
  | .opens => !before && after
  | .closes => before && !after
  | .halfOpens => !before
  | .halfCloses => !after

/-- Whether a position satisfies a condition. -/
def Look.holds (site : Site) : Look → Bool
  | .textStart => site.prev.isNone
  | .textEnd => site.next.isNone
  | .lineStart => site.prev.isNone || site.prev = some '\n'
  | .lineEnd => site.next.isNone || site.next = some '\n'
  | .crlfLineStart =>
    site.prev.isNone || site.prev = some '\n'
      || (site.prev = some '\r' && site.next != some '\n')
  | .crlfLineEnd =>
    site.next.isNone || site.next = some '\r'
      || (site.next = some '\n' && site.prev != some '\r')
  | .word .ascii b => b.holds asciiWord site
  | .word .unicode b => b.holds Unicode.wordCharacters.contains site

/-- Expressions. `repeated` matches its part from `low` to `high` times. A group marks its part for
    later reference and matches what its part matches. -/
inductive Expr where
  | empty
  | never
  | char (c : Char)
  | set (s : CharSet)
  | look (l : Look)
  | group (e : Expr)
  | seq (a b : Expr)
  | alt (a b : Expr)
  | repeated (low : Nat) (high : Option Nat) (e : Expr)
  deriving DecidableEq, Repr, Inhabited

namespace Expr

/-- Expressions one after the other, as a balanced tree: a long sequence does not make a deep
    expression. `fuel` bounds the depth. -/
def balanced : (fuel : Nat) → List Expr → Expr
  | _, [] => .empty
  | _, [e] => e
  | 0, e :: es => es.foldl .seq e
  | fuel + 1, es =>
    let half := es.length / 2
    .seq (balanced fuel (es.take half)) (balanced fuel (es.drop half))

/-- Whether an expression is the empty one. -/
def isEmpty : Expr → Bool
  | .empty => true
  | _ => false

/-- Expressions one after the other. -/
def concat (es : List Expr) : Expr :=
  let es := es.filter fun e => !e.isEmpty
  balanced es.length es

/-- A choice between expressions. A choice ends with nothing to choose, so that a choice inside its
    last branch can be told from more branches. -/
def alternation : List Expr → Expr
  | [] => .never
  | e :: es => .alt e (alternation es)

/-- A set as an expression: the set of one character is that character. -/
def ofSet (s : CharSet) : Expr :=
  match s.ranges with
  | [] => .never
  | _ =>
    match s.point? with
    | some n => .char (Char.ofNat n)
    | none => .set s

/-- `r.Matches prev text next`: the expression matches the text where it stands between the
    characters `prev` and `next`, if there are any. -/
inductive Matches : Expr → Option Char → List Char → Option Char → Prop
  | empty (p n : Option Char) : Matches .empty p [] n
  | char (c : Char) (p n : Option Char) : Matches (.char c) p [c] n
  | set (s : CharSet) (c : Char) (p n : Option Char) (h : s.contains c = true) :
      Matches (.set s) p [c] n
  | look (l : Look) (p n : Option Char) (h : l.holds ⟨p, n⟩ = true) : Matches (.look l) p [] n
  | group (e : Expr) (p : Option Char) (w : List Char) (n : Option Char) (h : Matches e p w n) :
      Matches (.group e) p w n
  | seq (a b : Expr) (p : Option Char) (u v : List Char) (n : Option Char)
      (hu : Matches a p u (v.head?.or n)) (hv : Matches b (u.getLast?.or p) v n) :
      Matches (.seq a b) p (u ++ v) n
  | altLeft (a b : Expr) (p : Option Char) (w : List Char) (n : Option Char)
      (h : Matches a p w n) : Matches (.alt a b) p w n
  | altRight (a b : Expr) (p : Option Char) (w : List Char) (n : Option Char)
      (h : Matches b p w n) : Matches (.alt a b) p w n
  | stop (e : Expr) (high : Option Nat) (p n : Option Char) : Matches (.repeated 0 high e) p [] n
  | more (e : Expr) (low : Nat) (high : Option Nat) (p : Option Char) (u v : List Char)
      (n : Option Char) (hh : high ≠ some 0) (hu : Matches e p u (v.head?.or n))
      (hv : Matches (.repeated (low - 1) (high.map (· - 1)) e) (u.getLast?.or p) v n) :
      Matches (.repeated low high e) p (u ++ v) n

end Expr
end Conformance.Pattern
