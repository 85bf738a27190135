import Conformance.Pattern.Reader
import Conformance.Pattern.Expr

/-!
# The meaning of patterns

A tree is turned into an expression from left to right, with the flags that are in force. Flags set
inside a group end with the group; flags set between parts stay in force for what follows, also in
the next branches of the same alternation.

Without the `unicode` flag a pattern speaks of octets. As only text is matched, what could match a
part of a character is refused.
-/

namespace Conformance.Pattern

/-- The flags in force. -/
structure Flags where
  caseInsensitive : Bool
  multiLine : Bool
  dotAll : Bool
  unicode : Bool
  crlf : Bool
  deriving DecidableEq, Repr

namespace Flags

/-- The flags at the start of a pattern. -/
def initial : Flags := ⟨false, false, false, true, false⟩

/-- The flags after a flag group. -/
def apply (f : Flags) (items : FlagItems) : Flags where
  caseInsensitive := (items.state? .caseInsensitive).getD f.caseInsensitive
  multiLine := (items.state? .multiLine).getD f.multiLine
  dotAll := (items.state? .dotAll).getD f.dotAll
  unicode := (items.state? .unicode).getD f.unicode
  crlf := (items.state? .crlf).getD f.crlf

end Flags

/-- The characters of a class in square brackets and colons. -/
def AsciiKind.set : AsciiKind → CharSet
  | .alnum => ⟨[(48, 57), (65, 90), (97, 122)]⟩
  | .alpha => ⟨[(65, 90), (97, 122)]⟩
  | .ascii => ⟨[(0, 127)]⟩
  | .blank => ⟨[(9, 9), (32, 32)]⟩
  | .cntrl => ⟨[(0, 31), (127, 127)]⟩
  | .digit => ⟨[(48, 57)]⟩
  | .graph => ⟨[(33, 126)]⟩
  | .lower => ⟨[(97, 122)]⟩
  | .print => ⟨[(32, 126)]⟩
  | .punct => ⟨[(33, 47), (58, 64), (91, 96), (123, 126)]⟩
  | .space => ⟨[(9, 13), (32, 32)]⟩
  | .upper => ⟨[(65, 90)]⟩
  | .word => ⟨[(48, 57), (65, 90), (95, 95), (97, 122)]⟩
  | .xdigit => ⟨[(48, 57), (65, 70), (97, 102)]⟩

/-- The characters of a class of one letter. -/
def ShortKind.set (unicode : Bool) : ShortKind → CharSet
  | .digit => if unicode then Unicode.digits else AsciiKind.digit.set
  | .space => if unicode then Unicode.whiteSpace else AsciiKind.space.set
  | .word => if unicode then Unicode.wordCharacters else AsciiKind.word.set

namespace Flags

/-- The largest code unit a class may hold: a code point, or an octet. -/
def largest (f : Flags) : Nat := if f.unicode then CharSet.top else 0xFF

/-- A set closed under case, if case does not count. -/
def fold (f : Flags) (s : CharSet) : CharSet :=
  if f.caseInsensitive then
    if f.unicode then Unicode.Folding.close s else Unicode.Folding.closeAscii s
  else s

/-- A set or its complement. -/
def negate (f : Flags) (negated : Bool) (s : CharSet) : CharSet :=
  if negated then s.complementUpTo f.largest else s

/-- A set of octets must hold ASCII only: no other octet is a character. -/
def checked (f : Flags) (span : Span) (s : CharSet) : Except Fault CharSet :=
  if f.unicode || s.isAscii then .ok s else refuseAt .invalidUtf8 span

end Flags

/-- The characters of a class that a letter or a name in colons stands for. -/
def shortSet (f : Flags) (span : Span) (kind : ShortKind) (negated : Bool) :
    Except Fault CharSet :=
  f.checked span (f.negate negated (kind.set f.unicode))

/-- The characters that have a property. -/
def propertySet (f : Flags) (cls : PropertyClass) : Except Fault CharSet :=
  if f.unicode then
    match Unicode.Property.resolve cls.query with
    | .ok s => .ok (f.negate cls.negated (f.fold s))
    | .error .propertyNotFound => refuseAt .propertyNotFound cls.span
    | .error .valueNotFound => refuseAt .propertyValueNotFound cls.span
  else refuseAt .unicodeNotAllowed cls.span

/-- The code of a character in a class. An octet written by its number is an octet where
    characters are not wanted, and must then be ASCII. -/
def classPoint (f : Flags) (lit : Literal) : Except Fault Nat :=
  let n := lit.char.toNat
  if f.unicode || n < 0x80 then .ok n
  else
    match lit.spelling with
    | .octet => refuseAt .invalidUtf8 lit.span
    | .plain => refuseAt .unicodeNotAllowed lit.span

mutual

/-- The characters of the content of a bracketed class. -/
def ClassTree.set (f : Flags) : ClassTree → Except Fault CharSet
  | .empty _ => .ok .empty
  | .literal lit =>
    match classPoint f lit with
    | .ok n => .ok (.point n)
    | .error e => .error e
  | .range _ low high => do
    let l ← classPoint f low
    let h ← classPoint f high
    return CharSet.ofRanges [(l, h)]
  | .ascii span kind negated => f.checked span (f.negate negated (f.fold kind.set))
  | .short span kind negated => shortSet f span kind negated
  | .property cls => propertySet f cls
  | .bracketed span negated content => do
    f.checked span (f.negate negated (f.fold (← content.set f)))
  | .union _ items => ClassTree.setOfAll f items
  | .binary _ op lhs rhs => do
    let l := f.fold (← lhs.set f)
    let r := f.fold (← rhs.set f)
    return match op with
      | .intersection => l.inter r
      | .difference => l.diff r
      | .symmetricDifference => l.symmDiff r

/-- The characters of any of several contents. -/
def ClassTree.setOfAll (f : Flags) : List ClassTree → Except Fault CharSet
  | [] => .ok .empty
  | t :: ts => do
    let s ← t.set f
    return s.union (← ClassTree.setOfAll f ts)

end

/-- The expression of a single character. -/
def literalExpr (f : Flags) (lit : Literal) : Except Fault Expr :=
  let n := lit.char.toNat
  if !f.unicode && lit.spelling = .octet && 0x80 ≤ n then refuseAt .invalidUtf8 lit.span
  else if f.caseInsensitive then .ok (Expr.ofSet (f.fold (.point n)))
  else .ok (.char lit.char)

/-- The expression of a dot. -/
def dotExpr (f : Flags) (span : Span) : Except Fault Expr :=
  if f.unicode then
    if f.dotAll then .ok (.set .all)
    else if f.crlf then .ok (.set (CharSet.ofRanges [(10, 10), (13, 13)]).complement)
    else .ok (.set (CharSet.point 10).complement)
  else refuseAt .invalidUtf8 span

/-- The condition of an assertion. -/
def AssertionKind.look (f : Flags) (kind : AssertionKind) : Look :=
  let alphabet := if f.unicode then Alphabet.unicode else .ascii
  match kind with
  | .startLine =>
    if f.multiLine then if f.crlf then .crlfLineStart else .lineStart else .textStart
  | .endLine => if f.multiLine then if f.crlf then .crlfLineEnd else .lineEnd else .textEnd
  | .startText => .textStart
  | .endText => .textEnd
  | .wordBoundary => .word alphabet .edge
  | .notWordBoundary => .word alphabet .interior
  | .wordStart => .word alphabet .opens
  | .wordEnd => .word alphabet .closes
  | .wordStartHalf => .word alphabet .halfOpens
  | .wordEndHalf => .word alphabet .halfCloses

mutual

/-- The expression of a tree, and the flags in force after it. -/
def Tree.expr (f : Flags) : Tree → Except Fault (Expr × Flags)
  | .empty _ => .ok (.empty, f)
  | .flags _ items => .ok (.empty, f.apply items)
  | .literal lit =>
    match literalExpr f lit with
    | .ok e => .ok (e, f)
    | .error e => .error e
  | .dot span => do return (← dotExpr f span, f)
  | .assertion _ kind => .ok (.look (kind.look f), f)
  | .short span kind negated => do return (.ofSet (← shortSet f span kind negated), f)
  | .property cls => do return (.ofSet (← propertySet f cls), f)
  | .bracketed span negated content => do
    return (.ofSet (← f.checked span (f.negate negated (f.fold (← content.set f)))), f)
  | .repetition _ counts body => do
    let (e, f) ← body.expr f
    return (.repeated counts.low counts.high e, f)
  | .group _ (.flags items) body => do
    let (e, _) ← body.expr (f.apply items)
    return (e, f)
  | .group _ .capture body => do
    let (e, _) ← body.expr f
    return (.group e, f)
  | .alternation _ branches => do
    let (es, f) ← Tree.exprsOnto [] f branches
    return (.alternation es, f)
  | .concat _ items => do
    let (es, f) ← Tree.exprsOnto [] f items
    return (.concat es, f)

/-- The expressions of a list of trees, read with the flags that each leaves to the next. `acc`
    holds those of the trees before, last first. -/
def Tree.exprsOnto (acc : List Expr) (f : Flags) : List Tree → Except Fault (List Expr × Flags)
  | [] => .ok (acc.reverse, f)
  | t :: ts =>
    match t.expr f with
    | .error e => .error e
    | .ok (e, f) => Tree.exprsOnto (e :: acc) f ts

end

/-- The expression of a pattern. -/
def Expr.parse (pattern : List Char) : Except Fault Expr := do
  let tree ← Tree.parse pattern
  let (e, _) ← tree.expr .initial
  return e

end Conformance.Pattern
