import Conformance.Pattern.Expr

/-!
# Matching

An expression is matched by marking the characters in it. A mark on a character says that the
text read so far ends with a partial match that ends there. Reading a character moves the marks:
`shift` takes the old marks and a flag that says whether a match may begin here, and puts a mark on
every character of the expression that the character read can stand for and that a match can have
reached.

`nullable` says whether an expression matches nothing at a site, and `final` whether one of its
marks is at an end of it. Both depend on the site, because conditions do.

Sequences and choices carry two facts about themselves: whether they hold a mark, so that parts
without marks are not visited, and whether they match nothing under every condition.
-/

namespace Conformance.Pattern

/-- An expression with marks. `loop` is one or more times. -/
inductive Marked where
  | empty
  | never
  | char (mark : Bool) (c : Char)
  | set (mark : Bool) (s : CharSet)
  | look (l : Look)
  | seq (live always : Bool) (a b : Marked)
  | alt (live always : Bool) (a b : Marked)
  | loop (live always : Bool) (a : Marked)
  deriving Repr, Inhabited

namespace Marked

/-- Whether a mark is held. -/
def live : Marked → Bool
  | .empty | .never | .look _ => false
  | .char m _ | .set m _ => m
  | .seq l _ _ _ | .alt l _ _ _ | .loop l _ _ => l

/-- Whether nothing is matched under every condition. -/
def always : Marked → Bool
  | .empty => true
  | .never | .char _ _ | .set _ _ | .look _ => false
  | .seq _ e _ _ | .alt _ e _ _ | .loop _ e _ => e

/-- A sequence with the facts about it. -/
def mkSeq (a b : Marked) : Marked := .seq (a.live || b.live) (a.always && b.always) a b

/-- A choice with the facts about it. -/
def mkAlt (a b : Marked) : Marked := .alt (a.live || b.live) (a.always || b.always) a b

/-- A loop with the facts about it. -/
def mkLoop (a : Marked) : Marked := .loop a.live a.always a

/-- Whether nothing is matched at a site. -/
def nullable (site : Site) : Marked → Bool
  | .empty => true
  | .never | .char _ _ | .set _ _ => false
  | .look l => l.holds site
  | .seq _ always a b => always || (a.nullable site && b.nullable site)
  | .alt _ always a b => always || (a.nullable site || b.nullable site)
  | .loop _ always a => always || a.nullable site

/-- Whether a mark is at an end, at a site. -/
def final (site : Site) : Marked → Bool
  | .empty | .never | .look _ => false
  | .char m _ | .set m _ => m
  | .seq live _ a b => live && (b.final site || (a.final site && b.nullable site))
  | .alt live _ a b => live && (a.final site || b.final site)
  | .loop live _ a => live && a.final site

/-- The marks after a character that is read at a site; `enter` says whether a match may begin
    there. -/
def shift (site : Site) (c : Char) (enter : Bool) : Marked → Marked
  | .empty => .empty
  | .never => .never
  | .look l => .look l
  | .char _ d => .char (enter && d == c) d
  | .set _ s => .set (enter && s.contains c) s
  | .seq live always a b =>
    if enter || live then
      mkSeq (a.shift site c enter)
        (b.shift site c (a.final site || (enter && a.nullable site)))
    else .seq live always a b
  | .alt live always a b =>
    if enter || live then mkAlt (a.shift site c enter) (b.shift site c enter)
    else .alt live always a b
  | .loop live always a =>
    if enter || live then mkLoop (a.shift site c (enter || a.final site))
    else .loop live always a

/-- `n` copies one after the other, as a balanced tree; there is at least one. `fuel` bounds the
    depth. -/
def copies (e : Marked) : (fuel n : Nat) → Marked
  | 0, _ => e
  | fuel + 1, n =>
    if n ≤ 1 then e else mkSeq (copies e fuel (n / 2)) (copies e fuel (n - n / 2))

/-- An expression without marks from `low` to `high` times. -/
def times (e : Marked) (low : Nat) : Option Nat → Marked
  | none =>
    if low = 0 then mkAlt .empty (mkLoop e)
    else if low = 1 then mkLoop e
    else mkSeq (copies e low (low - 1)) (mkLoop e)
  | some high =>
    let more := high - low
    let front := if low = 0 then .empty else copies e low low
    if more = 0 then front
    else
      let back := copies (mkAlt .empty e) more more
      if low = 0 then back else mkSeq front back

/-- Whether nothing but the empty text is matched. -/
def idle : Marked → Bool
  | .empty | .look _ => true
  | .never | .char _ _ | .set _ _ => false
  | .seq _ _ a b | .alt _ _ a b => a.idle && b.idle
  | .loop _ _ a => a.idle

/-- An expression without marks from `low` to `high` times. What matches the empty text only is
    never needed twice. -/
def repeated (e : Marked) (low : Nat) (high : Option Nat) : Marked :=
  if e.idle then times e (min low 1) (some ((high.map (min · 1)).getD 1)) else times e low high

/-- An expression without marks. -/
def ofExpr : Expr → Marked
  | .empty => .empty
  | .never => .never
  | .char c => .char false c
  | .set s => .set false s
  | .look l => .look l
  | .group e => ofExpr e
  | .seq a b => mkSeq (ofExpr a) (ofExpr b)
  | .alt a b => mkAlt (ofExpr a) (ofExpr b)
  | .repeated low high e => (ofExpr e).repeated low high

/-- Whether a match ends here or later. `prev` is the character read last. -/
def findFrom (prev : Option Char) (m : Marked) : List Char → Bool
  | [] =>
    let site : Site := ⟨prev, none⟩
    m.final site || m.nullable site
  | c :: cs =>
    let site : Site := ⟨prev, some c⟩
    if m.final site || m.nullable site then true
    else findFrom (some c) (m.shift site c true) cs

end Marked

/-- Whether an expression matches somewhere in a text. -/
def Expr.occursIn (e : Expr) (text : List Char) : Bool :=
  (Marked.ofExpr e).findFrom none text

end Conformance.Pattern
