import Conformance.Pattern.EscapeReader

/-!
# Reading bracketed classes

A class is read with a stack of what encloses the place that is being read: classes that are open,
and operators that wait for their right-hand side. Operators associate to the left and bind weaker
than juxtaposition.
-/

namespace Conformance.Pattern

/-- The items read since the last bracket or operator, last first, and the part of the pattern
    they stand for. -/
structure ItemRun where
  span : Span
  items : List ClassTree
  deriving Repr

namespace ItemRun

/-- No items yet. -/
def start (p : Nat) : ItemRun := ⟨⟨p, p⟩, []⟩

/-- One more item. -/
def push (r : ItemRun) (t : ClassTree) : ItemRun :=
  ⟨⟨if r.items.isEmpty then t.span.start else r.span.start, t.span.stop⟩, t :: r.items⟩

/-- The items as one tree. -/
def toTree (r : ItemRun) : ClassTree :=
  match r.items with
  | [] => .empty r.span
  | [t] => t
  | ts => .union r.span ts.reverse

end ItemRun

/-- What encloses the place that is being read. -/
inductive ClassFrame where
  /-- An open class: the items before it, what was read of it when it was opened, and whether it
      is a complement. -/
  | opened (before : ItemRun) (span : Span) (negated : Bool)
  /-- An operator with its left-hand side. -/
  | waiting (op : SetOperator) (lhs : ClassTree)
  deriving Repr

/-- Closes the operator on top of the stack, if there is one, with its right-hand side. -/
def closeOperator (rhs : ClassTree) : List ClassFrame → ClassTree × List ClassFrame
  | .waiting op lhs :: stack => (.binary ⟨lhs.span.start, rhs.span.stop⟩ op lhs rhs, stack)
  | stack => (rhs, stack)

/-- The refusal of a class that is not closed: it marks the innermost open class. -/
def unclosedClass {α : Type} : List ClassFrame → Except Fault α
  | .opened _ span _ :: _ => refuseAt .classUnclosed span
  | .waiting .. :: stack => unclosedClass stack
  | [] => refuse .classUnclosed 0 0

/-- The classes with names of their own. -/
def asciiNamed? (name : List Char) : Option AsciiKind :=
  match String.ofList name with
  | "alnum" => some .alnum
  | "alpha" => some .alpha
  | "ascii" => some .ascii
  | "blank" => some .blank
  | "cntrl" => some .cntrl
  | "digit" => some .digit
  | "graph" => some .graph
  | "lower" => some .lower
  | "print" => some .print
  | "punct" => some .punct
  | "space" => some .space
  | "upper" => some .upper
  | "word" => some .word
  | "xdigit" => some .xdigit
  | _ => none

/-- Tries to read a class such as `[:alpha:]` or `[:^alpha:]`. The cursor is at the bracket.
    Anything else is left to be read as a class in brackets. -/
def readAscii? (c : Cursor) : Option (ClassTree × Cursor) :=
  match c.rest with
  | '[' :: ':' :: rest =>
    let (negated, rest, lead) :=
      match rest with
      | '^' :: rest => (true, rest, 3)
      | rest => (false, rest, 2)
    let name := rest.takeWhile (· != ':')
    match rest.drop name.length, asciiNamed? name with
    | ':' :: ']' :: after, some kind =>
      let stop := c.pos + lead + name.length + 2
      some (.ascii ⟨c.pos, stop⟩ kind negated, ⟨stop, after⟩)
    | _, _ => none
  | _ => none

/-- Reads one element of a class. -/
def readClassElement (x : Bool) (c : Cursor) : Except Fault (Primitive × Cursor) :=
  match c.char? with
  | none => refuse .classUnclosed c.pos c.pos
  | some '\\' => readEscape x c
  | some d => .ok (.literal ⟨c.charSpan, .plain, d⟩, c.next)

/-- An element as an item of a class. -/
def Primitive.toItem : Primitive → Except Fault ClassTree
  | .literal l => .ok (.literal l)
  | .short s k n => .ok (.short s k n)
  | .property p => .ok (.property p)
  | .assertion s _ | .dot s => refuseAt .classEscapeInvalid s

/-- An element as an end of a range. -/
def Primitive.toBound : Primitive → Except Fault Literal
  | .literal l => .ok l
  | p => refuseAt .classRangeLiteral p.span

/-- Reads an element or a range. A hyphen before a closing bracket or another hyphen makes no
    range. -/
def readRange (x : Bool) (stack : List ClassFrame) (c : Cursor) :
    Except Fault (ClassTree × Cursor) := do
  let (first, c) ← readClassElement x c
  let c := c.skipSpace x
  match c.char? with
  | none => unclosedClass stack
  | some d =>
    if d != '-' || c.peekSpace? x = some ']' || c.peekSpace? x = some '-' then
      return (← first.toItem, c)
    else
      let c := c.nextSpace x
      if c.atEnd then unclosedClass stack
      else
        let (second, c) ← readClassElement x c
        let low ← first.toBound
        let high ← second.toBound
        let span : Span := ⟨first.span.start, second.span.stop⟩
        if low.char ≤ high.char then return (.range span low high, c)
        else refuseAt .classRangeInvalid span

/-- Reads the hyphens at the front of a class, which stand for themselves. `fuel` bounds their
    number. -/
def readHyphens (x : Bool) (start : Nat) :
    (fuel : Nat) → ItemRun → Cursor → Except Fault (ItemRun × Cursor)
  | 0, run, c => .ok (run, c)
  | fuel + 1, run, c =>
    if c.char? = some '-' then
      let run := run.push (.literal ⟨c.charSpan, .plain, '-'⟩)
      let c := c.nextSpace x
      if c.atEnd then refuse .classUnclosed start start
      else readHyphens x start fuel run c
    else .ok (run, c)

/-- Reads the front of a class: the bracket, a caret, and hyphens or a closing bracket that stand
    for themselves. The result holds the items of the new class, its span so far, whether it is a
    complement, and the cursor. -/
def readClassOpen (x : Bool) (c : Cursor) :
    Except Fault (ItemRun × Span × Bool × Cursor) := do
  let start := c.pos
  let c := c.nextSpace x
  if c.atEnd then refuse .classUnclosed start c.pos
  else
    let negated := c.char? = some '^'
    let c := if negated then c.nextSpace x else c
    if c.atEnd then refuse .classUnclosed start c.pos
    else
      let (run, c) ← readHyphens x start c.rest.length (.start c.pos) c
      if run.items.isEmpty && c.char? = some ']' then
        let run := run.push (.literal ⟨c.charSpan, .plain, ']'⟩)
        let c := c.nextSpace x
        if c.atEnd then refuse .classUnclosed start c.pos
        else return (run, ⟨start, c.pos⟩, negated, c)
      else return (run, ⟨start, c.pos⟩, negated, c)

/-- The operator that begins here. -/
def operatorAt? (c : Cursor) : Option SetOperator :=
  match c.rest with
  | '&' :: '&' :: _ => some .intersection
  | '-' :: '-' :: _ => some .difference
  | '~' :: '~' :: _ => some .symmetricDifference
  | _ => none

/-- Reads a class to its end. The cursor is at the bracket that opens it when the stack is empty,
    and anywhere inside it later. `fuel` bounds the number of elements. -/
def readClassFrom (x : Bool) :
    (fuel : Nat) → ItemRun → List ClassFrame → Cursor → Except Fault (Tree × Cursor)
  | 0, _, stack, _ => unclosedClass stack
  | fuel + 1, run, stack, c => do
    let c := c.skipSpace x
    match c.char? with
    | none => unclosedClass stack
    | some '[' =>
      match (if stack.isEmpty then none else readAscii? c) with
      | some (item, c) => readClassFrom x fuel (run.push item) stack c
      | none =>
        let (inner, span, negated, c) ← readClassOpen x c
        readClassFrom x fuel inner (.opened run span negated :: stack) c
    | some ']' =>
      let (content, stack) := closeOperator run.toTree stack
      let after := c.next
      match stack with
      | [.opened _ span negated] =>
        return (.bracketed ⟨span.start, after.pos⟩ negated content, after)
      | .opened before span negated :: stack =>
        let item := ClassTree.bracketed ⟨span.start, after.pos⟩ negated content
        readClassFrom x fuel (before.push item) stack after
      | stack => unclosedClass stack
    | some _ =>
      match operatorAt? c with
      | some op =>
        let (lhs, stack) := closeOperator run.toTree stack
        readClassFrom x fuel (.start (c.pos + 2)) (.waiting op lhs :: stack) (c.skip 2)
      | none =>
        let (item, c) ← readRange x stack c
        readClassFrom x fuel (run.push item) stack c

/-- Reads a bracketed class. The cursor is at its opening bracket. -/
def readClass (x : Bool) (c : Cursor) : Except Fault (Tree × Cursor) :=
  readClassFrom x (c.rest.length + 1) (.start c.pos) [] c

end Conformance.Pattern
