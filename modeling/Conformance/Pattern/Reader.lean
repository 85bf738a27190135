import Conformance.Pattern.ClassReader

/-!
# Reading patterns

A pattern is read from left to right with a stack of what encloses the place that is being read:
groups that are open, and alternations whose next branch is being read. What has been read of the
current branch is a list of trees, last first.

Whether space is ignored is a flag that patterns set themselves; a group that sets it gives it back
when it is closed.
-/

namespace Conformance.Pattern

/-- What encloses the place that is being read. -/
inductive Frame where
  /-- An open group: the branch before it (where it starts and its trees), where the group starts,
      its kind, and whether space was ignored before it. -/
  | group (branchStart : Nat) (before : List Tree) (start : Nat) (kind : GroupKind)
      (ignoreSpace : Bool)
  /-- The finished branches of an alternation, last first, and where the first of them starts. -/
  | alternation (start : Nat) (branches : List Tree)
  deriving Repr

/-- What has been read of a pattern. -/
structure Progress where
  cursor : Cursor
  ignoreSpace : Bool
  names : List (List Char × Span)
  stack : List Frame
  start : Nat
  items : List Tree
  deriving Repr

/-- The trees of a branch, last first, as one tree. -/
def branchTree (start stop : Nat) : List Tree → Tree
  | [] => .empty ⟨start, stop⟩
  | [t] => t
  | ts => .concat ⟨start, stop⟩ ts.reverse

/-- The flag of a letter. -/
def flagNamed? (c : Char) : Option Flag :=
  match c with
  | 'i' => some .caseInsensitive
  | 'm' => some .multiLine
  | 's' => some .dotAll
  | 'U' => some .swapGreed
  | 'u' => some .unicode
  | 'R' => some .crlf
  | 'x' => some .ignoreSpace
  | _ => none

/-- Reads flags up to a colon or a closing parenthesis. `items` holds those read, last first. -/
def readFlags (items : List (Span × FlagItem)) (pos : Nat) :
    List Char → Except Fault (FlagItems × Cursor)
  | [] => refuse .flagUnexpectedEnd pos pos
  | c :: cs =>
    let span : Span := ⟨pos, pos + 1⟩
    if c = ':' || c = ')' then
      match items with
      | (s, .negation) :: _ => refuseAt .flagDanglingNegation s
      | _ => .ok (items.reverse, ⟨pos, c :: cs⟩)
    else if c = '-' then
      match items.find? (·.2 = .negation) with
      | some (s, _) => refuseAt (.flagRepeatedNegation s) span
      | none => readFlags ((span, .negation) :: items) (pos + 1) cs
    else
      match flagNamed? c with
      | none => refuseAt .flagUnrecognized span
      | some f =>
        match items.find? (·.2 = .flag f) with
        | some (s, _) => refuseAt (.flagDuplicate s) span
        | none => readFlags ((span, .flag f) :: items) (pos + 1) cs

/-- Whether a character may stand in the name of a group, and may begin it. -/
def isNameChar (first : Bool) (c : Char) : Bool :=
  if first then c = '_' || Unicode.alphabetic.contains c
  else c = '_' || c = '.' || c = '[' || c = ']' || Unicode.alphabetic.contains c
    || Unicode.Category.number.contains c

/-- Reads the name of a group up to a closing angle bracket, which is not taken. -/
def readGroupName (name : List Char) (pos : Nat) : List Char → Except Fault (List Char × Cursor)
  | [] => refuse .groupNameUnexpectedEnd pos pos
  | c :: cs =>
    if c = '>' then .ok (name.reverse, ⟨pos, c :: cs⟩)
    else if isNameChar name.isEmpty c then readGroupName (c :: name) (pos + 1) cs
    else refuse .groupNameInvalid pos (pos + 1)

/-- What a parenthesis opens: a group, or flags for the rest of the enclosing group. -/
inductive Opening where
  | group (kind : GroupKind) (names : List (List Char × Span)) (cursor : Cursor)
  | flags (items : FlagItems) (cursor : Cursor)

/-- Reads the name of a group and adds it to the names in use. -/
def readNamedGroup (names : List (List Char × Span)) (c : Cursor) : Except Fault Opening := do
  let (name, stop) ← readGroupName [] c.pos c.rest
  if name.isEmpty then refuse .groupNameEmpty c.pos c.pos
  else
    let span : Span := ⟨c.pos, stop.pos⟩
    match names.find? (·.1 = name) with
    | some (_, earlier) => refuseAt (.groupNameDuplicate earlier) span
    | none => return .group .capture ((name, span) :: names) stop.next

/-- Reads the front of a group. The cursor is at its parenthesis. -/
def readOpening (x : Bool) (names : List (List Char × Span)) (paren : Cursor) :
    Except Fault Opening :=
  let c := paren.nextSpace x
  let lookAround := ["?=", "?!", "?<=", "?<!"].find? c.startsWith
  match lookAround with
  | some mark => refuse .lookAround paren.pos (c.pos + mark.length)
  | none =>
    if c.startsWith "?P<" then readNamedGroup names (c.skip 3)
    else if c.startsWith "?<" then readNamedGroup names (c.skip 2)
    else if c.startsWith "?" then
      let inner := c.next
      if inner.atEnd then refuseAt .groupUnclosed paren.charSpan
      else
        match readFlags [] inner.pos inner.rest with
        | .error e => .error e
        | .ok (items, stop) =>
          if stop.char? = some ')' then
            if items.isEmpty then refuse .repetitionMissing c.pos c.pos
            else .ok (.flags items stop.next)
          else .ok (.group (.flags items) names stop.next)
    else .ok (.group .capture names c)

/-- Opens a group or sets flags. -/
def openGroup (p : Progress) : Except Fault Progress := do
  match ← readOpening p.ignoreSpace p.names p.cursor with
  | .flags items c =>
    let x := (items.state? .ignoreSpace).getD p.ignoreSpace
    let node := Tree.flags ⟨p.cursor.pos, c.pos⟩ items
    return { p with cursor := c, ignoreSpace := x, items := node :: p.items }
  | .group kind names c =>
    let x :=
      match kind with
      | .flags items => (items.state? .ignoreSpace).getD p.ignoreSpace
      | .capture => p.ignoreSpace
    let frame := Frame.group p.start p.items p.cursor.pos kind p.ignoreSpace
    return ⟨c, x, names, frame :: p.stack, c.pos, []⟩

/-- The current branch and the finished ones of its alternation as one tree, with what encloses
    them. -/
def closeBranches (p : Progress) : Tree × List Frame :=
  let last := branchTree p.start p.cursor.pos p.items
  match p.stack with
  | .alternation start branches :: stack =>
    (.alternation ⟨start, p.cursor.pos⟩ (last :: branches).reverse, stack)
  | stack => (last, stack)

/-- Closes a group. The cursor is at the parenthesis. -/
def closeGroup (p : Progress) : Except Fault Progress :=
  let (body, stack) := closeBranches p
  match stack with
  | .group branchStart before start kind x :: stack =>
    let c := p.cursor.next
    .ok { p with
      cursor := c, ignoreSpace := x, stack := stack, start := branchStart
      items := .group ⟨start, c.pos⟩ kind body :: before }
  | _ => refuseAt .groupUnopened p.cursor.charSpan

/-- Ends a branch of an alternation. The cursor is at the bar. -/
def nextBranch (p : Progress) : Progress :=
  let done := branchTree p.start p.cursor.pos p.items
  let c := p.cursor.next
  match p.stack with
  | .alternation start branches :: stack =>
    { p with
      cursor := c, stack := .alternation start (done :: branches) :: stack, start := c.pos
      items := [] }
  | stack =>
    { p with cursor := c, stack := .alternation p.start [done] :: stack, start := c.pos, items := [] }

/-- The end of the pattern: everything has to be closed. -/
def finish (p : Progress) : Except Fault Tree :=
  match closeBranches p with
  | (tree, []) => .ok tree
  | (_, .group _ _ start _ _ :: _) => refuse .groupUnclosed start (start + 1)
  | (_, .alternation .. :: _) => refuse .groupUnclosed p.cursor.pos p.cursor.pos

/-- The last tree of a branch, if it can be repeated, and the trees before it. -/
def repeatable (p : Progress) : Except Fault (Tree × List Tree) :=
  match p.items with
  | [] => refuseAt .repetitionMissing p.cursor.here
  | .empty _ :: _ => refuseAt .repetitionMissing p.cursor.here
  | .flags .. :: _ => refuseAt .repetitionMissing p.cursor.here
  | t :: before => .ok (t, before)

/-- The cursor after a question mark, if there is one. -/
def skipLazy (c : Cursor) : Cursor := if c.char? = some '?' then c.next else c

/-- Reads one of the operators `?`, `*` and `+`. -/
def readRepetition (counts : Counts) (p : Progress) : Except Fault Progress := do
  let (body, before) ← repeatable p
  let c := skipLazy p.cursor.next
  let node := Tree.repetition ⟨body.span.start, c.pos⟩ counts body
  return { p with cursor := c, items := node :: before }

/-- The cursor after the white space that may stand before a number. -/
def skipBlanks (pos : Nat) : List Char → Cursor
  | [] => ⟨pos, []⟩
  | c :: cs => if Unicode.whiteSpace.contains c then skipBlanks (pos + 1) cs else ⟨pos, c :: cs⟩

/-- Reads decimal digits. `value` is `none` before the first one. -/
def readDigits (x : Bool) : (fuel : Nat) → (value : Option Nat) → Cursor → Option Nat × Cursor
  | 0, value, c => (value, c)
  | fuel + 1, value, c =>
    match c.char? with
    | some d =>
      if d.isDigit then readDigits x fuel (some (value.getD 0 * 10 + (d.toNat - 48))) (c.nextSpace x)
      else (value, c)
    | none => (value, c)

/-- Skips the white space that may stand after a number. -/
def skipBlanksAfter (x : Bool) : (fuel : Nat) → Cursor → Cursor
  | 0, c => c
  | fuel + 1, c =>
    match c.char? with
    | some d => if Unicode.whiteSpace.contains d then skipBlanksAfter x fuel (c.nextSpace x) else c
    | none => c

/-- Reads a number of repetitions. Numbers from `2 ^ 32` on are refused. -/
def readCount (x : Bool) (c : Cursor) : Except Fault Nat × Cursor :=
  let first := skipBlanks c.pos c.rest
  let (value, stop) := readDigits x first.rest.length none first
  let after := skipBlanksAfter x stop.rest.length stop
  match value with
  | none => (refuse .countEmpty first.pos stop.pos, after)
  | some n =>
    (if n < 4294967296 then .ok n else refuse .decimalInvalid first.pos stop.pos, after)

/-- Reads the counts of a repetition in braces up to the closing brace, which is not taken. -/
def readCounts (x : Bool) (start : Nat) (c : Cursor) : Except Fault (Counts × Cursor) := do
  if c.atEnd then refuse .countUnclosed start c.pos
  else
    let (low, c) := readCount x c
    match c.char? with
    | none => refuse .countUnclosed start c.pos
    | some ',' =>
      let c := c.nextSpace x
      match c.char? with
      | none => refuse .countUnclosed start c.pos
      | some '\x7d' => return (⟨← low, none⟩, c)
      | some _ =>
        let low ← low
        let (high, c) := readCount x c
        return (⟨low, some (← high)⟩, c)
    | some _ =>
      let n ← low
      return (⟨n, some n⟩, c)

/-- Reads a repetition in braces. -/
def readCounted (p : Progress) : Except Fault Progress := do
  let x := p.ignoreSpace
  let start := p.cursor.pos
  let (body, before) ← repeatable p
  let (counts, c) ← readCounts x start (p.cursor.nextSpace x)
  if c.char? = some '\x7d' then
    let c := skipLazy (c.nextSpace x)
    match counts.high with
    | some h =>
      if h < counts.low then refuse .countInvalid start c.pos
      else
        let node := Tree.repetition ⟨body.span.start, c.pos⟩ counts body
        return { p with cursor := c, items := node :: before }
    | none =>
      let node := Tree.repetition ⟨body.span.start, c.pos⟩ counts body
      return { p with cursor := c, items := node :: before }
  else refuse .countUnclosed start c.pos

/-- Reads an element that stands by itself. -/
def readElement (d : Char) (p : Progress) : Except Fault Progress := do
  let c := p.cursor
  let add (t : Tree) (c : Cursor) : Progress := { p with cursor := c, items := t :: p.items }
  match d with
  | '\\' =>
    let (e, c) ← readEscape p.ignoreSpace c
    return add e.toTree c
  | '.' => return add (.dot c.charSpan) c.next
  | '^' => return add (.assertion c.charSpan .startLine) c.next
  | '$' => return add (.assertion c.charSpan .endLine) c.next
  | d => return add (.literal ⟨c.charSpan, .plain, d⟩) c.next

/-- Reads what the character here begins. -/
def readPart (d : Char) (p : Progress) : Except Fault Progress :=
  match d with
  | '(' => openGroup p
  | ')' => closeGroup p
  | '|' => .ok (nextBranch p)
  | '[' => do
    let (t, c) ← readClass p.ignoreSpace p.cursor
    return { p with cursor := c, items := t :: p.items }
  | '?' => readRepetition ⟨0, some 1⟩ p
  | '*' => readRepetition ⟨0, none⟩ p
  | '+' => readRepetition ⟨1, none⟩ p
  | '\x7b' => readCounted p
  | d => readElement d p

/-- Reads to the end of the pattern. `fuel` bounds the number of parts. -/
def readFrom : (fuel : Nat) → Progress → Except Fault Tree
  | 0, p => finish p
  | fuel + 1, p =>
    let p := { p with cursor := p.cursor.skipSpace p.ignoreSpace }
    match p.cursor.char? with
    | none => finish p
    | some d =>
      match readPart d p with
      | .ok p => readFrom fuel p
      | .error e => .error e

/-- The tree of a pattern, before its nesting is checked. -/
def readTree (pattern : List Char) : Except Fault Tree :=
  readFrom (pattern.length + 1) ⟨⟨0, pattern⟩, false, [], [], 0, []⟩

/-! ## Nesting -/

mutual

/-- The first node of a class, in reading order, that lies deeper than `room` levels. -/
def ClassTree.tooDeep? (room : Nat) : ClassTree → Option Span
  | .bracketed span _ content =>
    match room with
    | 0 => some span
    | room + 1 => content.tooDeep? room
  | .union span items =>
    match room with
    | 0 => some span
    | room + 1 => ClassTree.anyTooDeep? room items
  | .binary span _ lhs rhs =>
    match room with
    | 0 => some span
    | room + 1 => (lhs.tooDeep? room).or (rhs.tooDeep? room)
  | _ => none

/-- The first node of a list of class contents that lies too deep. -/
def ClassTree.anyTooDeep? (room : Nat) : List ClassTree → Option Span
  | [] => none
  | t :: ts =>
    match t.tooDeep? room with
    | some span => some span
    | none => ClassTree.anyTooDeep? room ts

end

mutual

/-- The first node, in reading order, that lies deeper than `room` levels. -/
def Tree.tooDeep? (room : Nat) : Tree → Option Span
  | .bracketed span _ content =>
    match room with
    | 0 => some span
    | room + 1 => content.tooDeep? room
  | .repetition span _ body =>
    match room with
    | 0 => some span
    | room + 1 => body.tooDeep? room
  | .group span _ body =>
    match room with
    | 0 => some span
    | room + 1 => body.tooDeep? room
  | .alternation span branches =>
    match room with
    | 0 => some span
    | room + 1 => Tree.anyTooDeep? room branches
  | .concat span items =>
    match room with
    | 0 => some span
    | room + 1 => Tree.anyTooDeep? room items
  | _ => none

/-- The first node of a list of trees that lies too deep. -/
def Tree.anyTooDeep? (room : Nat) : List Tree → Option Span
  | [] => none
  | t :: ts =>
    match t.tooDeep? room with
    | some span => some span
    | none => Tree.anyTooDeep? room ts

end

/-- How deep a pattern may be nested. -/
def nestLimit : Nat := 250

/-- The tree of a pattern. -/
def Tree.parse (pattern : List Char) : Except Fault Tree := do
  let tree ← readTree pattern
  match tree.tooDeep? nestLimit with
  | some span => refuseAt (.nestLimitExceeded nestLimit) span
  | none => return tree

end Conformance.Pattern
