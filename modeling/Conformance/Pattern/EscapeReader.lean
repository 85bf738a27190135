import Conformance.Pattern.Cursor

/-!
# Reading escapes

What a backslash begins: characters by name, by number or as themselves, classes, properties and
conditions on a position.
-/

namespace Conformance.Pattern

/-- What a single element of a pattern can be. Inside brackets, only some of them are allowed. -/
inductive Primitive where
  | literal (lit : Literal)
  | assertion (span : Span) (kind : AssertionKind)
  | dot (span : Span)
  | short (span : Span) (kind : ShortKind) (negated : Bool)
  | property (cls : PropertyClass)
  deriving Repr

/-- The part of the pattern that an element stands for. -/
def Primitive.span : Primitive → Span
  | .literal l => l.span
  | .assertion s _ | .dot s | .short s _ _ => s
  | .property c => c.span

/-- The element as a tree of its own. -/
def Primitive.toTree : Primitive → Tree
  | .literal l => .literal l
  | .assertion s k => .assertion s k
  | .dot s => .dot s
  | .short s k n => .short s k n
  | .property c => .property c

/-- The characters that mean something else unless they are escaped. -/
def isMeta (c : Char) : Bool :=
  c ∈ ['\\', '.', '+', '*', '?', '(', ')', '|', '[', ']', '\x7b', '\x7d', '^', '$', '#', '&', '-',
       '~']

/-- The characters that may be escaped though they need not be: ASCII characters other than
    letters, digits and angle brackets. -/
def isEscapable (c : Char) : Bool :=
  c.toNat < 0x80 && !c.isAlphanum && c != '<' && c != '>'

/-- The value of a hexadecimal digit. -/
def hexValue? (c : Char) : Option Nat :=
  if '0' ≤ c ∧ c ≤ '9' then some (c.toNat - 48)
  else if 'a' ≤ c ∧ c ≤ 'f' then some (c.toNat - 87)
  else if 'A' ≤ c ∧ c ≤ 'F' then some (c.toNat - 55)
  else none

/-- The character of a code point, if it is one. -/
def scalar? (n : Nat) : Option Char := if n.isValidChar then some (Char.ofNat n) else none

/-- Reads exactly `count` hexadecimal digits, the first of them here. -/
def readHexDigits (x : Bool) : (count value : Nat) → Cursor → Except Fault (Nat × Cursor)
  | 0, value, c => .ok (value, c)
  | count + 1, value, c =>
    match c.char? with
    | none => refuseAt .escapeUnexpectedEnd c.here
    | some d =>
      match hexValue? d with
      | none => refuseAt .hexInvalidDigit c.charSpan
      | some v => readHexDigits x count (value * 16 + v) (c.nextSpace x)

/-- Reads hexadecimal digits up to a closing brace, which is not taken. `value` is `none` before
    the first digit. `fuel` bounds the number of digits. -/
def readHexBraced (x : Bool) :
    (fuel : Nat) → (value : Option Nat) → Cursor → Except Fault (Option Nat × Cursor)
  | 0, value, c => .ok (value, c)
  | fuel + 1, value, c =>
    match c.char? with
    | none => .ok (value, c)
    | some '\x7d' => .ok (value, c)
    | some d =>
      match hexValue? d with
      | none => refuseAt .hexInvalidDigit c.charSpan
      | some v => readHexBraced x fuel (some (value.getD 0 * 16 + v)) (c.nextSpace x)

/-- Reads a character by its number: `x`, `u` or `U` with two, four or eight digits, or with any
    number of digits in braces. The cursor is at the letter, `start` at the backslash. -/
def readHex (x : Bool) (start : Nat) (letter : Char) (c : Cursor) :
    Except Fault (Primitive × Cursor) := do
  let c := c.nextSpace x
  match c.char? with
  | none => refuseAt .escapeUnexpectedEnd c.here
  | some '\x7b' =>
    let (value, stop) ← readHexBraced x c.rest.length none (c.nextSpace x)
    if stop.atEnd then refuse .escapeUnexpectedEnd c.pos stop.pos
    else
      let after := stop.nextSpace x
      match value with
      | none => refuse .hexEmpty c.pos after.pos
      | some n =>
        match scalar? n with
        | none => refuse .hexInvalid (c.pos + 1) stop.pos
        | some ch => return (.literal ⟨⟨start, after.pos⟩, .plain, ch⟩, after)
  | some _ =>
    let count := if letter = 'x' then 2 else if letter = 'u' then 4 else 8
    let (n, after) ← readHexDigits x count 0 c
    match scalar? n with
    | none => refuse .hexInvalid c.pos after.pos
    | some ch =>
      let spelling := if letter = 'x' then Spelling.octet else .plain
      return (.literal ⟨⟨start, after.pos⟩, spelling, ch⟩, after)

/-- Reads the text of a property up to a closing brace, which is not taken. -/
def readName (x : Bool) : (fuel : Nat) → (name : List Char) → Cursor → List Char × Cursor
  | 0, name, c => (name.reverse, c)
  | fuel + 1, name, c =>
    match c.char? with
    | none => (name.reverse, c)
    | some '\x7d' => (name.reverse, c)
    | some d => readName x fuel (d :: name) (c.nextSpace x)

/-- Cuts a text at the first `!=`, as the texts before and after it. -/
def cutAtNotEqual (front : List Char) : List Char → Option (List Char × List Char)
  | '!' :: '=' :: cs => some (front.reverse, cs)
  | c :: cs => cutAtNotEqual (c :: front) cs
  | [] => none

/-- Cuts a text at the first occurrence of a character. -/
def cutAt (d : Char) (front : List Char) : List Char → Option (List Char × List Char)
  | c :: cs => if c = d then some (front.reverse, cs) else cutAt d (c :: front) cs
  | [] => none

/-- The query of a text in braces, and whether it asks for the complement. The first `!=` cuts
    name and value; without one, the first colon does, and without that, the first `=`. -/
def queryOf (text : List Char) : Unicode.Query × Bool :=
  match cutAtNotEqual [] text with
  | some (n, v) => (.valued (String.ofList n) (String.ofList v), true)
  | none =>
    match (cutAt ':' [] text).or (cutAt '=' [] text) with
    | some (n, v) => (.valued (String.ofList n) (String.ofList v), false)
    | none => (.named (String.ofList text), false)

/-- Reads a property. The cursor is at the letter `p` or `P`, `start` at the backslash. -/
def readProperty (x : Bool) (start : Nat) (negated : Bool) (c : Cursor) :
    Except Fault (Primitive × Cursor) :=
  let c := c.nextSpace x
  match c.char? with
  | none => refuseAt .escapeUnexpectedEnd c.here
  | some '\x7b' =>
    let (text, stop) := readName x c.rest.length [] (c.nextSpace x)
    if stop.atEnd then refuseAt .escapeUnexpectedEnd stop.here
    else
      let after := stop.next
      let (query, inverse) := queryOf text
      .ok (.property ⟨⟨start, after.pos⟩, negated != inverse, query⟩, after)
  | some '\\' => refuseAt .propertyInvalid c.charSpan
  | some d =>
    let after := c.nextSpace x
    .ok (.property ⟨⟨start, after.pos⟩, negated, .named (String.singleton d)⟩, after)

/-- Whether a character may stand in the name of a word boundary. -/
def isBoundaryChar (c : Char) : Bool := c.isAlpha || c = '-'

/-- Reads the name of a word boundary. -/
def readBoundaryName (x : Bool) : (fuel : Nat) → List Char → Cursor → List Char × Cursor
  | 0, name, c => (name.reverse, c)
  | fuel + 1, name, c =>
    match c.char? with
    | some d =>
      if isBoundaryChar d then readBoundaryName x fuel (d :: name) (c.nextSpace x)
      else (name.reverse, c)
    | none => (name.reverse, c)

/-- The word boundaries with names. -/
def boundaryNamed? (name : List Char) : Option AssertionKind :=
  match String.ofList name with
  | "start" => some .wordStart
  | "end" => some .wordEnd
  | "start-half" => some .wordStartHalf
  | "end-half" => some .wordEndHalf
  | _ => none

/-- Tries to read the name of a word boundary in braces. The cursor is at the opening brace. A
    brace that no name follows is left for a counted repetition. -/
def readBoundary? (x : Bool) (start : Nat) (c : Cursor) :
    Except Fault (Option (AssertionKind × Cursor)) :=
  let inner := c.nextSpace x
  match inner.char? with
  | none => refuse .wordBoundaryUnexpectedEnd start inner.pos
  | some d =>
    if isBoundaryChar d then
      let (name, stop) := readBoundaryName x inner.rest.length [] inner
      if stop.char? = some '\x7d' then
        match boundaryNamed? name with
        | some kind => .ok (some (kind, stop.next))
        | none => refuse .wordBoundaryUnrecognized inner.pos stop.pos
      else refuse .wordBoundaryUnclosed c.pos stop.pos
    else .ok none

/-- The control characters with a letter of their own. -/
def controlNamed? (c : Char) : Option Char :=
  match c with
  | 'a' => some '\x07'
  | 'f' => some '\x0c'
  | 't' => some '\t'
  | 'n' => some '\n'
  | 'r' => some '\r'
  | 'v' => some '\x0b'
  | _ => none

/-- The conditions and classes of one letter. -/
def letterNamed? (span : Span) (c : Char) : Option Primitive :=
  match c with
  | 'd' => some (.short span .digit false)
  | 'D' => some (.short span .digit true)
  | 's' => some (.short span .space false)
  | 'S' => some (.short span .space true)
  | 'w' => some (.short span .word false)
  | 'W' => some (.short span .word true)
  | 'A' => some (.assertion span .startText)
  | 'z' => some (.assertion span .endText)
  | 'B' => some (.assertion span .notWordBoundary)
  | '<' => some (.assertion span .wordStart)
  | '>' => some (.assertion span .wordEnd)
  | _ => none

/-- Reads an escape. The cursor is at the backslash. -/
def readEscape (x : Bool) (c : Cursor) : Except Fault (Primitive × Cursor) :=
  let letter := c.next
  match letter.char? with
  | none => refuse .escapeUnexpectedEnd c.pos letter.pos
  | some d =>
    let after := letter.next
    let span : Span := ⟨c.pos, after.pos⟩
    if isMeta d || isEscapable d then .ok (.literal ⟨span, .plain, d⟩, after)
    else if d.isDigit then refuseAt .backreference span
    else if d = 'x' || d = 'u' || d = 'U' then readHex x c.pos d letter
    else if d = 'p' || d = 'P' then readProperty x c.pos (d = 'P') letter
    else if d = 'b' then
      if after.char? = some '\x7b' then
        match readBoundary? x c.pos after with
        | .error e => .error e
        | .ok (some (kind, stop)) => .ok (.assertion ⟨c.pos, stop.pos⟩ kind, stop)
        | .ok none => .ok (.assertion span .wordBoundary, after)
      else .ok (.assertion span .wordBoundary, after)
    else
      match controlNamed? d, letterNamed? span d with
      | some ctl, _ => .ok (.literal ⟨span, .plain, ctl⟩, after)
      | none, some p => .ok (p, after)
      | none, none => refuseAt .escapeUnrecognized span

end Conformance.Pattern
