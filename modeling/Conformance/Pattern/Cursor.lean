import Conformance.Pattern.Error

/-!
# Reading a pattern

A cursor is a position in a pattern with the characters from there on. Where space is ignored,
white space and comments (from `#` to the end of the line) are no part of the pattern.
-/

namespace Conformance.Pattern

/-- A position and the characters from there on. -/
structure Cursor where
  pos : Nat
  rest : List Char
  deriving DecidableEq, Repr

namespace Cursor

/-- The cursor after one character. -/
def next (c : Cursor) : Cursor :=
  match c.rest with
  | [] => c
  | _ :: rest => ⟨c.pos + 1, rest⟩

/-- The cursor after `n` characters. -/
def skip (n : Nat) (c : Cursor) : Cursor := ⟨c.pos + n, c.rest.drop n⟩

/-- Whether the pattern ends here. -/
def atEnd (c : Cursor) : Bool := c.rest.isEmpty

/-- The character here. -/
def char? (c : Cursor) : Option Char := c.rest.head?

/-- The character after the one here. -/
def peek? (c : Cursor) : Option Char := c.rest.tail.head?

/-- The span of the character here. -/
def charSpan (c : Cursor) : Span := ⟨c.pos, c.pos + 1⟩

/-- The empty span here. -/
def here (c : Cursor) : Span := ⟨c.pos, c.pos⟩

/-- Whether the characters here begin with the given ones. -/
def startsWith (c : Cursor) (s : String) : Bool := s.toList.isPrefixOf c.rest

/-- Skips white space and comments. -/
def skipSpaceFrom (pos : Nat) : (inComment : Bool) → List Char → Cursor
  | _, [] => ⟨pos, []⟩
  | true, c :: cs => skipSpaceFrom (pos + 1) (c != '\n') cs
  | false, c :: cs =>
    if Unicode.whiteSpace.contains c then skipSpaceFrom (pos + 1) false cs
    else if c = '#' then skipSpaceFrom (pos + 1) true cs
    else ⟨pos, c :: cs⟩

/-- The cursor after white space and comments, if space is ignored. -/
def skipSpace (ignoreSpace : Bool) (c : Cursor) : Cursor :=
  if ignoreSpace then skipSpaceFrom c.pos false c.rest else c

/-- The cursor after one character and the ignored space behind it. -/
def nextSpace (ignoreSpace : Bool) (c : Cursor) : Cursor := c.next.skipSpace ignoreSpace

/-- The first character that is neither white space nor the first `#`. -/
def peekSpaceFrom : (inComment : Bool) → List Char → Option Char
  | _, [] => none
  | inComment, c :: cs =>
    if Unicode.whiteSpace.contains c then peekSpaceFrom inComment cs
    else if !inComment && c = '#' then peekSpaceFrom true cs
    else some c

/-- The character that follows the one here. If space is ignored, white space and one comment
    sign are looked past, as long as something follows them. -/
def peekSpace? (ignoreSpace : Bool) (c : Cursor) : Option Char :=
  if ignoreSpace then
    match peekSpaceFrom false c.rest.tail with
    | some d => some d
    | none => c.peek?
  else c.peek?

end Cursor

/-- A refusal: a cause for a part of the pattern. -/
def refuse {α : Type} (cause : Cause) (start stop : Nat) : Except Fault α :=
  .error ⟨cause, ⟨start, stop⟩⟩

/-- A refusal that is about a given span. -/
def refuseAt {α : Type} (cause : Cause) (span : Span) : Except Fault α := .error ⟨cause, span⟩

end Conformance.Pattern
