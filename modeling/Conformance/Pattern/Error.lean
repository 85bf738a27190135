import Conformance.Pattern.Tree

/-!
# What is wrong with a pattern

The causes for which a pattern is refused, their wording, and the report that shows the pattern
with marks under the part that is wrong.

## Layout of a report

A pattern of one line is indented by four columns. The lines of a longer pattern are numbered and
stand between two rules; a part that runs over several lines is described by its lines and
columns. Positions count characters; a line feed ends a line.
-/

namespace Conformance.Pattern

/-- Why a pattern is refused. -/
inductive Cause where
  | classEscapeInvalid
  | classRangeInvalid
  | classRangeLiteral
  | classUnclosed
  | decimalEmpty
  | decimalInvalid
  | hexEmpty
  | hexInvalid
  | hexInvalidDigit
  | escapeUnexpectedEnd
  | escapeUnrecognized
  | flagDanglingNegation
  | flagDuplicate (earlier : Span)
  | flagRepeatedNegation (earlier : Span)
  | flagUnexpectedEnd
  | flagUnrecognized
  | groupNameDuplicate (earlier : Span)
  | groupNameEmpty
  | groupNameInvalid
  | groupNameUnexpectedEnd
  | groupUnclosed
  | groupUnopened
  | nestLimitExceeded (limit : Nat)
  | countInvalid
  | countEmpty
  | countUnclosed
  | repetitionMissing
  | wordBoundaryUnclosed
  | wordBoundaryUnrecognized
  | wordBoundaryUnexpectedEnd
  | propertyInvalid
  | backreference
  | lookAround
  | unicodeNotAllowed
  | invalidUtf8
  | propertyNotFound
  | propertyValueNotFound
  deriving DecidableEq, Repr

/-- The wording of a cause. -/
def Cause.message : Cause → String
  | .classEscapeInvalid => "invalid escape sequence found in character class"
  | .classRangeInvalid => "invalid character class range, the start must be <= the end"
  | .classRangeLiteral => "invalid range boundary, must be a literal"
  | .classUnclosed => "unclosed character class"
  | .decimalEmpty => "decimal literal empty"
  | .decimalInvalid => "decimal literal invalid"
  | .hexEmpty => "hexadecimal literal empty"
  | .hexInvalid => "hexadecimal literal is not a Unicode scalar value"
  | .hexInvalidDigit => "invalid hexadecimal digit"
  | .escapeUnexpectedEnd => "incomplete escape sequence, reached end of pattern prematurely"
  | .escapeUnrecognized => "unrecognized escape sequence"
  | .flagDanglingNegation => "dangling flag negation operator"
  | .flagDuplicate _ => "duplicate flag"
  | .flagRepeatedNegation _ => "flag negation operator repeated"
  | .flagUnexpectedEnd => "expected flag but got end of regex"
  | .flagUnrecognized => "unrecognized flag"
  | .groupNameDuplicate _ => "duplicate capture group name"
  | .groupNameEmpty => "empty capture group name"
  | .groupNameInvalid => "invalid capture group character"
  | .groupNameUnexpectedEnd => "unclosed capture group name"
  | .groupUnclosed => "unclosed group"
  | .groupUnopened => "unopened group"
  | .nestLimitExceeded limit =>
    "exceed the maximum number of nested parentheses/brackets (" ++ toString limit ++ ")"
  | .countInvalid => "invalid repetition count range, the start must be <= the end"
  | .countEmpty => "repetition quantifier expects a valid decimal"
  | .countUnclosed => "unclosed counted repetition"
  | .repetitionMissing => "repetition operator missing expression"
  | .wordBoundaryUnclosed =>
    "special word boundary assertion is either unclosed or contains an invalid character"
  | .wordBoundaryUnrecognized =>
    "unrecognized special word boundary assertion, valid choices are: start, end, start-half "
      ++ "or end-half"
  | .wordBoundaryUnexpectedEnd =>
    "found either the beginning of a special word boundary or a bounded repetition on a \\b "
      ++ "with an opening brace, but no closing brace"
  | .propertyInvalid => "invalid Unicode character class"
  | .backreference => "backreferences are not supported"
  | .lookAround => "look-around, including look-ahead and look-behind, is not supported"
  | .unicodeNotAllowed => "Unicode not allowed here"
  | .invalidUtf8 => "pattern can match invalid UTF-8"
  | .propertyNotFound => "Unicode property not found"
  | .propertyValueNotFound => "Unicode property value not found"

/-- The other part of the pattern that a cause is about. -/
def Cause.earlier? : Cause → Option Span
  | .flagDuplicate s | .flagRepeatedNegation s | .groupNameDuplicate s => some s
  | _ => none

/-- A cause and the part of the pattern it is about. -/
structure Fault where
  cause : Cause
  span : Span
  deriving DecidableEq, Repr

namespace Report

/-- A line, counted from 0, and a column, counted from 0. -/
structure Place where
  line : Nat
  column : Nat
  deriving DecidableEq, Repr

/-- The place of a position, from a place on. -/
def placeFrom (here : Place) : (position : Nat) → List Char → Place
  | 0, _ => here
  | _, [] => here
  | p + 1, c :: cs =>
    placeFrom (if c = '\n' then ⟨here.line + 1, 0⟩ else ⟨here.line, here.column + 1⟩) p cs

/-- The place of a position in a pattern. -/
def place (pattern : List Char) (position : Nat) : Place := placeFrom ⟨0, 0⟩ position pattern

/-- Cuts a text at its line feeds. `line` holds the open line, last character first. -/
def linesFrom (line : List Char) : List Char → List (List Char)
  | [] => [line.reverse]
  | c :: cs => if c = '\n' then line.reverse :: linesFrom [] cs else linesFrom (c :: line) cs

/-- The lines of a pattern: a line feed at its end opens no line, and a carriage return before a
    line feed belongs to the line end. -/
def shownLines (pattern : List Char) : List (List Char) :=
  let lines := linesFrom [] pattern
  let stripped := lines.dropLast.map fun l =>
    if l.getLast? = some '\r' then l.dropLast else l
  match lines.getLast? with
  | some [] => stripped
  | some l => stripped ++ [l]
  | none => stripped

/-- The marks under one line, for spans given as columns in increasing order. `column` is where
    the marks so far end. -/
def marksFrom (column : Nat) : List (Nat × Nat) → List Char
  | [] => []
  | (first, last) :: rest =>
    let width := max 1 (last - first)
    List.replicate (first - column) ' ' ++ List.replicate width '^'
      ++ marksFrom (max column first + width) rest

/-- A report on a pattern: `spans` are the parts to mark, in increasing order. -/
def render (pattern : List Char) (spans : List Span) (message : String) : String :=
  let lines := shownLines pattern
  let count := lines.length + (if pattern.getLast? = some '\n' then 1 else 0)
  let numberWidth := if count ≤ 1 then 0 else (toString count).length
  let places := spans.map fun s => (place pattern s.start, place pattern s.stop)
  let short := places.filter fun p => p.1.line = p.2.line
  let long := places.filter fun p => p.1.line ≠ p.2.line
  let shown := lines.zipIdx.map fun (line, i) =>
    let number := toString (i + 1)
    let head :=
      if numberWidth = 0 then "    "
      else String.ofList (List.replicate (numberWidth - number.length) ' ') ++ number ++ ": "
    let columns := (short.filter fun p => p.1.line = i).map fun p => (p.1.column, p.2.column)
    let notes :=
      if columns.isEmpty then ""
      else
        String.ofList (List.replicate (if numberWidth = 0 then 4 else numberWidth + 2) ' '
          ++ marksFrom 0 columns) ++ "\n"
    head ++ String.ofList line ++ "\n" ++ notes
  let body := String.join shown
  if pattern.contains '\n' then
    let rule := String.ofList (List.replicate 79 '~') ++ "\n"
    let ranges := long.map fun (a, b) =>
      "on line " ++ toString (a.line + 1) ++ " (column " ++ toString (a.column + 1)
        ++ ") through line " ++ toString (b.line + 1) ++ " (column " ++ toString b.column ++ ")"
    let ranges := if ranges.isEmpty then "" else "\n".intercalate ranges ++ "\n"
    "regex parse error:\n" ++ rule ++ body ++ rule ++ ranges ++ "error: " ++ message
  else "regex parse error:\n" ++ body ++ "error: " ++ message

end Report

/-- The parts that a fault marks, in increasing order. -/
def Fault.spans (f : Fault) : List Span :=
  match f.cause.earlier? with
  | none => [f.span]
  | some e => if e.start ≤ f.span.start then [e, f.span] else [f.span, e]

/-- The report of a fault. -/
def Fault.report (pattern : List Char) (f : Fault) : String :=
  Report.render pattern f.spans f.cause.message

end Conformance.Pattern
