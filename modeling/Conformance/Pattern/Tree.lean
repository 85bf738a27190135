import Conformance.Unicode.Property

/-!
# Parsed patterns

The tree of a pattern as it was written. Every node carries the part of the pattern it stands
for, so that what is wrong with a node can be shown in the pattern.
-/

namespace Conformance.Pattern

/-- A part of a pattern: the characters from `start` up to, not including, `stop`. -/
structure Span where
  start : Nat
  stop : Nat
  deriving DecidableEq, Repr, Inhabited

/-- The empty span at a position. -/
def Span.at (p : Nat) : Span := ⟨p, p⟩

/-- How a single character was written. -/
inductive Spelling where
  /-- As itself or by an escape that names it. -/
  | plain
  /-- By two hexadecimal digits. -/
  | octet
  deriving DecidableEq, Repr

/-- A single character. -/
structure Literal where
  span : Span
  spelling : Spelling
  char : Char
  deriving DecidableEq, Repr

/-- The flags that change what later parts of a pattern mean. -/
inductive Flag where
  | caseInsensitive | multiLine | dotAll | swapGreed | unicode | crlf | ignoreSpace
  deriving DecidableEq, Repr

/-- A flag, or the sign that the following flags are cleared. -/
inductive FlagItem where
  | negation
  | flag (f : Flag)
  deriving DecidableEq, Repr

/-- The items of a flag group, each with its span. -/
abbrev FlagItems := List (Span × FlagItem)

/-- What a flag group makes of a flag: set, cleared, or left alone. -/
def FlagItems.state? (f : Flag) : FlagItems → Option Bool :=
  go true
where
  /-- `go` with the value that a flag gets here. -/
  go (value : Bool) : FlagItems → Option Bool
    | [] => none
    | (_, .negation) :: rest => go false rest
    | (_, .flag g) :: rest => if g = f then some value else go value rest

/-- Conditions on a position. -/
inductive AssertionKind where
  | startLine | endLine | startText | endText
  | wordBoundary | notWordBoundary | wordStart | wordEnd | wordStartHalf | wordEndHalf
  deriving DecidableEq, Repr

/-- The classes with a one-letter escape. -/
inductive ShortKind where
  | digit | space | word
  deriving DecidableEq, Repr

/-- The classes written `[:name:]`. -/
inductive AsciiKind where
  | alnum | alpha | ascii | blank | cntrl | digit | graph | lower | print | punct | space | upper
  | word | xdigit
  deriving DecidableEq, Repr

/-- A class asked for by the name of a property. -/
structure PropertyClass where
  span : Span
  negated : Bool
  query : Unicode.Query
  deriving DecidableEq, Repr

/-- The operators between the parts of a bracketed class. -/
inductive SetOperator where
  | intersection | difference | symmetricDifference
  deriving DecidableEq, Repr

/-- The content of a bracketed class. -/
inductive ClassTree where
  | empty (span : Span)
  | literal (lit : Literal)
  | range (span : Span) (low high : Literal)
  | ascii (span : Span) (kind : AsciiKind) (negated : Bool)
  | short (span : Span) (kind : ShortKind) (negated : Bool)
  | property (cls : PropertyClass)
  | bracketed (span : Span) (negated : Bool) (content : ClassTree)
  | union (span : Span) (items : List ClassTree)
  | binary (span : Span) (op : SetOperator) (lhs rhs : ClassTree)
  deriving Repr, Inhabited

/-- The part of the pattern that the content of a class stands for. -/
def ClassTree.span : ClassTree → Span
  | .empty s | .range s _ _ | .ascii s _ _ | .short s _ _ | .bracketed s _ _ | .union s _
  | .binary s _ _ _ => s
  | .literal l => l.span
  | .property c => c.span

/-- How often a part is repeated: from `low` times up to `high` times. -/
structure Counts where
  low : Nat
  high : Option Nat
  deriving DecidableEq, Repr

/-- Kinds of groups. -/
inductive GroupKind where
  | capture
  | flags (items : FlagItems)
  deriving DecidableEq, Repr

/-- A pattern as it was written. -/
inductive Tree where
  | empty (span : Span)
  | flags (span : Span) (items : FlagItems)
  | literal (lit : Literal)
  | dot (span : Span)
  | assertion (span : Span) (kind : AssertionKind)
  | short (span : Span) (kind : ShortKind) (negated : Bool)
  | property (cls : PropertyClass)
  | bracketed (span : Span) (negated : Bool) (content : ClassTree)
  | repetition (span : Span) (counts : Counts) (body : Tree)
  | group (span : Span) (kind : GroupKind) (body : Tree)
  | alternation (span : Span) (branches : List Tree)
  | concat (span : Span) (items : List Tree)
  deriving Repr, Inhabited

/-- The part of the pattern that a tree stands for. -/
def Tree.span : Tree → Span
  | .empty s | .flags s _ | .dot s | .assertion s _ | .short s _ _ | .bracketed s _ _
  | .repetition s _ _ | .group s _ _ | .alternation s _ | .concat s _ => s
  | .literal l => l.span
  | .property c => c.span

end Conformance.Pattern
