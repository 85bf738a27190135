import Conformance.Text.Control

/-!
# Styled text

Texts in pieces, each with a face. Where styles are not wanted, a text takes its plain form, without
the control sequences of its faces. Those that it was given are gone as well then, and one of them
that does not end is ended by that of the next face.

These are the texts that `clap` (§10.10 of the specification) writes.
-/

namespace Conformance
namespace CommandLine

/-- The face of a piece of text. -/
inductive Face where
  | plain
  | alarm
  | heading
  | literal
  | valid
  | invalid
  deriving DecidableEq, Repr

/-- The control sequences that start a face. -/
def Face.start : Face → String
  | .plain => ""
  | .alarm => "\x1b[1m\x1b[31m"
  | .heading => "\x1b[1m\x1b[4m"
  | .literal => "\x1b[1m"
  | .valid => "\x1b[32m"
  | .invalid => "\x1b[33m"

/-- A piece of text. -/
structure Span where
  face : Face
  text : String
  deriving DecidableEq, Repr

/-- The characters of a piece. -/
def Span.styled (s : Span) : String :=
  if s.face = .plain then s.text else s.face.start ++ s.text ++ "\x1b[0m"

/-- A text in pieces. -/
abbrev Styled := List Span

namespace Styled

/-- A text without a face. -/
def plain (text : String) : Styled := [⟨.plain, text⟩]

/-- A text in a face. -/
def faced (face : Face) (text : String) : Styled := [⟨face, text⟩]

/-- A text in a face between quotes. -/
def quoted (face : Face) (text : String) : Styled :=
  plain "'" ++ faced face text ++ plain "'"

/-- The characters of a text. -/
def render (styled : Bool) (t : Styled) : String :=
  let text := String.join (t.map (·.styled))
  if styled then text else Control.plain text

end Styled
end CommandLine
end Conformance
