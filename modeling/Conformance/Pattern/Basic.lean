import Conformance.Pattern.Inside
import Conformance.Pattern.Meaning
import Conformance.Pattern.Size

/-!
# Patterns

A pattern is compiled from its text or refused, and is then looked for in texts. `quote` writes a
text as the pattern that matches this text only.

These are the patterns of `regex`, with which the specification's ExpectationParser matches (§10.3): `quote`
is the escaping of a literal marker, and `compile` tells what makes a pattern a configuration error.
-/

namespace Conformance

/-- A compiled pattern. -/
structure Pattern where
  expr : Pattern.Expr
  deriving DecidableEq, Repr

namespace Pattern

/-- Why a text is not accepted as a pattern. -/
inductive CompileError where
  | invalid (text : List Char) (fault : Fault)
  | tooLarge
  deriving DecidableEq, Repr

/-- The wording of a refusal. -/
def CompileError.message : CompileError → String
  | .invalid text fault => fault.report text
  | .tooLarge => "Compiled regex exceeds size limit of " ++ toString Size.limit ++ " bytes."

/-- Compiles a text as a pattern. -/
def compile (text : List Char) : Except CompileError Pattern :=
  match Expr.parse text with
  | .error fault => .error (.invalid text fault)
  | .ok e => if Size.tooLarge e then .error .tooLarge else .ok ⟨e⟩

/-- Writes a text as a pattern: characters with a meaning of their own are escaped. -/
def quote (text : List Char) : List Char :=
  text.flatMap fun c => if isMeta c then ['\\', c] else [c]

/-- Whether the pattern occurs in a text. -/
def occursIn (p : Pattern) (text : List Char) : Bool := (p.expr.visiblePart text).occursIn text

end Pattern
end Conformance
