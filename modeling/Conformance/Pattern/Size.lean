import Conformance.Pattern.Machine

/-!
# The size of an expression

An expression stands for two machines that read octets, one forwards and one backwards. Their size
in memory is limited, so that no pattern, however short, asks for a huge machine.

A choice between very many words is looked up in a table of words and needs no machine.
-/

namespace Conformance.Pattern.Size

/-- The largest machine that is accepted. -/
def limit : Nat := Machine.limit

/-- How many words make a table of words. -/
def manyWords : Nat := 3000

/-- Whether an outline is a choice between very many words. -/
def isTable : Outline → Bool
  | .choice es => manyWords ≤ es.length && es.all Machine.isLiteral
  | _ => false

/-- Whether an expression is too large. -/
def tooLarge (e : Expr) : Bool :=
  let outline := Outline.ofExpr e
  !isTable outline
    && (limit < Machine.sizeOf .forward outline || limit < Machine.sizeOf .backward outline.mirror)

end Conformance.Pattern.Size
