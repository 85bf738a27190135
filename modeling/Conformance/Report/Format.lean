/-!
# Report formats

These are the formats of the specification's Reporter (§10.7).
-/

namespace Conformance

/-- The formats of a report. -/
inductive Format where
  /-- A line for every fixture. -/
  | pretty
  /-- A line for every fixture that fails. -/
  | terse
  /-- A document for other programs to read. -/
  | junit
  deriving DecidableEq, Repr

end Conformance
