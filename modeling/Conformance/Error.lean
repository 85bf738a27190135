import Conformance.Host.IoError
import Conformance.Pattern.Basic
import Conformance.Text.Path

/-!
# Errors of the harness

This is the error taxonomy of the specification (§7), the `HarnessError` of §10.8. `message` is an error as
text, and `cause` is the text of its source.
-/

namespace Conformance

/-- Why a report could not be written. -/
inductive ReportError where
  /-- A line could not be written, or the sink could not be flushed. -/
  | line (e : IoError)
  /-- A document could not be written. -/
  | document (e : IoError)
  deriving DecidableEq, Repr

/-- How a failed report is told. -/
def ReportError.message : ReportError → String
  | .line e => e.message
  | .document e => "I/O error: " ++ e.message

/-- What can go wrong in the harness itself. -/
inductive HarnessError where
  /-- The directory of the fixtures could not be listed. -/
  | discovery (dir : Path) (e : IoError)
  /-- A fixture could not be read. -/
  | malformedFixture (path : Path) (e : IoError)
  /-- The marker is no pattern. -/
  | invalidMarker (e : Pattern.CompileError)
  /-- The report could not be written. -/
  | report (e : ReportError)
  deriving DecidableEq, Repr

namespace HarnessError

/-- How an error is told, without its cause. -/
def summary : HarnessError → String
  | .discovery dir _ => "failed to read fixture directory " ++ dir.display
  | .malformedFixture path _ => "failed to read fixture " ++ path.display
  | .invalidMarker _ => "invalid error marker"
  | .report _ => "failed to write test report"

/-- How the cause of an error is told. -/
def cause : HarnessError → String
  | .discovery _ e | .malformedFixture _ e => e.message
  | .invalidMarker e => e.message
  | .report e => e.message

/-- How an error is told. -/
def message (e : HarnessError) : String := e.summary ++ ": " ++ e.cause

end HarnessError
end Conformance
