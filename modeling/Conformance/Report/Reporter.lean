import Conformance.Error
import Conformance.Log
import Conformance.Report.Format
import Conformance.Report.Junit
import Conformance.Report.Sink
import Conformance.Text.Colour

/-!
# Reporters

A reporter counts results and writes them out as they arrive, or all together at the end. A result
is counted before it is written: the counts are those of the results that were handed in, whether
or not they could be written.

This is the Reporter of the specification (§4.5, §10.7): `record`, `interrupt` and `finish` are its calls,
`line` is what `write_result_line` writes, and `putDocument` is `write_junit`.
-/

namespace Conformance

/-- How a report looks. -/
structure Style where
  format : Format
  verbose : Bool
  coloured : Bool
  suite : String
  /-- When the run began, for documents. -/
  timestamp : String
  deriving DecidableEq, Repr

/-- The name of a suite that was not given one. -/
def Style.defaultSuite : String := "gaya"

/-- A reporter: its style, what it has counted, how many fixtures were left out by an
    interruption, the results kept for a document, last first, and its sink. -/
structure Reporter where
  style : Style
  summary : Summary
  notRun : Nat
  kept : List Result
  sink : Sink
  deriving Repr

namespace Reporter

/-- A reporter that has seen nothing yet. -/
def fresh (style : Style) (sink : Sink) : Reporter := ⟨style, .start, 0, [], sink⟩

/-- The line of a result, without its line feed and colour. -/
def plainLine (verbose : Bool) (r : Result) : String :=
  let mark := if r.passed then "✅ " else "❌ "
  let reason :=
    match r.reason? with
    | some reason => " (" ++ reason ++ ")"
    | none => ""
  let time := if verbose then " [" ++ r.duration.text ++ "]" else ""
  mark ++ r.fixture.display ++ reason ++ time

/-- The line of a result. -/
def line (style : Style) (r : Result) : String :=
  let colour := if r.passed then Colour.green else .red
  colour.paintIf style.coloured (plainLine style.verbose r) ++ "\n"

/-- Writes text to the sink; the result tells what failed. -/
def put (r : Reporter) (text : String) : Reporter × Option ReportError :=
  let (sink, failure) := r.sink.writeText text
  ({ r with sink := sink }, failure.map .line)

/-- Records a result. -/
def record (r : Reporter) (result : Result) : Reporter × Option ReportError :=
  let r := { r with summary := r.summary.record result.passed }
  match r.style.format with
  | .pretty => r.put (line r.style result)
  | .terse => if result.passed then (r, none) else r.put (line r.style result)
  | .junit => ({ r with kept := result :: r.kept }, none)

/-- Notes that the run stopped before `notRun` fixtures were reported. -/
def interrupt (r : Reporter) (notRun : Nat) : Reporter :=
  { r with summary := { r.summary with interrupted := true }, notRun := notRun }

/-- The lines that close a report: what was left out, the counts, and the time it took. -/
def closing (r : Reporter) (elapsed : Duration) : List String :=
  let left :=
    if r.summary.interrupted then
      [Colour.yellow.paintIf r.style.coloured
        ("Interrupted: " ++ toString r.notRun ++ " fixture(s) not run") ++ "\n"]
    else []
  let time := if r.style.verbose then ["ran in " ++ elapsed.text ++ "\n"] else []
  left ++ [r.summary.text ++ "\n"] ++ time

/-- Writes texts one after the other, up to the first that fails. -/
def putAll (r : Reporter) : List String → Reporter × Option ReportError
  | [] => (r, none)
  | t :: ts =>
    match r.put t with
    | (r, none) => r.putAll ts
    | (r, some e) => (r, some e)

/-- The suite of the results kept. -/
def suite (r : Reporter) : Junit.Suite :=
  ⟨r.style.suite, r.style.timestamp, r.kept.reverse.map Junit.Case.ofResult⟩

/-- Writes the document of the results kept, and a line feed. -/
def putDocument (r : Reporter) : Reporter × Option ReportError :=
  let (sink, failure) := r.sink.writeText (Junit.document r.suite)
  let r := { r with sink := sink }
  match failure with
  | some e => (r, some (.document e))
  | none => r.put "\n"

/-- Closes the report and gives the final counts. -/
def finish (r : Reporter) (elapsed : Duration) : Reporter × Except ReportError Summary :=
  let (r, failure) :=
    match r.style.format with
    | .pretty | .terse => r.putAll (r.closing elapsed)
    | .junit => r.putDocument
  match failure with
  | some e => (r, .error e)
  | none =>
    match r.sink.flush with
    | some e => (r, .error (.line e))
    | none => (r, .ok r.summary)

/-- What closing the report tells on the side. -/
def finishEvents (r : Reporter) : List Event :=
  match r.style.format with
  | .pretty | .terse => []
  | .junit =>
    match r.putDocument.2 with
    | some _ => []
    | none => [⟨.info, none, r.summary.text⟩]

end Reporter
end Conformance
