import Conformance.Decimal.Shortest
import Conformance.Result

/-!
# JUnit documents

A report as one document: a suite with a case for every result, and a failure in every case that
has a reason to fail. Values of attributes are written between double quotes, with the five
characters that XML sets apart written as entities.

Times are seconds, as decimals. A time that does not fit into 63 bits of seconds counts as none.

This is the `junit` format of the specification's Reporter (§10.7).
-/

namespace Conformance.Junit

/-- A character in the value of an attribute. -/
def escapeChar (c : Char) : List Char :=
  match c with
  | '<' => "&lt;".toList
  | '>' => "&gt;".toList
  | '&' => "&amp;".toList
  | '\'' => "&apos;".toList
  | '"' => "&quot;".toList
  | c => [c]

/-- A text as the value of an attribute. -/
def escape (text : String) : String := String.ofList (text.toList.flatMap escapeChar)

/-- A case of a suite. -/
structure Case where
  name : String
  time : Duration
  failure : Option String
  deriving DecidableEq, Repr

/-- A suite of cases. -/
structure Suite where
  name : String
  timestamp : String
  cases : List Case
  deriving DecidableEq, Repr

/-- The longest time that is written. -/
def longestSeconds : Nat := 0x7FFFFFFFFFFFFFFF

/-- A time as it is counted. -/
def countedTime (d : Duration) : Duration := if d.seconds ≤ longestSeconds then d else .zero

/-- A time in seconds. -/
def seconds (d : Duration) : String :=
  Decimal.text
    ((Binary64.ofRatio d.seconds 1).add (Binary64.ofRatio d.nanos 1000000000))

/-- The case of a result. -/
def Case.ofResult (r : Result) : Case := ⟨r.fixture.display, countedTime r.duration, r.reason?⟩

/-- The time of a suite. -/
def Suite.time (s : Suite) : Duration := (s.cases.map (·.time)).foldl Duration.add .zero

/-- An attribute with its value. -/
def field (name value : String) : String := " " ++ name ++ "=\"" ++ escape value ++ "\""

/-- The element of a case. -/
def Case.render (c : Case) : String :=
  let head := "<testcase" ++ field "name" c.name ++ field "time" (seconds c.time)
  match c.failure with
  | none => head ++ "/>"
  | some reason =>
    head ++ "><failure" ++ field "type" "fixture failure" ++ field "message" reason
      ++ "/></testcase>"

/-- The element of a suite. -/
def Suite.render (s : Suite) : String :=
  let failures := (s.cases.filter (·.failure.isSome)).length
  let head :=
    "<testsuite" ++ field "id" "0" ++ field "name" s.name
      ++ field "package" ("testsuite/" ++ s.name)
      ++ field "tests" (toString s.cases.length) ++ field "errors" "0"
      ++ field "failures" (toString failures) ++ field "hostname" "localhost"
      ++ field "timestamp" s.timestamp ++ field "time" (seconds s.time)
  if s.cases.isEmpty then head ++ "/>"
  else head ++ ">" ++ String.join (s.cases.map Case.render) ++ "</testsuite>"

/-- The document of a suite, without the line feed behind it. -/
def document (s : Suite) : String :=
  "<?xml version=\"1.0\" encoding=\"utf-8\"?><testsuites>" ++ s.render ++ "</testsuites>"

end Conformance.Junit
