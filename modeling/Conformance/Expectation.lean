import Conformance.Pattern.Basic
import Conformance.Text.Line
import Conformance.Text.Utf8

/-!
# Expectations

A fixture says in its first line whether it is expected to fail: it is if the marker occurs there.
The marker is literal text or a pattern.

Only the first 65536 octets of a fixture are looked at, and of those only the octets up to the
first line feed. They are read as text, and what is no text is read as replacement characters.

This is the ExpectationParser of the specification (§4.2, §10.3): `Marker.compile` is its `new`,
`Marker.classify` its `parse`, and `Marker.inspect` its `read`. `Outcome` is the `RunOutcome` of the Executor
(§4.3), and `isMetBy` is how the Harness compares the two (§4.4).
-/

namespace Conformance

/-- How a run of the executable ended. -/
inductive Outcome where
  | succeeded
  | failed
  deriving DecidableEq, Repr

namespace Outcome

/-- The outcome of a run that was a success or not. -/
def ofBool (success : Bool) : Outcome := if success then .succeeded else .failed

/-- The text of an outcome. -/
def text : Outcome → String
  | .succeeded => "succeeded"
  | .failed => "failed"

end Outcome

/-- What a fixture expects of the run. -/
inductive Expectation where
  | error
  | success
  deriving DecidableEq, Repr

namespace Expectation

/-- The text of an expectation. -/
def text : Expectation → String
  | .error => "an error"
  | .success => "success"

/-- Whether an outcome is the expected one. -/
def isMetBy : Expectation → Outcome → Bool
  | .error, .failed => true
  | .success, .succeeded => true
  | _, _ => false

end Expectation

/-- The marker of fixtures that are expected to fail. -/
structure Marker where
  pattern : Pattern
  deriving DecidableEq, Repr

namespace Marker

/-- The marker that is used unless another is given. -/
def defaultText : String := "Expect error"

/-- How much of a fixture is looked at. -/
def readLimit : Nat := 65536

/-- Makes a marker of a text, which is literal or a pattern. -/
def compile (text : List Char) (isPattern : Bool) : Except Pattern.CompileError Marker :=
  match Pattern.compile (if isPattern then text else Pattern.quote text) with
  | .ok p => .ok ⟨p⟩
  | .error e => .error e

/-- What a text expects: an error if the marker occurs in its first line. -/
def classify (m : Marker) (text : List Char) : Expectation :=
  if m.pattern.occursIn (Line.first text) then .error else .success

/-- The octets up to the first line feed, and that line feed. `done` holds those before, last
    first. -/
def throughFeedOnto (done : Bytes) : Bytes → Bytes
  | [] => done.reverse
  | b :: bs => if b = 0x0A then (b :: done).reverse else throughFeedOnto (b :: done) bs

/-- The octets up to the first line feed, and that line feed. -/
def throughFeed (content : Bytes) : Bytes := throughFeedOnto [] content

/-- The part of a content that is looked at. -/
def inspected (content : Bytes) : Bytes := throughFeed (content.take readLimit)

/-- What a fixture with the given content expects. -/
def inspect (m : Marker) (content : Bytes) : Expectation :=
  m.classify (Utf8.decode (inspected content))

end Marker
end Conformance
