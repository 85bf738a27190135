import Conformance.Duration
import Conformance.Expectation
import Conformance.Fixture

/-!
# Results

What became of a fixture, and what became of all of them.

A fixture passes if it was read and run and the outcome is the expected one. A result of a fixture
that could not be checked carries the error instead.

These are what the specification's Harness records of a fixture (§10.6, `FixtureResult`) and the `RunSummary`
of its data model (§3), with the exit status of §4.5 and §10.7.
-/

namespace Conformance

/-- What became of a fixture. -/
structure Result where
  fixture : Fixture
  expectation : Option Expectation
  outcome : Option Outcome
  error : Option String
  duration : Duration
  deriving DecidableEq, Repr

namespace Result

/-- The result of a fixture that was read and run. -/
def ran (f : Fixture) (e : Expectation) (o : Outcome) (d : Duration) : Result :=
  ⟨f, some e, some o, none, d⟩

/-- The result of a fixture that could not be checked. -/
def errored (f : Fixture) (error : String) (d : Duration) : Result := ⟨f, none, none, some error, d⟩

/-- Whether the fixture passed. -/
def passed (r : Result) : Bool :=
  match r.expectation, r.outcome with
  | some e, some o => e.isMetBy o
  | _, _ => false

/-- Why the fixture failed. An error counts, whatever else the result says. -/
def reason? (r : Result) : Option String :=
  match r.error with
  | some e => some e
  | none =>
    match r.expectation, r.outcome with
    | some e, some o =>
      if e.isMetBy o then none else some ("expected " ++ e.text ++ ", but the run " ++ o.text)
    | _, _ => some "fixture was not run"

end Result

/-- What became of the fixtures of a run. -/
structure Summary where
  successes : Nat
  failures : Nat
  interrupted : Bool
  deriving DecidableEq, Repr

namespace Summary

/-- Nothing has been reported yet. -/
def start : Summary := ⟨0, 0, false⟩

instance : Inhabited Summary := ⟨start⟩

/-- One more result. -/
def record (s : Summary) (passed : Bool) : Summary :=
  if passed then { s with successes := s.successes + 1 }
  else { s with failures := s.failures + 1 }

/-- The number of results. -/
def total (s : Summary) : Nat := s.successes + s.failures

/-- Whether all fixtures were reported and passed. -/
def isSuccess (s : Summary) : Bool := s.failures = 0 && !s.interrupted

/-- The exit status of an interrupted run. -/
def interruptedCode : Nat := 130

/-- The exit status: the number of failures, as far as a status can hold it. -/
def exitCode (s : Summary) : Nat := if s.interrupted then interruptedCode else min s.failures 255

/-- The text of a summary. -/
def text (s : Summary) : String :=
  "Summary: " ++ toString s.successes ++ " successes, " ++ toString s.failures ++ " failures"

end Summary
end Conformance
