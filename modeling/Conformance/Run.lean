import Conformance.Config
import Conformance.Discovery
import Conformance.Report.Reporter
import Conformance.Text.Quoted

/-!
# Runs

A run reads every selected fixture, runs the executable on it, and records the results in the order
of discovery. What goes wrong with one fixture is its result and does not touch the others.

Before each result is taken, the run looks whether it is to stop. If it is, the fixtures left over
are counted and the report is closed. A result that cannot be written ends the run at once.

The fixtures are run a number at a time, and that number has a limit of its own: more permits than
the limit cannot be issued, and a run that asks for them breaks down.

This is the Harness of the specification (§4.4, §10.6), with the bound on what it runs at once (§5):
`resultOf` is its `run_fixture`, and `run` its `run_until` for a machine that takes one fixture after the
other. That no schedule reports anything else is proved of the concurrent runs.
-/

namespace Conformance

/-- How the executable fared on a fixture: it ended well or badly, or running it broke down, with a
    message or without one. -/
inductive Verdict where
  | ended (outcome : Outcome)
  | panicked (message : Option String)
  deriving DecidableEq, Repr

/-- Runs the executable on fixtures. -/
structure Executor where
  verdict : Path → Verdict
  /-- What a run tells on the side. -/
  events : Path → List Event

/-- Whether running the executable breaks down on no fixture. -/
def Executor.NeverBreaksDown (x : Executor) : Prop := ∀ p, ∃ outcome, x.verdict p = .ended outcome

namespace Run

/-- The largest number of permits that can be issued. -/
def permitLimit : Nat := 0x1FFFFFFFFFFFFFFF

/-- What a run is about: the machine, the executable, the marker and how long things take. -/
structure Setting where
  host : Host
  executor : Executor
  marker : Marker
  /-- The time spent on a fixture. -/
  elapsed : Fixture → Duration

/-- The reason of a fixture whose run broke down. -/
def panicReason (task : Nat) (message : Option String) : String :=
  "task " ++ toString task ++ " panicked"
    ++ message.elim "" fun text => " with message " ++ Quoted.quote text

/-- The result of a fixture that is run as the given task. -/
def resultOf (s : Setting) (task : Nat) (f : Fixture) : Result :=
  match s.host.read f.path with
  | .error e => .errored f (HarnessError.malformedFixture f.path e).message (s.elapsed f)
  | .ok content =>
    match s.executor.verdict f.path with
    | .ended outcome => .ran f (s.marker.inspect content) outcome (s.elapsed f)
    | .panicked message => .errored f (panicReason task message) .zero

/-- Whether the executable is run on a fixture: it is if the fixture can be read. -/
def isRun (s : Setting) (f : Fixture) : Bool :=
  match s.host.read f.path with
  | .ok _ => true
  | .error _ => false

/-- The results of fixtures, as tasks numbered from `task` on. -/
def resultsFrom (s : Setting) (task : Nat) : List Fixture → List Result
  | [] => []
  | f :: fs => resultOf s task f :: resultsFrom s (task + 1) fs

/-- The results of fixtures. -/
def results (s : Setting) (fixtures : List Fixture) : List Result := resultsFrom s 1 fixtures

/-- How the recording of results ended. -/
inductive Halt where
  /-- All were recorded, or the run was stopped. -/
  | closed
  /-- A result could not be written. -/
  | failed (e : ReportError)
  deriving DecidableEq, Repr

/-- Records results one after the other, unless the run is to stop; `stop` says whether it is, by
    what has been reported. -/
def recordAll (stop : Reporter → Bool) (r : Reporter) : List Result → Reporter × Halt
  | [] => (r, .closed)
  | result :: rest =>
    if stop r then (r.interrupt (rest.length + 1), .closed)
    else
      match r.record result with
      | (r, none) => recordAll stop r rest
      | (r, some e) => (r, .failed e)

/-- Records results and closes the report. -/
def collect (stop : Reporter → Bool) (elapsed : Duration) (r : Reporter) (results : List Result) :
    Reporter × Except ReportError Summary :=
  match recordAll stop r results with
  | (r, .failed e) => (r, .error e)
  | (r, .closed) => r.finish elapsed

/-- How a run ended. -/
inductive Ended where
  /-- It came to its end: the reporter, what was returned, and the paths of the fixtures that the
      executable was run on. -/
  | returned (reporter : Reporter) (value : Except HarnessError Summary) (called : List Path)
  /-- It broke down. -/
  | brokeDown

/-- The marker of a configuration. -/
def markerOf (c : Config) : Except HarnessError Marker :=
  match Marker.compile c.marker.toList c.markerIsPattern with
  | .ok m => .ok m
  | .error e => .error (.invalidMarker e)

/-- The fixtures that a configuration selects. -/
def selected (host : Host) (c : Config) : Except HarnessError (List Fixture) :=
  match Discovery.discover host c.fixturesDir c.extension with
  | .ok fixtures => .ok (Discovery.select c.filter fixtures)
  | .error e => .error e

/-- The number of fixtures run at once, on a machine that would run `available` at once. -/
def jobsOf (available : Nat) (c : Config) : Nat := c.jobs.getD available

/-- Runs the selected fixtures and reports them. -/
def run (s : Setting) (c : Config) (jobs : Nat) (stop : Reporter → Bool) (elapsed : Duration)
    (r : Reporter) : Ended :=
  match selected s.host c with
  | .error e => .returned r (.error e) []
  | .ok fixtures =>
    if permitLimit < jobs then .brokeDown
    else
      match collect stop elapsed r (results s fixtures) with
      | (r, .ok summary) => .returned r (.ok summary) ((fixtures.filter (isRun s)).map (·.path))
      | (r, .error e) =>
        .returned r (.error (.report e)) ((fixtures.filter (isRun s)).map (·.path))

/-! ## What a run tells on the side -/

/-- What is told about one fixture. -/
def fixtureEvents (s : Setting) (task : Nat) (f : Fixture) : List Event :=
  match s.host.read f.path with
  | .error e => [⟨.warn, some .runner, (HarnessError.malformedFixture f.path e).message⟩]
  | .ok content =>
    let expects : Event :=
      ⟨.debug, some .expectation,
        f.display ++ ": expects " ++ (s.marker.inspect content).text⟩
    let failure : List Event :=
      match s.executor.verdict f.path with
      | .ended _ => []
      | .panicked message =>
        [⟨.warn, some .runner,
          f.display ++ ": fixture task failed: " ++ panicReason task message⟩]
    expects :: s.executor.events f.path ++ failure

/-- What is told about fixtures, as tasks numbered from `task` on. -/
def fixturesEvents (s : Setting) (task : Nat) : List Fixture → List Event
  | [] => []
  | f :: fs => fixtureEvents s task f ++ fixturesEvents s (task + 1) fs

/-- What is told at the start of a run. -/
def startEvent (c : Config) (jobs count : Nat) : Event :=
  ⟨.info, some .runner,
    "running " ++ toString count ++ " fixture(s) from " ++ c.fixturesDir.display ++ " with "
      ++ toString jobs ++ " job(s)"⟩

/-- What a run that is not stopped tells on the side. -/
def events (s : Setting) (c : Config) (jobs : Nat) (r : Reporter) : List Event :=
  let listing := Discovery.events s.host c.fixturesDir c.extension
  match selected s.host c with
  | .error _ => listing
  | .ok fixtures =>
    let opening := listing ++ [startEvent c jobs fixtures.length]
    if permitLimit < jobs then opening
    else
      let closing :=
        match recordAll (fun _ => false) r (results s fixtures) with
        | (_, .failed _) => []
        | (r, .closed) => r.finishEvents
      opening ++ fixturesEvents s 1 fixtures ++ closing

end Run
end Conformance
