import Conformance.CommandLine.Help
import Conformance.Execution

/-!
# Sessions

What the program does from its start to its end, as a function of the situation it is started in: what
it writes, what it logs, and its exit status.

The exit status of a run is that of its summary. It is 1 if the harness could not do its job, 2 for
a command line that makes no sense, and 101 if the program breaks down.

A situation says how any executable fares on any fixture, and how long things take; nothing is assumed of
either. In a run a directory is listed once, a file is read once, and the executable is run once on each
fixture, so files that change in the meantime and executables that remember earlier runs are among them.

This is the command-line entry point of the specification (§10.1), with its exit statuses (§4.5, §10.7)
and its errors (§7, §10.8): `Situation.run` is its `main`, and `Situation.serve` the `run` that this calls.
-/

namespace Conformance
namespace CommandLine

/-- What the program is started in. -/
structure Situation where
  argv : List Bytes
  environment : Environment
  /-- What the harness finds. -/
  host : Host
  /-- How an executable fares, with a limit on the time of a run. -/
  executor : Program → Executor
  /-- What the output is connected to. -/
  device : Device
  /-- How many fixtures the machine runs at once if nothing is asked for. -/
  available : Nat
  /-- The time of the start. -/
  timestamp : String
  /-- The time that is measured for a fixture. -/
  fixtureTime : Fixture → Duration
  /-- The time that is measured for the whole run. -/
  runTime : Duration

/-- What the program leaves: its exit status, what it wrote, what it told on the side, and the paths of
    the fixtures that the executable was run on. -/
structure Closing where
  code : Nat
  output : Bytes
  errors : String
  called : List Path
  deriving DecidableEq, Repr

namespace Situation

/-- Whether a variable has a value that is not empty. -/
def hasVariable (s : Situation) (name : String) : Bool :=
  (s.environment.get? name).any fun value => !value.isEmpty

/-- The value of a variable, if it is text. -/
def variableText? (s : Situation) (name : String) : Option String :=
  (s.environment.get? name).bind Utf8.text?

/-- Whether help and complaints are styled. -/
def stylesHelp (s : Situation) : Bool :=
  s.hasVariable "CLICOLOR_FORCE" && !s.hasVariable "NO_COLOR"

/-- Whether logs have no colours. A variable that is no text counts for nothing here. -/
def refusesColour (s : Situation) : Bool :=
  (s.variableText? "NO_COLOR").any fun value => !value.isEmpty

/-- Whether reports are coloured even though they are written to a file. Nor does it count here. -/
def forcesColour (s : Situation) : Bool :=
  (s.variableText? "CLICOLOR_FORCE").any fun value => value != "0"

/-- Whether reports are coloured. -/
def coloursReport (s : Situation) (choice : ColorChoice) : Bool :=
  match choice with
  | .always => true
  | .never => false
  | .auto => s.forcesColour

/-- The text of a log. -/
def logText (s : Situation) (a : Arguments) (events : List Event) : String :=
  String.join ((Log.lines ⟨a.verbose, a.debug⟩ (!s.refusesColour) events).map (· ++ "\n"))

/-- The event that tells why the harness could not do its job: an error, and its cause once
    more. -/
def errorEvent (situation : String) (e : HarnessError) : Event :=
  ⟨.error, none, "error: " ++ situation ++ e.message ++ ": " ++ e.cause⟩

/-- The end of a program that wrote a text. A failure to write it is not noticed. -/
def printed (s : Situation) (text : String) : Closing :=
  ⟨0, ((Sink.fresh s.device false).writeText text).1.content, "", []⟩

/-- The end of a program that breaks down. -/
def broken (errors : String) (output : Bytes) : Closing := ⟨101, output, errors, []⟩

/-- Lists the selected fixtures. -/
def list (s : Situation) (a : Arguments) : Closing :=
  let c := a.config
  let events := Discovery.events s.host c.fixturesDir c.extension
  match Run.selected s.host c with
  | .error e => ⟨1, [], s.logText a (events ++ [errorEvent "" e]), []⟩
  | .ok fixtures =>
    let lines := String.join (fixtures.map fun f => f.display ++ "\n")
    match (Sink.fresh s.device false).writeText lines with
    | (sink, none) => ⟨0, sink.content, s.logText a events, []⟩
    | (sink, some _) => broken (s.logText a events) sink.content

/-- What a run is about that the command line asks for. -/
def setting (s : Situation) (a : Arguments) (marker : Marker) : Run.Setting where
  host := s.host
  executor := s.executor ⟨a.config.executable, a.config.timeout⟩
  marker := marker
  elapsed := s.fixtureTime

/-- How the report looks that the command line asks for. -/
def style (s : Situation) (a : Arguments) : Style where
  format := a.format
  verbose := a.verbose
  coloured := s.coloursReport a.color
  suite := a.config.fixturesDir.display
  timestamp := s.timestamp

/-- Runs the selected fixtures. -/
def test (s : Situation) (a : Arguments) (marker : Marker) : Closing :=
  let c := a.config
  let setting := s.setting a marker
  let reporter := Reporter.fresh (s.style a) (Sink.fresh s.device false)
  let jobs := Run.jobsOf s.available c
  let events := Run.events setting c jobs reporter
  match Run.run setting c jobs (fun _ => false) s.runTime reporter with
  | .brokeDown => broken (s.logText a events) []
  | .returned r (.ok summary) called =>
    ⟨summary.exitCode, r.sink.content, s.logText a events, called⟩
  | .returned r (.error e) called =>
    ⟨1, r.sink.content, s.logText a (events ++ [errorEvent "" e]), called⟩

/-- Does what the command line asks for. -/
def serve (s : Situation) (a : Arguments) : Closing :=
  match Run.markerOf a.config with
  | .error e => ⟨1, [], s.logText a [errorEvent "invalid harness configuration: " e], []⟩
  | .ok marker => if a.list then s.list a else s.test a marker

/-- Runs the program. -/
def run (s : Situation) : Closing :=
  match parse s.environment s.argv with
  | .error .help => s.printed ((help s.environment).render s.stylesHelp)
  | .error .version => s.printed versionText
  | .error (.misuse m) => ⟨2, [], m.message.render s.stylesHelp, []⟩
  | .ok a => s.serve a

end Situation
end CommandLine
end Conformance
