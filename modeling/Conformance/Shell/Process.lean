import Conformance.CommandLine.Session
import Conformance.Shell.Interpreter

/-!
# Scripts as processes

A machine on which scripts can be run as executables under test. It knows the programs of the system
that have an implementation here and the files that are scripts, and no others. It is one of the executors
that a session may be given, for running the program on files at hand; what is proved of sessions holds for
every executor.

Time is counted by the shell and passes only where it waits, so a run ends late if it waits too long.
A run is also given up if it takes too many commands; without a limit on its time, it is killed then.
-/

namespace Conformance.Shell

/-- How deep the commands of a program may stand inside of one another. -/
def depthLimit : Nat := 20000

/-- How many commands a program may run. -/
def commandLimit : Nat := 200000

/-- What a program leaves: its process, and the files. -/
structure Trace where
  process : Process
  files : FileTree

/-- A program that ended in time. -/
def Trace.ended (status : ExitStatus) (files : FileTree) : Trace :=
  ⟨⟨.ok status, fun _ => false, none⟩, files⟩

/-- A program that did not. -/
def Trace.late (files : FileTree) : Trace := ⟨⟨.ok (.killed 9 false), fun _ => true, none⟩, files⟩

/-- Runs a program until a deadline. What it left in the background goes on for as long as it ran. -/
def runUntil (t : FileTree) (c : Launch.Command) (deadline : Option Nat) : Trace :=
  let m := Machine.fresh t deadline commandLimit
  if m.isLate then .late t
  else
    let run := runner depthLimit
    let (m, flow) := run (.program c) m
    let m := if flow = .stuck then m else settle run m
    let files := { m.files with cwd := t.cwd }
    match flow with
    | .killed signal => .ended (.killed signal false) files
    | .stuck => .late files
    | _ => .ended (.exited (m.status % 256)) files

/-- Runs a program on a fixture: what it comes to, and the files that are left. -/
def attempt (p : Program) (t : FileTree) (fixture : Path) : Attempt × FileTree :=
  match Launch.find t p.path fixture with
  | .error e => (p.attempt fixture (.error e), t)
  | .ok command =>
    let trace := runUntil t command (p.timeout.map (·.total))
    (p.attempt fixture (.ok trace.process), trace.files)

/-- A fixture in a run of several, one after the other: the files as they are when it is read, and what
    running a program on it comes to. -/
structure Turn where
  fixture : Path
  files : FileTree
  attempt : Attempt

/-- The turns of fixtures, and the files that are left. `done` holds the turns before, last first. A
    fixture that cannot be read changes nothing, unless every fixture is to be run. -/
def turnsOnto (p : Program) (everyOne : Bool) (done : List Turn) (t : FileTree) :
    List Path → List Turn × FileTree
  | [] => (done.reverse, t)
  | fixture :: rest =>
    let (account, after) := attempt p t fixture
    let isRun : Bool :=
      match t.read fixture with
      | .ok _ => true
      | .error _ => everyOne
    turnsOnto p everyOne (⟨fixture, t, account⟩ :: done) (if isRun then after else t) rest

/-- Runs a program on fixtures, one after the other. -/
def attemptAll (p : Program) (t : FileTree) (fixtures : List Path) : List Outcome × FileTree :=
  let (turns, after) := turnsOnto p true [] t fixtures
  (turns.map (·.attempt.outcome), after)

/-- The turns of fixtures that are run if they can be read. -/
def turns (p : Program) (t : FileTree) (fixtures : List Path) : List Turn :=
  (turnsOnto p false [] t fixtures).1

/-- A machine with files on which fixtures have their turns. -/
def host (t : FileTree) (turns : List Turn) : Host where
  list := t.host.list
  read path := ((turns.find? (·.fixture = path)).elim t (·.files)).read path

/-- How a program fares on fixtures that have their turns. -/
def executor (turns : List Turn) : Executor where
  verdict path := .ended ((turns.find? (·.fixture = path)).elim .failed (·.attempt.outcome))
  events path := (turns.find? (·.fixture = path)).elim [] (·.attempt.events)

/-- A situation on a machine with files, where the selected fixtures have their turns. -/
def situation (s : CommandLine.Situation) (t : FileTree) : CommandLine.Situation :=
  match CommandLine.parse s.environment s.argv with
  | .error _ => { s with host := t.host }
  | .ok a =>
    let fixtures : List Fixture :=
      match Run.selected t.host a.config with
      | .ok fixtures => if a.list then [] else fixtures
      | .error _ => []
    let turns := turns ⟨a.config.executable, a.config.timeout⟩ t (fixtures.map (·.path))
    { s with host := host t turns, executor := fun _ => executor turns }

end Conformance.Shell
