import Conformance.Run

/-!
# Schedules

How a run goes, step by step. All fixtures get a task at once. A task waits for one of a number of
permits, reads its file, runs the executable on it, and ends; however it ends, it gives its permit
back. Beside the tasks, a collector waits for them in the order of discovery and hands their results
to the reporter. Before it waits for a task, it looks whether the run is to be shut down.

Nothing is said about which step comes next, so what holds of all runs here holds of every schedule.

This is the concurrency of the specification's Harness (§5, §10.6): `TaskStep` takes `run_fixture` apart,
`Plan.Step` takes `run_until` apart, and the shutdown is the one that `run_until` is given.

- `TaskStep`: what one task can do.
- `Plan.Step`: what the tasks, the collector and the shutdown can do.
- `Plan.Reaches`: what can come of a number of steps.
-/

namespace Conformance.Schedule

/-! ## §1 Tasks -/

/-- What a task is doing, or how it ended. -/
inductive Phase where
  | waiting
  | reading
  | running (expectation : Expectation)
  | done (result : Result)
  | panicked (message : Option String)
  | cancelled
  deriving DecidableEq, Repr

/-- The task of a fixture. -/
structure Task where
  fixture : Fixture
  number : Nat
  phase : Phase
  /-- It is to end early. It may still come to its end before that takes effect. -/
  aborted : Bool
  deriving DecidableEq, Repr

namespace Task

/-- Whether the task holds a permit. -/
def holdsPermit (t : Task) : Bool :=
  match t.phase with
  | .reading | .running _ => true
  | .waiting | .done _ | .panicked _ | .cancelled => false

/-- A task that is to end early. -/
def abort (t : Task) : Task := { t with aborted := true }

/-- The reason of a fixture whose task was cancelled. -/
def cancelReason (task : Nat) : String := "task " ++ toString task ++ " was cancelled"

/-- What the collector gets from the task, if it has ended. -/
def joined? (t : Task) : Option Result :=
  match t.phase with
  | .done x => some x
  | .panicked message => some (.errored t.fixture (Run.panicReason t.number message) .zero)
  | .cancelled => some (.errored t.fixture (cancelReason t.number) .zero)
  | .waiting | .reading | .running _ => none

end Task

/-- One step of a task: the number of free permits before it and the task, both after it, and the
    paths that the executable is called on. Times are as they happen to be. -/
inductive TaskStep (s : Run.Setting) : Nat → Task → Nat → Task → List Path → Prop where
  /-- It gets a permit. -/
  | acquire {free : Nat} {t : Task} (phase : t.phase = .waiting) :
      TaskStep s (free + 1) t free { t with phase := .reading } []
  /-- It has read its file and calls the executable. -/
  | read {free : Nat} {t : Task} {content : Bytes} (phase : t.phase = .reading)
      (read : s.host.read t.fixture.path = .ok content) :
      TaskStep s free t free { t with phase := .running (s.marker.inspect content) }
        [t.fixture.path]
  /-- It could not read its file. -/
  | unreadable {free : Nat} {t : Task} {e : IoError} (duration : Duration)
      (phase : t.phase = .reading) (read : s.host.read t.fixture.path = .error e) :
      TaskStep s free t (free + 1)
        { t with
          phase := .done (.errored t.fixture
            (HarnessError.malformedFixture t.fixture.path e).message duration) } []
  /-- The executable has ended. -/
  | ended {free : Nat} {t : Task} {e : Expectation} {outcome : Outcome} (duration : Duration)
      (phase : t.phase = .running e)
      (verdict : s.executor.verdict t.fixture.path = .ended outcome) :
      TaskStep s free t (free + 1)
        { t with phase := .done (.ran t.fixture e outcome duration) } []
  /-- Running the executable broke down, and the task with it. -/
  | panicked {free : Nat} {t : Task} {e : Expectation} {message : Option String}
      (phase : t.phase = .running e)
      (verdict : s.executor.verdict t.fixture.path = .panicked message) :
      TaskStep s free t (free + 1) { t with phase := .panicked message } []
  /-- It is ended early while it waits for a permit. -/
  | cancelWaiting {free : Nat} {t : Task} (aborted : t.aborted = true)
      (phase : t.phase = .waiting) :
      TaskStep s free t free { t with phase := .cancelled } []
  /-- It is ended early while it holds a permit. -/
  | cancelHolding {free : Nat} {t : Task} (aborted : t.aborted = true)
      (holds : t.holdsPermit = true) :
      TaskStep s free t (free + 1) { t with phase := .cancelled } []

/-! ## §2 Runs -/

/-- What brings about the shutdown of a run. -/
inductive Shutdown where
  /-- It comes by itself, at any moment or never. -/
  | byItself
  /-- It comes as soon as what has been reported says so. -/
  | byReport (stop : Reporter → Bool)

namespace Shutdown

/-- The shutdown that never comes. -/
def never : Shutdown := byReport fun _ => false

/-- The shutdown that comes as soon as a number of line feeds has been written. -/
def afterLines (count : Nat) : Shutdown := byReport fun r => count ≤ r.sink.lineFeeds

end Shutdown

/-- What a run starts from: what it is about, the fixtures, how many of them run at once, the numbers
    their tasks happen to get, and the reporter. -/
structure Plan where
  setting : Run.Setting
  fixtures : List Fixture
  jobs : Nat
  number : Nat → Nat
  shutdown : Shutdown
  reporter : Reporter

/-- Where a run stands. -/
structure State where
  tasks : List Task
  /-- The number of free permits. -/
  permits : Nat
  /-- The paths that the executable was called on. -/
  called : List Path
  /-- The results that were handed to the reporter. -/
  recorded : List Result
  reporter : Reporter
  /-- Whether a shutdown that comes by itself has come. -/
  shutDown : Bool
  /-- What the collector returned, if it has come to its end. -/
  returned : Option (Except HarnessError Summary)

/-- Aborts the tasks from a place on. -/
def abortFrom (i : Nat) (tasks : List Task) : List Task :=
  tasks.take i ++ (tasks.drop i).map Task.abort

/-- Whether the shutdown is complete. -/
def Shutdown.isComplete (d : Shutdown) (st : State) : Bool :=
  match d with
  | .byItself => st.shutDown
  | .byReport stop => stop st.reporter

namespace Plan

/-- The plan of a run with a reporter that has seen nothing yet. -/
def fresh (s : Run.Setting) (fixtures : List Fixture) (jobs : Nat) (number : Nat → Nat)
    (shutdown : Shutdown) (style : Style) (sink : Sink) : Plan :=
  ⟨s, fixtures, jobs, number, shutdown, .fresh style sink⟩

/-- The tasks of the fixtures, none of which has done anything yet. -/
def tasks (plan : Plan) : List Task :=
  plan.fixtures.mapIdx fun i f => ⟨f, plan.number i, .waiting, false⟩

/-- Where a run starts, if that many permits can be issued. -/
def start? (plan : Plan) : Option State :=
  if Run.permitLimit < plan.jobs then none
  else some ⟨plan.tasks, plan.jobs, [], [], plan.reporter, false, none⟩

/-- One step of a run. The collector waits for the task at the place that the number of recorded
    results gives; while it has not returned, that is the number of tasks it is done with. -/
inductive Step (plan : Plan) : State → State → Prop where
  /-- Some task takes a step. -/
  | task {st : State} {before after : List Task} {t t' : Task} {free : Nat} {calls : List Path}
      (here : st.tasks = before ++ t :: after)
      (step : TaskStep plan.setting st.permits t free t' calls) :
      Step plan st
        { st with
          tasks := before ++ t' :: after
          permits := free
          called := st.called ++ calls }
  /-- The shutdown comes by itself. -/
  | shutDown {st : State} (byItself : plan.shutdown = .byItself) (running : st.returned = none)
      (pending : st.shutDown = false) :
      Step plan st { st with shutDown := true }
  /-- The collector looks at the shutdown, which is not complete, and then at its task, which has
      ended. It records the result. -/
  | record {st : State} {t : Task} {x : Result} {r : Reporter} (running : st.returned = none)
      (current : st.tasks[st.recorded.length]? = some t)
      (pending : plan.shutdown.isComplete st = false) (joined : t.joined? = some x)
      (written : st.reporter.record x = (r, none)) :
      Step plan st { st with recorded := st.recorded ++ [x], reporter := r }
  /-- The same, but the result cannot be written. The tasks that are left over are aborted. -/
  | abandon {st : State} {t : Task} {x : Result} {r : Reporter} {e : ReportError}
      (running : st.returned = none) (current : st.tasks[st.recorded.length]? = some t)
      (pending : plan.shutdown.isComplete st = false) (joined : t.joined? = some x)
      (written : st.reporter.record x = (r, some e)) :
      Step plan st
        { st with
          tasks := abortFrom (st.recorded.length + 1) st.tasks
          recorded := st.recorded ++ [x]
          reporter := r
          returned := some (.error (.report e)) }
  /-- The collector looks at the shutdown, which is complete. Its task and those behind it are
      aborted and counted, and the report is closed. -/
  | interrupt {st : State} {r : Reporter} {v : Except ReportError Summary} (elapsed : Duration)
      (running : st.returned = none) (current : st.recorded.length < st.tasks.length)
      (complete : plan.shutdown.isComplete st = true)
      (closed : (st.reporter.interrupt
        (1 + (st.tasks.drop (st.recorded.length + 1)).length)).finish elapsed = (r, v)) :
      Step plan st
        { st with
          tasks := abortFrom st.recorded.length st.tasks
          reporter := r
          returned := some (v.mapError .report) }
  /-- No task is left over, and the report is closed. -/
  | finish {st : State} {r : Reporter} {v : Except ReportError Summary} (elapsed : Duration)
      (running : st.returned = none) (allDone : st.tasks.length ≤ st.recorded.length)
      (closed : st.reporter.finish elapsed = (r, v)) :
      Step plan st { st with reporter := r, returned := some (v.mapError .report) }

/-- What can come of a number of steps. -/
inductive Reaches (plan : Plan) : Nat → State → State → Prop where
  | refl (st : State) : Reaches plan 0 st st
  | step {n : Nat} {st st' st'' : State} (before : Reaches plan n st st')
      (last : plan.Step st' st'') : Reaches plan (n + 1) st st''

end Plan
end Conformance.Schedule
