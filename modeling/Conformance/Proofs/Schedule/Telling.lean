import Conformance.Proofs.Schedule.Calls
import Conformance.Proofs.Schedule.Numbering

/-!
# What a schedule tells

Tasks tell on the side what their fixtures expect, what is wrong with their files, and how the executable
fared, each at its own pace. The collector tells of tasks that broke down, and of the end. So the order
of what is told depends on the schedule. What is told does not, in a run that is not shut down and whose
report can be written: nothing is lost and nothing is told twice.

Nothing is said of what a task tells that is ended early; in these runs there is none.

- `Plan.tells`: what is told in a step, and `Plan.Logs`, what was told so far.
- `State.owes`: what has yet to be told.
- `Balanced.step`: a step tells what was owed before it and is not owed after it.
- `told_of_logs`: so at the end everything was told.
- `perm_of_logs`: so two schedules tell the same, if their tasks have the same numbers or nothing breaks
  down.
- `events_of_logs`: and what a run tells that takes one fixture after the other.
-/

namespace Conformance

namespace Run

/-- What the task of a fixture tells. -/
def taskEvents (s : Setting) (f : Fixture) : List Event :=
  match s.host.read f.path with
  | .error e => [⟨.warn, some .runner, (HarnessError.malformedFixture f.path e).message⟩]
  | .ok content =>
    ⟨.debug, some .expectation, f.display ++ ": expects " ++ (s.marker.inspect content).text⟩ ::
      s.executor.events f.path

/-- What is told of a task that broke down. -/
def failureEvent (f : Fixture) (reason : String) : Event :=
  ⟨.warn, some .runner, f.display ++ ": fixture task failed: " ++ reason⟩

/-- What the collector tells of a fixture. -/
def failureEvents (s : Setting) (task : Nat) (f : Fixture) : List Event :=
  match s.host.read f.path, s.executor.verdict f.path with
  | .ok _, .panicked message => [failureEvent f (panicReason task message)]
  | _, _ => []

theorem fixtureEvents_eq (s : Setting) (task : Nat) (f : Fixture) :
    fixtureEvents s task f = taskEvents s f ++ failureEvents s task f := by
  unfold fixtureEvents taskEvents failureEvents
  cases s.host.read f.path with
  | error e => rfl
  | ok content =>
    cases s.executor.verdict f.path with
    | ended outcome => rfl
    | panicked message => rfl

end Run

namespace Schedule

open Run (taskEvents failureEvents failureEvent fixtureEvents)

variable {s : Run.Setting} {plan : Plan} {st st' : State} {log log' : List Event}

/-! ## §1 What is told -/

/-- What a task tells when it goes from one phase to another. -/
def Task.tells (s : Run.Setting) (t t' : Task) : List Event :=
  match t.phase, t'.phase with
  | .reading, .running e =>
    [⟨.debug, some .expectation, t.fixture.display ++ ": expects " ++ e.text⟩]
  | .reading, .done x => x.error.toList.map (⟨.warn, some .runner, ·⟩)
  | .running _, .done _ | .running _, .panicked _ => s.executor.events t.fixture.path
  | _, _ => []

/-- What the collector tells of a task that it waited for. -/
def Task.failure (t : Task) : List Event :=
  match t.phase with
  | .panicked message => [failureEvent t.fixture (Run.panicReason t.number message)]
  | .cancelled => [failureEvent t.fixture (cancelReason t.number)]
  | .waiting | .reading | .running _ | .done _ => []

/-- What the collector tells in a step: of its task if it records a result, and of the end if it
    closes the report. -/
def State.collectorTells (st st' : State) : List Event :=
  if st.recorded.length < st'.recorded.length then
    st.tasks[st.recorded.length]?.elim [] Task.failure
  else if st.returned.isNone && st'.returned.isSome then st.reporter.finishEvents
  else []

namespace Plan

/-- What is told in a step. -/
def tells (plan : Plan) (st st' : State) : List Event :=
  ((st.tasks.zip st'.tasks).flatMap fun p => p.1.tells plan.setting p.2) ++ st.collectorTells st'

/-- What was told from the start of a run on. -/
inductive Logs (plan : Plan) : State → List Event → Prop where
  | start {st : State} (begun : plan.start? = some st) : Logs plan st []
  | step {st st' : State} {log : List Event} (before : Logs plan st log)
      (last : plan.Step st st') : Logs plan st' (log ++ plan.tells st st')

/-- Everything that a run tells of its fixtures. -/
def fixturesEvents (plan : Plan) : List Event :=
  plan.tasks.flatMap fun t => fixtureEvents plan.setting t.number t.fixture

theorem Logs.exists_reaches (h : plan.Logs st log) :
    ∃ start n, plan.start? = some start ∧ plan.Reaches n start st := by
  induction h with
  | start begun => exact ⟨_, 0, begun, .refl _⟩
  | step _ last ih =>
    obtain ⟨start, n, begun, reached⟩ := ih
    exact ⟨start, n + 1, begun, .step reached last⟩

/-- Wherever a run gets, something was told on the way there. -/
theorem exists_logs {start : State} {n : Nat} (begun : plan.start? = some start)
    (h : plan.Reaches n start st) : ∃ log, plan.Logs st log := by
  induction h with
  | refl => exact ⟨[], .start begun⟩
  | step _ last ih =>
    obtain ⟨log, hlog⟩ := ih begun
    exact ⟨_, .step hlog last⟩

theorem Logs.inv (h : plan.Logs st log) : Inv plan st := by
  obtain ⟨start, n, begun, reached⟩ := h.exists_reaches
  exact inv_of_reaches (.start begun) reached

theorem Logs.completes (h : plan.Logs st log) {v : Except HarnessError Summary}
    (returned : st.returned = some v) : plan.Completes st v := by
  obtain ⟨start, n, begun, reached⟩ := h.exists_reaches
  exact ⟨start, n, begun, reached, returned⟩

end Plan

/-! ## §2 What is owed -/

/-- What a task has yet to tell. -/
def Task.owes (s : Run.Setting) (t : Task) : List Event :=
  match t.phase with
  | .waiting | .reading => taskEvents s t.fixture
  | .running _ => s.executor.events t.fixture.path
  | .done _ | .panicked _ | .cancelled => []

/-- What the collector has yet to tell of a task that it has not waited for. -/
def Task.owedFailure (s : Run.Setting) (t : Task) : List Event :=
  match t.phase with
  | .waiting | .reading | .running _ => failureEvents s t.number t.fixture
  | .done _ | .panicked _ | .cancelled => t.failure

/-- What has yet to be told of the fixtures. -/
def State.owes (s : Run.Setting) (st : State) : List Event :=
  st.tasks.flatMap (Task.owes s) ++
    (st.tasks.drop st.recorded.length).flatMap (Task.owedFailure s)

/-- A task that does nothing tells nothing. -/
theorem Task.tells_self (s : Run.Setting) (t : Task) : t.tells s t = [] := by
  unfold Task.tells
  cases t.phase <;> rfl

theorem tells_zip_self (s : Run.Setting) (tasks : List Task) :
    ((tasks.zip tasks).flatMap fun p => p.1.tells s p.2) = [] := by
  induction tasks with
  | nil => rfl
  | cons t ts ih => rw [List.zip_cons_cons, List.flatMap_cons, ih, Task.tells_self, List.append_nil]

/-- If one task does something, it alone tells something. -/
theorem tells_zip (s : Run.Setting) (before after : List Task) (t t' : Task) :
    (((before ++ t :: after).zip (before ++ t' :: after)).flatMap fun p => p.1.tells s p.2) =
      t.tells s t' := by
  rw [List.zip_append rfl, List.zip_cons_cons, List.flatMap_append, List.flatMap_cons,
    tells_zip_self, tells_zip_self, List.nil_append, List.append_nil]

/-- A task that is not ended early tells what it owed before and does not owe afterwards. What is owed
    of its failure stays. -/
theorem TaskStep.tells {free free' : Nat} {t t' : Task} {calls : List Path}
    (h : TaskStep s free t free' t' calls) (ht : t.Sound s) (haborted : t.aborted = false) :
    t.tells s t' ++ t'.owes s = t.owes s ∧ t'.owedFailure s = t.owedFailure s := by
  unfold Task.tells Task.owes Task.owedFailure
  cases h with
  | acquire hphase =>
    simp only [hphase]
    exact ⟨rfl, trivial⟩
  | read hphase hread =>
    simp only [hphase, taskEvents, hread]
    exact ⟨rfl, trivial⟩
  | unreadable _ hphase hread =>
    simp only [hphase, taskEvents, failureEvents, hread]
    exact ⟨rfl, rfl⟩
  -- A task that came to an end of its own did not break down, so the collector owes nothing of it.
  | ended _ hphase hverdict =>
    simp only [hphase, failureEvents, hverdict, List.append_nil]
    refine ⟨trivial, ?_⟩
    cases s.host.read t.fixture.path <;> rfl
  | panicked hphase hverdict =>
    -- The executable was run, so the file could be read.
    unfold Task.Sound at ht
    rw [hphase] at ht
    obtain ⟨content, hread, -⟩ := ht
    simp only [hphase, failureEvents, hread, hverdict, List.append_nil]
    exact ⟨trivial, rfl⟩
  | cancelWaiting hearly => exact absurd (haborted.symm.trans hearly) Bool.false_ne_true
  | cancelHolding hearly => exact absurd (haborted.symm.trans hearly) Bool.false_ne_true

theorem Phase.IsOver.cases {p : Phase} (h : p.IsOver) :
    (∃ x, p = .done x) ∨ ∃ message, p = .panicked message := by
  cases p with
  | done x => exact .inl ⟨x, rfl⟩
  | panicked message => exact .inr ⟨message, rfl⟩
  | waiting | reading | running | cancelled => cases h

/-- What is owed of the failure of a task that came to an end of its own is told by the collector. -/
theorem Task.owedFailure_of_isOver {t : Task} (hover : t.phase.IsOver) :
    t.owedFailure s = t.failure := by
  rcases hover.cases with ⟨x, hphase⟩ | ⟨message, hphase⟩
  · simp only [owedFailure, hphase]
  · simp only [owedFailure, hphase]

theorem Task.owes_of_isOver {t : Task} (hover : t.phase.IsOver) : t.owes s = [] := by
  rcases hover.cases with ⟨x, hphase⟩ | ⟨message, hphase⟩
  · simp only [owes, hphase]
  · simp only [owes, hphase]

/-! ## §3 What is told and what is owed -/

/-- What is told at the end of a run that has come to its end. -/
def State.closing (plan : Plan) (st : State) : List Event :=
  if st.returned.isSome then (plan.reporter.recordEach st.recorded).finishEvents else []

/-- No task was aborted, and what was told and what is owed are together what there is to tell. -/
structure Balanced (plan : Plan) (st : State) (log : List Event) : Prop where
  unaborted : ∀ t ∈ st.tasks, t.aborted = false
  told : (log ++ st.owes plan.setting).Perm (plan.fixturesEvents ++ st.closing plan)

theorem Balanced.start (h : plan.start? = some st) : Balanced plan st [] := by
  obtain ⟨-, rfl⟩ := start?_eq_some.mp h
  refine ⟨fun t ht => (fresh_of_mem_tasks ht).2, ?_⟩
  -- Everything is owed.
  have howes : ∀ t ∈ plan.tasks, fixtureEvents plan.setting t.number t.fixture =
      t.owes plan.setting ++ t.owedFailure plan.setting := by
    intro t ht
    rw [Run.fixtureEvents_eq, Task.owes, Task.owedFailure, (fresh_of_mem_tasks ht).1]
  show ([] ++ (plan.tasks.flatMap _ ++ plan.tasks.flatMap _)).Perm (plan.fixturesEvents ++ [])
  rw [List.nil_append, List.append_nil, Plan.fixturesEvents, List.flatMap_congr howes]
  exact List.flatMap_append_perm plan.tasks _ _

/-- A task that takes a step moves what it tells from what is owed to what was told. -/
theorem Balanced.task (inv : Inv plan st) (h : Balanced plan st log) {before after : List Task}
    {t t' : Task} {free : Nat} {calls : List Path} (here : st.tasks = before ++ t :: after)
    (step : TaskStep plan.setting st.permits t free t' calls) :
    Balanced plan { st with
        tasks := before ++ t' :: after
        permits := free
        called := st.called ++ calls }
      (log ++ t.tells plan.setting t') := by
  have hmem : t ∈ st.tasks := here ▸ List.mem_append_right _ List.mem_cons_self
  obtain ⟨htells, hfailure⟩ := step.tells (inv.sound t hmem) (h.unaborted t hmem)
  refine ⟨?_, ?_⟩
  · exact forall_mem_replaced (here ▸ h.unaborted) step.keeps.2.2.trans
  -- What the collector owes does not change, so only what the tasks owe has to be compared.
  · have hfailures : (before ++ t' :: after).map (Task.owedFailure plan.setting) =
        st.tasks.map (Task.owedFailure plan.setting) := by
      rw [here, List.map_append, List.map_append, List.map_cons, List.map_cons, hfailure]
    have htold := h.told
    simp only [State.owes, List.flatMap_def, List.map_drop] at htold ⊢
    rw [hfailures]
    generalize ((st.tasks.map (Task.owedFailure plan.setting)).drop _).flatten = failures at htold ⊢
    rw [here] at htold
    simp only [← List.flatMap_def, List.flatMap_append, List.flatMap_cons, ← htells,
      List.append_assoc] at htold ⊢
    refine List.Perm.trans (.append_left log ?_) htold
    -- The tasks before it owe what they owed.
    exact List.perm_append_comm_assoc _ _ _

/-- What is left to the collector begins with its task. -/
theorem drop_of_current {tasks : List Task} {k : Nat} {t : Task} (current : tasks[k]? = some t) :
    tasks.drop k = t :: tasks.drop (k + 1) := by
  obtain ⟨hk, rfl⟩ := List.getElem?_eq_some_iff.mp current
  exact List.drop_eq_getElem_cons hk

/-- The collector tells what is owed of the failure of its task. -/
theorem Balanced.record (inv : Inv plan st) (h : Balanced plan st log) (running : st.returned = none)
    {t : Task} {x : Result} (current : st.tasks[st.recorded.length]? = some t)
    (joined : t.joined? = some x) (r : Reporter) :
    Balanced plan { st with recorded := st.recorded ++ [x], reporter := r } (log ++ t.failure) := by
  refine ⟨h.unaborted, ?_⟩
  have hmem : t ∈ st.tasks := List.mem_of_getElem? current
  have hover := Task.isOver_of_joined (inv.sound t hmem) (h.unaborted t hmem) joined
  have htold := h.told
  simp only [State.owes, State.closing, running, List.length_append, List.length_singleton,
    drop_of_current current, List.flatMap_cons, Task.owedFailure_of_isOver hover,
    List.append_assoc] at htold ⊢
  refine List.Perm.trans (.append_left log ?_) htold
  exact List.perm_append_comm_assoc _ _ _

/-- Closing the report tells what is told at the end. -/
theorem Balanced.finish (inv : Inv plan st) (h : Balanced plan st log) (running : st.returned = none)
    (r : Reporter) (v : Except HarnessError Summary) :
    Balanced plan { st with reporter := r, returned := some v } (log ++ st.reporter.finishEvents) := by
  refine ⟨h.unaborted, ?_⟩
  have htold := h.told
  have hclosing : st.closing plan = [] := by rw [State.closing, running]; rfl
  rw [hclosing, List.append_nil] at htold
  rw [inv.reporter_of_running running, List.append_assoc]
  show (log ++ (_ ++ st.owes plan.setting)).Perm (plan.fixturesEvents ++ _)
  refine (List.Perm.append_left log List.perm_append_comm).trans ?_
  rw [← List.append_assoc]
  exact htold.append_right _

/-- In a run that is not shut down and whose report can be written, every step moves what it tells from
    what is owed to what was told. -/
theorem Balanced.step (hnever : plan.shutdown = .never) (hsink : plan.reporter.sink.NeverFails)
    (inv : Inv plan st) (h : Balanced plan st log) (step : plan.Step st st') :
    Balanced plan st' (log ++ plan.tells st st') := by
  unfold Plan.tells State.collectorTells
  cases step with
  | task here step =>
    have htask := h.task inv here step
    rw [← tells_zip plan.setting, ← here] at htask
    -- The collector does nothing, so it tells nothing.
    have hquiet : (st.returned.isNone && st.returned.isSome) = false := by cases st.returned <;> rfl
    simp only [hquiet, Nat.lt_irrefl, if_false, Bool.false_eq_true, List.append_nil]
    exact htask
  -- A shutdown that never comes does not come by itself, and is not complete either.
  | shutDown byItself =>
    rw [hnever] at byItself
    cases byItself
  | record running current _ joined =>
    have hrecord := h.record inv running current joined
    simpa only [tells_zip_self, current, List.length_append, List.length_singleton,
      Nat.lt_add_one, if_true, Option.elim_some, List.nil_append] using hrecord _
  -- A result that is handed over can be written.
  | abandon running _ _ _ written =>
    rw [inv.reporter_of_running running] at written
    exact absurd written (not_abandoned hsink)
  | interrupt _ _ _ complete =>
    rw [hnever] at complete
    exact absurd complete Bool.false_ne_true
  | finish _ running =>
    have hfinish := h.finish inv running
    simpa only [tells_zip_self, running, Nat.lt_irrefl, if_false, Option.isNone_none,
      Option.isSome_some, Bool.and_self, if_true, List.nil_append] using hfinish _ _

theorem balanced_of_logs (hnever : plan.shutdown = .never) (hsink : plan.reporter.sink.NeverFails)
    (h : plan.Logs st log) : Balanced plan st log := by
  induction h with
  | start begun => exact .start begun
  | step before last ih => exact ih.step hnever hsink before.inv last

/-! ## §4 Complete runs -/

/-- A complete run that is not shut down and whose report can be written has told everything there is to
    tell of its fixtures, and what closing the report tells, in some order. -/
theorem told_of_logs (hnever : plan.shutdown = .never) (hsink : plan.reporter.sink.NeverFails)
    (h : plan.Logs st log) {v : Except HarnessError Summary} (returned : st.returned = some v) :
    log.Perm (plan.fixturesEvents ++ (plan.reporter.recordEach st.recorded).finishEvents) := by
  have inv := h.inv
  obtain ⟨start, n, begun, reached⟩ := h.exists_reaches
  have hdelivered := (report_of_completes hnever hsink (h.completes returned)).1
  have hall : st.recorded.length = st.tasks.length := by
    rw [inv.length_tasks, hdelivered.length_eq]
  -- The collector is done with all tasks, so nothing is owed.
  have hover : ∀ t ∈ st.tasks, t.phase.IsOver := by
    intro t ht
    refine collected_of_reaches (.start begun) (.start begun) reached t ?_
    rwa [hall, List.take_length]
  have hnothing : st.owes plan.setting = [] := by
    rw [State.owes, hall, List.drop_length, List.flatMap_nil, List.append_nil, List.flatMap_eq_nil_iff]
    exact fun t ht => Task.owes_of_isOver (hover t ht)
  have htold := (balanced_of_logs hnever hsink h).told
  rwa [hnothing, List.append_nil, State.closing, returned] at htold

/-! ## §5 Two runs -/

/-- Over a sink that never fails, closing a document tells the counts. -/
theorem finishEvents_of_neverFails {r : Reporter} (h : r.sink.NeverFails) :
    r.finishEvents =
      if r.style.format = .junit then [⟨.info, none, r.summary.text⟩] else [] := by
  obtain ⟨sink, hdocument, -⟩ := Reporter.putDocument_of_neverFails h
  unfold Reporter.finishEvents
  cases hformat : r.style.format with
  | pretty | terse => rfl
  | junit => simp only [hdocument, if_true]

/-- Reporters of one format that were handed results that agree tell the same at the end. -/
theorem finishEvents_congr {style style' : Style} {sink sink' : Sink}
    (hsink : (Reporter.fresh style sink).sink.NeverFails)
    (hsink' : (Reporter.fresh style' sink').sink.NeverFails) (hformat : style.format = style'.format)
    {xs ys : List Result} (h : List.Forall₂ Result.Agrees xs ys) :
    ((Reporter.fresh style sink).recordEach xs).finishEvents =
      ((Reporter.fresh style' sink').recordEach ys).finishEvents := by
  rw [finishEvents_of_neverFails (Reporter.recordEach_neverFails hsink _),
    finishEvents_of_neverFails (Reporter.recordEach_neverFails hsink' _),
    Reporter.recordEach_style, Reporter.recordEach_style, Reporter.summary_of_agrees _ h,
    Reporter.recordEach_fresh_summary, Reporter.recordEach_fresh_summary]
  exact congrArg (fun format => if format = Format.junit then _ else []) hformat

/-- If nothing breaks down, the number of a task does not show in what is told. -/
theorem fixtureEvents_congr_number (h : s.executor.NeverBreaksDown) (n n' : Nat) (f : Fixture) :
    fixtureEvents s n f = fixtureEvents s n' f := by
  obtain ⟨outcome, hverdict⟩ := h f.path
  simp only [Run.fixtureEvents_eq, failureEvents, hverdict]
  cases s.host.read f.path <;> rfl

/-- With the same numbers, or if nothing breaks down, the same is told of the same fixtures. -/
theorem fixturesEvents_congr {fixtures : List Fixture} {jobs jobs' : Nat} {number number' : Nat → Nat}
    {shutdown shutdown' : Shutdown} {style style' : Style} {sink sink' : Sink}
    (h : number = number' ∨ s.executor.NeverBreaksDown) :
    (Plan.fresh s fixtures jobs number shutdown style sink).fixturesEvents =
      (Plan.fresh s fixtures jobs' number' shutdown' style' sink').fixturesEvents := by
  simp only [Plan.fixturesEvents, List.flatMap_def]
  exact congrArg List.flatten
    (map_tasks_congr (g := fixtureEvents s) (h.imp_right fixtureEvents_congr_number))

/-- Two complete runs of the same fixtures that report in the same format have told the same, in some
    order, if their tasks have the same numbers or nothing breaks down. -/
theorem perm_of_logs {fixtures : List Fixture} {jobs jobs' : Nat} {number number' : Nat → Nat}
    {style style' : Style} {sink sink' : Sink} (hsink : sink.NeverFails) (hsink' : sink'.NeverFails)
    (hformat : style.format = style'.format) (hnumber : number = number' ∨ s.executor.NeverBreaksDown)
    (h : (Plan.fresh s fixtures jobs number .never style sink).Logs st log)
    (h' : (Plan.fresh s fixtures jobs' number' .never style' sink').Logs st' log')
    {v v' : Except HarnessError Summary} (returned : st.returned = some v)
    (returned' : st'.returned = some v') : log.Perm log' := by
  have hfresh : (Reporter.fresh style sink).sink.NeverFails := hsink
  have hfresh' : (Reporter.fresh style' sink').sink.NeverFails := hsink'
  have hdelivered := (report_of_completes rfl hfresh (h.completes returned)).1
  have hdelivered' := (report_of_completes rfl hfresh' (h'.completes returned')).1
  have hclosing := finishEvents_congr hfresh hfresh' hformat
    (Run.forall₂_agrees hdelivered hdelivered')
  calc List.Perm log _ := told_of_logs rfl hfresh h returned
    _ = _ := congrArg₂ (· ++ ·) (fixturesEvents_congr hnumber) hclosing
    List.Perm _ log' := (told_of_logs rfl hfresh' h' returned').symm

/-! ## §6 One fixture after the other -/

/-- What is told before the first fixture is run. -/
def openingEvents (s : Run.Setting) (c : Config) (jobs : Nat) (fixtures : List Fixture) : List Event :=
  Discovery.events s.host c.fixturesDir c.extension ++ [Run.startEvent c jobs fixtures.length]

theorem events_of_selected {c : Config} {jobs : Nat} {r : Reporter} {fixtures : List Fixture}
    (hselected : Run.selected s.host c = .ok fixtures) (hlimit : jobs ≤ Run.permitLimit)
    (hsink : r.sink.NeverFails) :
    Run.events s c jobs r = openingEvents s c jobs fixtures ++ (Run.fixturesEvents s 1 fixtures ++
      (r.recordEach (Run.results s fixtures)).finishEvents) := by
  have hall : Run.recordAll (fun _ => false) r (Run.results s fixtures) =
      (r.recordEach (Run.results s fixtures), .closed) := by
    rw [Run.recordAll_of_neverFails hsink, Run.stopIndex_never, List.take_length, Run.stoppedAt_all]
  simp only [Run.events, hselected, if_neg (Nat.not_lt.mpr hlimit), hall, openingEvents,
    List.append_assoc]

/-- Numbered from one on, the tasks tell what a run tells that takes one fixture after the other. -/
theorem fixturesEvents_succ (s : Run.Setting) (fixtures : List Fixture) (jobs : Nat)
    (shutdown : Shutdown) (style : Style) (sink : Sink) :
    (Plan.fresh s fixtures jobs (· + 1) shutdown style sink).fixturesEvents =
      Run.fixturesEvents s 1 fixtures := by
  have hfrom : ∀ k, (fixtures.mapIdx fun i f => (⟨f, i + k, .waiting, false⟩ : Task)).flatMap
      (fun t => fixtureEvents s t.number t.fixture) = Run.fixturesEvents s k fixtures := by
    induction fixtures with
    | nil => exact fun _ => rfl
    | cons f fs ih =>
      intro k
      simp only [List.mapIdx_cons, List.flatMap_cons, Nat.zero_add, Nat.add_right_comm _ 1 k,
        Nat.add_assoc _ k 1, ih (k + 1), Run.fixturesEvents]
  exact hfrom 1

/-- A complete run whose tasks are numbered from one on, or in which nothing breaks down, tells, in some
    order, what a run tells that takes one fixture after the other and reports in the same format. -/
theorem events_of_logs {c : Config} {fixtures : List Fixture} {jobs : Nat} {number : Nat → Nat}
    {style style' : Style} {sink sink' : Sink} (hselected : Run.selected s.host c = .ok fixtures)
    (hlimit : jobs ≤ Run.permitLimit) (hsink : sink.NeverFails) (hsink' : sink'.NeverFails)
    (hformat : style.format = style'.format)
    (hnumber : number = (· + 1) ∨ s.executor.NeverBreaksDown)
    (h : (Plan.fresh s fixtures jobs number .never style sink).Logs st log)
    {v : Except HarnessError Summary} (returned : st.returned = some v) :
    (openingEvents s c jobs fixtures ++ log).Perm (Run.events s c jobs (.fresh style' sink')) := by
  have hfresh : (Reporter.fresh style sink).sink.NeverFails := hsink
  have hfresh' : (Reporter.fresh style' sink').sink.NeverFails := hsink'
  have hdelivered := (report_of_completes rfl hfresh (h.completes returned)).1
  have hfixtures : (Plan.fresh s fixtures jobs number .never style sink).fixturesEvents =
      Run.fixturesEvents s 1 fixtures :=
    (fixturesEvents_congr hnumber).trans (fixturesEvents_succ s fixtures jobs .never style sink)
  have hclosing := finishEvents_congr hfresh hfresh' hformat
    (Run.forall₂_agrees hdelivered (Run.delivered_resultsFrom s 1 fixtures))
  have htold : log.Perm (Run.fixturesEvents s 1 fixtures ++
      ((Reporter.fresh style' sink').recordEach (Run.results s fixtures)).finishEvents) :=
    (told_of_logs rfl hfresh h returned).trans (.of_eq (congrArg₂ (· ++ ·) hfixtures hclosing))
  rw [events_of_selected hselected hlimit hfresh']
  exact htold.append_left _

end Schedule
end Conformance
