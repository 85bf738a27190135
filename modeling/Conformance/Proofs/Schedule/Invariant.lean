import Conformance.Proofs.Agreement
import Conformance.Proofs.Schedule.System
import Conformance.Proofs.Stopping

/-!
# What every schedule keeps

- `Inv`: what holds in every state of a run.
- `Inv.step`: every step keeps it.
- `inv_of_reaches`: so it holds wherever a run gets.
-/

namespace Conformance.Schedule

variable {s : Run.Setting} {plan : Plan} {st st' : State}

/-! ## §1 Tasks -/

/-- What is known of a task by its phase: what it has found out so far is what a run makes of its
    fixture, and it is not cancelled unless it was aborted. -/
def Task.Sound (s : Run.Setting) (t : Task) : Prop :=
  match t.phase with
  | .waiting | .reading => True
  | .running e => ∃ content, s.host.read t.fixture.path = .ok content ∧ e = s.marker.inspect content
  | .done x => Run.Delivered s t.fixture x
  | .panicked message =>
    (∃ content, s.host.read t.fixture.path = .ok content) ∧
      s.executor.verdict t.fixture.path = .panicked message
  | .cancelled => t.aborted = true

theorem delivered_of_error {f : Fixture} {e : IoError} (h : s.host.read f.path = .error e)
    (duration : Duration) :
    Run.Delivered s f
      (.errored f (HarnessError.malformedFixture f.path e).message duration) := by
  refine ⟨duration, 0, ?_⟩
  simp only [Run.resultOf, h]

theorem delivered_of_ended {f : Fixture} {content : Bytes} {outcome : Outcome}
    (h : s.host.read f.path = .ok content) (hv : s.executor.verdict f.path = .ended outcome)
    (duration : Duration) :
    Run.Delivered s f (.ran f (s.marker.inspect content) outcome duration) := by
  refine ⟨duration, 0, ?_⟩
  simp only [Run.resultOf, h, hv]

theorem delivered_of_panicked {f : Fixture} {content : Bytes} {message : Option String}
    (h : s.host.read f.path = .ok content) (hv : s.executor.verdict f.path = .panicked message)
    (task : Nat) :
    Run.Delivered s f (.errored f (Run.panicReason task message) .zero) := by
  refine ⟨.zero, task, ?_⟩
  simp only [Run.resultOf, h, hv]

namespace TaskStep

variable {free free' : Nat} {t t' : Task} {calls : List Path}

/-- A step keeps what the task is about, and whether it is aborted. -/
theorem keeps (h : TaskStep s free t free' t' calls) :
    t'.fixture = t.fixture ∧ t'.number = t.number ∧ t'.aborted = t.aborted := by
  cases h <;> exact ⟨rfl, rfl, rfl⟩

theorem sound (h : TaskStep s free t free' t' calls) (ht : t.Sound s) : t'.Sound s := by
  unfold Task.Sound at ht ⊢
  cases h with
  | acquire => trivial
  | read _ hread => exact ⟨_, hread, rfl⟩
  | unreadable duration _ hread => exact delivered_of_error hread duration
  | ended duration hphase hverdict =>
    rw [hphase] at ht
    obtain ⟨content, hread, rfl⟩ := ht
    exact delivered_of_ended hread hverdict duration
  | panicked hphase hverdict =>
    rw [hphase] at ht
    obtain ⟨content, hread, -⟩ := ht
    exact ⟨⟨content, hread⟩, hverdict⟩
  | cancelWaiting haborted => exact haborted
  | cancelHolding haborted => exact haborted

/-- A permit is free or with a task, before a step and after it. -/
theorem permits (h : TaskStep s free t free' t' calls) :
    free' + (if t'.holdsPermit then 1 else 0) = free + (if t.holdsPermit then 1 else 0) := by
  cases h with
  | acquire hphase => simp [Task.holdsPermit, hphase]
  | read hphase => simp [Task.holdsPermit, hphase]
  | unreadable _ hphase => simp [Task.holdsPermit, hphase]
  | ended _ hphase => simp [Task.holdsPermit, hphase]
  | panicked hphase => simp [Task.holdsPermit, hphase]
  | cancelWaiting _ hphase => simp [Task.holdsPermit, hphase]
  | cancelHolding _ hholds =>
    rw [hholds]
    rfl

end TaskStep

/-- The collector gets something from a task that was not aborted once the task is done, or once running the
    executable on its fixture broke down. -/
theorem Task.joined_cases {t : Task} {x : Result} (ht : t.Sound s) (haborted : t.aborted = false)
    (hjoined : t.joined? = some x) :
    t.phase = .done x ∧ Run.Delivered s t.fixture x ∨
      ∃ message content, t.phase = .panicked message ∧ s.host.read t.fixture.path = .ok content ∧
        s.executor.verdict t.fixture.path = .panicked message ∧
        x = .errored t.fixture (Run.panicReason t.number message) .zero := by
  unfold Task.Sound at ht
  unfold Task.joined? at hjoined
  cases hphase : t.phase with rw [hphase] at ht hjoined
  | waiting => cases hjoined
  | reading => cases hjoined
  | running => cases hjoined
  | done y =>
    obtain rfl := Option.some.inj hjoined
    exact .inl ⟨rfl, ht⟩
  | panicked message =>
    obtain ⟨⟨content, hread⟩, hverdict⟩ := ht
    exact .inr ⟨message, content, rfl, hread, hverdict, (Option.some.inj hjoined).symm⟩
  | cancelled => exact absurd (haborted.symm.trans ht) Bool.false_ne_true

/-- What the collector gets from a task that was not aborted is what a run makes of its fixture. -/
theorem Task.delivered_of_joined {t : Task} {x : Result} (ht : t.Sound s)
    (haborted : t.aborted = false) (hjoined : t.joined? = some x) : Run.Delivered s t.fixture x := by
  obtain ⟨-, hx⟩ | ⟨message, content, -, hread, hverdict, rfl⟩ := joined_cases ht haborted hjoined
  · exact hx
  · exact delivered_of_panicked hread hverdict t.number

/-! ## §2 Aborting tasks -/

theorem map_abortFrom {α : Type} {f : Task → α} (hf : ∀ t, f t.abort = f t) (i : Nat)
    (tasks : List Task) : (abortFrom i tasks).map f = tasks.map f := by
  have hcomp : f ∘ Task.abort = f := funext hf
  rw [abortFrom, List.map_append, List.map_map, hcomp, ← List.map_append, List.take_append_drop]

theorem countP_abortFrom (i : Nat) (tasks : List Task) :
    (abortFrom i tasks).countP (·.holdsPermit) = tasks.countP (·.holdsPermit) := by
  have hmap := congrArg (List.countP id)
    (map_abortFrom (f := Task.holdsPermit) (fun _ => rfl) i tasks)
  rwa [List.countP_map, List.countP_map] at hmap

theorem Task.Sound.abort {t : Task} (h : t.Sound s) : t.abort.Sound s := by
  unfold Task.Sound Task.abort at *
  cases hphase : t.phase with rw [hphase] at h
  | waiting => trivial
  | reading => trivial
  | running => exact h
  | done => exact h
  | panicked => exact h

/-- What holds of all tasks and is not lost when a task is aborted holds of all tasks if some are. -/
theorem forall_mem_abortFrom {p : Task → Prop} {tasks : List Task} (h : ∀ t ∈ tasks, p t)
    (habort : ∀ t, p t → p t.abort) (i : Nat) : ∀ t ∈ abortFrom i tasks, p t := by
  intro t ht
  rcases List.mem_append.mp ht with ht | ht
  · exact h t (List.mem_of_mem_take ht)
  · obtain ⟨u, hu, rfl⟩ := List.mem_map.mp ht
    exact habort u (h u (List.mem_of_mem_drop hu))

theorem sound_abortFrom {tasks : List Task} (h : ∀ t ∈ tasks, t.Sound s) (i : Nat) :
    ∀ t ∈ abortFrom i tasks, t.Sound s := forall_mem_abortFrom h (fun _ ht => ht.abort) i

/-! ## §3 The invariant -/

/-- How the report stands, by what has been recorded and whether the collector has returned. -/
inductive Reported (plan : Plan) (st : State) : Prop where
  /-- The collector is at work. -/
  | underWay (running : st.returned = none)
      (reporter : st.reporter = plan.reporter.recordEach st.recorded)
  /-- The last result could not be written. -/
  | abandoned {xs : List Result} {x : Result} {e : ReportError} (recorded : st.recorded = xs ++ [x])
      (written : (plan.reporter.recordEach xs).record x = (st.reporter, some e))
      (returned : st.returned = some (.error (.report e)))
  /-- Results were left over when the shutdown was complete, and the report was closed. -/
  | interrupted {v : Except ReportError Summary} (elapsed : Duration)
      (left : st.recorded.length < plan.fixtures.length)
      (complete : ∀ stop, plan.shutdown = .byReport stop →
        stop (plan.reporter.recordEach st.recorded) = true)
      (closed : ((plan.reporter.recordEach st.recorded).interrupt
        (plan.fixtures.length - st.recorded.length)).finish elapsed = (st.reporter, v))
      (returned : st.returned = some (v.mapError .report))
  /-- All results were recorded, and the report was closed. -/
  | finished {v : Except ReportError Summary} (elapsed : Duration)
      (all : st.recorded.length = plan.fixtures.length)
      (closed : (plan.reporter.recordEach st.recorded).finish elapsed = (st.reporter, v))
      (returned : st.returned = some (v.mapError .report))

/-- How the report stands depends on what the collector has done alone. -/
theorem Reported.congr (h : Reported plan st) (recorded : st'.recorded = st.recorded)
    (reporter : st'.reporter = st.reporter) (returned : st'.returned = st.returned) :
    Reported plan st' := by
  cases h with
  | underWay hrunning hreporter =>
    exact .underWay (returned.trans hrunning) (by rw [reporter, recorded, hreporter])
  | abandoned hrecorded hwritten hreturned =>
    exact .abandoned (recorded.trans hrecorded) (by rw [reporter, hwritten])
      (returned.trans hreturned)
  | interrupted elapsed hleft hcomplete hclosed hreturned =>
    rw [← recorded] at hleft hcomplete hclosed
    exact .interrupted elapsed hleft hcomplete (by rw [reporter, hclosed])
      (returned.trans hreturned)
  | finished elapsed hall hclosed hreturned =>
    rw [← recorded] at hall hclosed
    exact .finished elapsed hall (by rw [reporter, hclosed]) (returned.trans hreturned)

/-- What holds in every state of a run. -/
structure Inv (plan : Plan) (st : State) : Prop where
  /-- Every fixture has its task, in the order of discovery. -/
  fixtures : st.tasks.map (·.fixture) = plan.fixtures
  sound : ∀ t ∈ st.tasks, t.Sound plan.setting
  /-- Tasks are aborted only when the collector returns. -/
  aborted : st.returned = none → ∀ t ∈ st.tasks, t.aborted = false
  /-- Every permit is free or with a task. -/
  permits : st.permits + st.tasks.countP (·.holdsPermit) = plan.jobs
  /-- The recorded results are those of the first fixtures. -/
  recorded : List.Forall₂ (Run.Delivered plan.setting) (plan.fixtures.take st.recorded.length)
    st.recorded
  /-- The shutdown was not complete before any of them was recorded. -/
  pending : ∀ stop, plan.shutdown = .byReport stop → ∀ j < st.recorded.length,
    stop (plan.reporter.recordEach (st.recorded.take j)) = false
  reported : Reported plan st

theorem start?_eq_some :
    plan.start? = some st ↔
      plan.jobs ≤ Run.permitLimit ∧
        ⟨plan.tasks, plan.jobs, [], [], plan.reporter, false, none⟩ = st := by
  unfold Plan.start?
  split
  · simp
    omega
  · simp
    omega

theorem map_fixture_tasks (plan : Plan) : plan.tasks.map (·.fixture) = plan.fixtures :=
  List.ext_getElem (by simp [Plan.tasks]) fun i _ _ => by simp [Plan.tasks]

theorem fresh_of_mem_tasks {t : Task} (ht : t ∈ plan.tasks) :
    t.phase = .waiting ∧ t.aborted = false := by
  obtain ⟨i, hi, rfl⟩ := List.mem_mapIdx.mp ht
  exact ⟨rfl, rfl⟩

/-- What holds of all tasks, and of the one that took a step if it held of it before, holds of all tasks
    after the step. -/
theorem forall_mem_replaced {p : Task → Prop} {before after : List Task} {t t' : Task}
    (h : ∀ u ∈ before ++ t :: after, p u) (ht : p t → p t') :
    ∀ u ∈ before ++ t' :: after, p u := by
  rw [List.forall_mem_append, List.forall_mem_cons] at h ⊢
  exact ⟨h.1, ht h.2.1, h.2.2⟩

namespace Inv

/-! ### Where a run starts -/

theorem start (h : plan.start? = some st) : Inv plan st := by
  obtain ⟨-, rfl⟩ := start?_eq_some.mp h
  refine ⟨map_fixture_tasks plan, fun t ht => ?_, fun _ t ht => (fresh_of_mem_tasks ht).2, ?_, .nil,
    ?_, .underWay rfl rfl⟩
  · unfold Task.Sound
    rw [(fresh_of_mem_tasks ht).1]
    trivial
  · have hnone : plan.tasks.countP (·.holdsPermit) = 0 :=
      List.countP_eq_zero.mpr fun t ht => by simp [Task.holdsPermit, (fresh_of_mem_tasks ht).1]
    exact congrArg (plan.jobs + ·) hnone
  · intro stop _ j hj
    exact absurd hj (Nat.not_lt_zero j)

/-! ### What the tasks do -/

theorem task (inv : Inv plan st) {before after : List Task} {t t' : Task} {free : Nat}
    {calls : List Path} (here : st.tasks = before ++ t :: after)
    (h : TaskStep plan.setting st.permits t free t' calls) :
    Inv plan
      { st with
        tasks := before ++ t' :: after
        permits := free
        called := st.called ++ calls } := by
  obtain ⟨hfixture, -, haborted⟩ := h.keeps
  have hmem : t ∈ st.tasks := here ▸ List.mem_append_right _ List.mem_cons_self
  refine ⟨?_, forall_mem_replaced (here ▸ inv.sound) h.sound, fun hrunning => ?_, ?_, inv.recorded,
    inv.pending, inv.reported.congr rfl rfl rfl⟩
  · rw [← inv.fixtures, here]
    simp [hfixture]
  · exact forall_mem_replaced (here ▸ inv.aborted hrunning) fun ht => haborted.trans ht
  · have hpermits := inv.permits
    have hstep := h.permits
    rw [here, List.countP_append, List.countP_cons] at hpermits
    simp only [List.countP_append, List.countP_cons]
    omega

/-! ### What the collector does -/

/-- While the collector is at work, the reporter is the one that the recorded results were handed
    to. -/
theorem reporter_of_running (inv : Inv plan st) (running : st.returned = none) :
    st.reporter = plan.reporter.recordEach st.recorded := by
  cases inv.reported with
  | underWay _ hreporter => exact hreporter
  | abandoned _ _ hreturned => exact absurd (running.symm.trans hreturned) (by simp)
  | interrupted _ _ _ _ hreturned => exact absurd (running.symm.trans hreturned) (by simp)
  | finished _ _ _ hreturned => exact absurd (running.symm.trans hreturned) (by simp)

theorem length_tasks (inv : Inv plan st) : st.tasks.length = plan.fixtures.length := by
  rw [← inv.fixtures, List.length_map]

theorem length_recorded_le (inv : Inv plan st) : st.recorded.length ≤ plan.fixtures.length := by
  have hlength := inv.recorded.length_eq
  rw [List.length_take] at hlength
  omega

/-- The result that the collector gets is added to those of the first fixtures. -/
theorem recorded_concat (inv : Inv plan st) (running : st.returned = none) {t : Task} {x : Result}
    (current : st.tasks[st.recorded.length]? = some t) (joined : t.joined? = some x) :
    List.Forall₂ (Run.Delivered plan.setting) (plan.fixtures.take (st.recorded ++ [x]).length)
      (st.recorded ++ [x]) := by
  -- The task is that of the first fixture without a result, and it was not aborted.
  have hmem : t ∈ st.tasks := List.mem_of_getElem? current
  have hx : Run.Delivered plan.setting t.fixture x :=
    Task.delivered_of_joined (inv.sound t hmem) (inv.aborted running t hmem) joined
  have hfixture : plan.fixtures[st.recorded.length]? = some t.fixture := by
    rw [← inv.fixtures, List.getElem?_map, current]
    rfl
  rw [List.length_append, List.length_singleton, List.take_add_one, hfixture]
  exact List.rel_append inv.recorded (.cons hx .nil)

/-- The look at the shutdown before the result is recorded is added to the earlier ones. -/
theorem pending_concat (inv : Inv plan st) (running : st.returned = none)
    (pending : plan.shutdown.isComplete st = false) (x : Result) (stop : Reporter → Bool)
    (hstop : plan.shutdown = .byReport stop) (j : Nat) (hj : j < (st.recorded ++ [x]).length) :
    stop (plan.reporter.recordEach ((st.recorded ++ [x]).take j)) = false := by
  rw [List.length_append, List.length_singleton] at hj
  rw [List.take_append_of_le_length (Nat.le_of_lt_succ hj)]
  rcases Nat.lt_succ_iff_lt_or_eq.mp hj with hj | rfl
  · exact inv.pending stop hstop j hj
  -- The last look is the one of this step.
  · rw [List.take_length, ← inv.reporter_of_running running]
    rw [hstop] at pending
    exact pending

theorem record (inv : Inv plan st) {t : Task} {x : Result} {r : Reporter}
    (running : st.returned = none) (current : st.tasks[st.recorded.length]? = some t)
    (pending : plan.shutdown.isComplete st = false) (joined : t.joined? = some x)
    (written : st.reporter.record x = (r, none)) :
    Inv plan { st with recorded := st.recorded ++ [x], reporter := r } := by
  refine ⟨inv.fixtures, inv.sound, inv.aborted, inv.permits,
    inv.recorded_concat running current joined, inv.pending_concat running pending x,
    .underWay running ?_⟩
  rw [Reporter.recordEach_concat, ← inv.reporter_of_running running, written]

theorem abandon (inv : Inv plan st) {t : Task} {x : Result} {r : Reporter} {e : ReportError}
    (running : st.returned = none) (current : st.tasks[st.recorded.length]? = some t)
    (pending : plan.shutdown.isComplete st = false) (joined : t.joined? = some x)
    (written : st.reporter.record x = (r, some e)) :
    Inv plan
      { st with
        tasks := abortFrom (st.recorded.length + 1) st.tasks
        recorded := st.recorded ++ [x]
        reporter := r
        returned := some (.error (.report e)) } := by
  refine ⟨(map_abortFrom (fun _ => rfl) _ _).trans inv.fixtures, sound_abortFrom inv.sound _, ?_,
    (congrArg (st.permits + ·) (countP_abortFrom _ _)).trans inv.permits,
    inv.recorded_concat running current joined, inv.pending_concat running pending x,
    .abandoned rfl ?_ rfl⟩
  · intro hreturned
    cases hreturned
  · rw [← inv.reporter_of_running running, written]

theorem interrupt (inv : Inv plan st) {r : Reporter} {v : Except ReportError Summary}
    (elapsed : Duration) (running : st.returned = none)
    (current : st.recorded.length < st.tasks.length)
    (complete : plan.shutdown.isComplete st = true)
    (closed : (st.reporter.interrupt
      (1 + (st.tasks.drop (st.recorded.length + 1)).length)).finish elapsed = (r, v)) :
    Inv plan
      { st with
        tasks := abortFrom st.recorded.length st.tasks
        reporter := r
        returned := some (v.mapError .report) } := by
  rw [inv.length_tasks] at current
  -- The task that was waited for and those behind it are the fixtures without a result.
  have hleft : 1 + (st.tasks.drop (st.recorded.length + 1)).length =
      plan.fixtures.length - st.recorded.length := by
    rw [List.length_drop, inv.length_tasks]
    omega
  rw [hleft, inv.reporter_of_running running] at closed
  refine ⟨(map_abortFrom (fun _ => rfl) _ _).trans inv.fixtures, sound_abortFrom inv.sound _, ?_,
    (congrArg (st.permits + ·) (countP_abortFrom _ _)).trans inv.permits, inv.recorded,
    inv.pending, .interrupted elapsed current ?_ closed rfl⟩
  · intro hreturned
    cases hreturned
  · intro stop hstop
    rw [hstop] at complete
    rw [← inv.reporter_of_running running]
    exact complete

theorem finish (inv : Inv plan st) {r : Reporter} {v : Except ReportError Summary}
    (elapsed : Duration) (running : st.returned = none)
    (allDone : st.tasks.length ≤ st.recorded.length)
    (closed : st.reporter.finish elapsed = (r, v)) :
    Inv plan { st with reporter := r, returned := some (v.mapError .report) } := by
  rw [inv.reporter_of_running running] at closed
  refine ⟨inv.fixtures, inv.sound, ?_, inv.permits, inv.recorded, inv.pending,
    .finished elapsed ?_ closed rfl⟩
  · intro hreturned
    cases hreturned
  · exact Nat.le_antisymm inv.length_recorded_le (inv.length_tasks ▸ allDone)

/-! ### Every step -/

theorem shutDown (inv : Inv plan st) : Inv plan { st with shutDown := true } :=
  ⟨inv.fixtures, inv.sound, inv.aborted, inv.permits, inv.recorded, inv.pending,
    inv.reported.congr rfl rfl rfl⟩

theorem step (inv : Inv plan st) (h : plan.Step st st') : Inv plan st' := by
  cases h with
  | task here step => exact inv.task here step
  | shutDown => exact inv.shutDown
  | record running current pending joined written =>
    exact inv.record running current pending joined written
  | abandon running current pending joined written =>
    exact inv.abandon running current pending joined written
  | interrupt elapsed running current complete closed =>
    exact inv.interrupt elapsed running current complete closed
  | finish elapsed running allDone closed => exact inv.finish elapsed running allDone closed

end Inv

theorem inv_of_reaches {n : Nat} (inv : Inv plan st) (h : plan.Reaches n st st') :
    Inv plan st' := by
  induction h with
  | refl => exact inv
  | step _ last ih => exact (ih inv).step last

/-! ## §4 What is returned over a sink that never fails -/

/-- Over a sink that never fails, no result is abandoned. -/
theorem not_abandoned (hsink : plan.reporter.sink.NeverFails) {xs : List Result} {x : Result}
    {r : Reporter} {e : ReportError} :
    (plan.reporter.recordEach xs).record x ≠ (r, some e) := by
  intro written
  have hwritten := (Reporter.record_of_neverFails (Reporter.recordEach_neverFails hsink xs) x).1
  rw [written] at hwritten
  cases hwritten

/-- The collector returns what closing the report gives, and it leaves results over only if the
    shutdown is complete. -/
theorem Inv.returned_of_neverFails (inv : Inv plan st) (hsink : plan.reporter.sink.NeverFails)
    {v : Except HarnessError Summary} (returned : st.returned = some v) :
    ∃ elapsed summary,
      (Run.stoppedAt plan.reporter plan.fixtures.length st.recorded).finish elapsed =
        (st.reporter, .ok summary) ∧
      v = .ok summary ∧
      (st.recorded.length < plan.fixtures.length → ∀ stop, plan.shutdown = .byReport stop →
        stop (plan.reporter.recordEach st.recorded) = true) := by
  have hopen := Run.stoppedAt_neverFails hsink plan.fixtures.length st.recorded
  cases inv.reported with
  | underWay running => exact absurd (running.symm.trans returned) (by simp)
  | abandoned _ written => exact absurd written (not_abandoned hsink)
  | interrupted elapsed left complete closed returned' =>
    rw [← Run.stoppedAt_of_lt left] at closed
    obtain ⟨rfl, -⟩ := Reporter.eq_ok_of_finish hopen closed
    exact ⟨elapsed, _, closed, Option.some.inj (returned.symm.trans returned'), fun _ => complete⟩
  | finished elapsed all closed returned' =>
    rw [← Run.stoppedAt_all, all] at closed
    obtain ⟨rfl, -⟩ := Reporter.eq_ok_of_finish hopen closed
    exact ⟨elapsed, _, closed, Option.some.inj (returned.symm.trans returned'),
      fun left => absurd left (all ▸ Nat.lt_irrefl _)⟩

end Conformance.Schedule
