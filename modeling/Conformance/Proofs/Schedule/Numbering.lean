import Conformance.Proofs.Schedule.Independence

/-!
# The numbers of tasks

The number of a task shows in one place alone, in the reason of a fixture whose run broke down. So a run
that is not shut down and whose report can be written records what its fixtures come to under the numbers
that their tasks happened to get, the times that were measured apart. If nothing breaks down, the numbers do
not show at all.

- `Task.Numbered`: the result of a task that is done is the one under its own number.
- `Numbered.step`: every step keeps this of all tasks, and of what was recorded.
- `untimed_of_completes`: so at the end the results are those under the numbers of their tasks.
- `results_congr`: with the same numbers, or if nothing breaks down, these are the same results.
-/

namespace Conformance

/-- A result, the time that was measured for it apart. -/
def Result.untimed (x : Result) : Result := { x with duration := .zero }

namespace Schedule

variable {s : Run.Setting} {plan : Plan} {st st' : State}

/-! ## §1 Tasks -/

/-- What a run makes of the fixture of a task, as the task of this number. -/
def Task.result (s : Run.Setting) (t : Task) : Result := Run.resultOf s t.number t.fixture

/-- If the task is done, its result is the one under its number, but for the time. -/
def Task.Numbered (s : Run.Setting) (t : Task) : Prop :=
  ∀ x, t.phase = .done x → x.untimed = (t.result s).untimed

theorem TaskStep.numbered {free free' : Nat} {t t' : Task} {calls : List Path}
    (h : TaskStep s free t free' t' calls) (ht : t.Sound s) : t'.Numbered s := by
  intro x hx
  cases h with
  | acquire | read | panicked | cancelWaiting | cancelHolding => cases hx
  | unreadable _ _ hread =>
    obtain rfl := Phase.done.inj hx
    simp only [Task.result, Run.resultOf, hread]
    rfl
  | ended _ hphase hverdict =>
    obtain rfl := Phase.done.inj hx
    -- While it ran, it knew what to expect of the content that was read.
    unfold Task.Sound at ht
    rw [hphase] at ht
    obtain ⟨content, hread, rfl⟩ := ht
    simp only [Task.result, Run.resultOf, hread, hverdict]
    rfl

/-- What the collector gets from a task that was not aborted is the result under its number. -/
theorem Task.untimed_of_joined {t : Task} {x : Result} (ht : t.Sound s) (hnumbered : t.Numbered s)
    (haborted : t.aborted = false) (hjoined : t.joined? = some x) :
    x.untimed = (t.result s).untimed := by
  obtain ⟨hphase, -⟩ | ⟨message, content, -, hread, hverdict, rfl⟩ :=
    joined_cases ht haborted hjoined
  · exact hnumbered x hphase
  -- This is where the number shows, and it is the task's own.
  · simp only [Task.result, Run.resultOf, hread, hverdict]

/-! ## §2 Runs -/

/-- What the fixtures come to under the numbers of their tasks. -/
def Plan.results (plan : Plan) : List Result := plan.tasks.map (Task.result plan.setting)

/-- The tasks that are done and the results that were recorded go by the numbers of the plan. -/
structure Numbered (plan : Plan) (st : State) : Prop where
  tasks : ∀ t ∈ st.tasks, t.Numbered plan.setting
  /-- No task gets another fixture or another number. -/
  kept : st.tasks.map (Task.result plan.setting) = plan.results
  recorded : st.recorded.map (·.untimed) = (plan.results.take st.recorded.length).map (·.untimed)

namespace Numbered

theorem start (h : plan.start? = some st) : Numbered plan st := by
  obtain ⟨-, rfl⟩ := start?_eq_some.mp h
  refine ⟨fun t ht x hx => ?_, rfl, rfl⟩
  rw [(fresh_of_mem_tasks ht).1] at hx
  cases hx

theorem task (inv : Inv plan st) (h : Numbered plan st) {before after : List Task} {t t' : Task}
    {free : Nat} {calls : List Path} (here : st.tasks = before ++ t :: after)
    (step : TaskStep plan.setting st.permits t free t' calls) :
    Numbered plan
      { st with
        tasks := before ++ t' :: after
        permits := free
        called := st.called ++ calls } := by
  obtain ⟨hfixture, hnumber, -⟩ := step.keeps
  have hmem : t ∈ st.tasks := here ▸ List.mem_append_right _ List.mem_cons_self
  refine ⟨forall_mem_replaced (here ▸ h.tasks) fun _ => step.numbered (inv.sound t hmem), ?_,
    h.recorded⟩
  rw [← h.kept, here]
  simp only [List.map_append, List.map_cons, Task.result, hfixture, hnumber]

/-- The result that the collector gets is the next one of the plan. -/
theorem concat (inv : Inv plan st) (h : Numbered plan st) (running : st.returned = none) {t : Task}
    {x : Result} (current : st.tasks[st.recorded.length]? = some t) (joined : t.joined? = some x) :
    (st.recorded ++ [x]).map (·.untimed) =
      (plan.results.take (st.recorded ++ [x]).length).map (·.untimed) := by
  have hmem : t ∈ st.tasks := List.mem_of_getElem? current
  have hx := Task.untimed_of_joined (inv.sound t hmem) (h.tasks t hmem) (inv.aborted running t hmem)
    joined
  -- The task still has the fixture and the number that the plan gave it.
  have hnext : plan.results[st.recorded.length]? = some (t.result plan.setting) := by
    rw [← h.kept, List.getElem?_map, current]
    rfl
  rw [List.length_append, List.length_singleton, List.take_add_one, hnext, List.map_append,
    List.map_append, h.recorded]
  exact congrArg (_ ++ [·]) hx

/-- Aborting tasks changes neither their numbers nor what they came to. -/
theorem abort (h : Numbered plan st) (i : Nat) :
    (∀ t ∈ abortFrom i st.tasks, t.Numbered plan.setting) ∧
      (abortFrom i st.tasks).map (Task.result plan.setting) = plan.results :=
  ⟨forall_mem_abortFrom h.tasks (fun _ ht => ht) i, (map_abortFrom (fun _ => rfl) i _).trans h.kept⟩

theorem step (inv : Inv plan st) (h : Numbered plan st) (step : plan.Step st st') :
    Numbered plan st' := by
  cases step with
  | task here step => exact h.task inv here step
  | shutDown => exact ⟨h.tasks, h.kept, h.recorded⟩
  | record running current _ joined =>
    exact ⟨h.tasks, h.kept, h.concat inv running current joined⟩
  | abandon running current _ joined =>
    obtain ⟨htasks, hkept⟩ := h.abort (st.recorded.length + 1)
    exact ⟨htasks, hkept, h.concat inv running current joined⟩
  | interrupt =>
    obtain ⟨htasks, hkept⟩ := h.abort st.recorded.length
    exact ⟨htasks, hkept, h.recorded⟩
  | finish => exact ⟨h.tasks, h.kept, h.recorded⟩

end Numbered

theorem numbered_of_reaches {n : Nat} (inv : Inv plan st) (h : Numbered plan st)
    (hreaches : plan.Reaches n st st') : Numbered plan st' := by
  induction hreaches with
  | refl => exact h
  | step before last ih => exact (ih inv h).step (inv_of_reaches inv before) last

/-- A complete run that is not shut down and whose report can be written recorded what its fixtures come
    to under the numbers of their tasks. -/
theorem untimed_of_completes (hnever : plan.shutdown = .never)
    (hsink : plan.reporter.sink.NeverFails) {v : Except HarnessError Summary}
    (h : plan.Completes st v) : st.recorded.map (·.untimed) = plan.results.map (·.untimed) := by
  have hall := (report_of_completes hnever hsink h).1.length_eq
  obtain ⟨start, n, begun, reached, -⟩ := h
  have hrecorded := (numbered_of_reaches (.start begun) (.start begun) reached).recorded
  have hlength : plan.results.length = plan.fixtures.length := by
    rw [Plan.results, List.length_map, ← map_fixture_tasks plan, List.length_map]
  -- As many results were recorded as there are fixtures, so none of the plan's is left.
  rwa [← hall, ← hlength, List.take_length] at hrecorded

/-! ## §3 Other numbers -/

/-- What is made of fixtures and the numbers of their tasks is the same with other numbers if these make no
    difference. -/
theorem map_tasks_congr {α : Type} {g : Nat → Fixture → α} {fixtures : List Fixture}
    {jobs jobs' : Nat} {number number' : Nat → Nat} {shutdown shutdown' : Shutdown}
    {style style' : Style} {sink sink' : Sink}
    (h : number = number' ∨ ∀ n n' f, g n f = g n' f) :
    (Plan.fresh s fixtures jobs number shutdown style sink).tasks.map
        (fun t => g t.number t.fixture) =
      (Plan.fresh s fixtures jobs' number' shutdown' style' sink').tasks.map
        fun t => g t.number t.fixture := by
  have hplace : ∀ i f, g (number i) f = g (number' i) f := by
    rcases h with rfl | h
    · exact fun _ _ => rfl
    · exact fun i f => h _ _ f
  refine List.ext_getElem (by simp [Plan.tasks, Plan.fresh]) fun i _ _ => ?_
  simp [Plan.tasks, Plan.fresh, hplace]

/-- If nothing breaks down, the number of a task does not show in the result. -/
theorem resultOf_congr_number (h : s.executor.NeverBreaksDown) (n n' : Nat) (f : Fixture) :
    Run.resultOf s n f = Run.resultOf s n' f := by
  obtain ⟨outcome, hverdict⟩ := h f.path
  unfold Run.resultOf
  cases s.host.read f.path with
  | error e => rfl
  | ok content => simp only [hverdict]

/-- With the same numbers, or if nothing breaks down, the same fixtures come to the same. -/
theorem results_congr {fixtures : List Fixture} {jobs jobs' : Nat} {number number' : Nat → Nat}
    {shutdown shutdown' : Shutdown} {style style' : Style} {sink sink' : Sink}
    (h : number = number' ∨ s.executor.NeverBreaksDown) :
    (Plan.fresh s fixtures jobs number shutdown style sink).results =
      (Plan.fresh s fixtures jobs' number' shutdown' style' sink').results :=
  map_tasks_congr (h.imp_right fun hnever => resultOf_congr_number hnever)

end Schedule
end Conformance
