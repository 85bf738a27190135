import Conformance.Proofs.Schedule.Invariant

/-!
# Every run comes to its end

A run does not get stuck while the collector is at work, and it cannot go on for ever.

- `Inv.exists_step`: some step can be taken until the collector has returned.
- `length_of_reaches`: a run takes at most four steps for each fixture, and two more.
- `comesToEnd`: so every schedule that is followed for long enough is complete.
-/

namespace Conformance.Schedule

variable {s : Run.Setting} {plan : Plan} {st st' : State}

/-! ## §1 No run gets stuck -/

/-- A task that holds a permit does not wait for anything. -/
theorem exists_taskStep_of_holdsPermit {t : Task} (h : t.holdsPermit = true) (free : Nat) :
    ∃ free' t' calls, TaskStep s free t free' t' calls := by
  unfold Task.holdsPermit at h
  cases hphase : t.phase with rw [hphase] at h
  | reading =>
    cases hread : s.host.read t.fixture.path with
    | ok content => exact ⟨_, _, _, .read hphase hread⟩
    | error e => exact ⟨_, _, _, .unreadable .zero hphase hread⟩
  | running e =>
    cases hverdict : s.executor.verdict t.fixture.path with
    | ended outcome => exact ⟨_, _, _, .ended .zero hphase hverdict⟩
    | panicked message => exact ⟨_, _, _, .panicked hphase hverdict⟩
  | waiting => cases h
  | done => cases h
  | panicked => cases h
  | cancelled => cases h

theorem exists_step_of_task {t : Task} (ht : t ∈ st.tasks)
    (h : ∃ free t' calls, TaskStep plan.setting st.permits t free t' calls) :
    ∃ st', plan.Step st st' := by
  obtain ⟨before, after, here⟩ := List.append_of_mem ht
  obtain ⟨free, t', calls, step⟩ := h
  exact ⟨_, .task here step⟩

/-- If no permit is free, the task that holds one can take a step; otherwise a waiting task can. -/
theorem Inv.exists_step_of_waiting (inv : Inv plan st) (hjobs : 0 < plan.jobs) {t : Task}
    (ht : t ∈ st.tasks) (hphase : t.phase = .waiting) : ∃ st', plan.Step st st' := by
  cases hfree : st.permits with
  -- All permits are held, and there are some.
  | zero =>
    have hpermits := inv.permits
    have hheld : 0 < st.tasks.countP (·.holdsPermit) := by omega
    obtain ⟨u, hu, hholds⟩ := List.countP_pos_iff.mp hheld
    exact exists_step_of_task hu (exists_taskStep_of_holdsPermit hholds _)
  | succ free =>
    refine exists_step_of_task ht ⟨free, { t with phase := .reading }, [], ?_⟩
    rw [hfree]
    exact .acquire hphase

/-- Until the collector has returned, some step can be taken. -/
theorem Inv.exists_step (inv : Inv plan st) (hjobs : 0 < plan.jobs)
    (running : st.returned = none) : ∃ st', plan.Step st st' := by
  rcases Nat.lt_or_ge st.recorded.length st.tasks.length with hk | hk
  · cases hcomplete : plan.shutdown.isComplete st with
    | true => exact ⟨_, .interrupt .zero running hk hcomplete rfl⟩
    | false =>
      have current := List.getElem?_eq_getElem hk
      have hmem := List.getElem_mem hk
      generalize st.tasks[st.recorded.length] = t at current hmem
      cases hjoined : t.joined? with
      | some x =>
        cases hwritten : st.reporter.record x with
        | mk r failure =>
          cases failure with
          | none => exact ⟨_, .record running current hcomplete hjoined hwritten⟩
          | some e => exact ⟨_, .abandon running current hcomplete hjoined hwritten⟩
      | none =>
        -- The task has not ended: it goes on itself, or it waits for a permit.
        cases hphase : t.phase with
        | waiting => exact inv.exists_step_of_waiting hjobs hmem hphase
        | reading =>
          exact exists_step_of_task hmem
            (exists_taskStep_of_holdsPermit (by rw [Task.holdsPermit, hphase]) _)
        | running e =>
          exact exists_step_of_task hmem
            (exists_taskStep_of_holdsPermit (by rw [Task.holdsPermit, hphase]) _)
        | done x => simp [Task.joined?, hphase] at hjoined
        | panicked message => simp [Task.joined?, hphase] at hjoined
        | cancelled => simp [Task.joined?, hphase] at hjoined
  · exact ⟨_, .finish .zero running hk rfl⟩

/-! ## §2 No run goes on for ever -/

/-- How many steps a task has before it at most. -/
def Task.rank (t : Task) : Nat :=
  match t.phase with
  | .waiting => 3
  | .reading => 2
  | .running _ => 1
  | .done _ | .panicked _ | .cancelled => 0

/-- How many steps tasks have before them at most. -/
def ranks : List Task → Nat
  | [] => 0
  | t :: ts => t.rank + ranks ts

theorem ranks_append (ts us : List Task) : ranks (ts ++ us) = ranks ts + ranks us := by
  induction ts with
  | nil => exact (Nat.zero_add _).symm
  | cons t ts ih => rw [List.cons_append, ranks, ranks, ih, Nat.add_assoc]

theorem ranks_map_abort (ts : List Task) : ranks (ts.map Task.abort) = ranks ts := by
  induction ts with
  | nil => rfl
  | cons t ts ih => rw [List.map_cons, ranks, ranks, ih]; rfl

theorem ranks_abortFrom (i : Nat) (ts : List Task) : ranks (abortFrom i ts) = ranks ts := by
  rw [abortFrom, ranks_append, ranks_map_abort, ← ranks_append, List.take_append_drop]

/-- Tasks that have not done anything yet have three steps before them each. -/
theorem ranks_of_waiting {ts : List Task} (h : ∀ t ∈ ts, t.phase = .waiting) :
    ranks ts = 3 * ts.length := by
  induction ts with
  | nil => rfl
  | cons t ts ih =>
    have hfirst : t.rank = 3 := by rw [Task.rank, h t List.mem_cons_self]
    rw [ranks, hfirst, ih fun u hu => h u (List.mem_cons_of_mem _ hu), List.length_cons]
    omega

theorem length_abortFrom (i : Nat) (tasks : List Task) :
    (abortFrom i tasks).length = tasks.length := by
  rw [← List.length_map Task.fixture, map_abortFrom fun _ => rfl, List.length_map]

/-- How many steps a run has before it at most: those of the tasks, one for each result that is not
    recorded, one for the collector to return, and one for the shutdown. -/
def State.rank (st : State) : Nat :=
  ranks st.tasks + (st.tasks.length - st.recorded.length) +
    (if st.returned.isSome then 0 else 1) + (if st.shutDown then 0 else 1)

theorem TaskStep.rank_lt {free free' : Nat} {t t' : Task} {calls : List Path}
    (h : TaskStep s free t free' t' calls) : t'.rank < t.rank := by
  cases h with
  | acquire hphase => simp [Task.rank, hphase]
  | read hphase => simp [Task.rank, hphase]
  | unreadable _ hphase => simp [Task.rank, hphase]
  | ended _ hphase => simp [Task.rank, hphase]
  | panicked hphase => simp [Task.rank, hphase]
  | cancelWaiting _ hphase => simp [Task.rank, hphase]
  | cancelHolding _ hholds =>
    unfold Task.holdsPermit at hholds
    cases hphase : t.phase with rw [hphase] at hholds
    | reading => simp [Task.rank, hphase]
    | running => simp [Task.rank, hphase]
    | waiting => cases hholds
    | done => cases hholds
    | panicked => cases hholds
    | cancelled => cases hholds

theorem rank_lt_of_step (h : plan.Step st st') : st'.rank < st.rank := by
  cases h with
  | task here step =>
    have hlt := step.rank_lt
    simp only [State.rank, here, ranks_append, ranks, List.length_append, List.length_cons]
    omega
  | shutDown _ _ pending => simp [State.rank, pending]
  -- The collector is done with one task more; it was not done with all of them.
  | record running current =>
    have hlt := (List.getElem?_eq_some_iff.mp current).1
    simp only [State.rank, running, List.length_append, List.length_singleton]
    omega
  | abandon running current =>
    have hlt := (List.getElem?_eq_some_iff.mp current).1
    simp only [State.rank, running, ranks_abortFrom, length_abortFrom, List.length_append,
      List.length_singleton]
    simp
    omega
  | interrupt elapsed running =>
    simp [State.rank, running, ranks_abortFrom, length_abortFrom]
  | finish elapsed running =>
    simp [State.rank, running]

theorem rank_of_start (h : plan.start? = some st) : st.rank = 4 * plan.fixtures.length + 2 := by
  obtain ⟨-, rfl⟩ := start?_eq_some.mp h
  have hlength : plan.tasks.length = plan.fixtures.length := by simp [Plan.tasks]
  have hranks : ranks plan.tasks = 3 * plan.tasks.length :=
    ranks_of_waiting fun t ht => (fresh_of_mem_tasks ht).1
  simp only [State.rank, hranks, hlength]
  simp
  omega

theorem rank_of_reaches {n : Nat} (h : plan.Reaches n st st') : n + st'.rank ≤ st.rank := by
  induction h with
  | refl => omega
  | step _ last ih =>
    have hlt := rank_lt_of_step last
    omega

/-- A run has at most four steps for each fixture, and two more. -/
theorem length_of_reaches {n : Nat} (hstart : plan.start? = some st)
    (h : plan.Reaches n st st') : n ≤ 4 * plan.fixtures.length + 2 := by
  have hrank := rank_of_reaches h
  rw [rank_of_start hstart] at hrank
  omega

/-! ## §3 Complete runs -/

/-- A plan starts, and whatever schedule it follows comes to its end: it does not get stuck before
    the collector has returned, and there is a bound on its steps. -/
def Plan.ComesToEnd (plan : Plan) : Prop :=
  ∃ start, plan.start? = some start ∧
    ∀ n st, plan.Reaches n start st →
      n ≤ 4 * plan.fixtures.length + 2 ∧ (st.returned = none → ∃ st', plan.Step st st')

/-- A complete run: it leads from the start to a state in which the collector has returned. -/
def Plan.Completes (plan : Plan) (st : State) (v : Except HarnessError Summary) : Prop :=
  ∃ start n, plan.start? = some start ∧ plan.Reaches n start st ∧ st.returned = some v

theorem comesToEnd (hjobs : 0 < plan.jobs) (hlimit : plan.jobs ≤ Run.permitLimit) :
    plan.ComesToEnd := by
  have hstart := start?_eq_some.mpr ⟨hlimit, rfl⟩
  exact ⟨_, hstart, fun n st h => ⟨length_of_reaches hstart h,
    fun running => (inv_of_reaches (.start hstart) h).exists_step hjobs running⟩⟩

/-- So there is a complete run. -/
theorem Plan.ComesToEnd.exists_completes (h : plan.ComesToEnd) : ∃ st v, plan.Completes st v := by
  obtain ⟨start, hstart, hruns⟩ := h
  -- Otherwise there would be runs of any length.
  refine Classical.byContradiction fun hnone => ?_
  have hrunning : ∀ {n st}, plan.Reaches n start st → st.returned = none := by
    intro n st hst
    refine Option.eq_none_iff_forall_ne_some.mpr fun v hv => ?_
    exact hnone ⟨st, v, start, n, hstart, hst, hv⟩
  have hlong : ∀ n, ∃ st, plan.Reaches n start st := by
    intro n
    induction n with
    | zero => exact ⟨start, .refl start⟩
    | succ n ih =>
      obtain ⟨st, hst⟩ := ih
      obtain ⟨st', hstep⟩ := (hruns n st hst).2 (hrunning hst)
      exact ⟨st', .step hst hstep⟩
  obtain ⟨st, hst⟩ := hlong (4 * plan.fixtures.length + 3)
  exact absurd (hruns _ st hst).1 (by omega)

theorem inv_of_completes {v : Except HarnessError Summary} (h : plan.Completes st v) :
    Inv plan st ∧ st.returned = some v := by
  obtain ⟨start, n, hstart, hreaches, hreturned⟩ := h
  exact ⟨inv_of_reaches (.start hstart) hreaches, hreturned⟩

end Conformance.Schedule
