import Mathlib.Data.List.Nodup
import Mathlib.Data.List.Perm.Subperm
import Conformance.Proofs.Schedule.Ending
import Conformance.Proofs.Schedule.Isolation

/-!
# What the executable is called on

A task calls the executable once, after it has read its file, and never if it could not. So however far
a schedule has got and however the run ends, the executable was called on the paths of selected fixtures
that can be read, on each of them once at most. A run that returns its counts and was not interrupted
waited for every task, so it called the executable on all of them.

As no path is called twice in a run, nothing is lost by an executable whose verdict depends on the path
alone.

- `Ledger`: the calls so far, split among the tasks that made them.
- `Collected`: the tasks that the collector is done with have come to an end of their own.
- `Attempt`: what can come of running a configuration, also where no task is ever made.
- `calls_accounted`: which calls an attempt has made.
-/

namespace Conformance

namespace Run

variable {s : Setting} {f : Fixture} {content : Bytes}

/-- What a fixture has the executable called on: its path, if it can be read. -/
def calls (s : Setting) (f : Fixture) : List Path := if isRun s f then [f.path] else []

theorem calls_of_read (h : s.host.read f.path = .ok content) : calls s f = [f.path] := by
  simp [calls, isRun, h]

theorem calls_of_unreadable {e : IoError} (h : s.host.read f.path = .error e) : calls s f = [] := by
  simp [calls, isRun, h]

/-- The paths of the fixtures that can be read, in the order of the fixtures. -/
def readable (host : Host) (fixtures : List Fixture) : List Path :=
  (fixtures.filter fun f => (host.read f.path).isOk).map (·.path)

theorem isRun_eq_isOk (s : Setting) (f : Fixture) : isRun s f = (s.host.read f.path).isOk := by
  unfold isRun
  cases s.host.read f.path <;> rfl

theorem flatMap_calls (s : Setting) (fixtures : List Fixture) :
    fixtures.flatMap (calls s) = readable s.host fixtures := by
  induction fixtures with
  | nil => rfl
  | cons f fs ih =>
    rw [List.flatMap_cons, ih, calls, isRun_eq_isOk, readable, readable, List.filter_cons]
    split <;> rfl

end Run

namespace Schedule

open Run (calls readable)

variable {s : Run.Setting} {plan : Plan} {st st' : State}

/-! ## §1 One task -/

/-- The paths that a task may have called the executable on, by its phase. A cancelled task may have been
    stopped before the call or after it. -/
def Task.HasCalled (s : Run.Setting) (t : Task) (paths : List Path) : Prop :=
  match t.phase with
  | .waiting | .reading => paths = []
  | .running _ | .done _ | .panicked _ => paths = calls s t.fixture
  | .cancelled => paths = [] ∨ paths = calls s t.fixture

/-- The calls of a step are those that the task had not made before it. -/
theorem TaskStep.hasCalled {free free' : Nat} {t t' : Task} {new paths : List Path}
    (h : TaskStep s free t free' t' new) (ht : t.HasCalled s paths) :
    t'.HasCalled s (paths ++ new) := by
  unfold Task.HasCalled at ht ⊢
  cases h with
  | acquire hphase =>
    rw [hphase] at ht
    subst ht
    rfl
  | read hphase hread =>
    rw [hphase] at ht
    subst ht
    exact (Run.calls_of_read hread).symm
  | unreadable _ hphase hread =>
    rw [hphase] at ht
    subst ht
    exact (Run.calls_of_unreadable hread).symm
  | ended _ hphase =>
    rw [hphase] at ht
    exact (List.append_nil _).trans ht
  | panicked hphase =>
    rw [hphase] at ht
    exact (List.append_nil _).trans ht
  | cancelWaiting _ hphase =>
    rw [hphase] at ht
    subst ht
    exact .inl rfl
  | cancelHolding _ hholds =>
    rw [List.append_nil]
    unfold Task.holdsPermit at hholds
    cases hphase : t.phase with rw [hphase] at ht hholds
    | reading => exact .inl ht
    | running => exact .inr ht
    | waiting => cases hholds
    | done => cases hholds
    | panicked => cases hholds
    | cancelled => cases hholds

theorem Task.HasCalled.sublist {t : Task} {paths : List Path} (h : t.HasCalled s paths) :
    paths.Sublist (calls s t.fixture) := by
  unfold Task.HasCalled at h
  cases hphase : t.phase with rw [hphase] at h
  | waiting => exact h ▸ List.nil_sublist _
  | reading => exact h ▸ List.nil_sublist _
  | running => exact h ▸ List.Sublist.refl _
  | done => exact h ▸ List.Sublist.refl _
  | panicked => exact h ▸ List.Sublist.refl _
  | cancelled =>
    rcases h with rfl | rfl
    · exact List.nil_sublist _
    · exact List.Sublist.refl _

/-- A phase in which a task has come to an end of its own. -/
def Phase.IsOver : Phase → Prop
  | .done _ | .panicked _ => True
  | .waiting | .reading | .running _ | .cancelled => False

theorem Task.HasCalled.eq_of_isOver {t : Task} {paths : List Path} (h : t.HasCalled s paths)
    (hover : t.phase.IsOver) : paths = calls s t.fixture := by
  unfold Task.HasCalled at h
  cases hphase : t.phase with rw [hphase] at h hover
  | done => exact h
  | panicked => exact h
  | waiting => cases hover
  | reading => cases hover
  | running => cases hover
  | cancelled => cases hover

/-! ## §2 All tasks -/

/-- The calls of tasks, one task after the other. -/
inductive Ledger (s : Run.Setting) : List Task → List Path → Prop where
  | nil : Ledger s [] []
  | cons {t : Task} {ts : List Task} {paths rest : List Path} (first : t.HasCalled s paths)
      (others : Ledger s ts rest) : Ledger s (t :: ts) (paths ++ rest)

/-- Tasks that have not done anything yet have called nothing. -/
theorem Ledger.of_waiting {ts : List Task} (h : ∀ t ∈ ts, t.phase = .waiting) : Ledger s ts [] := by
  induction ts with
  | nil => exact .nil
  | cons t ts ih =>
    have hfirst : t.HasCalled s [] := by
      unfold Task.HasCalled
      rw [h t List.mem_cons_self]
    exact .cons hfirst (ih fun u hu => h u (List.mem_cons_of_mem _ hu))

/-- What a task calls in a step is added to the ledger, at the place of the task. -/
theorem Ledger.step {before after : List Task} {t t' : Task} {free free' : Nat}
    {new called : List Path} (h : Ledger s (before ++ t :: after) called)
    (step : TaskStep s free t free' t' new) :
    ∃ called', Ledger s (before ++ t' :: after) called' ∧ called'.Perm (called ++ new) := by
  -- Over the tasks before it: their calls stay where they are, and the new one follows its own.
  induction before generalizing called with
  | nil =>
    cases h with
    | @cons _ _ paths rest first others =>
      refine ⟨_, .cons (step.hasCalled first) others, ?_⟩
      rw [List.append_assoc, List.append_assoc]
      exact List.perm_append_comm.append_left paths
  | cons u us ih =>
    cases h with
    | @cons _ _ paths rest first others =>
      obtain ⟨called', hledger, hperm⟩ := ih others
      refine ⟨_, .cons first hledger, ?_⟩
      rw [List.append_assoc]
      exact hperm.append_left paths

/-- Aborting tasks calls nothing. -/
theorem Ledger.abortFrom {ts : List Task} {called : List Path} (h : Ledger s ts called) (i : Nat) :
    Ledger s (abortFrom i ts) called := by
  induction h generalizing i with
  | nil => simpa [Schedule.abortFrom] using Ledger.nil
  | cons first _ ih =>
    cases i with
    | zero => exact .cons first (ih 0)
    | succ i => exact .cons first (ih i)

/-- No task calls the executable but on its own fixture, and none does so twice. -/
theorem Ledger.sublist {ts : List Task} {called : List Path} (h : Ledger s ts called) :
    called.Sublist (readable s.host (ts.map (·.fixture))) := by
  rw [← Run.flatMap_calls]
  induction h with
  | nil => exact List.Sublist.refl []
  | cons first _ ih => exact first.sublist.append ih

/-- If all tasks have come to an end of their own, they have called the executable on all fixtures that
    can be read. -/
theorem Ledger.eq_readable {ts : List Task} {called : List Path} (h : Ledger s ts called)
    (hover : ∀ t ∈ ts, t.phase.IsOver) : called = readable s.host (ts.map (·.fixture)) := by
  rw [← Run.flatMap_calls]
  induction h with
  | nil => rfl
  | @cons t ts _ _ first _ ih =>
    rw [List.map_cons, List.flatMap_cons, first.eq_of_isOver (hover t List.mem_cons_self),
      ih fun u hu => hover u (List.mem_cons_of_mem _ hu)]

/-! ## §3 The calls of a run -/

/-- The calls that were made are those of the tasks, in some order. -/
def Kept (s : Run.Setting) (st : State) : Prop :=
  ∃ called, Ledger s st.tasks called ∧ st.called.Perm called

theorem Kept.start (h : plan.start? = some st) : Kept plan.setting st := by
  obtain ⟨-, rfl⟩ := start?_eq_some.mp h
  exact ⟨[], .of_waiting fun t ht => (fresh_of_mem_tasks ht).1, .refl []⟩

theorem Kept.step (h : Kept plan.setting st) (step : plan.Step st st') : Kept plan.setting st' := by
  obtain ⟨called, hledger, hperm⟩ := h
  cases step with
  | @task before after t t' free new here step =>
    rw [here] at hledger
    obtain ⟨called', hledger', hperm'⟩ := hledger.step step
    exact ⟨called', hledger', (hperm.append_right new).trans hperm'.symm⟩
  | shutDown => exact ⟨called, hledger, hperm⟩
  | record => exact ⟨called, hledger, hperm⟩
  | abandon => exact ⟨called, hledger.abortFrom _, hperm⟩
  | interrupt => exact ⟨called, hledger.abortFrom _, hperm⟩
  | finish => exact ⟨called, hledger, hperm⟩

theorem kept_of_reaches {n : Nat} (h : Kept plan.setting st) (hreaches : plan.Reaches n st st') :
    Kept plan.setting st' := by
  induction hreaches with
  | refl => exact h
  | step _ last ih => exact (ih h).step last

/-! ## §4 The tasks that the collector is done with -/

/-- The tasks that the collector is done with have come to an end of their own. -/
def Collected (st : State) : Prop :=
  ∀ t ∈ st.tasks.take st.recorded.length, t.phase.IsOver

theorem TaskStep.not_isOver {free free' : Nat} {t t' : Task} {new : List Path}
    (h : TaskStep s free t free' t' new) : ¬t.phase.IsOver := by
  intro hover
  have hlt := h.rank_lt
  unfold Task.rank at hlt
  cases hphase : t.phase with rw [hphase] at hlt hover
  | done => exact absurd hlt (Nat.not_lt_zero _)
  | panicked => exact absurd hlt (Nat.not_lt_zero _)
  | waiting => cases hover
  | reading => cases hover
  | running => cases hover
  | cancelled => cases hover

/-- What the collector gets from a task that was not aborted, it gets at the end of the task. -/
theorem Task.isOver_of_joined {t : Task} {x : Result} (ht : t.Sound s) (haborted : t.aborted = false)
    (hjoined : t.joined? = some x) : t.phase.IsOver := by
  obtain ⟨hphase, -⟩ | ⟨message, content, hphase, -⟩ := joined_cases ht haborted hjoined
  · rw [hphase]
    trivial
  · rw [hphase]
    trivial

theorem isOver_take_abortFrom {tasks : List Task} {k : Nat}
    (h : ∀ t ∈ tasks.take k, t.phase.IsOver) (i : Nat) :
    ∀ t ∈ (abortFrom i tasks).take k, t.phase.IsOver := by
  have hphases := map_abortFrom (f := Task.phase) (fun _ => rfl) i tasks
  intro t ht
  have hphase : t.phase ∈ ((abortFrom i tasks).take k).map (·.phase) := List.mem_map_of_mem ht
  rw [List.map_take, hphases, ← List.map_take] at hphase
  obtain ⟨u, hu, hsame⟩ := List.mem_map.mp hphase
  exact hsame ▸ h u hu

theorem Collected.start (h : plan.start? = some st) : Collected st := by
  obtain ⟨-, rfl⟩ := start?_eq_some.mp h
  intro t ht
  exact absurd ht List.not_mem_nil

/-- A task that takes a step is none that the collector is done with. -/
theorem Collected.task (h : Collected st) {before after : List Task} {t t' : Task} {free free' : Nat}
    {new : List Path} (here : st.tasks = before ++ t :: after)
    (step : TaskStep s free t free' t' new) :
    ∀ u ∈ (before ++ t' :: after).take st.recorded.length, u.phase.IsOver := by
  -- The tasks that the collector is done with have no step left, so `t` stands behind them.
  have hbehind : st.recorded.length ≤ before.length := by
    refine Nat.le_of_not_lt fun hlt => step.not_isOver (h t ?_)
    rw [here, List.take_append, List.take_of_length_le (Nat.le_of_lt hlt)]
    refine List.mem_append_right _ ?_
    rw [List.take_cons (by omega)]
    exact List.mem_cons_self
  intro u hu
  rw [List.take_append_of_le_length hbehind] at hu
  refine h u ?_
  rwa [here, List.take_append_of_le_length hbehind]

theorem Collected.concat (inv : Inv plan st) (h : Collected st) (running : st.returned = none)
    {t : Task} {x : Result} (current : st.tasks[st.recorded.length]? = some t)
    (joined : t.joined? = some x) :
    ∀ u ∈ st.tasks.take (st.recorded ++ [x]).length, u.phase.IsOver := by
  intro u hu
  rw [List.length_append, List.length_singleton, List.take_add_one, current] at hu
  rcases List.mem_append.mp hu with hu | hu
  · exact h u hu
  · -- While the collector has not returned, no task has been aborted.
    have hmem : t ∈ st.tasks := List.mem_of_getElem? current
    obtain rfl : u = t := List.mem_singleton.mp hu
    exact Task.isOver_of_joined (inv.sound u hmem) (inv.aborted running u hmem) joined

theorem Collected.step (inv : Inv plan st) (h : Collected st) (step : plan.Step st st') :
    Collected st' := by
  cases step with
  | task here step => exact h.task here step
  | shutDown => exact h
  | record running current _ joined => exact h.concat inv running current joined
  | abandon running current _ joined =>
    exact isOver_take_abortFrom (h.concat inv running current joined) _
  | interrupt => exact isOver_take_abortFrom h _
  | finish => exact h

theorem collected_of_reaches {n : Nat} (inv : Inv plan st) (h : Collected st)
    (hreaches : plan.Reaches n st st') : Collected st' := by
  induction hreaches with
  | refl => exact h
  | step before last ih => exact (ih inv h).step (inv_of_reaches inv before) last

/-! ## §5 Every schedule -/

/-- Wherever a run gets, it has called the executable on fixtures that can be read, on each of them once
    at most. -/
theorem called_subperm {start : State} {n : Nat} (hstart : plan.start? = some start)
    (h : plan.Reaches n start st) :
    st.called.Subperm (readable plan.setting.host plan.fixtures) := by
  obtain ⟨called, hledger, hperm⟩ := kept_of_reaches (.start hstart) h
  have hsublist := hledger.sublist
  rw [(inv_of_reaches (.start hstart) h).fixtures] at hsublist
  exact hperm.subperm.trans hsublist.subperm

/-- Once the collector is done with all tasks, the executable was called on all fixtures that can be
    read. -/
theorem called_perm {start : State} {n : Nat} (hstart : plan.start? = some start)
    (h : plan.Reaches n start st) (hall : plan.fixtures.length ≤ st.recorded.length) :
    st.called.Perm (readable plan.setting.host plan.fixtures) := by
  have inv := inv_of_reaches (.start hstart) h
  have hcollected := collected_of_reaches (.start hstart) (.start hstart) h
  obtain ⟨called, hledger, hperm⟩ := kept_of_reaches (.start hstart) h
  have hover : ∀ t ∈ st.tasks, t.phase.IsOver := by
    intro t ht
    refine hcollected t ?_
    rwa [List.take_of_length_le (inv.length_tasks ▸ hall)]
  have hcalled := hledger.eq_readable hover
  rw [inv.fixtures] at hcalled
  exact hcalled ▸ hperm

/-! ## §6 Configurations -/

/-- What can have come of running a configuration at some moment: the paths that the executable was
    called on so far, and what was returned, if the run is over. Without a marker and a listing of the
    directory it is over before any task is made. -/
inductive Attempt (host : Host) (executor : Executor) (c : Config) (available : Nat)
    (number : Nat → Nat) (shutdown : Shutdown) (style : Style) (sink : Sink) :
    List Path → Option (Except HarnessError Summary) → Prop where
  | unmarked {e : HarnessError} (marker : Run.markerOf c = .error e) :
      Attempt host executor c available number shutdown style sink [] (some (.error e))
  | unlisted {m : Marker} {e : HarnessError} (marker : Run.markerOf c = .ok m)
      (selected : Run.selected host c = .error e) :
      Attempt host executor c available number shutdown style sink [] (some (.error e))
  | underWay {m : Marker} {elapsed : Fixture → Duration} {fixtures : List Fixture} {start st : State}
      {n : Nat} (marker : Run.markerOf c = .ok m) (selected : Run.selected host c = .ok fixtures)
      (begun : (Plan.fresh ⟨host, executor, m, elapsed⟩ fixtures (Run.jobsOf available c) number
        shutdown style sink).start? = some start)
      (reached : (Plan.fresh ⟨host, executor, m, elapsed⟩ fixtures (Run.jobsOf available c) number
        shutdown style sink).Reaches n start st) :
      Attempt host executor c available number shutdown style sink st.called st.returned

/-- What the calls of an attempt are that has returned `v`, if it is over. -/
structure CallsAccounted (host : Host) (c : Config) (called : List Path)
    (v : Option (Except HarnessError Summary)) : Prop where
  /-- Nothing is called without a marker and a listing of the directory. -/
  refused : ∀ e, Run.markerOf c = .error e ∨ Run.selected host c = .error e → called = []
  /-- Each call is that of a selected fixture that can be read, and no two calls are of the same one. -/
  once : ∀ fixtures, Run.selected host c = .ok fixtures →
    called.Subperm (readable host fixtures)
  /-- The entries of a directory have names of their own, so no path is called twice. -/
  distinct : ∀ entries, host.list c.fixturesDir = .ok entries → Discovery.IsListing entries →
    called.Nodup
  /-- A run that returns its counts without having been interrupted has called all of them. -/
  all : ∀ fixtures summary, Run.selected host c = .ok fixtures → v = some (.ok summary) →
    summary.interrupted = false → called.Perm (readable host fixtures)

theorem nodup_readable (host : Host) {fixtures : List Fixture} (h : fixtures.Nodup) :
    (readable host fixtures).Nodup := by
  refine List.Nodup.map ?_ (h.filter _)
  rintro ⟨path⟩ ⟨path'⟩ rfl
  rfl

theorem nodup_of_subperm {host : Host} {fixtures : List Fixture} {called : List Path}
    (honce : called.Subperm (readable host fixtures)) (h : fixtures.Nodup) : called.Nodup := by
  obtain ⟨inOrder, hperm, hsublist⟩ := honce
  exact hperm.nodup_iff.mp (hsublist.nodup (nodup_readable host h))

/-- Where nothing was called and an error was returned, nothing is left to account for. -/
theorem callsAccounted_nil {host : Host} {c : Config} {e : HarnessError} :
    CallsAccounted host c [] (some (.error e)) where
  refused _ _ := rfl
  once _ _ := List.nil_subperm
  distinct _ _ _ := List.nodup_nil
  all _ _ _ hok := by cases hok

/-- Where there is a marker and the directory was listed, the calls are accounted for if they are so
    against the selected fixtures. -/
theorem callsAccounted_of_selected {host : Host} {c : Config} {m : Marker} {fixtures : List Fixture}
    {called : List Path} {v : Option (Except HarnessError Summary)} (marker : Run.markerOf c = .ok m)
    (selected : Run.selected host c = .ok fixtures)
    (once : called.Subperm (readable host fixtures))
    (all : ∀ summary, v = some (.ok summary) → summary.interrupted = false →
      called.Perm (readable host fixtures)) : CallsAccounted host c called v where
  refused e hrefused := by
    rcases hrefused with hmarker | hselected
    · cases marker.symm.trans hmarker
    · cases selected.symm.trans hselected
  once fixtures' hselected := by
    obtain rfl := Except.ok.inj (selected.symm.trans hselected)
    exact once
  distinct entries hlist hentries :=
    nodup_of_subperm once (Run.nodup_selected selected hlist hentries)
  all fixtures' summary hselected hreturned hinterrupted := by
    obtain rfl := Except.ok.inj (selected.symm.trans hselected)
    exact all summary hreturned hinterrupted

/-- The run that takes one fixture after the other calls the executable on all fixtures that can be
    read, in their order, if the directory can be listed. -/
theorem called_of_run {s : Run.Setting} {c : Config} {jobs : Nat} {stop : Reporter → Bool}
    {elapsed : Duration} {start r : Reporter} {v : Except HarnessError Summary} {called : List Path}
    (h : Run.run s c jobs stop elapsed start = .returned r v called) :
    (∃ e, called = [] ∧ v = .error e) ∨
      ∃ fixtures, Run.selected s.host c = .ok fixtures ∧ called = readable s.host fixtures := by
  cases hselected : Run.selected s.host c with
  | error e =>
    simp only [Run.run, hselected, Run.Ended.returned.injEq] at h
    exact .inl ⟨e, h.2.2.symm, h.2.1.symm⟩
  | ok fixtures =>
    -- With more permits than can be issued, nothing is returned.
    have hlimit : jobs ≤ Run.permitLimit := by
      refine Nat.le_of_not_lt fun hlt => ?_
      simp only [Run.run, hselected, if_pos hlt] at h
      cases h
    cases hcollect : Run.collect stop elapsed start (Run.results s fixtures) with
    | mk r' v' =>
      rw [Run.run_of_collect hselected hlimit hcollect] at h
      injection h with _ _ hcalled
      refine .inr ⟨fixtures, rfl, ?_⟩
      rw [← hcalled, readable, funext (Run.isRun_eq_isOk s)]

/-- Whatever comes of running a configuration, at any moment of any schedule, whenever it is shut down
    and whatever the sink does: the executable was called on paths of selected fixtures that can be read,
    once at most for each of them, and not at all if the marker is none or the directory cannot be
    listed. When the run returns counts that are not marked as interrupted, it was called on all of
    them. So it is with the run that takes one fixture after the other. -/
theorem calls_accounted (host : Host) (executor : Executor) (c : Config) (available : Nat)
    (number : Nat → Nat) (shutdown : Shutdown) (style : Style) (sink : Sink) :
    (∀ called v, Attempt host executor c available number shutdown style sink called v →
      CallsAccounted host c called v) ∧
    ∀ m elapsed stop total r v called, Run.markerOf c = .ok m →
      Run.run ⟨host, executor, m, elapsed⟩ c (Run.jobsOf available c) stop total
          (.fresh style sink) = .returned r v called →
        CallsAccounted host c called (some v) := by
  refine ⟨fun called v h => ?_, fun m elapsed stop total r v called hmarker hrun => ?_⟩
  · cases h with
    | unmarked => exact callsAccounted_nil
    | unlisted => exact callsAccounted_nil
    | @underWay m elapsed fixtures start st n marker selected begun reached =>
      have honce : st.called.Subperm (readable host fixtures) := called_subperm begun reached
      refine callsAccounted_of_selected marker selected honce fun summary hreturned hfinished => ?_
      exact called_perm begun reached (recorded_all ⟨start, n, begun, reached, hreturned⟩ hfinished)
  · rcases called_of_run hrun with ⟨e, rfl, rfl⟩ | ⟨fixtures, hselected, rfl⟩
    · exact callsAccounted_nil
    · exact callsAccounted_of_selected hmarker hselected (List.Subperm.refl _)
        fun _ _ _ => List.Perm.refl _

/-- Two files, of which the second cannot be read. -/
def secondUnreadable : Host where
  list := Run.twoFiles.list
  read path := if path = [0x2F, 0x61] then .ok [0x78] else .error (.system .noEntry)

/-- The executable is called on the first file alone. -/
theorem calls_accounted_secondUnreadable :
    ∃ called summary,
      Attempt secondUnreadable Run.alwaysFailing Run.markedWithX 3 id .never
        ⟨.pretty, false, false, "", ""⟩ .unlimited called (some (.ok summary)) ∧
      called = [[0x2F, 0x61]] ∧ summary.failures = 1 := by
  let s : Run.Setting := ⟨secondUnreadable, Run.alwaysFailing, ⟨⟨.char 'x'⟩⟩, fun _ => .zero⟩
  have hselected : Run.selected secondUnreadable Run.markedWithX =
      .ok [⟨[0x2F, 0x61]⟩, ⟨[0x2F, 0x62]⟩] := Run.selected_twoFiles
  have hends : (Plan.fresh s [⟨[0x2F, 0x61]⟩, ⟨[0x2F, 0x62]⟩] 3 id .never
      ⟨.pretty, false, false, "", ""⟩ .unlimited).ComesToEnd := comesToEnd (by decide) (by decide)
  obtain ⟨st, v, hst⟩ := hends.exists_completes
  obtain ⟨hdelivered, summary, rfl, hreport⟩ :=
    Run.reportsAll_of_completes Sink.unlimited_neverFails hst
  have hcounts := hreport.counts_eq hdelivered
  obtain ⟨start, n, hstart, hreaches, hreturned⟩ := hst
  have hattempt : Attempt secondUnreadable Run.alwaysFailing Run.markedWithX 3 id .never
      ⟨.pretty, false, false, "", ""⟩ .unlimited st.called st.returned :=
    .underWay rfl hselected hstart hreaches
  rw [hreturned] at hattempt
  have haccounted := (calls_accounted _ _ _ _ _ _ _ _).1 _ _ hattempt
  have hperm := haccounted.all _ summary hselected rfl (by rw [hcounts])
  refine ⟨st.called, summary, hattempt, List.perm_singleton.mp (hperm.trans ?_), ?_⟩
  · exact List.Perm.of_eq (by decide +kernel)
  · rw [hcounts]
    decide +kernel

end Schedule
end Conformance
