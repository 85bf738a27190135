import Conformance.Proofs.Schedule.Progress

/-!
# The report does not depend on the schedule

Tasks may run in any order and end in any order. The collector takes their results in the order of
discovery, so a complete run that is not shut down reports what is reported if the fixtures are read
and run one after the other, and it does not matter how many run at once.

- `inTurn`: the sequential run, and `inTurn_eq_collect`, that it is the one that is carried out.
- `report_of_completes`: the results of all fixtures were handed to the reporter in their order.
- `schedule_independent`: so the report is that of the sequential run.
-/

namespace Conformance.Schedule

variable {plan : Plan} {st : State}

/-! ## §1 One fixture after the other -/

/-- Reads, runs and records fixtures one after the other, as tasks numbered from `task` on, and
    closes the report. -/
def inTurn (s : Run.Setting) (elapsed : Duration) (task : Nat) (r : Reporter) :
    List Fixture → Reporter × Except ReportError Summary
  | [] => r.finish elapsed
  | f :: fs =>
    match r.record (Run.resultOf s task f) with
    | (r, none) => inTurn s elapsed (task + 1) r fs
    | (r, some e) => (r, .error e)

/-- This is what a run does that is not stopped. -/
theorem inTurn_eq_collect (s : Run.Setting) (elapsed : Duration) (task : Nat) (r : Reporter)
    (fs : List Fixture) :
    inTurn s elapsed task r fs =
      Run.collect (fun _ => false) elapsed r (Run.resultsFrom s task fs) := by
  induction fs generalizing task r with
  | nil => rfl
  | cons f fs ih =>
    rw [inTurn, Run.resultsFrom, Run.collect, Run.recordAll, if_neg Bool.false_ne_true]
    cases r.record (Run.resultOf s task f) with
    | mk r failure =>
      cases failure with
      | none => exact ih (task + 1) r
      | some e => rfl

/-- Over a sink that never fails, the results of all fixtures are handed to the reporter. -/
theorem inTurn_of_neverFails (s : Run.Setting) (elapsed : Duration) {r : Reporter}
    (h : r.sink.NeverFails) (fixtures : List Fixture) :
    inTurn s elapsed 1 r fixtures = (r.recordEach (Run.results s fixtures)).finish elapsed :=
  (inTurn_eq_collect s elapsed 1 r fixtures).trans (Run.collect_never h elapsed _)

/-! ## §2 Any schedule -/

/-- At the end of a run that is not shut down, the reporter was handed one result for each fixture,
    in their order, and the report was closed. -/
theorem report_of_completes (hnever : plan.shutdown = .never)
    (hsink : plan.reporter.sink.NeverFails) {v : Except HarnessError Summary}
    (h : plan.Completes st v) :
    List.Forall₂ (Run.Delivered plan.setting) plan.fixtures st.recorded ∧
      ∃ elapsed summary,
        (plan.reporter.recordEach st.recorded).finish elapsed = (st.reporter, .ok summary) ∧
        v = .ok summary := by
  obtain ⟨inv, hreturned⟩ := inv_of_completes h
  obtain ⟨elapsed, summary, hclosed, hv, hcomplete⟩ := inv.returned_of_neverFails hsink hreturned
  -- The shutdown is never complete, so no fixture is left over.
  have hall : st.recorded.length = plan.fixtures.length := by
    rcases Nat.lt_or_eq_of_le inv.length_recorded_le with hleft | hall
    · exact absurd (hcomplete hleft _ hnever) Bool.false_ne_true
    · exact hall
  have hrecorded := inv.recorded
  rw [← hall, Run.stoppedAt_all] at hclosed
  rw [hall, List.take_length] at hrecorded
  exact ⟨hrecorded, elapsed, summary, hclosed, hv⟩

/-- Every complete schedule hands the reporter the results that the sequential run hands it, times
    and the numbers of panicked tasks apart. It returns the same counts and, where times are not
    shown, writes the same text, these numbers apart. So the number of fixtures that run at once
    makes no difference to the report. -/
theorem schedule_independent (s : Run.Setting) (fixtures : List Fixture) (jobs jobs' : Nat)
    (number number' : Nat → Nat) (style : Style) (sink : Sink) (elapsed : Duration)
    (hjobs : 0 < jobs) (hlimit : jobs ≤ Run.permitLimit) (hsink : sink.NeverFails) :
    (Plan.fresh s fixtures jobs number .never style sink).ComesToEnd ∧
      ∀ st v, (Plan.fresh s fixtures jobs number .never style sink).Completes st v →
        (List.Forall₂ Result.Agrees st.recorded (Run.results s fixtures) ∧
          ∃ r summary,
            inTurn s elapsed 1 (.fresh style sink) fixtures = (r, .ok summary) ∧
            v = .ok summary ∧
            (style.verbose = false → style.format ≠ .junit →
              Reporter.WritesAlike sink.content st.reporter r)) ∧
        ∀ st' v', (Plan.fresh s fixtures jobs' number' .never style sink).Completes st' v' →
          List.Forall₂ Result.Agrees st.recorded st'.recorded ∧ v = v' ∧
            (style.verbose = false → style.format ≠ .junit →
              Reporter.WritesAlike sink.content st.reporter st'.reporter) := by
  have hfresh : (Reporter.fresh style sink).sink.NeverFails := hsink
  refine ⟨comesToEnd hjobs hlimit, fun st v hst => ?_⟩
  obtain ⟨hdelivered, _, summary, hclosed, rfl⟩ := report_of_completes rfl hfresh hst
  refine ⟨?_, fun st' v' hst' => ?_⟩
  -- Both the schedule and the sequential run hand over what the fixtures can come to.
  · have hagrees : List.Forall₂ Result.Agrees st.recorded (Run.results s fixtures) :=
      Run.forall₂_agrees hdelivered (Run.delivered_resultsFrom s 1 fixtures)
    have hinTurn := inTurn_of_neverFails s elapsed hfresh fixtures
    cases hreference : ((Reporter.fresh style sink).recordEach (Run.results s fixtures)).finish
        elapsed with
    | mk r v =>
      obtain ⟨rfl, halike⟩ := Reporter.alike_of_agrees hfresh hagrees hclosed hreference
      exact ⟨hagrees, r, summary, hinTurn.trans hreference, rfl, halike⟩
  · obtain ⟨hdelivered', _, summary', hclosed', rfl⟩ := report_of_completes rfl hfresh hst'
    have hagrees := Run.forall₂_agrees hdelivered hdelivered'
    obtain ⟨hsummary, halike⟩ := Reporter.alike_of_agrees hfresh hagrees hclosed hclosed'
    exact ⟨hagrees, congrArg _ (Except.ok.inj hsummary), halike⟩

/-- Empty fixtures, and an executable that breaks down on one of them. -/
def breaksDownOnce : Run.Setting where
  host := ⟨fun _ => .ok [], fun _ => .ok []⟩
  executor := ⟨fun p => if p = [0x61] then .panicked (some "") else .ended .succeeded, fun _ => []⟩
  marker := ⟨⟨.char 'x'⟩⟩
  elapsed _ := .zero

/-- One fixture at a time, with some schedule, against the sequential run. -/
theorem schedule_independent_breaksDownOnce :
    ∃ st r summary,
      (Plan.fresh breaksDownOnce [⟨[0x61]⟩, ⟨[0x62]⟩] 1 id .never ⟨.pretty, false, false, "", ""⟩
        .unlimited).Completes st (.ok summary) ∧
      inTurn breaksDownOnce .zero 1 (.fresh ⟨.pretty, false, false, "", ""⟩ .unlimited)
        [⟨[0x61]⟩, ⟨[0x62]⟩] = (r, .ok summary) ∧
      Reporter.WritesAlike [] st.reporter r ∧ summary.failures = 1 := by
  obtain ⟨hends, hcomplete⟩ :=
    schedule_independent breaksDownOnce [⟨[0x61]⟩, ⟨[0x62]⟩] 1 2 id id
      ⟨.pretty, false, false, "", ""⟩ .unlimited .zero (by decide) (by decide)
      Sink.unlimited_neverFails
  obtain ⟨st, v, hst⟩ := hends.exists_completes
  obtain ⟨⟨-, r, summary, hinTurn, rfl, halike⟩, -⟩ := hcomplete st v hst
  refine ⟨st, r, summary, hst, hinTurn, halike rfl (by decide), ?_⟩
  rw [inTurn_of_neverFails _ _ Sink.unlimited_neverFails] at hinTurn
  obtain ⟨hsummary, -⟩ :=
    Reporter.eq_ok_of_finish (Reporter.recordEach_neverFails Sink.unlimited_neverFails _) hinTurn
  rw [Except.ok.inj hsummary, Reporter.recordEach_fresh_summary]
  decide +kernel

end Conformance.Schedule
