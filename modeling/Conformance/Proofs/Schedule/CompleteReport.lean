import Conformance.Proofs.LimitedSink
import Conformance.Proofs.Schedule.Independence
import Conformance.Proofs.Verdicts

/-!
# Complete reports

What a run comes to that is neither shut down nor kept from writing: it records one result for each
fixture, in their order, returns the counts of these results, and leaves what is written for them in the
sink. This holds of every schedule and of the run that takes one fixture after the other.

- `verdictOf`: whether a fixture passes, which does not depend on the schedule.
- `ReportsAll`: a report of all fixtures, and `ReportsAll.counts_eq`, that it counts their verdicts.
- `reportsAll_of_completes`, `reportsAll_run`: every complete schedule and every run leave one.
-/

namespace Conformance.Run

/-! ## §1 Verdicts -/

variable {s : Setting} {f : Fixture} {fixtures : List Fixture}

/-- Whether a fixture passes in a setting. -/
def verdictOf (s : Setting) (f : Fixture) : Bool := (resultOf s 0 f).passed

theorem Delivered.fixture_eq {x : Result} (h : Delivered s f x) : x.fixture = f := by
  obtain ⟨duration, task, rfl⟩ := h
  exact resultOf_fixture _ task f

theorem Delivered.passed_eq {x : Result} (h : Delivered s f x) :
    x.passed = verdictOf s x.fixture := by
  rw [h.fixture_eq]
  exact (agrees_of_delivered h (delivered_resultOf s 0 f)).passed_eq

theorem map_fixture_of_delivered {xs : List Result}
    (h : List.Forall₂ (Delivered s) fixtures xs) : xs.map (·.fixture) = fixtures := by
  induction h with
  | nil => rfl
  | cons hx _ ih => rw [List.map_cons, ih, hx.fixture_eq]

theorem passed_of_delivered {xs : List Result} (h : List.Forall₂ (Delivered s) fixtures xs) :
    ∀ x ∈ xs, x.passed = verdictOf s x.fixture := by
  induction h with
  | nil => exact fun x hx => absurd hx List.not_mem_nil
  | cons hx _ ih => exact List.forall_mem_cons.mpr ⟨hx.passed_eq, ih⟩

/-! ## §2 Reports -/

/-- A report of all fixtures: the results `xs` were recorded, one for each fixture in their order, the
    reporter `r` holds what was written for them behind the octets that were there before, and the counts
    that were returned are theirs. -/
structure ReportsAll (fixtures : List Fixture) (style : Style) (before : Bytes) (xs : List Result)
    (r : Reporter) (summary : Summary) : Prop where
  fixtures : xs.map (·.fixture) = fixtures
  counts : summary = ⟨xs.countP (·.passed), xs.countP (!·.passed), false⟩
  written : ∃ closing,
    r.sink.content = before ++ (Reporter.recordsOctets style xs ++ closing)

variable {style : Style} {sink : Sink}

/-- The counts are those of the verdicts on the fixtures. -/
theorem ReportsAll.counts_eq {before : Bytes} {xs : List Result} {r : Reporter} {summary : Summary}
    (h : ReportsAll fixtures style before xs r summary)
    (hdelivered : List.Forall₂ (Delivered s) fixtures xs) :
    summary = ⟨fixtures.countP (verdictOf s), fixtures.countP (!verdictOf s ·), false⟩ := by
  obtain ⟨hsuccesses, hfailures⟩ := countP_passed (passed_of_delivered hdelivered)
  rw [h.counts, hsuccesses, hfailures, h.fixtures]

/-- A result was counted for each fixture. -/
theorem ReportsAll.total_eq {before : Bytes} {xs : List Result} {r : Reporter} {summary : Summary}
    (h : ReportsAll fixtures style before xs r summary) : summary.total = fixtures.length := by
  have hlength : xs.length = fixtures.length := by rw [← h.fixtures, List.length_map]
  have hsplit := List.length_eq_countP_add_countP (fun x : Result => x.passed) (l := xs)
  rw [h.counts, Summary.total, ← hlength, hsplit]
  simp

/-- A report is complete if all results were recorded over a sink that never fails. -/
theorem reportsAll_of_finish (hsink : sink.NeverFails) {xs : List Result}
    (hfixtures : xs.map (·.fixture) = fixtures) {elapsed : Duration} {r : Reporter}
    {summary : Summary}
    (closed : ((Reporter.fresh style sink).recordEach xs).finish elapsed = (r, .ok summary)) :
    ReportsAll fixtures style sink.content xs r summary := by
  have hfresh : (Reporter.fresh style sink).sink.NeverFails := hsink
  have hopen := Reporter.recordEach_neverFails hfresh xs
  obtain ⟨hok, -⟩ := Reporter.eq_ok_of_finish hopen closed
  obtain ⟨closing, hclosing⟩ := Reporter.exists_content_finish hopen elapsed
  refine ⟨hfixtures, ?_, closing, ?_⟩
  · rw [Except.ok.inj hok, Reporter.recordEach_fresh_summary]
  · rw [closed, Reporter.content_recordEach hfresh, List.append_assoc] at hclosing
    exact hclosing

/-- Every complete schedule that is not shut down leaves a complete report. -/
theorem reportsAll_of_completes (hsink : sink.NeverFails) {jobs : Nat} {number : Nat → Nat}
    {st : Schedule.State} {v : Except HarnessError Summary}
    (h : (Schedule.Plan.fresh s fixtures jobs number .never style sink).Completes st v) :
    List.Forall₂ (Delivered s) fixtures st.recorded ∧
      ∃ summary, v = .ok summary ∧
        ReportsAll fixtures style sink.content st.recorded st.reporter summary := by
  have hfresh : (Reporter.fresh style sink).sink.NeverFails := hsink
  obtain ⟨hdelivered, _, summary, hclosed, hv⟩ := Schedule.report_of_completes rfl hfresh h
  exact ⟨hdelivered, summary, hv,
    reportsAll_of_finish hsink (map_fixture_of_delivered hdelivered) hclosed⟩

/-- So does the run that takes one fixture after the other. -/
theorem reportsAll_run (style : Style) {c : Config} {jobs : Nat}
    (hselected : selected s.host c = .ok fixtures) (hjobs : jobs ≤ permitLimit)
    (hsink : sink.NeverFails) (elapsed : Duration) :
    ∃ r summary,
      run s c jobs (fun _ => false) elapsed (.fresh style sink) =
        .returned r (.ok summary) ((fixtures.filter (isRun s)).map (·.path)) ∧
      ReportsAll fixtures style sink.content (results s fixtures) r summary := by
  have hfresh : (Reporter.fresh style sink).sink.NeverFails := hsink
  obtain ⟨r, summary, hclosed, hrun⟩ := run_of_neverFails hselected hjobs hfresh elapsed
  exact ⟨r, summary, hrun, reportsAll_of_finish hsink (resultsFrom_fixture s 1 fixtures) hclosed⟩

end Conformance.Run
