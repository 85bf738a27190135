import Conformance.Proofs.LimitedSink
import Conformance.Proofs.Schedule.Ending
import Conformance.Proofs.Verdicts

/-!
# What a summary says of a run

A summary is asked whether the run was interrupted and whether it was a success. After a run that
returned its counts, and after one that was shut down, the answers are true. They are not after a run
that gave up on a result and left others over: it is not marked as interrupted, and it counts as a
success if the results up to there passed.

- `Truthful`: what the answers should say, and `Abandoned`, where they do not.
- `truthful_unless_abandoned`: this is so for every schedule, every shutdown and every sink.
- `exists_untruthful_success`: a run that counts as a success with a fixture left over.
-/

namespace Conformance

/-! ## §1 Summaries -/

namespace Run

/-- What a summary should say of `n` fixtures after the results `recorded`: that the run was
    interrupted exactly if results are left over, and that it was a success only if there are none and
    all of them passed. -/
structure Truthful (n : Nat) (recorded : List Result) (summary : Summary) : Prop where
  interrupted : summary.interrupted = true ↔ recorded.length < n
  success : summary.isSuccess = true → recorded.length = n ∧ ∀ x ∈ recorded, x.passed = true

/-- Whether results are left over behind one that could not be written. -/
def Abandoned (start : Reporter) (n : Nat) (recorded : List Result) : Prop :=
  recorded.length < n ∧ ¬start.WritesAll recorded

/-- What the summary of a report says after it ended and `v` was returned. -/
structure Tells (start : Reporter) (n : Nat) (recorded : List Result) (r : Reporter)
    (v : Except HarnessError Summary) : Prop where
  truthful : Truthful n recorded r.summary ↔ ¬Abandoned start n recorded
  abandoned : Abandoned start n recorded →
    r.summary.interrupted = false ∧ ∃ e, v = .error (.report e)
  /-- A success is never claimed of a result that was recorded and failed. -/
  passed : r.summary.isSuccess = true → ∀ x ∈ recorded, x.passed = true
  returned : ∀ summary, v = .ok summary → Truthful n recorded summary

theorem isSuccess_iff (xs : List Result) (interrupted : Bool) :
    (Summary.mk (xs.countP (·.passed)) (xs.countP (!·.passed)) interrupted).isSuccess = true ↔
      interrupted = false ∧ ∀ x ∈ xs, x.passed = true := by
  simp [Summary.isSuccess, and_comm]

/-- Counts that tell whether results are left over are truthful. -/
theorem truthful_counts {n : Nat} {recorded : List Result} (hle : recorded.length ≤ n) :
    Truthful n recorded
      ⟨recorded.countP (·.passed), recorded.countP (!·.passed), recorded.length < n⟩ := by
  refine ⟨decide_eq_true_iff, fun hsuccess => ?_⟩
  obtain ⟨hnot, hpassed⟩ := (isSuccess_iff recorded _).mp hsuccess
  have hlt := of_decide_eq_false hnot
  exact ⟨by omega, hpassed⟩

theorem tells_of_ending {stop : Reporter → Prop} {style : Style} {sink : Sink} {n : Nat}
    {recorded : List Result} {r : Reporter} {v : Except ReportError Summary}
    (hle : recorded.length ≤ n) (h : Ending stop (.fresh style sink) n recorded r v) :
    Tells (.fresh style sink) n recorded r (v.mapError .report) := by
  rcases h.summary_cases with ⟨hunwritten, ⟨e, rfl⟩, hsummary⟩ | ⟨hwritten, hreturned, hsummary⟩
  -- A result could not be written, and the run is not marked as interrupted.
  · refine ⟨⟨fun htruthful => ?_, fun hnot => ?_⟩, fun _ => ⟨by rw [hsummary], e, rfl⟩, ?_, ?_⟩
    · rintro ⟨hleft, -⟩
      have hinterrupted := htruthful.interrupted.mpr hleft
      rw [hsummary] at hinterrupted
      cases hinterrupted
    · have hall : ¬recorded.length < n := fun hleft => hnot ⟨hleft, hunwritten⟩
      have hcounts := truthful_counts hle
      rw [decide_eq_false hall, ← hsummary] at hcounts
      exact hcounts
    · intro hsuccess
      rw [hsummary] at hsuccess
      exact ((isSuccess_iff recorded false).mp hsuccess).2
    · intro summary hok
      cases hok
  -- The report was closed, and the run is marked as interrupted if results are left over.
  · have htruthful : Truthful n recorded r.summary := by
      rw [hsummary]
      exact truthful_counts hle
    have hnot : ¬Abandoned (.fresh style sink) n recorded := fun h => h.2 hwritten
    refine ⟨iff_of_true htruthful hnot, fun h => absurd h hnot, ?_, ?_⟩
    · intro hsuccess
      exact (htruthful.success hsuccess).2
    · intro summary hok
      cases v with
      | error e => cases hok
      | ok counts =>
        obtain rfl := Except.ok.inj hok
        rw [hreturned counts rfl]
        exact htruthful

/-- Over a sink that never fails, no result is given up on. -/
theorem writesAll_of_neverFails {r : Reporter} (h : r.sink.NeverFails) (xs : List Result) :
    r.WritesAll xs := by
  induction xs generalizing r with
  | nil => trivial
  | cons x xs ih =>
    obtain ⟨hnone, hopen, -⟩ := Reporter.record_of_neverFails h x
    exact ⟨hnone, ih hopen⟩

end Run

/-! ## §2 Every schedule, every shutdown and every sink -/

namespace Schedule

/-- However a run with a reporter that had seen nothing before comes to its end, its summary is
    truthful exactly unless results are left over behind one that could not be written. There the
    summary says that the run was not interrupted, though it is an error that was returned; counts
    that are returned are truthful. This holds of every schedule and of the run that takes one fixture
    after the other. -/
theorem truthful_unless_abandoned (s : Run.Setting) (c : Config) (fixtures : List Fixture)
    (jobs : Nat) (number : Nat → Nat) (shutdown : Shutdown) (style : Style) (sink : Sink)
    (hselected : Run.selected s.host c = .ok fixtures) (hjobs : 0 < jobs)
    (hlimit : jobs ≤ Run.permitLimit) :
    ((Plan.fresh s fixtures jobs number shutdown style sink).ComesToEnd ∧
      ∀ st v, (Plan.fresh s fixtures jobs number shutdown style sink).Completes st v →
        List.Forall₂ (Run.Delivered s) (fixtures.take st.recorded.length) st.recorded ∧
        Run.Tells (.fresh style sink) fixtures.length st.recorded st.reporter v) ∧
      ∀ stop elapsed, ∃ k ≤ fixtures.length, ∃ r v called,
        Run.run s c jobs stop elapsed (.fresh style sink) = .returned r v called ∧
        Run.Tells (.fresh style sink) fixtures.length ((Run.results s fixtures).take k) r v := by
  refine ⟨⟨comesToEnd hjobs hlimit, fun st v hst => ?_⟩, fun stop elapsed => ?_⟩
  · obtain ⟨hdelivered, hle, w, rfl, hending⟩ := ending_of_completes hst
    exact ⟨hdelivered, Run.tells_of_ending hle hending⟩
  · have hlength : (Run.results s fixtures).length = fixtures.length :=
      (Run.delivered_resultsFrom s 1 fixtures).length_eq.symm
    obtain ⟨k, hk, r, v, hcollect, hending⟩ :=
      Run.ending_of_collect stop elapsed (.fresh style sink) (Run.results s fixtures)
    rw [hlength] at hk hending
    have hle : ((Run.results s fixtures).take k).length ≤ fixtures.length := by
      rw [List.length_take, hlength]
      exact Nat.min_le_right _ _
    exact ⟨k, hk, r, _, _, Run.run_of_collect hselected hlimit hcollect,
      Run.tells_of_ending hle hending⟩

/-- A run that may be shut down at any moment, over a sink that never fails: the summary is truthful. -/
theorem truthful_unless_abandoned_byItself :
    ∃ st v,
      (Plan.fresh ⟨Run.twoFiles, Run.alwaysFailing, ⟨⟨.char 'x'⟩⟩, fun _ => .zero⟩
        [⟨[0x2F, 0x61]⟩, ⟨[0x2F, 0x62]⟩] 1 id .byItself ⟨.terse, false, true, "", ""⟩
        .unlimited).Completes st v ∧
      Run.Truthful 2 st.recorded st.reporter.summary := by
  obtain ⟨⟨hends, hcomplete⟩, -⟩ :=
    truthful_unless_abandoned ⟨Run.twoFiles, Run.alwaysFailing, ⟨⟨.char 'x'⟩⟩, fun _ => .zero⟩
      Run.markedWithX _ 1 id .byItself ⟨.terse, false, true, "", ""⟩ .unlimited
      Run.selected_twoFiles (by decide) (by decide)
  obtain ⟨st, v, hst⟩ := hends.exists_completes
  obtain ⟨-, htells⟩ := hcomplete st v hst
  refine ⟨st, v, hst, htells.truthful.mpr fun habandoned => habandoned.2 ?_⟩
  exact Run.writesAll_of_neverFails (r := .fresh _ _) Sink.unlimited_neverFails _

open Run in
/-- Not a single octet of the report can be written. The first of two fixtures was counted as passed
    before that, and the summary is that of a run that was not interrupted and of a success. -/
theorem exists_untruthful_success :
    ∃ r e called,
      selected twoFiles markedWithX = .ok [⟨[0x2F, 0x61]⟩, ⟨[0x2F, 0x62]⟩] ∧
      run ⟨twoFiles, alwaysFailing, ⟨⟨.char 'x'⟩⟩, fun _ => .zero⟩ markedWithX 3 (fun _ => false)
          .zero (.fresh ⟨.pretty, false, false, "", ""⟩ (.limited 0 false)) =
        .returned r (.error (.report e)) called ∧
      r.summary.total = 1 ∧ r.summary.interrupted = false ∧ r.summary.isSuccess = true := by
  have hcollect : collect (fun _ => false) .zero
      (.fresh ⟨.pretty, false, false, "", ""⟩ (.limited 0 false))
      (results ⟨twoFiles, alwaysFailing, ⟨⟨.char 'x'⟩⟩, fun _ => .zero⟩
        [⟨[0x2F, 0x61]⟩, ⟨[0x2F, 0x62]⟩]) =
      (_, .error (.line .brokenPipe)) := Prod.ext rfl (by decide +kernel)
  refine ⟨_, _, _, selected_twoFiles, run_of_collect selected_twoFiles (by decide) hcollect, ?_⟩
  decide +kernel

end Schedule
end Conformance
