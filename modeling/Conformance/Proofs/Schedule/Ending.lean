import Conformance.Proofs.Ending
import Conformance.Proofs.Schedule.Progress

/-!
# How a schedule ends

The collector hands over one result after the other, and it goes on only if the result could be
written. So whatever the schedule and whatever the sink, a complete run ends in one of the two ways
in which a report ends.

- `Handed`: what was written of the recorded results, in every state of a run.
- `ending_of_completes`: how a complete run ended.
- `recorded_all`: counts that are not marked as interrupted are those of all fixtures.
-/

namespace Conformance.Schedule

variable {plan : Plan} {st st' : State} {v : Except HarnessError Summary}

/-! ## §1 What was written -/

/-- What was written of the results that were handed to the reporter: all of them, or all but the
    last one, which the collector gave up on. -/
inductive Handed (plan : Plan) (st : State) : Prop where
  | all (written : plan.reporter.WritesAll st.recorded)
  | gaveUp {xs : List Result} {x : Result} {e : ReportError} (last : st.recorded = xs ++ [x])
      (written : plan.reporter.WritesAll xs)
      (failed : (plan.reporter.recordEach xs).record x = (st.reporter, some e))
      (returned : st.returned = some (.error (.report e)))

theorem Handed.start (h : plan.start? = some st) : Handed plan st := by
  obtain ⟨-, rfl⟩ := start?_eq_some.mp h
  exact .all trivial

/-- While the collector is at work, it has not given up. -/
theorem Handed.written_of_running (h : Handed plan st) (running : st.returned = none) :
    plan.reporter.WritesAll st.recorded := by
  cases h with
  | all written => exact written
  | gaveUp _ _ _ returned => exact absurd (running.symm.trans returned) (by simp)

/-- What was written depends on what the collector has done alone. -/
theorem Handed.congr (h : Handed plan st) (recorded : st'.recorded = st.recorded)
    (reporter : st'.reporter = st.reporter) (returned : st'.returned = st.returned) :
    Handed plan st' := by
  cases h with
  | all written => exact .all (recorded ▸ written)
  | gaveUp last written failed hreturned =>
    exact .gaveUp (recorded.trans last) written (by rw [reporter, failed])
      (returned.trans hreturned)

theorem Handed.step (inv : Inv plan st) (h : Handed plan st) (step : plan.Step st st') :
    Handed plan st' := by
  cases step with
  | task => exact h.congr rfl rfl rfl
  | shutDown => exact h.congr rfl rfl rfl
  | record running _ _ _ written =>
    refine .all (Reporter.writesAll_concat.mpr ⟨h.written_of_running running, ?_⟩)
    rw [← inv.reporter_of_running running, written]
  | abandon running _ _ _ written =>
    refine .gaveUp rfl (h.written_of_running running) ?_ rfl
    rw [← inv.reporter_of_running running, written]
  | interrupt _ running => exact .all (h.written_of_running running)
  | finish _ running => exact .all (h.written_of_running running)

theorem handed_of_reaches {n : Nat} (inv : Inv plan st) (h : Handed plan st)
    (hreaches : plan.Reaches n st st') : Handed plan st' := by
  induction hreaches with
  | refl => exact h
  | step before last ih => exact (ih inv h).step (inv_of_reaches inv before) last

/-! ## §2 Complete runs -/

/-- A complete run recorded results of the first fixtures, in their order, and its report ended in
    one of the two ways: a result could not be written, or the report was closed. -/
theorem ending_of_completes (h : plan.Completes st v) :
    List.Forall₂ (Run.Delivered plan.setting) (plan.fixtures.take st.recorded.length) st.recorded ∧
      st.recorded.length ≤ plan.fixtures.length ∧
      ∃ w, v = w.mapError .report ∧
        Run.Ending (fun r => ∀ stop, plan.shutdown = .byReport stop → stop r = true)
          plan.reporter plan.fixtures.length st.recorded st.reporter w := by
  obtain ⟨inv, hreturned⟩ := inv_of_completes h
  obtain ⟨start, n, hstart, hreaches, -⟩ := h
  have handed := handed_of_reaches (.start hstart) (.start hstart) hreaches
  refine ⟨inv.recorded, inv.length_recorded_le, ?_⟩
  cases handed with
  | gaveUp last written failed returned =>
    obtain rfl := Option.some.inj (hreturned.symm.trans returned)
    exact ⟨.error _, rfl, .gaveUp last written failed⟩
  | all written =>
    cases inv.reported with
    | underWay running => exact absurd (running.symm.trans hreturned) (by simp)
    -- The last result cannot have been given up on, as it was written.
    | abandoned last failed =>
      rw [last, Reporter.writesAll_concat, failed] at written
      exact absurd written.2 (by simp)
    | interrupted elapsed left complete closed returned =>
      obtain rfl := Option.some.inj (hreturned.symm.trans returned)
      rw [← Run.stoppedAt_of_lt left] at closed
      exact ⟨_, rfl, .closed elapsed written (fun _ => complete) closed⟩
    | finished elapsed all closed returned =>
      obtain rfl := Option.some.inj (hreturned.symm.trans returned)
      rw [← Run.stoppedAt_all, all] at closed
      refine ⟨_, rfl, .closed elapsed written (fun left => ?_) closed⟩
      exact absurd left (all ▸ Nat.lt_irrefl _)

/-- Counts that were returned and are not marked as interrupted are those of all fixtures. -/
theorem recorded_all {s : Run.Setting} {fixtures : List Fixture} {jobs : Nat} {number : Nat → Nat}
    {shutdown : Shutdown} {style : Style} {sink : Sink} {summary : Summary}
    (h : (Plan.fresh s fixtures jobs number shutdown style sink).Completes st (.ok summary))
    (hinterrupted : summary.interrupted = false) : fixtures.length ≤ st.recorded.length := by
  obtain ⟨-, -, w, hreturned, hending⟩ := ending_of_completes h
  cases w with
  | error e => cases hreturned
  | ok counts =>
    obtain rfl := Except.ok.inj hreturned
    rcases hending.summary_cases with ⟨-, ⟨e, hfailed⟩, -⟩ | ⟨-, hcounts, hsummary⟩
    · cases hfailed
    · rw [hcounts summary rfl, hsummary] at hinterrupted
      exact Nat.le_of_not_lt (of_decide_eq_false hinterrupted)

end Conformance.Schedule
