import Conformance.Proofs.Schedule.Progress

/-!
# Runs that are shut down

A run that is shut down reports the results of the first fixtures, as many as it got to, and counts
those that are left over. It is marked as interrupted exactly if there are any.

- `Accounted`: what a report says of the results that were recorded and of those left over.
- `StopsFirst`: results are recorded up to where the report asks for the shutdown.
- `interruption_accounted`: whatever the schedule and whenever the shutdown comes, a complete run
  accounts for all fixtures.
-/

namespace Conformance.Schedule

variable {plan : Plan} {st : State} {style : Style} {sink : Sink}

/-! ## §1 What a report accounts for -/

/-- A report accounts for `n` results of which `xs` were recorded by a reporter that had seen nothing
    before: the counts add up to the recorded ones, the run is marked as interrupted if others are
    left over, and then their number is told. -/
structure Accounted (start : Reporter) (n : Nat) (xs : List Result) (r : Reporter)
    (summary : Summary) : Prop where
  total : summary.total = xs.length
  interrupted : summary.interrupted = true ↔ xs.length < n
  left : xs.length < n →
    r.notRun = n - xs.length ∧ 1 ≤ r.notRun ∧ summary.exitCode = Summary.interruptedCode
  kept : r.summary = summary
  /-- What closes the report stands behind the lines of the recorded results. -/
  closing : r.style.format ≠ .junit → ∃ elapsed,
    r.sink.content =
      (start.recordEach xs).sink.content ++ (r.closing elapsed).flatMap Utf8.encodeString

/-- A report that is closed after some of the results accounts for all of them. -/
theorem accounted_of_finish (hsink : sink.NeverFails) {n : Nat} {xs : List Result}
    {elapsed : Duration} {r : Reporter} {summary : Summary}
    (closed : (Run.stoppedAt (.fresh style sink) n xs).finish elapsed = (r, .ok summary)) :
    Accounted (.fresh style sink) n xs r summary := by
  have hfresh : (Reporter.fresh style sink).sink.NeverFails := hsink
  obtain ⟨last, hok, hcontent⟩ :=
    Reporter.finish_of_neverFails (Run.stoppedAt_neverFails hfresh n xs) elapsed
  obtain ⟨rfl, hsummary⟩ := Prod.mk.inj (closed.symm.trans hok)
  obtain rfl := Except.ok.inj hsummary
  have hcounts : (Run.stoppedAt (.fresh style sink) n xs).summary = _ :=
    Run.stoppedAt_fresh_summary style sink n xs
  have hnotRun : xs.length < n →
      (Run.stoppedAt (.fresh style sink) n xs).notRun = n - xs.length := fun hleft => by
    rw [Run.stoppedAt_of_lt hleft]
    rfl
  refine ⟨?_, ?_, fun hleft => ⟨hnotRun hleft, ?_, ?_⟩, rfl, fun hformat => ⟨elapsed, ?_⟩⟩
  · have htotal := Reporter.recordEach_total (.fresh style sink) xs
    rw [Reporter.recordEach_fresh_summary] at htotal
    rw [hcounts]
    exact htotal.trans (Nat.zero_add _)
  · rw [hcounts]
    exact decide_eq_true_iff
  · have hpositive : 1 ≤ n - xs.length := by omega
    exact Nat.le_trans hpositive (Nat.le_of_eq (hnotRun hleft).symm)
  · rw [hcounts, Summary.exitCode, if_pos (decide_eq_true hleft)]
  · rw [Run.stoppedAt_sink] at hcontent
    exact hcontent hformat

/-! ## §2 Where results are left over -/

/-- Results are recorded one after the other up to where the report asks for the shutdown, and all
    `n` of them if it never does. -/
def StopsFirst (stop : Reporter → Bool) (start : Reporter) (n : Nat) (xs : List Result) : Prop :=
  (∀ j < xs.length, stop (start.recordEach (xs.take j)) = false) ∧
    (xs.length < n → stop (start.recordEach xs) = true)

theorem stopsFirst_take (stop : Reporter → Bool) (r : Reporter) (xs : List Result) :
    StopsFirst stop r xs.length (xs.take (Run.stopIndex stop r xs)) := by
  have hlength : (xs.take (Run.stopIndex stop r xs)).length = Run.stopIndex stop r xs := by
    rw [List.length_take, Nat.min_eq_left (Run.stopIndex_le xs)]
  refine ⟨fun j hj => ?_, fun hleft => ?_⟩
  · rw [hlength] at hj
    rw [List.take_take, Nat.min_eq_left (Nat.le_of_lt hj)]
    exact Run.not_stop_of_lt hj
  · rw [hlength] at hleft
    exact Run.stop_at_stopIndex hleft

/-! ## §3 Every schedule and every shutdown -/

/-- Whenever the shutdown comes, a complete run has recorded the results of the first `k` of `n`
    fixtures, as a run that is not shut down records them, times and the numbers of panicked tasks
    apart. Its counts add up to `k`. It is marked as interrupted exactly if `k` is less than `n`;
    then the others are counted, and the exit status says so. If it is the report that asks for the
    shutdown, `k` is the first place where it does; so it is if a number of line feeds is what it is
    asked for. The same holds of the run that takes one fixture after the other. -/
theorem interruption_accounted (s : Run.Setting) (fixtures : List Fixture) (jobs : Nat)
    (number : Nat → Nat) (shutdown : Shutdown) (style : Style) (sink : Sink) (hjobs : 0 < jobs)
    (hlimit : jobs ≤ Run.permitLimit) (hsink : sink.NeverFails) :
    (Plan.fresh s fixtures jobs number shutdown style sink).ComesToEnd ∧
      (∀ st v, (Plan.fresh s fixtures jobs number shutdown style sink).Completes st v →
        ∃ summary, v = .ok summary ∧
          st.recorded.length ≤ fixtures.length ∧
          List.Forall₂ Result.Agrees st.recorded
            ((Run.results s fixtures).take st.recorded.length) ∧
          Accounted (.fresh style sink) fixtures.length st.recorded st.reporter summary ∧
          (∀ stop, shutdown = .byReport stop →
            StopsFirst stop (.fresh style sink) fixtures.length st.recorded) ∧
          ∀ count, shutdown = .afterLines count →
            (∀ j < st.recorded.length,
              ((Reporter.fresh style sink).recordEach (st.recorded.take j)).sink.lineFeeds <
                count) ∧
            (st.recorded.length < fixtures.length →
              count ≤ ((Reporter.fresh style sink).recordEach st.recorded).sink.lineFeeds)) ∧
      ∀ stop elapsed, ∃ k r summary, k ≤ fixtures.length ∧
        Run.collect stop elapsed (.fresh style sink) (Run.results s fixtures) =
          (r, .ok summary) ∧
        Accounted (.fresh style sink) fixtures.length ((Run.results s fixtures).take k) r summary ∧
        StopsFirst stop (.fresh style sink) fixtures.length ((Run.results s fixtures).take k) := by
  have hfresh : (Reporter.fresh style sink).sink.NeverFails := hsink
  refine ⟨comesToEnd hjobs hlimit, fun st v hst => ?_, fun stop elapsed => ?_⟩
  -- Some schedule: the invariant says what was recorded and where it was not to stop.
  · obtain ⟨inv, hreturned⟩ := inv_of_completes hst
    obtain ⟨elapsed, summary, hclosed, hv, hcomplete⟩ :=
      inv.returned_of_neverFails hfresh hreturned
    have hresults := List.forall₂_take st.recorded.length (Run.delivered_resultsFrom s 1 fixtures)
    have hstops : ∀ stop, shutdown = .byReport stop →
        StopsFirst stop (.fresh style sink) fixtures.length st.recorded :=
      fun stop hstop => ⟨inv.pending stop hstop, fun hleft => hcomplete hleft stop hstop⟩
    refine ⟨summary, hv, inv.length_recorded_le, Run.forall₂_agrees inv.recorded hresults,
      accounted_of_finish hsink hclosed, hstops, fun count hcount => ?_⟩
    obtain ⟨hbefore, hafter⟩ := hstops _ hcount
    refine ⟨fun j hj => ?_, fun hleft => ?_⟩
    · exact Nat.lt_of_not_le (of_decide_eq_false (hbefore j hj))
    · exact of_decide_eq_true (hafter hleft)
  -- One fixture after the other: the same from where the sequential run stops.
  · have hlength : (Run.results s fixtures).length = fixtures.length :=
      (Run.delivered_resultsFrom s 1 fixtures).length_eq.symm
    have hcollect : Run.collect stop elapsed (.fresh style sink) (Run.results s fixtures) = _ :=
      Run.collect_of_neverFails hfresh elapsed _
    have hle : Run.stopIndex stop (.fresh style sink) (Run.results s fixtures) ≤ _ :=
      Run.stopIndex_le _
    have hstops := stopsFirst_take stop (.fresh style sink) (Run.results s fixtures)
    rw [hlength] at hcollect hstops hle
    cases hclosed : Run.collect stop elapsed (.fresh style sink) (Run.results s fixtures) with
    | mk r v =>
      rw [hclosed] at hcollect
      obtain ⟨rfl, -⟩ := Reporter.eq_ok_of_finish (Run.stoppedAt_neverFails hfresh _ _) hcollect.symm
      exact ⟨_, r, _, hle, rfl, accounted_of_finish hsink hcollect.symm, hstops⟩

/-- A run that is to be shut down at once records nothing, and tells of the fixtures left over. -/
theorem interruption_accounted_atOnce :
    ∃ st summary,
      (Plan.fresh ⟨⟨fun _ => .ok [], fun _ => .ok []⟩, ⟨fun _ => .ended .failed, fun _ => []⟩,
        ⟨⟨.char 'x'⟩⟩, fun _ => .zero⟩ [⟨[0x61]⟩, ⟨[0x62]⟩] 1 id (.afterLines 0)
        ⟨.terse, false, false, "", ""⟩ .unlimited).Completes st (.ok summary) ∧
      st.recorded = [] ∧ st.reporter.notRun = 2 ∧ summary.exitCode = 130 := by
  obtain ⟨hends, hcomplete, -⟩ :=
    interruption_accounted ⟨⟨fun _ => .ok [], fun _ => .ok []⟩,
      ⟨fun _ => .ended .failed, fun _ => []⟩, ⟨⟨.char 'x'⟩⟩, fun _ => .zero⟩ [⟨[0x61]⟩, ⟨[0x62]⟩] 1
      id (.afterLines 0) ⟨.terse, false, false, "", ""⟩ .unlimited (by decide) (by decide)
      Sink.unlimited_neverFails
  obtain ⟨st, v, hst⟩ := hends.exists_completes
  obtain ⟨summary, rfl, -, -, haccounted, -, hlines⟩ := hcomplete st v hst
  have hnone : st.recorded = [] := by
    refine List.eq_nil_iff_length_eq_zero.mpr (Nat.eq_zero_of_not_pos fun hpos => ?_)
    exact absurd ((hlines 0 rfl).1 0 hpos) (Nat.not_lt_zero _)
  rw [hnone] at haccounted
  obtain ⟨hnotRun, -, hexit⟩ := haccounted.left (by decide)
  exact ⟨st, summary, hst, hnone, hnotRun, hexit⟩

end Conformance.Schedule
