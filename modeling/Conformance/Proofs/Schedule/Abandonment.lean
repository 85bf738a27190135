import Conformance.Proofs.LimitedSink
import Conformance.Proofs.Schedule.Ending
import Conformance.Proofs.Verdicts

/-!
# Runs over a sink that fails

A run whose report cannot be written to its end is abandoned: the sink is left with the front of the
report, as much of it as it accepts, and no fixture is recorded behind the one whose line did not
fit.

- `results_extend`: the results that a schedule recorded go on to results of all fixtures.
- `run_cutOff`: every schedule, and the run that takes one fixture after the other, leaves of its
  report what a sink with a limit holds of it.
-/

namespace Conformance.Schedule

/-- The results of the first fixtures go on to results of all of them. -/
theorem results_extend {s : Run.Setting} {fixtures : List Fixture} {xs : List Result}
    (h : List.Forall₂ (Run.Delivered s) (fixtures.take xs.length) xs) :
    ∃ ys, List.Forall₂ (Run.Delivered s) fixtures ys ∧ xs <+: ys := by
  have hrest := Run.delivered_resultsFrom s 1 (fixtures.drop xs.length)
  refine ⟨xs ++ Run.resultsFrom s 1 (fixtures.drop xs.length), ?_, List.prefix_append _ _⟩
  have happend : List.Forall₂ _ (_ ++ _) (xs ++ _) := List.rel_append h hrest
  rwa [List.take_append_drop] at happend

/-- A run that is not shut down, over a sink that accepts so many octets and may fail to be flushed,
    is cut off where its report is, as `CutOff` says: it writes the front of what the same results
    come to over a sink without a limit; it returns the counts exactly if all of it fits and the sink
    can be flushed, and an error of the report otherwise; the result whose octets go beyond the limit
    is the last that is recorded, and if there is none, all of them are. This holds of every schedule
    and of the run that takes one fixture after the other. -/
theorem run_cutOff (s : Run.Setting) (c : Config) (fixtures : List Fixture) (jobs : Nat)
    (number : Nat → Nat) (style : Style) (limit : Nat) (flushFails : Bool)
    (hselected : Run.selected s.host c = .ok fixtures) (hjobs : 0 < jobs)
    (hlimit : jobs ≤ Run.permitLimit) (hformat : style.format ≠ .junit)
    (hverbose : style.verbose = false) :
    ((Plan.fresh s fixtures jobs number .never style (.limited limit flushFails)).ComesToEnd ∧
      ∀ st v,
        (Plan.fresh s fixtures jobs number .never style (.limited limit flushFails)).Completes st v →
        (∃ xs, List.Forall₂ (Run.Delivered s) fixtures xs ∧ st.recorded <+: xs) ∧
        ∀ xs, List.Forall₂ (Run.Delivered s) fixtures xs → st.recorded <+: xs →
          ∀ elapsed r₀ v₀,
            ((Reporter.fresh style .unlimited).recordEach xs).finish elapsed = (r₀, v₀) →
            Run.CutOff style limit flushFails xs r₀.sink.content st.recorded st.reporter v) ∧
      ∀ elapsed elapsed', ∃ r₀ called₀ r v called recorded,
        Run.run s c jobs (fun _ => false) elapsed (.fresh style .unlimited) =
          .returned r₀ (.ok r₀.summary) called₀ ∧
        Run.run s c jobs (fun _ => false) elapsed' (.fresh style (.limited limit flushFails)) =
          .returned r v called ∧
        Run.CutOff style limit flushFails (Run.results s fixtures) r₀.sink.content recorded r v := by
  refine ⟨⟨comesToEnd hjobs hlimit, fun st v hst => ?_⟩, fun elapsed elapsed' => ?_⟩
  -- Some schedule: no shutdown is there to leave results over.
  · obtain ⟨hdelivered, -, w, rfl, hending⟩ := ending_of_completes hst
    refine ⟨results_extend hdelivered, fun xs hxs hfront elapsed r₀ v₀ hfull => ?_⟩
    have hnever : ∀ r : Reporter,
        ¬∀ stop, Shutdown.never = .byReport stop → stop r = true := by
      intro r hstop
      exact absurd (hstop _ rfl) Bool.false_ne_true
    have hlength : fixtures.length = xs.length := hxs.length_eq
    have hending : Run.Ending _ (.fresh style (.limited limit flushFails)) xs.length _ _ _ :=
      hlength ▸ hending
    exact Run.cutOff_of_ending hnever hformat hverbose hfront hending hfull
  -- One fixture after the other, with a limit and without one.
  · have hopen : (Reporter.fresh style .unlimited).sink.NeverFails := Sink.unlimited_neverFails
    have hcollect₀ := Run.collect_never hopen elapsed (Run.results s fixtures)
    cases hfull : ((Reporter.fresh style .unlimited).recordEach (Run.results s fixtures)).finish
        elapsed with
    | mk r₀ v₀ =>
      obtain ⟨rfl, hsummary, -, -⟩ :=
        Reporter.eq_ok_of_finish (Reporter.recordEach_neverFails hopen _) hfull
      obtain ⟨k, -, r, v, hcollect, hending⟩ := Run.ending_of_collect (fun _ => false) elapsed'
        (.fresh style (.limited limit flushFails)) (Run.results s fixtures)
      have hrun₀ := Run.run_of_collect hselected hlimit (hcollect₀.trans hfull)
      have hrun := Run.run_of_collect hselected hlimit hcollect
      rw [← hsummary] at hrun₀
      exact ⟨r₀, _, r, _, _, _, hrun₀, hrun, Run.cutOff_of_ending (fun _ => Bool.false_ne_true)
        hformat hverbose (List.take_prefix k _) hending hfull⟩

open Run in
/-- The line of the first of two fixtures does not fit: three octets of it are written, and the second
    fixture is not recorded. -/
theorem run_cutOff_firstLine :
    ∃ r e called,
      run ⟨twoFiles, alwaysFailing, ⟨⟨.char 'x'⟩⟩, fun _ => .zero⟩ markedWithX 3 (fun _ => false)
          .zero (.fresh ⟨.pretty, false, false, "", ""⟩ (.limited 3 true)) =
        .returned r (.error (.report e)) called ∧
      r.sink.content = Utf8.encodeString "✅" ∧ r.summary = ⟨1, 0, false⟩ := by
  obtain ⟨-, hrun⟩ := run_cutOff ⟨twoFiles, alwaysFailing, ⟨⟨.char 'x'⟩⟩, fun _ => .zero⟩ markedWithX
    _ 3 id ⟨.pretty, false, false, "", ""⟩ 3 true selected_twoFiles (by decide) (by decide)
    (by decide) rfl
  obtain ⟨r₀, _, r, v, called, recorded, -, hrun, hcut⟩ := hrun .zero .zero
  obtain ⟨hrecorded, hr⟩ := hcut.crossed 0 ⟨by decide +kernel, by decide +kernel, by decide +kernel⟩
  -- The sink cannot be flushed either, so no counts are returned.
  obtain ⟨e, rfl⟩ := hcut.failed fun hok => Bool.noConfusion (hcut.returned.mp hok).2
  refine ⟨r, e, called, hrun, ?_, ?_⟩
  · rw [hr, hrecorded]
    decide +kernel
  · rw [hcut.counted, hrecorded]
    decide +kernel

end Conformance.Schedule
