import Conformance.Proofs.Stopping

/-!
# How a report ends

Results are handed to a reporter one after the other. The report ends in one of two ways: a result
could not be written, and nothing is done after that; or the report is closed, after all results or
before the first one that is left over. So much holds of every sink.

- `WritesAll`: results that can be written one after the other.
- `finish_keeps`: closing a report writes to the sink and changes nothing else.
- `Ending`: the two ways, and `ending_of_collect`, that a run has no others.
-/

namespace Conformance

/-! ## §1 Results that can be written -/

namespace Reporter

/-- Whether all of these results can be written, one after the other. -/
def WritesAll (r : Reporter) : List Result → Prop
  | [] => True
  | x :: xs => (r.record x).2 = none ∧ WritesAll (r.record x).1 xs

theorem writesAll_concat {r : Reporter} {xs : List Result} {x : Result} :
    r.WritesAll (xs ++ [x]) ↔ r.WritesAll xs ∧ ((r.recordEach xs).record x).2 = none := by
  induction xs generalizing r with
  | nil => simp [WritesAll, recordEach]
  | cons y ys ih => rw [List.cons_append, WritesAll, WritesAll, ih, recordEach_cons, and_assoc]

/-! ## §2 Closing a report -/

/-- What closing a report comes to once its end has been written: the sink is flushed, and the counts
    are given. -/
def flushed (r : Reporter) : Option ReportError → Reporter × Except ReportError Summary
  | some e => (r, .error e)
  | none =>
    match r.sink.flush with
    | some e => (r, .error (.line e))
    | none => (r, .ok r.summary)

theorem finish_of_lines {r r' : Reporter} {elapsed : Duration} {failure : Option ReportError}
    (hformat : r.style.format ≠ .junit) (written : r.putAll (r.closing elapsed) = (r', failure)) :
    r.finish elapsed = flushed r' failure := by
  unfold finish
  cases hf : r.style.format with
  | junit => exact absurd hf hformat
  | pretty =>
    simp only [written]
    cases failure <;> rfl
  | terse =>
    simp only [written]
    cases failure <;> rfl

theorem finish_of_document {r r' : Reporter} {elapsed : Duration} {failure : Option ReportError}
    (hformat : r.style.format = .junit) (written : r.putDocument = (r', failure)) :
    r.finish elapsed = flushed r' failure := by
  unfold finish
  simp only [hformat, written]
  cases failure <;> rfl

theorem flushed_fst (r : Reporter) (failure : Option ReportError) :
    (flushed r failure).1 = r := by
  unfold flushed
  split
  · rfl
  · split <;> rfl

theorem eq_summary_of_flushed {r : Reporter} {failure : Option ReportError} {summary : Summary}
    (h : (flushed r failure).2 = .ok summary) : summary = r.summary := by
  unfold flushed at h
  split at h
  · cases h
  · split at h
    · cases h
    · exact (Except.ok.inj h).symm

theorem putAll_keeps (r : Reporter) (texts : List String) :
    ∃ sink, (r.putAll texts).1 = { r with sink := sink } := by
  induction texts generalizing r with
  | nil => exact ⟨r.sink, rfl⟩
  | cons t ts ih =>
    rw [putAll]
    split
    · rename_i r' hput
      obtain ⟨sink, hsink⟩ := ih r'
      obtain rfl : _ = r' := congrArg Prod.fst hput
      exact ⟨sink, hsink⟩
    · rename_i r' e hput
      obtain rfl : _ = r' := congrArg Prod.fst hput
      exact ⟨_, rfl⟩

theorem putDocument_keeps (r : Reporter) :
    ∃ sink, r.putDocument.1 = { r with sink := sink } := by
  unfold putDocument
  cases r.sink.writeText (Junit.document r.suite) with
  | mk sink failure =>
    cases failure with
    | some e => exact ⟨sink, rfl⟩
    | none => exact ⟨_, rfl⟩

theorem exists_flushed (r : Reporter) (elapsed : Duration) :
    ∃ sink failure, r.finish elapsed = flushed { r with sink := sink } failure := by
  obtain ⟨lines, hlines⟩ := putAll_keeps r (r.closing elapsed)
  obtain ⟨document, hdocument⟩ := putDocument_keeps r
  by_cases hformat : r.style.format = .junit
  · exact ⟨document, _, finish_of_document hformat (Prod.ext hdocument rfl)⟩
  · exact ⟨lines, _, finish_of_lines hformat (Prod.ext hlines rfl)⟩

/-- Closing a report writes to the sink and changes nothing else. If it can be closed, it gives the
    counts. -/
theorem finish_keeps {r r' : Reporter} {elapsed : Duration} {v : Except ReportError Summary}
    (closed : r.finish elapsed = (r', v)) :
    (∃ sink, r' = { r with sink := sink }) ∧ ∀ summary, v = .ok summary → summary = r.summary := by
  obtain ⟨sink, failure, hflushed⟩ := exists_flushed r elapsed
  rw [closed] at hflushed
  constructor
  · refine ⟨sink, ?_⟩
    rw [← flushed_fst { r with sink := sink } failure, ← hflushed]
  · intro summary hv
    subst hv
    exact eq_summary_of_flushed (r := { r with sink := sink }) (congrArg Prod.snd hflushed.symm)

end Reporter

/-! ## §3 The two ways -/

namespace Run

/-- How a report of `n` results ended whose reporter was `start` and was handed `recorded`. It may
    end before all results are recorded only where `stop` says so. -/
inductive Ending (stop : Reporter → Prop) (start : Reporter) (n : Nat) (recorded : List Result)
    (r : Reporter) : Except ReportError Summary → Prop where
  /-- The last of the results could not be written. -/
  | gaveUp {xs : List Result} {x : Result} {e : ReportError} (last : recorded = xs ++ [x])
      (written : start.WritesAll xs) (failed : (start.recordEach xs).record x = (r, some e)) :
      Ending stop start n recorded r (.error e)
  /-- The report was closed. -/
  | closed {v : Except ReportError Summary} (elapsed : Duration) (written : start.WritesAll recorded)
      (stopped : recorded.length < n → stop (start.recordEach recorded))
      (closed : (stoppedAt start n recorded).finish elapsed = (r, v)) :
      Ending stop start n recorded r v

/-- An ending does not depend on where the first of the results is counted from. -/
theorem Ending.cons {stop : Reporter → Prop} {start r : Reporter} {n : Nat} {x : Result}
    {xs : List Result} {v : Except ReportError Summary} (written : (start.record x).2 = none)
    (h : Ending stop (start.record x).1 n xs r v) : Ending stop start (n + 1) (x :: xs) r v := by
  cases h with
  | @gaveUp ys y _ last hall failed =>
    subst last
    have hlast : x :: (ys ++ [y]) = (x :: ys) ++ [y] := rfl
    exact .gaveUp hlast ⟨written, hall⟩ failed
  | closed elapsed hall stopped closed =>
    refine .closed elapsed ⟨written, hall⟩ (fun hlt => stopped (Nat.lt_of_succ_lt_succ hlt)) ?_
    rw [stoppedAt_cons]
    exact closed

/-- A run that takes one result after the other ends in one of these ways. -/
theorem ending_of_collect (stop : Reporter → Bool) (elapsed : Duration) (start : Reporter)
    (xs : List Result) :
    ∃ k ≤ xs.length, ∃ r v, collect stop elapsed start xs = (r, v) ∧
      Ending (stop · = true) start xs.length (xs.take k) r v := by
  induction xs generalizing start with
  | nil =>
    refine ⟨0, Nat.le_refl 0, _, _, rfl, .closed elapsed trivial ?_ rfl⟩
    intro hlt
    exact absurd hlt (Nat.lt_irrefl 0)
  | cons x xs ih =>
    rw [collect, recordAll]
    by_cases hstop : stop start = true
    -- It stops before the first of the results.
    · rw [if_pos hstop]
      refine ⟨0, Nat.zero_le _, _, _, rfl, .closed elapsed trivial (fun _ => hstop) ?_⟩
      rw [List.take_zero, stoppedAt_of_lt (Nat.zero_lt_succ _)]
      rfl
    · rw [if_neg hstop]
      cases hrecord : start.record x with
      | mk r failure =>
        cases failure with
        -- It gives up on the first of the results.
        | some e =>
          exact ⟨1, Nat.succ_le_succ (Nat.zero_le _), r, .error e, rfl,
            .gaveUp (List.nil_append [x]).symm trivial hrecord⟩
        -- It goes on to the others.
        | none =>
          obtain ⟨k, hk, r', v, hcollect, hending⟩ := ih r
          rw [collect] at hcollect
          refine ⟨k + 1, Nat.succ_le_succ hk, r', v, hcollect, ?_⟩
          have hr : (start.record x).1 = r := congrArg Prod.fst hrecord
          exact .cons (congrArg Prod.snd hrecord) (hr ▸ hending)

/-- A run of the selected fixtures returns what collecting their results comes to. -/
theorem run_of_collect {s : Setting} {c : Config} {fixtures : List Fixture} {jobs : Nat}
    {stop : Reporter → Bool} {elapsed : Duration} {start r : Reporter}
    {v : Except ReportError Summary} (hselected : selected s.host c = .ok fixtures)
    (hlimit : jobs ≤ permitLimit)
    (hcollect : collect stop elapsed start (results s fixtures) = (r, v)) :
    run s c jobs stop elapsed start =
      .returned r (v.mapError .report) ((fixtures.filter (isRun s)).map (·.path)) := by
  rw [run, hselected]
  simp only
  rw [if_neg (Nat.not_lt.mpr hlimit), hcollect]
  cases v <;> rfl

/-! ## §4 What is counted -/

variable {stop : Reporter → Prop} {style : Style} {sink : Sink} {n : Nat} {recorded : List Result}
  {r : Reporter} {v : Except ReportError Summary}

/-- A reporter that had seen nothing before counts the results it was handed, however the report
    ends. Only if all of them could be written does it tell whether others are left over. -/
theorem Ending.summary_cases (h : Ending stop (.fresh style sink) n recorded r v) :
    (¬(Reporter.fresh style sink).WritesAll recorded ∧ (∃ e, v = .error e) ∧
        r.summary = ⟨recorded.countP (·.passed), recorded.countP (!·.passed), false⟩) ∨
      ((Reporter.fresh style sink).WritesAll recorded ∧
        (∀ summary, v = .ok summary → summary = r.summary) ∧
        r.summary =
          ⟨recorded.countP (·.passed), recorded.countP (!·.passed), recorded.length < n⟩) := by
  cases h with
  | @gaveUp xs x e last written failed =>
    left
    refine ⟨?_, ⟨e, rfl⟩, ?_⟩
    · intro hall
      rw [last, Reporter.writesAll_concat, failed] at hall
      exact absurd hall.2 (by simp)
    -- The last result was counted before it was written.
    · have hr : (Reporter.fresh style sink).recordEach recorded = r := by
        rw [last, Reporter.recordEach_concat, failed]
      rw [← hr, Reporter.recordEach_fresh_summary]
  | closed elapsed written stopped closed =>
    right
    obtain ⟨⟨last, hlast⟩, hsummary⟩ := Reporter.finish_keeps closed
    have hr : r.summary = (stoppedAt (.fresh style sink) n recorded).summary := by rw [hlast]
    refine ⟨written, fun summary hv => hr ▸ hsummary summary hv, ?_⟩
    rw [hr, stoppedAt_fresh_summary]

end Run
end Conformance
