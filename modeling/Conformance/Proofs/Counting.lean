import Conformance.Proofs.Ending

/-!
# Counting

A reporter can be called in any order: to record a result, to note that the run was interrupted, to close
the report. What it has counted follows from the calls alone. Neither how the report looks nor what became
of it makes a difference: a result whose line could not be written is counted like any other, and a
reporter goes on to count after a report that could not be closed.

- `Call.tally`: what a call does to the counts, and `perform_summary`, that it does nothing else.
- `trace`: what each of a number of calls comes to.
- `counts_exact`: the counts after each call, for any reporter.
-/

namespace Conformance.Reporter

/-! ## §1 Calls -/

/-- What a reporter can be called for. -/
inductive Call where
  | record (x : Result)
  | interrupt (notRun : Nat)
  | finish
  deriving DecidableEq, Repr

/-- What a call returns that has no counts to return. -/
def answer : Option ReportError → Except ReportError (Option Summary)
  | none => .ok none
  | some e => .error e

/-- What a call comes to when so much time has passed: the reporter, and the counts that are returned, if
    any are, or what failed. -/
def perform (r : Reporter) (elapsed : Duration) : Call → Reporter × Except ReportError (Option Summary)
  | .record x => ((r.record x).1, answer (r.record x).2)
  | .interrupt notRun => (r.interrupt notRun, .ok none)
  | .finish => ((r.finish elapsed).1, (r.finish elapsed).2.map some)

/-- What each of a number of calls comes to, one after the other, with the time that has passed before
    each of them. Calls that fail are no reason to stop. -/
def trace (r : Reporter) : List (Call × Duration) → List (Reporter × Except ReportError (Option Summary))
  | [] => []
  | (call, elapsed) :: calls => r.perform elapsed call :: trace (r.perform elapsed call).1 calls

theorem length_trace (r : Reporter) (calls : List (Call × Duration)) :
    (r.trace calls).length = calls.length := by
  induction calls generalizing r with
  | nil => rfl
  | cons call calls ih => rw [trace, List.length_cons, List.length_cons, ih]

/-! ## §2 What a call does to the counts -/

/-- What a call does to the counts. -/
def Call.tally (s : Summary) : Call → Summary
  | .record x => s.record x.passed
  | .interrupt _ => { s with interrupted := true }
  | .finish => s

/-- Closing a report leaves the counts and gives them, if it succeeds. -/
theorem finish_summary (r : Reporter) (elapsed : Duration) :
    (r.finish elapsed).1.summary = r.summary ∧
      ∀ summary, (r.finish elapsed).2 = .ok summary → summary = r.summary := by
  cases h : r.finish elapsed with
  | mk r' v =>
    obtain ⟨⟨sink, rfl⟩, hsummary⟩ := finish_keeps h
    exact ⟨rfl, hsummary⟩

/-- A call counts what it is about, whether or not it fails, and whatever the report looks like. -/
theorem perform_summary (r : Reporter) (elapsed : Duration) (call : Call) :
    (r.perform elapsed call).1.summary = call.tally r.summary := by
  cases call with
  | record x => exact (record_keeps r x).1
  | interrupt notRun => rfl
  | finish => exact (finish_summary r elapsed).1

/-- A report that can be closed gives the counts. -/
theorem eq_summary_of_perform_finish {r r' : Reporter} {elapsed : Duration} {w : Option Summary}
    (h : r.perform elapsed .finish = (r', .ok w)) : w = some r'.summary := by
  obtain ⟨hkept, hgiven⟩ := finish_summary r elapsed
  obtain ⟨rfl, hreturned⟩ := Prod.mk.inj h
  cases hv : (r.finish elapsed).2 with
  | error e =>
    rw [hv] at hreturned
    cases hreturned
  | ok summary =>
    rw [hv] at hreturned
    rw [← Except.ok.inj hreturned, hgiven summary hv, hkept]

/-! ## §3 What calls do to the counts -/

/-- After a call the counts are what the calls up to it make of them, and it is that call that has come
    to this. -/
theorem getElem?_trace {r r' : Reporter} {calls : List (Call × Duration)} {k : Nat}
    {v : Except ReportError (Option Summary)} (h : (r.trace calls)[k]? = some (r', v)) :
    r'.summary = ((calls.take (k + 1)).map (·.1)).foldl Call.tally r.summary ∧
      ∃ (before : Reporter) (elapsed : Duration) (call : Call),
        (calls.map (·.1))[k]? = some call ∧ before.perform elapsed call = (r', v) := by
  induction calls generalizing r k with
  | nil => cases h
  | cons first calls ih =>
    obtain ⟨call, elapsed⟩ := first
    cases k with
    | zero =>
      have hfirst : r.perform elapsed call = (r', v) := Option.some.inj h
      refine ⟨?_, r, elapsed, call, rfl, hfirst⟩
      have hsummary := perform_summary r elapsed call
      rw [hfirst] at hsummary
      exact hsummary
    | succ k =>
      obtain ⟨hsummary, hperformed⟩ := ih (r := (r.perform elapsed call).1) h
      rw [perform_summary] at hsummary
      exact ⟨hsummary, hperformed⟩

/-- Reporters with the same counts have the same counts after each of the same calls, whatever else there
    is to them. -/
theorem trace_summary_congr {r r' : Reporter} (h : r.summary = r'.summary)
    {calls calls' : List (Call × Duration)} (hcalls : calls.map (·.1) = calls'.map (·.1)) :
    (r.trace calls).map (·.1.summary) = (r'.trace calls').map (·.1.summary) := by
  induction calls generalizing r r' calls' with
  | nil =>
    rw [List.map_eq_nil_iff.mp hcalls.symm]
    rfl
  | cons first calls ih =>
    cases calls' with
    | nil => cases hcalls
    | cons first' calls' =>
      obtain ⟨hhead, hrest⟩ := List.cons.inj hcalls
      have hfirst : first.1 = first'.1 := hhead
      have hsame : (r.perform first.2 first.1).1.summary = (r'.perform first'.2 first'.1).1.summary := by
        rw [perform_summary, perform_summary, h, hfirst]
      rw [trace, trace, List.map_cons, List.map_cons, hsame, ih hsame hrest]

/-- The results that calls record. -/
def recorded : List Call → List Result
  | [] => []
  | .record x :: calls => x :: recorded calls
  | .interrupt _ :: calls | .finish :: calls => recorded calls

/-- Whether a call notes that the run was interrupted. -/
def Call.interrupts : Call → Bool
  | .interrupt _ => true
  | .record _ | .finish => false

theorem any_interrupts_iff (calls : List Call) :
    calls.any Call.interrupts = true ↔ ∃ notRun, Call.interrupt notRun ∈ calls := by
  rw [List.any_eq_true]
  constructor
  · rintro ⟨call, hmem, hcall⟩
    cases call with
    | interrupt notRun => exact ⟨notRun, hmem⟩
    | record x => cases hcall
    | finish => cases hcall
  · rintro ⟨notRun, hmem⟩
    exact ⟨.interrupt notRun, hmem, rfl⟩

/-- Counts are added up call by call. -/
theorem foldl_tally (s : Summary) (calls : List Call) :
    calls.foldl Call.tally s =
      ⟨s.successes + (recorded calls).countP (·.passed),
        s.failures + (recorded calls).countP (!·.passed),
        s.interrupted || calls.any Call.interrupts⟩ := by
  induction calls generalizing s with
  | nil => simp [recorded]
  | cons call calls ih =>
    rw [List.foldl_cons, ih]
    cases call with
    | record x =>
      -- A result is counted on one side, by what `passed` says.
      cases hx : x.passed
      · simp [Call.tally, Summary.record, recorded, Call.interrupts, hx]
        omega
      · simp [Call.tally, Summary.record, recorded, Call.interrupts, hx]
        omega
    | interrupt notRun => simp [Call.tally, recorded, Call.interrupts]
    | finish => simp [Call.tally, recorded, Call.interrupts]

/-! ## §4 Any reporter -/

/-- The counts after the calls `made` are theirs. -/
structure Counts (made : List Call) (s : Summary) : Prop where
  successes : s.successes = (recorded made).countP (·.passed)
  failures : s.failures = (recorded made).countP (!·.passed)
  total : s.total = (recorded made).length
  interrupted : s.interrupted = true ↔ ∃ notRun, Call.interrupt notRun ∈ made

theorem counts_foldl_tally (made : List Call) : Counts made (made.foldl Call.tally .start) := by
  rw [foldl_tally]
  refine ⟨Nat.zero_add _, Nat.zero_add _, ?_, any_interrupts_iff made⟩
  have hsplit := List.length_eq_countP_add_countP (fun x : Result => x.passed) (l := recorded made)
  simp only [Summary.total, Summary.start, Nat.zero_add]
  simpa using hsplit.symm

/-- Whatever a reporter that had seen nothing before is called for, in whatever order, its counts after
    each call are those of the results it was handed, the ones whose lines could not be written among
    them, and it says that the run was interrupted exactly if it was told so. A report that can be closed
    gives these counts. Any other reporter with the same calls has the same counts after each of them,
    whatever its format, colour and suite are, whether or not it shows times, and however its sink
    fails. -/
theorem counts_exact (style : Style) (sink : Sink) (calls : List (Call × Duration)) :
    ((fresh style sink).trace calls).length = calls.length ∧
      (∀ k r v, ((fresh style sink).trace calls)[k]? = some (r, v) →
        Counts ((calls.take (k + 1)).map (·.1)) r.summary ∧
          ((calls.map (·.1))[k]? = some .finish → ∀ w, v = .ok w → w = some r.summary)) ∧
      ∀ style' sink' calls', calls'.map (·.1) = calls.map (·.1) →
        ((fresh style' sink').trace calls').map (·.1.summary) =
          ((fresh style sink).trace calls).map (·.1.summary) := by
  refine ⟨length_trace _ calls, fun k r v h => ?_, fun style' sink' calls' hcalls => ?_⟩
  · obtain ⟨hsummary, before, elapsed, call, hcall, hperformed⟩ := getElem?_trace h
    refine ⟨?_, fun hfinish w hv => ?_⟩
    · rw [hsummary]
      exact counts_foldl_tally _
    · obtain rfl := Option.some.inj (hcall.symm.trans hfinish)
      subst hv
      exact eq_summary_of_perform_finish hperformed
  · have hsummary : (fresh style' sink').summary = (fresh style sink).summary := rfl
    exact trace_summary_congr hsummary hcalls

/-- A report of which nothing can be written is closed in between: that fails, and the counts go on. -/
theorem counts_exact_nothingWritten :
    ∃ r v,
      ((fresh ⟨.pretty, false, true, "", ""⟩ (.fresh (.memory (some 0)) true)).trace
        [(.record (.ran ⟨[0x61]⟩ .success .succeeded .zero), .zero), (.finish, .zero),
          (.interrupt 2, .zero), (.record (.errored ⟨[0x62]⟩ "" .zero), .zero)])[3]? = some (r, v) ∧
      r.summary.successes = 1 ∧ r.summary.failures = 1 ∧ r.summary.interrupted = true := by
  obtain ⟨hlength, hcounts, -⟩ := counts_exact ⟨.pretty, false, true, "", ""⟩
    (.fresh (.memory (some 0)) true)
    [(.record (.ran ⟨[0x61]⟩ .success .succeeded .zero), .zero), (.finish, .zero),
      (.interrupt 2, .zero), (.record (.errored ⟨[0x62]⟩ "" .zero), .zero)]
  have hlast := List.getElem?_eq_getElem (Nat.lt_of_lt_of_eq (Nat.lt_succ_self 3) hlength.symm)
  obtain ⟨hmade, -⟩ := hcounts 3 _ _ hlast
  exact ⟨_, _, hlast, hmade.successes, hmade.failures, hmade.interrupted.mpr ⟨2, by decide⟩⟩

end Conformance.Reporter
