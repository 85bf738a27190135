import Conformance.Proofs.Recording
import Conformance.Run

/-!
# Where a run stops

A run looks before each result whether it is to stop. Over a sink that never fails nothing else
ends it early, so all that matters is before which result it stops.

- `stopIndex`: how many results are recorded before the run stops, and that this is the least
  number at which it is to stop.
- `collect_of_neverFails`: the run records that many results, notes how many are left over, and
  closes the report.
-/

namespace Conformance.Run

variable {stop : Reporter → Bool} {r : Reporter}

/-! ## §1 The number of results that are recorded -/

/-- How many results are recorded before the run is to stop. -/
def stopIndex (stop : Reporter → Bool) (r : Reporter) : List Result → Nat
  | [] => 0
  | x :: xs => if stop r then 0 else stopIndex stop (r.record x).1 xs + 1

theorem stopIndex_le (xs : List Result) : stopIndex stop r xs ≤ xs.length := by
  induction xs generalizing r with
  | nil => exact Nat.le_refl 0
  | cons x xs ih =>
    rw [stopIndex]
    split
    · exact Nat.zero_le _
    · exact Nat.succ_le_succ ih

/-- Before the number is reached, the run is not to stop. -/
theorem not_stop_of_lt {xs : List Result} {j : Nat} (hj : j < stopIndex stop r xs) :
    stop (r.recordEach (xs.take j)) = false := by
  induction xs generalizing r j with
  | nil => exact absurd hj (Nat.not_lt_zero j)
  | cons x xs ih =>
    rw [stopIndex] at hj
    split at hj
    · exact absurd hj (Nat.not_lt_zero j)
    · rename_i hstop
      cases j with
      | zero => exact Bool.eq_false_iff.mpr hstop
      | succ j => exact ih (Nat.lt_of_succ_lt_succ hj)

/-- If results are left over, the run is to stop there. -/
theorem stop_at_stopIndex {xs : List Result} (hk : stopIndex stop r xs < xs.length) :
    stop (r.recordEach (xs.take (stopIndex stop r xs))) = true := by
  induction xs generalizing r with
  | nil => exact absurd hk (Nat.lt_irrefl 0)
  | cons x xs ih =>
    rw [stopIndex] at hk ⊢
    split
    · assumption
    · rename_i hstop
      rw [if_neg hstop] at hk
      exact ih (Nat.lt_of_succ_lt_succ hk)

theorem stopIndex_never (xs : List Result) : stopIndex (fun _ => false) r xs = xs.length := by
  induction xs generalizing r with
  | nil => rfl
  | cons x xs ih => exact congrArg Nat.succ ih

/-! ## §2 The report of a run that stops -/

/-- A reporter that was handed results, and that has noted how many of `n` are left over, if any
    are. -/
def stoppedAt (r : Reporter) (n : Nat) (xs : List Result) : Reporter :=
  if xs.length < n then (r.recordEach xs).interrupt (n - xs.length) else r.recordEach xs

theorem stoppedAt_all (r : Reporter) (xs : List Result) :
    stoppedAt r xs.length xs = r.recordEach xs := if_neg (Nat.lt_irrefl _)

theorem stoppedAt_of_lt {n : Nat} {xs : List Result} (h : xs.length < n) :
    stoppedAt r n xs = (r.recordEach xs).interrupt (n - xs.length) := if_pos h

theorem stoppedAt_cons (n : Nat) (x : Result) (xs : List Result) :
    stoppedAt r (n + 1) (x :: xs) = stoppedAt (r.record x).1 n xs := by
  simp [stoppedAt, Reporter.recordEach_cons]

theorem stoppedAt_sink (r : Reporter) (n : Nat) (xs : List Result) :
    (stoppedAt r n xs).sink = (r.recordEach xs).sink := by
  unfold stoppedAt
  split <;> rfl

theorem stoppedAt_neverFails (h : r.sink.NeverFails) (n : Nat) (xs : List Result) :
    (stoppedAt r n xs).sink.NeverFails := by
  rw [stoppedAt_sink]
  exact Reporter.recordEach_neverFails h xs

/-- A reporter that had seen nothing before counts the results it was handed, and its run is marked
    as interrupted exactly if others are left over. -/
theorem stoppedAt_fresh_summary (style : Style) (sink : Sink) (n : Nat) (xs : List Result) :
    (stoppedAt (.fresh style sink) n xs).summary =
      ⟨xs.countP (·.passed), xs.countP (!·.passed), xs.length < n⟩ := by
  by_cases hleft : xs.length < n
  · rw [stoppedAt_of_lt hleft, Reporter.interrupt, Reporter.recordEach_fresh_summary]
    simp [hleft]
  · rw [stoppedAt, if_neg hleft, Reporter.recordEach_fresh_summary]
    simp [hleft]

theorem recordAll_of_neverFails (h : r.sink.NeverFails) (xs : List Result) :
    recordAll stop r xs = (stoppedAt r xs.length (xs.take (stopIndex stop r xs)), .closed) := by
  induction xs generalizing r with
  | nil => rfl
  | cons x xs ih =>
    rw [recordAll, stopIndex]
    split
    · rfl
    -- The result can be recorded, and so can those behind it.
    · obtain ⟨hfailed, hopen, -⟩ := Reporter.record_of_neverFails h x
      rw [List.take_succ_cons, List.length_cons, stoppedAt_cons, ← ih hopen]
      split
      · rename_i r' hrecord
        rw [hrecord]
      · rename_i r' e hrecord
        rw [hrecord] at hfailed
        exact absurd hfailed (by simp)

/-- Over a sink that never fails, a run records results up to where it is to stop and closes the
    report. -/
theorem collect_of_neverFails (h : r.sink.NeverFails) (elapsed : Duration) (xs : List Result) :
    collect stop elapsed r xs =
      (stoppedAt r xs.length (xs.take (stopIndex stop r xs))).finish elapsed := by
  rw [collect, recordAll_of_neverFails h]

/-- A run that is not to stop records all results. -/
theorem collect_never (h : r.sink.NeverFails) (elapsed : Duration) (xs : List Result) :
    collect (fun _ => false) elapsed r xs = (r.recordEach xs).finish elapsed := by
  rw [collect_of_neverFails h, stopIndex_never, List.take_length, stoppedAt_all]

end Conformance.Run
