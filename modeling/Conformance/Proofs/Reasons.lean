import Conformance.Proofs.Recording
import Conformance.Run

/-!
# Reasons and verdicts

Whether a fixture passed is told in three places: by the counts, by the mark of its line, and by the
reason that the line and the document show. The counts and the mark look at the outcome alone. The
reason looks at the error first. So the three agree on every result but one that passed and carries an
error all the same; no run makes such a result, but nothing keeps it from being recorded.

- `reason?_eq_none_iff`: which results have no reason.
- `countP_reason`, `showsReason_plainLine`: the failures of a document, and the reason in a line.
- `reasons_follow_verdicts`: where the three agree, for every result and all records.
- `lateError_counts_as_success`: a result on which they do not.
-/

namespace Conformance

/-! ## §1 Results -/

namespace Result

/-- Whether a result passed and carries an error all the same. -/
def isDisputed (x : Result) : Bool := x.passed && x.error.isSome

/-- A result has no reason exactly if it passed and carries no error. -/
theorem reason?_eq_none_iff (x : Result) : x.reason? = none ↔ x.passed = true ∧ x.error = none := by
  unfold reason? passed
  cases x.error with
  -- An error is the reason, whatever became of the run.
  | some e => simp
  | none =>
    -- Without one, it is the outcome and what was expected that decide, if both are there.
    cases x.expectation with
    | none => simp
    | some e =>
      cases x.outcome with
      | none => simp
      | some o => cases hmet : e.isMetBy o <;> simp [hmet]

theorem isSome_reason? (x : Result) : x.reason?.isSome = (!x.passed || x.error.isSome) := by
  have hnone := reason?_eq_none_iff x
  cases hreason : x.reason? with
  | none =>
    obtain ⟨hpassed, herror⟩ := hnone.mp hreason
    simp [hpassed, herror]
  | some reason =>
    have hsome : ¬(x.passed = true ∧ x.error = none) := fun h => by
      rw [hnone.mpr h] at hreason
      cases hreason
    cases hpassed : x.passed with
    | false => rfl
    | true =>
      cases herror : x.error with
      | none => exact absurd ⟨hpassed, herror⟩ hsome
      | some e => rfl

/-- The results with a reason are those that failed and those that are disputed. -/
theorem countP_reason (xs : List Result) :
    xs.countP (·.reason?.isSome) = xs.countP (!·.passed) + xs.countP (·.isDisputed) := by
  induction xs with
  | nil => rfl
  | cons x xs ih =>
    rw [List.countP_cons, List.countP_cons, List.countP_cons, ih, isSome_reason? x, isDisputed]
    cases x.passed <;> cases x.error.isSome <;> simp <;> omega

end Result

/-- What a run makes of a fixture is never disputed: a result with an error has no outcome. -/
theorem Run.resultOf_isDisputed (s : Setting) (task : Nat) (f : Fixture) :
    (resultOf s task f).isDisputed = false := by
  unfold resultOf
  cases s.host.read f.path with
  | error e => rfl
  | ok content =>
    cases s.executor.verdict f.path with
    | panicked message => rfl
    | ended outcome => simp [Result.isDisputed, Result.ran]

/-! ## §2 Documents -/

namespace Reporter

/-- A result is kept for a document, and nothing is written for it. -/
theorem record_of_junit {r : Reporter} (hformat : r.style.format = .junit) (x : Result) :
    r.record x = ({ r.counted x with kept := x :: r.kept }, none) := by
  simp only [record, hformat]
  rfl

/-- A document keeps the results that were recorded, in their order. -/
theorem kept_recordEach {r : Reporter} (hformat : r.style.format = .junit) (xs : List Result) :
    (r.recordEach xs).kept = xs.reverse ++ r.kept := by
  induction xs generalizing r with
  | nil => rfl
  | cons x xs ih =>
    have hformat' : (r.record x).1.style.format = .junit := by
      rw [(record_keeps r x).2.1]
      exact hformat
    rw [recordEach_cons, ih hformat', record_of_junit hformat]
    simp

/-- The suite of a document has a case for each of the recorded results, in their order. -/
theorem suite_recordEach {style : Style} (hformat : style.format = .junit) (sink : Sink)
    (xs : List Result) :
    ((fresh style sink).recordEach xs).suite =
      ⟨style.suite, style.timestamp, xs.map Junit.Case.ofResult⟩ := by
  have hkept : ((fresh style sink).recordEach xs).kept = xs.reverse ++ [] :=
    kept_recordEach (r := fresh style sink) hformat xs
  rw [suite, recordEach_style, hkept, List.append_nil, List.reverse_reverse]
  rfl

/-! ## §3 Lines -/

/-- The time at the end of a line, if times are shown. -/
def timeNote (verbose : Bool) (x : Result) : String :=
  if verbose then " [" ++ x.duration.text ++ "]" else ""

/-- Whether a line begins with the mark of a failure. -/
def BeginsFailed (text : String) : Prop := "❌".toList <+: text.toList

/-- Whether the line of a result shows a reason in parentheses, between the fixture and the time. -/
def ShowsReason (verbose : Bool) (x : Result) (text : String) : Prop :=
  ∃ mark reason : String, mark ∈ ["✅ ", "❌ "] ∧
    text = mark ++ x.fixture.display ++ (" (" ++ reason ++ ")") ++ timeNote verbose x

theorem beginsFailed_plainLine (verbose : Bool) (x : Result) :
    BeginsFailed (plainLine verbose x) ↔ x.passed = false := by
  unfold BeginsFailed plainLine
  cases x.passed <;> simp [String.toList_append]

/-- A line shows a reason exactly if the result has one. -/
theorem showsReason_plainLine (verbose : Bool) (x : Result) :
    ShowsReason verbose x (plainLine verbose x) ↔ x.reason?.isSome = true := by
  constructor
  · rintro ⟨mark, reason, hmark, htext⟩
    cases hreason : x.reason? with
    | some _ => rfl
    | none =>
      -- Without a reason the line is too short: both marks are two characters long.
      have hlength := congrArg String.length htext
      have hmark : mark.length = 2 := by
        simp only [List.mem_cons, List.not_mem_nil, or_false] at hmark
        rcases hmark with rfl | rfl <;> rfl
      have hown : (if x.passed = true then "✅ " else "❌ ").length = 2 := by
        split <;> rfl
      simp only [plainLine, hreason, timeNote, String.length_append, hmark, hown] at hlength
      simp at hlength
  · intro hsome
    obtain ⟨reason, hreason⟩ := Option.isSome_iff_exists.mp hsome
    refine ⟨if x.passed then "✅ " else "❌ ", reason, ?_, ?_⟩
    · cases x.passed <;> simp
    · simp only [plainLine, hreason, timeNote]

/-- Whether a reporter became another one by writing a text as a line, in some colour if colours are
    wanted. -/
def WritesLine (r r' : Reporter) (text : String) : Prop :=
  ∃ colour, r'.sink.content =
    r.sink.content ++ Utf8.encodeString (Colour.paintIf r.style.coloured colour text ++ "\n")

/-- Over a sink that never fails, a result is written as its line, unless only failures are listed and
    it passed: then nothing is written. -/
theorem writesLine_record {r : Reporter} (h : r.sink.NeverFails) (hformat : r.style.format ≠ .junit)
    (x : Result) :
    (r.style.format = .terse ∧ x.passed = true ∧ (r.record x).1.sink.content = r.sink.content) ∨
      r.WritesLine (r.record x).1 (plainLine r.style.verbose x) := by
  obtain ⟨-, -, hcontent⟩ := record_of_neverFails h x
  -- The line is in the colour of its verdict.
  have hline : recordText r.style x = line r.style x →
      r.WritesLine (r.record x).1 (plainLine r.style.verbose x) := by
    intro htext
    rw [htext] at hcontent
    exact ⟨if x.passed then .green else .red, hcontent⟩
  cases hf : r.style.format with
  | junit => exact absurd hf hformat
  | pretty =>
    right
    apply hline
    simp only [recordText, hf]
  | terse =>
    cases hpassed : x.passed with
    | false =>
      right
      apply hline
      simp [recordText, hf, hpassed]
    | true =>
      left
      refine ⟨rfl, rfl, ?_⟩
      rw [hcontent]
      simp [recordText, hf, hpassed, Utf8.encodeString, Utf8.encode]

end Reporter

/-! ## §4 Everywhere -/

/-- A result has no reason exactly if it passed, unless it is disputed, and nothing that a run makes of
    a fixture is. So the failures of a document are as many as the counts say and the disputed results
    more, and a line shows a reason exactly if it begins with the mark of a failure, unless its result
    is disputed. -/
theorem reasons_follow_verdicts (x : Result) (xs : List Result) (r : Reporter) (style : Style)
    (sink : Sink) :
    ((x.reason? = none ↔ x.passed = true) ↔ x.isDisputed = false) ∧
      (∀ (s : Run.Setting) (task : Nat) (f : Fixture),
        (Run.resultOf s task f).isDisputed = false) ∧
      (style.format = .junit →
        let closed := (Reporter.fresh style sink).recordEach xs
        closed.suite.cases.countP (·.failure.isSome) =
          closed.summary.failures + xs.countP (·.isDisputed)) ∧
      (r.sink.NeverFails → r.style.format ≠ .junit →
        (r.style.format = .terse ∧ x.passed = true ∧
          (r.record x).1.sink.content = r.sink.content) ∨
        ∃ text, r.WritesLine (r.record x).1 text ∧
          (Reporter.BeginsFailed text ↔ x.passed = false) ∧
          ((Reporter.ShowsReason r.style.verbose x text ↔ Reporter.BeginsFailed text) ↔
            x.isDisputed = false)) := by
  refine ⟨?_, Run.resultOf_isDisputed, fun hformat => ?_, fun hsink hformat => ?_⟩
  · rw [Result.reason?_eq_none_iff, Result.isDisputed]
    cases x.passed <;> simp
  · intro closed
    have hsuite := Reporter.suite_recordEach hformat sink xs
    have hsummary := Reporter.recordEach_fresh_summary style sink xs
    simp only [closed, hsuite, hsummary, List.countP_map]
    exact Result.countP_reason xs
  · rcases Reporter.writesLine_record hsink hformat x with hnothing | hline
    · exact .inl hnothing
    · have hfailed := Reporter.beginsFailed_plainLine r.style.verbose x
      have hreason := Reporter.showsReason_plainLine r.style.verbose x
      refine .inr ⟨_, hline, hfailed, ?_⟩
      rw [hreason, hfailed, Result.isSome_reason?, Result.isDisputed]
      cases x.passed <;> simp

/-- A result that passed and carries an error. -/
def lateError : Result :=
  ⟨⟨[0x61]⟩, some .success, some .succeeded, some "late error", .zero⟩

/-- It is counted as a success and marked as one, and yet its line shows a reason, and so does the
    document, which tells of a failure that the counts do not. -/
theorem lateError_counts_as_success :
    lateError.passed = true ∧ lateError.reason? = some "late error" ∧
      Reporter.plainLine false lateError = "✅ a (late error)" ∧
      let r := (Reporter.fresh ⟨.junit, false, false, "", ""⟩ .unlimited).recordEach [lateError]
      r.summary.failures = 0 ∧ r.suite.cases.countP (·.failure.isSome) = 1 := by
  decide +kernel

/-- In a document of two results, of which one failed and the other is disputed, both are failures. -/
theorem reasons_follow_verdicts_lateError :
    let r := (Reporter.fresh ⟨.junit, false, false, "", ""⟩ .unlimited).recordEach
      [lateError, .errored ⟨[0x62]⟩ "unreadable" .zero]
    r.suite.cases.countP (·.failure.isSome) = 2 ∧ r.summary.failures = 1 := by
  intro r
  obtain ⟨-, -, hdocument, -⟩ := reasons_follow_verdicts lateError
    [lateError, .errored ⟨[0x62]⟩ "unreadable" .zero] r ⟨.junit, false, false, "", ""⟩ .unlimited
  have hcount := hdocument rfl
  exact ⟨hcount.trans (by decide +kernel), by decide +kernel⟩

end Conformance
