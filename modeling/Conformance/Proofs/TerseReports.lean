import Conformance.Proofs.Output
import Conformance.Proofs.Reasons

/-!
# Terse reports

A report that lists only failures is the report that lists everything without the lines of what passed:
call by call they write the same octets, except that the terse one writes nothing for a result that
passed. So no failure is lost, and in both of them its line shows the mark of a failure, the fixture and
the reason.

- `octets_terse`: what a call has to write in the one report and in the other.
- `exists_failed_line`: the line of a result that did not pass.
- `terse_is_pretty_without_successes`: the two reports, for any calls.
-/

namespace Conformance.Reporter

/-! ## §1 One call -/

/-- The line of a result follows from two of the settings: whether times are shown, and whether colours are
    wanted. -/
theorem line_congr {style style' : Style} (hverbose : style.verbose = style'.verbose)
    (hcoloured : style.coloured = style'.coloured) (x : Result) : line style x = line style' x := by
  rw [line, line, hverbose, hcoloured]

/-- Of reporters that were told the same, the one that lists only failures has the same to write as the
    other, or nothing if it is to record a success. -/
theorem octets_terse {r r' : Reporter} (h : SameTold r r') (hall : r.style.format = .pretty)
    (hfailures : r'.style.format = .terse) (hverbose : r.style.verbose = r'.style.verbose)
    (hcoloured : r.style.coloured = r'.style.coloured) {elapsed elapsed' : Duration}
    (htimes : r.style.verbose = true → elapsed.text = elapsed'.text) (call : Call) :
    r'.octets elapsed' call = if call.recordsSuccess then [] else r.octets elapsed call := by
  cases call with
  | record x =>
    rw [octets, octets, texts, texts, recordText, recordText, hall, hfailures,
      line_congr hverbose hcoloured, Call.recordsSuccess]
    cases x.passed
    · rfl
    · rfl
  | interrupt notRun => rfl
  | finish =>
    rw [octets, octets, texts, texts, h.closing_eq hverbose hcoloured htimes]
    rfl

/-! ## §2 The line of a failure -/

/-- The line of a failure: its mark, the fixture, the reason in parentheses, and the time if it is shown,
    all of it in red if colours are wanted. -/
def failedLine (style : Style) (x : Result) (reason : String) : String :=
  Colour.red.paintIf style.coloured
    ("❌ " ++ x.fixture.display ++ (" (" ++ reason ++ ")") ++ timeNote style.verbose x) ++ "\n"

/-- A result that did not pass has a reason, and its line shows it. -/
theorem exists_failed_line {x : Result} (h : x.passed = false) :
    ∃ reason, x.reason? = some reason ∧ ∀ style, line style x = failedLine style x reason := by
  have hsome : x.reason?.isSome = true := by
    rw [Result.isSome_reason?, h]
    rfl
  obtain ⟨reason, hreason⟩ := Option.isSome_iff_exists.mp hsome
  refine ⟨reason, hreason, fun style => ?_⟩
  simp only [line, failedLine, plainLine, hreason, h, Bool.false_eq_true, if_false]
  rfl

/-- Both reports write the line of a failure. -/
theorem octets_failure {x : Result} (h : x.passed = false) {reason : String}
    (hline : ∀ style, line style x = failedLine style x reason) {r : Reporter}
    (hlines : r.style.format ≠ .junit) (elapsed : Duration) :
    r.octets elapsed (.record x) = Utf8.encodeString (failedLine r.style x reason) := by
  rw [octets, texts, List.flatMap_singleton, recordText, ← hline]
  cases hformat : r.style.format with
  | pretty => rfl
  | terse => simp only [h, Bool.false_eq_true, if_false]
  | junit => exact absurd hformat hlines

/-! ## §3 Any calls -/

/-- Over sinks that never fail, a report of failures adds for each call what a report of everything adds,
    except that it adds nothing where a success is recorded. Both show times or neither does, both have
    colours or neither has, and times that are shown look the same. A result that did not pass has a
    reason, and both reports add the line that shows it. -/
theorem terse_is_pretty_without_successes (style style' : Style) (hall : style.format = .pretty)
    (hfailures : style'.format = .terse) (hverbose : style.verbose = style'.verbose)
    (hcoloured : style.coloured = style'.coloured) {sink sink' : Sink} (hsink : sink.NeverFails)
    (hsink' : sink'.NeverFails) {calls calls' : List (Call × Duration)}
    (hcalls : SameCalls style.verbose calls calls') :
    let pretty := (fresh style sink).outputs calls
    let terse := (fresh style' sink').outputs calls'
    pretty.length = calls.length ∧ terse.length = calls.length ∧
      ∀ (i : Nat) (call : Call) (elapsed : Duration), calls[i]? = some (call, elapsed) →
        terse[i]? = (if call.recordsSuccess then some [] else pretty[i]?) ∧
        ∀ x, call = .record x → x.passed = false →
          ∃ reason, x.reason? = some reason ∧
            pretty[i]? = some (Utf8.encodeString (failedLine style x reason)) ∧
            terse[i]? = some (Utf8.encodeString (failedLine style x reason)) := by
  intro pretty terse
  have hlines : style.format ≠ .junit := by simp [hall]
  have hlines' : style'.format ≠ .junit := by simp [hfailures]
  refine ⟨length_outputs _ _, ?_, ?_⟩
  · rw [length_outputs, hcalls.length_eq]
  intro i call elapsed hcall
  -- Before the call the two reporters were told the same.
  obtain ⟨r, r', elapsed', htold, rfl, rfl, htimes, hpretty, hterse⟩ :=
    exists_octets_side_by_side style style' hlines hlines' hsink hsink' hcalls hcall
  have hadded := octets_terse htold hall hfailures hverbose hcoloured htimes call
  constructor
  · show ((fresh r'.style sink').outputs calls')[i]? =
      if call.recordsSuccess then some [] else ((fresh r.style sink).outputs calls)[i]?
    rw [hterse, hpretty, hadded]
    cases call.recordsSuccess
    · rfl
    · rfl
  · rintro x rfl hx
    obtain ⟨reason, hreason, hline⟩ := exists_failed_line hx
    have hwritten := octets_failure hx hline hlines elapsed
    refine ⟨reason, hreason, ?_, ?_⟩
    · rw [← hwritten]
      exact hpretty
    · -- A failure is no success, so the terse report adds what the other adds.
      have hfailure : (Call.record x).recordsSuccess = false := hx
      rw [hfailure, if_neg Bool.false_ne_true] at hadded
      rw [← hwritten, ← hadded]
      exact hterse

/-- Two results, of which the first passed although it carries an error, between two attempts to close
    the report. -/
theorem terse_is_pretty_without_successes_lateError :
    let style : Style := ⟨.pretty, true, true, "", ""⟩
    let style' : Style := ⟨.terse, true, true, "failures", ""⟩
    let calls := [(Call.finish, .zero), (.record lateError, .zero), (.interrupt 1, .zero),
      (.record (.errored ⟨[0x62]⟩ "unreadable" .zero), .zero), (.finish, .zero)]
    let pretty := (fresh style .unlimited).outputs calls
    let terse := (fresh style' .unlimited).outputs calls
    terse[0]? = pretty[0]? ∧ terse[1]? = some [] ∧
      terse[3]? = some (Utf8.encodeString
        (failedLine style (.errored ⟨[0x62]⟩ "unreadable" .zero) "unreadable")) ∧
      terse[4]? = pretty[4]? := by
  intro style style' calls pretty terse
  have hcalls : SameCalls style.verbose calls calls :=
    List.forall₂_same.mpr fun c _ => ⟨rfl, fun _ => rfl⟩
  obtain ⟨-, -, hevery⟩ := terse_is_pretty_without_successes style style' rfl rfl rfl rfl
    Sink.unlimited_neverFails Sink.unlimited_neverFails hcalls
  have hfirst := (hevery 0 .finish .zero rfl).1
  have hpassed := (hevery 1 (.record lateError) .zero rfl).1
  obtain ⟨reason, hreason, -, hfailed⟩ :=
    (hevery 3 (.record (.errored ⟨[0x62]⟩ "unreadable" .zero)) .zero rfl).2 _ rfl rfl
  obtain rfl : "unreadable" = reason := Option.some.inj hreason
  have hlast := (hevery 4 .finish .zero rfl).1
  exact ⟨hfirst, hpassed, hfailed, hlast⟩

end Conformance.Reporter
