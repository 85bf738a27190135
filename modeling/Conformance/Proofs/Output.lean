import Mathlib.Data.List.Forall2
import Conformance.Proofs.Counting

/-!
# Output

What each of a number of calls adds to a report of lines. A call writes a few texts, or none, and which
ones follows from the style of the report, from what has been counted and from how much was left out. It
does not follow from the sink. So two reporters that were told the same write the same, as far as their
styles let them.

- `outputs`: what each of a number of calls adds to what the sink holds.
- `octets`: what a call has to write.
- `SameTold`: reporters that were told the same, which calls keep (`SameTold.perform`), and which have the
  same to write (`SameTold.octets_eq`).
- `perform_of_neverFails`, `content_after`: over a sink that never fails, what there is to write is what is
  added, and no call fails.
- `exists_octets_side_by_side`, `answers_congr`: two reporters with the same calls.
-/

namespace Conformance.Reporter

/-! ## §1 One call after the other -/

/-- A reporter after calls. -/
def after (r : Reporter) (calls : List (Call × Duration)) : Reporter :=
  calls.foldl (fun r c => (r.perform c.2 c.1).1) r

theorem after_cons (r : Reporter) (c : Call × Duration) (calls : List (Call × Duration)) :
    r.after (c :: calls) = (r.perform c.2 c.1).1.after calls := rfl

/-- What a call adds to what the sink holds. -/
def addition (r : Reporter) (elapsed : Duration) (call : Call) : Bytes :=
  (r.perform elapsed call).1.sink.content.drop r.sink.content.length

/-- What each of a number of calls adds to what the sink holds. -/
def outputs (r : Reporter) : List (Call × Duration) → List Bytes
  | [] => []
  | (call, elapsed) :: calls =>
    r.addition elapsed call :: outputs (r.perform elapsed call).1 calls

theorem length_outputs (r : Reporter) (calls : List (Call × Duration)) :
    (r.outputs calls).length = calls.length := by
  induction calls generalizing r with
  | nil => rfl
  | cons c calls ih => rw [outputs, List.length_cons, List.length_cons, ih]

theorem outputs_take (r : Reporter) (calls : List (Call × Duration)) (i : Nat) :
    r.outputs (calls.take i) = (r.outputs calls).take i := by
  induction calls generalizing r i with
  | nil => rw [List.take_nil, outputs, List.take_nil]
  | cons c calls ih =>
    cases i with
    | zero => rfl
    | succ i => rw [List.take_succ_cons, outputs, outputs, List.take_succ_cons, ih]

theorem getElem?_outputs (r : Reporter) (calls : List (Call × Duration)) (i : Nat) :
    (r.outputs calls)[i]? = calls[i]?.map fun c => (r.after (calls.take i)).addition c.2 c.1 := by
  induction calls generalizing r i with
  | nil => rfl
  | cons c calls ih =>
    cases i with
    | zero => rfl
    | succ i =>
      rw [outputs, List.getElem?_cons_succ, List.getElem?_cons_succ, List.take_succ_cons, after_cons]
      exact ih _ i

theorem getElem?_trace_eq (r : Reporter) (calls : List (Call × Duration)) (i : Nat) :
    (r.trace calls)[i]? = calls[i]?.map fun c => (r.after (calls.take i)).perform c.2 c.1 := by
  induction calls generalizing r i with
  | nil => rfl
  | cons c calls ih =>
    cases i with
    | zero => rfl
    | succ i =>
      rw [trace, List.getElem?_cons_succ, List.getElem?_cons_succ, List.take_succ_cons, after_cons]
      exact ih _ i

/-- The same calls one after the other. If times are shown, they look the same. -/
def SameCalls (shown : Bool) : List (Call × Duration) → List (Call × Duration) → Prop :=
  List.Forall₂ fun c c' => c.1 = c'.1 ∧ (shown = true → c.2.text = c'.2.text)

theorem SameCalls.exists_getElem? {shown : Bool} {calls calls' : List (Call × Duration)}
    (h : SameCalls shown calls calls') {i : Nat} {call : Call} {elapsed : Duration}
    (hcall : calls[i]? = some (call, elapsed)) :
    ∃ elapsed', calls'[i]? = some (call, elapsed') ∧
      (shown = true → elapsed.text = elapsed'.text) := by
  induction h generalizing i with
  | nil => cases hcall
  | @cons c c' _ _ hfirst _ ih =>
    cases i with
    | succ i => exact ih hcall
    | zero =>
      obtain rfl : c = (call, elapsed) := Option.some.inj hcall
      obtain ⟨call', elapsed'⟩ := c'
      obtain ⟨rfl, htimes⟩ := hfirst
      exact ⟨elapsed', rfl, htimes⟩

/-! ## §2 What a call has to write -/

/-- The counts that a call returns where it succeeds, if it is one that returns counts. -/
def Call.reply (s : Summary) : Call → Option Summary
  | .finish => some s
  | .record _ | .interrupt _ => none

/-- Whether a call records a result that passed. -/
def Call.recordsSuccess : Call → Bool
  | .record x => x.passed
  | .interrupt _ | .finish => false

/-- The texts that a call has to write if the report is one of lines. -/
def texts (r : Reporter) (elapsed : Duration) : Call → List String
  | .record x => [recordText r.style x]
  | .interrupt _ => []
  | .finish => r.closing elapsed

/-- The octets that a call has to write if the report is one of lines. -/
def octets (r : Reporter) (elapsed : Duration) (call : Call) : Bytes :=
  (r.texts elapsed call).flatMap Utf8.encodeString

/-- Reporters that have counted the same and were told of the same interruption. -/
structure SameTold (r r' : Reporter) : Prop where
  summary : r.summary = r'.summary
  notRun : r.notRun = r'.notRun

theorem finish_style_notRun (r : Reporter) (elapsed : Duration) :
    (r.finish elapsed).1.style = r.style ∧ (r.finish elapsed).1.notRun = r.notRun := by
  cases h : r.finish elapsed with
  | mk r' v =>
    obtain ⟨⟨sink, rfl⟩, -⟩ := finish_keeps h
    exact ⟨rfl, rfl⟩

theorem perform_style (r : Reporter) (elapsed : Duration) (call : Call) :
    (r.perform elapsed call).1.style = r.style := by
  cases call with
  | record x => exact (record_keeps r x).2.1
  | interrupt notRun => rfl
  | finish => exact (finish_style_notRun r elapsed).1

namespace SameTold

variable {r r' : Reporter}

/-- A call tells both of them the same, whatever becomes of what they write. -/
theorem perform (h : SameTold r r') (elapsed elapsed' : Duration) (call : Call) :
    SameTold (r.perform elapsed call).1 (r'.perform elapsed' call).1 := by
  constructor
  · rw [perform_summary, perform_summary, h.summary]
  · cases call with
    | record x => exact (record_keeps r x).2.2.trans (h.notRun.trans (record_keeps r' x).2.2.symm)
    | interrupt notRun => rfl
    | finish =>
      have hleft := (finish_style_notRun r elapsed).2
      have hright := (finish_style_notRun r' elapsed').2
      exact hleft.trans (h.notRun.trans hright.symm)

/-- So does any number of calls. -/
theorem after (h : SameTold r r') {shown : Bool} {calls calls' : List (Call × Duration)}
    (hcalls : SameCalls shown calls calls') : SameTold (r.after calls) (r'.after calls') := by
  induction hcalls generalizing r r' with
  | nil => exact h
  | @cons c c' _ _ hfirst _ ih =>
    rw [after_cons, after_cons, hfirst.1]
    exact ih (h.perform c.2 c'.2 c'.1)

/-- They close a report with the same lines, as far as times and colours do not differ. -/
theorem closing_eq (h : SameTold r r') (hverbose : r.style.verbose = r'.style.verbose)
    (hcoloured : r.style.coloured = r'.style.coloured) {elapsed elapsed' : Duration}
    (htimes : r.style.verbose = true → elapsed.text = elapsed'.text) :
    r.closing elapsed = r'.closing elapsed' := by
  cases hshown : r.style.verbose with
  | false =>
    -- No time is written, so what it looks like makes no difference.
    simp only [closing, ← hverbose, ← hcoloured, h.summary, h.notRun, hshown, Bool.false_eq_true,
      if_false]
  | true =>
    simp only [closing, ← hverbose, ← hcoloured, h.summary, h.notRun, htimes hshown]

/-- In the same style they have the same to write. -/
theorem octets_eq (h : SameTold r r') (hstyle : r.style = r'.style) {elapsed elapsed' : Duration}
    (htimes : r.style.verbose = true → elapsed.text = elapsed'.text) (call : Call) :
    r.octets elapsed call = r'.octets elapsed' call := by
  cases call with
  | record x => simp only [octets, texts, hstyle]
  | interrupt notRun => rfl
  | finish =>
    have hverbose := congrArg Style.verbose hstyle
    have hcoloured := congrArg Style.coloured hstyle
    rw [octets, octets, texts, texts, h.closing_eq hverbose hcoloured htimes]

end SameTold

theorem after_style (r : Reporter) (calls : List (Call × Duration)) :
    (r.after calls).style = r.style := by
  induction calls generalizing r with
  | nil => rfl
  | cons c calls ih => rw [after_cons, ih, perform_style]

/-! ## §3 Sinks that never fail -/

/-- Over a sink that never fails, a call adds what it has to write, and it succeeds. -/
theorem perform_of_neverFails {r : Reporter} (h : r.sink.NeverFails)
    (hlines : r.style.format ≠ .junit) (elapsed : Duration) (call : Call) :
    (r.perform elapsed call).1.sink.NeverFails ∧
      (r.perform elapsed call).1.sink.content = r.sink.content ++ r.octets elapsed call ∧
      (r.perform elapsed call).2 = .ok (call.reply (r.perform elapsed call).1.summary) := by
  cases call with
  | record x =>
    obtain ⟨hok, hopen, hcontent⟩ := record_of_neverFails h x
    refine ⟨hopen, ?_, ?_⟩
    · rw [octets, texts, List.flatMap_singleton]
      exact hcontent
    · simp only [perform, hok]
      rfl
  | interrupt notRun => exact ⟨h, (List.append_nil _).symm, rfl⟩
  | finish =>
    -- All the lines are written, so the sink is flushed, and flushing it does not fail.
    obtain ⟨sink, hlast, hopen, hcontent⟩ := putAll_of_neverFails h (r.closing elapsed)
    have hclosed : r.finish elapsed = ({ r with sink := sink }, .ok r.summary) := by
      rw [finish_of_lines hlines hlast, flushed]
      simp only [Sink.flush, hopen.2]
      rfl
    simp only [perform, hclosed]
    exact ⟨hopen, hcontent, rfl⟩

theorem after_neverFails {r : Reporter} (h : r.sink.NeverFails) (hlines : r.style.format ≠ .junit)
    (calls : List (Call × Duration)) : (r.after calls).sink.NeverFails := by
  induction calls generalizing r with
  | nil => exact h
  | cons c calls ih =>
    have hlines' : (r.perform c.2 c.1).1.style.format ≠ .junit := by rwa [perform_style]
    exact ih (perform_of_neverFails h hlines c.2 c.1).1 hlines'

/-- Over such a sink, what the calls add one after the other is all that is added. -/
theorem content_after {r : Reporter} (h : r.sink.NeverFails) (hlines : r.style.format ≠ .junit)
    (calls : List (Call × Duration)) :
    (r.after calls).sink.content = r.sink.content ++ (r.outputs calls).flatten := by
  induction calls generalizing r with
  | nil => exact (List.append_nil _).symm
  | cons c calls ih =>
    obtain ⟨call, elapsed⟩ := c
    obtain ⟨hopen, hcontent, -⟩ := perform_of_neverFails h hlines elapsed call
    have hlines' : (r.perform elapsed call).1.style.format ≠ .junit := by rwa [perform_style]
    rw [after_cons, ih hopen hlines', outputs, addition, hcontent, List.drop_left,
      List.flatten_cons, List.append_assoc]

/-- Over such a sink, each call adds what it has to write when its turn comes. -/
theorem getElem?_outputs_of_neverFails {r : Reporter} (h : r.sink.NeverFails)
    (hlines : r.style.format ≠ .junit) (calls : List (Call × Duration)) (i : Nat) :
    (r.outputs calls)[i]? = calls[i]?.map fun c => (r.after (calls.take i)).octets c.2 c.1 := by
  have hlines' : (r.after (calls.take i)).style.format ≠ .junit := by rwa [after_style]
  have hopen := after_neverFails h hlines (calls.take i)
  rw [getElem?_outputs]
  congr 1
  funext c
  rw [addition, (perform_of_neverFails hopen hlines' c.2 c.1).2.1, List.drop_left]

/-! ## §4 Two reporters side by side -/

/-- Of two reporters with the same calls over sinks that never fail, each adds for a call what it has to
    write, and up to then they were told the same. -/
theorem exists_octets_side_by_side (style style' : Style) {sink sink' : Sink}
    (hlines : style.format ≠ .junit) (hlines' : style'.format ≠ .junit) (hsink : sink.NeverFails)
    (hsink' : sink'.NeverFails) {shown : Bool} {calls calls' : List (Call × Duration)}
    (hcalls : SameCalls shown calls calls') {i : Nat} {call : Call} {elapsed : Duration}
    (hcall : calls[i]? = some (call, elapsed)) :
    ∃ r r' elapsed', SameTold r r' ∧ r.style = style ∧ r'.style = style' ∧
      (shown = true → elapsed.text = elapsed'.text) ∧
      ((fresh style sink).outputs calls)[i]? = some (r.octets elapsed call) ∧
      ((fresh style' sink').outputs calls')[i]? = some (r'.octets elapsed' call) := by
  obtain ⟨elapsed', hcall', htimes⟩ := hcalls.exists_getElem? hcall
  have hfresh : SameTold (fresh style sink) (fresh style' sink') := ⟨rfl, rfl⟩
  refine ⟨_, _, elapsed', hfresh.after (List.forall₂_take i hcalls), after_style _ _,
    after_style _ _, htimes, ?_, ?_⟩
  · rw [getElem?_outputs_of_neverFails hsink hlines, hcall, Option.map_some]
  · rw [getElem?_outputs_of_neverFails hsink' hlines', hcall', Option.map_some]

/-- Reporters that were told the same return the same for the same calls, and count the same, over sinks
    that never fail. -/
theorem answers_congr {r r' : Reporter} (h : SameTold r r') (hopen : r.sink.NeverFails)
    (hopen' : r'.sink.NeverFails) (hlines : r.style.format ≠ .junit)
    (hlines' : r'.style.format ≠ .junit) {shown : Bool} {calls calls' : List (Call × Duration)}
    (hcalls : SameCalls shown calls calls') :
    (r.trace calls).map (fun c => (c.2, c.1.summary)) =
      (r'.trace calls').map (fun c => (c.2, c.1.summary)) := by
  induction hcalls generalizing r r' with
  | nil => rfl
  | @cons c c' _ _ hfirst _ ih =>
    obtain ⟨call, elapsed⟩ := c
    obtain ⟨call', elapsed'⟩ := c'
    obtain rfl : call = call' := hfirst.1
    obtain ⟨hnext, -, hanswer⟩ := perform_of_neverFails hopen hlines elapsed call
    obtain ⟨hnext', -, hanswer'⟩ := perform_of_neverFails hopen' hlines' elapsed' call
    -- Both calls succeed, and what they return is read off the counts after them.
    have htold := h.perform elapsed elapsed' call
    rw [trace, trace, List.map_cons, List.map_cons, hanswer, hanswer', htold.summary,
      ih htold hnext hnext' (by rwa [perform_style]) (by rwa [perform_style])]

end Conformance.Reporter
