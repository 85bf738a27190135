import Conformance.Report.Reporter

/-!
# Recording results

What a reporter makes of the results that are handed to it one after the other. It counts each of
them, whatever becomes of its line, and over a sink that never fails it writes each of them, so
that the sink holds the lines in the order of the results.

- `recordEach_summary`: the counts are those of the results handed in.
- `content_recordEach`: a sink that never fails holds their lines.
- `finish_of_neverFails`: over such a sink a report can be closed, and what closes it stands behind
  the lines; `content_finish_document`, for documents.
-/

namespace Conformance

/-! ## §1 Sinks that never fail -/

namespace Sink

/-- A sink that accepts all that is written to it. -/
def NeverFails (s : Sink) : Prop := s.device = .memory none ∧ s.flushFails = false

theorem unlimited_neverFails : unlimited.NeverFails := ⟨rfl, rfl⟩

variable {s : Sink}

theorem write_eq_accept (h : s.NeverFails) (data : Bytes) : s.write data = (s.accept data, none) := by
  rw [write, h.1]

theorem content_accept (data : Bytes) : (s.accept data).content = s.content ++ data := by
  simp [accept, content]

end Sink

/-! ## §2 One result -/

namespace Reporter

/-- What is written for a result. -/
def recordText (style : Style) (x : Result) : String :=
  match style.format with
  | .pretty => line style x
  | .terse => if x.passed then "" else line style x
  | .junit => ""

/-- A reporter that has counted a result. -/
def counted (r : Reporter) (x : Result) : Reporter :=
  { r with summary := r.summary.record x.passed }

/-- Recording counts a result first. Then it writes the line, or it writes nothing and keeps the
    result at most. -/
theorem record_cases (r : Reporter) (x : Result) :
    (recordText r.style x = line r.style x ∧ r.record x = (r.counted x).put (line r.style x)) ∨
      (recordText r.style x = "" ∧
        ∃ kept, r.record x = ({ r.counted x with kept := kept }, none)) := by
  cases hf : r.style.format with
  | pretty =>
    left
    simp only [recordText, record, hf]
    exact ⟨trivial, rfl⟩
  | terse =>
    cases hx : x.passed with
    | true =>
      right
      simp only [recordText, record, hf, hx, if_true]
      refine ⟨trivial, r.kept, ?_⟩
      rw [counted, hx]
    | false =>
      left
      simp only [recordText, record, hf, hx]
      exact ⟨rfl, by rw [counted, hx]; rfl⟩
  | junit =>
    right
    simp only [recordText, record, hf]
    exact ⟨trivial, x :: r.kept, rfl⟩

/-- A result is counted, whether or not its line can be written, and nothing else changes that is
    told when the report is closed. -/
theorem record_keeps (r : Reporter) (x : Result) :
    (r.record x).1.summary = r.summary.record x.passed ∧ (r.record x).1.style = r.style ∧
      (r.record x).1.notRun = r.notRun := by
  rcases record_cases r x with ⟨-, h⟩ | ⟨-, kept, h⟩
  · rw [h]
    exact ⟨rfl, rfl, rfl⟩
  · rw [h]
    exact ⟨rfl, rfl, rfl⟩

theorem put_of_neverFails {r : Reporter} (h : r.sink.NeverFails) (text : String) :
    r.put text = ({ r with sink := r.sink.accept (Utf8.encodeString text) }, none) := by
  simp only [put, Sink.writeText, Sink.write_eq_accept h, Option.map_none]

/-- Over a sink that never fails, a result can be recorded, what is written for it is added to the
    sink, and the sink goes on to accept. -/
theorem record_of_neverFails {r : Reporter} (h : r.sink.NeverFails) (x : Result) :
    (r.record x).2 = none ∧ (r.record x).1.sink.NeverFails ∧
      (r.record x).1.sink.content =
        r.sink.content ++ Utf8.encodeString (recordText r.style x) := by
  rcases record_cases r x with ⟨htext, hrecord⟩ | ⟨htext, kept, hrecord⟩
  · rw [hrecord, htext, put_of_neverFails (r := r.counted x) h]
    exact ⟨rfl, h, Sink.content_accept _⟩
  · rw [hrecord, htext]
    exact ⟨rfl, h, (List.append_nil _).symm⟩

/-! ## §3 One result after the other -/

/-- A reporter that results were handed to one after the other. -/
def recordEach (r : Reporter) (xs : List Result) : Reporter := xs.foldl (fun r x => (r.record x).1) r

theorem recordEach_cons (r : Reporter) (x : Result) (xs : List Result) :
    r.recordEach (x :: xs) = (r.record x).1.recordEach xs := rfl

theorem recordEach_concat (r : Reporter) (xs : List Result) (x : Result) :
    r.recordEach (xs ++ [x]) = ((r.recordEach xs).record x).1 := by
  rw [recordEach, List.foldl_append]
  rfl

theorem recordEach_style (r : Reporter) (xs : List Result) : (r.recordEach xs).style = r.style := by
  induction xs generalizing r with
  | nil => rfl
  | cons x xs ih => rw [recordEach_cons, ih, (record_keeps r x).2.1]

theorem recordEach_notRun (r : Reporter) (xs : List Result) :
    (r.recordEach xs).notRun = r.notRun := by
  induction xs generalizing r with
  | nil => rfl
  | cons x xs ih => rw [recordEach_cons, ih, (record_keeps r x).2.2]

/-- The counts are those of the results handed in. -/
theorem recordEach_summary (r : Reporter) (xs : List Result) :
    (r.recordEach xs).summary =
      { r.summary with
        successes := r.summary.successes + xs.countP (·.passed)
        failures := r.summary.failures + xs.countP (!·.passed) } := by
  induction xs generalizing r with
  | nil => rfl
  | cons x xs ih =>
    rw [recordEach_cons, ih, (record_keeps r x).1, Summary.record]
    cases hx : x.passed
    · simp [hx]
      omega
    · simp [hx]
      omega

theorem recordEach_fresh_summary (style : Style) (sink : Sink) (xs : List Result) :
    ((fresh style sink).recordEach xs).summary =
      ⟨xs.countP (·.passed), xs.countP (!·.passed), false⟩ := by
  rw [recordEach_summary]
  simp [fresh, Summary.start]

theorem recordEach_total (r : Reporter) (xs : List Result) :
    (r.recordEach xs).summary.total = r.summary.total + xs.length := by
  have hlength := List.length_eq_countP_add_countP (fun x : Result => x.passed) (l := xs)
  simp only [recordEach_summary, Summary.total]
  simp at hlength ⊢
  omega

theorem recordEach_neverFails {r : Reporter} (h : r.sink.NeverFails) (xs : List Result) :
    (r.recordEach xs).sink.NeverFails := by
  induction xs generalizing r with
  | nil => exact h
  | cons x xs ih => exact ih (record_of_neverFails h x).2.1

/-- A sink that never fails holds what is written for the results, in their order. -/
theorem content_recordEach {r : Reporter} (h : r.sink.NeverFails) (xs : List Result) :
    (r.recordEach xs).sink.content =
      r.sink.content ++ xs.flatMap fun x => Utf8.encodeString (recordText r.style x) := by
  induction xs generalizing r with
  | nil => exact (List.append_nil _).symm
  | cons x xs ih =>
    rw [recordEach_cons, ih (record_of_neverFails h x).2.1, (record_of_neverFails h x).2.2,
      (record_keeps r x).2.1, List.flatMap_cons, List.append_assoc]

/-! ## §4 Closing the report -/

theorem putAll_of_neverFails {r : Reporter} (h : r.sink.NeverFails) (texts : List String) :
    ∃ sink : Sink, r.putAll texts = ({ r with sink := sink }, none) ∧ sink.NeverFails ∧
      sink.content = r.sink.content ++ texts.flatMap Utf8.encodeString := by
  induction texts generalizing r with
  | nil => exact ⟨r.sink, rfl, h, (List.append_nil _).symm⟩
  | cons t ts ih =>
    have hput := put_of_neverFails h t
    obtain ⟨sink, hall, hsink, hcontent⟩ :=
      ih (r := { r with sink := r.sink.accept (Utf8.encodeString t) }) h
    refine ⟨sink, ?_, hsink, ?_⟩
    · rw [putAll, hput]
      exact hall
    · rw [hcontent, Sink.content_accept, List.flatMap_cons, List.append_assoc]

theorem putDocument_of_neverFails {r : Reporter} (h : r.sink.NeverFails) :
    ∃ sink : Sink, r.putDocument = ({ r with sink := sink }, none) ∧ sink.NeverFails := by
  let document := r.sink.accept (Utf8.encodeString (Junit.document r.suite))
  have hput := put_of_neverFails (r := { r with sink := document }) h "\n"
  refine ⟨document.accept (Utf8.encodeString "\n"), ?_, h⟩
  simp only [putDocument, Sink.writeText, Sink.write_eq_accept h]
  exact hput

/-- Where no time is shown, what closes a report depends on what it has counted alone. -/
theorem closing_congr {r r' : Reporter} (hstyle : r.style = r'.style)
    (hsummary : r.summary = r'.summary) (hnotRun : r.notRun = r'.notRun)
    (hverbose : r'.style.verbose = false) (elapsed elapsed' : Duration) :
    r.closing elapsed = r'.closing elapsed' := by
  simp [closing, hstyle, hsummary, hnotRun, hverbose]

/-- Over a sink that never fails, closing the report gives the counts and leaves them. -/
theorem finish_of_neverFails {r : Reporter} (h : r.sink.NeverFails) (elapsed : Duration) :
    ∃ sink : Sink, r.finish elapsed = ({ r with sink := sink }, .ok r.summary) ∧
      (r.style.format ≠ .junit →
        sink.content = r.sink.content ++ (r.closing elapsed).flatMap Utf8.encodeString) := by
  obtain ⟨lines, hlines, hopen, hcontent⟩ := putAll_of_neverFails h (r.closing elapsed)
  obtain ⟨doc, hdoc, hopen'⟩ := putDocument_of_neverFails h
  cases hf : r.style.format with
  | pretty =>
    refine ⟨lines, ?_, fun _ => hcontent⟩
    simp only [finish, hf, hlines, Sink.flush, hopen.2]
    rfl
  | terse =>
    refine ⟨lines, ?_, fun _ => hcontent⟩
    simp only [finish, hf, hlines, Sink.flush, hopen.2]
    rfl
  | junit =>
    refine ⟨doc, ?_, fun hne => absurd rfl hne⟩
    simp only [finish, hf, hdoc, Sink.flush, hopen'.2]
    rfl

/-- Over such a sink, what closes a document is all of it, and a line feed. -/
theorem content_finish_document {r : Reporter} (h : r.sink.NeverFails)
    (hformat : r.style.format = .junit) (elapsed : Duration) :
    (r.finish elapsed).1.sink.content =
      r.sink.content ++
        (Utf8.encodeString (Junit.document r.suite) ++ Utf8.encodeString "\n") := by
  let written := r.sink.accept (Utf8.encodeString (Junit.document r.suite))
  let closed := written.accept (Utf8.encodeString "\n")
  have hdocument : r.putDocument = ({ r with sink := closed }, none) := by
    have hput := put_of_neverFails (r := { r with sink := written }) h "\n"
    simp only [putDocument, Sink.writeText, Sink.write_eq_accept h]
    exact hput
  have hquiet : closed.flush = none := by
    have hflush : closed.flushFails = false := h.2
    simp [Sink.flush, hflush]
  have hfinish : r.finish elapsed = ({ r with sink := closed }, .ok r.summary) := by
    simp only [finish, hformat, hdocument, hquiet]
  rw [hfinish]
  simp only [closed, written, Sink.content_accept, List.append_assoc]

/-- What closes a report stands behind what the sink held before. -/
theorem exists_content_finish {r : Reporter} (h : r.sink.NeverFails) (elapsed : Duration) :
    ∃ closing, (r.finish elapsed).1.sink.content = r.sink.content ++ closing := by
  by_cases hformat : r.style.format = .junit
  · exact ⟨_, content_finish_document h hformat elapsed⟩
  · obtain ⟨sink, hok, hcontent⟩ := finish_of_neverFails h elapsed
    rw [hok]
    exact ⟨_, hcontent hformat⟩

/-- Whatever closing the report over such a sink came to, it gave the counts and left them. -/
theorem eq_ok_of_finish {r r' : Reporter} (h : r.sink.NeverFails) {elapsed : Duration}
    {v : Except ReportError Summary} (closed : r.finish elapsed = (r', v)) :
    v = .ok r.summary ∧ r'.summary = r.summary ∧ r'.notRun = r.notRun ∧ r'.style = r.style := by
  obtain ⟨sink, hok, -⟩ := finish_of_neverFails h elapsed
  obtain ⟨rfl, rfl⟩ := Prod.mk.inj (closed.symm.trans hok)
  exact ⟨rfl, rfl, rfl, rfl⟩

end Reporter
end Conformance
