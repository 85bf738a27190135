import Mathlib.Algebra.GroupWithZero.Nat
import Conformance.Proofs.LimitedSink
import Conformance.Proofs.Output

/-!
# Calls over a sink with a limit

A reporter over a sink that accepts so many octets and no more, with calls that go on whether or not the
calls before them failed. The sink ends up with the front of what it would hold without a limit: no octet
gets in behind one that was refused, and none is lost in front of it. A call fails exactly if it has
octets to write and they go beyond the limit, or if it closes the report and the sink cannot be flushed.

- `Sink.writeEach_of_holds`: pieces are accepted as far as their octets together are.
- `perform_of_holds`: what becomes of one call; `after_holds`, of any number of them.
- `limited_exact`: what the sink holds and what each call returns, for any calls.
-/

namespace Conformance

/-! ## §1 The sink -/

namespace Sink

/-- Whether octets go beyond a limit behind others: there are some, and not all of them fit. -/
def Overruns (limit : Nat) (all own : Bytes) : Prop :=
  0 < own.length ∧ limit < all.length + own.length

instance (limit : Nat) (all own : Bytes) : Decidable (Overruns limit all own) :=
  inferInstanceAs (Decidable (_ ∧ _))

theorem not_overruns_nil {limit : Nat} {all : Bytes} : ¬Overruns limit all [] :=
  fun hover => Nat.lt_irrefl 0 hover.1

/-- What comes of writing octets behind others. -/
def refusal (limit : Nat) (all own : Bytes) : Option IoError :=
  if Overruns limit all own then some .brokenPipe else none

/-- Octets in front of others go beyond the limit, or it is left to the others. -/
theorem refusal_append (limit : Nat) (all own more : Bytes) :
    refusal limit all (own ++ more) =
      if Overruns limit all own then some .brokenPipe else refusal limit (all ++ own) more := by
  unfold refusal
  by_cases hover : Overruns limit all own
  · have hboth : Overruns limit all (own ++ more) := by
      simp only [Overruns, List.length_append] at hover ⊢
      omega
    rw [if_pos hover, if_pos hboth]
  · have hrest : Overruns limit all (own ++ more) ↔ Overruns limit (all ++ own) more := by
      simp only [Overruns, List.length_append] at hover ⊢
      omega
    rw [if_neg hover]
    simp only [hrest]

variable {s : Sink} {limit : Nat} {flushFails : Bool} {all : Bytes}

/-- A write fails if its octets go beyond the limit, whatever was cut off before. -/
theorem write_refusal (h : s.Holds limit flushFails all) (data : Bytes) :
    (s.write data).2 = refusal limit all data := by
  have hroom : limit - s.size = limit - all.length := by
    rw [h.size]
    omega
  unfold refusal
  by_cases hover : Overruns limit all data
  · have hrefused : ¬data.length ≤ limit - all.length := by
      obtain ⟨hsome, hbeyond⟩ := hover
      omega
    simp only [write, h.device, hroom, if_neg hrefused, if_pos hover]
  · have hfits : data.length ≤ limit - all.length := by
      unfold Overruns at hover
      omega
    simp only [write, h.device, hroom, if_pos hfits, if_neg hover]

/-- Writes pieces one after the other, up to the first that fails. -/
def writeEach (s : Sink) : List Bytes → Sink × Option IoError
  | [] => (s, none)
  | piece :: pieces =>
    match s.write piece with
    | (s, none) => s.writeEach pieces
    | (s, some e) => (s, some e)

/-- However octets are cut into pieces, a sink with a limit accepts as many of them as if they were
    written at once, and fails in the same cases. -/
theorem writeEach_of_holds (h : s.Holds limit flushFails all) (pieces : List Bytes) :
    (s.writeEach pieces).1.Holds limit flushFails (all ++ pieces.flatten) ∧
      (s.writeEach pieces).2 = refusal limit all pieces.flatten := by
  induction pieces generalizing s all with
  | nil =>
    rw [List.flatten_nil, List.append_nil]
    exact ⟨h, rfl⟩
  | cons piece pieces ih =>
    have hholds := (write_of_holds h piece).1
    have hrefusal := write_refusal h piece
    rw [List.flatten_cons, ← List.append_assoc, refusal_append, writeEach]
    split
    · -- The piece was accepted: what becomes of the rest is as if it were written behind it.
      rename_i s' hwrite
      rw [hwrite] at hholds hrefusal
      have hfits : ¬Overruns limit all piece := fun hover => by
        rw [refusal, if_pos hover] at hrefusal
        cases hrefusal
      rw [if_neg hfits]
      exact ih hholds
    · rename_i s' e hwrite
      rw [hwrite] at hholds hrefusal
      -- The limit has been reached, so the pieces left out would not have been accepted.
      have hover : Overruns limit all piece := by
        by_contra hfits
        rw [refusal, if_neg hfits] at hrefusal
        cases hrefusal
      have hfull : limit ≤ (all ++ piece).length := by
        rw [List.length_append]
        exact Nat.le_of_lt hover.2
      rw [if_pos hover, hrefusal, refusal, if_pos hover]
      exact ⟨hholds.append_of_full hfull _, rfl⟩

end Sink

/-! ## §2 One call -/

namespace Reporter

open Sink (Overruns refusal)

variable {r : Reporter} {limit : Nat} {flushFails : Bool} {all : Bytes}

/-- Texts are written as pieces are. -/
theorem putAll_eq_writeEach (r : Reporter) (texts : List String) :
    r.putAll texts =
      ({ r with sink := (r.sink.writeEach (texts.map Utf8.encodeString)).1 },
        (r.sink.writeEach (texts.map Utf8.encodeString)).2.map .line) := by
  induction texts generalizing r with
  | nil => rfl
  | cons t ts ih =>
    rw [List.map_cons, putAll, Sink.writeEach, put, Sink.writeText]
    cases r.sink.write (Utf8.encodeString t) with
    | mk sink failure =>
      cases failure with
      | some e => rfl
      | none => exact ih { r with sink := sink }

/-- Whether a call fails that has octets to write behind others: they go beyond the limit, or the call
    closes the report and the sink cannot be flushed. -/
def Fails (limit : Nat) (flushFails : Bool) (all own : Bytes) (call : Call) : Prop :=
  Overruns limit all own ∨ (call = .finish ∧ flushFails = true)

instance (limit : Nat) (flushFails : Bool) (all own : Bytes) (call : Call) :
    Decidable (Fails limit flushFails all own call) :=
  inferInstanceAs (Decidable (_ ∨ _))

/-- What a call returns over a sink with a limit. -/
def returned (limit : Nat) (flushFails : Bool) (all own : Bytes) (call : Call) (s : Summary) :
    Except ReportError (Option Summary) :=
  if Fails limit flushFails all own call then .error (.line .brokenPipe) else .ok (call.reply s)

theorem returned_of_overruns {own : Bytes} (h : Overruns limit all own) (call : Call) (s : Summary) :
    returned limit flushFails all own call s = .error (.line .brokenPipe) := if_pos (.inl h)

theorem returned_of_fits {own : Bytes} (h : ¬Overruns limit all own) (call : Call) (s : Summary)
    (hflush : call ≠ .finish ∨ flushFails = false) :
    returned limit flushFails all own call s = .ok (call.reply s) := by
  refine if_neg ?_
  rintro (hover | ⟨hfinish, hfails⟩)
  · exact h hover
  · rcases hflush with hcall | hflushes
    · exact hcall hfinish
    · rw [hflushes] at hfails
      cases hfails

/-- What recording a result returns is what came of writing its line. -/
theorem answer_refusal (own : Bytes) (x : Result) (s : Summary) :
    answer ((refusal limit all own).map .line) =
      returned limit flushFails all own (.record x) s := by
  unfold refusal
  by_cases hover : Overruns limit all own
  · rw [if_pos hover, returned_of_overruns hover]
    rfl
  · rw [if_neg hover, returned_of_fits hover (.record x) s (.inl (by simp))]
    rfl

/-- What closing a report returns is what came of writing its end and flushing the sink. -/
theorem flushed_refusal (h : r.sink.flushFails = flushFails) (own : Bytes) :
    (flushed r ((refusal limit all own).map .line)).2.map some =
      returned limit flushFails all own .finish r.summary := by
  unfold refusal
  by_cases hover : Overruns limit all own
  · rw [if_pos hover, returned_of_overruns hover]
    rfl
  rw [if_neg hover]
  subst h
  cases hflush : r.sink.flushFails with
  | false =>
    rw [returned_of_fits hover _ r.summary (.inr rfl)]
    simp only [flushed, Option.map_none, Sink.flush, hflush]
    rfl
  | true =>
    have hfails : Fails limit true all own .finish := .inr ⟨rfl, rfl⟩
    rw [returned, if_pos hfails]
    simp only [flushed, Option.map_none, Sink.flush, hflush]
    rfl

/-- A call writes as much of what it has to write as is accepted, whatever became of the calls before. -/
theorem perform_of_holds (h : r.sink.Holds limit flushFails all) (hlines : r.style.format ≠ .junit)
    (elapsed : Duration) (call : Call) :
    (r.perform elapsed call).1.sink.Holds limit flushFails (all ++ r.octets elapsed call) ∧
      (r.perform elapsed call).2 =
        returned limit flushFails all (r.octets elapsed call) call r.summary := by
  cases call with
  | record x =>
    -- A terse report has no octets for a success, and nothing is what it writes.
    rw [octets, texts, List.flatMap_singleton, ← answer_refusal]
    refine ⟨(record_of_holds h x).1, congrArg answer ?_⟩
    rcases record_cases r x with ⟨htext, hrecord⟩ | ⟨htext, kept, hrecord⟩
    · rw [hrecord, htext, ← Sink.write_refusal h]
      rfl
    · rw [hrecord, htext]
      rfl
  | interrupt notRun =>
    have hnothing : r.octets elapsed (.interrupt notRun) = [] := rfl
    rw [hnothing, List.append_nil,
      returned_of_fits Sink.not_overruns_nil (.interrupt notRun) _ (.inl (by simp))]
    exact ⟨h, rfl⟩
  | finish =>
    obtain ⟨hholds, hrefusal⟩ :=
      Sink.writeEach_of_holds h ((r.closing elapsed).map Utf8.encodeString)
    rw [← List.flatMap_def] at hholds hrefusal
    have hlast := putAll_eq_writeEach r (r.closing elapsed)
    rw [perform, finish_of_lines hlines hlast, flushed_fst, hrefusal, flushed_refusal hholds.flushFails]
    exact ⟨hholds, rfl⟩

/-! ## §3 Any calls -/

/-- After any calls the sink holds as much as it accepts of what they add where nothing fails: `q` is a
    reporter in the same style that was told the same, over a sink that never fails. -/
theorem after_holds {q : Reporter} (h : r.sink.Holds limit flushFails all) (hopen : q.sink.NeverFails)
    (htold : SameTold q r) (hstyle : q.style = r.style) (hlines : r.style.format ≠ .junit)
    {shown : Bool} (hshown : r.style.verbose = shown) {calls calls' : List (Call × Duration)}
    (hcalls : SameCalls shown calls calls') :
    (r.after calls').sink.Holds limit flushFails (all ++ (q.outputs calls).flatten) := by
  induction hcalls generalizing q r all with
  | nil =>
    rw [outputs, List.flatten_nil, List.append_nil]
    exact h
  | @cons c c' calls calls' hfirst _ ih =>
    obtain ⟨call, elapsed⟩ := c
    obtain ⟨call', elapsed'⟩ := c'
    obtain ⟨rfl, htimes⟩ : call = call' ∧ (shown = true → elapsed.text = elapsed'.text) := hfirst
    obtain ⟨hnext, hcontent, -⟩ := perform_of_neverFails hopen (hstyle ▸ hlines) elapsed call
    have hsame : q.octets elapsed call = r.octets elapsed' call :=
      htold.octets_eq hstyle (fun hverbose => htimes (hshown ▸ hstyle ▸ hverbose)) call
    have hheld := (perform_of_holds h hlines elapsed' call).1
    have hstyle' : (q.perform elapsed call).1.style = (r.perform elapsed' call).1.style := by
      rw [perform_style, perform_style, hstyle]
    rw [after_cons, outputs, addition, hcontent, List.drop_left, hsame, List.flatten_cons,
      ← List.append_assoc]
    exact ih hheld hnext (htold.perform elapsed elapsed' call) hstyle' (by rwa [perform_style])
      (by rwa [perform_style])

/-- What becomes of a call in a format, over a sink with a limit: `before` is the sink in front of the call,
    which was handed the octets `all`; the octets `own` are those that the call has to write; after it the
    reporter is `r`, and `v` was returned. -/
structure CallCutOff (format : Format) (limit : Nat) (flushFails : Bool) (all own : Bytes) (before : Sink)
    (call : Call) (r : Reporter) (v : Except ReportError (Option Summary)) : Prop where
  content : r.sink.content = (all ++ own).take limit
  /-- It fails if there are octets to write and they go beyond the limit, or if it is to close the report
      and the sink cannot be flushed. -/
  failed_iff : (∃ e, v = .error e) ↔
    (0 < own.length ∧ limit < all.length + own.length) ∨ (call = .finish ∧ flushFails = true)
  error_eq : ∀ e, v = .error e → e = .line .brokenPipe
  reply_eq : ∀ w, v = .ok w → w = call.reply r.summary
  /-- Neither interruptions nor, if only failures are listed, successes can fail. -/
  quiet : call.interrupts = true ∨ (format = .terse ∧ call.recordsSuccess = true) →
    own = [] ∧ v = .ok none
  /-- In whatever pieces the octets are written, up to the first that fails, the sink comes to hold the
      same, and a piece fails exactly if the octets go beyond the limit. -/
  pieces : ∀ pieces : List Bytes, pieces.flatten = own →
    (before.writeEach pieces).1.content = r.sink.content ∧
      ((before.writeEach pieces).2 ≠ none ↔ 0 < own.length ∧ limit < all.length + own.length)

theorem returned_eq_error_iff {own : Bytes} {call : Call} {s : Summary} {e : ReportError} :
    returned limit flushFails all own call s = .error e ↔
      Fails limit flushFails all own call ∧ e = .line .brokenPipe := by
  unfold returned
  split
  · rename_i hfails
    simp [hfails, eq_comm]
  · rename_i hfails
    simp [hfails]

theorem eq_reply_of_returned {own : Bytes} {call : Call} {s : Summary} {w : Option Summary}
    (h : returned limit flushFails all own call s = .ok w) : w = call.reply s := by
  unfold returned at h
  split at h
  · cases h
  · exact (Except.ok.inj h).symm

/-- A call that returns the counts leaves them. -/
theorem reply_perform (r : Reporter) (elapsed : Duration) (call : Call) :
    call.reply (r.perform elapsed call).1.summary = call.reply r.summary := by
  cases call with
  | record x => rfl
  | interrupt notRun => rfl
  | finish => exact congrArg some (finish_summary r elapsed).1

/-- For an interruption, and for a success if only failures are listed, there is nothing to write. -/
theorem octets_of_quiet {call : Call} (elapsed : Duration)
    (h : call.interrupts = true ∨ (r.style.format = .terse ∧ call.recordsSuccess = true)) :
    r.octets elapsed call = [] ∧ call ≠ .finish ∧ ∀ s, call.reply s = none := by
  cases call with
  | interrupt notRun => exact ⟨rfl, by simp, fun _ => rfl⟩
  | finish => simp [Call.interrupts, Call.recordsSuccess] at h
  | record x =>
    have hquiet : r.style.format = .terse ∧ x.passed = true := h.resolve_left Bool.false_ne_true
    refine ⟨?_, by simp, fun _ => rfl⟩
    rw [octets, texts, List.flatMap_singleton]
    simp only [recordText, hquiet.1, hquiet.2, if_true]
    rfl

theorem callCutOff_of_holds (h : r.sink.Holds limit flushFails all) (hlines : r.style.format ≠ .junit)
    (elapsed : Duration) (call : Call) :
    CallCutOff r.style.format limit flushFails all (r.octets elapsed call) r.sink call
      (r.perform elapsed call).1 (r.perform elapsed call).2 := by
  obtain ⟨hheld, hreturned⟩ := perform_of_holds h hlines elapsed call
  refine ⟨hheld.content, ?_, fun e he => ?_, fun w hw => ?_, fun hquiet => ?_, fun pieces hown => ?_⟩
  · simp only [hreturned, returned_eq_error_iff, exists_and_left, exists_eq, and_true]
    exact Iff.rfl
  · rw [hreturned] at he
    exact (returned_eq_error_iff.mp he).2
  · rw [hreturned] at hw
    rw [reply_perform]
    exact eq_reply_of_returned hw
  · obtain ⟨hnothing, hcall, hreply⟩ := octets_of_quiet elapsed hquiet
    refine ⟨hnothing, ?_⟩
    rw [hreturned, hnothing, returned_of_fits Sink.not_overruns_nil call _ (.inl hcall), hreply]
  · obtain ⟨hpieces, hrefusal⟩ := Sink.writeEach_of_holds h pieces
    rw [hown] at hpieces hrefusal
    refine ⟨hpieces.content.trans hheld.content.symm, ?_⟩
    rw [hrefusal, refusal]
    split
    · rename_i hover
      exact iff_of_true nofun hover
    · rename_i hfits
      exact iff_of_false (fun h => h rfl) hfits

/-- Over a sink that accepts the first octets up to a limit, and that may fail to be flushed, calls leave
    the front of what they add to a sink without a limit, and each of them returns an error exactly if its
    own octets go beyond the limit or the sink fails to be flushed at its end. All calls are made, also
    behind those that fail. Times that are shown look the same. -/
theorem limited_exact (style : Style) (hlines : style.format ≠ .junit) (limit : Nat) (flushFails : Bool)
    {calls calls' : List (Call × Duration)} (hcalls : SameCalls style.verbose calls calls') :
    let free := fresh style .unlimited
    let start := fresh style (.limited limit flushFails)
    let written := free.outputs calls
    (free.after calls).sink.content = written.flatten ∧
      (start.after calls').sink.content =
        written.flatten.take (min limit (written.map List.length).sum) ∧
      written.length = calls.length ∧ (start.trace calls').length = calls.length ∧
      ∀ (i : Nat) (call : Call) (elapsed : Duration), calls[i]? = some (call, elapsed) →
        ∃ own r v, written[i]? = some own ∧ (start.trace calls')[i]? = some (r, v) ∧
          CallCutOff style.format limit flushFails (written.take i).flatten own
            (start.after (calls'.take i)).sink call r v := by
  intro free start written
  have hopen : free.sink.NeverFails := Sink.unlimited_neverFails
  have htold : SameTold free start := ⟨rfl, rfl⟩
  have hheld : ∀ i, (start.after (calls'.take i)).sink.Holds limit flushFails
      (written.take i).flatten := by
    intro i
    rw [← outputs_take]
    exact after_holds (Sink.limited_holds limit flushFails) hopen htold rfl hlines rfl
      (List.forall₂_take i hcalls)
  refine ⟨content_after hopen hlines calls, ?_, length_outputs _ _, ?_, ?_⟩
  · have hall := after_holds (Sink.limited_holds limit flushFails) hopen htold rfl hlines rfl hcalls
    rw [List.nil_append] at hall
    rw [hall.content_eq, List.length_flatten]
  · rw [length_trace, hcalls.length_eq]
  · intro i call elapsed hcall
    obtain ⟨elapsed', hcall', htimes⟩ := hcalls.exists_getElem? hcall
    -- What the call has to write is what it adds where nothing fails.
    have hsame := (htold.after (List.forall₂_take i hcalls)).octets_eq
      ((after_style free _).trans (after_style start _).symm)
      (fun hverbose => htimes ((congrArg Style.verbose (after_style free _)).symm.trans hverbose)) call
    have hstyle := after_style start (calls'.take i)
    have hcut := callCutOff_of_holds (hheld i) (hstyle ▸ hlines) elapsed' call
    rw [hstyle] at hcut
    refine ⟨_, _, _, ?_, ?_, hcut⟩
    · rw [getElem?_outputs_of_neverFails hopen hlines, hcall, Option.map_some, hsame]
    · rw [getElem?_trace_eq, hcall', Option.map_some]

/-- A limit within the line of the counts, and a sink that fails to be flushed: a success that is not listed
    is recorded, and the report cannot be closed, now or later. -/
theorem limited_exact_withinCounts :
    let start := fresh ⟨.terse, false, true, "", ""⟩ (.limited 7 true)
    let calls := [(Call.record (.ran ⟨[0x61]⟩ .success .succeeded .zero), .zero), (.finish, .zero),
      (.interrupt 2, .zero), (.finish, .zero)]
    (start.after calls).sink.content = Utf8.encodeString "Summary" ∧
      ∃ r r', (start.trace calls)[0]? = some (r, .ok none) ∧
        (start.trace calls)[3]? = some (r', .error (.line .brokenPipe)) := by
  intro start calls
  have hcalls : SameCalls false calls calls := List.forall₂_same.mpr fun _ _ => ⟨rfl, fun _ => rfl⟩
  obtain ⟨-, hcontent, -, -, hevery⟩ := limited_exact ⟨.terse, false, true, "", ""⟩ nofun 7 true hcalls
  obtain ⟨_, r, v, -, hrecord, hcut⟩ := hevery 0 _ .zero rfl
  obtain ⟨-, rfl⟩ := hcut.quiet (.inr ⟨rfl, rfl⟩)
  obtain ⟨_, r', v', -, hclose, hcut'⟩ := hevery 3 _ .zero rfl
  obtain ⟨e, rfl⟩ := hcut'.failed_iff.mpr (.inr ⟨rfl, rfl⟩)
  obtain rfl := hcut'.error_eq e rfl
  exact ⟨hcontent.trans (by decide +kernel), r, r', hrecord, hclose⟩

end Reporter
end Conformance
