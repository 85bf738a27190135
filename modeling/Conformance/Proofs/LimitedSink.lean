import Conformance.Proofs.Ending

/-!
# Sinks with a limit

A sink that accepts so many octets and no more. Over such a sink a report comes to what it comes to
over a sink without a limit, cut off at the limit, and what is handed to the reporter is cut off with
it: the first result whose own octets go beyond the limit is the last one.

- `Sink.Holds`: what such a sink holds of the octets that it was handed.
- `writesAll_iff`: results can be written as long as there is room for their octets.
- `finish_of_holds`: a report can be closed if there is room for what closes it.
- `cutOff_of_ending`: what is left of a report over such a sink.
-/

namespace Conformance

/-! ## §1 The sink -/

namespace Sink

/-- A sink that accepts the first `limit` octets of what is written to it. -/
def limited (limit : Nat) (flushFails : Bool) : Sink := fresh (.memory (some limit)) flushFails

/-- A sink with a limit that was handed the octets `all`, in some number of writes: it holds as much
    of them as it accepts. -/
structure Holds (s : Sink) (limit : Nat) (flushFails : Bool) (all : Bytes) : Prop where
  device : s.device = .memory (some limit)
  flushFails : s.flushFails = flushFails
  content : s.content = all.take limit
  size : s.size = min limit all.length

variable {s : Sink} {limit : Nat} {flushFails : Bool} {all : Bytes}

theorem limited_holds (limit : Nat) (flushFails : Bool) :
    (limited limit flushFails).Holds limit flushFails [] :=
  ⟨rfl, rfl, List.take_nil.symm, (Nat.min_zero limit).symm⟩

theorem Holds.content_eq (h : s.Holds limit flushFails all) :
    s.content = all.take (min limit all.length) := by
  rw [h.content, List.take_eq_take_min]

/-- Octets beyond the limit make no difference to what the sink holds. -/
theorem Holds.append_of_full (h : s.Holds limit flushFails all) (hfull : limit ≤ all.length)
    (more : Bytes) : s.Holds limit flushFails (all ++ more) := by
  refine ⟨h.device, h.flushFails, ?_, ?_⟩
  · rw [h.content, List.take_append_of_le_length hfull]
  · rw [h.size, List.length_append]
    omega

/-- A write adds to what the sink was handed. As long as nothing was cut off before, it fails exactly
    if it goes beyond the limit. -/
theorem write_of_holds (h : s.Holds limit flushFails all) (data : Bytes) :
    (s.write data).1.Holds limit flushFails (all ++ data) ∧
      (all.length ≤ limit → ((s.write data).2 = none ↔ (all ++ data).length ≤ limit)) := by
  have hroom : limit - s.size = limit - all.length := by
    rw [h.size]
    omega
  -- Whatever fits is accepted behind what the sink holds.
  have haccept : ∀ front : Bytes, front = data.take (limit - all.length) →
      (s.accept front).Holds limit flushFails (all ++ data) := by
    rintro front rfl
    refine ⟨h.device, h.flushFails, ?_, ?_⟩
    · rw [content_accept, h.content, List.take_append]
    · simp only [accept, h.size, List.length_take, List.length_append]
      omega
  simp only [write, h.device, hroom, List.length_append]
  split
  · rename_i hfits
    refine ⟨haccept data (List.take_of_length_le hfits).symm, fun hall => ?_⟩
    simp
    omega
  · rename_i hfits
    refine ⟨haccept _ rfl, fun hall => ?_⟩
    simp
    omega

end Sink

/-! ## §2 Results -/

namespace Reporter

variable {r : Reporter} {limit : Nat} {flushFails : Bool} {all : Bytes}

theorem put_of_holds (h : r.sink.Holds limit flushFails all) (text : String) :
    (r.put text).1.sink.Holds limit flushFails (all ++ Utf8.encodeString text) ∧
      (all.length ≤ limit →
        ((r.put text).2 = none ↔ (all ++ Utf8.encodeString text).length ≤ limit)) := by
  obtain ⟨hholds, hnone⟩ := Sink.write_of_holds h (Utf8.encodeString text)
  refine ⟨hholds, fun hall => ?_⟩
  rw [← hnone hall]
  simp [put, Sink.writeText]

/-- A result is written as a text is; if nothing is written for it, there is always room. -/
theorem record_of_holds (h : r.sink.Holds limit flushFails all) (x : Result) :
    (r.record x).1.sink.Holds limit flushFails
        (all ++ Utf8.encodeString (recordText r.style x)) ∧
      (all.length ≤ limit → ((r.record x).2 = none ↔
        (all ++ Utf8.encodeString (recordText r.style x)).length ≤ limit)) := by
  rcases record_cases r x with ⟨htext, hrecord⟩ | ⟨htext, kept, hrecord⟩
  · rw [hrecord, htext]
    exact put_of_holds (r := r.counted x) h _
  · have hnothing : all ++ Utf8.encodeString "" = all := List.append_nil all
    rw [hrecord, htext, hnothing]
    exact ⟨h, fun hall => iff_of_true rfl hall⟩

/-- What is written for results, one after the other. -/
def recordsOctets (style : Style) (xs : List Result) : Bytes :=
  xs.flatMap fun x => Utf8.encodeString (recordText style x)

theorem recordsOctets_cons (style : Style) (x : Result) (xs : List Result) :
    recordsOctets style (x :: xs) =
      Utf8.encodeString (recordText style x) ++ recordsOctets style xs := rfl

/-- More results come to no fewer octets. -/
theorem length_recordsOctets_mono (style : Style) {xs ys : List Result} (h : xs <+: ys) :
    (recordsOctets style xs).length ≤ (recordsOctets style ys).length := by
  obtain ⟨zs, rfl⟩ := h
  simp [recordsOctets]

theorem recordEach_holds (h : r.sink.Holds limit flushFails all) (xs : List Result) :
    (r.recordEach xs).sink.Holds limit flushFails (all ++ recordsOctets r.style xs) := by
  induction xs generalizing r all with
  | nil =>
    rw [recordsOctets, List.flatMap_nil, List.append_nil]
    exact h
  | cons x xs ih =>
    have hrest := ih (record_of_holds h x).1
    rw [(record_keeps r x).2.1, List.append_assoc] at hrest
    exact hrest

/-- Results can be written as long as there is room for their octets. -/
theorem writesAll_iff (h : r.sink.Holds limit flushFails all) (hall : all.length ≤ limit)
    (xs : List Result) :
    r.WritesAll xs ↔ (all ++ recordsOctets r.style xs).length ≤ limit := by
  induction xs generalizing r all with
  | nil => simpa [WritesAll, recordsOctets] using hall
  | cons x xs ih =>
    obtain ⟨hholds, hnone⟩ := record_of_holds h x
    have hstyle := (record_keeps r x).2.1
    rw [WritesAll, hnone hall, recordsOctets_cons, ← List.append_assoc]
    constructor
    · rintro ⟨hfirst, hrest⟩
      rwa [ih hholds hfirst, hstyle] at hrest
    · intro hroom
      -- There is room for the first of the results if there is room for all of them.
      have hfirst : (all ++ Utf8.encodeString (recordText r.style x)).length ≤ limit := by
        rw [List.length_append] at hroom
        omega
      refine ⟨hfirst, ?_⟩
      rwa [ih hholds hfirst, hstyle]

/-! ## §3 Closing the report -/

/-- Texts are written up to the first that goes beyond the limit, and what is left out would not have
    fitted either. -/
theorem putAll_of_holds (h : r.sink.Holds limit flushFails all) (hall : all.length ≤ limit)
    (texts : List String) :
    (r.putAll texts).1.sink.Holds limit flushFails (all ++ texts.flatMap Utf8.encodeString) ∧
      ((r.putAll texts).2 = none ↔
        (all ++ texts.flatMap Utf8.encodeString).length ≤ limit) := by
  induction texts generalizing r all with
  | nil =>
    rw [List.flatMap_nil, List.append_nil]
    exact ⟨h, iff_of_true rfl hall⟩
  | cons t ts ih =>
    obtain ⟨hholds, hnone⟩ := put_of_holds h t
    have hnone := hnone hall
    rw [List.flatMap_cons, ← List.append_assoc, putAll]
    split
    · rename_i r' hput
      rw [hput] at hholds hnone
      exact ih hholds (hnone.mp rfl)
    · rename_i r' e hput
      rw [hput] at hholds hnone
      have hover : limit < (all ++ Utf8.encodeString t).length := by
        refine Nat.lt_of_not_le fun hroom => ?_
        exact absurd (hnone.mpr hroom) (by simp)
      refine ⟨hholds.append_of_full (Nat.le_of_lt hover) _, iff_of_false (by simp) ?_⟩
      rw [List.length_append]
      omega

/-- A report can be closed if there is room for what closes it and the sink can be flushed. -/
theorem finish_of_holds (h : r.sink.Holds limit flushFails all) (hall : all.length ≤ limit)
    (hformat : r.style.format ≠ .junit) {elapsed : Duration} {r' : Reporter}
    {v : Except ReportError Summary} (closed : r.finish elapsed = (r', v)) :
    r'.sink.Holds limit flushFails (all ++ (r.closing elapsed).flatMap Utf8.encodeString) ∧
      ((∃ summary, v = .ok summary) ↔
        (all ++ (r.closing elapsed).flatMap Utf8.encodeString).length ≤ limit ∧
          flushFails = false) := by
  obtain ⟨hholds, hnone⟩ := putAll_of_holds h hall (r.closing elapsed)
  rw [finish_of_lines hformat rfl] at closed
  have hr : (r.putAll (r.closing elapsed)).1 = r' := by
    rw [← flushed_fst (r.putAll (r.closing elapsed)).1 (r.putAll (r.closing elapsed)).2, closed]
  rw [hr] at hholds closed
  refine ⟨hholds, ?_⟩
  rw [← hnone]
  cases hfailure : (r.putAll (r.closing elapsed)).2 with
  | some e =>
    rw [hfailure] at closed
    obtain rfl : Except.error e = v := congrArg Prod.snd closed
    simp
  | none =>
    rw [hfailure, flushed, Sink.flush, hholds.flushFails] at closed
    obtain rfl := congrArg Prod.snd closed
    cases flushFails <;> simp

end Reporter

/-! ## §4 What is left of a report -/

namespace Run

open Reporter (recordsOctets)

/-- The result at the place `k` is the first whose own octets go beyond the limit. -/
def Crosses (style : Style) (limit : Nat) (xs : List Result) (k : Nat) : Prop :=
  k < xs.length ∧ (recordsOctets style (xs.take k)).length ≤ limit ∧
    limit < (recordsOctets style (xs.take (k + 1))).length

/-- What is left, over a sink with a limit, of a report that has the octets `full` without one. The
    reporter is `r` after it was handed `recorded` of the results `xs`, and `v` was returned. -/
structure CutOff (style : Style) (limit : Nat) (flushFails : Bool) (xs : List Result) (full : Bytes)
    (recorded : List Result) (r : Reporter) (v : Except HarnessError Summary) : Prop where
  content : r.sink.content = full.take (min limit full.length)
  returned : v = .ok r.summary ↔ full.length ≤ limit ∧ flushFails = false
  failed : v ≠ .ok r.summary → ∃ e, v = .error (.report e)
  counted : r.summary = ⟨recorded.countP (·.passed), recorded.countP (!·.passed), false⟩
  /-- If the octets of a result go beyond the limit, that result is the last one that is handed over,
      and the reporter is left as it is then: nothing is written to close the report. -/
  crossed : ∀ k, Crosses style limit xs k →
    recorded = xs.take (k + 1) ∧
      r = (Reporter.fresh style (.limited limit flushFails)).recordEach recorded
  all : (∀ k, ¬Crosses style limit xs k) → recorded = xs

variable {style : Style} {limit : Nat} {flushFails : Bool} {xs recorded : List Result}
  {r r₀ : Reporter}

theorem Crosses.eq {k k' : Nat} (h : Crosses style limit xs k) (h' : Crosses style limit xs k') :
    k = k' := by
  -- All results up to the earlier of two such places are among those in front of the later one.
  have hle : ∀ {i j}, Crosses style limit xs i → Crosses style limit xs j → ¬i < j := by
    intro i j hi hj hlt
    have hfront : xs.take (i + 1) <+: xs.take j := List.take_prefix_take_left hlt
    have hmono := Reporter.length_recordsOctets_mono style hfront
    have hover := hi.2.2
    have hroom := hj.2.1
    omega
  have hlt := hle h h'
  have hgt := hle h' h
  omega

/-- A report that was given up on is cut off behind the result that could not be written. -/
theorem crosses_of_gaveUp {ys : List Result} {x : Result} (hfront : ys ++ [x] <+: xs)
    (hroom : (recordsOctets style ys).length ≤ limit)
    (hover : limit < (recordsOctets style (ys ++ [x])).length) :
    Crosses style limit xs ys.length ∧ xs.take (ys.length + 1) = ys ++ [x] := by
  obtain ⟨zs, rfl⟩ := hfront
  have htake : (ys ++ [x] ++ zs).take (ys.length + 1) = ys ++ [x] := by
    rw [List.take_append_of_le_length (by simp), List.take_of_length_le (by simp)]
  have hfront : (ys ++ [x] ++ zs).take ys.length = ys := by simp
  refine ⟨⟨by simp, ?_, ?_⟩, htake⟩
  · rwa [hfront]
  · rwa [htake]

/-- Without a limit, the sink holds the lines of all results and what closes the report. -/
theorem content_of_unlimited (hformat : style.format ≠ .junit) {elapsed : Duration}
    {v : Except ReportError Summary}
    (closed : ((Reporter.fresh style .unlimited).recordEach xs).finish elapsed = (r₀, v)) :
    r₀.sink.content = recordsOctets style xs ++
      (((Reporter.fresh style .unlimited).recordEach xs).closing elapsed).flatMap
        Utf8.encodeString := by
  have hopen : (Reporter.fresh style .unlimited).sink.NeverFails := Sink.unlimited_neverFails
  obtain ⟨sink, hok, hcontent⟩ :=
    Reporter.finish_of_neverFails (Reporter.recordEach_neverFails hopen xs) elapsed
  obtain ⟨rfl, -⟩ := Prod.mk.inj (closed.symm.trans hok)
  rw [Reporter.recordEach_style] at hcontent
  rw [hcontent hformat, Reporter.content_recordEach hopen]
  rfl

theorem writesAll_limited (style : Style) (limit : Nat) (flushFails : Bool) (xs : List Result) :
    (Reporter.fresh style (.limited limit flushFails)).WritesAll xs ↔
      (recordsOctets style xs).length ≤ limit :=
  Reporter.writesAll_iff (r := .fresh style _) (Sink.limited_holds limit flushFails)
    (Nat.zero_le limit) xs

theorem recordEach_limited_holds (style : Style) (limit : Nat) (flushFails : Bool)
    (xs : List Result) :
    ((Reporter.fresh style (.limited limit flushFails)).recordEach xs).sink.Holds limit flushFails
      (recordsOctets style xs) :=
  Reporter.recordEach_holds (r := .fresh style _) (Sink.limited_holds limit flushFails) xs

/-- A report that was given up on is cut off, whatever else it would have had. -/
theorem cutOff_of_gaveUp {ys : List Result} {x : Result} {e : ReportError}
    (hfront : recorded <+: xs) (last : recorded = ys ++ [x])
    (written : (Reporter.fresh style (.limited limit flushFails)).WritesAll ys)
    (failed : ((Reporter.fresh style (.limited limit flushFails)).recordEach ys).record x =
      (r, some e)) (more : Bytes) :
    CutOff style limit flushFails xs (recordsOctets style xs ++ more) recorded r
      (.error (.report e)) := by
  have hr : (Reporter.fresh style (.limited limit flushFails)).recordEach recorded = r := by
    rw [last, Reporter.recordEach_concat, failed]
  have hholds := recordEach_limited_holds style limit flushFails recorded
  rw [hr] at hholds
  -- The octets of the last result are those that go beyond the limit.
  have hover : limit < (recordsOctets style recorded).length := by
    refine Nat.lt_of_not_le fun hroom => ?_
    rw [← writesAll_limited style limit flushFails, last, Reporter.writesAll_concat, failed] at hroom
    exact absurd hroom.2 (by simp)
  have hroom := (writesAll_limited style limit flushFails ys).mp written
  obtain ⟨hcrosses, htake⟩ := crosses_of_gaveUp (last ▸ hfront) hroom (last ▸ hover)
  rw [← last] at htake
  refine ⟨?_, iff_of_false (fun hok => nomatch hok) ?_, fun _ => ⟨e, rfl⟩, ?_, ?_, ?_⟩
  -- The sink was handed the front of the whole report, and that is longer than the limit.
  · obtain ⟨zs, rfl⟩ := hfront
    rw [recordsOctets, List.flatMap_append, List.append_assoc]
    exact (hholds.append_of_full (Nat.le_of_lt hover) _).content_eq
  · rintro ⟨hroom, -⟩
    have hmore := Reporter.length_recordsOctets_mono style hfront
    rw [List.length_append] at hroom
    omega
  · rw [← hr, Reporter.recordEach_fresh_summary]
  · intro k hk
    rw [hk.eq hcrosses]
    exact ⟨htake.symm, hr.symm⟩
  · intro hnone
    exact absurd hcrosses (hnone _)

/-- A report that was closed after all results is cut off within what closes it, or not at all. -/
theorem cutOff_of_closed (hformat : style.format ≠ .junit)
    (written : (Reporter.fresh style (.limited limit flushFails)).WritesAll xs) {elapsed : Duration}
    {v : Except ReportError Summary}
    (closed : ((Reporter.fresh style (.limited limit flushFails)).recordEach xs).finish elapsed =
      (r, v)) :
    CutOff style limit flushFails xs
      (recordsOctets style xs ++
        (((Reporter.fresh style (.limited limit flushFails)).recordEach xs).closing elapsed).flatMap
          Utf8.encodeString)
      xs r (v.mapError .report) := by
  have hroom := (writesAll_limited style limit flushFails xs).mp written
  have hholds := recordEach_limited_holds style limit flushFails xs
  have hlines : ((Reporter.fresh style (.limited limit flushFails)).recordEach xs).style.format ≠
      .junit := by
    rw [Reporter.recordEach_style]
    exact hformat
  obtain ⟨hend, hok⟩ := Reporter.finish_of_holds hholds hroom hlines closed
  obtain ⟨⟨sink, hr⟩, hsummary⟩ := Reporter.finish_keeps closed
  refine ⟨hend.content_eq, ?_, ?_, ?_, ?_, fun _ => rfl⟩
  · rw [← hok]
    cases v with
    | error e =>
      refine iff_of_false (fun h => ?_) (fun ⟨_, h⟩ => ?_)
      · cases h
      · cases h
    | ok summary =>
      obtain rfl := hsummary summary rfl
      exact iff_of_true (by rw [hr]; rfl) ⟨_, rfl⟩
  · intro hfailed
    cases v with
    | error e => exact ⟨e, rfl⟩
    | ok summary =>
      obtain rfl := hsummary summary rfl
      exact absurd (by rw [hr]; rfl) hfailed
  · rw [hr]
    exact Reporter.recordEach_fresh_summary style _ xs
  -- No result goes beyond the limit if all of them together do not.
  · intro k hk
    have hmono := Reporter.length_recordsOctets_mono style (List.take_prefix (k + 1) xs)
    have hover := hk.2.2
    omega

/-- However a report over a sink with a limit ended that was not to stop early, it is the one over a
    sink without a limit, cut off. -/
theorem cutOff_of_ending {stop : Reporter → Prop} (hnever : ∀ r, ¬stop r)
    (hformat : style.format ≠ .junit) (hverbose : style.verbose = false)
    (hfront : recorded <+: xs) {v v₀ : Except ReportError Summary}
    (h : Ending stop (.fresh style (.limited limit flushFails)) xs.length recorded r v)
    {elapsed : Duration}
    (hfull : ((Reporter.fresh style .unlimited).recordEach xs).finish elapsed = (r₀, v₀)) :
    CutOff style limit flushFails xs r₀.sink.content recorded r (v.mapError .report) := by
  rw [content_of_unlimited hformat hfull]
  cases h with
  | gaveUp last written failed => exact cutOff_of_gaveUp hfront last written failed _
  | closed elapsed' written stopped closed =>
    -- It was not to stop early, so all results were recorded.
    have hall : recorded = xs := by
      refine hfront.eq_of_length_le (Nat.le_of_not_lt fun hlt => ?_)
      exact hnever _ (stopped hlt)
    subst hall
    rw [stoppedAt_all] at closed
    -- What closes the report is the same text: the counts are the same, and no time is shown.
    have hclosing : ((Reporter.fresh style (.limited limit flushFails)).recordEach recorded).closing
        elapsed' = ((Reporter.fresh style .unlimited).recordEach recorded).closing elapsed := by
      refine Reporter.closing_congr ?_ ?_ ?_ ?_ elapsed' elapsed
      · rw [Reporter.recordEach_style, Reporter.recordEach_style]
        rfl
      · rw [Reporter.recordEach_fresh_summary, Reporter.recordEach_fresh_summary]
      · rw [Reporter.recordEach_notRun, Reporter.recordEach_notRun]
        rfl
      · rw [Reporter.recordEach_style]
        exact hverbose
    rw [← hclosing]
    exact cutOff_of_closed hformat written closed

end Run
end Conformance
