import Conformance.Proofs.Output
import Conformance.Proofs.TaskNumbers

/-!
# Colour as decoration

A colour sequence is the escape octet, `[`, digits and semicolons, and `m`. A report in colour and one
without are the same text once all such sequences are removed, in one pass from left to right. This holds
whatever the paths and the reasons are. They may hold such sequences, or the beginning of one at their
end: what is inserted begins with an escape octet, and no sequence goes across one.

- `Stripped`: what is left of octets without their sequences; `strip` computes it (`stripped_iff`).
- `strip_paintIf`: a line in colour, with its line feed, is the line without.
- `strip_append_of_endsLine`: the pass starts anew behind a line feed.
- `colour_is_decoration`: reports with and without colour, for any calls.
-/

namespace Conformance.Colour

/-! ## §1 Colour sequences -/

/-- Whether an octet may stand between the ends of a colour sequence: a digit or a semicolon. -/
def isParameter (b : UInt8) : Bool := (0x30 ≤ b && b ≤ 0x39) || b = 0x3B

/-- A colour sequence. -/
def IsSequence (s : Bytes) : Prop :=
  ∃ ps : Bytes, (∀ b ∈ ps, isParameter b = true) ∧ s = 0x1B :: 0x5B :: (ps ++ [0x6D])

/-- What is left of octets when the colour sequences in them are removed in one pass from left to right. -/
inductive Stripped : Bytes → Bytes → Prop where
  | nil : Stripped [] []
  /-- A sequence is removed where it begins. -/
  | sequence {s rest out : Bytes} (hs : IsSequence s) (h : Stripped rest out) :
      Stripped (s ++ rest) out
  /-- An octet stays if no sequence begins with it. -/
  | octet {b : UInt8} {rest out : Bytes} (hb : ∀ s, IsSequence s → ¬s <+: b :: rest)
      (h : Stripped rest out) : Stripped (b :: rest) (b :: out)

/-! ## §2 The pass -/

/-- What has been read of a colour sequence that may be under way. -/
inductive Place where
  /-- Nothing. -/
  | text
  /-- The escape octet. -/
  | escape
  /-- The beginning of a sequence with these parameters. -/
  | parameters (ps : Bytes)
  deriving DecidableEq, Repr

/-- The octets that have been read and are neither text nor removed yet. -/
def Place.pending : Place → Bytes
  | .text => []
  | .escape => [0x1B]
  | .parameters ps => 0x1B :: 0x5B :: ps

/-- The effect of an octet with which a sequence may begin, but none goes on. -/
def first (b : UInt8) : Bytes × Place := if b = 0x1B then ([], .escape) else ([b], .text)

/-- One octet: what turns out to be text, and the place behind the octet. -/
def step : Place → UInt8 → Bytes × Place
  | .text, b => first b
  | .escape, b =>
    if b = 0x5B then ([], .parameters []) else (0x1B :: (first b).1, (first b).2)
  | .parameters ps, b =>
    if isParameter b then ([], .parameters (ps ++ [b]))
    else if b = 0x6D then ([], .text)
    else (0x1B :: 0x5B :: (ps ++ (first b).1), (first b).2)

/-- What is left of octets from a place on. -/
def stripFrom : Place → Bytes → Bytes
  | place, [] => place.pending
  | place, b :: bs => (step place b).1 ++ stripFrom (step place b).2 bs

/-- Octets without the colour sequences in them. -/
def strip (bs : Bytes) : Bytes := stripFrom .text bs

variable {bs : Bytes} {b : UInt8}

/-- An escape octet goes on with no sequence. -/
theorem stripFrom_escape (place : Place) (bs : Bytes) :
    stripFrom place (0x1B :: bs) = place.pending ++ stripFrom .escape bs := by
  cases place with
  | text => rfl
  | escape => rfl
  | parameters ps =>
    have hstep : step (.parameters ps) 0x1B = (0x1B :: 0x5B :: (ps ++ []), .escape) := rfl
    rw [stripFrom, hstep, List.append_nil]
    rfl

/-- Whether an octet goes on with what has been read of a sequence. -/
def Place.goesOn : Place → UInt8 → Bool
  | .text, _ => false
  | .escape, b => b = 0x5B
  | .parameters _, b => isParameter b || b = 0x6D

/-- An octet that neither begins a sequence nor goes on with one is text, and so is what was pending. -/
theorem stripFrom_of_text {place : Place} (hescape : b ≠ 0x1B) (h : place.goesOn b = false)
    (bs : Bytes) : stripFrom place (b :: bs) = place.pending ++ b :: strip bs := by
  have hfirst : first b = ([b], .text) := if_neg hescape
  cases place with
  | text =>
    rw [stripFrom, step, hfirst]
    rfl
  | escape =>
    rw [stripFrom, step, if_neg (of_decide_eq_false h), hfirst]
    rfl
  | parameters ps =>
    obtain ⟨hparameter, hend⟩ := Bool.or_eq_false_iff.mp h
    rw [stripFrom, step, hparameter, if_neg Bool.false_ne_true, if_neg (of_decide_eq_false hend), hfirst]
    simp [Place.pending, strip]

theorem stripFrom_feed (place : Place) (bs : Bytes) :
    stripFrom place (0x0A :: bs) = place.pending ++ 0x0A :: strip bs := by
  refine stripFrom_of_text (by decide) ?_ bs
  cases place <;> rfl

theorem stripFrom_parameters {qs : Bytes} (hqs : ∀ b ∈ qs, isParameter b = true) (ps bs : Bytes) :
    stripFrom (.parameters ps) (qs ++ 0x6D :: bs) = strip bs := by
  induction qs generalizing ps with
  | nil => rfl
  | cons q qs ih =>
    obtain ⟨hq, hqs⟩ := List.forall_mem_cons.mp hqs
    rw [List.cons_append, stripFrom, step, if_pos hq]
    exact ih hqs _

/-- A sequence is removed wherever it stands, and what was pending before it is text. -/
theorem stripFrom_sequence {s : Bytes} (hs : IsSequence s) (place : Place) (bs : Bytes) :
    stripFrom place (s ++ bs) = place.pending ++ strip bs := by
  obtain ⟨ps, hps, rfl⟩ := hs
  have hopen : stripFrom .escape (0x5B :: (ps ++ [0x6D] ++ bs)) =
      stripFrom (.parameters []) (ps ++ 0x6D :: bs) := by
    rw [List.append_assoc]
    rfl
  rw [List.cons_append, List.cons_append, stripFrom_escape, hopen, stripFrom_parameters hps]

/-! ## §3 The pass removes the sequences -/

/-- What a sequence can have been read of. -/
def Place.Sound : Place → Prop
  | .text | .escape => True
  | .parameters ps => ∀ b ∈ ps, isParameter b = true

/-- If what was pending begins no sequence after all, it is text, and so the pass might as well have
    begun behind it. -/
theorem stripFrom_of_not_begins (place : Place) (hsound : place.Sound)
    (h : ∀ s, IsSequence s → ¬s <+: place.pending ++ bs) :
    stripFrom place bs = place.pending ++ strip bs := by
  induction bs generalizing place with
  | nil => exact (List.append_nil _).symm
  | cons b bs ih =>
    by_cases hescape : b = 0x1B
    · -- Here what is pending ends in any case, and a sequence may begin.
      subst hescape
      rw [stripFrom_escape]
      rfl
    have hplain : strip (b :: bs) = b :: strip bs := stripFrom_of_text hescape rfl bs
    cases place with
    | text => rfl
    | escape =>
      by_cases hopen : b = 0x5B
      · -- More is pending, but it is the same octets that begin no sequence.
        subst hopen
        rw [hplain]
        exact ih (.parameters []) (fun _ hb => absurd hb List.not_mem_nil) h
      · have hstop : Place.escape.goesOn b = false := decide_eq_false hopen
        rw [stripFrom_of_text hescape hstop, hplain]
    | parameters ps =>
      by_cases hparameter : isParameter b = true
      · have hnext := ih (.parameters (ps ++ [b]))
          (List.forall_mem_append.mpr ⟨hsound, by simpa using hparameter⟩)
          (by simpa [Place.pending] using h)
        rw [stripFrom, step, if_pos hparameter, hplain]
        simpa [Place.pending] using hnext
      · have hend : b ≠ 0x6D := by
          -- With this octet, what is pending would be a sequence.
          rintro rfl
          refine h _ ⟨ps, hsound, rfl⟩ ⟨bs, ?_⟩
          simp [Place.pending]
        have hmore : (Place.parameters ps).goesOn b = false :=
          Bool.or_eq_false_iff.mpr ⟨Bool.eq_false_iff.mpr hparameter, decide_eq_false hend⟩
        rw [stripFrom_of_text hescape hmore, hplain]

/-- What is left is what the pass computes. -/
theorem strip_of_stripped {out : Bytes} (h : Stripped bs out) : strip bs = out := by
  induction h with
  | nil => rfl
  | sequence hs _ ih => rw [strip, stripFrom_sequence hs, ih]; rfl
  | @octet b rest out hb _ ih =>
    by_cases hescape : b = 0x1B
    · -- The pass waits for a sequence that does not come.
      subst hescape
      have hpending := stripFrom_of_not_begins .escape trivial hb
      rw [← ih]
      exact hpending
    · rw [strip, stripFrom_of_text hescape rfl, ih]
      rfl

theorem IsSequence.length_pos {s : Bytes} (hs : IsSequence s) : 0 < s.length := by
  obtain ⟨ps, -, rfl⟩ := hs
  exact Nat.zero_lt_succ _

/-- Something is left of all octets, by induction on their number: at the front a sequence begins, or the
    first octet stays. -/
theorem exists_stripped (bs : Bytes) : ∃ out, Stripped bs out := by
  induction hn : bs.length using Nat.strongRecOn generalizing bs with
  | _ n ih =>
    cases bs with
    | nil => exact ⟨[], .nil⟩
    | cons b bs =>
      by_cases hbegins : ∃ s, IsSequence s ∧ s <+: b :: bs
      · obtain ⟨s, hs, rest, hrest⟩ := hbegins
        have hshorter : rest.length < n := by
          have hlength := congrArg List.length hrest
          have hpos := hs.length_pos
          rw [List.length_append] at hlength
          omega
        obtain ⟨out, hout⟩ := ih rest.length hshorter rest rfl
        exact ⟨out, hrest ▸ .sequence hs hout⟩
      · obtain ⟨out, hout⟩ := ih bs.length (hn ▸ Nat.lt_succ_self _) bs rfl
        exact ⟨b :: out, .octet (fun s hs hs' => hbegins ⟨s, hs, hs'⟩) hout⟩

/-- The pass removes the colour sequences from left to right, and nothing else. -/
theorem stripped_iff {out : Bytes} : Stripped bs out ↔ strip bs = out := by
  refine ⟨strip_of_stripped, ?_⟩
  rintro rfl
  obtain ⟨out, hout⟩ := exists_stripped bs
  rwa [strip_of_stripped hout]

/-- The beginning of a sequence stays, at the end of the text and in front of another sequence. -/
example : strip (Utf8.encodeString "\x1b[31ma\x1b[3\x1b[0mb\x1b[") =
    Utf8.encodeString "a\x1b[3b\x1b[" := by
  decide +kernel

/-! ## §4 Lines -/

/-- What follows makes the same difference whatever stands in front of it. -/
theorem stripFrom_append_congr {xs ys : Bytes}
    (h : ∀ place, stripFrom place xs = stripFrom place ys) (front : Bytes) (place : Place) :
    stripFrom place (front ++ xs) = stripFrom place (front ++ ys) := by
  induction front generalizing place with
  | nil => exact h place
  | cons b front ih => rw [List.cons_append, List.cons_append, stripFrom, stripFrom, ih]

theorem isSequence_set (c : Colour) : IsSequence (Utf8.encode c.set) := by
  cases c with
  | red => exact ⟨[0x33, 0x31], List.all_eq_true.mp (by decide), by decide +kernel⟩
  | green => exact ⟨[0x33, 0x32], List.all_eq_true.mp (by decide), by decide +kernel⟩
  | yellow => exact ⟨[0x33, 0x33], List.all_eq_true.mp (by decide), by decide +kernel⟩
  | blue => exact ⟨[0x33, 0x34], List.all_eq_true.mp (by decide), by decide +kernel⟩

theorem isSequence_reset : IsSequence (Utf8.encode reset) :=
  ⟨[0x30], List.all_eq_true.mp (by decide), by decide +kernel⟩

/-- Setting a colour again after every reset in a text makes no difference: where a reset stands, the
    pass removes it, and behind it the text goes on as if nothing had been inserted. -/
theorem stripFrom_resume (c : Colour) (text : List Char) (place : Place) (behind : Bytes) :
    stripFrom place (Utf8.encode (Masked.resume c.set text) ++ behind) =
      stripFrom place (Utf8.encode text ++ behind) := by
  fun_induction resumeOnto c.set [] text generalizing place with
  | case1 done rest ih =>
    -- The reset is removed on both sides, and so is the colour that is set behind it on one.
    have hreset : ∀ x : List Char, '\x1b' :: '[' :: '0' :: 'm' :: x = reset ++ x := fun _ => rfl
    rw [Masked.resume_reset, hreset, hreset, Utf8.encode_append, Utf8.encode_append,
      Utf8.encode_append, List.append_assoc, List.append_assoc, List.append_assoc,
      stripFrom_sequence isSequence_reset, stripFrom_sequence isSequence_reset, strip,
      stripFrom_sequence (isSequence_set c), strip, ih]
    rfl
  | case2 done char rest h ih =>
    -- Any other character is the same on both sides, wherever it takes the pass.
    have hcons : ∀ x : List Char,
        Utf8.encode (char :: x) ++ behind = Utf8.encodeChar char ++ (Utf8.encode x ++ behind) :=
      fun x => List.append_assoc _ _ _
    rw [Masked.resume_cons h, hcons, hcons]
    exact stripFrom_append_congr ih _ place
  | case3 done => rfl

/-- A reset in front of a line feed makes no difference. -/
theorem stripFrom_reset_feed (place : Place) :
    stripFrom place (Utf8.encode reset ++ [0x0A]) = stripFrom place [0x0A] := by
  rw [stripFrom_sequence isSequence_reset, stripFrom_feed]
  rfl

theorem encodeString_line (text : String) :
    Utf8.encodeString (text ++ "\n") = Utf8.encodeString text ++ [0x0A] := by
  have hfeed : Utf8.encodeString "\n" = [0x0A] := by decide +kernel
  rw [Utf8.encodeString_append, hfeed]

/-- A line in colour is the line without. -/
theorem strip_paintIf (wanted : Bool) (c : Colour) (text : String) :
    strip (Utf8.encodeString (c.paintIf wanted text ++ "\n")) =
      strip (Utf8.encodeString (text ++ "\n")) := by
  cases wanted with
  | false => rfl
  | true =>
    have hpaint : Utf8.encodeString (c.paintIf true text) =
        Utf8.encode c.set ++ (Utf8.encode (Masked.resume c.set text.toList) ++ Utf8.encode reset) := by
      simp [Utf8.encodeString, paintIf, paint, Utf8.encode_append, Masked.resume]
    rw [encodeString_line, encodeString_line, hpaint, List.append_assoc, strip,
      stripFrom_sequence (isSequence_set c), List.append_assoc, strip, stripFrom_resume]
    exact stripFrom_append_congr stripFrom_reset_feed _ _

/-- Whether octets are whole lines: none, or the last of them is a line feed. -/
def EndsLine (bs : Bytes) : Prop := bs = [] ∨ ∃ front, bs = front ++ [0x0A]

theorem EndsLine.append {xs ys : Bytes} (h : EndsLine xs) (h' : EndsLine ys) :
    EndsLine (xs ++ ys) := by
  rcases h' with rfl | ⟨front, rfl⟩
  · rwa [List.append_nil]
  · exact .inr ⟨xs ++ front, (List.append_assoc _ _ _).symm⟩

theorem endsLine_flatten {lines : List Bytes} (h : ∀ l ∈ lines, EndsLine l) :
    EndsLine lines.flatten := by
  induction lines with
  | nil => exact .inl rfl
  | cons l lines ih =>
    obtain ⟨hl, hlines⟩ := List.forall_mem_cons.mp h
    exact hl.append (ih hlines)

/-- Behind whole lines the pass starts anew. -/
theorem strip_append_of_endsLine (h : EndsLine bs) (behind : Bytes) :
    strip (bs ++ behind) = strip bs ++ strip behind := by
  rcases h with rfl | ⟨front, rfl⟩
  · rfl
  -- The place at the line feed may be any, so the induction is about all places.
  have hanew : ∀ place, stripFrom place (front ++ 0x0A :: behind) =
      stripFrom place (front ++ [0x0A]) ++ strip behind := by
    induction front with
    | nil =>
      intro place
      rw [List.nil_append, List.nil_append, stripFrom_feed, stripFrom_feed]
      simp [strip, stripFrom, Place.pending]
    | cons b front ih =>
      intro place
      rw [List.cons_append, List.cons_append, stripFrom, stripFrom, ih, List.append_assoc]
  rw [List.append_assoc]
  exact hanew .text

/-- Lines are stripped one by one. -/
theorem strip_flatten {lines : List Bytes} (h : ∀ l ∈ lines, EndsLine l) :
    strip lines.flatten = (lines.map strip).flatten := by
  induction lines with
  | nil => rfl
  | cons l lines ih =>
    obtain ⟨hl, hlines⟩ := List.forall_mem_cons.mp h
    rw [List.flatten_cons, strip_append_of_endsLine hl, ih hlines]
    rfl

end Conformance.Colour

/-! ## §5 Reports -/

namespace Conformance.Reporter

open Colour (strip EndsLine)

theorem endsLine_feed (text : String) : EndsLine (Utf8.encodeString (text ++ "\n")) :=
  .inr ⟨Utf8.encodeString text, Colour.encodeString_line text⟩

/-- Every text that a call has to write is a line, or nothing. -/
theorem endsLine_of_mem_texts {r : Reporter} {elapsed : Duration} {call : Call} {text : String}
    (h : text ∈ r.texts elapsed call) : EndsLine (Utf8.encodeString text) := by
  cases call with
  | record x =>
    obtain rfl := List.mem_singleton.mp h
    rcases record_cases r x with ⟨hline, -⟩ | ⟨hnothing, -⟩
    · rw [hline]
      exact endsLine_feed _
    · rw [hnothing]
      exact .inl rfl
  | interrupt notRun => exact absurd h List.not_mem_nil
  | finish =>
    simp only [texts, closing, List.mem_append] at h
    rcases h with (hleft | hcounts) | htime
    · split at hleft
      · obtain rfl := List.mem_singleton.mp hleft
        exact endsLine_feed _
      · exact absurd hleft List.not_mem_nil
    · obtain rfl := List.mem_singleton.mp hcounts
      exact endsLine_feed _
    · split at htime
      · obtain rfl := List.mem_singleton.mp htime
        exact endsLine_feed _
      · exact absurd htime List.not_mem_nil

theorem endsLine_of_mem_encoded {r : Reporter} {elapsed : Duration} {call : Call} :
    ∀ l ∈ (r.texts elapsed call).map Utf8.encodeString, EndsLine l := by
  intro l hl
  obtain ⟨text, htext, rfl⟩ := List.mem_map.mp hl
  exact endsLine_of_mem_texts htext

/-- What a call has to write is stripped text by text. -/
theorem strip_octets (r : Reporter) (elapsed : Duration) (call : Call) :
    strip (r.octets elapsed call) =
      (r.texts elapsed call).flatMap fun text => strip (Utf8.encodeString text) := by
  rw [octets, List.flatMap_def, Colour.strip_flatten endsLine_of_mem_encoded, List.map_map,
    List.flatMap_def]
  rfl

/-- What a call adds over a sink that never fails is whole lines. -/
theorem endsLine_of_mem_outputs {r : Reporter} (h : r.sink.NeverFails)
    (hlines : r.style.format ≠ .junit) {calls : List (Call × Duration)} :
    ∀ l ∈ r.outputs calls, EndsLine l := by
  intro l hl
  obtain ⟨i, hi⟩ := List.getElem?_of_mem hl
  rw [getElem?_outputs_of_neverFails h hlines] at hi
  obtain ⟨c, -, rfl⟩ := Option.map_eq_some_iff.mp hi
  rw [octets, List.flatMap_def]
  exact Colour.endsLine_flatten endsLine_of_mem_encoded

/-- What is written for a result does not depend on the colours otherwise. -/
theorem strip_recordText (style : Style) (wanted : Bool) (x : Result) :
    strip (Utf8.encodeString (recordText { style with coloured := wanted } x)) =
      strip (Utf8.encodeString (recordText { style with coloured := false } x)) := by
  have hline : strip (Utf8.encodeString (line { style with coloured := wanted } x)) =
      strip (Utf8.encodeString (line { style with coloured := false } x)) :=
    Colour.strip_paintIf wanted _ _
  cases style with
  | mk format verbose coloured suite timestamp =>
    cases format with
    | pretty => exact hline
    | junit => rfl
    | terse =>
      cases hpassed : x.passed with
      | true => simp only [recordText, hpassed, if_true]
      | false =>
        simp only [recordText, hpassed, Bool.false_eq_true, if_false]
        exact hline

/-- Of reporters that were told the same, whose styles differ in the colours alone, both have the same to
    write but for colour sequences. -/
theorem strip_octets_congr {style : Style} {wanted wanted' : Bool} {r r' : Reporter}
    (h : SameTold r r') (hstyle : r.style = { style with coloured := wanted })
    (hstyle' : r'.style = { style with coloured := wanted' }) {elapsed elapsed' : Duration}
    (htimes : style.verbose = true → elapsed.text = elapsed'.text) (call : Call) :
    strip (r.octets elapsed call) = strip (r'.octets elapsed' call) := by
  rw [strip_octets, strip_octets]
  cases call with
  | interrupt notRun => rfl
  | record x =>
    rw [texts, texts, hstyle, hstyle', List.flatMap_singleton, List.flatMap_singleton,
      strip_recordText style wanted, strip_recordText style wanted']
  | finish =>
    simp only [texts, closing, hstyle, hstyle', h.summary, h.notRun, List.flatMap_append]
    congr 1
    · congr 1
      split
      · rw [List.flatMap_singleton, List.flatMap_singleton, Colour.strip_paintIf, Colour.strip_paintIf]
      · rfl
    · cases hverbose : style.verbose with
      | false => rfl
      | true => rw [htimes hverbose]

/-- Over sinks that never fail, what each call adds in colour and without is the same once the colour
    sequences are removed from both, and so is all of what is added. All calls return the same, and the
    counts are the same after each of them. The style is the same otherwise, and times that are shown look
    the same. -/
theorem colour_is_decoration (style : Style) (hlines : style.format ≠ .junit) {sink sink' : Sink}
    (hsink : sink.NeverFails) (hsink' : sink'.NeverFails) {calls calls' : List (Call × Duration)}
    (hcalls : SameCalls style.verbose calls calls') :
    let coloured := fresh { style with coloured := true } sink
    let plain := fresh { style with coloured := false } sink'
    (coloured.outputs calls).length = calls.length ∧
      (coloured.outputs calls).map strip = (plain.outputs calls').map strip ∧
      strip (coloured.outputs calls).flatten = strip (plain.outputs calls').flatten ∧
      (coloured.trace calls).map (fun c => (c.2, c.1.summary)) =
        (plain.trace calls').map (fun c => (c.2, c.1.summary)) := by
  intro coloured plain
  -- Before each call the two reporters were told the same, so both write it but for colours.
  have heach : (coloured.outputs calls).map strip = (plain.outputs calls').map strip := by
    refine List.ext_getElem? fun i => ?_
    rw [List.getElem?_map, List.getElem?_map]
    cases hcall : calls[i]? with
    | none =>
      have hpast := List.getElem?_eq_none_iff.mp hcall
      have hpast' : calls'.length ≤ i := hcalls.length_eq ▸ hpast
      rw [← length_outputs coloured] at hpast
      rw [← length_outputs plain] at hpast'
      rw [List.getElem?_eq_none hpast, List.getElem?_eq_none hpast']
    | some c =>
      obtain ⟨r, r', elapsed', htold, hstyle, hstyle', htimes, hadded, hadded'⟩ :=
        exists_octets_side_by_side { style with coloured := true } { style with coloured := false }
          hlines hlines hsink hsink' hcalls hcall
      rw [hadded, hadded', Option.map_some, Option.map_some,
        strip_octets_congr htold hstyle hstyle' htimes]
  refine ⟨length_outputs _ _, heach, ?_, ?_⟩
  · rw [Colour.strip_flatten (endsLine_of_mem_outputs hsink hlines),
      Colour.strip_flatten (endsLine_of_mem_outputs hsink' hlines), heach]
  · have htold : SameTold coloured plain := ⟨rfl, rfl⟩
    exact answers_congr htold hsink hsink' hlines hlines hcalls

/-- Results whose errors end in the beginning of a colour sequence and hold a reset, and a report that is
    closed twice. -/
theorem colour_is_decoration_brokenSequences :
    let style : Style := ⟨.pretty, false, false, "", ""⟩
    let calls := [(Call.record (.errored ⟨[0x61]⟩ "\x1b[0m\x1b[3" .zero), .zero), (.finish, .zero),
      (.interrupt 1, .zero), (.record (.errored ⟨[0x1B, 0x5B]⟩ "\x1b[" .zero), .zero), (.finish, .zero)]
    let coloured := fresh { style with coloured := true } .unlimited
    let plain := fresh { style with coloured := false } .unlimited
    (coloured.outputs calls).map strip = (plain.outputs calls).map strip ∧
      strip (coloured.outputs calls).flatten = strip (plain.outputs calls).flatten := by
  intro style calls coloured plain
  have hcalls : SameCalls style.verbose calls calls :=
    List.forall₂_same.mpr fun _ _ => ⟨rfl, fun _ => rfl⟩
  obtain ⟨-, heach, hall, -⟩ := colour_is_decoration style nofun Sink.unlimited_neverFails
    Sink.unlimited_neverFails hcalls
  exact ⟨heach, hall⟩

end Conformance.Reporter
