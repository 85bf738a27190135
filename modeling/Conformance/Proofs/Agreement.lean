import Mathlib.Data.List.Forall2
import Conformance.Proofs.Recording
import Conformance.Proofs.TaskNumbers

/-!
# Results that agree

How long a fixture takes and which number its task gets differ from run to run. Everything else
about its result is the same, and so is everything that is reported of it where times are not
shown.

- `Result.Agrees`: results that are the same, durations and the numbers of tasks apart.
- `Run.agrees_of_delivered`: whatever two runs make of a fixture agrees.
- `Reporter.alike_of_agrees`: reporters that were handed results that agree close with the same
  counts, and hold the same text but for the numbers of tasks.
-/

namespace Conformance

/-! ## §1 Results -/

namespace Result

/-- Reasons that are the same but for the number of the task that panicked. -/
inductive SameReason : Option String → Option String → Prop where
  | refl (reason : Option String) : SameReason reason reason
  | panicked (n n' : Nat) (message : Option String) :
      SameReason (some (Run.panicReason n message)) (some (Run.panicReason n' message))

/-- Results that are the same, durations and the numbers of tasks apart. -/
structure Agrees (x y : Result) : Prop where
  fixture : x.fixture = y.fixture
  expectation : x.expectation = y.expectation
  outcome : x.outcome = y.outcome
  error : SameReason x.error y.error

variable {x y : Result}

theorem Agrees.passed_eq (h : x.Agrees y) : x.passed = y.passed := by
  unfold passed
  rw [h.expectation, h.outcome]

theorem Agrees.reason (h : x.Agrees y) : SameReason x.reason? y.reason? := by
  unfold reason?
  rw [h.expectation, h.outcome]
  -- An error is the reason itself, and without one the reason comes from what is the same.
  have herror := h.error
  generalize x.error = e at herror ⊢
  generalize y.error = e' at herror ⊢
  cases herror with
  | refl => exact .refl _
  | panicked n n' message => exact .panicked n n' message

end Result

/-! ## §2 What a run makes of a fixture -/

namespace Run

/-- Whether a result is one that a fixture can come to, in some time and as some task. -/
def Delivered (s : Setting) (f : Fixture) (x : Result) : Prop :=
  ∃ duration task, x = resultOf { s with elapsed := fun _ => duration } task f

/-- Only how long it took and the number in the message of a panic may differ. -/
theorem agrees_of_delivered {s : Setting} {f : Fixture} {x y : Result} (hx : Delivered s f x)
    (hy : Delivered s f y) : x.Agrees y := by
  obtain ⟨d, n, rfl⟩ := hx
  obtain ⟨d', n', rfl⟩ := hy
  -- Both runs read the same content and call the same executable.
  unfold resultOf
  cases s.host.read f.path with
  | error e => exact ⟨rfl, rfl, rfl, .refl _⟩
  | ok content =>
    cases s.executor.verdict f.path with
    | ended outcome => exact ⟨rfl, rfl, rfl, .refl _⟩
    | panicked message => exact ⟨rfl, rfl, rfl, .panicked n n' message⟩

theorem delivered_resultOf (s : Setting) (task : Nat) (f : Fixture) :
    Delivered s f (resultOf s task f) := ⟨s.elapsed f, task, rfl⟩

theorem delivered_resultsFrom (s : Setting) (task : Nat) (fs : List Fixture) :
    List.Forall₂ (Delivered s) fs (resultsFrom s task fs) := by
  induction fs generalizing task with
  | nil => exact .nil
  | cons f fs ih => exact .cons (delivered_resultOf s task f) (ih (task + 1))

theorem forall₂_agrees {s : Setting} {fs : List Fixture} {xs ys : List Result}
    (hx : List.Forall₂ (Delivered s) fs xs) (hy : List.Forall₂ (Delivered s) fs ys) :
    List.Forall₂ Result.Agrees xs ys := by
  induction hx generalizing ys with
  | nil =>
    cases hy
    exact .nil
  | cons hx _ ih =>
    cases hy with
    | cons hy hys => exact .cons (agrees_of_delivered hx hy) (ih hys)

end Run

/-! ## §3 Their lines -/

namespace Reporter

open Masked (SameButTasks)

variable {x y : Result}

theorem plainLine_sameButTasks (h : x.Agrees y) :
    SameButTasks (plainLine false x).toList (plainLine false y).toList := by
  unfold plainLine Fixture.display
  rw [h.passed_eq, h.fixture]
  have hreason := h.reason
  generalize x.reason? = reason at hreason ⊢
  generalize y.reason? = reason' at hreason ⊢
  cases hreason with
  | refl => exact .refl _
  | panicked n n' message =>
    simp only [String.toList_append]
    exact (((((Masked.sameButTasks_panicReason n n' message).prepend _).append (.refl _)).prepend
      _).append (.refl _))

theorem line_sameButTasks {style : Style} (hverbose : style.verbose = false) (h : x.Agrees y) :
    SameButTasks (line style x).toList (line style y).toList := by
  unfold line
  rw [h.passed_eq, hverbose, String.toList_append, String.toList_append]
  exact ((plainLine_sameButTasks h).paintIf _ _).append (.refl _)

theorem recordText_sameButTasks {style : Style} (hverbose : style.verbose = false)
    (h : x.Agrees y) : SameButTasks (recordText style x).toList (recordText style y).toList := by
  unfold recordText
  rw [h.passed_eq]
  cases style.format with
  | pretty => exact line_sameButTasks hverbose h
  | terse =>
    cases y.passed with
    | true => exact .refl _
    | false => exact line_sameButTasks hverbose h
  | junit => exact .refl _

/-! ## §4 Their reports -/

/-- What is written for results, one after the other. -/
def recordsText (style : Style) (xs : List Result) : List Char :=
  xs.flatMap fun x => (recordText style x).toList

theorem content_recordEach_eq_encode {r : Reporter} (h : r.sink.NeverFails) (xs : List Result) :
    (r.recordEach xs).sink.content =
      r.sink.content ++ Utf8.encode (recordsText r.style xs) := by
  rw [content_recordEach h, recordsText, Utf8.encode, List.flatMap_assoc]
  rfl

theorem recordsText_sameButTasks {style : Style} (hverbose : style.verbose = false)
    {xs ys : List Result} (h : List.Forall₂ Result.Agrees xs ys) :
    SameButTasks (recordsText style xs) (recordsText style ys) := by
  induction h with
  | nil => exact .refl _
  | cons hx _ ih => exact (recordText_sameButTasks hverbose hx).append ih

/-- Results that agree are counted alike. -/
theorem summary_of_agrees (r : Reporter) {xs ys : List Result}
    (h : List.Forall₂ Result.Agrees xs ys) :
    (r.recordEach xs).summary = (r.recordEach ys).summary := by
  have hpassed : xs.map (·.passed) = ys.map (·.passed) := by
    induction h with
    | nil => rfl
    | cons hx _ ih => rw [List.map_cons, List.map_cons, hx.passed_eq, ih]
  have hcount : ∀ (p : Bool → Bool), xs.countP (p ·.passed) = ys.countP (p ·.passed) := by
    intro p
    have hmap := congrArg (List.countP p) hpassed
    rwa [List.countP_map, List.countP_map] at hmap
  have hsuccesses : xs.countP (·.passed) = ys.countP (·.passed) := hcount id
  rw [recordEach_summary, recordEach_summary, hsuccesses, hcount (!·)]

/-- Reporters that have written the same text behind what stood in their sinks before, the numbers
    of panicked tasks apart. -/
def WritesAlike (before : Bytes) (r r' : Reporter) : Prop :=
  ∃ text text', r.sink.content = before ++ Utf8.encode text ∧
    r'.sink.content = before ++ Utf8.encode text' ∧
    Masked.maskTasks text = Masked.maskTasks text'

/-- Closing the report after results that agree gives the same counts. Where times are not shown,
    the sink then holds the same text, the numbers of panicked tasks apart. -/
theorem alike_of_agrees {r rx ry : Reporter} (hsink : r.sink.NeverFails) {xs ys : List Result}
    (h : List.Forall₂ Result.Agrees xs ys) {elapsed elapsed' : Duration}
    {vx vy : Except ReportError Summary} (hx : (r.recordEach xs).finish elapsed = (rx, vx))
    (hy : (r.recordEach ys).finish elapsed' = (ry, vy)) :
    vx = vy ∧ (r.style.verbose = false → r.style.format ≠ .junit →
      WritesAlike r.sink.content rx ry) := by
  obtain ⟨sinkx, hokx, hcontentx⟩ := finish_of_neverFails (recordEach_neverFails hsink xs) elapsed
  obtain ⟨sinky, hoky, hcontenty⟩ := finish_of_neverFails (recordEach_neverFails hsink ys) elapsed'
  obtain ⟨rfl, rfl⟩ := Prod.mk.inj (hx.symm.trans hokx)
  obtain ⟨rfl, rfl⟩ := Prod.mk.inj (hy.symm.trans hoky)
  refine ⟨congrArg _ (summary_of_agrees r h), fun hverbose hformat => ?_⟩
  -- What closes the report is the same text: the counts are the same, and no time is shown.
  rw [recordEach_style] at hcontentx hcontenty
  have hclosing : (r.recordEach xs).closing elapsed = (r.recordEach ys).closing elapsed' := by
    refine closing_congr ?_ (summary_of_agrees r h) ?_ ?_ elapsed elapsed'
    · rw [recordEach_style, recordEach_style]
    · rw [recordEach_notRun, recordEach_notRun]
    · rw [recordEach_style]
      exact hverbose
  let closed := ((r.recordEach ys).closing elapsed').flatMap (·.toList)
  have hencode : ((r.recordEach ys).closing elapsed').flatMap Utf8.encodeString =
      Utf8.encode closed := by
    rw [Utf8.encode, List.flatMap_assoc]
    rfl
  refine ⟨recordsText r.style xs ++ closed, recordsText r.style ys ++ closed, ?_, ?_, ?_⟩
  · rw [hcontentx hformat, hclosing, hencode, content_recordEach_eq_encode hsink,
      Utf8.encode_append, List.append_assoc]
  · rw [hcontenty hformat, hencode, content_recordEach_eq_encode hsink, Utf8.encode_append,
      List.append_assoc]
  · exact ((recordsText_sameButTasks hverbose h).append (.refl closed)).mask_eq

end Reporter
end Conformance
