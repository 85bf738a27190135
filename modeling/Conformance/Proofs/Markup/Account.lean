import Conformance.Proofs.Encoding
import Conformance.Proofs.Ending
import Conformance.Proofs.Markup.Writing
import Conformance.Proofs.Reasons

/-!
# What a document tells

The document of a report, read back. A reader that knows nothing of the report finds in it the name of
the suite, the counts, and a case for every result that was recorded, in their order, with the text that
shows its fixture and the reason to fail, if it has one. This holds of all texts, also of those that look
like entities, like the end of a value or like a tag.

- `account?`: what an element tells, by the names of its parts and attributes.
- `toList_render_suite`: the suite of a document is written as an element.
- `account?_root`: what the element of a suite tells.
- `document_loses_nothing`: what is told by the octets that close a report.
-/

namespace Conformance

/-- What a document tells: the name of its suite, what it counts, and its cases, each with its name and
    the reason to fail, if it has one. -/
structure Account where
  suite : String
  tests : Nat
  failures : Nat
  errors : Nat
  cases : List (String × Option String)
  deriving DecidableEq, Repr

/-! ## §1 Reading -/

namespace Markup

/-- The number that a text stands for, which is of decimal digits. -/
def number? (text : String) : Option Nat :=
  if !text.isEmpty && text.toList.all Char.isDigit then some (Nat.ofDigitChars 10 text.toList 0)
  else none

/-- A number is read from the digits that it is written with. -/
theorem number?_toString (n : Nat) : number? (toString n) = some n := by
  have htext : toString n = Nat.repr n := rfl
  have hdigits : (Nat.toDigits 10 n).all Char.isDigit = true := by
    rw [List.all_eq_true]
    exact fun c hc => Nat.isDigit_of_mem_toDigits (by decide) (by decide) hc
  have hvalue : Nat.ofDigitChars 10 (Nat.toDigits 10 n) 0 = n :=
    Nat.ofDigitChars_toDigits (by decide) (by decide)
  have hne : (Nat.repr n).isEmpty = false := by
    cases hempty : (Nat.repr n).isEmpty with
    | false => rfl
    | true =>
      have hnil : (Nat.repr n).toList = [] := by
        rw [String.isEmpty_iff.mp hempty]
        rfl
      rw [Nat.toList_repr] at hnil
      exact absurd hnil Nat.toDigits_ne_nil
  simp only [number?, htext, hne, Nat.toList_repr, hdigits, hvalue, Bool.not_false, Bool.and_self,
    if_true]

namespace Element

/-- The case that an element tells of. It has one failure at most. -/
def case? (e : Element) : Option (String × Option String) :=
  match e.childrenNamed "failure" with
  | [] => (e.value? "name").map fun name => (name, none)
  | [failure] => do
    let name ← e.value? "name"
    let reason ← failure.value? "message"
    pure (name, some reason)
  | _ => none

/-- What an element tells that holds one suite. -/
def account? (e : Element) : Option Account :=
  match e.childrenNamed "testsuite" with
  | [s] => do
    let suite ← s.value? "name"
    let tests ← (s.value? "tests").bind number?
    let failures ← (s.value? "failures").bind number?
    let errors ← (s.value? "errors").bind number?
    let cases ← (s.childrenNamed "testcase").mapM case?
    pure ⟨suite, tests, failures, errors, cases⟩
  | _ => none

end Element
end Markup

/-! ## §2 The elements of a suite -/

open Markup (Element)

namespace Junit

/-- The element of a case. -/
def Case.element (c : Case) : Element :=
  .node "testcase" [("name", c.name), ("time", seconds c.time)]
    (match c.failure with
    | none => []
    | some reason => [.node "failure" [("type", "fixture failure"), ("message", reason)] []])

/-- The element of a suite. -/
def Suite.element (s : Suite) : Element :=
  .node "testsuite"
    [("id", "0"), ("name", s.name), ("package", "testsuite/" ++ s.name),
      ("tests", toString s.cases.length), ("errors", "0"),
      ("failures", toString (s.cases.countP (·.failure.isSome))), ("hostname", "localhost"),
      ("timestamp", s.timestamp), ("time", seconds s.time)]
    (s.cases.map Case.element)

/-- The element of a document. -/
def Suite.root (s : Suite) : Element := .node "testsuites" [] [s.element]

/-- A case is written as its element. -/
theorem toList_render_case (c : Case) : c.render.toList = c.element.write := by
  cases hfailure : c.failure with
  | none =>
    simp [Case.render, Case.element, hfailure, Element.write_leaf, Markup.Tag.write,
      Markup.writeAttributes]
  | some reason =>
    simp [Case.render, Case.element, hfailure, Element.write_node, Element.write_leaf,
      Markup.Tag.write, Markup.writeAttributes]

/-- A suite is written as its element. -/
theorem toList_render_suite (s : Suite) : s.render.toList = s.element.write := by
  have hfailures : (s.cases.filter (·.failure.isSome)).length =
      s.cases.countP (·.failure.isSome) := List.countP_eq_length_filter.symm
  cases hs : s.cases with
  | nil =>
    simp [Suite.render, Suite.element, hs, Element.write_leaf, Markup.Tag.write,
      Markup.writeAttributes]
  | cons c cs =>
    have hcases : (String.join (s.cases.map Case.render)).toList =
        (s.cases.map Case.element).flatMap Element.write := by
      simp only [String.toList_join, List.flatMap_map, toList_render_case]
    have hne : s.cases.map Case.element ≠ [] := by simp [hs]
    have hfull : s.cases.isEmpty = false := by simp [hs]
    rw [Suite.element, Element.write_node _ _ hne, ← hcases, ← hfailures]
    simp [Suite.render, hfull, Markup.Tag.write, Markup.writeAttributes]

/-- A document is its note and the element of its suite. -/
theorem toList_document (s : Suite) : (document s).toList = Markup.prolog ++ s.root.write := by
  have hroot : s.root.write =
      "<testsuites>".toList ++ (s.render.toList ++ "</testsuites>".toList) := by
    simp [Suite.root, Element.write_node, Markup.Tag.write, Markup.writeAttributes,
      toList_render_suite]
  have hnote : "<?xml version=\"1.0\" encoding=\"utf-8\"?><testsuites>".toList =
      Markup.prolog ++ "<testsuites>".toList := rfl
  have htexts : ∀ a b c : String, (a ++ b ++ c).toList = a.toList ++ b.toList ++ c.toList := by
    simp
  have hassoc : ∀ a b c d : List Char, a ++ b ++ c ++ d = a ++ (b ++ (c ++ d)) := by simp
  calc (document s).toList
      = "<?xml version=\"1.0\" encoding=\"utf-8\"?><testsuites>".toList ++ s.render.toList ++
          "</testsuites>".toList := htexts _ _ _
    _ = Markup.prolog ++ "<testsuites>".toList ++ s.render.toList ++ "</testsuites>".toList :=
        congrArg (· ++ s.render.toList ++ "</testsuites>".toList) hnote
    _ = Markup.prolog ++ s.root.write := by
        rw [hroot]
        exact hassoc _ _ _ _

/-- The octets of a document with a line feed behind it. -/
theorem encodeString_document (s : Suite) :
    Utf8.encodeString (document s) ++ Utf8.encodeString "\n" =
      Utf8.encode (Markup.prolog ++ (s.root.write ++ ['\n'])) := by
  rw [Utf8.encodeString, toList_document, ← List.append_assoc]
  exact List.flatMap_append.symm

/-- All the names in a document are names. -/
theorem isProper_root (s : Suite) : s.root.isProper = true := by
  have hcase : ∀ c : Case, c.element.isProper = true := by
    intro c
    cases hfailure : c.failure <;>
      simp [Case.element, hfailure, Element.isProper_node, Markup.isName, Markup.isNameChar]
  have hcases : (s.cases.map Case.element).all Element.isProper = true := by
    rw [List.all_map, List.all_eq_true]
    exact fun c _ => hcase c
  have hsuite : s.element.isProper = true := by
    rw [Suite.element, Element.isProper_node, hcases]
    simp [Markup.isName, Markup.isNameChar]
  simp [Suite.root, Element.isProper_node, hsuite, Markup.isName, Markup.isNameChar]

/-! ## §3 What they tell -/

theorem case?_element (c : Case) : c.element.case? = some (c.name, c.failure) := by
  cases hfailure : c.failure with
  | none =>
    simp [Case.element, hfailure, Element.case?, Element.childrenNamed, Element.value?]
  | some reason =>
    simp [Case.element, hfailure, Element.case?, Element.childrenNamed, Element.name,
      Element.value?]

/-- What is told of a suite is its name, how many cases it has and how many of them have a failure, no
    error, and the cases in their order. -/
theorem account?_root (s : Suite) :
    s.root.account? =
      some ⟨s.name, s.cases.length, s.cases.countP (·.failure.isSome), 0,
        s.cases.map fun c => (c.name, c.failure)⟩ := by
  have hsuite : s.root.childrenNamed "testsuite" = [s.element] := by
    simp [Suite.root, Suite.element, Element.childrenNamed, Element.name]
  have htests : s.element.value? "tests" = some (toString s.cases.length) := by
    simp [Suite.element, Element.value?]
  have hfailures : s.element.value? "failures" =
      some (toString (s.cases.countP (·.failure.isSome))) := by
    simp [Suite.element, Element.value?]
  have herrors : s.element.value? "errors" = some (toString 0) := by
    have hzero : toString 0 = "0" := by decide
    simp [Suite.element, Element.value?, hzero]
  have hname : s.element.value? "name" = some s.name := by
    simp [Suite.element, Element.value?]
  have hchildren : s.element.childrenNamed "testcase" = s.cases.map Case.element := by
    have hnames : ∀ e ∈ s.cases.map Case.element, decide (e.name = "testcase") = true := by
      intro e he
      obtain ⟨c, -, rfl⟩ := List.mem_map.mp he
      rfl
    exact List.filter_eq_self.mpr hnames
  have hcases : (s.cases.map Case.element).mapM Element.case? =
      some (s.cases.map fun c => (c.name, c.failure)) := by
    have heach : Element.case? ∘ Case.element = fun c => pure (c.name, c.failure) :=
      funext case?_element
    rw [List.mapM_map, heach, List.mapM_pure]
    rfl
  simp only [Element.account?, hsuite, hname, htests, hfailures, herrors, hchildren, hcases,
    Option.bind_some, Markup.number?_toString]
  rfl

end Junit

/-! ## §4 Closing a report -/

namespace Reporter

/-- Results that are kept for a document can all be recorded, and nothing is written for them. -/
theorem writesAll_of_junit {r : Reporter} (hformat : r.style.format = .junit) (xs : List Result) :
    r.WritesAll xs ∧ (r.recordEach xs).sink = r.sink := by
  induction xs generalizing r with
  | nil => exact ⟨trivial, rfl⟩
  | cons x xs ih =>
    have hformat' : (r.record x).1.style.format = .junit := by
      rw [(record_keeps r x).2.1]
      exact hformat
    obtain ⟨hall, hsink⟩ := ih hformat'
    rw [recordEach_cons, hsink, WritesAll]
    refine ⟨⟨?_, hall⟩, ?_⟩
    · rw [record_of_junit hformat]
    · rw [record_of_junit hformat]
      rfl

end Reporter

/-- Whatever results are recorded, whatever texts they carry and whatever the name of the suite is, over
    a sink that never fails the report can be closed, and nothing is lost in the document that closes
    it. It tells the name of the suite, how many results there are and how many of them have a reason,
    no error, and for every result, in the order in which they were recorded, the text that shows its
    fixture and its reason, if it has one. -/
theorem document_loses_nothing {style : Style} {sink : Sink} (hformat : style.format = .junit)
    (hsink : sink.NeverFails) (xs : List Result) (elapsed : Duration) :
    let start := Reporter.fresh style sink
    let closed := (start.recordEach xs).finish elapsed
    start.WritesAll xs ∧
      closed.2 = .ok ⟨xs.countP (·.passed), xs.countP (!·.passed), false⟩ ∧
      ∃ text, closed.1.sink.content = sink.content ++ Utf8.encode text ∧
        (Markup.read text).bind Markup.Element.account? =
          some ⟨style.suite, xs.length, xs.countP (·.reason?.isSome), 0,
            xs.map fun x => (x.fixture.display, x.reason?)⟩ := by
  intro start closed
  have hopen : (start.recordEach xs).sink.NeverFails :=
    Reporter.recordEach_neverFails (r := start) hsink xs
  have hstyle : (start.recordEach xs).style.format = .junit := by
    rw [Reporter.recordEach_style]
    exact hformat
  have hsuite := Reporter.suite_recordEach hformat sink xs
  obtain ⟨hall, hquiet⟩ := Reporter.writesAll_of_junit (r := start) hformat xs
  have hcontent := Reporter.content_finish_document hopen hstyle elapsed
  obtain ⟨_, hok, -⟩ := Reporter.finish_of_neverFails hopen elapsed
  refine ⟨hall, ?_, Markup.prolog ++ ((start.recordEach xs).suite.root.write ++ ['\n']), ?_, ?_⟩
  · rw [← Reporter.recordEach_fresh_summary style sink xs]
    exact congrArg Prod.snd hok
  · rw [hquiet, Junit.encodeString_document] at hcontent
    exact hcontent
  · rw [Markup.read_write (Junit.isProper_root _), Option.bind_some, Junit.account?_root, hsuite]
    simp [Junit.Case.ofResult, Function.comp_def]

/-- A fixture that could not be read and has quotes, brackets and an ampersand in its path, and one that
    passed, in a suite whose name looks like an entity and a tag. -/
theorem document_loses_nothing_quotes :
    let results := [Result.errored ⟨"a\"<b>&".toUTF8.toList⟩ "&lt;</failure>'" .zero,
      .ran ⟨[0x63]⟩ .success .succeeded .zero]
    ∃ text, (((Reporter.fresh ⟨.junit, false, false, "&amp;<x y=\"", ""⟩ .unlimited).recordEach
        results).finish .zero).1.sink.content = Utf8.encode text ∧
      (Markup.read text).bind Markup.Element.account? =
        some ⟨"&amp;<x y=\"", 2, 1, 0,
          [("a\"<b>&", some "&lt;</failure>'"), ("c", none)]⟩ := by
  intro results
  have hformat : (Style.mk .junit false false "&amp;<x y=\"" "").format = .junit := rfl
  obtain ⟨-, -, text, hcontent, htold⟩ :=
    document_loses_nothing hformat Sink.unlimited_neverFails results .zero
  refine ⟨text, hcontent, htold.trans ?_⟩
  decide +kernel

end Conformance
