import Conformance.Proofs.FirstLine
import Conformance.Proofs.Stopping

/-!
# Verdicts

What a run that is not stopped comes to: every selected fixture gets one result, in the order of
discovery, and it passes exactly if the fixture could be read, the executable ended on it, and it
ended badly exactly if the marker stands in the first line of the fixture.

`passes` says this for one fixture, without results, summaries and reports. `run_verdicts` holds a
whole run against it.
-/

namespace Conformance.Run

/-! ## §1 When a fixture passes -/

/-- The first line of a content, as far as it is looked at. -/
def firstLine (content : Bytes) : List Char :=
  Line.first (Utf8.decode (content.take Marker.readLimit))

/-- Whether the marker of a configuration stands in the first line of a content. -/
def isMarked (c : Config) (content : Bytes) : Bool :=
  match markerOf c with
  | .ok m => m.pattern.occursIn (firstLine content)
  | .error _ => false

/-- Whether a fixture passes: it can be read, the executable ends on it, and it ends badly exactly if
    the fixture is marked. -/
def passes (host : Host) (executor : Executor) (c : Config) (f : Fixture) : Bool :=
  match host.read f.path, executor.verdict f.path with
  | .ok content, .ended outcome => isMarked c content == (outcome == .failed)
  | _, _ => false

/-! ## §2 The result of one fixture -/

theorem resultOf_fixture (s : Setting) (task : Nat) (f : Fixture) :
    (resultOf s task f).fixture = f := by
  unfold resultOf
  split
  · rfl
  · split <;> rfl

theorem isMetBy_inspect {c : Config} {m : Marker} (hmarker : markerOf c = .ok m) (content : Bytes)
    (outcome : Outcome) :
    (m.inspect content).isMetBy outcome = (isMarked c content == (outcome == .failed)) := by
  rw [m.inspect_eq_classify_take, Marker.classify, isMarked, hmarker]
  simp only [firstLine]
  cases m.pattern.occursIn _ <;> cases outcome <;> rfl

theorem resultOf_passed {c : Config} {s : Setting} (hmarker : markerOf c = .ok s.marker)
    (task : Nat) (f : Fixture) :
    (resultOf s task f).passed = passes s.host s.executor c f := by
  unfold resultOf passes
  cases s.host.read f.path with
  | error e => rfl
  | ok content =>
    cases s.executor.verdict f.path with
    | panicked message => rfl
    | ended outcome => exact isMetBy_inspect hmarker content outcome

/-! ## §3 The results of all fixtures -/

theorem resultsFrom_fixture (s : Setting) (task : Nat) (fs : List Fixture) :
    (resultsFrom s task fs).map (·.fixture) = fs := by
  induction fs generalizing task with
  | nil => rfl
  | cons f fs ih => rw [resultsFrom, List.map_cons, ih, resultOf_fixture]

theorem passed_of_mem_resultsFrom {c : Config} {s : Setting} (hmarker : markerOf c = .ok s.marker)
    {task : Nat} {fs : List Fixture} {x : Result} (hx : x ∈ resultsFrom s task fs) :
    x.passed = passes s.host s.executor c x.fixture := by
  induction fs generalizing task with
  | nil => exact absurd hx List.not_mem_nil
  | cons f fs ih =>
    rcases List.mem_cons.mp hx with rfl | hx
    · rw [resultOf_passed hmarker, resultOf_fixture]
    · exact ih hx

/-- Results that pass as their fixtures do are counted as the fixtures are. -/
theorem countP_passed {xs : List Result} {p : Fixture → Bool}
    (h : ∀ x ∈ xs, x.passed = p x.fixture) :
    xs.countP (·.passed) = (xs.map (·.fixture)).countP p ∧
      xs.countP (!·.passed) = (xs.map (·.fixture)).countP (!p ·) := by
  rw [List.countP_map, List.countP_map]
  constructor
  · exact List.countP_congr fun x hx => by rw [h x hx]; rfl
  · exact List.countP_congr fun x hx => by rw [h x hx]; rfl

/-- The exit status of a run that came to its end never hides a failure, however many there are. -/
theorem exitCode_eq_zero (successes failures : Nat) :
    (Summary.mk successes failures false).exitCode = 0 ↔ failures = 0 := by
  simp [Summary.exitCode]

/-! ## §4 A run that is not stopped -/

theorem selected_of_list {host : Host} {c : Config} {entries : List DirEntry}
    (hlist : host.list c.fixturesDir = .ok entries) :
    selected host c =
      .ok (Discovery.select c.filter (Discovery.fixturesOf c.fixturesDir c.extension entries)) := by
  rw [selected, Discovery.discover, hlist]

/-- Over a sink that never fails, a run that is not stopped records all results, and returns what
    closing the report gives. -/
theorem run_of_neverFails {s : Setting} {c : Config} {jobs : Nat} {r : Reporter}
    {fixtures : List Fixture} (hselected : selected s.host c = .ok fixtures)
    (hjobs : jobs ≤ permitLimit) (h : r.sink.NeverFails) (elapsed : Duration) :
    ∃ r' summary,
      (r.recordEach (results s fixtures)).finish elapsed = (r', .ok summary) ∧
      run s c jobs (fun _ => false) elapsed r =
        .returned r' (.ok summary) ((fixtures.filter (isRun s)).map (·.path)) := by
  obtain ⟨sink, hfinish, -⟩ := Reporter.finish_of_neverFails
    (Reporter.recordEach_neverFails h (results s fixtures)) elapsed
  refine ⟨_, _, hfinish, ?_⟩
  rw [run, hselected]
  simp only
  rw [if_neg (Nat.not_lt.mpr hjobs), collect_never h, hfinish]

/-- A run that is not stopped hands one result for each selected fixture to the reporter, in the
    order of discovery, and a result passes exactly if its fixture does. It returns the number of
    fixtures that pass and of those that do not, and its exit status is the latter, as far as a
    status can hold it. -/
theorem run_verdicts (host : Host) (executor : Executor) (c : Config) (m : Marker)
    (entries : List DirEntry) (available : Nat) (style : Style) (sink : Sink)
    (elapsed : Fixture → Duration) (total : Duration) (hmarker : markerOf c = .ok m)
    (hlist : host.list c.fixturesDir = .ok entries) (hjobs : jobsOf available c ≤ permitLimit)
    (hsink : sink.NeverFails) :
    ∃ fixtures xs r summary called,
      selected host c = .ok fixtures ∧
      xs = results ⟨host, executor, m, elapsed⟩ fixtures ∧
      run ⟨host, executor, m, elapsed⟩ c (jobsOf available c) (fun _ => false) total
          (.fresh style sink) = .returned r (.ok summary) called ∧
      ((Reporter.fresh style sink).recordEach xs).finish total = (r, .ok summary) ∧
      xs.map (·.fixture) = fixtures ∧
      (∀ x ∈ xs, x.passed = passes host executor c x.fixture) ∧
      summary.successes = fixtures.countP (passes host executor c) ∧
      summary.failures = fixtures.countP (!passes host executor c ·) ∧
      summary.interrupted = false ∧
      summary.exitCode = min summary.failures 255 ∧
      (summary.exitCode = 0 ↔ ∀ f ∈ fixtures, passes host executor c f = true) := by
  let s : Setting := ⟨host, executor, m, elapsed⟩
  let fresh := Reporter.fresh style sink
  let fixtures :=
    Discovery.select c.filter (Discovery.fixturesOf c.fixturesDir c.extension entries)
  have hselected : selected s.host c = .ok fixtures := selected_of_list hlist
  have hopen : fresh.sink.NeverFails := hsink
  obtain ⟨r, summary, hfinish, hrun⟩ :=
    run_of_neverFails hselected hjobs hopen total
  have hpassed : ∀ x ∈ results s fixtures, x.passed = passes host executor c x.fixture :=
    fun x hx => passed_of_mem_resultsFrom hmarker hx
  have hfixtures : (results s fixtures).map (·.fixture) = fixtures := resultsFrom_fixture s 1 fixtures
  -- Counting the results that pass is counting the fixtures that do.
  obtain ⟨hsuccesses, hfailures⟩ := countP_passed hpassed
  rw [hfixtures] at hsuccesses hfailures
  -- Closing the report leaves the counts, and they are those of the recorded results.
  have hsummary : summary = (fresh.recordEach (results s fixtures)).summary := by
    obtain ⟨sink, hclosed, -⟩ :=
      Reporter.finish_of_neverFails (Reporter.recordEach_neverFails hopen _) total
    rw [hclosed] at hfinish
    exact (Except.ok.inj (Prod.mk.inj hfinish).2).symm
  rw [Reporter.recordEach_fresh_summary, hsuccesses, hfailures] at hsummary
  refine ⟨fixtures, results s fixtures, r, summary, _, hselected, rfl, hrun, hfinish, hfixtures,
    hpassed, ?_, ?_, ?_, ?_, ?_⟩
  · rw [hsummary]
  · rw [hsummary]
  · rw [hsummary]
  · rw [hsummary]
    rfl
  · rw [hsummary, exitCode_eq_zero, List.countP_eq_zero]
    simp

/-- A directory of two files, of which the first begins with an `x`. -/
def twoFiles : Host where
  list _ := .ok [⟨[0x61], .regular⟩, ⟨[0x62], .regular⟩]
  read path := .ok (if path = [0x2F, 0x61] then [0x78, 0x0D, 0x0A, 0xFF] else [0x79, 0x0A, 0x78])

/-- The configuration that takes all files of the root, and an `x` for the marker. -/
def markedWithX : Config := ((Config.of [] [0x2F]).withMarker "x" false).withExtension ""

theorem selected_twoFiles :
    selected twoFiles markedWithX = .ok [⟨[0x2F, 0x61]⟩, ⟨[0x2F, 0x62]⟩] := by
  have hentries : (([⟨[0x61], .regular⟩, ⟨[0x62], .regular⟩] : List DirEntry).filter
      (Discovery.isFixture "")).map (fun e => Fixture.mk (Path.entry [0x2F] e.name)) =
      [⟨[0x2F, 0x61]⟩, ⟨[0x2F, 0x62]⟩] := by decide +kernel
  have hsorted : Discovery.fixturesOf [0x2F] "" [⟨[0x61], .regular⟩, ⟨[0x62], .regular⟩] =
      [⟨[0x2F, 0x61]⟩, ⟨[0x2F, 0x62]⟩] := by
    rw [Discovery.fixturesOf, hentries]
    exact List.mergeSort_of_pairwise (by decide +kernel)
  refine (selected_of_list rfl).trans (congrArg _ ?_)
  exact (congrArg _ hsorted).trans (by decide +kernel)

/-- An executable that fails on every fixture. -/
def alwaysFailing : Executor := ⟨fun _ => .ended .failed, fun _ => []⟩

/-- The executable fails on both files, which is what the marker asks for in one of them. -/
theorem run_verdicts_twoFiles :
    ∃ r summary called,
      run ⟨twoFiles, alwaysFailing, ⟨⟨.char 'x'⟩⟩, fun _ => .zero⟩ markedWithX 3 (fun _ => false)
          .zero (.fresh ⟨.pretty, false, false, "", ""⟩ .unlimited) =
        .returned r (.ok summary) called ∧
      summary.successes = 1 ∧ summary.failures = 1 ∧ summary.exitCode = 1 := by
  obtain ⟨fixtures, -, r, summary, called, hselected, -, hrun, -, -, -, hsuccesses, hfailures,
      -, hexit, -⟩ :=
    run_verdicts twoFiles alwaysFailing markedWithX ⟨⟨.char 'x'⟩⟩ _ 3
      ⟨.pretty, false, false, "", ""⟩ .unlimited (fun _ => .zero) .zero rfl rfl (by decide)
      Sink.unlimited_neverFails
  obtain rfl := Except.ok.inj (hselected.symm.trans selected_twoFiles)
  have hfails : summary.failures = 1 := hfailures.trans (by decide +kernel)
  exact ⟨r, summary, called, hrun, hsuccesses.trans (by decide +kernel), hfails,
    by rw [hexit, hfails]; rfl⟩

end Conformance.Run
