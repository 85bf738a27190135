import Conformance.Proofs.Listing
import Conformance.Proofs.Schedule.CompleteReport

/-!
# Faults stay with their fixture

Two runs of the same fixtures, with everything the same but for one of them: what it holds, whether it
can be read, or how the executable fares on it. Whatever goes wrong with that fixture, both runs come to
their end and report all fixtures, and what they report of the others is the same.

- `DiffersOnlyAt`: settings that are the same but for one fixture.
- `countP_of_agree_off`: counts that can differ in one place differ by one at most.
- `fault_contained`: what two such runs report, for every two schedules.
-/

namespace Conformance

/-! ## §1 Two settings -/

namespace Run

/-- Settings that make the same of all fixtures but one. How long things take may differ. -/
structure DiffersOnlyAt (f : Fixture) (fixtures : List Fixture) (s s' : Setting) : Prop where
  marker : s.marker = s'.marker
  read : ∀ g ∈ fixtures, g ≠ f → s.host.read g.path = s'.host.read g.path
  verdict : ∀ g ∈ fixtures, g ≠ f → s.executor.verdict g.path = s'.executor.verdict g.path

variable {f g : Fixture} {fixtures : List Fixture} {s s' : Setting}

/-- What a setting makes of a fixture depends on the marker, on what is read, and on how the executable
    fares. -/
theorem resultOf_congr (hmarker : s.marker = s'.marker)
    (hread : s.host.read g.path = s'.host.read g.path)
    (hverdict : s.executor.verdict g.path = s'.executor.verdict g.path) (duration : Duration)
    (task : Nat) :
    resultOf { s with elapsed := fun _ => duration } task g =
      resultOf { s' with elapsed := fun _ => duration } task g := by
  simp only [resultOf, hmarker, hread, hverdict]

/-- What the settings make of any other fixture agrees. -/
theorem DiffersOnlyAt.agrees (h : DiffersOnlyAt f fixtures s s') (hg : g ∈ fixtures) (hne : g ≠ f)
    {x y : Result} (hx : Delivered s g x) (hy : Delivered s' g y) : x.Agrees y := by
  obtain ⟨duration, task, rfl⟩ := hx
  have hsame := resultOf_congr h.marker (h.read g hg hne) (h.verdict g hg hne) duration task
  exact agrees_of_delivered ⟨duration, task, hsame⟩ hy

theorem DiffersOnlyAt.forall₂_agrees (h : DiffersOnlyAt f fixtures s s') {fs : List Fixture}
    {xs ys : List Result} (hsub : fs ⊆ fixtures) (hx : List.Forall₂ (Delivered s) fs xs)
    (hy : List.Forall₂ (Delivered s') fs ys) :
    List.Forall₂ (fun x y => x.fixture ≠ f → x.Agrees y) xs ys := by
  induction hx generalizing ys with
  | nil =>
    cases hy
    exact .nil
  | cons hx _ ih =>
    cases hy with
    | cons hy hys =>
      refine .cons (fun hne => ?_) (ih (fun g hg => hsub (List.mem_cons_of_mem _ hg)) hys)
      rw [hx.fixture_eq] at hne
      exact h.agrees (hsub List.mem_cons_self) hne hx hy

theorem DiffersOnlyAt.verdictOf_eq (h : DiffersOnlyAt f fixtures s s') (hg : g ∈ fixtures)
    (hne : g ≠ f) : verdictOf s g = verdictOf s' g :=
  (h.agrees hg hne (delivered_resultOf s 0 g) (delivered_resultOf s' 0 g)).passed_eq

/-! ## §2 Counts -/

/-- Two ways to count the elements of a list, none of which is there twice, that agree off one element:
    they come to the same for the others, and that element adds one to each that counts it. -/
theorem countP_of_agree_off {l : List Fixture} (hl : l.Nodup) {p q : Fixture → Bool}
    (h : ∀ g ∈ l, g ≠ f → p g = q g) :
    ∃ others, l.countP p = others + (if f ∈ l ∧ p f = true then 1 else 0) ∧
      l.countP q = others + (if f ∈ l ∧ q f = true then 1 else 0) := by
  by_cases hf : f ∈ l
  · have hperm := List.perm_cons_erase hf
    have hothers : (l.erase f).countP p = (l.erase f).countP q := by
      refine List.countP_congr fun g hg => ?_
      obtain ⟨hne, hmem⟩ := hl.mem_erase_iff.mp hg
      rw [h g hmem hne]
    refine ⟨(l.erase f).countP q, ?_, ?_⟩
    · rw [hperm.countP_eq, List.countP_cons, hothers]
      simp [hf]
    · rw [hperm.countP_eq, List.countP_cons]
      simp [hf]
  · have hall : l.countP p = l.countP q := by
      refine List.countP_congr fun g hg => ?_
      have hne : g ≠ f := fun heq => hf (heq ▸ hg)
      rw [h g hg hne]
    refine ⟨l.countP q, ?_, ?_⟩
    · simp [hf, hall]
    · simp [hf]

theorem nodup_selected {host : Host} {c : Config} {entries : List DirEntry}
    (hselected : selected host c = .ok fixtures)
    (hlist : host.list c.fixturesDir = .ok entries) (hentries : Discovery.IsListing entries) :
    fixtures.Nodup := by
  obtain rfl := Except.ok.inj ((selected_of_list hlist).symm.trans hselected)
  exact (Discovery.nodup_fixturesOf c.fixturesDir c.extension hentries).filter _

end Run

/-! ## §3 Lines -/

namespace Reporter

/-- Where no time is shown, the same is written for results that agree, the numbers of panicked tasks
    apart, and the very same if none panicked. -/
def WrittenAlike (style : Style) (x y : Result) : Prop :=
  Masked.maskTasks (recordText style x).toList = Masked.maskTasks (recordText style y).toList ∧
    ((∀ n message, x.error ≠ some (Run.panicReason n message)) →
      recordText style x = recordText style y)

theorem writtenAlike_of_agrees {style : Style} (hverbose : style.verbose = false) {x y : Result}
    (h : x.Agrees y) : WrittenAlike style x y := by
  refine ⟨(recordText_sameButTasks hverbose h).mask_eq, fun hcalm => ?_⟩
  have herror : x.error = y.error := by
    have hsame := h.error
    generalize hx : x.error = e at hsame
    generalize y.error = e' at hsame
    cases hsame with
    | refl => rfl
    | panicked n n' message => exact absurd hx (hcalm n message)
  have hreason : x.reason? = y.reason? := by
    simp only [Result.reason?, herror, h.expectation, h.outcome]
  have hline : line style x = line style y := by
    simp only [line, plainLine, hverbose, h.passed_eq, h.fixture, hreason, Bool.false_eq_true,
      if_false]
  simp only [recordText, hline, h.passed_eq]

end Reporter

/-! ## §4 Two runs -/

namespace Run

/-- What two reports of the same fixtures have in common if whatever differs between the runs is
    contained in one fixture. -/
structure Contained (f : Fixture) (style : Style) (xs xs' : List Result) (summary summary' : Summary) :
    Prop where
  /-- The results of any other fixture agree in everything but times and numbers of tasks. -/
  others : List.Forall₂ (fun x y => x.fixture ≠ f → x.Agrees y) xs xs'
  lines : style.verbose = false →
    List.Forall₂ (fun x y => x.fixture ≠ f → Reporter.WrittenAlike style x y) xs xs'
  total : summary.total = summary'.total
  withinOne : summary.successes ≤ summary'.successes + 1 ∧
    summary'.successes ≤ summary.successes + 1
  /-- The successes differ exactly if the verdicts on the fixture do. -/
  differ : summary.successes ≠ summary'.successes ↔
    ∃ x ∈ xs, ∃ y ∈ xs', x.fixture = f ∧ y.fixture = f ∧ x.passed ≠ y.passed

variable {f : Fixture} {fixtures : List Fixture} {s s' : Setting} {style : Style}

/-- The verdicts on a fixture are those of its results, if there are any. -/
theorem differ_iff_verdictOf {xs xs' : List Result} (hfixtures : xs.map (·.fixture) = fixtures)
    (hfixtures' : xs'.map (·.fixture) = fixtures)
    (hpassed : ∀ x ∈ xs, x.passed = verdictOf s x.fixture)
    (hpassed' : ∀ y ∈ xs', y.passed = verdictOf s' y.fixture) :
    (f ∈ fixtures ∧ verdictOf s f ≠ verdictOf s' f) ↔
      ∃ x ∈ xs, ∃ y ∈ xs', x.fixture = f ∧ y.fixture = f ∧ x.passed ≠ y.passed := by
  constructor
  · rintro ⟨hf, hne⟩
    obtain ⟨x, hxs, hxf⟩ := List.mem_map.mp (hfixtures ▸ hf)
    obtain ⟨y, hys, hyf⟩ := List.mem_map.mp (hfixtures' ▸ hf)
    refine ⟨x, hxs, y, hys, hxf, hyf, ?_⟩
    rw [hpassed x hxs, hpassed' y hys, hxf, hyf]
    exact hne
  · rintro ⟨x, hxs, y, hys, rfl, hyf, hne⟩
    rw [hpassed x hxs, hpassed' y hys, hyf] at hne
    refine ⟨?_, hne⟩
    rw [← hfixtures]
    exact List.mem_map_of_mem hxs

/-- What two runs that differ in one fixture report of the same fixtures is contained in it. -/
theorem contained_of_delivered (h : DiffersOnlyAt f fixtures s s') (hnodup : fixtures.Nodup)
    {xs xs' : List Result} (hx : List.Forall₂ (Delivered s) fixtures xs)
    (hx' : List.Forall₂ (Delivered s') fixtures xs') {before before' : Bytes} {r r' : Reporter}
    {summary summary' : Summary} (hreport : ReportsAll fixtures style before xs r summary)
    (hreport' : ReportsAll fixtures style before' xs' r' summary') :
    Contained f style xs xs' summary summary' := by
  have hothers := h.forall₂_agrees (List.Subset.refl fixtures) hx hx'
  have hcounts := hreport.counts_eq hx
  have hcounts' := hreport'.counts_eq hx'
  obtain ⟨others, hcount, hcount'⟩ :=
    countP_of_agree_off hnodup fun g hg hne => h.verdictOf_eq hg hne
  have hverdicts := differ_iff_verdictOf (f := f) hreport.fixtures hreport'.fixtures
    (passed_of_delivered hx) (passed_of_delivered hx')
  refine ⟨hothers, fun hverbose => ?_, ?_, ?_, ?_⟩
  · exact hothers.imp fun x y hagrees hne =>
      Reporter.writtenAlike_of_agrees hverbose (hagrees hne)
  · rw [hreport.total_eq, hreport'.total_eq]
  -- Each way the others add the same, and the fixture one at most.
  · rw [hcounts, hcounts']
    simp only [hcount, hcount']
    constructor
    · split <;> split <;> omega
    · split <;> split <;> omega
  · rw [hcounts, hcounts', ← hverdicts]
    simp only [hcount, hcount']
    by_cases hf : f ∈ fixtures
    · cases verdictOf s f <;> cases verdictOf s' f <;> simp [hf]
    · simp [hf]

end Run

namespace Schedule

/-- Two runs that are not shut down and differ in one fixture alone, over sinks that never fail: both
    come to their end, whatever the schedules are, report all fixtures, and return their counts.
    Whatever went wrong with that fixture, the results of the others agree, the same is written for them
    where no time is shown, the totals are the same, and the numbers of successes differ exactly if the
    verdicts on that fixture do, and by one. So do the runs that take one fixture after the other. -/
theorem fault_contained (s s' : Run.Setting) (c : Config) (f : Fixture) (fixtures : List Fixture)
    (entries : List DirEntry) (jobs : Nat) (number number' : Nat → Nat) (style : Style)
    (sink sink' : Sink) (hselected : Run.selected s.host c = .ok fixtures)
    (hselected' : Run.selected s'.host c = .ok fixtures)
    (hlist : s.host.list c.fixturesDir = .ok entries) (hentries : Discovery.IsListing entries)
    (hdiffers : Run.DiffersOnlyAt f fixtures s s') (hjobs : 0 < jobs)
    (hlimit : jobs ≤ Run.permitLimit) (hsink : sink.NeverFails) (hsink' : sink'.NeverFails) :
    let plan := Plan.fresh s fixtures jobs number .never style sink
    let plan' := Plan.fresh s' fixtures jobs number' .never style sink'
    (plan.ComesToEnd ∧ plan'.ComesToEnd ∧
      ∀ st v st' v', plan.Completes st v → plan'.Completes st' v' →
        ∃ summary summary', v = .ok summary ∧ v' = .ok summary' ∧
          Run.ReportsAll fixtures style sink.content st.recorded st.reporter summary ∧
          Run.ReportsAll fixtures style sink'.content st'.recorded st'.reporter summary' ∧
          Run.Contained f style st.recorded st'.recorded summary summary') ∧
      ∀ elapsed elapsed', ∃ r summary called r' summary' called',
        Run.run s c jobs (fun _ => false) elapsed (.fresh style sink) =
          .returned r (.ok summary) called ∧
        Run.run s' c jobs (fun _ => false) elapsed' (.fresh style sink') =
          .returned r' (.ok summary') called' ∧
        Run.ReportsAll fixtures style sink.content (Run.results s fixtures) r summary ∧
        Run.ReportsAll fixtures style sink'.content (Run.results s' fixtures) r' summary' ∧
        Run.Contained f style (Run.results s fixtures) (Run.results s' fixtures) summary
          summary' := by
  intro plan plan'
  have hnodup := Run.nodup_selected hselected hlist hentries
  refine ⟨⟨comesToEnd hjobs hlimit, comesToEnd hjobs hlimit, fun st v st' v' hst hst' => ?_⟩,
    fun elapsed elapsed' => ?_⟩
  · obtain ⟨hdelivered, summary, hv, hreport⟩ := Run.reportsAll_of_completes hsink hst
    obtain ⟨hdelivered', summary', hv', hreport'⟩ := Run.reportsAll_of_completes hsink' hst'
    exact ⟨summary, summary', hv, hv', hreport, hreport',
      Run.contained_of_delivered hdiffers hnodup hdelivered hdelivered' hreport hreport'⟩
  · obtain ⟨r, summary, hrun, hreport⟩ := Run.reportsAll_run style hselected hlimit hsink elapsed
    obtain ⟨r', summary', hrun', hreport'⟩ :=
      Run.reportsAll_run style hselected' hlimit hsink' elapsed'
    exact ⟨r, summary, _, r', summary', _, hrun, hrun', hreport, hreport',
      Run.contained_of_delivered hdiffers hnodup (Run.delivered_resultsFrom s 1 fixtures)
        (Run.delivered_resultsFrom s' 1 fixtures) hreport hreport'⟩

/-- An executable that breaks down on the first of two files, which it would have passed otherwise. -/
def breaksDownOnFirst : Executor :=
  ⟨fun p => if p = [0x2F, 0x61] then .panicked none else .ended .failed, fun _ => []⟩

open Run in
/-- The second file fails either way. -/
theorem fault_contained_twoFiles :
    ∃ r summary called r' summary' called',
      run ⟨twoFiles, alwaysFailing, ⟨⟨.char 'x'⟩⟩, fun _ => .zero⟩ markedWithX 2 (fun _ => false)
          .zero (.fresh ⟨.pretty, false, false, "", ""⟩ .unlimited) =
        .returned r (.ok summary) called ∧
      run ⟨twoFiles, breaksDownOnFirst, ⟨⟨.char 'x'⟩⟩, fun _ => .zero⟩ markedWithX 2
          (fun _ => false) .zero (.fresh ⟨.pretty, false, false, "", ""⟩ .unlimited) =
        .returned r' (.ok summary') called' ∧
      summary.total = summary'.total ∧ summary.successes = 1 ∧ summary'.successes = 0 := by
  have hdiffers : DiffersOnlyAt ⟨[0x2F, 0x61]⟩ [⟨[0x2F, 0x61]⟩, ⟨[0x2F, 0x62]⟩]
      ⟨twoFiles, alwaysFailing, ⟨⟨.char 'x'⟩⟩, fun _ => .zero⟩
      ⟨twoFiles, breaksDownOnFirst, ⟨⟨.char 'x'⟩⟩, fun _ => .zero⟩ :=
    ⟨rfl, fun _ _ _ => rfl, by decide⟩
  obtain ⟨-, hruns⟩ :=
    fault_contained _ _ markedWithX _ _ _ 2 id id ⟨.pretty, false, false, "", ""⟩ .unlimited
      .unlimited selected_twoFiles selected_twoFiles rfl ⟨by decide, by decide⟩ hdiffers (by decide)
      (by decide) Sink.unlimited_neverFails Sink.unlimited_neverFails
  obtain ⟨r, summary, called, r', summary', called', hrun, hrun', hreport, hreport', hcontained⟩ :=
    hruns .zero .zero
  refine ⟨r, summary, called, r', summary', called', hrun, hrun', hcontained.total, ?_, ?_⟩
  · rw [hreport.counts]
    decide +kernel
  · rw [hreport'.counts]
    decide +kernel

end Schedule
end Conformance
