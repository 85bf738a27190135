import Conformance.Proofs.Schedule.CompleteReport
import Conformance.Proofs.Schedule.Ending

/-!
# Shards

A list of patterns cuts the fixtures of a directory in two: those that a run takes which includes the
patterns, and those that a run takes which excludes them. What the two runs count adds up to what a run of
all fixtures counts, whatever the schedules are.

- `Filter.accepts_excluding`: what is excluded is all that is not included.
- `Shards`: two parts of a list of fixtures that make up all of it.
- `Terms.returned_of_completes`: a run that was not interrupted returns the counts of the verdicts on its
  fixtures.
- `shards_add_up`: the three runs.
-/

namespace Conformance

/-! ## §1 Filters -/

namespace Filter

/-- Takes the names that one of the patterns matches. -/
def including (patterns : List String) (exact : Bool) : Filter := ⟨patterns, [], exact⟩

/-- Takes the names that none of the patterns matches. -/
def excluding (patterns : List String) (exact : Bool) : Filter := ⟨[], patterns, exact⟩

/-- If there are patterns at all, exactly the names that they do not include are not excluded. -/
theorem accepts_excluding {patterns : List String} (h : patterns ≠ []) (exact : Bool)
    (name : String) :
    (excluding patterns exact).accepts name = !(including patterns exact).accepts name := by
  have hsome : patterns.isEmpty = false := List.isEmpty_eq_false_iff.mpr h
  -- Whether a pattern matches a name depends on `exact` alone.
  have hhits : (excluding patterns exact).hits name = (including patterns exact).hits name := rfl
  simp only [accepts, hitsAny, hhits]
  simp [including, excluding, hsome]

/-- Without patterns, every name is taken. -/
theorem accepts_of_no_patterns (exact : Bool) (name : String) :
    (⟨[], [], exact⟩ : Filter).accepts name = true := rfl

end Filter

/-! ## §2 Fixtures -/

/-- Two parts of a list of fixtures, in its order, that have none in common and make up all of it. -/
structure Shards (all first second : List Fixture) : Prop where
  sublist : first.Sublist all
  sublist' : second.Sublist all
  disjoint : first.Disjoint second
  exactlyOne : ∀ f ∈ all, (f ∈ first ∧ f ∉ second) ∨ (f ∉ first ∧ f ∈ second)
  /-- A fixture stands in the two parts together as often as in the list. -/
  all : (first ++ second).Perm all

theorem shards_filter (p : Fixture → Bool) (all : List Fixture) :
    Shards all (all.filter p) (all.filter (!p ·)) where
  sublist := List.filter_sublist
  sublist' := List.filter_sublist
  disjoint f hf hf' := by
    have hp := (List.mem_filter.mp hf).2
    have hnot := (List.mem_filter.mp hf').2
    rw [hp] at hnot
    cases hnot
  exactlyOne f hf := by
    cases hp : p f
    · exact .inr ⟨by simp [hp], by simp [hf, hp]⟩
    · exact .inl ⟨by simp [hf, hp], by simp [hp]⟩
  all := List.filter_append_perm p all

theorem Shards.countP_eq {all first second : List Fixture} (h : Shards all first second)
    (p : Fixture → Bool) : all.countP p = first.countP p + second.countP p := by
  rw [← h.all.countP_eq, List.countP_append]

namespace Discovery

theorem select_of_no_patterns (exact : Bool) (fixtures : List Fixture) :
    select ⟨[], [], exact⟩ fixtures = fixtures :=
  List.filter_eq_self.mpr fun f _ => Filter.accepts_of_no_patterns exact f.name

/-- Patterns cut the fixtures in those that they include and those that they exclude. -/
theorem shards_select {patterns : List String} (h : patterns ≠ []) (exact : Bool)
    (fixtures : List Fixture) :
    Shards fixtures (select (.including patterns exact) fixtures)
      (select (.excluding patterns exact) fixtures) := by
  have hexcluded : select (.excluding patterns exact) fixtures =
      fixtures.filter fun f => !(Filter.including patterns exact).accepts f.name := by
    simp only [select, Filter.accepts_excluding h]
  rw [hexcluded]
  exact shards_filter _ fixtures

end Discovery

namespace Run

/-! ## §3 Counts -/

/-- The counts of the verdicts on fixtures. -/
def countsOf (s : Setting) (fixtures : List Fixture) : Summary :=
  ⟨fixtures.countP (verdictOf s), fixtures.countP (!verdictOf s ·), false⟩

/-- Counts that are the sums of two others. -/
structure AddsUp (whole first second : Summary) : Prop where
  successes : whole.successes = first.successes + second.successes
  failures : whole.failures = first.failures + second.failures

theorem addsUp_of_shards {all first second : List Fixture} (h : Shards all first second)
    (s : Setting) : AddsUp (countsOf s all) (countsOf s first) (countsOf s second) :=
  ⟨h.countP_eq _, h.countP_eq _⟩

/-- How long things take makes no difference to the counts. -/
theorem countsOf_elapsed (s : Setting) (elapsed : Fixture → Duration) :
    countsOf { s with elapsed := elapsed } = countsOf s := by
  have hverdict : verdictOf { s with elapsed := elapsed } = verdictOf s := by
    funext f
    have hdelivered : Delivered s f (resultOf { s with elapsed := elapsed } 0 f) :=
      ⟨elapsed f, 0, rfl⟩
    have hpassed := hdelivered.passed_eq
    rwa [resultOf_fixture] at hpassed
  funext fixtures
  rw [countsOf, countsOf, hverdict]

end Run

/-! ## §4 One run -/

namespace Schedule

/-- What a run is given besides its setting and its fixtures: how many of them run at once, the numbers of
    their tasks, the shutdown, how its report looks, and a sink that never fails. -/
structure Terms where
  jobs : Nat
  number : Nat → Nat
  shutdown : Shutdown
  style : Style
  sink : Sink
  jobs_pos : 0 < jobs
  jobs_le : jobs ≤ Run.permitLimit
  neverFails : sink.NeverFails

/-- What was returned is not marked as interrupted. -/
def Uninterrupted (v : Except HarnessError Summary) : Prop :=
  ∀ summary, v = .ok summary → summary.interrupted = false

namespace Terms

variable {s : Run.Setting} {c : Config} {fixtures : List Fixture} {st : State}
  {v : Except HarnessError Summary}

/-- The plan of a run of fixtures. -/
def plan (terms : Terms) (s : Run.Setting) (fixtures : List Fixture) : Plan :=
  .fresh s fixtures terms.jobs terms.number terms.shutdown terms.style terms.sink

theorem comesToEnd (terms : Terms) (s : Run.Setting) (fixtures : List Fixture) :
    (terms.plan s fixtures).ComesToEnd := Schedule.comesToEnd terms.jobs_pos terms.jobs_le

/-- A complete run that was not interrupted returns the counts of the verdicts on its fixtures. -/
theorem returned_of_completes (terms : Terms) (h : (terms.plan s fixtures).Completes st v)
    (huninterrupted : Uninterrupted v) : v = .ok (Run.countsOf s fixtures) := by
  obtain ⟨inv, hreturned⟩ := inv_of_completes h
  have hsink : (terms.plan s fixtures).reporter.sink.NeverFails := terms.neverFails
  obtain ⟨elapsed, summary, hclosed, rfl, -⟩ := inv.returned_of_neverFails hsink hreturned
  -- What is not marked as interrupted has recorded a result for each fixture.
  have hall : st.recorded.length = fixtures.length :=
    Nat.le_antisymm inv.length_recorded_le (recorded_all h (huninterrupted summary rfl))
  have hdelivered : List.Forall₂ (Run.Delivered s) (fixtures.take st.recorded.length) st.recorded :=
    inv.recorded
  rw [hall, List.take_length] at hdelivered
  have hclosed : (Run.stoppedAt (.fresh terms.style terms.sink) fixtures.length st.recorded).finish
      elapsed = (st.reporter, .ok summary) := hclosed
  rw [← hall, Run.stoppedAt_all] at hclosed
  have hreport :=
    Run.reportsAll_of_finish terms.neverFails (Run.map_fixture_of_delivered hdelivered) hclosed
  exact congrArg _ (hreport.counts_eq hdelivered)

/-- So does the run that takes one fixture after the other. -/
theorem returned_of_run (terms : Terms) (hselected : Run.selected s.host c = .ok fixtures)
    (elapsed : Fixture → Duration) (total : Duration) :
    ∃ r called, Run.run { s with elapsed := elapsed } c terms.jobs (fun _ => false) total
        (.fresh terms.style terms.sink) = .returned r (.ok (Run.countsOf s fixtures)) called := by
  obtain ⟨r, summary, hrun, hreport⟩ := Run.reportsAll_run (s := { s with elapsed := elapsed })
    terms.style hselected terms.jobs_le terms.neverFails total
  have hcounts : summary = Run.countsOf { s with elapsed := elapsed } fixtures :=
    hreport.counts_eq (Run.delivered_resultsFrom _ 1 fixtures)
  rw [hcounts, Run.countsOf_elapsed] at hrun
  exact ⟨r, _, hrun⟩

/-- A run that is never shut down is not interrupted. -/
theorem uninterrupted_of_never (terms : Terms) (hnever : terms.shutdown = .never)
    (h : (terms.plan s fixtures).Completes st v) : Uninterrupted v := by
  rw [plan, hnever] at h
  obtain ⟨-, summary, rfl, hreport⟩ := Run.reportsAll_of_completes terms.neverFails h
  intro summary' hsummary
  rw [← Except.ok.inj hsummary, hreport.counts]

end Terms

/-! ## §5 Three runs -/

/-- A list of patterns that is not empty cuts the selected fixtures in two shards: those that the patterns
    include, and those that they exclude. Runs of the shards, and a run of all fixtures, each on its own
    terms, come to their end, and if none of them was interrupted, the counts of the shards add up to
    those of all fixtures. So it is with the runs that take one fixture after the other. -/
theorem shards_add_up (s : Run.Setting) (c : Config) (patterns : List String) (exact exact' : Bool)
    (entries : List DirEntry) (whole first second : Terms) (hpatterns : patterns ≠ [])
    (hlist : s.host.list c.fixturesDir = .ok entries) :
    ∃ all included excluded,
      Run.selected s.host (c.withFilter ⟨[], [], exact'⟩) = .ok all ∧
      Run.selected s.host (c.withFilter (.including patterns exact)) = .ok included ∧
      Run.selected s.host (c.withFilter (.excluding patterns exact)) = .ok excluded ∧
      Shards all included excluded ∧
      ((whole.plan s all).ComesToEnd ∧ (first.plan s included).ComesToEnd ∧
        (second.plan s excluded).ComesToEnd) ∧
      (∀ st v st₁ v₁ st₂ v₂, (whole.plan s all).Completes st v →
        (first.plan s included).Completes st₁ v₁ → (second.plan s excluded).Completes st₂ v₂ →
        Uninterrupted v → Uninterrupted v₁ → Uninterrupted v₂ →
          ∃ summary summary₁ summary₂, v = .ok summary ∧ v₁ = .ok summary₁ ∧ v₂ = .ok summary₂ ∧
            Run.AddsUp summary summary₁ summary₂) ∧
      ∀ (elapsed elapsed₁ elapsed₂ : Fixture → Duration) (total total₁ total₂ : Duration),
        ∃ r summary called r₁ summary₁ called₁ r₂ summary₂ called₂,
          Run.run { s with elapsed := elapsed } (c.withFilter ⟨[], [], exact'⟩) whole.jobs
              (fun _ => false) total (.fresh whole.style whole.sink) =
            .returned r (.ok summary) called ∧
          Run.run { s with elapsed := elapsed₁ } (c.withFilter (.including patterns exact)) first.jobs
              (fun _ => false) total₁ (.fresh first.style first.sink) =
            .returned r₁ (.ok summary₁) called₁ ∧
          Run.run { s with elapsed := elapsed₂ } (c.withFilter (.excluding patterns exact)) second.jobs
              (fun _ => false) total₂ (.fresh second.style second.sink) =
            .returned r₂ (.ok summary₂) called₂ ∧
          Run.AddsUp summary summary₁ summary₂ := by
  have hselected : ∀ filter, Run.selected s.host (c.withFilter filter) =
      .ok (Discovery.select filter (Discovery.fixturesOf c.fixturesDir c.extension entries)) :=
    fun filter => Run.selected_of_list (c := c.withFilter filter) hlist
  have hall := hselected ⟨[], [], exact'⟩
  rw [Discovery.select_of_no_patterns] at hall
  have hshards := Discovery.shards_select hpatterns exact
    (Discovery.fixturesOf c.fixturesDir c.extension entries)
  have hadds := Run.addsUp_of_shards hshards s
  refine ⟨_, _, _, hall, hselected _, hselected _, hshards,
    ⟨whole.comesToEnd s _, first.comesToEnd s _, second.comesToEnd s _⟩, ?_, ?_⟩
  · intro st v st₁ v₁ st₂ v₂ h h₁ h₂ hv hv₁ hv₂
    exact ⟨_, _, _, whole.returned_of_completes h hv, first.returned_of_completes h₁ hv₁,
      second.returned_of_completes h₂ hv₂, hadds⟩
  · intro elapsed elapsed₁ elapsed₂ total total₁ total₂
    obtain ⟨r, called, hrun⟩ := whole.returned_of_run hall elapsed total
    obtain ⟨r₁, called₁, hrun₁⟩ := first.returned_of_run (hselected _) elapsed₁ total₁
    obtain ⟨r₂, called₂, hrun₂⟩ := second.returned_of_run (hselected _) elapsed₂ total₂
    exact ⟨r, _, called, r₁, _, called₁, r₂, _, called₂, hrun, hrun₁, hrun₂, hadds⟩

/-- Terms on which a run is never shut down. -/
def Terms.unhurried (jobs : Nat) (jobs_pos : 0 < jobs) (jobs_le : jobs ≤ Run.permitLimit) : Terms where
  jobs := jobs
  number := id
  shutdown := .never
  style := ⟨.pretty, false, false, "", ""⟩
  sink := .unlimited
  jobs_pos := jobs_pos
  jobs_le := jobs_le
  neverFails := Sink.unlimited_neverFails

open Run in
/-- The pattern `a` puts the first of two files into one shard and the second into the other. -/
theorem shards_add_up_twoFiles :
    ∃ st summary st₁ summary₁ st₂ summary₂,
      ((Terms.unhurried 3 (by decide) (by decide)).plan
        ⟨twoFiles, alwaysFailing, ⟨⟨.char 'x'⟩⟩, fun _ => .zero⟩
        [⟨[0x2F, 0x61]⟩, ⟨[0x2F, 0x62]⟩]).Completes st (.ok summary) ∧
      ((Terms.unhurried 1 (by decide) (by decide)).plan
        ⟨twoFiles, alwaysFailing, ⟨⟨.char 'x'⟩⟩, fun _ => .zero⟩
        [⟨[0x2F, 0x61]⟩]).Completes st₁ (.ok summary₁) ∧
      ((Terms.unhurried 2 (by decide) (by decide)).plan
        ⟨twoFiles, alwaysFailing, ⟨⟨.char 'x'⟩⟩, fun _ => .zero⟩
        [⟨[0x2F, 0x62]⟩]).Completes st₂ (.ok summary₂) ∧
      AddsUp summary summary₁ summary₂ := by
  obtain ⟨all, included, excluded, hall, hincluded, hexcluded, -, ⟨hends, hends₁, hends₂⟩, hadds, -⟩ :=
    shards_add_up ⟨twoFiles, alwaysFailing, ⟨⟨.char 'x'⟩⟩, fun _ => .zero⟩ markedWithX ["a"] true false _
      (.unhurried 3 (by decide) (by decide)) (.unhurried 1 (by decide) (by decide))
      (.unhurried 2 (by decide) (by decide)) (by decide) rfl
  obtain rfl := Except.ok.inj (selected_twoFiles.symm.trans hall)
  -- What is selected is what the filters take of these two fixtures.
  have hselected : ∀ filter, selected twoFiles (markedWithX.withFilter filter) =
      .ok (Discovery.select filter [⟨[0x2F, 0x61]⟩, ⟨[0x2F, 0x62]⟩]) := by
    have hfixtures := Except.ok.inj
      ((selected_of_list (c := markedWithX) rfl).symm.trans selected_twoFiles)
    rw [hfixtures.symm.trans (Discovery.select_of_no_patterns false _)]
    exact fun filter => selected_of_list (c := markedWithX.withFilter filter) rfl
  obtain rfl : [⟨[0x2F, 0x61]⟩] = included :=
    .trans (by decide +kernel) (Except.ok.inj ((hselected _).symm.trans hincluded))
  obtain rfl : [⟨[0x2F, 0x62]⟩] = excluded :=
    .trans (by decide +kernel) (Except.ok.inj ((hselected _).symm.trans hexcluded))
  obtain ⟨st, v, hst⟩ := hends.exists_completes
  obtain ⟨st₁, v₁, hst₁⟩ := hends₁.exists_completes
  obtain ⟨st₂, v₂, hst₂⟩ := hends₂.exists_completes
  obtain ⟨summary, summary₁, summary₂, rfl, rfl, rfl, hsums⟩ := hadds _ _ _ _ _ _ hst hst₁ hst₂
    (Terms.uninterrupted_of_never _ rfl hst) (Terms.uninterrupted_of_never _ rfl hst₁)
    (Terms.uninterrupted_of_never _ rfl hst₂)
  exact ⟨st, summary, st₁, summary₁, st₂, summary₂, hst, hst₁, hst₂, hsums⟩

end Schedule
end Conformance
