import Mathlib.Data.List.Perm.Subperm
import Conformance.Proofs.CommandLine.Alongside
import Conformance.Proofs.ExitStatus
import Conformance.Proofs.Schedule.Telling

/-!
# Asking for more of the log

Subjects of the log can be asked for in front of any command line. Then the same is written, the exit
status is the same, and every line that is told without them is told with them, as many times at least.
This holds of listing as of running, whatever goes wrong and whatever the executable does, and of every
schedule: the results are the same but for the times that were measured, and tasks may tell what they tell
in any order. If the executable breaks down, the number of its task shows too.

- `logText_subperm`: the more subjects are shown in full, the more lines a log has.
- `extends_run`: asking for subjects adds to what is told and changes nothing else.
- `report_of_plan`: what a schedule reports.
- `only_tells_more`: so it is with any two schedules.
-/

namespace Conformance

/-! ## §1 Lines -/

/-- The lines of a text; behind the last line feed there is one more. -/
def textLines (text : String) : List (List Char) := text.toList.splitOn '\n'

/-- Texts that end in a line feed keep their lines when they are put together. -/
theorem textLines_join (texts : List String) :
    textLines (String.join (texts.map (· ++ "\n"))) = texts.flatMap textLines ++ [[]] := by
  unfold textLines
  rw [String.toList_join, List.flatMap_map]
  induction texts with
  | nil => rfl
  | cons t ts ih =>
    have hfeed : (t ++ "\n").toList = t.toList ++ ['\n'] := by simp
    rw [List.flatMap_cons, List.flatMap_cons, hfeed, List.append_assoc, List.append_assoc, ← ih]
    exact List.splitOnP_append_cons _ _ rfl

theorem sublist_flatMap {α β : Type} {xs ys : List α} (h : xs.Sublist ys) (f : α → List β) :
    (xs.flatMap f).Sublist (ys.flatMap f) := by
  induction h with
  | slnil => exact .slnil
  | cons y _ ih =>
    rw [List.flatMap_cons]
    exact ih.trans (List.sublist_append_right _ _)
  | cons_cons x _ ih =>
    rw [List.flatMap_cons, List.flatMap_cons]
    exact ih.append_left _

theorem subperm_flatMap {α β : Type} {xs ys : List α} (h : xs.Subperm ys) (f : α → List β) :
    (xs.flatMap f).Subperm (ys.flatMap f) := by
  obtain ⟨zs, hperm, hsub⟩ := h
  exact (hperm.flatMap_right f).symm.subperm.trans (sublist_flatMap hsub f).subperm

/-! ## §2 Logs -/

namespace Log

/-- An event is shown if its subject is shown in full, or if it matters enough. -/
theorem Selection.shows_iff {selection : Selection} {e : Event} :
    selection.shows e = true ↔ (∃ x ∈ selection.full, e.subject = some x) ∨
      e.level.rank ≤ if selection.verbose then Level.info.rank else Level.warn.rank := by
  unfold shows
  cases e.subject with
  | none => simp
  | some x => by_cases hx : x ∈ selection.full <;> simp [hx]

/-- What is shown is also shown if more subjects are shown in full. -/
theorem Selection.shows_mono {verbose : Bool} {full full' : List Subject} (h : full ⊆ full')
    {e : Event} (hshows : (⟨verbose, full⟩ : Selection).shows e = true) :
    (⟨verbose, full'⟩ : Selection).shows e = true := by
  rw [shows_iff] at hshows ⊢
  rcases hshows with ⟨x, hx, hsubject⟩ | hlevel
  · exact .inl ⟨x, h hx, hsubject⟩
  · exact .inr hlevel

end Log

namespace CommandLine
namespace Situation

/-- The situation with subjects of the log asked for in front of the command line. -/
def telling (s : Situation) (subjects : List Subject) : Situation :=
  { s with argv := subjects.map (fun x => Utf8.encodeString ("--debug=" ++ x.name)) ++ s.argv }

/-- A log of the same events, in any order, has the same lines and some more if more subjects are shown in
    full. -/
theorem logText_subperm (s : Situation) (a : Arguments) (subjects : List Subject)
    {events events' : List Event} (h : events.Perm events') :
    (textLines (s.logText a events)).Subperm
      (textLines ((s.telling subjects).logText (a.alsoTelling subjects) events')) := by
  unfold logText
  rw [textLines_join, textLines_join]
  refine (subperm_flatMap ?_ _).append (.refl _)
  have hmore : (events.filter (Log.Selection.shows ⟨a.verbose, a.debug⟩)).Subperm
      (events'.filter (Log.Selection.shows ⟨a.verbose, subjects ++ a.debug⟩)) := by
    refine (h.filter _).subperm.trans (List.Sublist.subperm ?_)
    refine List.monotone_filter_right events' fun e he => ?_
    exact Log.Selection.shows_mono (List.subset_append_right subjects a.debug) he
  obtain ⟨kept, hperm, hsub⟩ := hmore
  exact ⟨_, hperm.map _, hsub.map _⟩

end Situation

/-! ## §3 One run -/

/-- What was left is left as well, with more lines told on the side. -/
structure Closing.Extends (c' c : Closing) : Prop where
  code : c'.code = c.code
  output : c'.output = c.output
  called : c'.called = c.called
  errors : (textLines c.errors).Subperm (textLines c'.errors)

namespace Situation

variable {s : Situation} {a : Arguments} {m : Marker} {fixtures : List Fixture}

/-- A closing with the same log, of which more is shown. -/
theorem extends_logText (s : Situation) (a : Arguments) (subjects : List Subject) (code : Nat)
    (output : Bytes) (events : List Event) (called : List Path) :
    Closing.Extends
      ⟨code, output, (s.telling subjects).logText (a.alsoTelling subjects) events, called⟩
      ⟨code, output, s.logText a events, called⟩ :=
  ⟨rfl, rfl, rfl, s.logText_subperm a subjects (.refl events)⟩

/-- Listing does not depend on the subjects, the log apart. -/
theorem extends_list (s : Situation) (a : Arguments) (subjects : List Subject) :
    ((s.telling subjects).list (a.alsoTelling subjects)).Extends (s.list a) := by
  have hconfig : (a.alsoTelling subjects).config = a.config := rfl
  have hhost : (s.telling subjects).host = s.host := rfl
  have hdevice : (s.telling subjects).device = s.device := rfl
  unfold list
  rw [hconfig, hhost, hdevice]
  dsimp only
  cases Run.selected s.host a.config with
  | error e => exact s.extends_logText a subjects _ _ _ _
  | ok fixtures =>
    -- Whether the listing can be written does not depend on them either.
    rcases hwritten : (Sink.fresh s.device false).writeText (listing fixtures) with ⟨sink, _ | e⟩
    · rw [listing] at hwritten
      simp only [hwritten]
      exact s.extends_logText a subjects _ _ _ _
    · rw [listing] at hwritten
      simp only [hwritten]
      exact s.extends_logText a subjects _ _ _ _

/-- Neither does running. -/
theorem extends_test (s : Situation) (a : Arguments) (m : Marker) (subjects : List Subject) :
    ((s.telling subjects).test (a.alsoTelling subjects) m).Extends (s.test a m) := by
  have hconfig : (a.alsoTelling subjects).config = a.config := rfl
  have hsetting : (s.telling subjects).setting (a.alsoTelling subjects) m = s.setting a m := rfl
  have hstyle : (s.telling subjects).style (a.alsoTelling subjects) = s.style a := rfl
  have htime : (s.telling subjects).runTime = s.runTime := rfl
  have hdevice : (s.telling subjects).device = s.device := rfl
  have havailable : (s.telling subjects).available = s.available := rfl
  unfold test
  rw [hconfig, hsetting, hstyle, htime, hdevice, havailable]
  dsimp only
  cases Run.run (s.setting a m) a.config (Run.jobsOf s.available a.config) (fun _ => false)
      s.runTime (.fresh (s.style a) (Sink.fresh s.device false)) with
  | brokeDown => exact s.extends_logText a subjects _ _ _ _
  | returned r v called =>
    cases v with
    | ok summary => exact s.extends_logText a subjects _ _ _ _
    | error e => exact s.extends_logText a subjects _ _ _ _

/-- Asking for subjects of the log adds to what is told and changes nothing else. -/
theorem extends_run (hparse : parse s.environment s.argv = .ok a) (subjects : List Subject) :
    (s.telling subjects).run.Extends s.run := by
  have hparse' : parse (s.telling subjects).environment (s.telling subjects).argv =
      .ok (a.alsoTelling subjects) := parse_debug_front hparse subjects
  have hconfig : (a.alsoTelling subjects).config = a.config := rfl
  have hlist : (a.alsoTelling subjects).list = a.list := rfl
  unfold run
  rw [hparse, hparse']
  dsimp only
  unfold serve
  rw [hconfig, hlist]
  cases Run.markerOf a.config with
  | error e => exact s.extends_logText a subjects _ _ _ _
  | ok m =>
    dsimp only
    split
    · exact s.extends_list a subjects
    · exact s.extends_test a m subjects

end Situation
end CommandLine

/-! ## §4 Every schedule -/

/-- What is written for results, by the time that they took altogether. -/
def Reporter.report (style : Style) (sink : Sink) (xs : List Result) (elapsed : Duration) : Bytes :=
  (((fresh style sink).recordEach xs).finish elapsed).1.sink.content

namespace CommandLine

/-- Two runs that came to the same but for the times that were measured: when they began, how long each
    fixture took, and how long they took altogether. -/
structure SameButTimes (style : Style) (sink : Sink) (st st' : Schedule.State) : Prop where
  returned : st'.returned = st.returned
  results : st'.recorded.map (·.untimed) = st.recorded.map (·.untimed)
  written : ∀ run ∈ [st, st'], ∃ timestamp elapsed, run.reporter.sink.content =
    Reporter.report { style with timestamp := timestamp } sink run.recorded elapsed

namespace Situation

variable {s : Situation} {a : Arguments} {m : Marker} {fixtures : List Fixture}

/-- The fixtures run at once, with any numbers for their tasks, from any time on. -/
def plan (s : Situation) (a : Arguments) (m : Marker) (fixtures : List Fixture)
    (number : Nat → Nat) (timestamp : String) : Schedule.Plan :=
  .fresh (s.setting a m) fixtures (Run.jobsOf s.available a.config) number .never
    { s.style a with timestamp := timestamp } s.sink

/-- What is told on the side if the fixtures are run and tell a log. -/
def toldWith (s : Situation) (a : Arguments) (m : Marker) (fixtures : List Fixture)
    (log : List Event) : String :=
  s.logText a (Schedule.openingEvents (s.setting a m) a.config (Run.jobsOf s.available a.config) fixtures
    ++ log)

/-- A schedule that comes to its end counts the verdicts on the fixtures, records what they come to under
    the numbers of their tasks, and writes the report. -/
theorem report_of_plan (h : s.IsSound) {number : Nat → Nat} {timestamp : String} {st : Schedule.State}
    {v : Except HarnessError Summary} (hst : (s.plan a m fixtures number timestamp).Completes st v) :
    v = .ok ⟨fixtures.countP (Run.verdictOf (s.setting a m)),
        fixtures.countP (!Run.verdictOf (s.setting a m) ·), false⟩ ∧
      st.recorded.map (·.untimed) =
        (s.plan a m fixtures number timestamp).results.map (·.untimed) ∧
      ∃ elapsed, st.reporter.sink.content =
        Reporter.report { s.style a with timestamp := timestamp } s.sink st.recorded elapsed := by
  obtain ⟨hdelivered, summary, hv, hreport⟩ := Run.reportsAll_of_completes h.sink_neverFails hst
  obtain ⟨-, elapsed, _, hclosed, -⟩ := Schedule.report_of_completes rfl h.sink_neverFails hst
  refine ⟨?_, Schedule.untimed_of_completes rfl h.sink_neverFails hst, elapsed,
    congrArg (·.1.sink.content) hclosed.symm⟩
  rw [hv, hreport.counts_eq hdelivered]

/-- What it comes to that subjects of the log are asked for in front of a command line. -/
structure OnlyTellsMore (s : Situation) (a : Arguments) (subjects : List Subject) : Prop where
  /-- The command line is read, and asks for the same things otherwise. -/
  read : parse s.environment (s.telling subjects).argv = .ok (a.alsoTelling subjects)
  /-- The program writes the same, exits with the same status, and tells more lines. -/
  run : (s.telling subjects).run.Extends s.run
  /-- So it does if many fixtures are run at once, whatever the schedules are. Only the numbers that tasks
      happen to get may show, where the executable breaks down. -/
  schedules : ∀ m fixtures, Run.markerOf a.config = .ok m →
    Run.selected s.host a.config = .ok fixtures → ∀ number number' timestamp timestamp',
    number = number' ∨ (s.setting a m).executor.NeverBreaksDown →
    let plan := s.plan a m fixtures number timestamp
    let plan' := (s.telling subjects).plan (a.alsoTelling subjects) m fixtures number' timestamp'
    plan.ComesToEnd ∧ plan'.ComesToEnd ∧
      ∀ st log v st' log' v', plan.Logs st log → st.returned = some v →
        plan'.Logs st' log' → st'.returned = some v' →
          SameButTimes (s.style a) s.sink st st' ∧
            (textLines (s.toldWith a m fixtures log)).Subperm
              (textLines ((s.telling subjects).toldWith (a.alsoTelling subjects) m fixtures log'))

/-- Any number of subjects of the log can be asked for in front of a command line that is read. They
    change neither what is written nor the exit status, and the lines told without them are told with them,
    whatever other subjects are asked for and whether or not the log is verbose. -/
theorem only_tells_more (s : Situation) (h : s.IsSound) {a : Arguments}
    (hparse : parse s.environment s.argv = .ok a) (subjects : List Subject) :
    s.OnlyTellsMore a subjects where
  read := parse_debug_front hparse subjects
  run := extends_run hparse subjects
  schedules m fixtures _ _ number number' timestamp timestamp' hnumber := by
    obtain ⟨hpositive, hlimit⟩ := h.jobsOf hparse
    refine ⟨Schedule.comesToEnd hpositive hlimit, Schedule.comesToEnd hpositive hlimit, ?_⟩
    intro st log v st' log' v' hlogs hreturned hlogs' hreturned'
    -- The fixtures are run in the same way, so both are schedules of the one situation.
    change (s.plan a m fixtures number' timestamp').Logs st' log' at hlogs'
    obtain ⟨hv, hresults, elapsed, hwritten⟩ := report_of_plan h (hlogs.completes hreturned)
    obtain ⟨hv', hresults', elapsed', hwritten'⟩ := report_of_plan h (hlogs'.completes hreturned')
    have hformat : ({ s.style a with timestamp := timestamp } : Style).format =
        ({ s.style a with timestamp := timestamp' } : Style).format := rfl
    have hsame : (s.plan a m fixtures number timestamp).results =
        (s.plan a m fixtures number' timestamp').results := Schedule.results_congr hnumber
    refine ⟨⟨?_, ?_, ?_⟩, ?_⟩
    · rw [hreturned, hreturned', hv, hv']
    · rw [hresults, hresults', hsame]
    · intro run hrun
      rcases List.mem_pair.mp hrun with rfl | rfl
      · exact ⟨timestamp, elapsed, hwritten⟩
      · exact ⟨timestamp', elapsed', hwritten'⟩
    · apply logText_subperm
      exact (Schedule.perm_of_logs h.sink_neverFails h.sink_neverFails hformat hnumber hlogs hlogs'
        hreturned hreturned').append_left _

/-- The one fixture cannot be run, and two subjects are asked for, one of them twice. Nothing breaks down, so
    this holds of any two schedules. -/
theorem only_tells_more_withoutExecutable :
    withoutExecutable.IsSound ∧
      parse [] (["--debug=runner", "--debug=execution", "--debug=runner", "--error-marker=x"].map
          Utf8.encodeString) =
        .ok { Arguments.default with errorMarker := "x", debug := [.runner, .execution, .runner] } ∧
      (withoutExecutable.telling [.runner, .execution, .runner]).run.Extends withoutExecutable.run ∧
      ∀ a m, (withoutExecutable.setting a m).executor.NeverBreaksDown := by
  have hparse : parse withoutExecutable.environment withoutExecutable.argv =
      .ok { Arguments.default with errorMarker := "x" } := by decide +kernel
  have hsound : withoutExecutable.IsSound := by
    refine ⟨rfl, by decide, by decide, fun a jobs ha hjobs => ?_⟩
    obtain rfl := Except.ok.inj (hparse.symm.trans ha)
    cases hjobs
  have hmore := only_tells_more withoutExecutable hsound hparse [.runner, .execution, .runner]
  exact ⟨hsound, hmore.read, hmore.run, fun _ _ => Program.executor_neverBreaksDown _ _⟩

end Situation
end CommandLine
end Conformance
