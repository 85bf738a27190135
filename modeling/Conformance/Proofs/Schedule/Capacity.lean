import Conformance.Proofs.ExitStatus
import Conformance.Proofs.CommandLine.Requests
import Conformance.Proofs.Schedule.Ending

/-!
# How many fixtures can be run at once

A permit is issued for each fixture that is run at once, and there is a limit to the permits. Up to this
limit every run comes to its end, whatever schedule it follows, whatever goes wrong with a fixture and
however long one may take. Beyond it none does: the run breaks down once the fixtures have been found, be
there one of them or none. Yet what can be asked for goes eight times as far as the limit.

- `exists_accept_jobs_iff`: the numbers that can be asked for.
- `canRun_iff`, `breaksDown_iff`: up to the limit all is well, and beyond it nothing is.
- `runs_within_limit`: so it is with every number that can be asked for.
- `Situation.run_beyond_limit`: what the program leaves.
-/

namespace Conformance

/-! ## §1 Numbers that can be asked for -/

namespace CommandLine

theorem readDigits_lt {cs : List Char} {value n : Nat} (hvalue : value < numberLimit)
    (h : readDigits value cs = .ok n) : n < numberLimit := by
  induction cs generalizing value with
  | nil =>
    cases h
    exact hvalue
  | cons c cs ih =>
    rw [readDigits] at h
    split at h
    next => cases h
    next =>
      dsimp only at h
      split at h
      next => cases h
      next hroom => exact ih (Nat.lt_of_not_le hroom) h

theorem readNumber_lt {text : String} {n : Nat} (h : readNumber text = .ok n) : n < numberLimit := by
  have hzero : 0 < numberLimit := by decide
  unfold readNumber at h
  split at h
  next => cases h
  next => cases h
  next => exact readDigits_lt hzero h
  next => exact readDigits_lt hzero h

theorem readPositive_bounds {text : String} {n : Nat} (h : readPositive text = .ok n) :
    0 < n ∧ n < numberLimit := by
  rw [readPositive] at h
  split at h
  next => cases h
  next hzero => exact ⟨Nat.pos_of_ne_zero fun hn => hzero (hn ▸ h), readNumber_lt h⟩

/-- The numbers that can be asked for are those of 64 bits, zero apart. -/
theorem exists_accept_jobs_iff {n : Nat} :
    (∃ text, ∀ a : Arguments, a.accept .jobs text = .ok { a with jobs := some n }) ↔
      0 < n ∧ n < numberLimit := by
  constructor
  · rintro ⟨text, h⟩
    have haccept := h .default
    rw [Arguments.accept] at haccept
    cases hread : readWith .jobs readPositive text with
    | error m =>
      rw [hread] at haccept
      cases haccept
    | ok m =>
      rw [hread] at haccept
      cases haccept
      obtain ⟨_, -, hpositive⟩ := readWith_eq_ok hread
      exact readPositive_bounds hpositive
  · rintro ⟨hpos, hlimit⟩
    exact ⟨Utf8.encodeString (toString n),
      fun a => Request.accept_value (x := .jobs n) ⟨hpos, hlimit⟩ a⟩

end CommandLine

/-! ## §2 Up to the limit, and beyond it -/

namespace Schedule

/-- What a run may return: its counts, or an error of the report. -/
inductive Orderly : Except HarnessError Summary → Prop where
  | counts (summary : Summary) : Orderly (.ok summary)
  | report (e : ReportError) : Orderly (.error (.report e))

theorem Orderly.mapError (w : Except ReportError Summary) : Orderly (w.mapError .report) := by
  cases w with
  | error e => exact .report e
  | ok summary => exact .counts summary

/-- So many fixtures can be run at once: every schedule comes to its end, however it is shut down and
    whatever it reports to, and so does the run that takes one fixture after the other. -/
structure CanRun (s : Run.Setting) (c : Config) (fixtures : List Fixture) (jobs : Nat) : Prop where
  comesToEnd : ∀ number shutdown style sink,
    (Plan.fresh s fixtures jobs number shutdown style sink).ComesToEnd
  orderly : ∀ number shutdown style sink st v,
    (Plan.fresh s fixtures jobs number shutdown style sink).Completes st v → Orderly v
  returns : ∀ stop elapsed reporter, ∃ reporter' v called,
    Run.run s c jobs stop elapsed reporter = .returned reporter' v called ∧ Orderly v

/-- A run breaks down before any of its fixtures is looked at. -/
structure BreaksDown (s : Run.Setting) (c : Config) (fixtures : List Fixture) (jobs : Nat) : Prop where
  start : ∀ number shutdown style sink,
    (Plan.fresh s fixtures jobs number shutdown style sink).start? = none
  brokeDown : ∀ stop elapsed reporter, Run.run s c jobs stop elapsed reporter = .brokeDown

variable {s : Run.Setting} {c : Config} {fixtures : List Fixture} {jobs : Nat}

theorem canRun_of_le (hselected : Run.selected s.host c = .ok fixtures) (hjobs : 0 < jobs)
    (hlimit : jobs ≤ Run.permitLimit) : CanRun s c fixtures jobs where
  comesToEnd _ _ _ _ := Schedule.comesToEnd hjobs hlimit
  orderly number shutdown style sink st v h := by
    obtain ⟨-, -, w, rfl, -⟩ := ending_of_completes h
    exact .mapError w
  returns stop elapsed reporter := by
    obtain ⟨-, -, reporter', w, hcollect, -⟩ :=
      Run.ending_of_collect stop elapsed reporter (Run.results s fixtures)
    exact ⟨reporter', _, _, Run.run_of_collect hselected hlimit hcollect, .mapError w⟩

theorem breaksDown_of_lt (hselected : Run.selected s.host c = .ok fixtures)
    (hlimit : Run.permitLimit < jobs) : BreaksDown s c fixtures jobs where
  start _ _ _ _ := if_pos hlimit
  brokeDown _ _ _ := by simp only [Run.run, hselected, if_pos hlimit]

/-- A run that breaks down does not come to its end. -/
theorem BreaksDown.not_canRun (h : BreaksDown s c fixtures jobs) : ¬CanRun s c fixtures jobs := by
  intro hcan
  obtain ⟨_, _, _, hreturned, -⟩ :=
    hcan.returns (fun _ => false) .zero (.fresh ⟨.terse, false, false, "", ""⟩ .unlimited)
  rw [h.brokeDown] at hreturned
  cases hreturned

/-- The fixtures can be run exactly if the number of permits is within the limit. -/
theorem canRun_iff (hselected : Run.selected s.host c = .ok fixtures) (hjobs : 0 < jobs) :
    CanRun s c fixtures jobs ↔ jobs ≤ Run.permitLimit := by
  refine ⟨fun hcan => Nat.le_of_not_lt fun hlimit => ?_, canRun_of_le hselected hjobs⟩
  exact (breaksDown_of_lt hselected hlimit).not_canRun hcan

theorem breaksDown_iff (hselected : Run.selected s.host c = .ok fixtures) (hjobs : 0 < jobs) :
    BreaksDown s c fixtures jobs ↔ Run.permitLimit < jobs := by
  refine ⟨fun h => Nat.lt_of_not_le fun hlimit => ?_, breaksDown_of_lt hselected⟩
  exact h.not_canRun (canRun_of_le hselected hjobs hlimit)

/-! ## §3 Every number that can be asked for -/

/-- Every number of 64 bits but zero can be asked for, and a configuration takes it as it is. If the
    directory can be listed, whatever the limit on the time of a fixture, the run comes to its end with
    counts or an error of the report exactly if the number is within the limit of permits; beyond it, the
    run breaks down. -/
theorem runs_within_limit (host : Host) (executor : Executor) (m : Marker)
    (elapsed : Fixture → Duration) (c : Config) (timeout : Option Duration) (available : Nat)
    {entries : List DirEntry} (hlist : host.list c.fixturesDir = .ok entries) (jobs : Nat)
    (hpos : 0 < jobs) (hbits : jobs < 0x10000000000000000) :
    (∃ text, ∀ a : CommandLine.Arguments, a.accept .jobs text = .ok { a with jobs := some jobs }) ∧
      Run.jobsOf available ((c.withTimeout timeout).withJobs jobs) = jobs ∧
      ∃ fixtures, Run.selected host ((c.withTimeout timeout).withJobs jobs) = .ok fixtures ∧
        (CanRun ⟨host, executor, m, elapsed⟩ ((c.withTimeout timeout).withJobs jobs) fixtures jobs ↔
          jobs ≤ Run.permitLimit) ∧
        (BreaksDown ⟨host, executor, m, elapsed⟩ ((c.withTimeout timeout).withJobs jobs) fixtures jobs ↔
          Run.permitLimit < jobs) := by
  have hconfig : (c.withTimeout timeout).withJobs jobs =
      { c with timeout := timeout, jobs := some jobs } := if_neg (Nat.ne_of_gt hpos)
  rw [hconfig]
  have hselected := Run.selected_of_list
    (c := { c with timeout := timeout, jobs := some jobs }) hlist
  exact ⟨CommandLine.exists_accept_jobs_iff.mpr ⟨hpos, hbits⟩, rfl, _, hselected,
    canRun_iff hselected hpos, breaksDown_iff hselected hpos⟩

open Run in
/-- As many as there are permits can be run at once, with the longest time that can be asked for; with one
    more, the run breaks down. -/
theorem runs_within_limit_lastPermit :
    CanRun ⟨twoFiles, alwaysFailing, ⟨⟨.char 'x'⟩⟩, fun _ => .zero⟩
        ((markedWithX.withTimeout (some (.ofSeconds 18446744073709551615))).withJobs 2305843009213693951)
        [⟨[0x2F, 0x61]⟩, ⟨[0x2F, 0x62]⟩] 2305843009213693951 ∧
      BreaksDown ⟨twoFiles, alwaysFailing, ⟨⟨.char 'x'⟩⟩, fun _ => .zero⟩
        ((markedWithX.withTimeout none).withJobs 2305843009213693952)
        [⟨[0x2F, 0x61]⟩, ⟨[0x2F, 0x62]⟩] 2305843009213693952 := by
  obtain ⟨-, -, fixtures, hselected, hcan, -⟩ :=
    runs_within_limit twoFiles alwaysFailing ⟨⟨.char 'x'⟩⟩ (fun _ => .zero) markedWithX
      (some (.ofSeconds 18446744073709551615)) 1 rfl 2305843009213693951 (by decide) (by decide)
  obtain ⟨-, -, fixtures', hselected', -, hbreaks⟩ :=
    runs_within_limit twoFiles alwaysFailing ⟨⟨.char 'x'⟩⟩ (fun _ => .zero) markedWithX
      none 1 rfl 2305843009213693952 (by decide) (by decide)
  obtain rfl := Except.ok.inj (hselected.symm.trans selected_twoFiles)
  obtain rfl := Except.ok.inj (hselected'.symm.trans selected_twoFiles)
  exact ⟨hcan.mpr (by decide), hbreaks.mpr (by decide)⟩

open Run in
/-- The first number beyond the limit can be asked for, and the directory can be listed, yet the run breaks
    down. -/
theorem accepted_jobs_breakDown :
    CommandLine.Arguments.default.accept .jobs (Utf8.encodeString "2305843009213693952") =
        .ok { CommandLine.Arguments.default with jobs := some 2305843009213693952 } ∧
      selected twoFiles (markedWithX.withJobs 2305843009213693952) =
        .ok [⟨[0x2F, 0x61]⟩, ⟨[0x2F, 0x62]⟩] ∧
      run ⟨twoFiles, alwaysFailing, ⟨⟨.char 'x'⟩⟩, fun _ => .zero⟩
        (markedWithX.withJobs 2305843009213693952)
        (jobsOf 1 (markedWithX.withJobs 2305843009213693952)) (fun _ => false) .zero
        (.fresh ⟨.pretty, false, false, "", ""⟩ .unlimited) = .brokeDown := by
  have hselected : selected twoFiles (markedWithX.withJobs 2305843009213693952) =
      .ok [⟨[0x2F, 0x61]⟩, ⟨[0x2F, 0x62]⟩] := selected_twoFiles
  exact ⟨by decide +kernel, hselected, (breaksDown_of_lt hselected (by decide)).brokeDown _ _ _⟩

end Schedule

/-! ## §4 The program -/

namespace CommandLine.Situation

/-- Beyond the limit, the program breaks down before anything is written and before the executable is run
    on any fixture. -/
theorem run_beyond_limit {s : Situation} {a : Arguments} {m : Marker} {entries : List DirEntry}
    (hparse : parse s.environment s.argv = .ok a) (hmarker : Run.markerOf a.config = .ok m)
    (hlist : s.host.list a.config.fixturesDir = .ok entries) (hasked : a.list = false)
    (hlimit : Run.permitLimit < Run.jobsOf s.available a.config) :
    s.run.code = 101 ∧ s.run.output = [] ∧ s.run.called = [] := by
  have hbreaks := Schedule.breaksDown_of_lt (s := s.setting a m) (Run.selected_of_list hlist) hlimit
  rw [run_of_parse hparse hmarker, if_neg (Bool.eq_false_iff.mp hasked), test, hbreaks.brokeDown]
  exact ⟨rfl, rfl, rfl⟩

end CommandLine.Situation
end Conformance
