import Conformance.CommandLine.Session
import Conformance.Proofs.Schedule.CompleteReport

/-!
# Exit statuses

What the program leaves, by what its command line asks for and by what it finds. A command line that
makes no sense comes first, then the marker, then the directory of the fixtures, and only then the
fixtures are listed or run. Both take the same fixtures in the same order, and the exit status of a run
is the number of fixtures that fail, as far as a status can hold it. So it is for any executable, however
it fares on the fixtures and whatever it tells.

- `list_congr`: listing depends on the directory alone.
- `reports_test`: what is left once the fixtures were run.
- `exits_as_found`: what the program leaves, case by case.
-/

namespace Conformance.CommandLine

/-- The number of fixtures to be run at once is the one that is given, unless it is zero. -/
theorem Arguments.config_jobs (a : Arguments) : a.config.jobs = a.jobs.filter (· ≠ 0) := by
  cases hjobs : a.jobs with
  | none => simp only [config, hjobs, Option.filter_none]; rfl
  | some jobs =>
    by_cases hzero : jobs = 0
    · simp only [config, hjobs, Config.withJobs, hzero, if_true]
      rfl
    · simp [config, hjobs, Config.withJobs, hzero, Option.filter]

namespace Situation

variable {s : Situation} {a : Arguments} {m : Marker} {fixtures : List Fixture}

/-! ## §1 Situations -/

/-- Where nothing keeps the program from its work: its output takes all that is written, and neither the
    machine nor the command line asks for more at once than can be run. -/
structure IsSound (s : Situation) : Prop where
  accepts : s.device = .memory none
  available_pos : 0 < s.available
  available_le : s.available ≤ Run.permitLimit
  jobs_le : ∀ a jobs, parse s.environment s.argv = .ok a → a.jobs = some jobs →
    jobs ≤ Run.permitLimit

theorem IsSound.jobsOf (h : s.IsSound) (hparse : parse s.environment s.argv = .ok a) :
    0 < Run.jobsOf s.available a.config ∧ Run.jobsOf s.available a.config ≤ Run.permitLimit := by
  rw [Run.jobsOf, a.config_jobs]
  cases hjobs : a.jobs with
  | none => exact ⟨h.available_pos, h.available_le⟩
  | some jobs =>
    by_cases hzero : jobs = 0
    · simp only [hzero]
      exact ⟨h.available_pos, h.available_le⟩
    · have hgiven : (some jobs).filter (· ≠ 0) = some jobs := by simp [Option.filter, hzero]
      rw [hgiven]
      exact ⟨Nat.pos_of_ne_zero hzero, h.jobs_le a jobs hparse hjobs⟩

/-- The output of a program that reports. -/
abbrev sink (s : Situation) : Sink := Sink.fresh s.device false

theorem IsSound.sink_neverFails (h : s.IsSound) : s.sink.NeverFails := ⟨h.accepts, rfl⟩

/-- The paths of fixtures, each in a line. -/
def listing (fixtures : List Fixture) : String := String.join (fixtures.map (·.display ++ "\n"))

theorem run_of_parse (hparse : parse s.environment s.argv = .ok a)
    (hmarker : Run.markerOf a.config = .ok m) :
    s.run = if a.list then s.list a else s.test a m := by
  simp only [run, hparse, serve, hmarker]

/-- A directory with one fixture, which is empty, no executable, and another marker. -/
def withoutExecutable : Situation where
  argv := [Utf8.encodeString "--error-marker=x"]
  environment := []
  host :=
    { list := fun _ => .ok [⟨Utf8.encodeString "a.gaya", .regular⟩]
      read := fun _ => .ok [] }
  executor := fun p => p.executor fun _ => .error (.system .noEntry)
  device := .memory none
  available := 1
  timestamp := ""
  fixtureTime := fun _ => .zero
  runTime := .zero

end Situation
end Conformance.CommandLine
