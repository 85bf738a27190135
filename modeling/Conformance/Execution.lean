import Conformance.Run

/-!
# Execution

The executable under test is run with the path of a fixture as its one argument, without input and
with its output going nowhere. It succeeds if it ends by itself with status zero. It fails if it
cannot be launched, ends in another way, cannot be waited for, or takes longer than it may.

This is the executor of the specification (§4.3, and `ProcessExecutor` of §10.5, whose `run` is
`Program.attempt`). The executable is opaque (§1), and so is the machine that runs it: what comes of
launching it, of waiting for it and of killing it are replies, of which nothing is assumed.
-/

namespace Conformance

/-- How a process ended. -/
inductive ExitStatus where
  | exited (code : Nat)
  /-- It was ended by a signal, and what it had in memory was kept or not. -/
  | killed (signal : Nat) (kept : Bool)
  deriving DecidableEq, Repr

namespace ExitStatus

/-- The name of a signal, if it has one. -/
def signalName? : Nat → Option String
  | 1 => some "SIGHUP"
  | 2 => some "SIGINT"
  | 3 => some "SIGQUIT"
  | 4 => some "SIGILL"
  | 5 => some "SIGTRAP"
  | 6 => some "SIGABRT"
  | 7 => some "SIGBUS"
  | 8 => some "SIGFPE"
  | 9 => some "SIGKILL"
  | 10 => some "SIGUSR1"
  | 11 => some "SIGSEGV"
  | 12 => some "SIGUSR2"
  | 13 => some "SIGPIPE"
  | 14 => some "SIGALRM"
  | 15 => some "SIGTERM"
  | 16 => some "SIGSTKFLT"
  | 17 => some "SIGCHLD"
  | 18 => some "SIGCONT"
  | 19 => some "SIGSTOP"
  | 20 => some "SIGTSTP"
  | 21 => some "SIGTTIN"
  | 22 => some "SIGTTOU"
  | 23 => some "SIGURG"
  | 24 => some "SIGXCPU"
  | 25 => some "SIGXFSZ"
  | 26 => some "SIGVTALRM"
  | 27 => some "SIGPROF"
  | 28 => some "SIGWINCH"
  | 29 => some "SIGIO"
  | 30 => some "SIGPWR"
  | 31 => some "SIGSYS"
  | _ => none

/-- How the end of a process is told. -/
def text : ExitStatus → String
  | .exited code => "exit status: " ++ toString code
  | .killed signal kept =>
    "signal: " ++ toString signal ++ (signalName? signal).elim "" (fun name => " (" ++ name ++ ")")
      ++ if kept then " (core dumped)" else ""

/-- Whether a process ended well. -/
def isSuccess (status : ExitStatus) : Bool := status = .exited 0

end ExitStatus

/-- A process that was launched, by what the machine replies about it. -/
structure Process where
  /-- What comes of waiting for its end. -/
  waited : Except IoError ExitStatus
  /-- Whether a limit is over before its end. -/
  outlasts : Duration → Bool
  /-- Why it cannot be killed, if it cannot. -/
  unkillable : Option IoError

/-- A program that is run on fixtures, and how long a run may take. -/
structure Program where
  path : Path
  timeout : Option Duration
  deriving DecidableEq, Repr

/-- A run of a program on a fixture: how it went, and what is told on the side. -/
structure Attempt where
  outcome : Outcome
  events : List Event
  deriving DecidableEq, Repr

namespace Program

/-- An event about running a program. -/
def event (level : Level) (message : String) : Event := ⟨level, some .execution, message⟩

/-- A run that was waited for. -/
def waitedFor (p : Program) (fixture : Path) : Except IoError ExitStatus → Attempt
  | .ok status =>
    ⟨.ofBool status.isSuccess, [event .debug (fixture.display ++ ": " ++ status.text)]⟩
  | .error e =>
    ⟨.failed, [event .warn
      ("failed waiting on " ++ p.path.display ++ " for " ++ fixture.display ++ ": " ++ e.message)]⟩

/-- A run that took too long and was killed. -/
def timedOut (fixture : Path) (limit : Duration) (unkillable : Option IoError) : Attempt :=
  ⟨.failed, event .warn (fixture.display ++ ": timed out after " ++ limit.text) ::
    unkillable.toList.map fun e => event .debug ("failed to kill timed out run: " ++ e.message)⟩

/-- A run of a program on a fixture, by what came of launching it. -/
def attempt (p : Program) (fixture : Path) : Except IoError Process → Attempt
  | .error e =>
    ⟨.failed, [event .warn ("failed to launch " ++ p.path.display ++ ": " ++ e.message)]⟩
  | .ok process =>
    match p.timeout with
    | none => p.waitedFor fixture process.waited
    | some limit =>
      if process.outlasts limit then timedOut fixture limit process.unkillable
      else p.waitedFor fixture process.waited

/-- The executor that runs a program, by what comes of launching it on a fixture. -/
def executor (p : Program) (launch : Path → Except IoError Process) : Executor where
  verdict fixture := .ended (p.attempt fixture (launch fixture)).outcome
  events fixture := (p.attempt fixture (launch fixture)).events

/-! ## What a run comes to -/

variable {p : Program} {fixture : Path}

theorem waitedFor_outcome {waited : Except IoError ExitStatus} :
    (p.waitedFor fixture waited).outcome = .succeeded ↔ waited = .ok (.exited 0) := by
  cases waited with
  | error e => simp [waitedFor]
  | ok status =>
    by_cases h : status = .exited 0 <;> simp [waitedFor, ExitStatus.isSuccess, Outcome.ofBool, h]

/-- A run succeeds exactly if the program could be launched, no limit was over before its end, and it
    ended by itself with status zero. Everything else is a failure, whatever the reason. -/
theorem attempt_outcome {reply : Except IoError Process} :
    (p.attempt fixture reply).outcome = .succeeded ↔
      ∃ process, reply = .ok process ∧ (∀ limit ∈ p.timeout, process.outlasts limit = false) ∧
        process.waited = .ok (.exited 0) := by
  cases reply with
  | error e => simp [attempt]
  | ok process =>
    simp only [Except.ok.injEq, exists_eq_left']
    cases htimeout : p.timeout with
    | none => simp [attempt, htimeout, waitedFor_outcome]
    | some limit =>
      cases hlate : process.outlasts limit with
      | true => simp [attempt, htimeout, hlate, timedOut]
      | false => simp [attempt, htimeout, hlate, waitedFor_outcome]

/-- A run warns exactly if it came to no exit status: if the program could not be launched, a limit was over
    before its end, or its end could not be waited for. How it exited is told to those only who ask. -/
theorem attempt_warns {reply : Except IoError Process} :
    (∃ e ∈ (p.attempt fixture reply).events, e.level = .warn) ↔
      ¬∃ process status, reply = .ok process ∧
        (∀ limit ∈ p.timeout, process.outlasts limit = false) ∧ process.waited = .ok status := by
  cases reply with
  | error e => simp [attempt, event]
  | ok process =>
    -- What is told of a process that was waited for depends on whether that worked.
    have hwaited : (∃ e ∈ (p.waitedFor fixture process.waited).events, e.level = .warn) ↔
        ¬∃ status, process.waited = .ok status := by
      cases process.waited <;> simp [waitedFor, event]
    cases htimeout : p.timeout with
    | none => simpa [attempt, htimeout] using hwaited
    | some limit =>
      cases hlate : process.outlasts limit with
      | true => simp [attempt, htimeout, hlate, timedOut, event]
      | false => simpa [attempt, htimeout, hlate] using hwaited

/-- Whatever the machine replies, a run comes to an end, well or badly. -/
theorem executor_neverBreaksDown (p : Program) (launch : Path → Except IoError Process) :
    (p.executor launch).NeverBreaksDown := fun _ => ⟨_, rfl⟩

end Program
end Conformance
