import Conformance.Host.Launch
import Conformance.Shell.Reader
import Conformance.Shell.Signal

/-!
# Running

What it takes to run a script: somebody who runs a single command or program. Scripts are read and run
line by line. What is to be done at the end of a shell and at signals are scripts as well.
-/

namespace Conformance.Shell

/-- Something that can be run. -/
inductive Task where
  | command (c : Command)
  | program (c : Launch.Command)

/-- Who runs commands and programs: the machine afterwards, and how they were left. -/
abbrev Runner := Task → Machine → Machine × Flow

/-- Repeats a step until it tells how things end, at most a number of times. -/
def iterate {σ β : Type} (step : σ → β ⊕ σ) (tired : σ → β) : (count : Nat) → σ → β
  | 0, s => tired s
  | n + 1, s =>
    match step s with
    | .inl b => b
    | .inr s => iterate step tired n s

/-- What is done with the machines of commands one after the other, until one does not simply end. -/
def inTurn {α : Type} (run : α → Machine → Machine × Flow) : List α → Machine → Machine × Flow
  | [], m => (m, .next)
  | a :: rest, m =>
    match run a m with
    | (m, .next) => inTurn run rest m
    | r => r

/-- The state after a command and how it is left: a strict shell exits if the command failed. -/
def checked (m : Machine) (flow : Flow) : Machine × Flow :=
  (m, if flow = .next && m.status != 0 && !m.tested && m.has 'e' then .exit else flow)

/-- How a command is left whose words could not be expanded. -/
def breakOff (m : Machine) : Machine × Flow :=
  ({ m with halted := false }, if m.budget = 0 || m.isLate then .stuck else .refused)

/-- How a loop goes on after a part of it. -/
inductive LoopStep where
  | onward
  | done (flow : Flow)
  deriving DecidableEq, Repr

/-- How a loop goes on after its condition or its body was left. -/
def loopStep : Flow → LoopStep
  | .next => .onward
  | .again n => if n ≤ 1 then .onward else .done (.again (n - 1))
  | .leave n => .done (if n ≤ 1 then .next else .leave (n - 1))
  | flow => .done flow

/-- Whether a machine can go on, and how it is left otherwise. -/
def goingOn (m : Machine) : Flow := if m.isLate || m.budget = 0 then .stuck else .next

/-! ## Scripts -/

/-- Runs a script in the shell, line by line. -/
def runText (r : Runner) (source : Bytes) (m : Machine) : Machine × Flow :=
  iterate
    (fun (s : Cursor × Machine) =>
      let (cursor, m) := s
      match readLine m.aliases cursor with
      | .error fault =>
        let told := { m with line := fault.line }.complain ("Syntax error: " ++ fault.text)
        .inl (told.withStatus 2, .refused)
      | .ok none => .inl (m, .next)
      | .ok (some (c, cursor)) =>
        if m.has 'n' then .inr (cursor, m)
        else
          match r (.command c) m with
          | (m, .next) => .inr (cursor, m)
          | r => .inl r)
    (fun s => (s.2, .stuck)) (source.length + 1) (Cursor.start source, m)

/-- Does what is left to do at the end of a shell. -/
def runLast (r : Runner) (m : Machine) (flow : Flow) : Machine × Flow :=
  match flow with
  | .stuck | .killed _ => (m, flow)
  | flow =>
    match m.traps.find? (·.1 = 0) with
    | none => (m, flow)
    | some (_, action) =>
      let bare := { m with
        traps := m.traps.filter (·.1 ≠ 0), ending := some m.status, tested := false }
      let (after, last) := runText r action bare
      match last with
      | .next => (after.withStatus m.status, flow)
      | last => (after, last)

/-! ## Signals -/

/-- The signals that a shell has to look at. -/
def ownSignals (m : Machine) : List Nat :=
  if m.depth = 0 then (m.signals.filter fun s => s.1 = m.processId).map (·.2) else []

/-- Whether a signal ends the shell while it waits for a program. -/
def isStruck (m : Machine) : Bool :=
  (ownSignals m).any fun s => match reactionTo m.traps s with | .flow _ => true | _ => false

/-- Does what is to be done at the signals that came. -/
def answerSignals (r : Runner) (m : Machine) (flow : Flow) : Machine × Flow :=
  match ownSignals m with
  | [] => (m, flow)
  | signals =>
    let others := m.signals.filter fun s => s.1 ≠ m.processId
    let (m, reached) := inTurn
      (fun (signal : Nat) (m : Machine) =>
        match reactionTo m.traps signal with
        | .nothing => (m, .next)
        | .flow f => (m, f)
        | .action script =>
          let (after, last) := runText r script { m with ending := some m.status }
          let status := if last = .next then m.status else after.status
          ({ after with ending := m.ending }.withStatus status, last))
      signals { m with signals := others }
    (m, if reached = .next then flow else reached)

end Conformance.Shell
