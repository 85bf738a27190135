import Conformance.Shell.Builtin.Control
import Conformance.Shell.Expansion
import Conformance.Shell.Redirection
import Conformance.Shell.Runner
import Conformance.Shell.Tool.Launch

/-!
# Shells inside of shells

Commands in the background are put off until the shell waits for something; then they are run in the
order in which their parts end. Commands in parentheses, and commands whose output is part of a word, are
run at once in a shell of their own.
-/

namespace Conformance.Shell

/-- The traps that a shell keeps inside of another one. -/
def ignoredTraps (m : Machine) : List (Nat × Bytes) := m.traps.filter fun t => t.2.isEmpty

/-- The machine after a program ended, as the one who ran it sees it. -/
def afterProgram (before after : Machine) : Machine :=
  (before.rejoin after).withStatus (after.status % 256)

/-! ## In the background -/

/-- The commands that a command in the background consists of. -/
def Command.parts : Command → List Command
  | .sequence cs => cs
  | .subshell _ body =>
    match body with
    | .sequence cs => cs
    | body => [body]
  | c => [c]

/-- The machine after a part of a command in the background, and the time at which that part ends. -/
structure JobStep where
  time : Nat
  machine : Machine

/-- The machine with what is known of a command in the background. -/
def putJob (m : Machine) (job : Job) : Machine :=
  { m with jobs := m.jobs.map fun j => if j.id = job.id then job else j }

/-- The first of some steps. -/
def firstStep? (steps : List JobStep) : Option JobStep :=
  steps.foldl
    (fun acc s =>
      match acc with
      | some first => if s.time < first.time then some s else acc
      | none => some s)
    none

/-- How many parts of commands in the background may be run while the shell waits. -/
def jobLimit : Nat := 10000

/-- The budget of a part of a command in the background. -/
def jobBudget : Nat := 20000

/-- The next part of a command in the background, run as if its time had come; `none` if it does not
    end. -/
def jobStep (r : Runner) (m : Machine) (job : Job) : Option JobStep :=
  match job.pending with
  | none => none
  | some p =>
    let inner := { m with
      toFrame := p.shell, clock := p.time, deadline := none, budget := min m.budget jobBudget
      files := { m.files with cwd := p.place } }
    let (after, flow) : Machine × Flow :=
      match p.commands with
      | c :: _ => r (.command c) inner
      | [] => runLast r inner .exit
    let (after, flow) := if flow = .next then (after, flow) else runLast r after flow
    if flow = .stuck then none
    else
      let outside := { after with
        toFrame := m.toFrame, clock := m.clock, deadline := m.deadline
        budget := m.budget - (inner.budget - after.budget)
        files := { after.files with cwd := m.files.cwd } }
      let status : Nat := match flow with | .killed s => 128 + s | _ => after.status % 256
      let left? : Option Pending :=
        if flow = .next then
          some ⟨p.commands.tail, after.toFrame, after.files.cwd, after.clock⟩
        else none
      some ⟨after.clock, putJob outside { job with pending := left?, status := status }⟩

/-- Runs what is due in the background until a time. Tells whether somebody was struck by a signal. -/
def catchUp (r : Runner) (m : Machine) (time : Nat) : Machine × Flow :=
  iterate
    (fun (m : Machine) =>
      if isStruck m then .inl (m, .next)
      else
        match firstStep? (m.jobs.filterMap (jobStep r m)) with
        | some s =>
          if s.time ≤ time then .inr (s.machine.waitUntil s.time) else .inl (m, .next)
        | none => .inl (m, .next))
    (fun m => (m, .stuck)) jobLimit m

/-- Runs what is due in the background. -/
def settle (r : Runner) (m : Machine) : Machine :=
  if m.jobs.any (·.pending.isSome) then (catchUp r m m.clock).1 else m

/-- The program `sleep`. -/
def runSleep (r : Runner) (m : Machine) (args : List Bytes) : Machine × Flow :=
  match Tool.sleep m args with
  | (m, none) => (m, .next)
  | (m, some wanted) =>
    let last := m.clock + 1000000000000000
    let time := min (wanted.getD last) (m.deadline.getD last)
    let (m, _) := if m.jobs.any (·.pending.isSome) then catchUp r m time else (m, .next)
    if isStruck m then (m, .next)
    else if wanted.isNone && m.deadline.isNone then (m, .stuck)
    else
      let m := m.waitUntil time
      (m, if m.isLate || wanted.isNone then .stuck else .next)

/-- The command `wait`. -/
def runWait (r : Runner) (m : Machine) (args : List Bytes) : Machine × Flow :=
  let waitFor (m : Machine) (isAwaited : Job → Bool) : Machine × Flow :=
    iterate
      (fun (m : Machine) =>
        if !m.jobs.any fun j => isAwaited j && j.pending.isSome then .inl (m, .next)
        else if !(ownSignals m).isEmpty then .inl (m, .again 0)
        else
          match firstStep? (m.jobs.filterMap (jobStep r m)) with
          | some s =>
            let m := s.machine.waitUntil s.time
            if m.isLate then .inl (m, .stuck) else .inr m
          | none => .inl (m, .stuck))
      (fun m => (m, .stuck)) jobLimit m
  let told (m : Machine) (flow : Flow) (status : Nat) : Machine × Flow :=
    match flow with
    | .next => (m.withStatus status, .next)
    | .again _ => (m.withStatus (128 + ((ownSignals m).head?.getD 0)), .next)
    | flow => (m, flow)
  match args with
  | [] =>
    let (after, flow) := waitFor m fun j => j.owner = m.processId
    told after flow 0
  | args =>
    args.foldl
      (fun (acc : Machine × Flow) a =>
        if acc.2 ≠ .next then acc
        else
          let m := acc.1
          let id? : Option Nat :=
            match a with
            | b :: index =>
              if b = ascii '%' then
                (natural? index).bind fun n =>
                  (m.jobs.find? fun j => j.owner = m.processId && j.index = n).map (·.id)
              else natural? a
            | [] => none
          match id? with
          | none =>
            if a.head? = some (ascii '%') then Builtin.refuse m ("No such job: " ++ text a)
            else Builtin.refuseNumber m a
          | some id =>
            if !m.jobs.any fun j => j.id = id && j.owner = m.processId then
              (m.withStatus 127, .next)
            else
              let (after, flow) := waitFor m fun j => j.id = id
              let status := ((after.jobs.find? fun j => j.id = id).map (·.status)).getD 127
              told after flow status)
      (m.withStatus 0, .next)

/-! ## At once -/

/-- Runs a command in a shell inside of the shell. -/
def runInside (r : Runner) (c : Command) (m : Machine) : Machine × Flow :=
  let m := settle r m
  let inner := { m with traps := ignoredTraps m, depth := m.depth + 1 }
  let (after, flow) := r (.command c) inner
  let (after, flow) := runLast r after flow
  let outside := afterProgram m after
  match flow with
  | .stuck => (outside, .stuck)
  | .killed s => (afterSignal outside s, .next)
  | _ => (outside, .next)

/-- Runs a command inside of a word and keeps its output. -/
def keepOutput (r : Runner) (m : Machine) (c : Command) : Bytes × Machine :=
  let (inner, id) := m.keep 1
  let (after, flow) := runInside r c { inner with tested := false }
  let (bs, after) := after.takeKept id
  let status := after.status
  let m := { { after with toFrame := m.toFrame } with outputStatus := some status }
  (bs, if flow = .stuck then { m with halted := true, budget := if m.isLate then m.budget else 0 }
       else m)

/-- How deep words may stand inside of one another. -/
def wordLimit : Nat := 1000

/-- The targets of redirections. -/
def expandTargets (r : Runner) (m : Machine) (rs : List Redirect) :
    List (Nat × RedirectKind × Bytes) × Machine :=
  rs.foldl
    (fun (acc : List (Nat × RedirectKind × Bytes) × Machine) e =>
      if acc.2.halted then acc
      else
        let (bs, m) :=
          if e.kind = .here then
            let (atoms, m) := atomsOf (keepOutput r) wordLimit false false acc.2 e.target
            ((Atom.toField atoms).map (·.1), m)
          else octetsOf (keepOutput r) wordLimit false acc.2 e.target
        (acc.1 ++ [(e.stream, e.kind, bs)], m))
    ([], m)

end Conformance.Shell
