import Conformance.Shell.Simple

/-!
# The interpreter

Commands that are made of other commands, and the runner that runs all of them. How deep commands may
stand inside of one another is bounded by fuel, and how many may be run at all by the budget of the
machine. A command that needs more than that is taken not to end.
-/

namespace Conformance.Shell

/-- Runs a command that may fail. -/
def runCondition (r : Runner) (c : Command) (m : Machine) : Machine × Flow :=
  let (after, flow) := r (.command c) { m with tested := true }
  ({ after with tested := m.tested }, flow)

/-- Runs the stages of a pipeline, each with the output of the one before as its input. They start at
    the same time. `input?` is what the first one reads, and `last` the time at which those before were
    done. -/
def runStages (r : Runner) (start last : Nat) (input? : Option Source) (m : Machine) :
    List Command → Machine × Flow
  | [] => (m, .next)
  | [c] =>
    let fed := { input?.elim m (m.attachSource 0) with clock := start }
    let (after, flow) := runInside r c fed
    let outside := { after with toFrame := m.toFrame }.withStatus after.status
    let outside := outside.waitUntil last
    (outside, if flow = .stuck || outside.isLate then .stuck else .next)
  | c :: rest =>
    let fed := { input?.elim m (m.attachSource 0) with clock := start }
    let (piped, id) := fed.keep 1
    let (after, flow) := runInside r c { piped with budget := m.budget / 2 }
    let (bs, after) := after.takeKept id
    let spared := { { after with toFrame := m.toFrame } with
      budget := if flow = .stuck then m.budget / 2 else m.budget - (m.budget / 2 - after.budget) }
    if flow = .stuck && (after.isLate || bs.isEmpty) then (spared, .stuck)
    else runStages r start (max last after.clock) (some ⟨bs, false, after.clock⟩) spared rest

/-- Runs the first arm with a pattern that matches. -/
def runArms (r : Runner) (value : Bytes) (arms : List (List Word × Option Command)) (m : Machine) :
    Machine × Flow :=
  let found := arms.foldl
    (fun (acc : Option (Option Command) × Machine) arm =>
      arm.1.foldl
        (fun (acc : Option (Option Command) × Machine) pattern =>
          if acc.1.isSome || acc.2.halted then acc
          else
            let (f, m) := fieldOf (keepOutput r) wordLimit false acc.2 pattern
            (if !m.halted && Glob.hits f value then some arm.2 else none, m))
        acc)
    (none, m)
  match found with
  | (some (some body), m) => r (.command body) m
  | (_, m) => if m.halted then breakOff m else (m.withStatus 0, .next)

/-- Runs a command. -/
def runCommand (r : Runner) (c : Command) (m : Machine) : Machine × Flow :=
  match c with
  | .simple line assigned words redirects => runSimple r line assigned words redirects m
  | .sequence cs => inTurn (fun c => r (.command c)) cs m
  | .both first second =>
    let (m, flow) := runCondition r first m
    if flow = .next && m.status = 0 then r (.command second) m else (m, flow)
  | .either first second =>
    let (m, flow) := runCondition r first m
    if flow = .next && m.status != 0 then r (.command second) m else (m, flow)
  | .negated body =>
    let (m, flow) := runCondition r body m
    (if flow = .next then m.withTest (m.status != 0) else m, flow)
  | .choice condition body otherwise =>
    let (m, flow) := runCondition r condition m
    if flow ≠ .next then (m, flow)
    else if m.status = 0 then r (.command body) m
    else
      match otherwise with
      | some c => r (.command c) m
      | none => (m.withStatus 0, .next)
  | .loop untilTrue condition body =>
    let before := m.loops
    let (after, flow) := iterate
      (fun (s : Machine × Nat) =>
        let (m, status) := s
        let (m, flow) := runCondition r condition m
        match loopStep flow, flow with
        | .done flow, .leave _ => .inl (m.withStatus status, flow)
        | .done flow, _ => .inl (m, flow)
        | .onward, .again _ => .inr (m, status)
        | .onward, _ =>
          if (m.status = 0) = untilTrue then .inl (m.withStatus status, .next)
          else
            let (m, flow) := r (.command body) m
            match loopStep flow with
            | .onward => .inr (m, m.status)
            | .done flow => .inl (m, flow))
      (fun s => (s.1, .stuck)) (m.budget + 1) ({ m with loops := before + 1 }, 0)
    ({ after with loops := before }, flow)
  | .each line name words body =>
    let m := { m with line := line, outputStatus := none }
    let (values, m) :=
      match words with
      | none => (m.arguments, m)
      | some ws => allArguments (keepOutput r) wordLimit false m ws
    if m.halted then breakOff m
    else
      let before := m.loops
      let run (value : Bytes) (m : Machine) : Machine × Flow :=
        let m := assignIn m name value
        if m.halted then breakOff m
        else
          let (m, flow) := r (.command body) m
          match loopStep flow, flow with
          | .onward, _ => (m, .next)
          | .done .next, _ => (m, .leave 0)
          | .done flow, _ => (m, flow)
      let (after, flow) := inTurn run values { m.withStatus 0 with loops := before + 1 }
      ({ after with loops := before }, if flow = .leave 0 then .next else flow)
  | .cases line word arms =>
    let m := { m with line := line, outputStatus := none }
    let (value, m) := octetsOf (keepOutput r) wordLimit false m word
    if m.halted then breakOff m else runArms r value arms m
  | .redirected line body redirects =>
    let m := { m with line := line }
    let (targets, m) := expandTargets r m redirects
    if m.halted then breakOff m
    else
      let streams := targets.map (·.1)
      match attachAll m targets with
      | (after, some .endless) => (after, .stuck)
      | (after, some (.wrong e)) =>
        (detach m streams ((after.complain e).withStatus 2), .refused)
      | (after, some (.told e)) =>
        checked (detach m streams ((after.complain e).withStatus 2)) .next
      | (inner, none) =>
        let (after, flow) := r (.command body) inner
        (detach m streams after, flow)
  | .pipeline stages =>
    let m := settle r m
    let (after, flow) := runStages r m.clock m.clock none m stages
    let (after, flow) := answerSignals r after flow
    checked after flow
  | .subshell line body =>
    let (after, flow) := runInside r body { m with line := line }
    let (after, flow) := answerSignals r after flow
    checked after flow
  | .background body =>
    let id := m.lastId + 1
    let index := m.jobs.foldl (fun n j => if j.owner = m.processId then max n j.index else n) 0 + 1
    let inner := { m.setStream 0 (some .discard) with
      traps := ignoredTraps m, depth := m.depth + 1, tested := false }
    let job : Job := ⟨id, m.processId, index, some ⟨body.parts, inner.toFrame, m.files.cwd, m.clock⟩, 0⟩
    ({ m with lastId := id, lastJob := some id, jobs := m.jobs ++ [job], status := 0 }, .next)
  | .function name body =>
    let others := m.functions.filter fun f => f.1 ≠ name
    ({ m with functions := (name, body) :: others, status := 0 }, .next)

/-- Runs a command or a program with somebody who runs what stands inside of it. -/
def step (r : Runner) : Runner
  | .command c, m => runCommand r c m
  | .program c, m => runTool r m c

/-- The runner for commands that stand at most a number of times inside of one another. -/
def runner : (depth : Nat) → Runner
  | 0, _, m => (m, .stuck)
  | depth + 1, task, m => step (runner depth) task m

end Conformance.Shell
