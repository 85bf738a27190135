import Conformance.Shell.Program

/-!
# Simple commands

A simple command is expanded, its streams are attached, its variables are set, and what its first word
names is run: a command of the shell, a function or a program.
-/

namespace Conformance.Shell

/-! ## Variables and streams of one command -/

/-- The machine with variables that the programs of one command see. -/
def lend (m : Machine) (name value : Bytes) : Machine :=
  (m.assign name value).bind name (some ⟨some value, true, false⟩)

/-- The machine with variables as they were before. -/
def takeBack (before : Machine) (names : List Bytes) (m : Machine) : Machine :=
  names.foldl (fun m name => m.bind name (before.binding? name)) m

/-- The machine with streams as they were before. -/
def detach (before : Machine) (streams : List Nat) (m : Machine) : Machine :=
  if streams.isEmpty then m
  else
    (streams.foldl (fun m n => m.setStream n (before.stream? n)) m).releaseSources before.nextSource

/-- Attaches streams one after the other. The machine of a refusal has those attached before. -/
def attachAll : Machine → List (Nat × RedirectKind × Bytes) → Machine × Option Refusal
  | m, [] => (m, none)
  | m, (stream, kind, target) :: rest =>
    match attach m stream kind target with
    | .ok m => attachAll m rest
    | .error e => (m, some e)

/-- The line that tells of a command before it is run. -/
def traceLine (m : Machine) (assigned : List (Bytes × Bytes)) (args : List Bytes) : Bytes :=
  let sign := (m.valueOf? (octets "PS4")).getD (octets "+ ")
  let parts := assigned.map (fun a => a.1 ++ ascii '=' :: a.2) ++ args
  line (sign ++ (octets " ").intercalate parts)

/-! ## What is run -/

/-- What the options of `command` ask for. -/
inductive CommandUse where
  | run (args : List Bytes)
  | describe (full : Bool) (names : List Bytes)
  | wrong (message : String)

/-- Reads the arguments of `command`. -/
def commandUse (args : List Bytes) : CommandUse :=
  match Builtin.letterOptions ['p', 'v', 'V'] [] args with
  | .error e => .wrong e
  | .ok (seen, rest) =>
    if seen.contains 'V' then .describe true rest
    else if seen.contains 'v' then .describe false rest
    else .run rest

/-- Tells what names stand for. -/
def describeAll (m : Machine) (full : Bool) (names : List Bytes) : Machine :=
  names.foldl
    (fun m name =>
      match Builtin.describe m name with
      | some (about, called) =>
        m.print (line (if full then name ++ octets (" " ++ about) else called))
      | none =>
        (if full then m.print (line (name ++ octets ": not found")) else m).withStatus 127)
    (m.withStatus 0)

/-- Runs a function. -/
def runFunction (r : Runner) (body : Command) (m : Machine) (args : List Bytes) : Machine × Flow :=
  if 1000 ≤ m.calls then
    ((m.complain "Maximum function recursion depth (1000) reached").withStatus 2, .refused)
  else
    let inner := { m with
      arguments := args, calls := m.calls + 1, locals := [], loops := 0
      optionIndex := 1, optionOffset := none }
    let (after, flow) := r (.command body) inner
    let after := after.locals.foldl (fun m v => m.bind v.1 v.2) after
    ({ after with
        arguments := m.arguments, calls := m.calls, locals := m.locals, loops := m.loops
        optionIndex := m.optionIndex, optionOffset := m.optionOffset },
      if flow = .back then .next else flow)

/-- Runs a command of the shell that ends it when it is refused something. -/
def runSpecial (r : Runner) (title : String) (m : Machine) (args : List Bytes) : Machine × Flow :=
  match title with
  | ":" => Builtin.accept m
  | "exit" => Builtin.leaveWith .exit m args
  | "return" => Builtin.leaveWith .back m args
  | "break" => Builtin.leaveLoop .leave m args
  | "continue" => Builtin.leaveLoop .again m args
  | "set" => Builtin.set m args
  | "shift" => Builtin.shift m args
  | "export" =>
    Builtin.mark m "export" (·.exported) (fun b => { b with exported := true }) args
  | "readonly" =>
    Builtin.mark m "readonly" (·.fixed) (fun b => { b with fixed := true }) args
  | "local" => Builtin.makeLocal m args
  | "unset" => Builtin.unset m args
  | "trap" => Builtin.trap m args
  | "times" => Builtin.times m args
  | "eval" =>
    if args.isEmpty then Builtin.accept m
    else runText r ((octets " ").intercalate args) (m.withStatus 0)
  | "." =>
    match args with
    | [] => Builtin.accept m
    | path :: _ =>
      let found : Except String Bytes :=
        if path.contains Path.slash then
          match m.files.read path with
          | .ok bs => .ok bs
          | .error (.system .isDirectory) => .ok []
          | .error e =>
            .error ("cannot open " ++ text path ++ ": "
              ++ (if e = .system .noEntry || e = .system .notDirectory then "No such file"
                  else reason e))
        else
          match (Builtin.pathDirectories m).findSome? fun dir =>
            (m.files.read (if dir.isEmpty then path else Path.entry dir path)).toOption with
          | some bs => .ok bs
          | none => .error (text path ++ ": not found")
      match found with
      | .error e => Builtin.refuse m e
      | .ok source =>
        let (after, flow) := runText r source { m with command := some path, status := 0 }
        (after, if flow = .back then .next else flow)
  | _ =>
    match args with
    | [] => Builtin.accept m
    | name :: rest =>
      let (after, flow) := runProgram r true m name rest
      match flow with
      | .next => ({ after with traps := [] }, .exit)
      | .refused => (after, .exit)
      | flow => (after, flow)

/-- Runs any other command of the shell. -/
def runRegular (r : Runner) (title : String) (m : Machine) (args : List Bytes) : Machine × Flow :=
  match title with
  | "cd" | "chdir" => Builtin.cd m args
  | "pwd" => Builtin.pwd m args
  | "read" => Builtin.read m args
  | "getopts" => Builtin.getopts m args
  | "alias" => Builtin.defineAliases m args
  | "unalias" => Builtin.unalias m args
  | "kill" => Builtin.kill m args
  | "jobs" => Builtin.jobs m args
  | "umask" => Builtin.umask m args
  | "ulimit" => Builtin.ulimit m args
  | "type" => Builtin.type m args
  | "hash" => Builtin.hash m args
  | "wait" => runWait r m args
  | "fg" | "bg" => Builtin.refuse m "No current job"
  | title =>
    match Tool.simple? title with
    | some tool => (tool m args, .next)
    | none => (m.withStatus 0, .next)

/-- Runs a command by its name and arguments. Without functions if it is plain. -/
def runNamed (r : Runner) (isPlain : Bool) (m : Machine) (name : Bytes) (args : List Bytes) :
    Machine × Flow :=
  let title := text name
  let builtin (special : Bool) (run : Machine → List Bytes → Machine × Flow) : Machine × Flow :=
    let (after, flow) := run { m with command := some name } args
    let after :=
      if after.blocked then
        { after.complain (title ++ ": I/O error") with blocked := false }.withStatus
          (Nat.lor after.status 1)
      else after
    ({ after with command := m.command },
      if flow = .refused && (!special || isPlain) then .next else flow)
  if Builtin.specialCommands.contains title then
    builtin true fun m args => runSpecial r title m args
  else
    match if isPlain then none else m.functions.find? fun f => f.1 = name with
    | some (_, body) => runFunction r body m args
    | none =>
      if Builtin.regularCommands.contains title then
        builtin false fun m args => runRegular r title m args
      else runProgram r false m name args

/-- Runs a simple command. -/
def runSimple (r : Runner) (line : Nat) (assigned : List (Bytes × Word)) (words : List Word)
    (redirects : List Redirect) (m : Machine) : Machine × Flow :=
  if m.budget = 0 then (m, .stuck)
  else
    let m := { m with budget := m.budget - 1, line := line, outputStatus := none }
    let keeper := keepOutput r
    let declares : Bool := (words.head?.bind fixed?).any fun w =>
      Builtin.declaringCommands.contains (text w)
    let (args, m) := allArguments keeper wordLimit declares m words
    if m.halted then breakOff m
    else
      let (isPlain, use) : Bool × CommandUse :=
        match args with
        | name :: rest =>
          if name = octets "command" && !m.functions.any (fun f => f.1 = name) then
            (true, commandUse rest)
          else (false, .run args)
        | [] => (false, .run [])
      let name : String := match use with | .run (n :: _) => text n | _ => ""
      let isSpecial := !isPlain && Builtin.specialCommands.contains name
      let (targets, m) := if redirects.isEmpty then ([], m) else expandTargets r m redirects
      if m.halted then breakOff m
      else
        let before := m
        let streams := targets.map (·.1)
        match attachAll m targets with
        | (m, some .endless) => (m, .stuck)
        | (m, some (.wrong e)) => (detach before streams ((m.complain e).withStatus 2), .refused)
        | (m, some (.told e)) =>
          let m := detach before streams ((m.complain e).withStatus 2)
          if isSpecial then (m, .refused) else checked m .next
        | (m, none) =>
          let lasting := args.isEmpty || isSpecial
          let (values, m) := assigned.foldl
            (fun (acc : List (Bytes × Bytes) × Machine) a =>
              if acc.2.halted then acc
              else
                let (bs, m) := octetsOf keeper wordLimit true acc.2 a.2
                if m.halted then (acc.1, m)
                else if lasting || m.isFixed a.1 then (acc.1 ++ [(a.1, bs)], assignIn m a.1 bs)
                else (acc.1 ++ [(a.1, bs)], lend m a.1 bs))
            ([], m)
          if m.halted then breakOff (detach before streams m)
          else
            let m := if m.has 'x' then m.emit 2 (traceLine m values args) else m
            match args with
            | [] =>
              let m := detach before streams (m.withStatus (m.outputStatus.getD 0))
              checked m .next
            | _ =>
              let (after, flow) : Machine × Flow :=
                match use with
                | .run [] => (m.withStatus 0, .next)
                | .run (n :: rest) => runNamed r isPlain m n rest
                | .describe full names => (describeAll m full (names.take 1), .next)
                | .wrong e =>
                  let told := { m with command := some (octets "command") }.complain e
                  ({ told with command := m.command }.withStatus 2, .next)
              let after := if lasting then after else takeBack before (values.map (·.1)) after
              let replaced : Bool := use matches .run [_] && name = "exec" && flow = .next
              let after := if replaced then after else detach before streams after
              let (after, flow) := answerSignals r after flow
              checked after flow

end Conformance.Shell
