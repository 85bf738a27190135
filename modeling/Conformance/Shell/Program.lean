import Conformance.Shell.Background
import Conformance.Shell.Tool

/-!
# Programs

How programs are found and run. A script is run by the program `sh`, which is a shell of its own.
-/

namespace Conformance.Shell

/-- The shell that a program `sh` begins with: it knows the variables that programs see. -/
def childShell (m : Machine) (name : Bytes) : Machine :=
  let id := m.lastId + 1
  let own : List (Bytes × Binding) :=
    [(octets "PWD", ⟨some (Builtin.directoryName m), true, false⟩),
     (octets "OPTIND", ⟨some (octets "1"), false, false⟩)]
  let inherited := m.bindings.filter fun v =>
    v.2.exported && v.2.value.isSome && own.all fun o => o.1 ≠ v.1
  { m with
    bindings := own ++ inherited.map fun v => (v.1, { v.2 with fixed := false })
    functions := [], aliases := [], name := name, arguments := [], status := 0, options := []
    traps := m.traps.filter fun t => t.2.isEmpty
    processId := id, ancestors := m.processId :: m.ancestors, depth := 0, calls := 0, locals := []
    line := 0, command := none, tested := false, loops := 0, outputStatus := none
    halted := false, optionIndex := 1, optionOffset := none, lastJob := none, ending := none
    lastId := id }

/-- Runs a script as a program of its own. -/
def runScript (r : Runner) (before inner : Machine) (source : Bytes) : Machine × Flow :=
  let (after, flow) := runText r source inner
  let (after, flow) := runLast r after flow
  (afterProgram before after,
    match flow with
    | .stuck => .stuck
    | .killed signal => .killed signal
    | _ => .next)

/-- Runs the program `sh`: the script after `-c`, the file that is named first, or its input. -/
def runShell (r : Runner) (m : Machine) (name : Bytes) (args : List Bytes) : Machine × Flow :=
  let inner := childShell m name
  let refused (inner : Machine) (message : String) : Machine × Flow :=
    (afterProgram m ((inner.complain message).withStatus 2), .next)
  match Builtin.setOptions true (args.length + 1) inner false args with
  | .error e => refused inner e
  | .ok given =>
    let inner := given.machine
    if given.inline then
      match given.rest with
      | [] => refused inner "-c requires an argument"
      | source :: more =>
        let (name, arguments) : Bytes × List Bytes :=
          match more with
          | n :: more => (n, more)
          | [] => (name, [])
        runScript r m { inner with name := name, arguments := arguments } source
    else
      match if inner.has 's' then [] else given.rest with
      | [] =>
        let (source, inner) := inner.takeFrom 0
        runScript r m { (inner.setOption 's' true) with arguments := given.rest } source
      | path :: arguments =>
        let inner := { inner with arguments := arguments }
        match m.files.read path with
        | .ok source => runScript r m { inner with name := path } source
        | .error (.system .isDirectory) => (afterProgram m inner, .next)
        | .error e =>
          let why : String :=
            match e with
            | .system .noEntry | .system .notDirectory => "No such file"
            | e => reason e
          refused inner ("cannot open " ++ text path ++ ": " ++ why)

/-- Runs a program for another program, which tells if that is not possible. -/
def runFor (r : Runner) (tool : String) (m : Machine) (words : List Bytes) : Machine × Flow :=
  match words with
  | [] => (m.withStatus 0, .next)
  | name :: args =>
    let (path?, isThere) :=
      if name.contains Path.slash || name.isEmpty then (some name, false)
      else Builtin.searchPath m (Builtin.pathDirectories m) name
    let failed (why : String) (status : Nat) : Machine × Flow :=
      ((m.warn (tool ++ ": '" ++ text name ++ "': " ++ why)).withStatus status, .next)
    match path? with
    | none =>
      if isThere then failed "Permission denied" 126 else failed "No such file or directory" 127
    | some path =>
      match Launch.execute m.files Launch.scriptLimit path args with
      | .ok command => r (.program command) m
      | .error (.system .execFormat) => runShell r m path (path :: args)
      | .error e => failed (reason e) (if e = .system .noEntry then 127 else 126)

/-- Runs a program of the system. -/
def runTool (r : Runner) (m : Machine) (c : Launch.Command) : Machine × Flow :=
  let tool := c.tool
  let inner := { m with command := none }
  let call (m : Machine) (words : List Bytes) : Machine × Flow := runFor r tool m words
  let start (m : Machine) (words : List Bytes) : Machine × Flow :=
    match runFor r tool m words with
    | (m, .killed s) => (m.withStatus (128 + s), .next)
    | r => r
  let shell (m : Machine) (script : Bytes) : Machine :=
    match runShell r m (octets "sh") [octets "-c", script] with
    | (m, .killed s) => m.withStatus (128 + s)
    | (m, .stuck) => { m with budget := if m.isLate then m.budget else 0 }
    | (m, _) => m
  let args := c.arguments
  let (after, flow) : Machine × Flow :=
    match tool with
    | "sh" | "dash" | "bash" => runShell r inner c.name args
    | "env" => Tool.env call inner args
    | "nohup" => Tool.passOn call inner tool (Tool.usage "" "") args
    | "setsid" => Tool.passOn call inner tool (Tool.usage "cfw" "") args
    | "stdbuf" => Tool.passOn call inner tool (Tool.usage "" "ioe") args
    | "nice" => Tool.passOn call inner tool (Tool.usage "0123456789" "n") args
    | "timeout" => Tool.timeout start inner args
    | "xargs" => Tool.xargs start inner args
    | "find" => Tool.find start inner args
    | "awk" | "mawk" | "nawk" =>
      let after := Tool.awk shell inner args
      (after, goingOn after)
    | "sleep" => runSleep r inner args
    | "kill" =>
      let (after, flow) := Builtin.kill inner args
      (after, if flow = .refused then .next else flow)
    | tool =>
      match Tool.simple? tool with
      | some run =>
        let after := run inner args
        (after, goingOn after)
      | none => (inner.withStatus 127, .next)
  let after :=
    if after.blocked then
      { after.warn (tool ++ ": write error") with blocked := false }.withStatus
        (Tool.blockedStatus tool)
    else after
  ({ after with command := m.command }, if flow = .refused then .next else flow)

/-- Runs a program that is looked for in the directories of the path. In place, it is not started by the
    shell but takes its place. -/
def runProgram (r : Runner) (inPlace : Bool) (m : Machine) (name : Bytes) (args : List Bytes) :
    Machine × Flow :=
  let m := settle r m
  let refused (m : Machine) (message : String) (status : Nat) : Machine × Flow :=
    (((m.complain message).withStatus status), if inPlace then .refused else .next)
  if name.isEmpty then refused m ": Permission denied" 127
  else
    let (path?, isThere) :=
      if name.contains Path.slash then (some name, false)
      else Builtin.searchPath m (Builtin.pathDirectories m) name
    match path? with
    | none =>
      if isThere then refused m (text name ++ ": Permission denied") 126
      else refused m (text name ++ ": not found") 127
    | some path =>
      let ended (r : Machine × Flow) : Machine × Flow :=
        match r with
        | (after, .killed s) => if inPlace then (after, .killed s) else (afterSignal after s, .next)
        | r => r
      match Launch.execute m.files Launch.scriptLimit path args with
      | .ok command => ended (runTool r m command)
      | .error (.system .execFormat) => ended (runShell r m path (path :: args))
      | .error e =>
        if e = .system .noEntry || e = .system .notDirectory then
          refused m (text name ++ ": not found") 127
        else refused m (text name ++ ": " ++ reason e) 126

end Conformance.Shell
