import Conformance.Shell.Builtin.Variable
import Conformance.Shell.Reader
import Conformance.Shell.Signal
import Conformance.Shell.Tool.Arguments

/-!
# Commands about the shell

The commands of the shell that leave commands, walk through directories, set what happens at signals,
send signals, and tell what the shell knows: `exit`, `return`, `break`, `continue`, `cd`, `pwd`,
`trap`, `kill`, `jobs`, `umask`, `ulimit`, `times`, `hash` and `type`.
-/

namespace Conformance.Shell.Builtin

/-! ## Leaving -/

/-- The command `exit` or `return`. -/
def leaveWith (flow : Flow) (m : Machine) (args : List Bytes) : Machine × Flow :=
  match args with
  | [] => (if flow = .exit then m.withStatus (m.ending.getD m.status) else m, flow)
  | a :: _ =>
    match count? a with
    | some n => (m.withStatus n, flow)
    | none => refuseNumber m a

/-- The command `break` or `continue`. -/
def leaveLoop (flow : Nat → Flow) (m : Machine) (args : List Bytes) : Machine × Flow :=
  let go (n : Nat) : Machine × Flow :=
    (m.withStatus 0, if m.loops = 0 then .next else flow (min n m.loops))
  match args with
  | [] => go 1
  | a :: _ =>
    match count? a with
    | some (n + 1) => go (n + 1)
    | _ => refuseNumber m a

/-! ## Directories -/

/-- A path without `.` and with `..` taken back, as it is written. `done` holds the names before, last
    first. -/
def tidy (done : List Bytes) : List Bytes → List Bytes
  | [] => done.reverse
  | name :: rest =>
    if name.isEmpty || name = octets "." then tidy done rest
    else if name = octets ".." then tidy done.tail rest
    else tidy (name :: done) rest

/-- The text of a place. -/
def placeText (place : List Bytes) : Bytes :=
  if place.isEmpty then octets "/" else place.flatMap fun name => Path.slash :: name

/-- The working directory as it is told, by the names that led to it. -/
def directoryName (m : Machine) : Bytes :=
  let told := m.value "PWD"
  match m.files.resolve true told with
  | .ok place =>
    if Path.isAbsolute told && place = m.files.cwd then told else placeText m.files.cwd
  | .error _ => placeText m.files.cwd

/-- The machine in another directory, if it is one. -/
def enter? (m : Machine) (physical : Bool) (dir : Bytes) : Option Machine :=
  let named := if Path.isAbsolute dir then dir else directoryName m ++ Path.slash :: dir
  let logical := placeText (tidy [] (Path.pieces named))
  let goal := if physical then dir else logical
  match m.files.resolve true goal with
  | .error _ => none
  | .ok place =>
    if !m.files.isDirectory place then none
    else
      let before := directoryName m
      let files := { m.files with cwd := place }
      let told := if physical then placeText place else logical
      let set (m : Machine) (name : String) (value : Bytes) : Machine :=
        m.bind (octets name) (some ⟨some value, true, false⟩)
      some (set (set { m with files := files } "OLDPWD" before) "PWD" told)

/-- The command `cd`. -/
def cd (m : Machine) (args : List Bytes) : Machine × Flow :=
  match letterOptions ['L', 'P'] [] args with
  | .error e => refuse m e
  | .ok (seen, operands) =>
    let physical := seen.getLast? = some 'P'
    let back : Bool := operands.head? = some (octets "-")
    let dir :=
      match operands with
      | [] => m.value "HOME"
      | a :: _ => if back then m.value "OLDPWD" else a
    if dir.isEmpty then accept (if back then m.print (line (directoryName m)) else m)
    else
      let direct := Path.isAbsolute dir || dir.head? = some (ascii '.')
      let paths : List Bytes :=
        if direct || back then []
        else (cutAt (· = ascii ':') (m.value "CDPATH")).filter (!·.isEmpty)
      let tries := paths.map (fun p => (Path.entry p dir, true)) ++ [(dir, back)]
      match tries.findSome? fun t => (enter? m physical t.1).map fun n => (n, t.2) with
      | some (n, shown) => accept (if shown then n.print (line (n.value "PWD")) else n)
      | none => refuse m ("can't cd to " ++ text dir)

/-- The command `pwd`. -/
def pwd (m : Machine) (args : List Bytes) : Machine × Flow :=
  match letterOptions ['L', 'P'] [] args with
  | .error e => refuse m e
  | .ok (seen, _) =>
    let told := if seen.getLast? = some 'P' then placeText m.files.cwd else directoryName m
    accept (m.print (line told))

/-! ## Signals -/

/-- The machine after the traps were listed. -/
def listTraps (m : Machine) : Machine :=
  let inOrder := m.traps.mergeSort fun a b => a.1 ≤ b.1
  inOrder.foldl
    (fun m t =>
      m.print (line (octets "trap -- " ++ inQuotes t.2 ++ octets (" " ++ Signal.name t.1))))
    m

/-- The command `trap`. -/
def trap (m : Machine) (args : List Bytes) : Machine × Flow :=
  match letterOptions [] [] args with
  | .error e => refuse m e
  | .ok (_, operands) =>
    match operands with
    | [] => accept (listTraps m)
    | first :: rest =>
      let resets := rest.isEmpty || (natural? first).any (· < Signal.count)
      let (action?, signals) : Option Bytes × List Bytes :=
        if resets then (none, operands)
        else (if first = octets "-" then none else some first, rest)
      signals.foldl
        (fun (acc : Machine × Flow) s =>
          let m := acc.1
          if m.status != 0 then acc
          else
            match Signal.number? s with
            | none => ((m.warn ("trap: " ++ text s ++ ": bad trap")).withStatus 1, .next)
            | some n =>
              let others := m.traps.filter (·.1 ≠ n)
              ({ m with traps := match action? with | some a => (n, a) :: others | none => others },
                .next))
        (accept m)

/-- What the arguments of `kill` ask for. -/
inductive KillRequest where
  | send (signal : Nat) (targets : List Bytes)
  | list (codes : List Bytes)

/-- Reads the arguments of `kill`. -/
def killRequest (args : List Bytes) : Except String KillRequest :=
  let usage := "Usage: kill [-s sigspec | -signum | -sigspec] [pid | job]... or\nkill -l [exitstatus]"
  let send (signal : Nat) (targets : List Bytes) : Except String KillRequest :=
    let targets := if targets.head? = some (octets "--") then targets.tail else targets
    if targets.isEmpty then .error usage else .ok (.send signal targets)
  match args with
  | [] => .error usage
  | a :: rest =>
    if a.head? != some (ascii '-') || a = octets "--" then send 15 args
    else if a = octets "-l" then .ok (.list rest)
    else if a = octets "-s" then
      match rest with
      | s :: rest =>
        match Signal.number? s with
        | some n => send n rest
        | none => .error ("invalid signal number or name: " ++ text s)
      | [] => .error "No arg for -s option"
    else
      match Signal.number? a.tail with
      | some n => send n rest
      | none => .error ("Illegal option -" ++ text (a.tail.take 1))

/-- A program that a signal can be sent to. -/
inductive Target where
  | shell (id : Nat)
  | job (id : Nat)
  | nobody
  | noNumber

/-- The program that an argument of `kill` or `wait` means. -/
def targetOf (m : Machine) (a : Bytes) : Target :=
  match a with
  | [] => .noNumber
  | b :: index =>
    if b = ascii '%' then
      match (natural? index).bind fun n => m.jobs.find? fun j => j.owner = m.processId && j.index = n with
      | some j => .job j.id
      | none => .nobody
    else
      match natural? a with
      | none => .noNumber
      | some n =>
        if n = m.processId || m.ancestors.contains n then .shell n
        else if m.jobs.any fun j => j.id = n && j.pending.isSome then .job n
        else .nobody

/-- The machine after a job got a signal that ends it. -/
def endJob (m : Machine) (id signal : Nat) : Machine :=
  { m with jobs := m.jobs.map fun j =>
      if j.id = id then { j with pending := none, status := 128 + signal } else j }

/-- The command `kill`. -/
def kill (m : Machine) (args : List Bytes) : Machine × Flow :=
  match killRequest args with
  | .error e => refuse m e
  | .ok (.list []) =>
    let names := "0" :: (List.range (Signal.count - 1)).map fun i => Signal.name (i + 1)
    accept (names.foldl (fun m s => m.print (line (octets s))) m)
  | .ok (.list (a :: _)) =>
    match count? a with
    | none => refuseNumber m a
    | some n =>
      let n := if 128 < n then n - 128 else n
      if 0 < n && n < Signal.count then accept (m.print (line (octets (Signal.name n))))
      else refuse m ("invalid signal number or exit status: " ++ text a)
  | .ok (.send signal targets) =>
    targets.foldl
      (fun acc a =>
        if acc.2 ≠ .next then acc
        else
          let m := acc.1
          match targetOf m a with
          | .noNumber => refuse m ("Illegal number: " ++ text a)
          | .nobody => ((m.complain "No such process\n").withStatus 1, .next)
          | .shell id =>
            if signal = 0 then acc
            else ({ m with signals := m.signals ++ [(id, signal)] }, .next)
          | .job id =>
            let pending? := (m.jobs.find? fun j => j.id = id).bind (·.pending)
            match reactionTo ((pending?.map fun p => p.shell.traps).getD []) signal with
            | .flow (.killed _) => (endJob m id signal, .next)
            | _ => acc)
      (m.withStatus 0, .next)

/-- The command `jobs`. -/
def jobs (m : Machine) (_ : List Bytes) : Machine × Flow :=
  let own := m.jobs.filter fun j => j.owner = m.processId && j.pending.isSome
  let last := own.length
  let told (i : Nat) (j : Job) : Bytes :=
    let sign := if i + 1 = last then "+" else if i + 2 = last then "-" else " "
    octets ("[" ++ toString j.index ++ "] " ++ sign ++ " " ++ padded 27 "Running")
  accept ((own.zipIdx.reverse).foldl (fun m j => m.print (line (told j.2 j.1))) m)

/-! ## Settings -/

/-- The permissions that three digits stand for. -/
def maskLetters (mask : Nat) (shift : Nat) : String :=
  let bits := (mask / shift) % 8
  (if bits.testBit 2 then "" else "r") ++ (if bits.testBit 1 then "" else "w")
    ++ (if bits.testBit 0 then "" else "x")

/-- The bits of letters of permissions. -/
def permissionBits (bs : Bytes) : Option Nat :=
  bs.foldl
    (fun acc b =>
      match acc, charOf b with
      | some n, 'r' => some (Nat.lor n 4)
      | some n, 'w' => some (Nat.lor n 2)
      | some n, 'x' => some (Nat.lor n 1)
      | _, _ => none)
    (some 0)

/-- The mask after a part of a symbolic one, such as `g=rx`. -/
def changeMask (mask : Nat) (part : Bytes) : Option Nat :=
  let who := part.takeWhile fun b => isIn b ['u', 'g', 'o', 'a']
  match part.drop who.length with
  | [] => none
  | op :: letters =>
    (permissionBits letters).bind fun bits =>
      let everybody := who.isEmpty || who.contains (ascii 'a')
      let shifts := [('u', 64), ('g', 8), ('o', 1)].filterMap fun s =>
        if everybody || who.contains (ascii s.1) then some s.2 else none
      let change (allowed : Nat) : Option Nat :=
        match charOf op with
        | '=' => some bits
        | '+' => some (Nat.lor allowed bits)
        | '-' => some (Nat.land allowed (7 - bits))
        | _ => none
      shifts.foldl
        (fun acc shift =>
          acc.bind fun mask =>
            let own := (mask / shift) % 8
            (change (7 - own)).map fun allowed => mask - own * shift + (7 - allowed) * shift)
        (some mask)

/-- The command `umask`. -/
def umask (m : Machine) (args : List Bytes) : Machine × Flow :=
  match letterOptions ['S'] [] args with
  | .error e => refuse m e
  | .ok (seen, []) =>
    let digits := [m.mask / 512 % 8, m.mask / 64 % 8, m.mask / 8 % 8, m.mask % 8]
    let told :=
      if seen.contains 'S' then
        "u=" ++ maskLetters m.mask 64 ++ ",g=" ++ maskLetters m.mask 8 ++ ",o=" ++ maskLetters m.mask 1
      else String.join (digits.map toString)
    accept (m.print (line (octets told)))
  | .ok (_, a :: _) =>
    if a.head?.any isDigitByte then
      match readDigits 8 0 0 a with
      | (n, count) =>
        if count = a.length && n < 512 then accept { m with mask := n }
        else refuseNumber m a
    else
      match (cutAt (· = ascii ',') a).foldl (fun acc p => acc.bind (changeMask · p)) (some m.mask) with
      | some n => accept { m with mask := n }
      | none => refuse m ("Illegal mode: " ++ text a)

/-- The command `ulimit`. -/
def ulimit (m : Machine) (args : List Bytes) : Machine × Flow :=
  let letters := args.flatMap fun a => if a.head? = some (ascii '-') then a.tail.map charOf else []
  let sets := args.any fun a => a.head? != some (ascii '-')
  if sets then accept m
  else if letters.contains 'n' then accept (m.print (line (octets "1048576")))
  else if letters.contains 'c' then accept (m.print (line (octets "0")))
  else if letters.contains 's' then accept (m.print (line (octets "8192")))
  else accept (m.print (line (octets "unlimited")))

/-- The command `times`. -/
def times (m : Machine) (_ : List Bytes) : Machine × Flow :=
  let told := line (octets "0m0.000000s 0m0.000000s")
  accept (m.print (told ++ told))

/-! ## Names of commands -/

/-- The commands of the shell that end it when they are refused something. -/
def specialCommands : List String :=
  [".", ":", "break", "continue", "eval", "exec", "exit", "export", "local", "readonly", "return",
    "set", "shift", "times", "trap", "unset"]

/-- The other commands of the shell. -/
def regularCommands : List String :=
  ["alias", "bg", "cd", "chdir", "command", "echo", "false", "fg", "getopts", "hash", "jobs",
    "kill", "printf", "pwd", "read", "test", "[", "true", "type", "ulimit", "umask", "unalias",
    "wait"]

/-- The commands of the shell whose arguments may be assignments. -/
def declaringCommands : List String := ["export", "readonly", "local", "alias"]

/-- The first program with a name in the directories of the path, and whether something was there that
    cannot be run. -/
def searchPath (m : Machine) (dirs : List Bytes) (name : Bytes) : Option Bytes × Bool :=
  dirs.foldl
    (fun (acc : Option Bytes × Bool) dir =>
      if acc.1.isSome then acc
      else
        let path := if dir.isEmpty then name else Path.entry dir name
        match m.files.lookup path with
        | .ok (.file _ true) | .ok (.tool _) => (some path, acc.2)
        | .ok (.file _ false) => (none, true)
        | _ => acc)
    (none, false)

/-- The directories of the path. -/
def pathDirectories (m : Machine) : List Bytes := cutAt (· = ascii ':') (m.value "PATH")

/-- What a name stands for as a command: a line about it and how it is called; `none` if there is no
    such command. -/
def describe (m : Machine) (name : Bytes) : Option (String × Bytes) :=
  let told := text name
  if reservedWords.contains told then some ("is a shell keyword", name)
  else
    match m.aliases.find? (·.1 = name) with
    | some (_, value) =>
      some ("is an alias for " ++ text value,
        octets "alias " ++ name ++ ascii '=' :: inQuotes value)
    | none =>
      if name.contains Path.slash then
        match m.files.lookup name with
        | .ok (.file _ true) | .ok (.tool _) => some ("is " ++ told, name)
        | _ => none
      else if specialCommands.contains told then some ("is a special shell builtin", name)
      else if m.functions.any (·.1 = name) then some ("is a shell function", name)
      else if regularCommands.contains told then some ("is a shell builtin", name)
      else
        match searchPath m (pathDirectories m) name with
        | (some path, _) => some ("is " ++ text path, path)
        | (none, _) => none

/-- The command `type`. -/
def type (m : Machine) (args : List Bytes) : Machine × Flow :=
  (args.foldl
    (fun m name =>
      match describe m name with
      | some (about, _) => m.print (line (name ++ octets (" " ++ about)))
      | none => (m.print (line (name ++ octets ": not found"))).withStatus 127)
    (m.withStatus 0), .next)

/-- The command `hash`. -/
def hash (m : Machine) (args : List Bytes) : Machine × Flow :=
  match letterOptions ['r', 'v'] [] args with
  | .error e => refuse m e
  | .ok (_, names) =>
    (names.foldl
      (fun m name =>
        if (describe m name).isSome then m
        else (m.complain (text name ++ ": not found")).withStatus 1)
      (m.withStatus 0), .next)

end Conformance.Shell.Builtin
