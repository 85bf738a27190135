import Conformance.Shell.Tool.Find

/-!
# Programs that run others

Programs that run a command that their arguments name: `xargs`, `env`, `timeout`, `nohup` and the like; and
`sleep`.
-/

namespace Conformance.Shell.Tool

/-! ## Time -/

/-- The time that an argument of `sleep` asks for, in nanoseconds; `none` stands for ever. -/
def duration? (a : Bytes) : Option (Option Nat) :=
  let (a, unit) : Bytes × Nat :=
    match a.getLast?.map charOf with
    | some 's' => (a.dropLast, 1)
    | some 'm' => (a.dropLast, 60)
    | some 'h' => (a.dropLast, 3600)
    | some 'd' => (a.dropLast, 86400)
    | _ => (a, 1)
  let whole := a.takeWhile isDigitByte
  match a.drop whole.length with
  | [] => if whole.isEmpty then none else some (some (decimal whole * unit * 1000000000))
  | b :: fraction =>
    if b = ascii '.' && fraction.all isDigitByte && !(whole.isEmpty && fraction.isEmpty) then
      some (some (decimal whole * unit * 1000000000
        + decimal fraction * unit * 1000000000 / .pow 10 fraction.length))
    else if a = octets "inf" || a = octets "infinity" then some none
    else none

/-- The program `sleep`: the time until which it waits, or a complaint. -/
def sleep (m : Machine) (args : List Bytes) : Machine × Option (Option Nat) :=
  let args := if args.head? = some (octets "--") then args.tail else args
  if args.isEmpty then (lacking m "sleep" 1, none)
  else
    match args.find? fun a => (duration? a).isNone with
    | some a => (misused m "sleep" ("invalid time interval '" ++ text a ++ "'") 1, none)
    | none =>
      let times := args.filterMap duration?
      if times.contains none then (m, some none)
      else (m.withStatus 0, some (some (times.foldl (fun n t => n + t.getD 0) m.clock)))

/-! ## Environment -/

/-- The program `printenv`. -/
def printenv (m : Machine) (args : List Bytes) : Machine :=
  if args.isEmpty then
    (m.environment.foldl (fun m v => m.print (line (v.1 ++ ascii '=' :: v.2))) m).withStatus 0
  else
    args.foldl
      (fun m name =>
        match m.environment.find? (·.1 = name) with
        | some (_, value) => m.print (line value)
        | none => m.withStatus 1)
      (m.withStatus 0)

/-- The machine with a variable that programs see. -/
def published (m : Machine) (name value : Bytes) : Machine :=
  m.bind name (some ⟨some value, true, false⟩)

/-- The machine with the variables that a program was not to change. -/
def restored (before after : Machine) : Machine := { after with bindings := before.bindings }

/-- The program `env`. -/
def env (call : Caller) (m : Machine) (args : List Bytes) : Machine × Flow :=
  let args := args.map fun a => if a = octets "-" then octets "-i" else a
  let u := ((usage "iv0" "uSC").withLong
    [("ignore-environment", 'i'), ("unset", 'u'), ("split-string", 'S'), ("chdir", 'C')]).strict
  match u.read args with
  | .error e => (misused m "env" e 125, .next)
  | .ok a =>
    let inner := if a.has 'i' then { m with bindings := m.bindings.filter fun v => !v.2.exported }
      else m
    let inner := (a.values 'u').foldl (fun m name => m.bind name none) inner
    let operands := (a.values 'S').flatMap wordsOf ++ a.operands
    let assignments := operands.takeWhile fun o => o.contains (ascii '=')
    let inner := assignments.foldl
      (fun m o =>
        let name := o.takeWhile (· != ascii '=')
        published m name (o.drop (name.length + 1)))
      inner
    match operands.drop assignments.length with
    | [] =>
      let shown := inner.environment.foldl
        (fun m v => m.print (line (v.1 ++ ascii '=' :: v.2))) inner
      ((restored m shown).withStatus 0, .next)
    | command =>
      let (after, flow) := call inner command
      (restored m after, flow)

/-! ## Limits and manners -/

/-- The program `timeout`. -/
def timeout (call : Caller) (m : Machine) (args : List Bytes) : Machine × Flow :=
  let u := ((usage "pfv" "ks").withLong
    [("signal", 's'), ("kill-after", 'k'), ("preserve-status", 'p'), ("foreground", 'f')]).strict
  match u.read args with
  | .error e => (misused m "timeout" e 125, .next)
  | .ok a =>
    match a.operands with
    | limit :: command@(_ :: _) =>
      match duration? limit with
      | none => (misused m "timeout" ("invalid time interval '" ++ text limit ++ "'") 125, .next)
      | some time =>
        let limited := (time.filter (0 < ·)).map (m.clock + ·)
        let sooner? : Option Nat :=
          match limited, m.deadline with
          | some t, some d => if t < d then some t else none
          | some t, none => some t
          | none, _ => none
        match sooner? with
        | none => call m command
        | some t =>
          let (after, flow) := call { m with deadline := some t } command
          let after := { after with deadline := m.deadline }
          if flow = .stuck then
            let killed := a.value? 's' |>.any fun s => [octets "KILL", octets "9", octets "SIGKILL"].contains s
            let status := if killed then 137 else if a.has 'p' then 143 else 124
            ({ after.waitUntil t with budget := m.budget }.withStatus status, .next)
          else (after, flow)
    | [_] => (lacking m "timeout" 125, .next)
    | [] => (lacking m "timeout" 125, .next)

/-- A program that runs a command after options of its own. -/
def passOn (call : Caller) (m : Machine) (tool : String) (u : Usage) (args : List Bytes) :
    Machine × Flow :=
  match u.strict.read args with
  | .error e => (misused m tool e 125, .next)
  | .ok a => if a.operands.isEmpty then (lacking m tool 125, .next) else call m a.operands

/-! ## Arguments from the input -/

/-- The arguments in a text: blanks part them, and quotation marks and backslashes keep blanks
    together. `open?` is the argument that is not finished, last octet first, `quote` the mark that is
    open, and `acc` holds those before, last first. -/
def inputWords (open? : Option Bytes) (quote : Option UInt8) (acc : List Bytes) :
    Bytes → Except String (List Bytes)
  | [] =>
    match quote with
    | some q =>
      .error ("unmatched " ++ (if q = ascii '"' then "double" else "single")
        ++ " quote; by default quotes are special to xargs unless you use the -0 option")
    | none => .ok (match open? with | some w => w.reverse :: acc | none => acc).reverse
  | b :: bs =>
    match quote with
    | some q =>
      if b = q then inputWords open? none acc bs
      else inputWords (some (b :: open?.getD [])) quote acc bs
    | none =>
      if b = ascii '"' || b = ascii '\'' then inputWords (some (open?.getD [])) (some b) acc bs
      else if b = ascii '\\' then
        match bs with
        | c :: rest => inputWords (some (c :: open?.getD [])) none acc rest
        | [] => inputWords open? none acc []
      else if isBlankByte b || b = 0x0A then
        match open? with
        | some w => inputWords none none (w.reverse :: acc) bs
        | none => inputWords none none acc bs
      else inputWords (some (b :: open?.getD [])) none acc bs

/-- Elements in groups of a size. `fuel` bounds their number. -/
def groupedBy (size : Nat) : (fuel : Nat) → List Bytes → List (List Bytes)
  | 0, _ => []
  | fuel + 1, ws =>
    if ws.isEmpty then [] else ws.take size :: groupedBy size fuel (ws.drop size)

/-- A text with every occurrence of a mark replaced. `fuel` bounds its length. -/
def replacedIn (mark new : Bytes) : (fuel : Nat) → Bytes → Bytes
  | 0, bs => bs
  | fuel + 1, bs =>
    match splitAtOnto [] mark bs with
    | some (before, after) => before ++ new ++ replacedIn mark new fuel after
    | none => bs

/-- The program `xargs`. -/
def xargs (call : Caller) (m : Machine) (args : List Bytes) : Machine × Flow :=
  let u := ((usage "0rtpxo" "nILPdsaE").withLong
    [("null", '0'), ("no-run-if-empty", 'r'), ("max-args", 'n'), ("replace", 'I'),
     ("max-procs", 'P'), ("delimiter", 'd'), ("max-lines", 'L'), ("verbose", 't'),
     ("arg-file", 'a')]).strict
  match u.read args with
  | .error e => (misused m "xargs" e 1, .next)
  | .ok a =>
    let command := if a.operands.isEmpty then [octets "echo"] else a.operands
    let (bs, m) : Bytes × Machine :=
      match a.value? 'a' with
      | some path =>
        match contentOf m path with
        | (.ok bs, m) => (bs, m)
        | (.error _, m) => ([], m)
      | none => m.takeInput
    let delimiter? : Option UInt8 :=
      if a.has '0' then some 0
      else (a.value? 'd').bind fun d =>
        if d = octets "\\n" then some 0x0A
        else if d = octets "\\t" then some 0x09
        else if d = octets "\\0" then some 0
        else d.head?
    let byLines := a.has 'I' || a.has 'L'
    let pieces : Except String (List (List Bytes)) :=
      match delimiter? with
      | some d =>
        let parts := cutAt (· = d) bs
        let parts := if parts.getLast? = some [] then parts.dropLast else parts
        .ok (parts.map fun p => [p])
      | none =>
        if a.has 'I' then
          .ok (((lines bs).map fun l => l.dropWhile isBlankByte).filter (!·.isEmpty)
            |>.map fun l => [(inputWords none none [] (octets "\"" ++ l ++ octets "\"")).toOption.elim l
              fun ws => (ws.head?).getD l])
        else if byLines then
          (((lines bs).mapM (inputWords none none [])).map fun ls => ls.filter (!·.isEmpty))
        else (inputWords none none [] bs).map fun ws => ws.map fun w => [w]
    match pieces with
    | .error e => (fail m "xargs" e 1, .next)
    | .ok pieces =>
      let runs : List (List Bytes) :=
        match a.value? 'I' with
        | some mark =>
          pieces.map fun p =>
            command.map fun c => replacedIn mark (p.head?.getD []) (c.length + 1) c
        | none =>
          let size := ((a.value? 'n').bind natural?).getD 0
          let perLine := ((a.value? 'L').bind natural?).getD 0
          let all := pieces.flatten
          if 0 < size then (groupedBy size (all.length + 1) all).map (command ++ ·)
          else if 0 < perLine then
            (List.range ((pieces.length + perLine - 1) / perLine)).map fun i =>
              command ++ ((pieces.drop (i * perLine)).take perLine).flatten
          else if all.isEmpty then []
          else [command ++ all]
      let runs := if runs.isEmpty && !a.has 'r' && !a.has 'I' && pieces.isEmpty then [command]
        else runs
      let (m, flow) := runs.foldl
        (fun (acc : Machine × Flow) run =>
          let (m, flow) := acc
          if flow ≠ .next || m.status = 124 then acc
          else
            let before := m.status
            let m := if a.has 't' then m.warn (text ((octets " ").intercalate run)) else m
            let (after, flow) := call (m.setStream 0 (some .discard)) run
            let after := match m.stream? 0 with
              | some s => after.setStream 0 (some s)
              | none => after
            let status := after.status
            let result :=
              if status = 255 then 124
              else if 128 ≤ status then 125
              else if status = 127 || status = 126 then status
              else if status != 0 then 123
              else before
            (after.withStatus result, flow))
        (m.withStatus 0, .next)
      (m, flow)

end Conformance.Shell.Tool
