import Conformance.Shell.Glob
import Conformance.Shell.Tool.Files

/-!
# Walking through directories

The program `find`: an expression is evaluated for every file below the paths that it is given. Its parts
test the file or do something with it.
-/

namespace Conformance.Shell.Tool

/-- Who runs a command for a program: the machine after it, and how it left. -/
abbrev Caller := Machine → List Bytes → Machine × Flow

namespace Find

/-- A comparison with a number. -/
inductive Amount where
  | exactly (n : Nat)
  | more (n : Nat)
  | less (n : Nat)
  deriving DecidableEq, Repr

/-- Whether a number is as a comparison asks. -/
def Amount.holds (a : Amount) (n : Nat) : Bool :=
  match a with
  | .exactly k => n = k
  | .more k => k < n
  | .less k => n < k

/-- A part of an expression. -/
inductive Expr where
  | always (holds : Bool)
  | name (fold : Bool) (pattern : Bytes)
  | path (fold : Bool) (pattern : Bytes)
  | kind (letters : Bytes)
  | empty
  | executable
  | exists
  | size (a : Amount) (unit : Nat)
  | newer (path : Bytes)
  | link (pattern : Bytes)
  | print (ending : UInt8)
  | format (f : Bytes)
  | exec (args : List Bytes)
  /-- Runs a command once for many files. -/
  | collect (args : List Bytes)
  | delete
  | prune
  | quit
  | negation (e : Expr)
  | both (a b : Expr)
  | either (a b : Expr)

/-- Whether something is done in an expression with what it is evaluated for. -/
def Expr.acts : Expr → Bool
  | .print _ | .format _ | .exec _ | .collect _ | .delete | .quit => true
  | .negation e => e.acts
  | .both a b | .either a b => a.acts || b.acts
  | _ => false

/-- What is known of a walk besides its expression. -/
structure Limits where
  least : Nat
  most : Option Nat
  depthFirst : Bool

/-- A file that is met: its path, the path that the walk began with, its place, and what stands
    there. -/
structure Entry where
  path : Bytes
  start : Bytes
  place : Place
  node : Node
  depth : Nat

/-- What goes through a walk: the machine, the paths that are kept for a command, last first, whether the
    directory is not entered, and whether the walk is over. -/
structure Walk where
  machine : Machine
  kept : List Bytes
  prunes : Bool
  finished : Bool
  failed : Bool
  flow : Flow

/-- Whether a file is of one of some kinds. -/
def isKind (node : Node) (letters : Bytes) : Bool :=
  letters.any fun b =>
    match charOf b, node with
    | 'f', .file .. | 'f', .tool _ => true
    | 'd', .directory => true
    | 'l', .link _ => true
    | 'p', .pipe => true
    | 'c', .null | 'c', .zeros => true
    | _, _ => false

/-- Whether a pattern matches a text. -/
def matchesPattern (fold : Bool) (pattern bs : Bytes) : Bool :=
  let low (bs : Bytes) : Bytes := if fold then bs.map lowerByte else bs
  Glob.hits ((low pattern).map fun b => (b, false)) (low bs)

/-- The name of a file for patterns. -/
def Entry.name (e : Entry) : Bytes :=
  match (Path.pieces e.path).filter (!·.isEmpty) with
  | [] => octets "/"
  | names => names.getLast?.getD []

/-- A format with its fields filled in. `fuel` bounds its length. -/
def formatText (e : Entry) : (fuel : Nat) → Bytes → Bytes
  | 0, _ => []
  | _, [] => []
  | _, [b] => [b]
  | fuel + 1, b :: c :: rest =>
    if b = ascii '%' then
      let own :=
        match charOf c with
        | 'p' => e.path
        | 'f' => e.name
        | 'P' => (e.path.drop e.start.length).dropWhile (· = Path.slash)
        | 'h' => directoryOf e.path
        | 's' => number (sizeOf e.node)
        | 'd' => number e.depth
        | 'y' => octets (match e.node with
            | .directory => "d" | .link _ => "l" | .pipe => "p" | .null | .zeros => "c" | _ => "f")
        | 'm' => statField e.path e.node 'a'
        | 'l' => match e.node with | .link t => t | _ => []
        | _ => [c]
      own ++ formatText e fuel rest
    else if b = ascii '\\' then
      match charOf c with
      | 'n' => 0x0A :: formatText e fuel rest
      | 't' => 0x09 :: formatText e fuel rest
      | '0' => 0 :: formatText e fuel rest
      | '\\' => c :: formatText e fuel rest
      | _ => b :: c :: formatText e fuel rest
    else b :: formatText e fuel (c :: rest)

/-- Arguments with every pair of braces replaced by a path. `fuel` bounds their length. -/
def filled (path : Bytes) : (fuel : Nat) → Bytes → Bytes
  | 0, bs => bs
  | fuel + 1, bs =>
    match splitAtOnto [] (octets "\x7b\x7d") bs with
    | some (before, after) => before ++ path ++ filled path fuel after
    | none => bs

/-- Evaluates an expression for a file. -/
def Expr.eval (call : Caller) (e : Entry) : Expr → Walk → Bool × Walk
  | .always holds, w => (holds, w)
  | .name fold p, w => (matchesPattern fold p e.name, w)
  | .path fold p, w => (matchesPattern fold p e.path, w)
  | .kind letters, w => (isKind e.node letters, w)
  | .empty, w =>
    (match e.node with
      | .file content _ => content.isEmpty
      | .directory => (w.machine.files.names e.place).isEmpty
      | _ => false, w)
  | .executable, w =>
    (match e.node with | .file _ x => x | .tool _ | .directory => true | _ => false, w)
  | .exists, w => (true, w)
  | .size a unit, w => (a.holds ((sizeOf e.node + unit - 1) / unit), w)
  | .newer _, w => (false, w)
  | .link p, w => (match e.node with | .link t => matchesPattern false p t | _ => false, w)
  | .print ending, w => (true, { w with machine := w.machine.print (e.path ++ [ending]) })
  | .format f, w => (true, { w with machine := w.machine.print (formatText e (f.length + 1) f) })
  | .exec args, w =>
    let (m, flow) := call w.machine (args.map fun a => filled e.path (a.length + 1) a)
    (m.status = 0, { w with machine := m, flow := flow, finished := w.finished || flow ≠ .next })
  | .collect _, w => (true, { w with kept := e.path :: w.kept })
  | .delete, w =>
    if e.path = octets "." then (true, w)
    else if e.node = .directory && !(w.machine.files.names e.place).isEmpty then
      let m := w.machine.warn ("find: cannot delete '" ++ text e.path ++ "': Directory not empty")
      (false, { w with machine := m, failed := true })
    else (true, { w with machine := without w.machine e.place })
  | .prune, w => (true, { w with prunes := true })
  | .quit, w => (true, { w with finished := true })
  | .negation a, w =>
    let (r, w) := a.eval call e w
    (!r, w)
  | .both a b, w =>
    let (r, w) := a.eval call e w
    if r && !w.finished then b.eval call e w else (r && false, w)
  | .either a b, w =>
    let (r, w) := a.eval call e w
    if r || w.finished then (r, w) else b.eval call e w

/-! ## Reading -/

/-- A comparison with a number that may have a sign. -/
def amount? (bs : Bytes) : Option Amount :=
  match bs with
  | b :: rest =>
    if b = ascii '+' then (natural? rest).map .more
    else if b = ascii '-' then (natural? rest).map .less
    else (natural? bs).map .exactly
  | [] => none

/-- A size with a unit. -/
def size? (bs : Bytes) : Option Expr :=
  let unit? : Option Nat :=
    match bs.getLast?.map charOf with
    | some 'c' => some 1
    | some 'w' => some 2
    | some 'b' => some 512
    | some 'k' => some 1024
    | some 'M' => some 1048576
    | some 'G' => some 1073741824
    | _ => none
  match unit? with
  | some unit => (amount? bs.dropLast).map fun a => .size a unit
  | none => (amount? bs).map fun a => .size a 512

/-- The arguments of a command up to the mark that ends them. `acc` holds those before, last first. -/
def commandArgs (acc : List Bytes) : List Bytes → Option (List Bytes × Bool × List Bytes)
  | [] => none
  | a :: rest =>
    if a = octets ";" then some (acc.reverse, false, rest)
    else if a = octets "+" && acc.head? = some (octets "\x7b\x7d") then
      some (acc.reverse, true, rest)
    else commandArgs (a :: acc) rest

/-- What is read of the arguments: the limits, and the arguments left. -/
structure Reader where
  limits : Limits
  rest : List Bytes

mutual

/-- Reads a disjunction. -/
def readEither : (fuel : Nat) → Reader → Except String (Expr × Reader)
  | 0, _ => .error "expression too deep"
  | fuel + 1, r => do
    let (a, r) ← readBoth fuel r
    match r.rest with
    | o :: rest =>
      if o = octets "-o" || o = octets "-or" then
        let (b, r) ← readEither fuel { r with rest := rest }
        return (.either a b, r)
      else return (a, r)
    | [] => return (a, r)

/-- Reads a conjunction. -/
def readBoth : (fuel : Nat) → Reader → Except String (Expr × Reader)
  | 0, _ => .error "expression too deep"
  | fuel + 1, r => do
    let (a, r) ← readOne fuel r
    match r.rest with
    | [] => return (a, r)
    | o :: rest =>
      if o = octets "-a" || o = octets "-and" then
        let (b, r) ← readBoth fuel { r with rest := rest }
        return (.both a b, r)
      else if o = octets "-o" || o = octets "-or" || o = octets ")" then return (a, r)
      else
        let (b, r) ← readBoth fuel r
        return (.both a b, r)

/-- Reads a test, an action, a negation or an expression in parentheses. -/
def readOne : (fuel : Nat) → Reader → Except String (Expr × Reader)
  | 0, _ => .error "expression too deep"
  | fuel + 1, r => do
    match r.rest with
    | [] => throw "expected an expression"
    | o :: rest =>
      let next (e : Expr) (rest : List Bytes) : Except String (Expr × Reader) :=
        .ok (e, { r with rest := rest })
      let name := text o
      let operand (make : Bytes → Except String Expr) : Except String (Expr × Reader) := do
        match rest with
        | x :: rest => next (← make x) rest
        | [] => throw ("missing argument to '" ++ name ++ "'")
      let limit (set : Limits → Nat → Limits) : Except String (Expr × Reader) := do
        match rest with
        | x :: rest =>
          match natural? x with
          | some n => return (.always true, ⟨set r.limits n, rest⟩)
          | none =>
            throw ("Expected a positive decimal integer argument to " ++ name ++ ", but got '"
              ++ text x ++ "'")
        | [] => throw ("missing argument to '" ++ name ++ "'")
      match name with
      | "(" => do
        let (e, r) ← readEither fuel { r with rest := rest }
        match r.rest with
        | c :: rest =>
          if c = octets ")" then return (e, { r with rest := rest })
          else throw "invalid expression; expected to find a ')' but didn't see one"
        | [] => throw "invalid expression; expected to find a ')' but didn't see one"
      | "!" | "-not" => do
        let (e, r) ← readOne fuel { r with rest := rest }
        return (.negation e, r)
      | "-name" => operand fun x => .ok (.name false x)
      | "-iname" => operand fun x => .ok (.name true x)
      | "-path" | "-wholename" => operand fun x => .ok (.path false x)
      | "-ipath" => operand fun x => .ok (.path true x)
      | "-lname" => operand fun x => .ok (.link x)
      | "-type" | "-xtype" =>
        operand fun x =>
          if x.all fun b => isIn b ['f', 'd', 'l', 'p', 'c', 'b', 's', ','] then .ok (.kind x)
          else .error ("Unknown argument to -type: " ++ text x)
      | "-size" =>
        operand fun x =>
          match size? x with
          | some e => .ok e
          | none => .error ("Invalid argument '" ++ text x ++ "' to -size")
      | "-newer" | "-perm" | "-mtime" | "-mmin" | "-user" | "-group" | "-atime" | "-ctime" =>
        operand fun x => .ok (.newer x)
      | "-empty" => next .empty rest
      | "-executable" => next .executable rest
      | "-readable" | "-writable" => next .exists rest
      | "-true" => next (.always true) rest
      | "-false" => next (.always false) rest
      | "-print" => next (.print 0x0A) rest
      | "-print0" => next (.print 0) rest
      | "-printf" => operand fun x => .ok (.format x)
      | "-prune" => next .prune rest
      | "-quit" => next .quit rest
      | "-delete" =>
        return (.delete, ⟨{ r.limits with depthFirst := true }, rest⟩)
      | "-depth" => return (.always true, ⟨{ r.limits with depthFirst := true }, rest⟩)
      | "-maxdepth" => limit fun l n => { l with most := some n }
      | "-mindepth" => limit fun l n => { l with least := n }
      | "-xdev" | "-mount" | "-follow" | "-noleaf" => next (.always true) rest
      | "-exec" | "-execdir" | "-ok" =>
        match commandArgs [] rest with
        | some ([], _, _) | none => throw "missing argument to '-exec'"
        | some (args, many, rest) => next (if many then .collect args.dropLast else .exec args) rest
      | _ =>
        if name.front = '-' then throw ("unknown predicate '" ++ name ++ "'")
        else throw ("paths must precede expression: '" ++ name ++ "'")

end

/-! ## Walking -/

/-- Walks through what stands at a path. `fuel` bounds the depth. -/
def walk (call : Caller) (limits : Limits) (expr : Expr) : (fuel : Nat) → Entry → Walk → Walk
  | 0, _, w => w
  | fuel + 1, e, w =>
    if w.finished then w
    else
      let visit (w : Walk) : Walk :=
        if e.depth < limits.least then w else (expr.eval call e w).2
      let below (w : Walk) : Walk :=
        if e.node ≠ .directory || w.prunes || limits.most.any (· ≤ e.depth) then
          { w with prunes := false }
        else
          (w.machine.files.names e.place).foldl
            (fun w name =>
              match w.machine.files.node? (e.place ++ [name]) with
              | some node =>
                walk call limits expr fuel
                  ⟨Path.entry e.path name, e.start, e.place ++ [name], node, e.depth + 1⟩ w
              | none => w)
            w
      if limits.depthFirst then visit (below w) else below (visit { w with prunes := false })

/-- The command that is run once for many files. -/
def Expr.collected? : Expr → Option (List Bytes)
  | .collect args => some args
  | .negation e => e.collected?
  | .both a b | .either a b => a.collected?.or b.collected?
  | _ => none

end Find

/-- The program `find`. -/
def find (call : Caller) (m : Machine) (args : List Bytes) : Machine × Flow :=
  let isPath (a : Bytes) : Bool :=
    a.head? != some (ascii '-') && a != octets "(" && a != octets "!"
  let args := args.dropWhile fun a => a = octets "-L" || a = octets "-H" || a = octets "-P"
  let paths := args.takeWhile isPath
  let rest := args.drop paths.length
  let limits : Find.Limits := ⟨0, none, false⟩
  let parsed : Except String (Find.Expr × Find.Reader) :=
    if rest.isEmpty then .ok (.print 0x0A, ⟨limits, []⟩)
    else
      match Find.readEither (8 * rest.length + 8) ⟨limits, rest⟩ with
      | .ok (e, r) => if r.rest.isEmpty then .ok (e, r) else .error "invalid expression"
      | .error e => .error e
  match parsed with
  | .error e => (fail m "find" e 1, .next)
  | .ok (e, r) =>
    let e := if e.acts then e else .both e (.print 0x0A)
    let paths := if paths.isEmpty then [octets "."] else paths
    let w := paths.foldl
      (fun (w : Find.Walk) path =>
        match entry? w.machine path with
        | some (place, node) =>
          Find.walk call r.limits e (m.files.nodes.length + 2) ⟨path, path, place, node, 0⟩ w
        | none =>
          let message := "find: '" ++ text path ++ "': No such file or directory"
          { w with machine := w.machine.warn message, failed := true })
      (⟨m, [], false, false, false, .next⟩ : Find.Walk)
    if w.flow ≠ .next then (w.machine, w.flow)
    else
      match e.collected? with
      | some command =>
        if w.kept.isEmpty then (w.machine.withTest !w.failed, .next)
        else
          let (m, flow) := call w.machine (command ++ w.kept.reverse)
          (m.withTest (m.status = 0 && !w.failed), flow)
      | none => (w.machine.withTest !w.failed, .next)

end Conformance.Shell.Tool
