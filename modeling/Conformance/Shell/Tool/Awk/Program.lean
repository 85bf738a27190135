import Conformance.Shell.Regex.Reader

/-!
# Programs for records

The programs of `awk`: rules whose actions are carried out for the records that their patterns select, and
functions.
-/

namespace Conformance.Shell.Tool.Awk

/-- The operators of two operands that give a number. -/
inductive Operator where
  | add | subtract | multiply | divide | modulo | power
  deriving DecidableEq, Repr

/-- How two values are compared. -/
inductive Comparison where
  | less | lessEqual | equal | unequal | greater | greaterEqual
  deriving DecidableEq, Repr

/-- The functions that every program has. -/
inductive Builtin where
  | length | substr | index | split | sub | gsub | match | sprintf
  | sin | cos | atan2 | exp | log | sqrt | int | rand | srand
  | tolower | toupper | system | close | flush
  deriving DecidableEq, Repr

/-- Where output goes. -/
inductive Direction where
  | write | append | command
  deriving DecidableEq, Repr

/-- An expression. -/
inductive Expr where
  | number (x : Float)
  | text (bs : Bytes)
  /-- An expression to look for, which by itself is compared with the record. -/
  | regex (source : Bytes)
  | variable (name : Bytes)
  | field (n : Expr)
  | element (name : Bytes) (keys : List Expr)
  | assign (target : Expr) (op : Option Operator) (value : Expr)
  | choice (condition yes no : Expr)
  | either (a b : Expr)
  | both (a b : Expr)
  | member (keys : List Expr) (name : Bytes)
  | matching (negated : Bool) (a b : Expr)
  | compare (c : Comparison) (a b : Expr)
  | join (a b : Expr)
  | binary (op : Operator) (a b : Expr)
  | negative (a : Expr)
  | positive (a : Expr)
  | negation (a : Expr)
  | step (before up : Bool) (target : Expr)
  | call (name : Bytes) (args : List Expr)
  | builtin (f : Builtin) (args : List Expr)
  | group (e : Expr)
  /-- The next record: of the input, of a file, or of the output of a command. -/
  | getline (target : Option Expr) (file command : Option Expr)

/-- A statement. -/
inductive Stmt where
  | expr (e : Expr)
  | print (args : List Expr) (target : Option (Direction × Expr))
  | printf (args : List Expr) (target : Option (Direction × Expr))
  | choice (condition : Expr) (yes : Stmt) (no : Option Stmt)
  | loop (condition : Expr) (body : Stmt)
  | loopAfter (body : Stmt) (condition : Expr)
  | count (start : Option Stmt) (condition : Option Expr) (step : Option Stmt) (body : Stmt)
  | each (name array : Bytes) (body : Stmt)
  | block (body : List Stmt)
  | next
  | exit (status : Option Expr)
  | leave
  | again
  | back (value : Option Expr)
  | delete (name : Bytes) (keys : Option (List Expr))

instance : Inhabited Expr := ⟨.number 0.0⟩

instance : Inhabited Stmt := ⟨.block []⟩

/-- When an action is carried out. -/
inductive Pattern where
  | first
  | last
  | all
  | one (e : Expr)
  | range (a b : Expr)

/-- A rule: without an action the record is printed. -/
structure Rule where
  pattern : Pattern
  action : Option Stmt

/-- A function with its parameters. -/
structure Function where
  name : Bytes
  params : List Bytes
  body : Stmt

/-- A program. -/
structure Program where
  rules : List Rule
  functions : List Function

/-! ## Arrays -/

/-- Whether an expression is the name of a variable. -/
def Expr.isNamed (e : Expr) (name : Bytes) : Bool :=
  match e with
  | .variable n => n = name
  | .group e => e.isNamed name
  | _ => false

mutual

/-- Whether an expression uses a name as an array. `takes` says whether a function takes an array at a
    place. -/
def Expr.indexes (takes : Bytes → Nat → Bool) (name : Bytes) : Expr → Bool
  | .number _ | .text _ | .regex _ | .variable _ => false
  | .field e | .negative e | .positive e | .negation e | .step _ _ e | .group e =>
    e.indexes takes name
  | .element n keys | .member keys n => n = name || Expr.anyIndexes takes name keys
  | .assign a _ b | .either a b | .both a b | .matching _ a b | .compare _ a b | .join a b
  | .binary _ a b => a.indexes takes name || b.indexes takes name
  | .choice a b c => a.indexes takes name || b.indexes takes name || c.indexes takes name
  | .call f args => Expr.argIndexes takes name f 0 args || Expr.anyIndexes takes name args
  | .builtin f args =>
    (f = .split && (args[1]?).any (·.isNamed name)) || Expr.anyIndexes takes name args
  | .getline a b c => Expr.optIndexes takes name a || Expr.optIndexes takes name b
    || Expr.optIndexes takes name c

/-- Whether one of some expressions uses a name as an array. -/
def Expr.anyIndexes (takes : Bytes → Nat → Bool) (name : Bytes) : List Expr → Bool
  | [] => false
  | e :: es => e.indexes takes name || Expr.anyIndexes takes name es

/-- Whether an optional expression uses a name as an array. -/
def Expr.optIndexes (takes : Bytes → Nat → Bool) (name : Bytes) : Option Expr → Bool
  | none => false
  | some e => e.indexes takes name

/-- Whether an argument of a function is a name where the function takes an array. -/
def Expr.argIndexes (takes : Bytes → Nat → Bool) (name f : Bytes) : Nat → List Expr → Bool
  | _, [] => false
  | i, e :: es => (e.isNamed name && takes f i) || Expr.argIndexes takes name f (i + 1) es

end

mutual

/-- Whether a statement uses a name as an array. -/
def Stmt.indexes (takes : Bytes → Nat → Bool) (name : Bytes) : Stmt → Bool
  | .expr e => e.indexes takes name
  | .print args target | .printf args target =>
    Expr.anyIndexes takes name args || (match target with | some (_, e) => e.indexes takes name | none => false)
  | .choice e a b => e.indexes takes name || a.indexes takes name || Stmt.optIndexes takes name b
  | .loop e a | .loopAfter a e => e.indexes takes name || a.indexes takes name
  | .count a e b c => Stmt.optIndexes takes name a || Expr.optIndexes takes name e
    || Stmt.optIndexes takes name b || c.indexes takes name
  | .each _ array body => array = name || body.indexes takes name
  | .block body => Stmt.anyIndexes takes name body
  | .next | .leave | .again => false
  | .exit e | .back e => Expr.optIndexes takes name e
  | .delete n keys => n = name || (match keys with | some ks => Expr.anyIndexes takes name ks | none => false)

/-- Whether one of some statements uses a name as an array. -/
def Stmt.anyIndexes (takes : Bytes → Nat → Bool) (name : Bytes) : List Stmt → Bool
  | [] => false
  | s :: ss => s.indexes takes name || Stmt.anyIndexes takes name ss

/-- Whether an optional statement uses a name as an array. -/
def Stmt.optIndexes (takes : Bytes → Nat → Bool) (name : Bytes) : Option Stmt → Bool
  | none => false
  | some s => s.indexes takes name

end

/-- The parameters of functions that are arrays, found out in a number of rounds. -/
def Program.arrayParams (p : Program) : (rounds : Nat) → List (Bytes × List Bool)
  | 0 => []
  | rounds + 1 =>
    let before := p.arrayParams rounds
    let takes (f : Bytes) (i : Nat) : Bool :=
      (before.find? (·.1 = f)).any fun e => (e.2[i]?).getD false
    p.functions.map fun f => (f.name, f.params.map fun x => f.body.indexes takes x)

end Conformance.Shell.Tool.Awk
