import Conformance.Shell.Tool.Arguments

/-!
# Conditions

The program `test`. What an argument means depends on those after it: an operator may stand where an
operand is due. Arguments are read from left to right; a disjunction binds weakest, then a conjunction,
then a negation.
-/

namespace Conformance.Shell.Tool.Condition

/-- The kinds of operators. -/
inductive Kind where
  | unary | binary | negation | both | either | opening | closing
  deriving DecidableEq, Repr

/-- The kind of an operator, if it is one. -/
def kind? (bs : Bytes) : Option Kind :=
  match text bs with
  | "-r" | "-w" | "-x" | "-e" | "-f" | "-d" | "-c" | "-b" | "-p" | "-u" | "-g" | "-k" | "-s"
  | "-t" | "-z" | "-n" | "-h" | "-L" | "-S" | "-O" | "-G" => some .unary
  | "=" | "!=" | "<" | ">" | "-eq" | "-ne" | "-gt" | "-ge" | "-lt" | "-le" | "-nt" | "-ot"
  | "-ef" => some .binary
  | "!" => some .negation
  | "-a" => some .both
  | "-o" => some .either
  | "(" => some .opening
  | ")" => some .closing
  | _ => none

/-- What an argument is where something new begins. -/
inductive Token where
  | finish
  | operand
  | operator (kind : Kind)
  deriving DecidableEq, Repr

/-- Whether the first argument stands where an operand is due. -/
def isOperand : List Bytes → Bool
  | [_] => true
  | [_, _] => false
  | _ :: b :: _ => kind? b = some .binary
  | [] => true

/-- What the first argument is. -/
def token (args : List Bytes) : Token :=
  match args with
  | [] => .finish
  | a :: rest =>
    match kind? a with
    | some .unary => if isOperand args then .operand else .operator .unary
    | some .opening => if rest.isEmpty then .operand else .operator .opening
    | some k => .operator k
    | none => .operand

/-- Whether something is so of what stands at a path. -/
def isFile (m : Machine) (op : Char) (path : Bytes) : Bool :=
  let node := node? m path
  match op with
  | 'e' | 'r' | 'w' | 'O' | 'G' => node.isSome
  | 'f' => match node with | some (.file ..) | some (.tool _) => true | _ => false
  | 'd' => node = some .directory
  | 'p' => node = some .pipe
  | 'c' => node = some .null || node = some .zeros
  | 'x' =>
    match node with
    | some (.file _ executable) => executable
    | some (.tool _) | some .directory => true
    | _ => false
  | 's' =>
    match node with
    | some (.file content _) => !content.isEmpty
    | some (.tool _) | some .directory => true
    | _ => false
  | 'L' | 'h' => match entry? m path with | some (_, .link _) => true | _ => false
  | _ => false

/-- The value of an operator with one operand. -/
def unary (m : Machine) (op x : Bytes) : Except String Bool :=
  match text op with
  | "-n" => .ok !x.isEmpty
  | "-z" => .ok x.isEmpty
  | "-t" => if (integer? x).isSome then .ok false else .error ("Illegal number: " ++ text x)
  | _ => .ok (isFile m (charOf (op.getLast?.getD 0)) x)

/-- The number that an operand is, if it fits into 64 bits. -/
def number? (bs : Bytes) : Option Int :=
  (integer? bs).filter fun n => -0x8000000000000000 ≤ n && n ≤ 0x7FFFFFFFFFFFFFFF

/-- The value of an operator with two operands. -/
def binary (m : Machine) (x op y : Bytes) : Except String Bool :=
  let compare (f : Int → Int → Bool) : Except String Bool :=
    match number? x, number? y with
    | none, _ => .error ("Illegal number: " ++ text x)
    | _, none => .error ("Illegal number: " ++ text y)
    | some a, some b => .ok (f a b)
  match text op with
  | "=" => .ok (x = y)
  | "!=" => .ok (x ≠ y)
  | "<" => .ok (Path.compareOctets x y = .lt)
  | ">" => .ok (Path.compareOctets x y = .gt)
  | "-eq" => compare fun a b => a = b
  | "-ne" => compare fun a b => a ≠ b
  | "-lt" => compare fun a b => a < b
  | "-le" => compare fun a b => a ≤ b
  | "-gt" => compare fun a b => b < a
  | "-ge" => compare fun a b => b ≤ a
  | "-ef" =>
    .ok (match m.files.resolve true x, m.files.resolve true y with
      | .ok a, .ok b => a = b && (m.files.node? a).isSome
      | _, _ => false)
  | "-nt" => .ok ((node? m x).isSome && (node? m y).isNone)
  | _ => .ok ((node? m x).isNone && (node? m y).isSome)

mutual

/-- Reads a disjunction that begins with a token. The arguments that are left begin with the last
    one read. -/
def either (m : Machine) : (fuel : Nat) → Token → List Bytes → Except String (Bool × List Bytes)
  | 0, _, args => .ok (false, args)
  | fuel + 1, t, args => do
    let (a, args) ← both m fuel t args
    if token args.tail = .operator .either then
      let (b, args) ← either m fuel (token (args.drop 2)) (args.drop 2)
      return (a || b, args)
    else return (a, args)

/-- Reads a conjunction. -/
def both (m : Machine) : (fuel : Nat) → Token → List Bytes → Except String (Bool × List Bytes)
  | 0, _, args => .ok (false, args)
  | fuel + 1, t, args => do
    let (a, args) ← negation m fuel t args
    if token args.tail = .operator .both then
      let (b, args) ← both m fuel (token (args.drop 2)) (args.drop 2)
      return (a && b, args)
    else return (a, args)

/-- Reads a negation. -/
def negation (m : Machine) : (fuel : Nat) → Token → List Bytes →
    Except String (Bool × List Bytes)
  | 0, _, args => .ok (false, args)
  | fuel + 1, t, args =>
    if t = .operator .negation then
      match token args.tail with
      | .finish => .ok (true, args)
      | t => do
        let (a, args) ← negation m fuel t args.tail
        return (!a, args)
    else primary m fuel t args

/-- Reads an operand, an operator with its operands, or a condition in parentheses. -/
def primary (m : Machine) : (fuel : Nat) → Token → List Bytes → Except String (Bool × List Bytes)
  | 0, _, args => .ok (false, args)
  | fuel + 1, t, args =>
    match t, args with
    | .finish, _ | _, [] => .ok (false, args)
    | .operator .opening, _ :: rest =>
      match token rest with
      | .operator .closing => .ok (false, rest)
      | t => do
        let (a, args) ← either m fuel t rest
        if token args.tail = .operator .closing then return (a, args.tail)
        else throw "closing paren expected"
    | .operator .unary, op :: rest =>
      match rest with
      | [] => .error (text op ++ ": argument expected")
      | x :: _ => do return (← unary m op x, rest)
    | _, x :: rest =>
      if token rest = .operator .binary then
        match rest with
        | op :: y :: more => do return (← binary m x op y, y :: more)
        | op :: [] => .error (text op ++ ": argument expected")
        | [] => .ok (false, args)
      else .ok (!x.isEmpty, args)

end

/-- The value of a condition. `fuel` bounds its length. -/
def evaluate (m : Machine) : (fuel : Nat) → List Bytes → Except String Bool
  | 0, _ => .ok false
  | fuel + 1, args =>
    let whole (t : Token) (args : List Bytes) : Except String Bool := do
      let (a, rest) ← either m (8 * args.length + 8) t args
      match rest with
      | x :: _ :: _ => throw (text x ++ ": unexpected operator")
      | _ => return a
    let bracketed (args : List Bytes) : Except String Bool :=
      if args.head? = some (octets "(") && args.getLast? = some (octets ")") then
        let inside := args.tail.dropLast
        whole (token inside) inside
      else if args.head? = some (octets "!") then
        (evaluate m fuel args.tail).map (!·)
      else whole (token args) args
    match args with
    | [] => .ok false
    | [_, op, _] => if kind? op = some .binary then whole .operand args else bracketed args
    | [_, _, _, _] => bracketed args
    | args => whole (token args) args

end Condition

/-- The program `test`. -/
def test (m : Machine) (args : List Bytes) : Machine :=
  match Condition.evaluate m (args.length + 1) args with
  | .ok holds => m.withTest holds
  | .error e => (m.complain e).withStatus 2

/-- The program `[`, whose last argument closes the bracket. -/
def bracket (m : Machine) (args : List Bytes) : Machine :=
  if args.getLast? = some (octets "]") then test m args.dropLast
  else (m.complain "missing ]").withStatus 2

end Conformance.Shell.Tool
