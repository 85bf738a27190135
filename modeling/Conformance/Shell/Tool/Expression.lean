import Conformance.Shell.Regex.Reader
import Conformance.Shell.Tool.Arguments

/-!
# Expressions of arguments

The program `expr`: its arguments are operands and operators. Values are texts; those that look like
integers are compared and computed with as such.
-/

namespace Conformance.Shell.Tool.Expression

/-- The integer that a value looks like. -/
def integerOf? (bs : Bytes) : Option Int :=
  match bs with
  | b :: digits =>
    if b = ascii '-' then (natural? digits).map fun n => -(n : Int)
    else (natural? bs).map fun n => (n : Int)
  | [] => none

/-- Whether a value counts as true. -/
def holds (bs : Bytes) : Bool := !bs.isEmpty && integerOf? bs != some 0

/-- What a text matches from its front on: what a group holds, or how many octets match. -/
def matched (bs pattern : Bytes) : Except String Bytes := do
  let r ← Regex.read ⟨false, false, false, false⟩ pattern
  let t := Regex.Subject.of bs
  let grouped := r.groups != 0
  match r.matchAt? t 0 with
  | none => return if grouped then [] else octets "0"
  | some s =>
    if grouped then
      return (Regex.Found.mk 0 s.position s.groups).group t 1
    else return number s.position

/-- The value of a comparison. -/
def compare (op : String) (a b : Bytes) : Bytes :=
  let order : Ordering :=
    match integerOf? a, integerOf? b with
    | some x, some y => Ord.compare x y
    | _, _ => Path.compareOctets a b
  let holds : Bool :=
    match op with
    | "<" => order = .lt
    | "<=" => order ≠ .gt
    | "=" | "==" => order = .eq
    | "!=" => order ≠ .eq
    | ">" => order = .gt
    | _ => order ≠ .lt
  octets (if holds then "1" else "0")

/-- The value of an operator on integers. -/
def compute (op : String) (a b : Bytes) : Except String Bytes :=
  match integerOf? a, integerOf? b with
  | some x, some y =>
    match op with
    | "+" => .ok (integer (x + y))
    | "-" => .ok (integer (x - y))
    | "*" => .ok (integer (x * y))
    | _ =>
      if y = 0 then .error "division by zero"
      else .ok (integer (if op = "/" then Int.tdiv x y else Int.tmod x y))
  | _, _ => .error "non-integer argument"

/-- The operators of the levels, weakest first. -/
def level : Nat → List String
  | 0 => ["|"]
  | 1 => ["&"]
  | 2 => ["<", "<=", "=", "==", "!=", ">=", ">"]
  | 3 => ["+", "-"]
  | 4 => ["*", "/", "%"]
  | _ => [":"]

/-- The value of an operator. -/
def apply (op : String) (a b : Bytes) : Except String Bytes :=
  match op with
  | "|" => .ok (if holds a then a else if holds b then b else octets "0")
  | "&" => .ok (if holds a && holds b then a else octets "0")
  | ":" => matched a b
  | "+" | "-" | "*" | "/" | "%" => compute op a b
  | op => .ok (compare op a b)

mutual

/-- Reads an expression whose operators bind at least as a level does. -/
def read : (fuel level : Nat) → List Bytes → Except String (Bytes × List Bytes)
  | 0, _, _ => .error "syntax error"
  | fuel + 1, n, args => do
    if 5 < n then readOperand fuel args
    else
      let (a, args) ← read fuel (n + 1) args
      readAfter fuel n a args

/-- Reads what follows the first operand of a level. -/
def readAfter : (fuel level : Nat) → Bytes → List Bytes → Except String (Bytes × List Bytes)
  | 0, _, a, args => .ok (a, args)
  | fuel + 1, n, a, args =>
    match args with
    | op :: rest =>
      if (level n).contains (text op) then do
        let (b, rest) ← read fuel (n + 1) rest
        let r ← apply (text op) a b
        readAfter fuel n r rest
      else .ok (a, args)
    | [] => .ok (a, [])

/-- Reads an operand, an expression in parentheses or a function of texts. -/
def readOperand : (fuel : Nat) → List Bytes → Except String (Bytes × List Bytes)
  | 0, _ => .error "syntax error"
  | fuel + 1, args =>
    match args with
    | [] => .error "syntax error: missing argument"
    | a :: rest =>
      match text a with
      | "(" => do
        let (v, rest) ← read fuel 0 rest
        match rest with
        | c :: rest =>
          if c = octets ")" then return (v, rest)
          else throw ("syntax error: expecting ')' instead of '" ++ text c ++ "'")
        | [] => throw "syntax error: expecting ')'"
      | ")" => .error "syntax error: unexpected ')'"
      | "+" =>
        match rest with
        | b :: rest => .ok (b, rest)
        | [] => .error "syntax error: missing argument after '+'"
      | "length" => do
        if rest.isEmpty then throw "syntax error: missing argument after 'length'"
        else
          let (v, rest) ← readOperand fuel rest
          return (number v.length, rest)
      | "match" => do
        let (v, rest) ← readOperand fuel rest
        let (p, rest) ← readOperand fuel rest
        return (← matched v p, rest)
      | "index" => do
        let (v, rest) ← readOperand fuel rest
        let (set, rest) ← readOperand fuel rest
        return (number ((v.findIdx? set.contains).elim 0 (· + 1)), rest)
      | "substr" => do
        let (v, rest) ← readOperand fuel rest
        let (start, rest) ← readOperand fuel rest
        let (size, rest) ← readOperand fuel rest
        match integerOf? start, integerOf? size with
        | some i, some n =>
          if i < 1 || n < 1 then return ([], rest)
          else return ((v.drop (i - 1).toNat).take n.toNat, rest)
        | _, _ => return ([], rest)
      | _ => .ok (a, rest)

end

end Expression

/-- The program `expr`. -/
def expr (m : Machine) (args : List Bytes) : Machine :=
  let args := if args.head? = some (octets "--") then args.tail else args
  if args.isEmpty then lacking m "expr" 2
  else
    match Expression.read (16 * args.length + 16) 0 args with
    | .error e => fail m "expr" e 2
    | .ok (v, []) => (m.print (line v)).withTest (Expression.holds v)
    | .ok (_, a :: _) => fail m "expr" ("syntax error: unexpected argument '" ++ text a ++ "'") 2

end Conformance.Shell.Tool
