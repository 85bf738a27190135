import Conformance.Shell.Octet

/-!
# Sums

The arithmetic of the shell: integers of 64 bits with the operators of C, variables, and assignments.
A sum is evaluated while it is read. Parts whose value does not count are read only.
-/

namespace Conformance.Shell.Sum

/-- How many values an integer has. -/
def modulus : Nat := 0x10000000000000000

/-- The bits of an integer. -/
def bits (n : Int) : Nat := (n % (modulus : Int)).toNat

/-- The integer with the given bits. -/
def ofBits (n : Nat) : Int :=
  if n % modulus < 0x8000000000000000 then (n % modulus : Nat)
  else ((n % modulus : Nat) : Int) - modulus

/-- An integer brought into the range of 64 bits. -/
def wrap (n : Int) : Int := ofBits (bits n)

/-- The nearest integer in the range of 64 bits. -/
def clamp (n : Int) : Int := max (-0x8000000000000000) (min n 0x7FFFFFFFFFFFFFFF)

/-- A part of a sum. -/
inductive Token where
  | number (n : Int)
  | name (bs : Bytes)
  | op (text : String)
  deriving DecidableEq, Repr

/-- The number at the front in the notation of C, and how many octets it takes. -/
def numeral (bs : Bytes) : Nat × Nat :=
  let prefixed (base : Nat) (rest : Bytes) : Option (Nat × Nat) :=
    match readDigits base 0 0 rest with
    | (_, 0) => none
    | (value, count) => some (value, count + 2)
  let special : Option (Nat × Nat) :=
    match bs with
    | z :: x :: rest =>
      if z = ascii '0' && lowerByte x = ascii 'x' then prefixed 16 rest
      else if z = ascii '0' && lowerByte x = ascii 'b' then prefixed 2 rest
      else none
    | _ => none
  special.getD (readDigits (if bs.head? = some (ascii '0') then 8 else 10) 0 0 bs)

/-- The integer that a value is in the notation of C; nothing is zero. -/
def valueOf? (bs : Bytes) : Option Int :=
  let bs := trimEnd isSpaceByte (bs.dropWhile isSpaceByte)
  if bs.isEmpty then some 0
  else
    let (negative, digits) : Bool × Bytes :=
      match bs with
      | b :: rest =>
        if b = ascii '-' then (true, rest)
        else if b = ascii '+' then (false, rest)
        else (false, bs)
      | [] => (false, [])
    let (value, count) := numeral digits
    if count = 0 || count < digits.length then none
    else some (clamp (if negative then -(value : Int) else value))

/-- The operators of three, two and one octets, longer ones first. -/
def operators : List String :=
  ["<<=", ">>=", "<<", ">>", "<=", ">=", "==", "!=", "&&", "||", "+=", "-=", "*=", "/=", "%=",
    "&=", "|=", "^=", "+", "-", "*", "/", "%", "&", "|", "^", "~", "!", "<", ">", "=", "?", ":",
    "(", ")"]

/-- The parts of a sum. `fuel` bounds its length. -/
def tokens : (fuel : Nat) → Bytes → List Token
  | 0, _ => []
  | _, [] => []
  | fuel + 1, b :: bs =>
    if isSpaceByte b then tokens fuel bs
    else if isDigitByte b then
      let (value, count) := numeral (b :: bs)
      .number (clamp value) :: tokens fuel ((b :: bs).drop (max count 1))
    else if isNameStart b then
      let name := (b :: bs).takeWhile isNameByte
      .name name :: tokens fuel ((b :: bs).drop name.length)
    else
      match operators.findSome? fun op => (afterFront? (octets op) (b :: bs)).map ((op, ·)) with
      | some (op, rest) => .op op :: tokens fuel rest
      | none => [.op "\x00"]

/-- What is left of a sum, and the variables that it set, last first. -/
structure State where
  rest : List Token
  assigned : List (Bytes × Int)
  deriving Repr

/-- The operators of a level of binding, weakest first. -/
def level : Nat → List String
  | 0 => ["|"]
  | 1 => ["^"]
  | 2 => ["&"]
  | 3 => ["==", "!="]
  | 4 => ["<", ">", "<=", ">="]
  | 5 => ["<<", ">>"]
  | 6 => ["+", "-"]
  | _ => ["*", "/", "%"]

/-- The number of levels. -/
def levels : Nat := 8

/-- The value of an operator. -/
def apply (op : String) (a b : Int) : Except String Int :=
  let truth (p : Bool) : Except String Int := .ok (if p then 1 else 0)
  let count := (b % 64).toNat
  match op with
  | "|" => .ok (ofBits (Nat.lor (bits a) (bits b)))
  | "^" => .ok (ofBits (Nat.xor (bits a) (bits b)))
  | "&" => .ok (ofBits (Nat.land (bits a) (bits b)))
  | "==" => truth (a = b)
  | "!=" => truth (a ≠ b)
  | "<" => truth (a < b)
  | ">" => truth (b < a)
  | "<=" => truth (a ≤ b)
  | ">=" => truth (b ≤ a)
  | "<<" => .ok (ofBits (bits a * Nat.pow 2 count))
  | ">>" => .ok (Int.fdiv a (Nat.pow 2 count))
  | "+" => .ok (wrap (a + b))
  | "-" => .ok (wrap (a - b))
  | "*" => .ok (wrap (a * b))
  | _ =>
    if b = 0 then .error "division by zero"
    else if op = "/" then .ok (wrap (Int.tdiv a b))
    else .ok (Int.tmod a b)

/-- The operator of an assignment; nothing for a plain one. -/
def assignment? (op : String) : Option String :=
  if op = "=" then some ""
  else if ["<<=", ">>=", "+=", "-=", "*=", "/=", "%=", "&=", "|=", "^="].contains op then
    some (String.ofList op.toList.dropLast)
  else none

/-- The value of a variable. -/
def look (value : Bytes → Option Bytes) (s : State) (name : Bytes) : Except String Int :=
  match s.assigned.find? fun a => a.1 = name with
  | some (_, n) => .ok n
  | none =>
    let bs := (value name).getD []
    match valueOf? bs with
    | some n => .ok n
    | none => .error ("\x00" ++ text bs)

mutual

/-- Reads an assignment or a choice. `counts` says whether the value counts. -/
def readAssignment (value : Bytes → Option Bytes) : (fuel : Nat) → (counts : Bool) → State →
    Except String (Int × State)
  | 0, _, _ => .error "expecting primary"
  | fuel + 1, counts, s =>
    match s.rest with
    | .name name :: .op op :: rest =>
      match assignment? op with
      | none => readChoice value fuel counts s
      | some op => do
        let (n, s) ← readAssignment value fuel counts { s with rest := rest }
        if !counts then return (n, s)
        else
          let n ← if op.isEmpty then pure n else apply op (← look value s name) n
          return (n, { s with assigned := (name, n) :: s.assigned })
    | _ => readChoice value fuel counts s

/-- Reads a choice between two values. -/
def readChoice (value : Bytes → Option Bytes) : (fuel : Nat) → (counts : Bool) → State →
    Except String (Int × State)
  | 0, _, _ => .error "expecting primary"
  | fuel + 1, counts, s => do
    let (a, s) ← readEither value fuel counts s
    match s.rest with
    | .op "?" :: rest =>
      let (b, s) ← readAssignment value fuel (counts && a ≠ 0) { s with rest := rest }
      match s.rest with
      | .op ":" :: rest =>
        let (c, s) ← readChoice value fuel (counts && a = 0) { s with rest := rest }
        return (if a ≠ 0 then b else c, s)
      | _ => .error "expecting ':'"
    | _ => return (a, s)

/-- Reads parts joined by `||`. -/
def readEither (value : Bytes → Option Bytes) : (fuel : Nat) → (counts : Bool) → State →
    Except String (Int × State)
  | 0, _, _ => .error "expecting primary"
  | fuel + 1, counts, s => do
    let (a, s) ← readBoth value fuel counts s
    match s.rest with
    | .op "||" :: rest =>
      let (b, s) ← readEither value fuel (counts && a = 0) { s with rest := rest }
      return (if a ≠ 0 || b ≠ 0 then 1 else 0, s)
    | _ => return (a, s)

/-- Reads parts joined by `&&`. -/
def readBoth (value : Bytes → Option Bytes) : (fuel : Nat) → (counts : Bool) → State →
    Except String (Int × State)
  | 0, _, _ => .error "expecting primary"
  | fuel + 1, counts, s => do
    let (a, s) ← readLevel value fuel 0 counts s
    match s.rest with
    | .op "&&" :: rest =>
      let (b, s) ← readBoth value fuel (counts && a ≠ 0) { s with rest := rest }
      return (if a ≠ 0 && b ≠ 0 then 1 else 0, s)
    | _ => return (a, s)

/-- Reads a part whose operators bind at least as a level does. -/
def readLevel (value : Bytes → Option Bytes) : (fuel level : Nat) → (counts : Bool) → State →
    Except String (Int × State)
  | 0, _, _, _ => .error "expecting primary"
  | fuel + 1, n, counts, s =>
    if levels ≤ n then readPrimary value fuel counts s
    else do
      let (a, s) ← readLevel value fuel (n + 1) counts s
      readLevelAfter value fuel n counts a s

/-- Reads what follows the first operand of a level. -/
def readLevelAfter (value : Bytes → Option Bytes) : (fuel level : Nat) → (counts : Bool) → Int →
    State → Except String (Int × State)
  | 0, _, _, _, _ => .error "expecting primary"
  | fuel + 1, n, counts, a, s =>
    match s.rest with
    | .op op :: rest =>
      if (level n).contains op then do
        let (b, s) ← readLevel value fuel (n + 1) counts { s with rest := rest }
        let r ← if counts then apply op a b else pure 0
        readLevelAfter value fuel n counts r s
      else .ok (a, s)
    | _ => .ok (a, s)

/-- Reads a number, a variable, or a part with an operator in front or in parentheses. -/
def readPrimary (value : Bytes → Option Bytes) : (fuel : Nat) → (counts : Bool) → State →
    Except String (Int × State)
  | 0, _, _ => .error "expecting primary"
  | fuel + 1, counts, s =>
    match s.rest with
    | .number n :: rest => .ok (n, { s with rest := rest })
    | .name name :: rest => do
      let n ← if counts then look value s name else pure 0
      return (n, { s with rest := rest })
    | .op "(" :: rest => do
      let (n, s) ← readAssignment value fuel counts { s with rest := rest }
      match s.rest with
      | .op ")" :: rest => return (n, { s with rest := rest })
      | _ => .error "expecting ')'"
    | .op op :: rest => do
      let s := { s with rest := rest }
      match op with
      | "!" =>
        let (n, s) ← readPrimary value fuel counts s
        return (if n = 0 then 1 else 0, s)
      | "~" =>
        let (n, s) ← readPrimary value fuel counts s
        return (-n - 1, s)
      | "+" => readPrimary value fuel counts s
      | "-" =>
        let (n, s) ← readPrimary value fuel counts s
        return (wrap (-n), s)
      | _ => .error "expecting primary"
    | [] => .error "expecting primary"

end

/-- The value of a sum and the variables that it sets, first one first, or what is wrong with it. -/
def evaluate (value : Bytes → Option Bytes) (source : Bytes) :
    Except String (Int × List (Bytes × Int)) :=
  let ts := tokens (source.length + 1) source
  let told (e : String) : String :=
    match e.toList with
    | '\x00' :: cs => "Illegal number: " ++ String.ofList cs
    | _ => "arithmetic expression: " ++ e ++ ": \"" ++ text source ++ "\""
  match readAssignment value (16 * ts.length + 64) true ⟨ts, []⟩ with
  | .error e => .error (told e)
  | .ok (n, s) =>
    if s.rest.isEmpty then .ok (n, s.assigned.reverse) else .error (told "expecting EOF")

end Conformance.Shell.Sum
