import Conformance.Shell.Directive
import Conformance.Shell.Tool.Awk.Program

/-!
# Reading programs for records

A program is cut into tokens first. A slash begins an expression to look for where an operand is due, and
divides elsewhere. Lines end statements, except after marks that something must follow.
-/

namespace Conformance.Shell.Tool.Awk

/-- A part of a program. -/
inductive Token where
  | number (x : Float)
  | text (bs : Bytes)
  | regex (bs : Bytes)
  | name (bs : Bytes)
  /-- A name with a parenthesis directly behind it. -/
  | call (bs : Bytes)
  | builtin (f : Builtin)
  | word (w : String)
  | op (s : String)
  | newline

/-- The words with a meaning of their own. -/
def words : List String :=
  ["BEGIN", "END", "function", "if", "else", "while", "for", "do", "break", "continue", "next",
   "exit", "return", "delete", "in", "getline", "print", "printf"]

/-- The function of a name. -/
def builtin? (name : String) : Option Builtin :=
  match name with
  | "length" => some .length
  | "substr" => some .substr
  | "index" => some .index
  | "split" => some .split
  | "sub" => some .sub
  | "gsub" => some .gsub
  | "match" => some .match
  | "sprintf" => some .sprintf
  | "sin" => some .sin
  | "cos" => some .cos
  | "atan2" => some .atan2
  | "exp" => some .exp
  | "log" => some .log
  | "sqrt" => some .sqrt
  | "int" => some .int
  | "rand" => some .rand
  | "srand" => some .srand
  | "tolower" => some .tolower
  | "toupper" => some .toupper
  | "system" => some .system
  | "close" => some .close
  | "fflush" => some .flush
  | _ => none

/-- The marks of programs, longer ones first. -/
def marks : List String :=
  ["&&", "||", "++", "--", "+=", "-=", "*=", "/=", "%=", "^=", "==", "<=", ">=", "!=", "!~", ">>",
   "\x7b", "\x7d", "(", ")", "[", "]", ";", ",", "+", "-", "*", "/", "%", "^", "!", ">", "<", "|",
   "?", ":", "~", "$", "="]

/-- Whether an operand ends with a token, so that a slash after it divides. -/
def Token.endsOperand : Token → Bool
  | .number _ | .text _ | .regex _ | .name _ | .builtin _ => true
  | .op s => s = ")" || s = "]" || s = "++" || s = "--"
  | _ => false

/-- The text between quotation marks and what follows it. `acc` holds the octets before, last first.
    `fuel` bounds the length. -/
def quotedText : (fuel : Nat) → (acc : Bytes) → Bytes → Option (Bytes × Bytes)
  | 0, _, _ => none
  | _, _, [] => none
  | fuel + 1, acc, b :: bs =>
    if b = ascii '"' then some (acc.reverse, bs)
    else if b = 0x0A then none
    else if b != ascii '\\' then quotedText fuel (b :: acc) bs
    else
      match bs with
      | [] => none
      | c :: rest =>
        match charOf c with
        | 'n' => quotedText fuel (0x0A :: acc) rest
        | 't' => quotedText fuel (0x09 :: acc) rest
        | 'r' => quotedText fuel (0x0D :: acc) rest
        | 'a' => quotedText fuel (0x07 :: acc) rest
        | 'b' => quotedText fuel (0x08 :: acc) rest
        | 'f' => quotedText fuel (0x0C :: acc) rest
        | 'v' => quotedText fuel (0x0B :: acc) rest
        | '"' | '\\' => quotedText fuel (c :: acc) rest
        | '\n' => quotedText fuel acc rest
        | _ =>
          if ascii '0' ≤ c && c ≤ ascii '7' then
            let digits := (bs.take 3).takeWhile fun d => ascii '0' ≤ d && d ≤ ascii '7'
            quotedText fuel ((readDigits 8 0 0 digits).1.toUInt8 :: acc) (bs.drop digits.length)
          else quotedText fuel (c :: b :: acc) rest

/-- The expression up to the slash that ends it and what follows. `inside` says whether a bracket is
    open. `acc` holds the octets before, last first. -/
def regexText (inside : Bool) (acc : Bytes) : Bytes → Option (Bytes × Bytes)
  | [] => none
  | b :: bs =>
    if b = ascii '/' && !inside then some (acc.reverse, bs)
    else if b = 0x0A then none
    else if b = ascii '\\' then
      match bs with
      | c :: rest => regexText inside (c :: b :: acc) rest
      | [] => none
    else if b = ascii '[' && !inside then
      match bs with
      | c :: d :: rest =>
        if c = ascii '^' && d = ascii ']' then regexText true (d :: c :: b :: acc) rest
        else if c = ascii ']' then regexText true (c :: b :: acc) (d :: rest)
        else regexText true (b :: acc) (c :: d :: rest)
      | rest => regexText true (b :: acc) rest
    else if b = ascii ']' && inside then regexText false (b :: acc) bs
    else regexText inside (b :: acc) bs

/-- The tokens of a program. `acc` holds those before, last first. `fuel` bounds the length. -/
def tokens : (fuel : Nat) → (acc : List Token) → Bytes → Except String (List Token)
  | 0, acc, _ => .ok acc.reverse
  | _, acc, [] => .ok acc.reverse
  | fuel + 1, acc, b :: bs =>
    let isOperand := acc.head?.any Token.endsOperand
    if b = 0x0A then tokens fuel (.newline :: acc) bs
    else if isSpaceByte b then tokens fuel acc bs
    else if b = ascii '#' then tokens fuel acc (bs.dropWhile (· != 0x0A))
    else if b = ascii '\\' && bs.head? = some 0x0A then tokens fuel acc bs.tail
    else if b = ascii '\\' && (octets "\r\n").isPrefixOf bs then tokens fuel acc (bs.drop 2)
    else if b = ascii '"' then
      match quotedText (bs.length + 1) [] bs with
      | some (t, rest) => tokens fuel (.text t :: acc) rest
      | none => .error "runaway string constant"
    else if isDigitByte b || (b = ascii '.' && bs.head?.any isDigitByte) then
      let (x, rest) := readReal (b :: bs)
      tokens fuel (.number x :: acc) rest
    else if isNameStart b then
      let name := (b :: bs).takeWhile isNameByte
      let rest := (b :: bs).drop name.length
      let word := Shell.text name
      let word := if word = "func" then "function" else word
      if words.contains word then tokens fuel (.word word :: acc) rest
      else
        match builtin? word with
        | some f => tokens fuel (.builtin f :: acc) rest
        | none =>
          if rest.head? = some (ascii '(') then tokens fuel (.call name :: acc) rest
          else tokens fuel (.name name :: acc) rest
    else if b = ascii '/' && !isOperand then
      match regexText false [] bs with
      | some (t, rest) => tokens fuel (.regex t :: acc) rest
      | none => .error "runaway regular expression"
    else
      match marks.findSome? fun s => (afterFront? (octets s) (b :: bs)).map ((s, ·)) with
      | some (s, rest) => tokens fuel (.op s :: acc) rest
      | none => .error ("unexpected character '" ++ Shell.text [b] ++ "'")

/-! ## Expressions -/

/-- What may stand in an expression: a sign for greater, and `in`. -/
structure Context where
  greater : Bool
  within : Bool

/-- Whether the next token is a mark. -/
def isOp (ts : List Token) (s : String) : Bool :=
  match ts with
  | .op t :: _ => t = s
  | _ => false

/-- Whether the next token is a word. -/
def isWord (ts : List Token) (w : String) : Bool :=
  match ts with
  | .word v :: _ => v = w
  | _ => false

/-- The fault that the next token does not belong where it stands. -/
def unexpected {α : Type} (ts : List Token) : Except String α :=
  .error ("syntax error at or near " ++
    match ts with
    | [] => "end of file"
    | .number _ :: _ => "number"
    | .text t :: _ | .regex t :: _ | .name t :: _ | .call t :: _ => Shell.text t
    | .builtin _ :: _ => "function"
    | .word w :: _ => w
    | .op s :: _ => s
    | .newline :: _ => "end of line")

/-- Takes a mark. -/
def take (s : String) (ts : List Token) : Except String (List Token) :=
  if isOp ts s then .ok ts.tail else unexpected ts

/-- Skips line ends. -/
def skipLines : List Token → List Token
  | .newline :: ts => skipLines ts
  | ts => ts

/-- Skips line ends and semicolons. -/
def skipEnds : List Token → List Token
  | .newline :: ts => skipEnds ts
  | .op ";" :: ts => skipEnds ts
  | ts => ts

/-- Whether an operand may begin with the next token, so that it is joined to the one before. -/
def beginsOperand (ts : List Token) : Bool :=
  match ts with
  | .number _ :: _ | .text _ :: _ | .regex _ :: _ | .name _ :: _ | .call _ :: _ => true
  | .builtin _ :: _ => true
  | .op s :: _ => ["$", "(", "++", "--", "-", "+", "!"].contains s
  | _ => false

/-- The operator of an assignment; nothing for a plain one. -/
def assignment? (ts : List Token) : Option (Option Operator) :=
  match ts with
  | .op "=" :: _ => some none
  | .op "+=" :: _ => some (some .add)
  | .op "-=" :: _ => some (some .subtract)
  | .op "*=" :: _ => some (some .multiply)
  | .op "/=" :: _ => some (some .divide)
  | .op "%=" :: _ => some (some .modulo)
  | .op "^=" :: _ => some (some .power)
  | _ => none

/-- The comparison of a mark. -/
def comparison? (c : Context) (ts : List Token) : Option Comparison :=
  match ts with
  | .op "<" :: _ => some .less
  | .op "<=" :: _ => some .lessEqual
  | .op "==" :: _ => some .equal
  | .op "!=" :: _ => some .unequal
  | .op ">" :: _ => if c.greater then some .greater else none
  | .op ">=" :: _ => some .greaterEqual
  | _ => none

/-- Whether something can be assigned to an expression. -/
def Expr.isPlace : Expr → Bool
  | .variable _ | .field _ | .element .. => true
  | _ => false

mutual

/-- Reads an expression. -/
def readExpr : (fuel : Nat) → Context → List Token → Except String (Expr × List Token)
  | 0, _, ts => unexpected ts
  | fuel + 1, c, ts => do
    let (a, ts) ← readEither fuel c ts
    if isOp ts "?" then
      let (yes, ts) ← readExpr fuel c (skipLines ts.tail)
      let ts ← take ":" (skipLines ts)
      let (no, ts) ← readExpr fuel c (skipLines ts)
      return (.choice a yes no, ts)
    else return (a, ts)

/-- Reads a disjunction. -/
def readEither : (fuel : Nat) → Context → List Token → Except String (Expr × List Token)
  | 0, _, ts => unexpected ts
  | fuel + 1, c, ts => do
    let (a, ts) ← readBoth fuel c ts
    if isOp ts "||" then
      let (b, ts) ← readEither fuel c (skipLines ts.tail)
      return (.either a b, ts)
    else return (a, ts)

/-- Reads a conjunction. -/
def readBoth : (fuel : Nat) → Context → List Token → Except String (Expr × List Token)
  | 0, _, ts => unexpected ts
  | fuel + 1, c, ts => do
    let (a, ts) ← readMember fuel c ts
    if isOp ts "&&" then
      let (b, ts) ← readBoth fuel c (skipLines ts.tail)
      return (.both a b, ts)
    else return (a, ts)

/-- Reads an operand with the arrays that it is looked for in. -/
def readMember : (fuel : Nat) → Context → List Token → Except String (Expr × List Token)
  | 0, _, ts => unexpected ts
  | fuel + 1, c, ts => do
    let (a, ts) ← readMatching fuel c ts
    readMemberAfter fuel c a ts

/-- Reads the arrays that an operand is looked for in. -/
def readMemberAfter : (fuel : Nat) → Context → Expr → List Token →
    Except String (Expr × List Token)
  | 0, _, a, ts => .ok (a, ts)
  | fuel + 1, c, a, ts =>
    match ts with
    | .word "in" :: .name n :: rest =>
      if c.within then readMemberAfter fuel c (.member [a] n) rest else .ok (a, ts)
    | _ => .ok (a, ts)

/-- Reads an operand with the expressions that are looked for in it. -/
def readMatching : (fuel : Nat) → Context → List Token → Except String (Expr × List Token)
  | 0, _, ts => unexpected ts
  | fuel + 1, c, ts => do
    let (a, ts) ← readCompare fuel c ts
    readMatchingAfter fuel c a ts

/-- Reads the expressions that are looked for in an operand. -/
def readMatchingAfter : (fuel : Nat) → Context → Expr → List Token →
    Except String (Expr × List Token)
  | 0, _, a, ts => .ok (a, ts)
  | fuel + 1, c, a, ts => do
    if isOp ts "~" || isOp ts "!~" then
      let (b, rest) ← readCompare fuel c ts.tail
      readMatchingAfter fuel c (.matching (isOp ts "!~") a b) rest
    else return (a, ts)

/-- Reads a comparison. -/
def readCompare : (fuel : Nat) → Context → List Token → Except String (Expr × List Token)
  | 0, _, ts => unexpected ts
  | fuel + 1, c, ts => do
    let (a, ts) ← readJoined fuel c ts
    let (a, ts) ← readPiped fuel a ts
    match comparison? c ts with
    | some op =>
      let (b, ts) ← readJoined fuel c ts.tail
      return (.compare op a b, ts)
    | none => return (a, ts)

/-- Reads the places that the output of a command goes to. -/
def readPiped : (fuel : Nat) → Expr → List Token → Except String (Expr × List Token)
  | 0, a, ts => .ok (a, ts)
  | fuel + 1, a, ts =>
    match ts with
    | .op "|" :: .word "getline" :: rest => do
      let (target, rest) ← readTarget fuel rest
      readPiped fuel (.getline target none (some a)) rest
    | _ => .ok (a, ts)

/-- Reads the place that a record goes to, if there is one. -/
def readTarget : (fuel : Nat) → List Token → Except String (Option Expr × List Token)
  | 0, ts => .ok (none, ts)
  | fuel + 1, ts =>
    match ts with
    | .name _ :: _ => do
      let (e, ts) ← readPlain fuel ts
      return (some e, ts)
    | .op "$" :: _ => do
      let (e, ts) ← readPlain fuel ts
      return (some e, ts)
    | _ => .ok (none, ts)

/-- Reads operands that are joined. -/
def readJoined : (fuel : Nat) → Context → List Token → Except String (Expr × List Token)
  | 0, _, ts => unexpected ts
  | fuel + 1, c, ts => do
    let (a, ts) ← readSum fuel c ts
    readJoinedAfter fuel c a ts

/-- Reads what is joined to an operand. -/
def readJoinedAfter : (fuel : Nat) → Context → Expr → List Token →
    Except String (Expr × List Token)
  | 0, _, a, ts => .ok (a, ts)
  | fuel + 1, c, a, ts => do
    if beginsOperand ts then
      let (b, ts) ← readSum fuel c ts
      readJoinedAfter fuel c (.join a b) ts
    else return (a, ts)

/-- Reads a sum. -/
def readSum : (fuel : Nat) → Context → List Token → Except String (Expr × List Token)
  | 0, _, ts => unexpected ts
  | fuel + 1, c, ts => do
    let (a, ts) ← readProduct fuel c ts
    readSumAfter fuel c a ts

/-- Reads what is added to an operand. -/
def readSumAfter : (fuel : Nat) → Context → Expr → List Token → Except String (Expr × List Token)
  | 0, _, a, ts => .ok (a, ts)
  | fuel + 1, c, a, ts => do
    if isOp ts "+" || isOp ts "-" then
      let (b, rest) ← readProduct fuel c ts.tail
      readSumAfter fuel c (.binary (if isOp ts "+" then .add else .subtract) a b) rest
    else return (a, ts)

/-- Reads a product. -/
def readProduct : (fuel : Nat) → Context → List Token → Except String (Expr × List Token)
  | 0, _, ts => unexpected ts
  | fuel + 1, c, ts => do
    let (a, ts) ← readUnary fuel c ts
    readProductAfter fuel c a ts

/-- Reads what an operand is multiplied with or divided by. -/
def readProductAfter : (fuel : Nat) → Context → Expr → List Token →
    Except String (Expr × List Token)
  | 0, _, a, ts => .ok (a, ts)
  | fuel + 1, c, a, ts => do
    let op? : Option Operator :=
      if isOp ts "*" then some .multiply
      else if isOp ts "/" then some .divide
      else if isOp ts "%" then some .modulo
      else none
    match op? with
    | some op =>
      let (b, rest) ← readUnary fuel c ts.tail
      readProductAfter fuel c (.binary op a b) rest
    | none => return (a, ts)

/-- Reads an operand with signs. -/
def readUnary : (fuel : Nat) → Context → List Token → Except String (Expr × List Token)
  | 0, _, ts => unexpected ts
  | fuel + 1, c, ts => do
    if isOp ts "!" then
      let (a, ts) ← readUnary fuel c ts.tail
      return (.negation a, ts)
    else if isOp ts "-" then
      let (a, ts) ← readUnary fuel c ts.tail
      return (.negative a, ts)
    else if isOp ts "+" then
      let (a, ts) ← readUnary fuel c ts.tail
      return (.positive a, ts)
    else readPower fuel c ts

/-- Reads a power. -/
def readPower : (fuel : Nat) → Context → List Token → Except String (Expr × List Token)
  | 0, _, ts => unexpected ts
  | fuel + 1, c, ts => do
    let (a, ts) ← readPlace fuel c ts
    if isOp ts "^" then
      let (b, ts) ← readUnary fuel c ts.tail
      return (.binary .power a b, ts)
    else return (a, ts)

/-- Reads an operand with the steps and assignments behind it. -/
def readPlace : (fuel : Nat) → Context → List Token → Except String (Expr × List Token)
  | 0, _, ts => unexpected ts
  | fuel + 1, c, ts => do
    let (a, ts) ← readPlain fuel ts
    if !a.isPlace then return (a, ts)
    else if isOp ts "++" || isOp ts "--" then return (.step false (isOp ts "++") a, ts.tail)
    else
      match assignment? ts with
      | some op =>
        let (b, ts) ← readExpr fuel c (skipLines ts.tail)
        return (.assign a op b, ts)
      | none => return (a, ts)

/-- Reads an operand. -/
def readPlain : (fuel : Nat) → List Token → Except String (Expr × List Token)
  | 0, ts => unexpected ts
  | fuel + 1, ts =>
    match ts with
    | .number x :: rest => .ok (.number x, rest)
    | .text t :: rest => .ok (.text t, rest)
    | .regex t :: rest => .ok (.regex t, rest)
    | .name n :: rest =>
      if isOp rest "[" then do
        let (keys, rest) ← readList fuel rest.tail
        return (.element n keys, ← take "]" rest)
      else .ok (.variable n, rest)
    | .call n :: rest => do
      let rest ← take "(" rest
      let (args, rest) ← if isOp rest ")" then pure ([], rest) else readList fuel rest
      return (.call n args, ← take ")" (skipLines rest))
    | .builtin f :: rest =>
      if isOp rest "(" then do
        let rest := rest.tail
        let (args, rest) ← if isOp rest ")" then pure ([], rest) else readList fuel rest
        return (.builtin f args, ← take ")" (skipLines rest))
      else if f = .length then .ok (.builtin f [], rest)
      else unexpected rest
    | .op "$" :: rest =>
      if isOp rest "++" || isOp rest "--" then do
        let (e, after) ← readPlain fuel rest.tail
        return (.field (.step true (isOp rest "++") e), after)
      else if isOp rest "-" then do
        let (e, after) ← readPlain fuel rest.tail
        return (.field (.negative e), after)
      else do
        let (e, rest) ← readPlain fuel rest
        return (.field e, rest)
    | .op "++" :: rest => do
      let (e, rest) ← readPlain fuel rest
      return (.step true true e, rest)
    | .op "--" :: rest => do
      let (e, rest) ← readPlain fuel rest
      return (.step true false e, rest)
    | .op "(" :: rest => do
      let (es, rest) ← readList fuel rest
      let rest ← take ")" (skipLines rest)
      match es, rest with
      | [e], rest => return (.group e, rest)
      | es, .word "in" :: .name n :: rest => return (.group (.member es n), rest)
      | _, rest => unexpected rest
    | .op "-" :: rest => do
      let (e, rest) ← readPlain fuel rest
      return (.negative e, rest)
    | .word "getline" :: rest => do
      let (target, rest) ← readTarget fuel rest
      if isOp rest "<" then
        let (file, rest) ← readPlain fuel rest.tail
        return (.getline target (some file) none, rest)
      else return (.getline target none none, rest)
    | ts => unexpected ts

/-- Reads expressions between commas. -/
def readList : (fuel : Nat) → List Token → Except String (List Expr × List Token)
  | 0, ts => unexpected ts
  | fuel + 1, ts => do
    let (e, ts) ← readExpr fuel ⟨true, true⟩ (skipLines ts)
    if isOp ts "," then
      let (es, ts) ← readList fuel ts.tail
      return (e :: es, ts)
    else return ([e], ts)

end

/-! ## Statements -/

/-- What follows the parenthesis that closes one opened before. -/
def afterClosing : (depth : Nat) → List Token → List Token
  | _, [] => []
  | depth, .op ")" :: ts => if depth = 0 then ts else afterClosing (depth - 1) ts
  | depth, .op "(" :: ts => afterClosing (depth + 1) ts
  | depth, _ :: ts => afterClosing depth ts

/-- Whether a statement ends before the next token. -/
def endsStatement (ts : List Token) : Bool :=
  match ts with
  | [] | .newline :: _ => true
  | .op s :: _ => [";", "\x7d", ">", ">>", "|"].contains s
  | _ => false

/-- Takes the end of a statement. -/
def takeEnd (ts : List Token) : Except String (List Token) :=
  match ts with
  | [] => .ok []
  | .newline :: rest => .ok rest
  | .op ";" :: rest => .ok (skipLines rest)
  | .op "\x7d" :: _ => .ok ts
  | ts => unexpected ts

/-- Reads what is printed, up to where it goes. -/
def readPrinted (fuel : Nat) (ts : List Token) : Except String (List Expr × List Token) := do
  if endsStatement ts then return ([], ts)
  else if isOp ts "(" && endsStatement (afterClosing 0 ts.tail) then
    let (es, ts) ← readList fuel ts.tail
    return (es, ← take ")" (skipLines ts))
  else
    let rec items : (count : Nat) → List Token → Except String (List Expr × List Token)
      | 0, ts => unexpected ts
      | count + 1, ts => do
        let (e, ts) ← readExpr fuel ⟨false, true⟩ ts
        if isOp ts "," then
          let (es, ts) ← items count (skipLines ts.tail)
          return (e :: es, ts)
        else return ([e], ts)
    items (ts.length + 1) ts

/-- Reads where output goes. -/
def readDirection (fuel : Nat) (ts : List Token) :
    Except String (Option (Direction × Expr) × List Token) := do
  let kind? : Option Direction :=
    if isOp ts ">" then some .write
    else if isOp ts ">>" then some .append
    else if isOp ts "|" then some .command
    else none
  match kind? with
  | none => return (none, ts)
  | some d =>
    let (e, ts) ← readExpr fuel ⟨false, true⟩ ts.tail
    return (some (d, e), ts)

mutual

/-- Reads a statement that may stand in the head of a loop. -/
def readSimple : (fuel : Nat) → List Token → Except String (Stmt × List Token)
  | 0, ts => unexpected ts
  | fuel + 1, ts =>
    match ts with
    | .word "print" :: rest => do
      let (es, rest) ← readPrinted fuel rest
      let (target, rest) ← readDirection fuel rest
      return (.print es target, rest)
    | .word "printf" :: rest => do
      let (es, rest) ← readPrinted fuel rest
      let (target, rest) ← readDirection fuel rest
      if es.isEmpty then unexpected rest else return (.printf es target, rest)
    | .word "delete" :: .name n :: rest =>
      if isOp rest "[" then do
        let (keys, rest) ← readList fuel rest.tail
        return (.delete n (some keys), ← take "]" rest)
      else .ok (.delete n none, rest)
    | ts => do
      let (e, ts) ← readExpr fuel ⟨true, true⟩ ts
      return (.expr e, ts)

/-- Reads a statement with its end. -/
def readStmt : (fuel : Nat) → List Token → Except String (Stmt × List Token)
  | 0, ts => unexpected ts
  | fuel + 1, ts => do
    let finish (s : Stmt) (ts : List Token) : Except String (Stmt × List Token) := do
      return (s, ← takeEnd ts)
    let value (ts : List Token) : Except String (Option Expr × List Token) := do
      if endsStatement ts then return (none, ts)
      else
        let (e, ts) ← readExpr fuel ⟨true, true⟩ ts
        return (some e, ts)
    match ts with
    | .op "\x7b" :: rest => do
      let (body, rest) ← readBlock fuel [] rest
      return (.block body, rest)
    | .op ";" :: rest => return (.block [], rest)
    | .word "if" :: rest => do
      let (e, rest) ← readExpr fuel ⟨true, true⟩ (← take "(" rest)
      let rest ← take ")" rest
      let (yes, rest) ← readStmt fuel (skipLines rest)
      let after := skipEnds rest
      if isWord after "else" then
        let (no, rest) ← readStmt fuel (skipLines after.tail)
        return (.choice e yes (some no), rest)
      else return (.choice e yes none, rest)
    | .word "while" :: rest => do
      let (e, rest) ← readExpr fuel ⟨true, true⟩ (← take "(" rest)
      let rest ← take ")" rest
      if isOp rest ";" then return (.loop e (.block []), rest.tail)
      else
        let (body, rest) ← readStmt fuel (skipLines rest)
        return (.loop e body, rest)
    | .word "do" :: rest => do
      let (body, rest) ← readStmt fuel (skipLines rest)
      let rest := skipEnds rest
      if isWord rest "while" then
        let (e, rest) ← readExpr fuel ⟨true, true⟩ (← take "(" rest.tail)
        finish (.loopAfter body e) (← take ")" rest)
      else unexpected rest
    | .word "for" :: rest => do
      let rest ← take "(" rest
      match rest with
      | .name n :: .word "in" :: .name array :: .op ")" :: rest => do
        let (body, rest) ← readStmt fuel (skipLines rest)
        return (.each n array body, rest)
      | .op "(" :: .name n :: .word "in" :: .name array :: .op ")" :: .op ")" :: rest => do
        let (body, rest) ← readStmt fuel (skipLines rest)
        return (.each n array body, rest)
      | rest => do
        let (start, rest) ←
          if isOp rest ";" then pure (none, rest)
          else do
            let (s, rest) ← readSimple fuel rest
            pure (some s, rest)
        let rest := skipLines (← take ";" rest)
        let (condition, rest) ←
          if isOp rest ";" then pure (none, rest)
          else do
            let (e, rest) ← readExpr fuel ⟨true, true⟩ rest
            pure (some e, rest)
        let rest := skipLines (← take ";" rest)
        let (step, rest) ←
          if isOp rest ")" then pure (none, rest)
          else do
            let (s, rest) ← readSimple fuel rest
            pure (some s, rest)
        let rest ← take ")" rest
        if isOp rest ";" then return (.count start condition step (.block []), rest.tail)
        else
          let (body, rest) ← readStmt fuel (skipLines rest)
          return (.count start condition step body, rest)
    | .word "next" :: rest => finish .next rest
    | .word "break" :: rest => finish .leave rest
    | .word "continue" :: rest => finish .again rest
    | .word "exit" :: rest => do
      let (e, rest) ← value rest
      finish (.exit e) rest
    | .word "return" :: rest => do
      let (e, rest) ← value rest
      finish (.back e) rest
    | ts => do
      let (s, ts) ← readSimple fuel ts
      finish s ts

/-- Reads statements up to a closing brace. `acc` holds those before, last first. -/
def readBlock : (fuel : Nat) → (acc : List Stmt) → List Token →
    Except String (List Stmt × List Token)
  | 0, _, ts => unexpected ts
  | fuel + 1, acc, ts => do
    let ts := skipEnds ts
    if isOp ts "\x7d" then
      let rest := ts.tail
      return (acc.reverse, if isOp rest ";" then rest.tail else rest)
    else
      let (s, ts) ← readStmt fuel ts
      readBlock fuel (s :: acc) ts

end

/-- Reads an action in braces, if one stands here. -/
def readAction (fuel : Nat) (ts : List Token) : Except String (Option Stmt × List Token) := do
  if isOp ts "\x7b" then
    let (body, ts) ← readBlock fuel [] ts.tail
    return (some (.block body), ts)
  else return (none, ts)

/-- Reads the names of parameters. `acc` holds those before, last first. -/
def readParams (acc : List Bytes) : List Token → Except String (List Bytes × List Token)
  | .op ")" :: ts => .ok (acc.reverse, ts)
  | .name n :: .op "," :: ts => readParams (n :: acc) ts
  | .name n :: .op ")" :: ts => .ok ((n :: acc).reverse, ts)
  | .newline :: ts => readParams acc ts
  | ts => unexpected ts

/-- Reads rules and functions. `acc` holds those before. `fuel` bounds their number. -/
def readItems : (fuel : Nat) → Program → List Token → Except String Program
  | 0, _, ts => unexpected ts
  | fuel + 1, acc, ts => do
    let ts := skipEnds ts
    let depth := 32 * ts.length + 64
    let rule (p : Pattern) (ts : List Token) : Except String Program := do
      let (action, ts) ← readAction depth ts
      if action.isNone && !(endsStatement ts) then unexpected ts
      else readItems fuel { acc with rules := acc.rules ++ [⟨p, action⟩] } ts
    match ts with
    | [] => return acc
    | .word "BEGIN" :: rest => if isOp rest "\x7b" then rule .first rest else unexpected rest
    | .word "END" :: rest => if isOp rest "\x7b" then rule .last rest else unexpected rest
    | .word "function" :: .call n :: rest => do
      let (params, rest) ← readParams [] (← take "(" rest)
      let (body, rest) ← readAction depth (skipLines rest)
      match body with
      | some b =>
        readItems fuel { acc with functions := acc.functions ++ [⟨n, params, b⟩] } rest
      | none => unexpected rest
    | .word "function" :: .name n :: rest => do
      let (params, rest) ← readParams [] (← take "(" rest)
      let (body, rest) ← readAction depth (skipLines rest)
      match body with
      | some b =>
        readItems fuel { acc with functions := acc.functions ++ [⟨n, params, b⟩] } rest
      | none => unexpected rest
    | .op "\x7b" :: _ => rule .all ts
    | ts => do
      let (a, ts) ← readExpr depth ⟨true, true⟩ ts
      if isOp ts "," then
        let (b, ts) ← readExpr depth ⟨true, true⟩ (skipLines ts.tail)
        rule (.range a b) ts
      else rule (.one a) ts

/-- Reads a program. -/
def Program.read (source : Bytes) : Except String Program := do
  let ts ← tokens (source.length + 1) [] source
  readItems (ts.length + 1) ⟨[], []⟩ ts

end Conformance.Shell.Tool.Awk
