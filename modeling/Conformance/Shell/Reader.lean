import Conformance.Shell.Script

/-!
# Reading scripts

A script is read one line of commands at a time, because a line is run before the next one is looked
at. Words are read together with what stands in them, so a command inside a word is read as a
command.

Lines that a command takes from the script as its input stand behind the line of the command. They are
taken out where they are asked for.
-/

namespace Conformance.Shell

/-- A place in a script: what is left of it, the number of its line, and how many of the next lines
    were taken out already. -/
structure Cursor where
  rest : Bytes
  line : Nat
  taken : Nat

/-- Why a script cannot be read. -/
structure Fault where
  line : Nat
  text : String

/-- The words that stand for other text. -/
abbrev Aliases := List (Bytes × Bytes)

/-- A part of a script. -/
inductive Token where
  | word (w : Word)
  /-- A digit directly before a redirection. -/
  | stream (n : Nat)
  | operator (text : String)
  | newline
  | finish

/-- The next part of a script, the line it begins in, and what is left after it. -/
structure Peek where
  token : Token
  line : Nat
  after : Cursor

namespace Cursor

/-- The cursor with another rest in the same line. -/
def withRest (c : Cursor) (rest : Bytes) : Cursor := { c with rest := rest }

/-- The cursor at the start of the next line. -/
def down (c : Cursor) (rest : Bytes) : Cursor := ⟨rest, c.line + 1 + c.taken, 0⟩

/-- The cursor after octets that may hold line feeds. -/
def past (c : Cursor) (octets rest : Bytes) : Cursor :=
  match octets.count 0x0A with
  | 0 => c.withRest rest
  | n => ⟨rest, c.line + n + c.taken, 0⟩

/-- A fault at the cursor. -/
def fail {α : Type} (c : Cursor) (text : String) : Except Fault α := .error ⟨c.line, text⟩

end Cursor

/-! ## Tokens -/

/-- Whether an octet ends a word. -/
def endsWord (b : UInt8) : Bool :=
  isIn b [' ', '\t', '\n', ';', '&', '|', '<', '>', '(', ')']

/-- The operators, longer ones first. -/
def operators : List String :=
  [";;", "&&", "||", "<<-", "<<", ">>", "<&", ">&", "<>", ">|", ";", "&", "|", "<", ">", "(", ")"]

/-- The operators that attach a file to a stream. -/
def redirectOperators : List String := ["<<-", "<<", ">>", "<&", ">&", "<>", ">|", "<", ">"]

/-- The operator that begins here, and the rest. -/
def operatorAt? (bs : Bytes) : Option (String × Bytes) :=
  operators.findSome? fun op => (afterFront? (octets op) bs).map fun rest => (op, rest)

/-- The words that are read in a special way where a command begins. -/
def reservedWords : List String :=
  ["!", "case", "do", "done", "elif", "else", "esac", "fi", "for", "if", "in", "then", "until",
    "while", "\x7b", "\x7d"]

/-- The reserved words that end a list of commands. -/
def closers : List String := ["do", "done", "elif", "else", "esac", "fi", "then", "\x7d"]

/-- The text of a token that is a word without quotes. -/
def Token.plain? : Token → Option Bytes
  | .word w => Shell.plain? w
  | _ => none

/-- The reserved word that a token is. -/
def Token.reserved? (t : Token) : Option String :=
  t.plain?.bind fun bs => reservedWords.find? fun r => octets r = bs

/-- Whether a token is a reserved word. -/
def Token.isReserved (t : Token) (word : String) : Bool := t.reserved? = some word

/-- Whether a token is an operator. -/
def Token.isOperator (t : Token) (text : String) : Bool :=
  match t with
  | .operator op => op = text
  | _ => false

/-- Whether a token ends a list of commands. -/
def Token.closes (t : Token) : Bool :=
  match t with
  | .finish => true
  | .operator op => op = ")" || op = ";;"
  | t => t.reserved?.any closers.contains

/-- How a token is told; `command` says whether a command could begin there. -/
def Token.shown (command : Bool) (t : Token) : String :=
  match t with
  | .finish => "end of file"
  | .newline => "newline"
  | .stream _ => "redirection"
  | .operator op => if redirectOperators.contains op then "redirection" else "\"" ++ op ++ "\""
  | t =>
    match if command then t.reserved? else none with
    | some r => "\"" ++ r ++ "\""
    | none => "word"

/-- The fault that a token stands where it does not belong. -/
def Peek.unexpected {α : Type} (p : Peek) (command : Bool) (wanted : String) : Except Fault α :=
  let tail := if wanted.isEmpty then "" else " (expecting " ++ wanted ++ ")"
  .error ⟨p.line, p.token.shown command ++ " unexpected" ++ tail⟩

/-- The lines before the line that closes them, what follows that line, and how many lines these
    are. With `tabs`, lines may be indented. `acc` holds the octets before, last first. -/
def untilLine (tabs : Bool) (closing : Bytes) :
    (fuel count : Nat) → Bytes → Bytes → Bytes × Bytes × Nat
  | 0, count, acc, bs => (acc.reverse, bs, count)
  | _, count, acc, [] => (acc.reverse, [], count)
  | fuel + 1, count, acc, bs =>
    let line := bs.takeWhile (· != 0x0A)
    let rest := bs.drop (line.length + 1)
    let shown := if tabs then line.dropWhile (· = 0x09) else line
    if shown = closing then (acc.reverse, rest, count + 1)
    else untilLine tabs closing fuel (count + 1) (0x0A :: shown.reverse ++ acc) rest

/-- Takes the lines up to a closing line out of the script. -/
def takeLines (tabs : Bool) (closing : Bytes) (c : Cursor) : Bytes × Cursor :=
  let line := c.rest.takeWhile (· != 0x0A)
  let after := c.rest.drop (line.length + 1)
  let (inside, rest, count) := untilLine tabs closing (after.length + 1) 0 [] after
  (inside, { c with rest := line ++ 0x0A :: rest, taken := c.taken + count })

/-- What ends a text between quotes. -/
inductive Closer where
  | quote
  /-- The brace that ends a parameter between quotes. -/
  | brace
  /-- The end of lines that a command takes from the script. -/
  | lines
  /-- The end of a sum. -/
  | sum
  deriving DecidableEq

/-- Whether a backslash takes the meaning from an octet between quotes. -/
def Closer.escapes (closer : Closer) (b : UInt8) : Bool :=
  isIn b ['$', '\x60', '\\'] || (b = ascii '"' && closer ≠ .lines)
    || (b = ascii '\x7d' && closer = .brace)

/-- The fault of a text that is not closed. -/
def Closer.missing : Closer → String
  | .brace => "Missing '\x7d'"
  | .sum => "Missing '))'"
  | _ => "Unterminated quoted string"

/-- The octets of a command between grave accents, and what follows. `acc` holds the octets before,
    last first. -/
def untilGrave (quoted : Bool) (acc : Bytes) : Bytes → Option (Bytes × Bytes)
  | [] => none
  | b :: bs =>
    if b = ascii '\x60' then some (acc.reverse, bs)
    else if b = ascii '\\' then
      match bs with
      | [] => none
      | c :: cs =>
        if isIn c ['\\', '\x60', '$'] || (quoted && c = ascii '"') then
          untilGrave quoted (c :: acc) cs
        else untilGrave quoted (c :: b :: acc) cs
    else untilGrave quoted (b :: acc) bs

/-- Whether an octet names a parameter of the shell. -/
def isSpecialParameter (b : UInt8) : Bool := isIn b ['#', '@', '*', '?', '$', '!', '-']

/-- The name of a parameter at the front, after a brace or not. -/
def parameterName (braced : Bool) (bs : Bytes) : Bytes :=
  match bs with
  | [] => []
  | b :: _ =>
    if isNameStart b then bs.takeWhile isNameByte
    else if isDigitByte b then if braced then bs.takeWhile isDigitByte else [b]
    else if isSpecialParameter b then [b]
    else []

/-- What may follow the name of a parameter in braces: how it changes the parameter, without the
    word, and whether the word is a pattern. -/
inductive BracedHead where
  | plain (name : Bytes)
  | size (name : Bytes)
  | instead (name : Bytes) (orEmpty : Bool) (kind : Instead)
  | cut (name : Bytes) (fromEnd longest : Bool)
  | senseless

/-- The way a parameter is asked for, and what follows it. -/
def bracedHead (bs : Bytes) : BracedHead × Bytes :=
  let sizeOf? : Option (BracedHead × Bytes) :=
    match bs with
    | b :: rest =>
      let name := parameterName true rest
      let after := rest.drop name.length
      if b = ascii '#' && !name.isEmpty && after.head? = some (ascii '\x7d') then
        some (.size name, after)
      else none
    | [] => none
  match sizeOf? with
  | some r => r
  | none =>
    let name := parameterName true bs
    let after := bs.drop name.length
    if name.isEmpty then (.senseless, bs)
    else
      let kind? (b : UInt8) : Option Instead :=
        match charOf b with
        | '-' => some .useWord
        | '=' => some .assign
        | '?' => some .complain
        | '+' => some .unlessUnset
        | _ => none
      match after with
      | [] => (.plain name, [])
      | b :: rest =>
        if b = ascii '\x7d' then (.plain name, after)
        else if b = ascii '%' || b = ascii '#' then
          if rest.head? = some b then (.cut name (b = ascii '%') true, rest.tail)
          else (.cut name (b = ascii '%') false, rest)
        else if b = ascii ':' then
          match rest with
          | c :: rest' =>
            match kind? c with
            | some kind => (.instead name true kind, rest')
            | none => (.senseless, after)
          | [] => (.senseless, after)
        else
          match kind? b with
          | some kind => (.instead name false kind, rest)
          | none => (.senseless, after)

/-- The pieces with the octets of the open piece, last first, closed. -/
def closePiece (quoted : Bool) (piece : Bytes) (acc : Word) : Word :=
  if piece.isEmpty then acc else .text quoted piece.reverse :: acc

/-- The kind of the redirection that an operator asks for, and its usual stream. -/
def redirectOf (op : String) : RedirectKind × Nat :=
  match op with
  | "<" => (.input, 0)
  | "<>" => (.both, 0)
  | "<&" => (.duplicate, 0)
  | ">>" => (.append, 1)
  | ">|" => (.clobber, 1)
  | ">&" => (.duplicate, 1)
  | ">" => (.output, 1)
  | _ => (.here, 0)

/-- The commands of the shell whose names cannot be those of functions. -/
def specialNames : List String :=
  [".", ":", "break", "continue", "eval", "exec", "exit", "export", "readonly", "return", "set",
    "shift", "times", "trap", "unset"]

/-- Commands one after the other, told last first. -/
def Command.ofReversed : List Command → Option Command
  | [] => none
  | [c] => some c
  | cs => some (.sequence cs.reverse)

mutual

/-- Reads what stands behind a dollar sign. -/
def readDollar (as : Aliases) : (fuel : Nat) → (quoted : Bool) → Cursor →
    Except Fault (Piece × Cursor)
  | 0, _, c => c.fail "too deep"
  | fuel + 1, quoted, c =>
    match c.rest with
    | [] => .ok (.text quoted [ascii '$'], c)
    | b :: rest =>
      if b = ascii '\x7b' then readBraced as fuel quoted (c.withRest rest)
      else if b = ascii '(' then
        match rest with
        | d :: rest' =>
          if d = ascii '(' then
            match readQuoted as fuel .sum 0 false [] [] (c.withRest rest') with
            | .error e => .error e
            | .ok (w, c) => .ok (.arithmetic quoted w, c)
          else do
            let p ← readToken as fuel (c.withRest rest)
            let (body, p) ← readList as fuel true [] p
            if p.token.isOperator ")" then
              return (.output quoted (body.getD .nothing), p.after)
            else p.unexpected true "\")\""
        | [] => c.fail "end of file unexpected (expecting \")\")"
      else
        let name := parameterName false c.rest
        if name.isEmpty then .ok (.text quoted [ascii '$'], c)
        else .ok (.parameter quoted name .same, c.withRest (c.rest.drop name.length))

/-- Reads a parameter in braces, after the opening one. -/
def readBraced (as : Aliases) : (fuel : Nat) → (quoted : Bool) → Cursor →
    Except Fault (Piece × Cursor)
  | 0, _, c => c.fail "too deep"
  | fuel + 1, quoted, c =>
    let (head, rest) := bracedHead c.rest
    let c := c.withRest rest
    let inner (pattern : Bool) : Except Fault (Word × Cursor) :=
      if quoted && !pattern then readQuoted as fuel .brace 0 false [] [] c
      else readWord as fuel true [] [] c
    match head with
    | .plain name =>
      match rest with
      | _ :: rest => .ok (.parameter quoted name .same, c.withRest rest)
      | [] => c.fail Closer.brace.missing
    | .size name => .ok (.parameter quoted name .size, c.withRest rest.tail)
    | .instead name orEmpty kind => do
      let (w, c) ← inner false
      return (.parameter quoted name (.instead orEmpty kind w), c)
    | .cut name fromEnd longest => do
      let (w, c) ← inner true
      return (.parameter quoted name (.cut fromEnd longest w), c)
    | .senseless => do
      let (_, c) ← inner false
      return (.senseless, c)

/-- Reads a command between grave accents, after the opening one. -/
def readGrave (as : Aliases) : (fuel : Nat) → (quoted : Bool) → Cursor →
    Except Fault (Piece × Cursor)
  | 0, _, c => c.fail "too deep"
  | fuel + 1, quoted, c =>
    match untilGrave quoted [] c.rest with
    | none => c.fail "EOF in backquote substitution"
    | some (inside, rest) => do
      let p ← readToken as fuel ⟨inside, c.line, 0⟩
      let (body, _) ← readList as fuel true [] p
      return (.output quoted (body.getD .nothing), c.past inside rest)

/-- Reads a text between quotes. `depth` counts open parentheses of a sum, and `inner` says whether a
    quote was opened inside of the text. `piece` holds the octets of the open piece and `acc` the
    finished pieces, both last first. -/
def readQuoted (as : Aliases) : (fuel : Nat) → Closer → (depth : Nat) → (inner : Bool) →
    (piece : Bytes) → (acc : Word) → Cursor → Except Fault (Word × Cursor)
  | 0, _, _, _, _, _, c => c.fail "too deep"
  | fuel + 1, closer, depth, inner, piece, acc, c =>
    let finish (c : Cursor) : Except Fault (Word × Cursor) :=
      .ok ((closePiece true piece acc).reverse, c)
    match c.rest with
    | [] => if closer = .lines then finish c else c.fail closer.missing
    | b :: rest =>
      if b = ascii '"' && closer = .quote then finish (c.withRest rest)
      else if b = ascii '"' && closer = .brace then
        readQuoted as fuel closer depth (!inner) piece acc (c.withRest rest)
      else if b = ascii '\x7d' && closer = .brace && !inner then finish (c.withRest rest)
      else if b = ascii '(' && closer = .sum then
        readQuoted as fuel closer (depth + 1) inner (b :: piece) acc (c.withRest rest)
      else if b = ascii ')' && closer = .sum then
        if depth = 0 then
          match rest with
          | d :: rest' =>
            if d = b then finish (c.withRest rest')
            else readQuoted as fuel closer depth inner (b :: piece) acc (c.withRest rest)
          | [] => c.fail closer.missing
        else readQuoted as fuel closer (depth - 1) inner (b :: piece) acc (c.withRest rest)
      else if b = ascii '\\' then
        match rest with
        | [] => readQuoted as fuel closer depth inner (b :: piece) acc (c.withRest [])
        | d :: rest' =>
          if d = 0x0A then readQuoted as fuel closer depth inner piece acc (c.down rest')
          else if closer.escapes d then
            readQuoted as fuel closer depth inner [] (.text true [d] :: closePiece true piece acc)
              (c.withRest rest')
          else readQuoted as fuel closer depth inner (d :: b :: piece) acc (c.withRest rest')
      else if b = ascii '$' then
        match readDollar as fuel true (c.withRest rest) with
        | .error e => .error e
        | .ok (p, c) =>
          readQuoted as fuel closer depth inner [] (p :: closePiece true piece acc) c
      else if b = ascii '\x60' then
        match readGrave as fuel true (c.withRest rest) with
        | .error e => .error e
        | .ok (p, c) =>
          readQuoted as fuel closer depth inner [] (p :: closePiece true piece acc) c
      else if b = 0x0A then
        readQuoted as fuel closer depth inner (b :: piece) acc (c.down rest)
      else readQuoted as fuel closer depth inner (b :: piece) acc (c.withRest rest)

/-- Reads a word, or, with `braced`, what stands behind a parameter up to the closing brace. `piece`
    holds the octets of the open piece and `acc` the finished pieces, both last first. -/
def readWord (as : Aliases) : (fuel : Nat) → (braced : Bool) → (piece : Bytes) → (acc : Word) →
    Cursor → Except Fault (Word × Cursor)
  | 0, _, _, _, c => c.fail "too deep"
  | fuel + 1, braced, piece, acc, c =>
    let closed := closePiece false piece acc
    match c.rest with
    | [] => if braced then c.fail Closer.brace.missing else .ok (closed.reverse, c)
    | b :: rest =>
      if braced && b = ascii '\x7d' then .ok (closed.reverse, c.withRest rest)
      else if !braced && endsWord b then .ok (closed.reverse, c)
      else if b = ascii '\\' then
        match rest with
        | [] => .ok ((Piece.text true [b] :: closed).reverse, c.withRest [])
        | d :: rest' =>
          if d = 0x0A then readWord as fuel braced piece acc (c.down rest')
          else readWord as fuel braced [] (.text true [d] :: closed) (c.withRest rest')
      else if b = ascii '\'' then
        let inside := rest.takeWhile (· != ascii '\'')
        match rest.drop inside.length with
        | _ :: rest' => readWord as fuel braced [] (.text true inside :: closed) (c.past inside rest')
        | [] => c.fail Closer.quote.missing
      else if b = ascii '"' then
        match readQuoted as fuel .quote 0 false [] [] (c.withRest rest) with
        | .error e => .error e
        | .ok (w, c) =>
          let w := if w.isEmpty then [Piece.text true []] else w
          readWord as fuel braced [] (w.reverse ++ closed) c
      else if b = ascii '$' then
        match readDollar as fuel false (c.withRest rest) with
        | .error e => .error e
        | .ok (p, c) => readWord as fuel braced [] (p :: closed) c
      else if b = ascii '\x60' then
        match readGrave as fuel false (c.withRest rest) with
        | .error e => .error e
        | .ok (p, c) => readWord as fuel braced [] (p :: closed) c
      else if b = 0x0A then readWord as fuel braced (b :: piece) acc (c.down rest)
      else readWord as fuel braced (b :: piece) acc (c.withRest rest)

/-- Reads the next token. -/
def readToken (as : Aliases) : (fuel : Nat) → Cursor → Except Fault Peek
  | 0, c => c.fail "too deep"
  | fuel + 1, c =>
    match c.rest with
    | [] => .ok ⟨.finish, c.line, c⟩
    | b :: rest =>
      if isBlankByte b then readToken as fuel (c.withRest rest)
      else if b = 0x0A then .ok ⟨.newline, c.line, c.down rest⟩
      else if b = ascii '#' then readToken as fuel (c.withRest (rest.dropWhile (· != 0x0A)))
      else if b = ascii '\\' && rest.head? = some 0x0A then readToken as fuel (c.down rest.tail)
      else
        match operatorAt? c.rest with
        | some (op, rest) => .ok ⟨.operator op, c.line, c.withRest rest⟩
        | none =>
          if isDigitByte b && rest.head?.any fun d => d = ascii '<' || d = ascii '>' then
            .ok ⟨.stream (b.toNat - 48), c.line, c.withRest rest⟩
          else
            match readWord as fuel false [] [] c with
            | .error e => .error e
            | .ok (w, after) => .ok ⟨.word w, c.line, after⟩

/-- Skips line ends. -/
def skipNewlines (as : Aliases) : (fuel : Nat) → Peek → Except Fault Peek
  | 0, p => .ok p
  | fuel + 1, p =>
    match p.token with
    | .newline => do skipNewlines as fuel (← readToken as fuel p.after)
    | _ => .ok p

/-- Replaces a word that stands for other text. `used` holds those replaced here before. The flag
    says whether the next word may be replaced as well. -/
def replaceAlias (as : Aliases) : (fuel : Nat) → (used : List Bytes) → (next : Bool) → Peek →
    Except Fault (Peek × Bool)
  | 0, _, next, p => .ok (p, next)
  | fuel + 1, used, next, p =>
    match p.token.plain? with
    | none => .ok (p, next)
    | some name =>
      match if used.contains name || p.token.reserved?.isSome then none
        else as.find? fun a => a.1 = name with
      | none => .ok (p, next)
      | some (_, value) => do
        let p ← readToken as fuel (p.after.withRest (value ++ p.after.rest))
        replaceAlias as fuel (name :: used) (value.getLast?.any isBlankByte) p

/-- Reads a redirection, if one begins here. -/
def readRedirect (as : Aliases) : (fuel : Nat) → Peek → Except Fault (Option (Redirect × Peek))
  | 0, _ => .ok none
  | fuel + 1, p => do
    let (stream, p) ← match p.token with
      | .stream n => do pure (some n, ← readToken as fuel p.after)
      | _ => pure (none, p)
    match p.token with
    | .operator op =>
      if !redirectOperators.contains op then return none
      else
        let (kind, usual) := redirectOf op
        let w ← readToken as fuel p.after
        match w.token with
        | .word target =>
          if kind = .here then
            let (closing, isQuoted) := literal target
            let (inside, after) := takeLines (op = "<<-") closing w.after
            let target ←
              if isQuoted then pure [Piece.text true inside]
              else do
                let (t, _) ← readQuoted as fuel .lines 0 false [] [] ⟨inside, w.line + 1, 0⟩
                pure t
            return some (.mk (stream.getD usual) kind target, ← readToken as fuel after)
          else return some (.mk (stream.getD usual) kind target, ← readToken as fuel w.after)
        | _ => w.unexpected false ""
    | _ => return none

/-- Reads redirections. `acc` holds those before, last first. -/
def readRedirects (as : Aliases) : (fuel : Nat) → (acc : List Redirect) → Peek →
    Except Fault (List Redirect × Peek)
  | 0, acc, p => .ok (acc.reverse, p)
  | fuel + 1, acc, p => do
    match ← readRedirect as fuel p with
    | some (r, p) => readRedirects as fuel (r :: acc) p
    | none => return (acc.reverse, p)

/-- Reads a list of commands inside of another command. `mayEnd` says whether it may end here, and
    `acc` holds the commands before, last first. -/
def readList (as : Aliases) : (fuel : Nat) → (mayEnd : Bool) → (acc : List Command) → Peek →
    Except Fault (Option Command × Peek)
  | 0, _, _, p => p.after.fail "too deep"
  | fuel + 1, mayEnd, acc, p => do
    let p ← skipNewlines as fuel p
    if (mayEnd && p.token.closes) || p.token matches .finish then
      return (Command.ofReversed acc, p)
    else
      let (c, p) ← readAndOr as fuel p
      match p.token with
      | .newline => readList as fuel true (c :: acc) (← readToken as fuel p.after)
      | .operator op =>
        if op = ";" then readList as fuel true (c :: acc) (← readToken as fuel p.after)
        else if op = "&" then
          readList as fuel true (.background c :: acc) (← readToken as fuel p.after)
        else return (Command.ofReversed (c :: acc), p)
      | _ => return (Command.ofReversed (c :: acc), p)

/-- Reads commands joined by `&&` and `||`. -/
def readAndOr (as : Aliases) : (fuel : Nat) → Peek → Except Fault (Command × Peek)
  | 0, p => p.after.fail "too deep"
  | fuel + 1, p => do
    let (first, p) ← readPipeline as fuel p
    readAndOrAfter as fuel first p

/-- Reads what is joined to a command by `&&` and `||`. -/
def readAndOrAfter (as : Aliases) : (fuel : Nat) → Command → Peek → Except Fault (Command × Peek)
  | 0, _, p => p.after.fail "too deep"
  | fuel + 1, first, p => do
    if p.token.isOperator "&&" || p.token.isOperator "||" then
      let next ← skipNewlines as fuel (← readToken as fuel p.after)
      let (second, after) ← readPipeline as fuel next
      let joined :=
        if p.token.isOperator "&&" then Command.both first second else .either first second
      readAndOrAfter as fuel joined after
    else return (first, p)

/-- Reads commands joined by `|`. -/
def readPipeline (as : Aliases) : (fuel : Nat) → Peek → Except Fault (Command × Peek)
  | 0, p => p.after.fail "too deep"
  | fuel + 1, p => do
    if p.token.isReserved "!" then
      let (c, p) ← readStages as fuel [] (← readToken as fuel p.after)
      return (.negated c, p)
    else readStages as fuel [] p

/-- Reads the stages of a pipeline. `acc` holds those before, last first. -/
def readStages (as : Aliases) : (fuel : Nat) → (acc : List Command) → Peek →
    Except Fault (Command × Peek)
  | 0, _, p => p.after.fail "too deep"
  | fuel + 1, acc, p => do
    let (c, p) ← readCommand as fuel p
    if p.token.isOperator "|" then
      readStages as fuel (c :: acc) (← skipNewlines as fuel (← readToken as fuel p.after))
    else
      match acc with
      | [] => return (c, p)
      | acc => return (.pipeline (c :: acc).reverse, p)

/-- Takes a reserved word after line ends. -/
def expect (as : Aliases) : (fuel : Nat) → String → Peek → Except Fault Peek
  | 0, _, p => p.after.fail "too deep"
  | fuel + 1, word, p => do
    let p ← skipNewlines as fuel p
    if p.token.isReserved word then readToken as fuel p.after
    else p.unexpected true ("\"" ++ word ++ "\"")

/-- Reads a list that must hold a command. -/
def readBody (as : Aliases) : (fuel : Nat) → Peek → Except Fault (Command × Peek)
  | 0, p => p.after.fail "too deep"
  | fuel + 1, p => do
    let (c, p) ← readList as fuel false [] p
    return (c.getD .nothing, p)

/-- Reads a command. -/
def readCommand (as : Aliases) : (fuel : Nat) → Peek → Except Fault (Command × Peek)
  | 0, p => p.after.fail "too deep"
  | fuel + 1, p => do
    let (p, next) ← replaceAlias as fuel [] false p
    let line := p.line
    let finish (c : Command) (p : Peek) : Except Fault (Command × Peek) := do
      let (rs, p) ← readRedirects as fuel [] p
      return (if rs.isEmpty then c else .redirected line c rs, p)
    if p.token.isOperator "(" then
      let (body, p) ← readBody as fuel (← readToken as fuel p.after)
      if p.token.isOperator ")" then
        finish (.subshell line body) (← readToken as fuel p.after)
      else p.unexpected true "\")\""
    else
      match p.token.reserved? with
      | some word =>
        if word = "\x7b" then
          let (body, p) ← readBody as fuel (← readToken as fuel p.after)
          finish body (← expect as fuel "\x7d" p)
        else if word = "if" then
          let (c, p) ← readIf as fuel (← readToken as fuel p.after)
          finish c p
        else if word = "while" || word = "until" then
          let (condition, p) ← readBody as fuel (← readToken as fuel p.after)
          let (body, p) ← readBody as fuel (← expect as fuel "do" p)
          finish (.loop (word = "until") condition body) (← expect as fuel "done" p)
        else if word = "for" then
          let (c, p) ← readFor as fuel line (← readToken as fuel p.after)
          finish c p
        else if word = "case" then
          let w ← readToken as fuel p.after
          match w.token with
          | .word subject =>
            let p ← skipNewlines as fuel (← readToken as fuel w.after)
            if !p.token.isReserved "in" then p.unexpected true "\"in\""
            else
              let (arms, p) ← readArms as fuel [] (← readToken as fuel p.after)
              finish (.cases line subject arms) p
          | _ => w.unexpected false "word"
        else p.unexpected true ""
      | none =>
        match p.token with
        | .word _ | .stream _ => readSimple as fuel line true next [] [] [] p
        | .operator op =>
          if redirectOperators.contains op then readSimple as fuel line true next [] [] [] p
          else p.unexpected true ""
        | _ => p.unexpected true ""

/-- Reads the words of a simple command, or a function. `isFront` says whether no word was read yet,
    and `replaces` whether the next word may stand for other text. What was read is told last
    first. -/
def readSimple (as : Aliases) : (fuel line : Nat) → (isFront replaces : Bool) →
    List (Bytes × Word) → List Word → List Redirect → Peek → Except Fault (Command × Peek)
  | 0, _, _, _, _, _, _, p => p.after.fail "too deep"
  | fuel + 1, line, isFront, replaces, assigned, words, rs, p => do
    match ← readRedirect as fuel p with
    | some (r, p) => readSimple as fuel line isFront replaces assigned words (r :: rs) p
    | none =>
      let (p, replaces) ←
        if (isFront && !assigned.isEmpty) || (!isFront && replaces) then replaceAlias as fuel [] false p
        else pure (p, replaces)
      match p.token with
      | .word w =>
        match if isFront then assignment? w else none with
        | some a =>
          readSimple as fuel line true false (a :: assigned) words rs (← readToken as fuel p.after)
        | none =>
          readSimple as fuel line false replaces assigned (w :: words) rs
            (← readToken as fuel p.after)
      | t =>
        match words, assigned, rs with
        | [w], [], [] =>
          if t.isOperator "(" then
            let close ← readToken as fuel p.after
            if !close.token.isOperator ")" then close.unexpected false "\")\""
            else
              match plain? w with
              | some name =>
                if isName name && !specialNames.contains (text name) then
                  let next ← skipNewlines as fuel (← readToken as fuel close.after)
                  let (body, p) ← readCommand as fuel next
                  return (.function name body, p)
                else .error ⟨p.line, "Bad function name"⟩
              | none => .error ⟨p.line, "Bad function name"⟩
          else return (.simple line assigned.reverse words.reverse rs.reverse, p)
        | _, _, _ => return (.simple line assigned.reverse words.reverse rs.reverse, p)

/-- Reads the rest of a condition. -/
def readIf (as : Aliases) : (fuel : Nat) → Peek → Except Fault (Command × Peek)
  | 0, p => p.after.fail "too deep"
  | fuel + 1, p => do
    let (condition, p) ← readBody as fuel p
    let (body, p) ← readBody as fuel (← expect as fuel "then" p)
    let p ← skipNewlines as fuel p
    if p.token.isReserved "elif" then
      let (otherwise, p) ← readIf as fuel (← readToken as fuel p.after)
      return (.choice condition body (some otherwise), p)
    else if p.token.isReserved "else" then
      let (otherwise, p) ← readBody as fuel (← readToken as fuel p.after)
      return (.choice condition body (some otherwise), ← expect as fuel "fi" p)
    else return (.choice condition body none, ← expect as fuel "fi" p)

/-- Reads the words of a loop. `acc` holds those before, last first. -/
def readWords (as : Aliases) : (fuel : Nat) → (acc : List Word) → Peek →
    Except Fault (List Word × Peek)
  | 0, acc, p => .ok (acc.reverse, p)
  | fuel + 1, acc, p =>
    match p.token with
    | .word w => do readWords as fuel (w :: acc) (← readToken as fuel p.after)
    | _ => .ok (acc.reverse, p)

/-- Reads the rest of a loop over words. -/
def readFor (as : Aliases) : (fuel line : Nat) → Peek → Except Fault (Command × Peek)
  | 0, _, p => p.after.fail "too deep"
  | fuel + 1, line, p => do
    match p.token.plain? with
    | none => .error ⟨p.line, "Bad for loop variable"⟩
    | some name =>
      if !isName name then .error ⟨p.line, "Bad for loop variable"⟩
      else
        let p ← skipNewlines as fuel (← readToken as fuel p.after)
        let (words, p) ←
          if p.token.isReserved "in" then do
            let (ws, p) ← readWords as fuel [] (← readToken as fuel p.after)
            match p.token with
            | .newline => pure (some ws, ← readToken as fuel p.after)
            | t =>
              if t.isOperator ";" then pure (some ws, ← readToken as fuel p.after)
              else p.unexpected false ""
          else if p.token.isOperator ";" then pure (none, ← readToken as fuel p.after)
          else pure (none, p)
        let (body, p) ← readBody as fuel (← expect as fuel "do" p)
        return (.each line name words body, ← expect as fuel "done" p)

/-- Reads the patterns of an arm, up to its parenthesis. `acc` holds those before, last first. -/
def readPatterns (as : Aliases) : (fuel : Nat) → (acc : List Word) → Peek →
    Except Fault (List Word × Peek)
  | 0, _, p => p.after.fail "too deep"
  | fuel + 1, acc, p =>
    match p.token with
    | .word w => do
      let p ← readToken as fuel p.after
      if p.token.isOperator "|" then readPatterns as fuel (w :: acc) (← readToken as fuel p.after)
      else if p.token.isOperator ")" then
        return ((w :: acc).reverse, ← readToken as fuel p.after)
      else p.unexpected false "\")\""
    | _ => p.unexpected false "word"

/-- Reads the arms of a case. `acc` holds those before, last first. -/
def readArms (as : Aliases) : (fuel : Nat) → (acc : List (List Word × Option Command)) → Peek →
    Except Fault (List (List Word × Option Command) × Peek)
  | 0, _, p => p.after.fail "too deep"
  | fuel + 1, acc, p => do
    let p ← skipNewlines as fuel p
    if p.token.isReserved "esac" then return (acc.reverse, ← readToken as fuel p.after)
    else
      let p ← if p.token.isOperator "(" then readToken as fuel p.after else pure p
      let (patterns, p) ← readPatterns as fuel [] p
      let (body, p) ← readList as fuel true [] p
      let p ← skipNewlines as fuel p
      if p.token.isReserved "esac" then
        return (((patterns, body) :: acc).reverse, ← readToken as fuel p.after)
      else if p.token.isOperator ";;" then
        readArms as fuel ((patterns, body) :: acc) (← readToken as fuel p.after)
      else p.unexpected true "\";;\""

/-- Reads the commands of a line. `acc` holds those before, last first. -/
def readLineAfter (as : Aliases) : (fuel : Nat) → (acc : List Command) → Peek →
    Except Fault (Command × Cursor)
  | 0, _, p => p.after.fail "too deep"
  | fuel + 1, acc, p => do
    let (c, p) ← readAndOr as fuel p
    let close (cs : List Command) (c : Cursor) : Except Fault (Command × Cursor) :=
      .ok ((Command.ofReversed cs).getD .nothing, c)
    let next (c : Command) : Except Fault (Command × Cursor) := do
      let p ← readToken as fuel p.after
      match p.token with
      | .newline | .finish => close (c :: acc) p.after
      | _ => readLineAfter as fuel (c :: acc) p
    match p.token with
    | .newline | .finish => close (c :: acc) p.after
    | .operator op =>
      if op = ";" then next c
      else if op = "&" then next (.background c)
      else p.unexpected true ""
    | _ => p.unexpected true ""

end

/-- How deep and how long what is read at a place may be. -/
def readLimit (c : Cursor) : Nat := 16 * c.rest.length + 64

/-- Reads the next line of commands; `none` at the end of the script. -/
def readLine (as : Aliases) (c : Cursor) : Except Fault (Option (Command × Cursor)) := do
  let fuel := readLimit c
  let p ← skipNewlines as fuel (← readToken as fuel c)
  match p.token with
  | .finish => return none
  | _ => return some (← readLineAfter as fuel [] p)

/-- The start of a script. -/
def Cursor.start (script : Bytes) : Cursor := ⟨script, 1, 0⟩

end Conformance.Shell
