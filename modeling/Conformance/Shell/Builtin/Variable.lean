import Conformance.Shell.Builtin.Option
import Conformance.Shell.Expansion
import Conformance.Shell.Glob

/-!
# Commands about variables

The commands of the shell that set, list and drop variables, arguments and other names: `set`, `shift`,
`export`, `readonly`, `local`, `unset`, `read`, `getopts`, `alias` and `unalias`.
-/

namespace Conformance.Shell.Builtin

/-- The machine after a command of the shell refused what it was asked for. -/
def refuse (m : Machine) (message : String) : Machine × Flow :=
  ((m.complain message).withStatus 2, .refused)

/-- The machine after a command of the shell did what it was asked for. -/
def accept (m : Machine) : Machine × Flow := (m.withStatus 0, .next)

/-- The number that an argument is: digits, after a plus sign and blanks. -/
def count? (a : Bytes) : Option Nat :=
  let bs := a.dropWhile isSpaceByte
  let bs := if bs.head? = some (ascii '+') then bs.tail else bs
  (natural? (trimEnd isSpaceByte bs)).filter (· < 0x80000000)

/-- The refusal of an argument that is no number. -/
def refuseNumber (m : Machine) (a : Bytes) : Machine × Flow :=
  refuse m ("Illegal number: " ++ text a)

/-! ## Listing -/

/-- A text in single quotes; single quotes inside of it stand between double quotes. `fuel` bounds its
    length. -/
def inQuotesFrom : (fuel : Nat) → Bytes → Bytes
  | 0, _ => []
  | fuel + 1, bs =>
    let plain := bs.takeWhile (· != ascii '\'')
    let rest := bs.drop plain.length
    let marks := rest.takeWhile (· = ascii '\'')
    let after := rest.drop marks.length
    let told := ascii '\'' :: plain ++ [ascii '\'']
    if marks.isEmpty then told
    else
      told ++ ascii '"' :: marks ++ [ascii '"']
        ++ (if after.isEmpty then [] else inQuotesFrom fuel after)

/-- A text in single quotes. -/
def inQuotes (bs : Bytes) : Bytes := inQuotesFrom (bs.length + 1) bs

/-- How a variable is listed. -/
def listed (front : String) (name : Bytes) (value : Option Bytes) : Bytes :=
  octets front ++ name ++ value.elim [] fun v => ascii '=' :: inQuotes v

/-- The machine after some variables were listed by their names. -/
def listVariables (m : Machine) (front : String) (chosen : Binding → Bool) : Machine :=
  let found := m.bindings.filter fun v => chosen v.2
  let inOrder := found.mergeSort fun a b => Path.compareOctets a.1 b.1 != .gt
  inOrder.foldl (fun m v => m.print (line (listed front v.1 v.2.value))) m

/-! ## Arguments -/

/-- The machine with other arguments. -/
def withParameters (m : Machine) (args : List Bytes) : Machine :=
  { m with arguments := args, optionIndex := 1, optionOffset := none }

/-- The command `set`. -/
def set (m : Machine) (args : List Bytes) : Machine × Flow :=
  if args.isEmpty then accept (listVariables m "" fun b => b.value.isSome)
  else
    match setOptions false (args.length + 1) m false args with
    | .error e => refuse m e
    | .ok r =>
      accept (if r.rest.isEmpty && !r.drops then r.machine else withParameters r.machine r.rest)

/-- The command `shift`. -/
def shift (m : Machine) (args : List Bytes) : Machine × Flow :=
  let go (n : Nat) : Machine × Flow :=
    if m.arguments.length < n then refuse m "can't shift that many"
    else
      accept { m with arguments := m.arguments.drop n, optionIndex := 1, optionOffset := none }
  match args with
  | [] => go 1
  | a :: _ => match count? a with | some n => go n | none => refuseNumber m a

/-! ## Variables -/

/-- An argument cut at its first equals sign. -/
def cutAssignment (a : Bytes) : Bytes × Option Bytes :=
  let name := a.takeWhile (· != ascii '=')
  (name, if name.length < a.length then some (a.drop (name.length + 1)) else none)

/-- Sets variables and changes what is known of them. -/
def declare (m : Machine) (change : Binding → Binding) : List Bytes → Machine × Flow
  | [] => accept m
  | a :: rest =>
    let (name, value?) := cutAssignment a
    if !isName name then refuse m (text name ++ ": bad variable name")
    else if value?.isSome && m.isFixed name then refuse m (text name ++ ": is read only")
    else
      let m := value?.elim m (m.assign name)
      let b := (m.binding? name).getD ⟨none, false, false⟩
      declare (m.bind name (some (change b))) change rest

/-- The arguments after options of letters, or the letter that is none of them. `seen` holds the
    letters before. -/
def letterOptions (known : List Char) (seen : List Char) : List Bytes →
    Except String (List Char × List Bytes)
  | [] => .ok (seen, [])
  | a :: rest =>
    if a = octets "--" then .ok (seen, rest)
    else if a.head? = some (ascii '-') && 1 < a.length then
      match a.tail.find? fun b => !known.contains (charOf b) with
      | some b => .error ("Illegal option -" ++ text [b])
      | none => letterOptions known (seen ++ a.tail.map charOf) rest
    else .ok (seen, a :: rest)

/-- The command `export` or `readonly`. -/
def mark (m : Machine) (name : String) (chosen : Binding → Bool) (change : Binding → Binding)
    (args : List Bytes) : Machine × Flow :=
  match letterOptions ['p'] [] args with
  | .error e => refuse m e
  | .ok (seen, names) =>
    if names.isEmpty || seen.contains 'p' then accept (listVariables m (name ++ " ") chosen)
    else declare m change names

/-- The command `local`. -/
def makeLocal (m : Machine) (args : List Bytes) : Machine × Flow :=
  if m.calls = 0 then refuse m "not in a function"
  else
    let own (m : Machine) (name : Bytes) : Machine :=
      if m.locals.any (·.1 = name) then m
      else { m with locals := (name, m.binding? name) :: m.locals }
    args.foldl
      (fun acc a =>
        if acc.2 ≠ .next then acc
        else
          let m := acc.1
          if a = octets "-" then acc
          else
            let (name, _) := cutAssignment a
            if !isName name then refuse m (text name ++ ": bad variable name")
            else declare (own m name) (fun b => b) [a])
      (accept m)

/-- The command `unset`. -/
def unset (m : Machine) (args : List Bytes) : Machine × Flow :=
  match letterOptions ['v', 'f'] [] args with
  | .error e => refuse m e
  | .ok (seen, names) =>
    if seen.getLast? = some 'f' then
      accept { m with functions := m.functions.filter fun f => !names.contains f.1 }
    else
      names.foldl
        (fun acc name =>
          if acc.2 ≠ .next then acc
          else if !isName name then refuse acc.1 (text name ++ ": bad variable name")
          else if acc.1.isFixed name then refuse acc.1 (text name ++ ": is read only")
          else (acc.1.bind name none, .next))
        (accept m)

/-! ## Reading -/

/-- A line of the input up to its line feed: octets, and whether each was quoted by a backslash; the
    rest; and whether there was a line feed. `raw` says whether backslashes mean nothing. -/
def inputLine (raw : Bool) (acc : List Marked) : Bytes → List Marked × Bytes × Bool
  | [] => (acc.reverse, [], false)
  | b :: bs =>
    if b = 0x0A then (acc.reverse, bs, true)
    else if b = 0 then inputLine raw acc bs
    else if b = ascii '\\' && !raw then
      match bs with
      | [] => (acc.reverse, [], false)
      | c :: cs => inputLine raw (if c = 0x0A then acc else (c, true) :: acc) cs
    else inputLine raw ((b, false) :: acc) bs

/-- Whether an octet separates words, and whether it is white. -/
def separation (separators : Bytes) (o : Marked) : Bool × Bool :=
  let separates := !o.2 && separators.contains o.1
  (separates, separates && (isBlankByte o.1 || o.1 = 0x0A))

/-- The last word of a line: all that is left, without white separators at the end, or without its one
    separator if there is only one word. `word` holds its octets, last first, `cut?` what it was before
    the separators that may be dropped, and `white` tells whether only white ones came so far. -/
def lastWord (separators : Bytes) (word : Bytes) (cut? : Option Bytes) (white : Bool) :
    List Marked → Bytes
  | [] => (cut?.getD word).reverse
  | o :: rest =>
    let (separates, isWhite) := separation separators o
    if isWhite then lastWord separators (o.1 :: word) (some (cut?.getD word)) white rest
    else
      lastWord separators (o.1 :: word) (if separates && white then cut? else none) false rest

/-- The words of a line, not more than a number of them. `white` tells whether the octet before was a
    white separator that ended a word, and `word` holds the octets of the open word, last first. -/
def lineWords (separators : Bytes) : (limit : Nat) → (white : Bool) → (word : Bytes) →
    List Marked → List Bytes
  | _, _, word, [] => if word.isEmpty then [] else [word.reverse]
  | limit, white, word, o :: rest =>
    let (separates, isWhite) := separation separators o
    if white && separates then lineWords separators limit isWhite [] rest
    else if separates then
      if word.isEmpty && isWhite then lineWords separators limit false [] rest
      else if limit ≤ 1 then [lastWord separators (o.1 :: word) (some word) isWhite rest]
      else word.reverse :: lineWords separators (limit - 1) isWhite [] rest
    else lineWords separators limit false (o.1 :: word) rest

/-- The options of `read` and its names. -/
def readOptions (raw : Bool) : List Bytes → Except String (Bool × List Bytes)
  | [] => .ok (raw, [])
  | a :: rest =>
    if a = octets "--" then .ok (raw, rest)
    else if a.head? = some (ascii '-') && 1 < a.length then
      let letters := a.tail.takeWhile (· != ascii 'p')
      match letters.find? fun b => b != ascii 'r' with
      | some b => .error ("Illegal option -" ++ text [b])
      | none =>
        let raw := raw || !letters.isEmpty
        if letters.length < a.length - 1 then
          if letters.length + 2 < a.length then readOptions raw rest
          else
            match rest with
            | _ :: rest => readOptions raw rest
            | [] => .error "No arg for -p option"
        else readOptions raw rest
    else .ok (raw, a :: rest)

/-- The command `read`. -/
def read (m : Machine) (args : List Bytes) : Machine × Flow :=
  match readOptions false args with
  | .error e => refuse m e
  | .ok (_, []) => refuse m "arg count"
  | .ok (raw, names) =>
    let source? := m.readable? 0
    let content := (source?.map (·.content)).getD []
    let m := m.waitUntil ((source?.map (·.ready)).getD 0)
    let (marked, rest, ended) := inputLine raw [] content
    let m := m.leave 0 rest
    let words := lineWords m.separators names.length false [] marked
    (List.range names.length).foldl
      (fun acc i =>
        if acc.2 ≠ .next then acc
        else
          let name := names[i]?.getD []
          if !isName name then refuse acc.1 (text name ++ ": bad variable name")
          else if acc.1.isFixed name then refuse acc.1 (text name ++ ": is read only")
          else ((acc.1.assign name (words[i]?.getD [])), .next))
      (m.withTest ended, .next)

/-! ## Options of scripts -/

/-- What was found by `getopts`: the value of its variable, that of `OPTARG`, a complaint, the next
    argument by its number, and how much of the one before was read. -/
structure OptionFound where
  letter : Bytes
  argument : Option Bytes
  complaint : Option String
  index : Nat
  offset : Option Nat
  finished : Bool

/-- Looks for the next option among arguments. -/
def nextOption (letters : Bytes) (args : List Bytes) (index : Nat) (offset : Option Nat) :
    OptionFound :=
  let index := max 1 index
  let open? : Option Bytes :=
    match offset with
    | some n =>
      if index ≤ 1 then none
      else
        let left := (args[index - 2]?.getD []).drop n
        if left.isEmpty then none else some left
    | none => none
  let finished (index : Nat) : OptionFound := ⟨octets "?", none, none, index, none, true⟩
  let found? : Except OptionFound (Bytes × Nat) :=
    match open? with
    | some left => .ok (left, index)
    | none =>
      match args[index - 1]? with
      | none => .error (finished index)
      | some a =>
        if a.head? != some (ascii '-') || a.length = 1 then .error (finished index)
        else if a = octets "--" then .error (finished (index + 1))
        else .ok (a.tail, index + 1)
  match found? with
  | .error f => f
  | .ok ([], index) => finished index
  | .ok (c :: left, index) =>
    let silent := letters.head? = some (ascii ':')
    let known := if silent then letters.tail else letters
    let offset (left : Bytes) : Option Nat :=
      if left.isEmpty then none else some ((args[index - 2]?.getD []).length - left.length)
    match if c = ascii ':' then none else known.idxOf? c with
    | none =>
      if silent then ⟨octets "?", some [c], none, index, offset left, false⟩
      else ⟨octets "?", none, some ("Illegal option -" ++ text [c]), index, offset left, false⟩
    | some i =>
      if known[i + 1]? != some (ascii ':') then ⟨[c], some [], none, index, offset left, false⟩
      else if !left.isEmpty then ⟨[c], some left, none, index, none, false⟩
      else
        match args[index - 1]? with
        | some value => ⟨[c], some value, none, index + 1, none, false⟩
        | none =>
          if silent then ⟨octets ":", some [c], none, index, none, false⟩
          else
            ⟨octets "?", none, some ("No arg for -" ++ text [c] ++ " option"), index, none, false⟩

/-- The command `getopts`. -/
def getopts (m : Machine) (args : List Bytes) : Machine × Flow :=
  match args with
  | letters :: name :: rest =>
    let args := if rest.isEmpty then m.arguments else rest
    let f := nextOption letters args m.optionIndex m.optionOffset
    let m := f.complaint.elim m m.warn
    let m :=
      if f.finished then m
      else
        match f.argument with
        | some value => m.assign (octets "OPTARG") value
        | none => m.bind (octets "OPTARG") none
    let m := m.assign (octets "OPTIND") (number f.index)
    let m := { m with optionIndex := f.index, optionOffset := f.offset }
    if !isName name then refuse m (text name ++ ": bad variable name")
    else if m.isFixed name then refuse m (text name ++ ": is read only")
    else ((m.assign name f.letter).withTest (!f.finished), .next)
  | _ => refuse m "Usage: getopts optstring var [arg...]"

/-! ## Aliases -/

/-- The machine after an alias was listed. -/
def listAlias (m : Machine) (a : Bytes × Bytes) : Machine :=
  m.print (line (a.1 ++ ascii '=' :: inQuotes a.2))

/-- The command `alias`. -/
def defineAliases (m : Machine) (args : List Bytes) : Machine × Flow :=
  if args.isEmpty then accept (m.aliases.foldl listAlias m)
  else
    (args.foldl
      (fun m a =>
        match cutAssignment a with
        | (name, some value) =>
          { m with aliases := m.aliases.filter (·.1 ≠ name) ++ [(name, value)] }
        | (name, none) =>
          match m.aliases.find? (·.1 = name) with
          | some found => listAlias m found
          | none => (m.warn ("alias: " ++ text name ++ " not found")).withStatus 1)
      (m.withStatus 0), .next)

/-- The command `unalias`. -/
def unalias (m : Machine) (args : List Bytes) : Machine × Flow :=
  match letterOptions ['a'] [] args with
  | .error e => refuse m e
  | .ok (seen, names) =>
    if seen.contains 'a' then accept { m with aliases := [] }
    else
      (names.foldl
        (fun m name =>
          if m.aliases.any (·.1 = name) then
            { m with aliases := m.aliases.filter (·.1 ≠ name) }
          else (m.warn ("unalias: " ++ text name ++ " not found")).withStatus 1)
        (m.withStatus 0), .next)

end Conformance.Shell.Builtin
