import Conformance.Shell.Machine

/-!
# Arguments of programs

How programs of the system read their arguments: options of one letter, which may stand together and
may have a value, long names of options, and operands; and how they read the files that operands name.
-/

namespace Conformance.Shell

/-- Why something failed, without the number of the failure. -/
def reason : IoError → String
  | .system e => e.text
  | e => e.message

namespace Tool

/-- The options of a program: the letters without a value and those with one, long names for letters,
    and whether options may follow operands. -/
structure Usage where
  flags : String
  valued : String
  long : List (String × Char)
  mixed : Bool

/-- The arguments of a program. -/
structure Arguments where
  /-- The options, first one first, with their values. -/
  options : List (Char × Bytes)
  operands : List Bytes
  deriving Repr

namespace Arguments

/-- Whether an option is given. -/
def has (a : Arguments) (letter : Char) : Bool := a.options.any (·.1 = letter)

/-- The last value of an option. -/
def value? (a : Arguments) (letter : Char) : Option Bytes :=
  (a.options.reverse.find? (·.1 = letter)).map (·.2)

/-- All values of an option. -/
def values (a : Arguments) (letter : Char) : List Bytes :=
  (a.options.filter (·.1 = letter)).map (·.2)

/-- The last of some options that is given. -/
def last? (a : Arguments) (letters : List Char) : Option Char :=
  (a.options.reverse.find? fun o => letters.contains o.1).map (·.1)

end Arguments

/-- Whether an option has a value. -/
def Usage.takes (u : Usage) (letter : Char) : Bool := u.valued.toList.contains letter

/-- The options in the letters of an argument, whether the last one lacks its value, or what is wrong
    with them. -/
def Usage.letters (u : Usage) : Bytes → Except String (List (Char × Bytes) × Option Char)
  | [] => .ok ([], none)
  | b :: rest =>
    let c := charOf b
    if u.takes c then
      .ok (if rest.isEmpty then ([], some c) else ([(c, rest)], none))
    else if u.flags.toList.contains c then do
      let (more, open?) ← u.letters rest
      return ((c, []) :: more, open?)
    else .error ("invalid option -- '" ++ text [b] ++ "'")

/-- The letter of a long name, which may be cut short. -/
def Usage.named? (u : Usage) (name : String) : Option Char :=
  match u.long.find? (·.1 = name) with
  | some (_, c) => some c
  | none =>
    match u.long.filter fun l => name.toList.isPrefixOf l.1.toList with
    | (_, c) :: rest => if rest.all (·.2 = c) then some c else none
    | [] => none

/-- Reads arguments. `options` and `operands` hold those before, last first, and `awaiting` the
    option whose value comes next. -/
def Usage.readFrom (u : Usage) (options : List (Char × Bytes)) (operands : List Bytes)
    (awaiting : Option Char) : List Bytes → Except String Arguments
  | [] =>
    match awaiting with
    | some c => .error ("option requires an argument -- '" ++ String.singleton c ++ "'")
    | none => .ok ⟨options.reverse, operands.reverse⟩
  | a :: rest =>
    match awaiting with
    | some c => u.readFrom ((c, a) :: options) operands none rest
    | none =>
      if a = octets "--" then .ok ⟨options.reverse, operands.reverse ++ rest⟩
      else if a.head? != some (ascii '-') || a.length = 1 then
        if u.mixed then u.readFrom options (a :: operands) none rest
        else .ok ⟨options.reverse, operands.reverse ++ a :: rest⟩
      else
        match afterFront? (octets "--") a with
        | some long =>
          let name := long.takeWhile (· != ascii '=')
          let value := long.drop name.length
          match u.named? (text name) with
          | none => .error ("unrecognized option '--" ++ text name ++ "'")
          | some c =>
            if !u.takes c then u.readFrom ((c, value.tail) :: options) operands none rest
            else if value.isEmpty then u.readFrom options operands (some c) rest
            else u.readFrom ((c, value.tail) :: options) operands none rest
        | none => do
          let (found, open?) ← u.letters a.tail
          u.readFrom (found.reverse ++ options) operands open? rest

/-- Reads the arguments of a program. -/
def Usage.read (u : Usage) (args : List Bytes) : Except String Arguments :=
  u.readFrom [] [] none args

/-- The options of a program without long names, which may follow operands. -/
def usage (flags valued : String) : Usage := ⟨flags, valued, [], true⟩

/-- The usage with long names. -/
def Usage.withLong (u : Usage) (long : List (String × Char)) : Usage := { u with long := long }

/-- The usage with all options before the operands. -/
def Usage.strict (u : Usage) : Usage := { u with mixed := false }

/-- The machine after a program complained and ended with a status. -/
def fail (m : Machine) (tool message : String) (status : Nat) : Machine :=
  (m.warn (tool ++ ": " ++ message)).withStatus status

/-- The machine after a program was called in a wrong way. -/
def misused (m : Machine) (tool message : String) (status : Nat) : Machine :=
  ((m.warn (tool ++ ": " ++ message)).warn
    ("Try '" ++ tool ++ " --help' for more information.")).withStatus status

/-- The machine after a program that is given an operand too few. -/
def lacking (m : Machine) (tool : String) (status : Nat) : Machine :=
  misused m tool "missing operand" status

/-- The machine after a program that is given an operand too many. -/
def excess (m : Machine) (tool : String) (operand : Bytes) (status : Nat) : Machine :=
  misused m tool ("extra operand '" ++ text operand ++ "'") status

/-- The stream that a path names. -/
def streamOf? (path : Bytes) : Option Nat :=
  match text path with
  | "/dev/stdin" => some 0
  | "/dev/stdout" => some 1
  | "/dev/stderr" => some 2
  | _ =>
    match afterFront? (octets "/dev/fd/") path with
    | some [b] => if isDigitByte b then some (b.toNat - 48) else none
    | _ => none

/-- The content of a file, or of a stream that the path names. -/
def contentOf (m : Machine) (path : Bytes) : Except String Bytes × Machine :=
  match streamOf? path with
  | some n =>
    let (bs, m) := m.takeFrom n
    (.ok bs, m)
  | none => (match m.files.read path with | .ok bs => .ok bs | .error e => .error (reason e), m)

/-- The content that an operand names: `-` is the input. -/
def contentFor (m : Machine) (operand : Bytes) : Except String Bytes × Machine :=
  if operand = octets "-" then
    match m.readable? 0 with
    | none =>
      let isDirectory : Bool :=
        match m.stream? 0 with
        | some (.place p) => m.files.isDirectory p
        | _ => false
      (.error (if isDirectory then "Is a directory" else "Bad file descriptor"), m)
    | some _ =>
      let (bs, m) := m.takeInput
      (.ok bs, m)
  else contentOf m operand

/-- The operands, or the input if there are none. -/
def orInput (operands : List Bytes) : List Bytes :=
  if operands.isEmpty then [octets "-"] else operands

/-- The contents that operands name one after the other, last one first. Operands that cannot be
    read are complained of, and the flag tells whether there are none. -/
def contents (m : Machine) (tool : String) (operands : List Bytes) :
    List (Bytes × Bytes) × Machine × Bool :=
  (orInput operands).foldl
    (fun (acc : List (Bytes × Bytes) × Machine × Bool) operand =>
      let (done, m, ok) := acc
      match contentFor m operand with
      | (.ok bs, m) => ((operand, bs) :: done, m, ok)
      | (.error e, m) => (done, m.warn (tool ++ ": " ++ text operand ++ ": " ++ e), false))
    ([], m, true)

/-- All that operands name, as one content. -/
def joined (m : Machine) (tool : String) (operands : List Bytes) : Bytes × Machine × Bool :=
  let (parts, m, ok) := contents m tool operands
  (parts.foldl (fun acc p => p.2 ++ acc) [], m, ok)

/-- The machine after a program read its arguments: it goes on with them or complains. -/
def withArguments (m : Machine) (tool : String) (u : Usage) (misuse : Nat) (args : List Bytes)
    (go : Arguments → Machine) : Machine :=
  match u.read args with
  | .ok a => go a
  | .error e => misused m tool e misuse

/-- What stands at a path, after links. -/
def node? (m : Machine) (path : Bytes) : Option Node :=
  match m.files.lookup path with
  | .ok n => some n
  | .error _ => none

/-- What stands at a path, links not followed. -/
def entry? (m : Machine) (path : Bytes) : Option (Place × Node) :=
  match m.files.resolve false path with
  | .ok place => (m.files.node? place).map fun n => (place, n)
  | .error _ => none

/-- The last name of a path. -/
def lastName (path : Bytes) : Bytes :=
  ((Path.pieces path).filter (!·.isEmpty)).getLast?.getD path

end Tool
end Conformance.Shell
