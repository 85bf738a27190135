import Conformance.CommandLine.Arguments
import Conformance.CommandLine.Similarity

/-!
# Reading the command line

Arguments are octets, which need not be text, and are read from left to right. An option that takes
a value waits for it: the value is looked at only when the next option or filter begins, or at the
end. A value that is attached to its option is looked at at once.

After `--` everything is a filter. At the end, options that were not given take the values of their
variables in the environment.

The specification leaves this to `clap` (§10.10); these are its rules, as far as the options of this program
need them.

## What was given

The reader remembers what was given so far, in order, because a complaint repeats it. An option
counts as given before its value is looked at, and one that is given twice does not count at all.
-/

namespace Conformance
namespace CommandLine

/-- The variables of the environment. -/
abbrev Environment := List (String × Bytes)

/-- The value of a variable. -/
def Environment.get? (e : Environment) (name : String) : Option Bytes :=
  (e.find? fun v => v.1 = name).map (·.2)

/-- What is read but not looked at yet. -/
inductive Pending where
  /-- An option that waits for its value. -/
  | wanting (s : Switch)
  /-- An option with its value. -/
  | supplied (s : Switch) (value : Bytes)
  /-- Filters, last first. -/
  | filters (values : List Bytes)
  deriving DecidableEq, Repr

/-- What was read. -/
structure Reading where
  arguments : Arguments
  given : List Slot
  pending : Option Pending
  deriving Repr

/-- Why the reading ends early. -/
inductive Stop where
  | help
  | version
  | misuse (m : Misuse)
  deriving DecidableEq, Repr

namespace Reading

/-- Nothing read. -/
def start : Reading := ⟨.default, [], none⟩

/-- The reading with a slot among what was given. -/
def give (r : Reading) (slot : Slot) : Reading :=
  if r.given.contains slot then r else { r with given := r.given ++ [slot] }

/-- Takes the value of an option. -/
def take (r : Reading) (s : Switch) (value : Bytes) : Reading × Option Misuse :=
  if !s.isRepeatable && r.given.contains (.switch s) then
    ({ r with given := r.given.erase (.switch s) }, some (.usedTwice s))
  else
    let r := r.give (.switch s)
    match r.arguments.accept s value with
    | .ok a => ({ r with arguments := a }, none)
    | .error m => (r, some m)

/-- Takes filters. -/
def takeFilters (r : Reading) (values : List Bytes) : Reading × Option Misuse :=
  let r := r.give .filters
  match readTexts values with
  | .ok words =>
    ({ r with arguments := { r.arguments with filters := r.arguments.filters ++ words } }, none)
  | .error m => (r, some m)

/-- Looks at what is pending. -/
def settle (r : Reading) : Reading × Option Misuse :=
  let clear := { r with pending := none }
  match r.pending with
  | none => (r, none)
  | some (.wanting s) => (clear, some (.missingValue s))
  | some (.supplied s value) => clear.take s value
  | some (.filters values) => clear.takeFilters values.reverse

/-- Looks at what is pending and takes the value of an option. -/
def settleAndTake (r : Reading) (s : Switch) (value : Bytes) : Except Stop Reading :=
  match r.settle with
  | (_, some m) => .error (.misuse m)
  | (r, none) =>
    match r.take s value with
    | (_, some m) => .error (.misuse m)
    | (r, none) => .ok r

/-- Reads an option that takes no value. -/
def flag (r : Reading) (s : Switch) : Except Stop Reading :=
  match s with
  | .help | .version =>
    match r.settle with
    | (_, some m) => .error (.misuse m)
    | (_, none) => .error (if s = .help then .help else .version)
  | s => r.settleAndTake s (Utf8.encodeString "true")

/-- Reads an option that takes a value, which may be attached. -/
def option (r : Reading) (s : Switch) (attached : Option Bytes) : Except Stop Reading :=
  match attached with
  | some value => r.settleAndTake s value
  | none =>
    match r.settle with
    | (_, some m) => .error (.misuse m)
    | (r, none) => .ok { r with pending := some (.wanting s) }

/-- The complaint about an unknown option after two hyphens. -/
def unknownLong (r : Reading) (name : String) : Misuse :=
  let (r, _) := r.settle
  match Similarity.closest? name Switch.allLongNames with
  | none => .unknownArgument ("--" ++ name) none r.given
  | some similar =>
    let meant := Switch.ofLong? (Utf8.encodeString similar)
    let given := (meant.elim r fun s => r.give (.switch s)).given
    .unknownArgument ("--" ++ name) (some similar) given

/-- Reads an option after two hyphens. -/
def long (r : Reading) (name : Bytes) (attached : Option Bytes) : Except Stop Reading :=
  match Switch.ofLong? name with
  | none => .error (.misuse (r.unknownLong (Utf8.decodeString name)))
  | some s =>
    if s.takesValue then r.option s attached
    else
      match attached with
      | some value =>
        .error (.misuse (.unexpectedValue s (Utf8.decodeString value) !r.given.isEmpty))
      | none => r.flag s

/-- The octet between an option and its value. -/
def equals : UInt8 := 0x3D

/-- The value behind the letter of an option, if there is one. An equals sign in front of it is left
    out. -/
def attachedTo (rest : Bytes) : Option Bytes :=
  match rest with
  | [] => none
  | b :: bs => some (if b = equals then bs else b :: bs)

/-- The complaint about an unknown option after one hyphen: about the first character, or about all
    that is left if it begins with none. -/
def unknownLetter (rest : Bytes) : Misuse :=
  .unknownArgument ("-" ++ (Utf8.head? rest).elim (Utf8.decodeString rest) String.singleton) none []

/-- Reads options after one hyphen. -/
def shorts (r : Reading) : Bytes → Except Stop Reading
  | [] => .ok r
  | b :: bs =>
    match Switch.ofLetter? b with
    | none => .error (.misuse (unknownLetter (b :: bs)))
    | some s =>
      if s.takesValue then r.option s (attachedTo bs)
      else
        match r.flag s with
        | .error e => .error e
        | .ok r => shorts r bs

/-- Reads a filter. -/
def word (r : Reading) (value : Bytes) : Except Stop Reading :=
  match r.pending with
  | some (.filters values) => .ok { r with pending := some (.filters (value :: values)) }
  | _ =>
    match r.settle with
    | (_, some m) => .error (.misuse m)
    | (r, none) => .ok { r with pending := some (.filters [value]) }

/-- Reads a value or a filter. -/
def valueOrWord (r : Reading) (value : Bytes) : Except Stop Reading :=
  match r.pending with
  | some (.wanting s) => .ok { r with pending := some (.supplied s value) }
  | _ => r.word value

/-- The name and the attached value of an option after two hyphens. -/
def splitLong (text : Bytes) : Bytes × Option Bytes :=
  let name := text.takeWhile (· ≠ equals)
  match text.drop name.length with
  | [] => (name, none)
  | _ :: value => (name, some value)

/-- The argument behind which there are filters only. -/
def hyphens : Bytes := [0x2D, 0x2D]

/-- Reads an argument before `--`; other than that. Options begin with hyphens. -/
def argument (r : Reading) (value : Bytes) : Except Stop Reading :=
  match value with
  | 0x2D :: 0x2D :: b :: bs =>
    let (name, attached) := splitLong (b :: bs)
    r.long name attached
  | 0x2D :: b :: bs => r.shorts (b :: bs)
  | value => r.valueOrWord value

/-- Reads arguments. `onlyWords` says whether `--` was read. -/
def all (onlyWords : Bool) (r : Reading) : List Bytes → Except Stop Reading
  | [] => .ok r
  | value :: rest =>
    if onlyWords then
      match r.word value with
      | .error e => .error e
      | .ok r => all true r rest
    else if value = hyphens then all true r rest
    else
      match r.argument value with
      | .error e => .error e
      | .ok r => all false r rest

/-- Takes the values of variables for options that were not given. -/
def fromEnvironment (e : Environment) (r : Reading) : List Switch → Except Misuse Reading
  | [] => .ok r
  | s :: rest =>
    if r.given.contains (.switch s) then fromEnvironment e r rest
    else
      match s.envName?.bind e.get? with
      | none => fromEnvironment e r rest
      | some value =>
        match r.arguments.accept s value with
        | .error m => .error m
        | .ok a => fromEnvironment e { r with arguments := a } rest

end Reading

/-- Reads a command line. -/
def parse (e : Environment) (argv : List Bytes) : Except Stop Arguments :=
  match Reading.all false .start argv with
  | .error stop => .error stop
  | .ok r =>
    match r.settle with
    | (_, some m) => .error (.misuse m)
    | (r, none) =>
      match r.fromEnvironment e Switch.all with
      | .error m => .error (.misuse m)
      | .ok r => .ok r.arguments

end CommandLine
end Conformance
