import Conformance.Host.FileTree

/-!
# Launching

The program that runs when a path is executed. A program of the system runs itself. Any other file must
be executable and begin with `#!` and the path of the program that runs it, after which one argument may
stand; that program is launched in the same way.

Only the head of a file is looked at. The path of the program must end within it, but the argument is cut
where the head ends.
-/

namespace Conformance.Launch

/-- The length from which on an argument is too long. -/
def argumentLimit : Nat := 131072

/-- How many scripts may be run by one another. -/
def scriptLimit : Nat := 5

/-- How many octets of a file are its head. -/
def headLimit : Nat := 256

/-- Whether an octet is a blank within a line. -/
def isBlank (b : UInt8) : Bool := b = 0x20 || b = 0x09

/-- Octets without blanks at their end. -/
def trimmed (bs : Bytes) : Bytes := (bs.reverse.dropWhile isBlank).reverse

/-- The program that runs a script and the argument for it, by the head of the script. A head without the
    end of its first line must hold the end of the program's path. In a file that ends before its first
    line does, the path may be empty, and blanks behind the argument belong to it. -/
def interpreter? (content : Bytes) : Option (Path × Option Bytes) :=
  match content with
  | 0x23 :: 0x21 :: rest =>
    let head := rest.take (headLimit - 2)
    let first := head.takeWhile (· != 0x0A)
    let isCut := first.length = headLimit - 2
    let ends := isCut || first.length < head.length
    let line := (if isCut then first.take (headLimit - 3) else first).dropWhile isBlank
    let name := line.takeWhile fun b => !isBlank b && b != 0
    let isWhole : Bool := !isCut || (first.dropWhile isBlank).any fun b => isBlank b || b = 0
    let after := ((line.drop name.length).dropWhile isBlank).takeWhile (· != 0)
    let argument := if ends then trimmed after else after
    if !isWhole || (ends && (trimmed line).isEmpty) then none
    else some (name, if argument.isEmpty then none else some argument)
  | _ => none

/-- A program of the system with its own name for itself and its arguments. -/
structure Command where
  tool : String
  name : Bytes
  arguments : List Bytes
  deriving DecidableEq, Repr

/-- The program that runs when a path is executed with arguments, through `scripts` scripts. -/
def execute (t : FileTree) :
    (scripts : Nat) → Path → List Bytes → Except IoError Command
  | scripts, path, arguments =>
    match t.lookup path with
    | .error e => .error e
    | .ok (.tool tool) => .ok ⟨tool, path, arguments⟩
    | .ok (.file content true) =>
      match interpreter? content with
      | none => .error (.system .execFormat)
      | some ([], _) => .error (.system .permissionDenied)
      | some (program, argument) =>
        match scripts with
        | 0 => .error (.system .linkLoop)
        | scripts + 1 => execute t scripts program (argument.toList ++ path :: arguments)
    | .ok _ => .error (.system .permissionDenied)

/-- Whether the search for a program goes on after a failure. -/
def goesOn (e : IoError) : Bool :=
  match e with
  | .system .noEntry | .system .notDirectory | .system .permissionDenied => true
  | _ => false

/-- Looks for a program in directories. `worst` is the failure to tell if it is not found. -/
def search (t : FileTree) (name : Path) (arguments : List Bytes) (worst : IoError) :
    List Path → Except IoError Command
  | [] => .error worst
  | dir :: dirs =>
    match execute t scriptLimit (if dir.isEmpty then name else Path.entry dir name) arguments with
    | .ok command => .ok command
    | .error e =>
      if !goesOn e then .error e
      else
        search t name arguments (if e = .system .permissionDenied then e else worst) dirs

/-- The program that is meant by a name, with one argument. -/
def find (t : FileTree) (program : Path) (argument : Bytes) : Except IoError Command :=
  if program.contains 0 || argument.contains 0 then .error .nulInArgument
  else if program.isEmpty then .error (.system .noEntry)
  else if argumentLimit ≤ argument.length then .error (.system .argumentsTooLong)
  else if program.contains Path.slash then execute t scriptLimit program [argument]
  else if FileTree.nameLimit < program.length then .error (.system .nameTooLong)
  else
    search t program [argument] (.system .noEntry) (FileTree.searchPath.map Utf8.encodeString)

end Conformance.Launch
