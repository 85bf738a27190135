import Conformance.CommandLine.Option

/-!
# Arguments

What the command line asks for, and how the values of options are read.

This is what the specification's command-line entry point is given (§10.1, `CommandLineArgs`), with the
defaults of §10.2. `config` is its `runner_config` (§10.10).
-/

namespace Conformance
namespace CommandLine

/-- What the command line asks for. -/
structure Arguments where
  exe : Path
  fixturesDir : Path
  extension : String
  errorMarker : String
  markerIsPattern : Bool
  jobs : Option Nat
  /-- Seconds. -/
  timeout : Option Nat
  format : Format
  verbose : Bool
  color : ColorChoice
  list : Bool
  exact : Bool
  skip : List String
  debug : List Subject
  filters : List String
  deriving DecidableEq, Repr

namespace Arguments

/-- What is asked for if nothing is given. -/
def default : Arguments where
  exe := Utf8.encodeString Config.defaultExecutable
  fixturesDir := Utf8.encodeString Config.defaultFixturesDir
  extension := Config.defaultExtension
  errorMarker := Marker.defaultText
  markerIsPattern := false
  jobs := none
  timeout := none
  format := .pretty
  verbose := false
  color := .auto
  list := false
  exact := false
  skip := []
  debug := []
  filters := []

/-- The configuration that is asked for. -/
def config (a : Arguments) : Config :=
  let c := Config.of a.exe a.fixturesDir
    |>.withExtension a.extension
    |>.withMarker a.errorMarker a.markerIsPattern
    |>.withTimeout (a.timeout.map Duration.ofSeconds)
    |>.withFilter ⟨a.filters, a.skip, a.exact⟩
  match a.jobs with
  | some jobs => c.withJobs jobs
  | none => c

end Arguments

/-! ## Numbers -/

/-- Why a text is no number. -/
inductive NumberError where
  | empty
  | invalidDigit
  | tooLarge
  | zero
  deriving DecidableEq, Repr

/-- How it is told why a text is no number. -/
def NumberError.text : NumberError → String
  | .empty => "cannot parse integer from empty string"
  | .invalidDigit => "invalid digit found in string"
  | .tooLarge => "number too large to fit in target type"
  | .zero => "number would be zero for non-zero type"

/-- The first number that is too large. -/
def numberLimit : Nat := 0x10000000000000000

/-- Reads the digits that are left of a number. A character that is no digit counts before a value
    that is too large at the same place. -/
def readDigits (value : Nat) : List Char → Except NumberError Nat
  | [] => .ok value
  | c :: cs =>
    if !c.isDigit then .error .invalidDigit
    else
      let value := value * 10 + (c.toNat - '0'.toNat)
      if numberLimit ≤ value then .error .tooLarge else readDigits value cs

/-- Reads a number. -/
def readNumber (text : String) : Except NumberError Nat :=
  match text.toList with
  | [] => .error .empty
  | ['+'] => .error .invalidDigit
  | '+' :: cs => readDigits 0 cs
  | cs => readDigits 0 cs

/-- Reads a number that is not zero. -/
def readPositive (text : String) : Except NumberError Nat :=
  match readNumber text with
  | .ok 0 => .error .zero
  | r => r

/-! ## Values -/

/-- What is wrong with a command line. What is repeated of it is told as text, whatever it is. -/
inductive Misuse where
  /-- There is no such option. `similar` is an option that may be meant, and `given` what was given
      apart from it. -/
  | unknownArgument (argument : String) (similar : Option String) (given : List Slot)
  /-- An option lacks its value. -/
  | missingValue (s : Switch)
  /-- A value is no text, and has to be. -/
  | invalidText
  /-- A value is none of the choices. -/
  | invalidChoice (s : Switch) (value : String)
  /-- A value is no number. -/
  | invalidNumber (s : Switch) (value : String) (reason : NumberError)
  /-- An option is given more than once. -/
  | usedTwice (s : Switch)
  /-- An option that takes no value has one. `afterOthers` says whether something was given
      before. -/
  | unexpectedValue (s : Switch) (value : String) (afterOthers : Bool)
  deriving DecidableEq, Repr

/-- Reads the value of an option that takes one of a few. -/
def readChoice {α : Type} (s : Switch) (names : List (String × α)) (value : Bytes) :
    Except Misuse α :=
  match names.find? fun n => Utf8.encodeString n.1 = value with
  | some (_, a) => .ok a
  | none =>
    .error (if value.isEmpty then .missingValue s else .invalidChoice s (Utf8.decodeString value))

/-- Reads the value of an option that takes a path, which may be any octets. -/
def readPath (s : Switch) (value : Bytes) : Except Misuse Path :=
  if value.isEmpty then .error (.missingValue s) else .ok value

/-- Reads a value that has to be text. -/
def readText (value : Bytes) : Except Misuse String :=
  match Utf8.text? value with
  | some text => .ok text
  | none => .error .invalidText

/-- Reads values that have to be text. -/
def readTexts (values : List Bytes) : Except Misuse (List String) := values.mapM readText

/-- Reads the value of an option that takes a number. -/
def readWith (s : Switch) (read : String → Except NumberError Nat) (value : Bytes) :
    Except Misuse Nat :=
  (readText value).bind fun text => (read text).mapError (.invalidNumber s text)

/-- The arguments with the value of an option. Options that take no value are set by the values of
    their variables. -/
def Arguments.accept (a : Arguments) (s : Switch) (value : Bytes) : Except Misuse Arguments :=
  match s with
  | .exe => (readPath s value).map fun v => { a with exe := v }
  | .fixturesDir => (readPath s value).map fun v => { a with fixturesDir := v }
  | .extension => (readText value).map fun v => { a with extension := v }
  | .errorMarker => (readText value).map fun v => { a with errorMarker := v }
  | .jobs => (readWith s readPositive value).map fun n => { a with jobs := some n }
  | .timeout => (readWith s readNumber value).map fun n => { a with timeout := some n }
  | .format => (readChoice s formatNames value).map fun v => { a with format := v }
  | .verbose => (readChoice s truthNames value).map fun v => { a with verbose := v }
  | .color => (readChoice s colorNames value).map fun v => { a with color := v }
  | .skip => (readText value).map fun v => { a with skip := a.skip ++ [v] }
  | .debug => (readChoice s subjectNames value).map fun v => { a with debug := a.debug ++ [v] }
  | .markerRegex => .ok { a with markerIsPattern := true }
  | .list => .ok { a with list := true }
  | .exact => .ok { a with exact := true }
  | .help | .version => .ok a

end CommandLine
end Conformance
