import Conformance.Log
import Conformance.Report.Format
import Conformance.Config

/-!
# Options

The options of the program: their names, the variables of the environment that stand in for them,
and the values they take.

These are the flags of the specification (§10.2, §10.10), with the `--debug` of §10.9 and the filters and
the `--list` of §10.4.
-/

namespace Conformance
namespace CommandLine

/-- The name of the program. -/
def programName : String := "gaya-test"

/-- The version of the program. -/
def programVersion : String := "0.1.0"

/-- An option. -/
inductive Switch where
  | help | exe | fixturesDir | extension | errorMarker | markerRegex | jobs | timeout | format
  | verbose | color | list | exact | skip | debug | version
  deriving DecidableEq, Repr

namespace Switch

/-- The options in the order in which they are told. -/
def all : List Switch :=
  [.help, .exe, .fixturesDir, .extension, .errorMarker, .markerRegex, .jobs, .timeout, .format,
    .verbose, .color, .list, .exact, .skip, .debug, .version]

/-- The name of an option after two hyphens. -/
def long : Switch → String
  | .help => "help"
  | .exe => "exe"
  | .fixturesDir => "fixtures-dir"
  | .extension => "extension"
  | .errorMarker => "error-marker"
  | .markerRegex => "marker-regex"
  | .jobs => "jobs"
  | .timeout => "timeout"
  | .format => "format"
  | .verbose => "verbose"
  | .color => "color"
  | .list => "list"
  | .exact => "exact"
  | .skip => "skip"
  | .debug => "debug"
  | .version => "version"

/-- The names of an option that are not told. -/
def aliases : Switch → List String
  | .debug => ["log-enable"]
  | _ => []

/-- The names of an option after two hyphens. -/
def longNames (s : Switch) : List String := s.long :: s.aliases

/-- The name of an option after one hyphen. -/
def short? : Switch → Option Char
  | .jobs => some 'j'
  | .verbose => some 'v'
  | .version => some 'V'
  | _ => none

/-- What stands for the value of an option, if it takes one. -/
def placeholder? : Switch → Option String
  | .exe => some "EXECUTABLE"
  | .fixturesDir => some "FIXTURES_DIR"
  | .extension => some "EXTENSION"
  | .errorMarker => some "ERROR_MARKER"
  | .jobs => some "JOBS"
  | .timeout => some "SECONDS"
  | .format => some "FORMAT"
  | .color => some "COLOR"
  | .skip => some "FILTER"
  | .debug => some "EVENT"
  | _ => none

/-- Whether an option takes a value. -/
def takesValue (s : Switch) : Bool := s.placeholder?.isSome

/-- Whether an option may be given more than once. -/
def isRepeatable : Switch → Bool
  | .skip | .debug => true
  | _ => false

/-- The variable of the environment that stands in for an option. -/
def envName? : Switch → Option String
  | .exe => some "GAYA_EXE"
  | .fixturesDir => some "GAYA_TEST_FIXTURES"
  | .jobs => some "GAYA_TEST_JOBS"
  | .verbose => some "GAYA_TEST_VERBOSE"
  | _ => none

/-- The option with a name after two hyphens. -/
def ofLong? (name : Bytes) : Option Switch :=
  all.find? fun s => (s.longNames.map Utf8.encodeString).contains name

/-- The octet that an option has for a name after one hyphen. -/
def letter? (s : Switch) : Option UInt8 := s.short?.map (·.toNat.toUInt8)

/-- The option with a name after one hyphen. -/
def ofLetter? (b : UInt8) : Option Switch := all.find? fun s => s.letter? = some b

/-- All names after two hyphens. -/
def allLongNames : List String := all.flatMap longNames

/-- How an option is told. -/
def shown (s : Switch) : String :=
  "--" ++ s.long ++ (s.placeholder?.elim "" fun p => " <" ++ p ++ ">")

end Switch

/-- When the output is coloured. -/
inductive ColorChoice where
  | auto | always | never
  deriving DecidableEq, Repr

/-- The name of a choice. -/
def ColorChoice.name : ColorChoice → String
  | .auto => "auto"
  | .always => "always"
  | .never => "never"

/-- The formats by their names. -/
def formatNames : List (String × Format) :=
  [("pretty", .pretty), ("terse", .terse), ("junit", .junit)]

/-- The choices of colour by their names. -/
def colorNames : List (String × ColorChoice) :=
  [ColorChoice.auto, .always, .never].map fun c => (c.name, c)

/-- The subjects of the log by their names. -/
def subjectNames : List (String × Subject) :=
  [Subject.discovery, .expectation, .execution, .runner].map fun s => (s.name, s)

/-- The truth values by their names. -/
def truthNames : List (String × Bool) := [("true", true), ("false", false)]

/-- The only values that an option takes, if they are told apart by name. -/
def Switch.choices : Switch → List String
  | .format => formatNames.map (·.1)
  | .color => colorNames.map (·.1)
  | .debug => subjectNames.map (·.1)
  | .verbose => truthNames.map (·.1)
  | _ => []

/-- What can be given: an option, or filters. -/
inductive Slot where
  | switch (s : Switch)
  | filters
  deriving DecidableEq, Repr

end CommandLine
end Conformance
