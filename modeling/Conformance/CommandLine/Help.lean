import Conformance.CommandLine.Message
import Conformance.CommandLine.Parse

/-!
# Help

The description of the program and its options. Texts about an option stand under it, ten characters
in. Those that come from the environment stand as they are, however long their lines.

The layout is that of `clap` (§10.10); the texts are those of the flags of the specification (§10.2).
-/

namespace Conformance
namespace CommandLine

/-- What the program does. -/
def description : String :=
  "Runs every fixture file in a directory through the gaya executable and checks that\n"
  ++ "each run fails or succeeds as the fixture declares. A fixture whose first line\n"
  ++ "contains the error marker must make the executable exit with a nonzero status; every\n"
  ++ "other fixture must make it exit successfully.\n\n"
  ++ "The exit status is 0 when every fixture passes, and otherwise the number of failing\n"
  ++ "fixtures (at most 255).\n\n\n"

namespace Switch

/-- What an option does. -/
def description : Switch → String
  | .help => "Display usage information"
  | .exe => "Path to the executable under test"
  | .fixturesDir => "Directory containing the fixtures (not searched recursively)"
  | .extension => "File-name suffix identifying fixtures"
  | .errorMarker => "Text marking a fixture as expected to fail when found on its first line"
  | .markerRegex => "Treat the error marker as a regular expression"
  | .jobs => "Maximum number of fixtures to run at once [default: available parallelism]"
  | .timeout => "Fail any run of the executable that takes longer than this many seconds"
  | .format => "Output format for test results"
  | .verbose => "Display durations and progress details"
  | .color => "Colorize output?"
  | .list => "List the selected fixtures without running them"
  | .exact => "Exactly match filters (not just substring match)"
  | .skip => "Patterns for fixtures to be excluded"
  | .debug => "Enable debug logging for classes of tracing events"
  | .version => "Print version"

/-- What the values of an option mean. -/
def meanings : Switch → List (String × String)
  | .format =>
    [("pretty", "Human-readable colored output, one line per fixture"),
     ("terse", "Only failing fixtures and the summary"),
     ("junit", "\x60JUnit\x60 XML format")]
  | .debug =>
    [("discovery", "Traces listing of the fixture directory"),
     ("expectation", "Traces classification of fixtures by their first line"),
     ("execution", "Traces runs of the executable under test"),
     ("runner", "Traces scheduling of fixtures")]
  | _ => []

/-- The value that an option has if it is not given, as it would be written. -/
def defaultText? : Switch → Option String
  | .exe => some Config.defaultExecutable
  | .fixturesDir => some Config.defaultFixturesDir
  | .extension => some Config.defaultExtension
  | .errorMarker => some ("\"" ++ Marker.defaultText ++ "\"")
  | .format => some "pretty"
  | .color => some ColorChoice.auto.name
  | _ => none

/-- The notes about an option: its variable, its value if it is not given, and the values it
    takes. -/
def notes (e : Environment) (s : Switch) : List String :=
  let source := s.envName?.map fun v =>
    "[env: " ++ v ++ "=" ++ (e.get? v).elim "" Utf8.decodeString ++ "]"
  let default := s.defaultText?.map fun d => "[default: " ++ d ++ "]"
  let values :=
    if s = .color then some ("[possible values: " ++ ", ".intercalate s.choices ++ "]") else none
  source.toList ++ default.toList ++ values.toList

end Switch

/-! ## The whole help -/

/-- The start of a text about an option. -/
def margin : String := "          "

/-- A text with its lines set in by the margin. -/
def setIn (text : String) : String := text.replace "\n" ("\n" ++ margin)

/-- What stands after a value to align the meanings of values. -/
def padding (meanings : List (String × String)) (name : String) : String :=
  let widest := (meanings.map (·.1.length)).foldl max 0
  String.ofList (List.replicate (widest - name.length) ' ')

/-- The help about an option. -/
def Switch.entry (e : Environment) (s : Switch) : Styled :=
  let short :=
    match s.short? with
    | some c =>
      Styled.plain "  " ++ Styled.faced .literal (String.ofList ['-', c]) ++ Styled.plain ", "
    | none => Styled.plain "      "
  let meanings :=
    match s.meanings with
    | [] => []
    | ms =>
      Styled.plain ("\n\n" ++ margin ++ "Possible values:") ++ ms.flatMap fun (name, meaning) =>
        Styled.plain ("\n" ++ margin ++ "- ") ++ Styled.faced .literal name
          ++ Styled.plain (": " ++ padding ms name ++ meaning)
  let notes :=
    match s.notes e with
    | [] => []
    | ns =>
      Styled.plain ("\n" ++ margin ++ "\n" ++ margin ++ setIn ("\n".intercalate ns))
  short ++ s.used ++ Styled.plain ("\n" ++ margin ++ s.description) ++ meanings ++ notes

/-- The help about the program. -/
def help (e : Environment) : Styled :=
  let entries := Switch.all.map fun s => s.entry e ++ Styled.plain "\n"
  Styled.plain description ++ usage [] ++ Styled.plain "\n\n"
    ++ Styled.faced .heading "Arguments:"
    ++ Styled.plain ("\n  [FILTER]...\n" ++ margin ++ "Patterns for fixtures to be included\n\n")
    ++ Styled.faced .heading "Options:" ++ Styled.plain "\n"
    ++ (Styled.plain "\n").intercalate entries

/-- The name and the version of the program. -/
def versionText : String := programName ++ " " ++ programVersion ++ "\n"

end CommandLine
end Conformance
