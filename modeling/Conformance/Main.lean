import Conformance.Host.Archive
import Conformance.Shell.Process

/-!
# The program

The files that the program works on are those of an archive on its standard input. It is read only
if the command line asks for fixtures.
-/

namespace Conformance

/-- Reads a stream to its end. `done` holds what was read before. -/
partial def readToEnd (stream : IO.FS.Stream) (done : ByteArray) : IO ByteArray := do
  let more ← stream.read 65536
  if more.isEmpty then return done else readToEnd stream (done ++ more)

/-- The variables of the environment that matter. -/
def variableNames : List String :=
  CommandLine.Switch.all.filterMap (·.envName?) ++ ["NO_COLOR", "CLICOLOR_FORCE"]

/-- The files that a command line works on. -/
def readFiles (environment : CommandLine.Environment) (argv : List Bytes) : IO FileTree := do
  let bare := FileTree.bare Shell.Tool.names
  match CommandLine.parse environment argv with
  | .error _ => return bare
  | .ok _ => return Archive.unpack bare (← readToEnd (← IO.getStdin) .empty).toList

end Conformance

open Conformance in
/-- Runs the program. -/
def main (argv : List String) : IO UInt32 := do
  let argv := argv.map Utf8.encodeString
  let environment ← variableNames.filterMapM fun name => do
    return (← IO.getEnv name).map fun value => (name, Utf8.encodeString value)
  let files ← readFiles environment argv
  let situation : CommandLine.Situation :=
    { argv := argv
      environment := environment
      host := files.host
      executor := fun p => p.executor fun _ => .error (.system .noEntry)
      device := .memory none
      available := 1
      timestamp := "1970-01-01T00:00:00+00:00"
      fixtureTime := fun _ => .zero
      runTime := .zero }
  let closing := (Shell.situation situation files).run
  (← IO.getStderr).putStr closing.errors
  (← IO.getStdout).write (ByteArray.mk closing.output.toArray)
  return closing.code.toUInt32
