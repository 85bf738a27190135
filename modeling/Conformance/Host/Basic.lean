import Conformance.Host.IoError
import Conformance.Text.Path

/-!
# The host

What the harness asks of the files of the machine it runs on: what a directory holds, and what a file
holds. Nothing is assumed of the answers. How the executable under test fares is asked of an `Executor`.
-/

namespace Conformance

/-- What an entry of a directory turns out to be, after links were followed. -/
inductive Target where
  | regular
  | directory
  | special
  /-- The entry could not be examined: its link leads nowhere, or in circles. -/
  | unknown (e : IoError)
  deriving DecidableEq, Repr

/-- An entry of a directory. -/
structure DirEntry where
  name : Bytes
  target : Target
  deriving DecidableEq, Repr

/-- The files of a machine. -/
structure Host where
  /-- The entries of a directory, in any order. -/
  list : Path → Except IoError (List DirEntry)
  /-- The content of a file. -/
  read : Path → Except IoError Bytes

end Conformance
