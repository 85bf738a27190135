import Conformance.Duration
import Conformance.Expectation
import Conformance.Filter
import Conformance.Text.Path

/-!
# Configurations

Which executable is run on which fixtures, and how.

This is the `RunnerConfig` of the specification (§10.10), with the defaults of §10.2.
-/

namespace Conformance

/-- What a run needs to know. `jobs` is the number of fixtures run at once; without it, the machine
    decides. -/
structure Config where
  executable : Path
  fixturesDir : Path
  extension : String
  marker : String
  markerIsPattern : Bool
  jobs : Option Nat
  timeout : Option Duration
  filter : Filter
  deriving DecidableEq, Repr

namespace Config

/-- The executable that is run unless another is given. -/
def defaultExecutable : String := "./build/src/gaya"

/-- The directory of the fixtures unless another is given. -/
def defaultFixturesDir : String := "tests"

/-- The extension of fixtures unless another is given. -/
def defaultExtension : String := ".gaya"

/-- The configuration for an executable and a directory. -/
def of (executable fixturesDir : Path) : Config where
  executable := executable
  fixturesDir := fixturesDir
  extension := defaultExtension
  marker := Marker.defaultText
  markerIsPattern := false
  jobs := none
  timeout := none
  filter := .all

/-- The configuration that is used if nothing is given. -/
def standard : Config :=
  of (Utf8.encodeString defaultExecutable) (Utf8.encodeString defaultFixturesDir)

/-- Sets the extension of fixtures. -/
def withExtension (c : Config) (extension : String) : Config := { c with extension := extension }

/-- Sets the marker. -/
def withMarker (c : Config) (marker : String) (isPattern : Bool) : Config :=
  { c with marker := marker, markerIsPattern := isPattern }

/-- Sets the number of fixtures run at once. None at once is no setting. -/
def withJobs (c : Config) (jobs : Nat) : Config :=
  if jobs = 0 then c else { c with jobs := some jobs }

/-- Sets or clears the limit on the time of one run of the executable. -/
def withTimeout (c : Config) (timeout : Option Duration) : Config := { c with timeout := timeout }

/-- Sets the filter. -/
def withFilter (c : Config) (filter : Filter) : Config := { c with filter := filter }

end Config
end Conformance
