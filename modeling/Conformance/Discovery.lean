import Conformance.Error
import Conformance.Fixture
import Conformance.Filter
import Conformance.Host.Basic
import Conformance.Log

/-!
# Discovery

The fixtures of a directory are the entries whose names end with the extension, except directories
and special files. Entries that cannot be examined are kept, so that each of them fails by itself
later. The fixtures are ordered by path, whatever the order of the listing.

This is the FixtureDiscovery of the specification (§4.1, §10.4): `discover` is its `discover_fixtures`,
`events` is what that tells on the side, and `select` is what the Harness keeps in its own `discover`.
-/

namespace Conformance.Discovery

/-- Whether a name ends with an extension. -/
def hasExtension (extension name : String) : Bool :=
  extension.toList.reverse.isPrefixOf name.toList.reverse

/-- Whether an entry is a fixture. -/
def isFixture (extension : String) (e : DirEntry) : Bool :=
  hasExtension extension (Utf8.decodeString e.name)
    && match e.target with
      | .directory | .special => false
      | .regular | .unknown _ => true

/-- The order of fixtures. -/
def before (f g : Fixture) : Bool := Path.compare f.path g.path != .gt

/-- The fixtures among the entries of a directory. -/
def fixturesOf (dir : Path) (extension : String) (entries : List DirEntry) : List Fixture :=
  ((entries.filter (isFixture extension)).map fun e => ⟨dir.entry e.name⟩).mergeSort before

/-- The fixtures of a directory. -/
def discover (host : Host) (dir : Path) (extension : String) :
    Except HarnessError (List Fixture) :=
  match host.list dir with
  | .ok entries => .ok (fixturesOf dir extension entries)
  | .error e => .error (.discovery dir e)

/-- What is told about one entry. -/
def entryEvent? (dir : Path) (extension : String) (e : DirEntry) : Option Event :=
  let told (text : String) : Option Event := some ⟨.debug, some .discovery, text⟩
  let path := (dir.entry e.name).display
  if hasExtension extension (Utf8.decodeString e.name) then
    match e.target with
    | .directory => told ("skipping directory " ++ path)
    | .special => told ("skipping special file " ++ path)
    | .unknown err => told ("cannot stat " ++ path ++ ": " ++ err.message)
    | .regular => none
  else none

/-- What is told about a directory. -/
def events (host : Host) (dir : Path) (extension : String) : List Event :=
  match host.list dir with
  | .ok entries =>
    let count := (fixturesOf dir extension entries).length
    entries.filterMap (entryEvent? dir extension)
      ++ [⟨.debug, some .discovery,
            "found " ++ toString count ++ " fixture(s) in " ++ dir.display⟩]
  | .error _ => []

/-- The fixtures that a filter selects. -/
def select (filter : Filter) (fixtures : List Fixture) : List Fixture :=
  fixtures.filter fun f => filter.accepts f.name

end Conformance.Discovery
