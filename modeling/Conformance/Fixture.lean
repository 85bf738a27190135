import Conformance.Text.Path

/-!
# Fixtures

A fixture is a file given by its path; its name is the last component of the path.

This is the Fixture of the specification's data model (§3). Its expectation, outcome and verdict are those
of its result.
-/

namespace Conformance

/-- A fixture. -/
structure Fixture where
  path : Path
  deriving DecidableEq, Repr

namespace Fixture

/-- The name of a fixture: the text of the last component of its path, if that is a name. -/
def name (f : Fixture) : String :=
  match f.path.fileName? with
  | some n => Utf8.decodeString n
  | none => ""

/-- A fixture as text. -/
def display (f : Fixture) : String := f.path.display

/-- Whether two fixtures are the same: their paths have the same components and their names are
    equal. -/
def same (f g : Fixture) : Bool := Path.same f.path g.path && f.name = g.name

end Fixture
end Conformance
