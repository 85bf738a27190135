/-!
# Filters

Which fixtures are run, by their names. If there are patterns to include, a name has to match one of
them; in any case it must match none of the patterns to exclude. A pattern matches a name that it
is equal to, or that it occurs in.

These are the include and exclude filters of the specification's FixtureDiscovery (§10.4): `accepts` is
`should_run`, and `hitsAny` is `matches_any`.
-/

namespace Conformance

/-- Which fixtures are run. -/
structure Filter where
  included : List String
  excluded : List String
  exact : Bool
  deriving DecidableEq, Repr

namespace Filter

/-- The filter that lets every fixture through. -/
def all : Filter := ⟨[], [], false⟩

/-- Whether a text occurs in another. -/
def occurs (part : List Char) : List Char → Bool
  | [] => part.isEmpty
  | c :: cs => part.isPrefixOf (c :: cs) || occurs part cs

/-- Whether a pattern matches a name. -/
def hits (f : Filter) (name pattern : String) : Bool :=
  if f.exact then pattern = name else occurs pattern.toList name.toList

/-- Whether one of several patterns matches a name. -/
def hitsAny (f : Filter) (name : String) (patterns : List String) : Bool :=
  patterns.any (f.hits name)

/-- Whether a fixture of a name is run. -/
def accepts (f : Filter) (name : String) : Bool :=
  (f.included.isEmpty || f.hitsAny name f.included) && !f.hitsAny name f.excluded

end Filter
end Conformance
