import Conformance.Text.Utf8

/-!
# Paths

A path is a sequence of octets, cut into components by slashes. Repeated slashes, slashes at the
end and `.` components count for nothing, except that a `.` at the front of a relative path is a
component.

Two paths are the same if their components are. Paths are ordered by their components: the root
first, then `.`, then `..`, then names by their octets.
-/

namespace Conformance

/-- A path, as its octets. -/
abbrev Path := Bytes

namespace Path

/-- The octet that separates components. -/
def slash : UInt8 := 0x2F

/-- One component of a path. -/
inductive Component where
  | root
  | current
  | parent
  | name (octets : Bytes)
  deriving DecidableEq, Repr

/-- The pieces of a path between slashes. `piece` holds the open piece and `done` the finished
    ones, both last first. -/
def piecesOnto (done : List Bytes) (piece : Bytes) : Bytes → List Bytes
  | [] => (piece.reverse :: done).reverse
  | b :: bs => if b = slash then piecesOnto (piece.reverse :: done) [] bs
    else piecesOnto done (b :: piece) bs

/-- The pieces of a path between slashes, empty ones included. -/
def pieces (p : Path) : List Bytes := piecesOnto [] [] p

/-- The component of a piece, if it counts as one after the front of a path. -/
def Component.ofPiece? (piece : Bytes) : Option Component :=
  if piece = [] ∨ piece = [0x2E] then none
  else if piece = [0x2E, 0x2E] then some .parent
  else some (.name piece)

/-- The components of a path. -/
def components (p : Path) : List Component :=
  let rest := (pieces p).filterMap Component.ofPiece?
  match p with
  | [] => []
  | b :: _ =>
    if b = slash then .root :: rest
    else if (pieces p).head? = some [0x2E] then .current :: rest
    else rest

/-- The last component of a path, if it is a name. -/
def fileName? (p : Path) : Option Bytes :=
  match (components p).getLast? with
  | some (.name n) => some n
  | _ => none

/-- A path as text. Octets that are no text are shown as replacement characters. -/
def display (p : Path) : String := Utf8.decodeString p

/-- The path of an entry of a directory. -/
def entry (dir : Path) (name : Bytes) : Path :=
  match dir.getLast? with
  | none => name
  | some b => if b = slash then dir ++ name else dir ++ slash :: name

/-- Whether a path begins at the root. -/
def isAbsolute (p : Path) : Bool := p.head? = some slash

/-- The order of octet sequences. -/
def compareOctets : Bytes → Bytes → Ordering
  | [], [] => .eq
  | [], _ :: _ => .lt
  | _ :: _, [] => .gt
  | a :: as, b :: bs => if a < b then .lt else if b < a then .gt else compareOctets as bs

namespace Component

/-- The place of a kind of component in the order. -/
def rank : Component → Nat
  | .root => 0
  | .current => 1
  | .parent => 2
  | .name _ => 3

/-- The order of components. -/
def compare (a b : Component) : Ordering :=
  match a, b with
  | .name x, .name y => compareOctets x y
  | a, b => Ord.compare a.rank b.rank

end Component

/-- The order of component sequences. -/
def compareComponents : List Component → List Component → Ordering
  | [], [] => .eq
  | [], _ :: _ => .lt
  | _ :: _, [] => .gt
  | a :: as, b :: bs =>
    match a.compare b with
    | .eq => compareComponents as bs
    | o => o

/-- The order of paths. -/
def compare (p q : Path) : Ordering := compareComponents (components p) (components q)

/-- Whether two paths are the same. -/
def same (p q : Path) : Bool := components p = components q

end Path
end Conformance
