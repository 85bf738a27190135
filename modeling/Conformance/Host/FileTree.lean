import Conformance.Host.Basic

/-!
# File trees

A machine's files as a value: what stands at which place, and the directory that relative paths
start from. A place is the list of names that leads to it from the root.

Paths are followed name by name. A link that is met on the way is replaced by its target; no more
than forty links are followed. A name may be 255 octets long and a path 4095.
-/

namespace Conformance

/-- What stands at a place. -/
inductive Node where
  | file (content : Bytes) (executable : Bool)
  | directory
  | link (target : Path)
  /-- A named pipe. -/
  | pipe
  /-- The device that is empty and swallows everything. -/
  | null
  /-- The device that holds zeros without end. -/
  | zeros
  /-- A program of the system, by its name. -/
  | tool (name : String)
  deriving DecidableEq, Repr

/-- The names that lead to a place from the root. -/
abbrev Place := List Bytes

/-- The files of a machine. The root is a directory and is not listed. -/
structure FileTree where
  nodes : List (Place × Node)
  cwd : Place
  deriving DecidableEq, Repr

namespace FileTree

/-- The longest name. -/
def nameLimit : Nat := 255

/-- The length from which on a path is too long. -/
def pathLimit : Nat := 4096

/-- How many links are followed. -/
def linkLimit : Nat := 40

/-- What stands at a place. -/
def node? (t : FileTree) (place : Place) : Option Node :=
  if place.isEmpty then some .directory
  else (t.nodes.find? fun entry => entry.1 = place).map (·.2)

/-- Whether a directory stands at a place. -/
def isDirectory (t : FileTree) (place : Place) : Bool := t.node? place = some .directory

/-- Puts a node at a place, instead of what stood there. -/
def put (t : FileTree) (place : Place) (node : Node) : FileTree :=
  if t.nodes.any (·.1 = place) then
    { t with nodes := t.nodes.map fun entry => if entry.1 = place then (place, node) else entry }
  else { t with nodes := t.nodes ++ [(place, node)] }

/-- Removes what stands at a place. -/
def erase (t : FileTree) (place : Place) : FileTree :=
  { t with nodes := t.nodes.filter fun entry => entry.1 ≠ place }

/-- The names of a path. A slash at the end asks for a directory, as a name `.` does. -/
def steps (path : Path) : List Bytes :=
  let pieces := Path.pieces path
  let names := pieces.filter (!·.isEmpty)
  if pieces.getLast? = some [] then names ++ [[0x2E]] else names

/-- Where a path leads as far as no link is met. -/
inductive Progressed where
  | arrived (place : Place)
  /-- A link was met: where its target starts and the names to go. -/
  | jump (start : Place) (names : List Bytes)
  deriving Repr

/-- Follows names up to the first link. The last name is followed through a link if
    `followLast` says so. -/
def advance (t : FileTree) (followLast : Bool) (here : Place) :
    List Bytes → Except Errno Progressed
  | [] => .ok (.arrived here)
  | name :: rest =>
    if !t.isDirectory here then .error .notDirectory
    else if name = [0x2E] then advance t followLast here rest
    else if name = [0x2E, 0x2E] then advance t followLast here.dropLast rest
    else if nameLimit < name.length then .error .nameTooLong
    else
      match t.node? (here ++ [name]) with
      | none => .error .noEntry
      | some (.link target) =>
        if rest.isEmpty && !followLast then .ok (.arrived (here ++ [name]))
        else
          let start := if Path.isAbsolute target then [] else here
          .ok (.jump start (steps target ++ rest))
      | some _ => advance t followLast (here ++ [name]) rest

/-- Follows names through up to `links` links. -/
def followFrom (t : FileTree) (followLast : Bool) :
    (links : Nat) → Place → List Bytes → Except Errno Place
  | links, here, names =>
    match t.advance followLast here names with
    | .error e => .error e
    | .ok (.arrived place) => .ok place
    | .ok (.jump start names) =>
      match links with
      | 0 => .error .linkLoop
      | links + 1 => followFrom t followLast links start names

/-- The place that a path leads to. -/
def resolve (t : FileTree) (followLast : Bool) (path : Path) : Except IoError Place :=
  if path.contains 0 then .error .nulInPath
  else if path.isEmpty then .error (.system .noEntry)
  else if pathLimit ≤ path.length then .error (.system .nameTooLong)
  else
    let start := if Path.isAbsolute path then [] else t.cwd
    match t.followFrom followLast linkLimit start (steps path) with
    | .ok place => .ok place
    | .error e => .error (.system e)

/-- What a path leads to, after links. -/
def lookup (t : FileTree) (path : Path) : Except IoError Node :=
  match t.resolve true path with
  | .error e => .error e
  | .ok place =>
    match t.node? place with
    | some node => .ok node
    | none => .error (.system .noEntry)

/-- What an entry turns out to be. -/
def target (t : FileTree) (path : Path) : Target :=
  match t.lookup path with
  | .error e => .unknown e
  | .ok (.file ..) | .ok (.tool _) => .regular
  | .ok .directory => .directory
  | .ok _ => .special

/-- The names of the entries of a directory. -/
def names (t : FileTree) (dir : Place) : List Bytes :=
  t.nodes.filterMap fun entry =>
    if entry.1.dropLast = dir then entry.1.getLast? else none

/-- The entries of a directory. -/
def list (t : FileTree) (path : Path) : Except IoError (List DirEntry) :=
  match t.resolve true path with
  | .error e => .error e
  | .ok place =>
    if t.isDirectory place then
      .ok ((t.names place).map fun name => ⟨name, t.target (path.entry name)⟩)
    else .error (.system .notDirectory)

/-- How much is read of a file without end. -/
def endlessRead : Nat := 65536

/-- The content of a file. A pipe that nobody writes to is taken to be empty. -/
def read (t : FileTree) (path : Path) : Except IoError Bytes :=
  match t.lookup path with
  | .error e => .error e
  | .ok (.file content _) => .ok content
  | .ok .directory => .error (.system .isDirectory)
  | .ok .zeros => .ok (List.replicate endlessRead 0)
  | .ok _ => .ok []

/-- The machine with these files. -/
def host (t : FileTree) : Host := ⟨t.list, t.read⟩

/-- The place that a file is created at: what the path leads to, or, if nothing is there, the
    last name of the path in the directory before it. -/
def creationPlace (t : FileTree) (path : Path) : Except IoError Place :=
  match t.resolve true path with
  | .ok place => .ok place
  | .error (.system .noEntry) =>
    match (steps path).getLast? with
    | none => .error (.system .noEntry)
    | some name =>
      let start := if Path.isAbsolute path then [] else t.cwd
      match t.followFrom true linkLimit start ((steps path).dropLast ++ [[0x2E]]) with
      | .ok dir =>
        if name = [0x2E] then .error (.system .isDirectory) else .ok (dir ++ [name])
      | .error e => .error (.system e)
  | .error e => .error e

/-- Writes a file, or adds to it. -/
def write (t : FileTree) (path : Path) (append : Bool) (data : Bytes) :
    Except IoError FileTree :=
  match t.creationPlace path with
  | .error e => .error e
  | .ok place =>
    match t.node? place with
    | none => .ok (t.put place (.file data false))
    | some (.file content executable) =>
      .ok (t.put place (.file (if append then content ++ data else data) executable))
    | some .directory => .error (.system .isDirectory)
    | some _ => .ok t

/-- Makes the directories that lead to a place from a directory on. -/
def makeDirectories (t : FileTree) (here : Place) : List Bytes → FileTree × Place
  | [] => (t, here)
  | name :: rest =>
    if name = [0x2E] then makeDirectories t here rest
    else if name = [0x2E, 0x2E] then makeDirectories t here.dropLast rest
    else
      let next := here ++ [name]
      match t.node? next with
      | none => makeDirectories (t.put next .directory) next rest
      | some (.link _) =>
        match t.followFrom true linkLimit here [name] with
        | .ok place => makeDirectories t place rest
        | .error _ => makeDirectories t next rest
      | some _ => makeDirectories t next rest

/-- Puts a node at a path and makes the directories that lead to it. -/
def install (t : FileTree) (path : Path) (node : Node) : FileTree :=
  let start := if Path.isAbsolute path then [] else t.cwd
  let names := (Path.pieces path).filter (!·.isEmpty)
  match node with
  | .directory => (t.makeDirectories start names).1
  | node =>
    match names.getLast? with
    | none => t
    | some name =>
      let (t, dir) := t.makeDirectories start names.dropLast
      t.put (dir ++ [name]) node

/-- The directories in which programs without a slash in their names are looked for. -/
def searchPath : List String :=
  ["/usr/local/sbin", "/usr/local/bin", "/usr/sbin", "/usr/bin", "/sbin", "/bin"]

/-- A machine with nothing but the given programs of the system, a few devices, and an empty
    directory to work in. -/
def bare (tools : List String) : FileTree :=
  let name (s : String) : Bytes := Utf8.encodeString s
  let programs := ["bin", "usr/bin"].flatMap fun dir =>
    tools.map fun tool => (Path.pieces (name dir) ++ [name tool], Node.tool tool)
  { nodes :=
      [([name "bin"], .directory), ([name "usr"], .directory),
       ([name "usr", name "bin"], .directory), ([name "dev"], .directory),
       ([name "dev", name "null"], .null), ([name "dev", name "zero"], .zeros),
       ([name "dev", name "full"], .zeros),
       ([name "tmp"], .directory), ([name "tmp", name "work"], .directory)] ++ programs
    cwd := [name "tmp", name "work"] }

end FileTree
end Conformance
