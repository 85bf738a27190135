import Conformance.Host.FileTree
import Conformance.Shell.Script

/-!
# The state of a shell

What belongs to one shell, such as its variables, is kept apart from what all programs of a run share,
such as the files: a shell inside of a shell changes the latter only.

Time is counted, not measured: only waiting takes any. A command that runs in the background and takes
time is put off until somebody waits for it.
-/

namespace Conformance.Shell

/-- Where a stream goes or comes from. -/
inductive Stream where
  | discard
  /-- A device without space. -/
  | full
  /-- The end of a file that is written. -/
  | place (p : Place)
  /-- What is kept for somebody else, by its number. -/
  | keep (n : Nat)
  /-- What is read, by its number. -/
  | source (n : Nat)
  deriving DecidableEq, Repr

/-- What is left to read, whether a reader may give back what it read too much, and from when on it
    is there. -/
structure Source where
  content : Bytes
  seekable : Bool
  ready : Nat
  deriving DecidableEq, Repr

/-- A variable. -/
structure Binding where
  value : Option Bytes
  exported : Bool
  fixed : Bool
  deriving DecidableEq, Repr

/-- How a command is left. -/
inductive Flow where
  | next
  | exit
  | killed (signal : Nat)
  | leave (loops : Nat)
  | again (loops : Nat)
  | back
  /-- The shell cannot go on, unless the command is one of its regular ones. -/
  | refused
  /-- The command does not end. -/
  | stuck
  deriving DecidableEq, Repr

/-- What belongs to one shell. -/
structure Frame where
  bindings : List (Bytes × Binding)
  functions : List (Bytes × Command)
  aliases : List (Bytes × Bytes)
  name : Bytes
  arguments : List Bytes
  status : Nat
  streams : List (Nat × Stream)
  /-- The options that are set, by their letters. -/
  options : List Char
  /-- What is done at a signal; zero stands for the end of the shell. A signal at which nothing is
      done is ignored. -/
  traps : List (Nat × Bytes)
  /-- The number of the shell among the programs that run, and those of the shells that it was started
      by. -/
  processId : Nat
  ancestors : List Nat
  /-- How many shells enclose this one without being programs of their own. -/
  depth : Nat
  /-- How many functions run. -/
  calls : Nat
  /-- The variables that the running function keeps to itself, with what they were before. -/
  locals : List (Bytes × Option Binding)
  /-- The line of the command that runs, and its name. -/
  line : Nat
  command : Option Bytes
  /-- Whether the command that runs is a condition, which may fail. -/
  tested : Bool
  /-- The number of loops that run. -/
  loops : Nat
  /-- The status of the last command whose output became part of a word. -/
  outputStatus : Option Nat
  /-- Whether a word could not be expanded. -/
  halted : Bool
  /-- Where the reading of options goes on: the number of the argument, and how many octets of the
      argument before it were read, if some of it is left. -/
  optionIndex : Nat
  optionOffset : Option Nat
  /-- The last command in the background. -/
  lastJob : Option Nat
  /-- The permissions that new files do not get. -/
  mask : Nat
  /-- The status to end with, while something is done at a signal. -/
  ending : Option Nat

/-- What a command in the background has still to do, where, and from when on. -/
structure Pending where
  commands : List Command
  shell : Frame
  place : Place
  time : Nat

/-- A command in the background, by its number, the shell that started it, and its number there. It has
    something left to do, or it ended with a status. -/
structure Job where
  id : Nat
  owner : Nat
  index : Nat
  pending : Option Pending
  status : Nat

/-- The state of a shell and of what all programs share. -/
structure Machine extends Frame where
  files : FileTree
  /-- The nanoseconds spent waiting. -/
  clock : Nat
  sources : List (Nat × Source)
  /-- What is kept, by its number, last octets first. -/
  kept : List (Nat × List Bytes)
  jobs : List Job
  /-- The number of the last program. -/
  lastId : Nat
  /-- Signals that shells have still to look at, with the numbers of the shells. -/
  signals : List (Nat × Nat)
  /-- Whether something could not be written. -/
  blocked : Bool
  /-- The time from which on nothing more happens. -/
  deadline : Option Nat
  /-- How many commands may still be run. -/
  budget : Nat

namespace Machine

/-- The machine with a status. -/
def withStatus (m : Machine) (status : Nat) : Machine := { m with status := status }

/-- The machine with the status of a test. -/
def withTest (m : Machine) (holds : Bool) : Machine := m.withStatus (if holds then 0 else 1)

/-- Whether the deadline has come. -/
def isLate (m : Machine) : Bool := m.deadline.any fun d => d ≤ m.clock

/-- Whether an option is set. -/
def has (m : Machine) (option : Char) : Bool := m.options.contains option

/-- The machine with an option set or cleared. -/
def setOption (m : Machine) (option : Char) (on : Bool) : Machine :=
  let others := m.options.filter (· ≠ option)
  { m with options := if on then others ++ [option] else others }

/-! ## Variables -/

/-- What is known of a variable. -/
def binding? (m : Machine) (name : Bytes) : Option Binding :=
  (m.bindings.find? fun v => v.1 = name).map (·.2)

/-- The value of a variable. -/
def valueOf? (m : Machine) (name : Bytes) : Option Bytes := (m.binding? name).bind (·.value)

/-- The value of a variable by its name as text. -/
def value (m : Machine) (name : String) : Bytes := (m.valueOf? (octets name)).getD []

/-- The machine with what is known of a variable. -/
def bind (m : Machine) (name : Bytes) (b : Option Binding) : Machine :=
  let others := m.bindings.filter fun v => v.1 ≠ name
  { m with bindings := match b with | some b => (name, b) :: others | none => others }

/-- Whether a variable cannot be changed. -/
def isFixed (m : Machine) (name : Bytes) : Bool := (m.binding? name).any (·.fixed)

/-- The machine with a variable set. -/
def assign (m : Machine) (name value : Bytes) : Machine :=
  let b := (m.binding? name).getD ⟨none, m.has 'a', false⟩
  let m :=
    if name = octets "OPTIND" then
      { m with optionIndex := max 1 ((natural? value).getD 1), optionOffset := none }
    else m
  m.bind name (some { b with value := some value, exported := b.exported || m.has 'a' })

/-- The variables that programs see. -/
def environment (m : Machine) : List (Bytes × Bytes) :=
  m.bindings.reverse.filterMap fun v =>
    if v.2.exported then v.2.value.map fun value => (v.1, value) else none

/-- The octets that part words. -/
def separators (m : Machine) : Bytes :=
  match m.binding? (octets "IFS") with
  | some b => b.value.getD (octets " \t\n")
  | none => octets " \t\n"

/-! ## Streams -/

/-- Where a stream goes. -/
def stream? (m : Machine) (n : Nat) : Option Stream :=
  (m.streams.find? fun s => s.1 = n).map (·.2)

/-- The machine with a stream attached, or, without a target, closed. -/
def setStream (m : Machine) (n : Nat) (s : Option Stream) : Machine :=
  let others := m.streams.filter fun e => e.1 ≠ n
  { m with streams := match s with | some s => (n, s) :: others | none => others }

/-- The machine after octets were written to a stream. -/
def emit (m : Machine) (n : Nat) (data : Bytes) : Machine :=
  if data.isEmpty then m
  else
    match m.stream? n with
    | some .discard => m
    | some (.keep n) =>
      { m with kept := m.kept.map fun k => if k.1 = n then (n, data :: k.2) else k }
    | some (.place p) =>
      match m.files.node? p with
      | some (.file content executable) =>
        { m with files := m.files.put p (.file (content ++ data) executable) }
      | _ => m
    | some .full | some (.source _) | none => { m with blocked := true }

/-- The machine after octets were written to its output. -/
def print (m : Machine) (data : Bytes) : Machine := m.emit 1 data

/-- The machine after a line about a failure. -/
def warn (m : Machine) (message : String) : Machine := m.emit 2 (line (octets message))

/-- The machine after a complaint of the shell. -/
def complain (m : Machine) (message : String) : Machine :=
  let speaker : String := match m.command with | some c => text c ++ ": " | none => ""
  m.warn (text m.name ++ ": " ++ toString m.line ++ ": " ++ speaker ++ message)

/-- The machine that keeps what is written to a stream, and the number by which it is kept. -/
def keep (m : Machine) (n : Nat) : Machine × Nat :=
  let id := m.kept.foldl (fun k e => max k (e.1 + 1)) 0
  ({ m with kept := (id, []) :: m.kept }.setStream n (some (.keep id)), id)

/-- What was kept by a number, and the machine without it. -/
def takeKept (m : Machine) (id : Nat) : Bytes × Machine :=
  let parts := (m.kept.find? fun k => k.1 = id).elim [] (·.2)
  (parts.foldl (fun acc part => part ++ acc) [], { m with kept := m.kept.filter fun k => k.1 ≠ id })

/-- The number of the next source. -/
def nextSource (m : Machine) : Nat :=
  match m.sources with
  | (id, _) :: _ => id + 1
  | [] => 0

/-- A source of what is read, attached to a stream. -/
def attachSource (m : Machine) (n : Nat) (source : Source) : Machine :=
  let id := m.nextSource
  { m with sources := (id, source) :: m.sources }.setStream n (some (.source id))

/-- The machine without the sources from a number on that no stream comes from. -/
def releaseSources (m : Machine) (first : Nat) : Machine :=
  if m.nextSource = first then m
  else
    { m with sources := m.sources.filter fun s =>
        s.1 < first || m.streams.any fun e => e.2 = .source s.1 }

/-- What can be read from a stream; `none` if it cannot be read. -/
def readable? (m : Machine) (n : Nat) : Option Source :=
  match m.stream? n with
  | some .discard => some ⟨[], false, 0⟩
  | some (.source id) =>
    some (((m.sources.find? fun s => s.1 = id).map (·.2)).getD ⟨[], false, 0⟩)
  | _ => none

/-- The machine with something left to read from a stream. -/
def leave (m : Machine) (n : Nat) (content : Bytes) : Machine :=
  match m.stream? n with
  | some (.source id) =>
    { m with sources := m.sources.map fun s => if s.1 = id then (id, { s.2 with content }) else s }
  | _ => m

/-- The machine at a time, if it has not come yet. -/
def waitUntil (m : Machine) (time : Nat) : Machine := { m with clock := max m.clock time }

/-- Everything that can be read from a stream. -/
def takeFrom (m : Machine) (n : Nat) : Bytes × Machine :=
  match m.readable? n with
  | some s => (s.content, (m.leave n []).waitUntil s.ready)
  | none => ([], m)

/-- Everything that can be read from the input. -/
def takeInput (m : Machine) : Bytes × Machine := m.takeFrom 0

/-- The machine after a command, seen from the shell that ran it in a shell of its own. -/
def rejoin (m after : Machine) : Machine :=
  { after with toFrame := m.toFrame, files := { after.files with cwd := m.files.cwd } }

/-- A shell that runs on a machine until a deadline and for a number of commands, with its streams
    going nowhere. -/
def fresh (files : FileTree) (deadline : Option Nat) (budget : Nat) : Machine where
  bindings :=
    [(octets "OPTIND", ⟨some (octets "1"), false, false⟩),
     (octets "PWD", ⟨some (files.cwd.flatMap fun name => Path.slash :: name), true, false⟩),
     (octets "HOME", ⟨some (octets "/root"), true, false⟩),
     (octets "PATH", ⟨some (octets (":".intercalate FileTree.searchPath)), true, false⟩)]
  functions := []
  aliases := []
  name := octets "sh"
  arguments := []
  status := 0
  streams := [(0, .discard), (1, .discard), (2, .discard)]
  options := []
  traps := []
  processId := 4242
  ancestors := []
  depth := 0
  calls := 0
  locals := []
  line := 1
  command := none
  tested := false
  loops := 0
  outputStatus := none
  halted := false
  optionIndex := 1
  optionOffset := none
  lastJob := none
  mask := 18
  ending := none
  files := files
  clock := 0
  sources := []
  kept := []
  jobs := []
  lastId := 4242
  signals := []
  blocked := false
  deadline := deadline
  budget := budget

end Machine
end Conformance.Shell
