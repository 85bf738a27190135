import Std.Data.HashMap
import Conformance.Pattern.Outline

/-!
# Counting the states of a machine

The machine of an outline is counted here without being built: how many states it has, and how many
octets they take. States are numbered in the order in which they are added.

A state takes 32 octets. A state that branches on intervals of octets takes 8 more for each, and a
fork 4 more for each way. Parts are joined by links: the link from a fork is one more way.

A set of characters is read octet by octet, and states of a set are shared where this is seen at once:
tables that remember the states are small, and what falls on the same place of a table is forgotten.
So the count depends on the numbers of the states.
-/

namespace Conformance.Pattern

/-- How much of a machine there is. -/
structure Machine where
  states : Nat
  memory : Nat
  deriving DecidableEq, Repr

namespace Machine

/-- The directions in which a machine reads. Groups are marked forwards only. -/
inductive Direction where
  | forward | backward
  deriving DecidableEq, Repr

/-- The largest memory that is accepted. Counting ends when it is exceeded. -/
def limit : Nat := 10485760

/-- Whether the limit is exceeded. -/
def full (m : Machine) : Bool := limit < m.memory

/-- The size of a state. -/
def stateSize : Nat := 32

/-- The size of a branch on an interval of octets. -/
def branchSize : Nat := 8

/-- The size of a way of a fork. -/
def waySize : Nat := 4

/-- The machine with a state that takes some octets more. -/
def add (m : Machine) (more : Nat) : Machine := ⟨m.states + 1, m.memory + stateSize + more⟩

/-- The machine with several states. -/
def addMany (m : Machine) (count : Nat) : Machine :=
  ⟨m.states + count, m.memory + stateSize * count⟩

/-- The machine with some ways more. -/
def addWays (m : Machine) (count : Nat) : Machine := { m with memory := m.memory + waySize * count }

/-- The machine with a link from the end of a part, which may be a fork. -/
def link (m : Machine) (fork : Bool) : Machine := if fork then m.addWays 1 else m

/-! ## Tables -/

/-- A table with few places: a key and what it stands for at each place in use. -/
abbrev Table (α : Type) := Std.HashMap Nat (α × Nat)

/-- One step of a hash. -/
def mix (h : UInt64) (n : Nat) : UInt64 := (h ^^^ n.toUInt64) * 1099511628211

/-- The start of a hash. -/
def mixStart : UInt64 := 14695981039346656037

/-- What a table knows of a key at a place. -/
def Table.find? {α : Type} [DecidableEq α] (t : Table α) (place : Nat) (key : α) : Option Nat :=
  match t[place]? with
  | some (k, value) => if k = key then some value else none
  | none => none

/-! ## Sets forwards

Products are added in order. The states on the way to the last product are open, as the next product
may begin like it. Those it does not share are closed, from the last one on: a closed state is looked
up among the known ones first. -/

/-- A branch of a state: an interval and the number of the next state. -/
abbrev Branch := Interval × Nat

/-- An open state: its closed branches, last first, and its open branch. -/
structure OpenState where
  closed : List Branch
  last : Option Interval
  deriving DecidableEq, Repr

/-- The branches of an open state whose open branch leads to a state. -/
def OpenState.close (s : OpenState) (next : Nat) : List Branch :=
  match s.last with
  | some i => (i, next) :: s.closed
  | none => s.closed

/-- A set that is being added: the machine, the known states with their branches, and the open
    states, deepest first. -/
structure Weaving where
  machine : Machine
  known : Table (List Branch)
  states : List OpenState

/-- The number of places for known states. -/
def knownPlaces : Nat := 10000

/-- The place of a state with branches, told last first. -/
def placeOf (branches : List Branch) : Nat :=
  let hash := branches.foldr
    (fun b h => mix (mix (mix h b.1.low) b.1.high) b.2) mixStart
  hash.toNat % knownPlaces

/-- Looks a state up, or adds it: its number, and what is known then. -/
def closeState (m : Machine) (known : Table (List Branch)) (branches : List Branch) :
    Nat × Machine × Table (List Branch) :=
  let place := placeOf branches
  match known.find? place branches with
  | some number => (number, m, known)
  | none =>
    (m.states, m.add (branchSize * branches.length), known.insert place (branches, m.states))

/-- Closes the given number of open states; the open branch of the next one leads to the last of
    them. `next` is where the open branch of the deepest one leads. -/
def closeStates : (count next : Nat) → Weaving → Weaving
  | 0, next, w =>
    match w.states with
    | [] => w
    | s :: rest => { w with states := ⟨s.close next, none⟩ :: rest }
  | count + 1, next, w =>
    match w.states with
    | [] => w
    | s :: rest =>
      let (number, m, known) := closeState w.machine w.known (s.close next)
      closeStates count number ⟨m, known, rest⟩

/-- How many intervals of a product are the open branches of states, told from the first one. -/
def sharedFront : List Interval → List OpenState → Nat
  | i :: is, s :: ss => if s.last = some i then sharedFront is ss + 1 else 0
  | _, _ => 0

/-- Adds a product. `target` is the number of the state after the set. -/
def weave (target : Nat) (w : Weaving) (product : List Interval) : Weaving :=
  let front := sharedFront product w.states.reverse
  let w := closeStates (w.states.length - 1 - front) target w
  match w.states, product.drop front with
  | s :: rest, i :: is =>
    let deeper := is.reverse.map fun i => ⟨[], some i⟩
    { w with states := deeper ++ { s with last := some i } :: rest }
  | _, _ => w

/-- The machine with a set that is not ASCII, read forwards. -/
def addSetForward (products : List (List Interval)) (m : Machine) : Machine :=
  let target := m.states
  let w := products.foldl (weave target) ⟨m.add 0, {}, [⟨[], none⟩]⟩
  let w := closeStates (w.states.length - 1) target w
  match w.states with
  | s :: _ => (closeState w.machine w.known s.closed).2.1
  | [] => w.machine

/-! ## Sets backwards

Every product is a way of a fork. Its intervals are states in a row; a state with the same interval
that leads to the same state is looked up first. -/

/-- The number of places for states that are looked up. -/
def rowPlaces : Nat := 1000

/-- The place of a state on an interval that leads to a state. -/
def rowPlace (next : Nat) (i : Interval) : Nat :=
  (mix (mix (mix mixStart next) i.low) i.high).toNat % rowPlaces

/-- Adds the states of a product; `number` is the state that the next one leads to. -/
def addRow (m : Machine) (known : Table (Nat × Interval)) (number : Nat) :
    List Interval → Machine × Table (Nat × Interval)
  | [] => (m, known)
  | i :: is =>
    let place := rowPlace number i
    match known.find? place (number, i) with
    | some next => addRow m known next is
    | none => addRow (m.add 0) (known.insert place ((number, i), m.states)) m.states is

/-- The machine with a set that is not ASCII, read backwards. -/
def addSetBackward (products : List (List Interval)) (m : Machine) : Machine :=
  let finish := m.states + 1
  (products.foldl
    (fun (acc : Machine × Table (Nat × Interval)) product =>
      let (m, known) := addRow acc.1 acc.2 finish product
      (m.addWays 1, known))
    (m.addMany 2, {})).1

/-- The machine with a set. -/
def addSet (d : Direction) (s : CharSet) (products : List (List Interval)) (m : Machine) :
    Machine :=
  if s.isAscii then (m.add 0).add (branchSize * s.ranges.length)
  else
    match d with
    | .forward => addSetForward products m
    | .backward => addSetBackward products m

/-! ## Words

A choice between words only is read by a tree. A node of the tree lists its branches up to a word that
ends there, then those up to the next one, and so on. -/

/-- Whether an outline is a literal. -/
def isLiteral : Outline → Bool
  | .literal _ => true
  | _ => false

/-- The octets of a literal. -/
def literalOctets : Outline → List Nat
  | .literal octets => octets
  | _ => []

/-- Puts a rest behind its first octet in a list of octets with their rests. -/
def file (octet : Nat) (rest : List Nat) :
    List (Nat × List (List Nat)) → List (Nat × List (List Nat))
  | [] => [(octet, [rest])]
  | (o, rests) :: more =>
    if o = octet then (o, rest :: rests) :: more else (o, rests) :: file octet rest more

/-- The branches of a node, in sections that are parted by words that end at the node. The open
    section is the last one; rests are told last first. -/
structure Sections where
  closed : List (List (Nat × List (List Nat)))
  current : List (Nat × List (List Nat))

/-- The sections with one more word. A word that ends at a node without branches counts once. -/
def Sections.put (s : Sections) : List Nat → Sections
  | [] =>
    if s.current.isEmpty && !s.closed.isEmpty && s.closed.all (·.isEmpty) then s
    else ⟨s.current :: s.closed, []⟩
  | octet :: rest => { s with current := file octet rest s.current }

/-- The machine with the nodes of a tree of words. A node without branches is the end of the tree.
    `depth` bounds the length of the words. -/
def addNode : (depth : Nat) → List (List Nat) → Machine → Machine
  | 0, _, m => m
  | depth + 1, words, m =>
    let s := words.foldl Sections.put ⟨[], []⟩
    let sections := s.current :: s.closed
    let m := sections.foldl
      (fun (m : Machine) branches =>
        let m := branches.foldl (fun m b =>
          if b.2.all (·.isEmpty) then m else addNode depth b.2.reverse m) m
        match branches with
        | [] => m
        | [_] => (m.add 0).addWays 1
        | bs => (m.add (branchSize * bs.length)).addWays 1) m
    (m.add 0).addWays s.closed.length

/-- The machine with a choice between words. -/
def addWords (words : List (List Nat)) (m : Machine) : Machine :=
  let depth := words.foldl (fun n w => max n w.length) 0
  addNode (depth + 1) words (m.add 0)

/-! ## Outlines

A part is added to a machine; what is known of it then is whether its end is a fork. -/

/-- A way to add a part. -/
abbrev Adder := Machine → Bool × Machine

/-- Adds a part and then some copies of it. -/
def copiesAfter (part : Adder) : Nat → Bool × Machine → Bool × Machine
  | 0, r => r
  | n + 1, (fork, m) =>
    if m.full then (fork, m)
    else
      let (next, m) := part m
      copiesAfter part n (next, m.link fork)

/-- Adds a part a number of times. -/
def exactly (part : Adder) : Nat → Adder
  | 0, m => (false, m.add 0)
  | n + 1, m => copiesAfter part n (part m)

/-- Adds a part a number of times, each with a way past it. `fork` says what is before. -/
def optionals (part : Adder) : Nat → Bool × Machine → Bool × Machine
  | 0, r => r
  | n + 1, (fork, m) =>
    if m.full then (fork, m)
    else
      let (next, m) := part (m.add 0)
      optionals part n (next, (m.link fork).addWays 2)

/-- Adds a part with its repetitions. `nonempty` says whether the part never matches nothing. -/
def repetition (nonempty : Bool) (low : Nat) (high : Option Nat) (part : Adder) : Adder := fun m =>
  match high with
  | none =>
    if low = 0 then
      if nonempty then
        let (fork, m) := part (m.add 0)
        (true, (m.link fork).addWays 1)
      else
        let (fork, m) := part m
        (false, ((m.link fork).addMany 3).addWays 4)
    else if low = 1 then
      let (fork, m) := part m
      (true, ((m.add 0).link fork).addWays 1)
    else
      let (before, m) := exactly part (low - 1) m
      let (fork, m) := part m
      (true, (((m.add 0).link before).link fork).addWays 1)
  | some high =>
    if low = 0 ∧ high = 1 then
      let (fork, m) := part (m.add 0)
      (false, ((m.add 0).addWays 2).link fork)
    else if low = high then exactly part low m
    else
      let (before, m) := exactly part low m
      let (fork, m) := optionals part (high - low) (before, m.add 0)
      (false, m.link fork)

mutual

/-- Adds an outline. -/
def addOutline (d : Direction) : Outline → Adder
  | .empty, m => (false, m.add 0)
  | .literal octets, m => (false, m.addMany octets.length)
  | .set s products, m => (false, addSet d s products m)
  | .look _, m => (false, m.add 0)
  | .group e, m =>
    match d with
    | .backward => addOutline d e m
    | .forward =>
      let (fork, m) := addOutline d e (m.add 0)
      (false, (m.add 0).link fork)
  | .repeated low high e, m =>
    repetition (e.least.any (0 < ·)) low high (fun m => addOutline d e m) m
  | .concat es, m => addSequence d none es m
  | .choice es, m =>
    if es.all isLiteral then (false, addWords (es.map literalOctets) m)
    else (false, addBranches d 0 es m)

/-- Adds outlines one after the other. `before` tells of the one before them. -/
def addSequence (d : Direction) (before : Option Bool) : List Outline → Adder
  | [], m =>
    match before with
    | some fork => (fork, m)
    | none => (false, m.add 0)
  | e :: es, m =>
    let (fork, m) := addOutline d e m
    addSequence d (some fork) es (m.link (before.getD false))

/-- Adds the branches of a choice. The fork and the end of the choice are added after the second
    branch. `count` is the number of branches before. -/
def addBranches (d : Direction) (count : Nat) : List Outline → Machine → Machine
  | [], m => m
  | e :: es, m =>
    let (fork, m) := addOutline d e m
    let m := (m.link fork).addWays 1
    addBranches d (count + 1) es (if count = 1 then m.addMany 2 else m)

end

/-- The start of a machine: a loop over what is passed before a match, unless a match can only begin
    at the end of the text that is read first. -/
def start (anchored : Bool) : Machine :=
  let none : Machine := ⟨0, 0⟩
  if anchored then none.add 0 else ((none.addMany 2).add branchSize).addWays 2

/-- The size of the machine of an outline. The outline of a machine that reads backwards is read
    backwards as well. -/
def sizeOf (d : Direction) (e : Outline) : Nat :=
  match d with
  | .forward =>
    let (fork, m) := addOutline d e ((start (e.beginsWith .textStart)).add 0)
    (((m.add 0).link fork).add 0).memory
  | .backward =>
    let (fork, m) := addOutline d e (start (e.beginsWith .textEnd))
    ((m.add 0).link fork).memory

end Machine
end Conformance.Pattern
