import Conformance.Shell.Tool.Content
import Conformance.Shell.Tool.Sed.Script

/-!
# Editing lines

The program `sed`. One line after the other is taken into the pattern space and the instructions are
carried out on it; then the pattern space is printed, unless printing was turned off. A second space holds
text from line to line.
-/

namespace Conformance.Shell.Tool.Sed

/-- What is printed after a line is done with. -/
inductive Queued where
  | text (bs : Bytes)
  | file (path : Bytes)

/-- The state of editing. -/
structure Editing where
  machine : Machine
  pattern : Bytes
  held : Bytes
  /-- Whether the line that was read last ends with a line feed. -/
  fed : Bool
  number : Nat
  input : List Bytes
  queue : List Queued
  /-- Whether a line feed is due before anything more is printed. -/
  owes : Bool
  substituted : Bool
  /-- The ranges that are open, by the numbers of their instructions, with the line that ends them; zero
      if no number does. -/
  ranges : List (Nat × Nat)
  last : Option Regex
  /-- What was printed, last first. -/
  output : List Bytes
  name : Bytes

/-- How the work on a line ends. -/
inductive Ending where
  | done
  | deleted
  /-- The work begins again without reading a line. -/
  | restart
  | quit (status : Nat) (silent : Bool)
  | endless
  deriving DecidableEq, Repr

namespace Editing

/-- Adds to what is printed. -/
def put (e : Editing) (bs : Bytes) : Editing :=
  { e with output := bs :: (if e.owes then [0x0A] :: e.output else e.output), owes := false }

/-- Prints a line; the last line of the input has a line feed only if it was read with one. -/
def putLine (e : Editing) (bs : Bytes) : Editing :=
  if e.fed then e.put (line bs) else { e.put bs with owes := true }

/-- Whether no more lines follow. -/
def isLast (e : Editing) : Bool := e.input.isEmpty

/-- Prints what waits for the end of a line. -/
def flush (e : Editing) : Editing :=
  let e := e.queue.reverse.foldl
    (fun (e : Editing) q =>
      match q with
      | .text bs => e.put bs
      | .file path =>
        match contentFor e.machine path with
        | (.ok bs, m) => if bs.isEmpty then { e with machine := m } else { e with machine := m }.put bs
        | (.error _, m) => { e with machine := m })
    e
  { e with queue := [] }

/-- Takes the next line; `join` says whether it is added to the pattern space. -/
def take (e : Editing) (join : Bool) : Editing :=
  match e.input with
  | [] => e
  | r :: rest =>
    let fed := r.getLast? = some 0x0A
    let body := if fed then r.dropLast else r
    { e with pattern := if join then e.pattern ++ 0x0A :: body else body
             fed := fed, number := e.number + 1, input := rest }

/-- Whether an expression is found in the pattern space. -/
def finds (e : Editing) (s : Search) : Bool × Editing :=
  match s.regex.or e.last with
  | none => (false, e)
  | some r => ((Regex.search? ⟨e.pattern.toArray, s.inner⟩ r 0).isSome, { e with last := some r })

/-- Whether an address selects the line. -/
def meets (e : Editing) (a : Address) : Bool × Editing :=
  match a with
  | .line n => (e.number = n, e)
  | .every first step =>
    (if step = 0 then e.number = first
      else first ≤ e.number && (e.number - first) % step = 0, e)
  | .last => (e.isLast, e)
  | .search s => e.finds s

/-- The machine with a range opened until a line, or closed. -/
def setRange (e : Editing) (i : Nat) (until? : Option Nat) : Editing :=
  let others := e.ranges.filter (·.1 ≠ i)
  { e with ranges := match until? with | some n => (i, n) :: others | none => others }

/-- Whether a range is open. -/
def isOpen (e : Editing) (i : Nat) : Bool := e.ranges.any (·.1 = i)

/-- Whether an instruction is for the line. -/
def selects (e : Editing) (i : Nat) (s : Selector) : Bool × Editing :=
  match s with
  | .all => (true, e)
  | .one a => e.meets a
  | .range a finish =>
    let inside (e : Editing) (n : Nat) : Bool × Editing :=
      match finish with
      | .search s =>
        let (found, e) := e.finds s
        (true, if found then e.setRange i none else e)
      | .last => (true, if e.isLast then e.setRange i none else e)
      | _ => (e.number ≤ n, if n ≤ e.number then e.setRange i none else e)
    match e.ranges.find? (·.1 = i) with
    | some (_, n) => inside e n
    | none =>
      if a = .line 0 then
        if e.number = 1 then inside (e.setRange i (some 0)) 0 else (false, e)
      else
        let (begins, e) := e.meets a
        if !begins then (false, e)
        else
          let until? : Option Nat :=
            match finish with
            | .line n => if n ≤ e.number then none else some n
            | .after n => if n = 0 then none else some (e.number + n)
            | .multiple n =>
              if n = 0 then none else some ((e.number / n + 1) * n)
            | .last => if e.isLast then none else some 0
            | .search _ => some 0
          (true, e.setRange i until?)

/-- Writes to a file, or to the output if the path names it. -/
def writeTo (e : Editing) (path bs : Bytes) : Editing :=
  if path = octets "/dev/stdout" then e.put bs
  else if path = octets "/dev/stderr" then { e with machine := e.machine.emit 2 bs }
  else
    match e.machine.files.write path true bs with
    | .ok files => { e with machine := { e.machine with files := files } }
    | .error _ => e

end Editing

/-! ## Replacing -/

/-- An octet with the letters changed that are to be changed. -/
def cased (mode next : Casing) (b : UInt8) : UInt8 :=
  match next, mode with
  | .upperNext, _ => upperByte b
  | .lowerNext, _ => lowerByte b
  | _, .upper => upperByte b
  | _, .lower => lowerByte b
  | _, _ => b

/-- What a replacement puts in the place of a match. -/
def replacement (t : Regex.Subject) (f : Regex.Found) (ps : List Part) : Bytes :=
  let add (acc : Bytes × Casing × Casing) (b : UInt8) : Bytes × Casing × Casing :=
    (cased acc.2.1 acc.2.2 b :: acc.1, acc.2.1, .plain)
  (ps.foldl
    (fun (acc : Bytes × Casing × Casing) p =>
      match p with
      | .octet b => add acc b
      | .group n => (f.group t n).foldl add acc
      | .casing c =>
        match c with
        | .upperNext | .lowerNext => (acc.1, acc.2.1, c)
        | c => (acc.1, c, .plain))
    ([], .plain, .plain)).1.reverse

/-- Replaces matches from a position on. `done` counts the matches before, `ended` is where the last
    one ends, and `acc` holds the pieces before, last first. `fuel` bounds the number of matches. -/
def substituteFrom (t : Regex.Subject) (r : Regex) (s : Substitution) :
    (fuel : Nat) → (i done : Nat) → (ended : Option Nat) → (acc : List Bytes) → List Bytes × Bool
  | 0, i, _, _, acc => (t.part i t.octets.size :: acc, false)
  | fuel + 1, i, done, ended, acc =>
    let size := t.octets.size
    match if i ≤ size then Regex.search? t r i else none with
    | none => (t.part i size :: acc, false)
    | some f =>
      let before := t.part i f.start
      if f.start = f.finish && ended = some f.start then
        if size ≤ f.start then (t.part i size :: acc, false)
        else substituteFrom t r s fuel (f.start + 1) done none (t.part i (f.start + 1) :: acc)
      else
        let counts := s.number ≤ done + 1
        let own := if counts then replacement t f s.parts else t.part f.start f.finish
        let acc := own :: before :: acc
        if counts && !s.all then (t.part f.finish size :: acc, true)
        else if f.start = f.finish then
          if size ≤ f.start then (acc, counts)
          else
            let (acc, more) := substituteFrom t r s fuel (f.start + 1) (done + 1) none
              (t.part f.start (f.start + 1) :: acc)
            (acc, more || counts)
        else
          let (acc, more) := substituteFrom t r s fuel f.finish (done + 1) (some f.finish) acc
          (acc, more || counts)

/-- Carries out a replacement. -/
def Editing.substitute (e : Editing) (s : Substitution) : Editing :=
  match s.search.regex.or e.last with
  | none => e
  | some r =>
    let t : Regex.Subject := ⟨e.pattern.toArray, s.search.inner⟩
    let (pieces, any) := substituteFrom t r s (t.octets.size + 2) 0 0 none []
    let e := { e with last := some r }
    if !any then e
    else
      let e := { e with pattern := pieces.reverse.flatten, substituted := true }
      let e := if s.prints then e.putLine e.pattern else e
      match s.path with
      | some path => e.writeTo path (line e.pattern)
      | none => e

/-! ## Carrying out -/

/-- An octet as it is shown without doubt. -/
def shownOctet (b : UInt8) : Bytes :=
  match charOf b with
  | '\\' => octets "\\\\"
  | '\n' => octets "\\n"
  | '\t' => octets "\\t"
  | '\r' => octets "\\r"
  | _ =>
    if b = 0x07 then octets "\\a"
    else if b = 0x08 then octets "\\b"
    else if b = 0x0B then octets "\\v"
    else if b = 0x0C then octets "\\f"
    else if 0x20 ≤ b && b < 0x7F then [b]
    else
      let digits := octets (String.ofList (Nat.toDigits 8 b.toNat))
      ascii '\\' :: List.replicate (3 - digits.length) (ascii '0') ++ digits

/-- Shown octets in lines of a width. `used` is the width of the open line. -/
def wrapped (width : Nat) : (used : Nat) → List Bytes → Bytes
  | _, [] => []
  | used, p :: ps =>
    if width - 1 < used + p.length then octets "\\\n" ++ p ++ wrapped width p.length ps
    else p ++ wrapped width (used + p.length) ps

/-- The place of the instruction that closes the group opened before a place. `depth` counts the groups
    that are open. -/
def closingFrom (is : Array Instruction) : (fuel depth i : Nat) → Nat
  | 0, _, i => i
  | fuel + 1, depth, i =>
    match (is[i]?).map Instruction.action with
    | none => i
    | some .opening => closingFrom is fuel (depth + 1) (i + 1)
    | some .closing => if depth = 0 then i else closingFrom is fuel (depth - 1) (i + 1)
    | some _ => closingFrom is fuel depth (i + 1)

/-- What belongs to a run and does not change. -/
structure Setting where
  instructions : Array Instruction
  quiet : Bool

/-- Carries out the instructions from a place on. `fuel` bounds their number. -/
def carryOut (s : Setting) : (fuel i : Nat) → Editing → Editing × Ending
  | 0, _, e => (e, .endless)
  | fuel + 1, i, e =>
    match s.instructions[i]? with
    | none => (e, .done)
    | some instruction =>
      let (selected, e) := e.selects i instruction.selector
      if selected = instruction.negated then
        match instruction.action with
        | .opening => carryOut s fuel (closingFrom s.instructions s.instructions.size 0 (i + 1)) e
        | _ => carryOut s fuel (i + 1) e
      else
        let go (e : Editing) : Editing × Ending := carryOut s fuel (i + 1) e
        let jump (name : Bytes) (e : Editing) : Editing × Ending :=
          if name.isEmpty then (e, .done)
          else
            match s.instructions.findIdx? fun j => j.action = .label name with
            | some j => carryOut s fuel j e
            | none => (e, .done)
        let first := e.pattern.takeWhile (· != 0x0A)
        match instruction.action with
        | .opening | .closing | .label _ | .nothing => go e
        | .jump .always name => jump name e
        | .jump .substituted name =>
          if e.substituted then jump name { e with substituted := false } else go e
        | .jump .unsubstituted name =>
          if e.substituted then go { e with substituted := false } else jump name e
        | .substitute sub => go (e.substitute sub)
        | .translate pairs =>
          go { e with pattern := e.pattern.map fun b =>
            ((pairs.find? (·.1 = b)).map (·.2)).getD b }
        | .append bs => go { e with queue := .text bs :: e.queue }
        | .insert bs => go (e.put bs)
        | .change bs =>
          let inRange := e.isOpen i && !instruction.negated
          (if inRange then e else e.put bs, .deleted)
        | .delete => (e, .deleted)
        | .deleteFirst =>
          if e.pattern.contains 0x0A then
            ({ e with pattern := e.pattern.drop (first.length + 1) }, .restart)
          else (e, .deleted)
        | .print => go (e.putLine e.pattern)
        | .printFirst => go (e.put (line first))
        | .next =>
          if e.isLast then (e, .done)
          else
            let e := if s.quiet then e else e.putLine e.pattern
            go (e.flush.take false)
        | .join => if e.isLast then (e, .done) else go (e.flush.take true)
        | .hold => go { e with held := e.pattern }
        | .holdMore => go { e with held := e.held ++ 0x0A :: e.pattern }
        | .recall => go { e with pattern := e.held }
        | .recallMore => go { e with pattern := e.pattern ++ 0x0A :: e.held }
        | .exchange => go { e with pattern := e.held, held := e.pattern }
        | .quit status silent => (e, .quit status silent)
        | .readFile path => go { e with queue := .file path :: e.queue }
        | .writeFile path onlyFirst => go (e.writeTo path (line (if onlyFirst then first else e.pattern)))
        | .number => go (e.put (line (number e.number)))
        | .show => go (e.put (line (wrapped 70 0 (e.pattern.map shownOctet) ++ octets "$")))
        | .clear => go { e with pattern := [] }
        | .name => go (e.put (line e.name))

/-- How many instructions may be carried out for one line. -/
def stepLimit : Nat := 100000

/-- Works on all lines. The result tells how the work ended. With `again`, no new line is read. -/
def editAll (s : Setting) : (fuel : Nat) → (again : Bool) → Editing → Editing × Ending
  | 0, _, e => (e, .endless)
  | fuel + 1, again, e =>
    if !again && e.isLast then (e, .done)
    else
      let e := if again then e else { e.take false with substituted := false }
      let (e, ending) := carryOut s stepLimit 0 e
      let shown (e : Editing) : Editing := if s.quiet then e else e.putLine e.pattern
      match ending with
      | .done => editAll s fuel false (shown e).flush
      | .deleted => editAll s fuel false e.flush
      | .restart => editAll s fuel true e.flush
      | .quit _ false => ((shown e).flush, ending)
      | .quit _ true | .endless => (e, ending)

/-- The work on a content. -/
def Editing.start (m : Machine) (name content : Bytes) : Editing :=
  { machine := m, pattern := [], held := [], fed := true, number := 0, input := records content
    queue := [], owes := false, substituted := false, ranges := [], last := none, output := []
    name := name }

/-- Works on a content. -/
def edit (s : Setting) (m : Machine) (name content : Bytes) : Editing × Ending :=
  let e := Editing.start m name content
  editAll s (4 * (content.length + 4)) false e

/-- Contents one after the other: a line feed that one of them lacks is put in. -/
def chained : List Bytes → Bytes
  | [] => []
  | [bs] => bs
  | bs :: rest =>
    if bs.isEmpty || bs.getLast? = some 0x0A then bs ++ chained rest
    else if (rest.all List.isEmpty) then bs
    else bs ++ 0x0A :: chained rest

end Sed

/-- The program `sed`. -/
def sed (m : Machine) (args : List Bytes) : Machine :=
  let args := args.map fun a =>
    if a.head? = some (ascii '-') && a.getLast? = some (ascii 'i')
        && a.tail.dropLast.all fun b => isIn b ['n', 'E', 'r', 's', 'u', 'z'] then
      a.dropLast ++ octets "I"
    else a
  let u := (usage "nErsuzI" "efil").withLong
    [("quiet", 'n'), ("silent", 'n'), ("expression", 'e'), ("file", 'f'), ("regexp-extended", 'E'),
     ("in-place", 'I'), ("separate", 's'), ("unbuffered", 'u'), ("posix", 'u')]
  withArguments m "sed" u 1 args fun a =>
    let pieces : List Bytes × Machine := a.options.foldl
      (fun acc o =>
        if o.1 = 'e' then (acc.1 ++ [o.2], acc.2)
        else if o.1 != 'f' then acc
        else
          match contentFor acc.2 o.2 with
          | (.ok bs, m) =>
            let bs := if (octets "#!").isPrefixOf bs then bs.dropWhile (· != 0x0A) else bs
            (acc.1 ++ [(octets "\n").intercalate (lines bs)], m)
          | (.error e, m) =>
            (acc.1, fail m "sed" ("couldn't open file " ++ text o.2 ++ ": " ++ e) 1))
      ([], m.withStatus 0)
    let m := pieces.2
    let (script, operands) : Option Bytes × List Bytes :=
      if a.has 'e' || a.has 'f' then (some ((octets "\n").intercalate pieces.1), a.operands)
      else
        match a.operands with
        | s :: rest => (some s, rest)
        | [] => (none, [])
    match script with
    | none => (m.warn "Usage: sed [OPTION]... \x7bscript-only-if-no-other-script\x7d [input-file]...").withStatus 1
    | some script =>
      let quiet := a.has 'n' || (octets "#n\n").isPrefixOf (script ++ [0x0A])
      match if m.status = 0 then Sed.read (a.has 'E' || a.has 'r') script else .error "" with
      | .error e => if e.isEmpty then m else fail m "sed" ("-e expression #1, char 0: " ++ e) 1
      | .ok (.error e) => fail m "sed" e 4
      | .ok (.ok is) =>
        let s : Sed.Setting := ⟨is.toArray, quiet⟩
        let paths := is.filterMap fun i =>
          match i.action with
          | .writeFile path _ => some path
          | .substitute sub => sub.path
          | _ => none
        let m := paths.foldl
          (fun m path =>
            if (streamOf? path).isSome then m
            else
              match m.files.write path false [] with
              | .ok files => { m with files := files }
              | .error _ => m)
          m
        let inPlace := a.has 'I' || a.has 'i'
        let finish (m : Machine) (e : Sed.Editing) (ending : Sed.Ending) (ok : Bool) : Machine :=
          let m := e.output.reverse.foldl Machine.print m
          match ending with
          | .quit status _ => m.withStatus (if status = 0 && !ok then 2 else status)
          | .endless => { m with budget := 0 }
          | _ => m.withStatus (if ok then 0 else 2)
        let unread (m : Machine) (path : Bytes) (e : String) : Machine :=
          if e = "Is a directory" then
            m.warn (if inPlace then "sed: couldn't edit " ++ text path ++ ": not a regular file"
              else "sed: read error on " ++ text path ++ ": " ++ e)
          else m.warn ("sed: can't read " ++ text path ++ ": " ++ e)
        if inPlace || a.has 's' then
          (if inPlace then operands else orInput operands).foldl
            (fun m path =>
              match contentFor m path with
              | (.error e, m) => (unread m path e).withStatus (if inPlace then 4 else 2)
              | (.ok bs, m) =>
                let before := m.status
                let (e, ending) := Sed.edit s m path bs
                if !inPlace then finish e.machine e ending (before = 0)
                else
                  let m := e.machine
                  let rest := match ending with | .quit .. => e.input.flatten | _ => []
                  let new := e.output.reverse.flatten ++ rest
                  let backup := (a.value? 'i').getD ((a.value? 'I').getD [])
                  let files := if backup.isEmpty then m.files
                    else ((m.files.write (path ++ backup) false bs).toOption).getD m.files
                  match files.write path false new with
                  | .ok files =>
                    let m := { m with files := files }
                    match ending with
                    | .quit status _ => m.withStatus status
                    | .endless => { m with budget := 0 }
                    | _ => m.withStatus before
                  | .error e => fail m "sed" (reason e) 4)
            m
        else
          let (found, m, ok) := (orInput operands).foldl
            (fun (acc : List Bytes × Machine × Bool) path =>
              let (found, m, ok) := acc
              match contentFor m path with
              | (.ok bs, m) => (bs :: found, m, ok)
              | (.error e, m) => (found, unread m path e, false))
            ([], m, true)
          let (e, ending) := Sed.edit s m (octets "-") (Sed.chained found.reverse)
          finish e.machine e ending ok

end Conformance.Shell.Tool
