import Conformance.Shell.Regex.Reader
import Conformance.Shell.Tool.Content

/-!
# Looking for lines

The program `grep`: lines are selected by expressions, one of which must match.
-/

namespace Conformance.Shell.Tool.Grep

/-- What lines are looked for. -/
structure Query where
  expressions : List Regex
  /-- Whether a match must be the whole line. -/
  whole : Bool
  /-- Whether a match must begin and end where words do. -/
  words : Bool
  /-- Whether lines without a match are selected. -/
  inverted : Bool

/-- The longest match of expressions at a position that passes a test on its end. -/
def longestAt (t : Regex.Subject) (rs : List Regex) (passes : Nat → Bool) (i : Nat) : Option Nat :=
  rs.foldl
    (fun best r =>
      (r.ends t ⟨i, []⟩).foldl
        (fun best s =>
          if !passes s.position then best
          else match best with | some b => some (max b s.position) | none => some s.position)
        best)
    none

/-- The first match of a query from a position on, looked for at `count` positions. -/
def Query.findFrom (q : Query) (t : Regex.Subject) (i : Nat) : (count : Nat) → Option (Nat × Nat)
  | 0 => none
  | count + 1 =>
    let size := t.octets.size
    let fits (finish : Nat) : Bool :=
      (!q.whole || (i = 0 && finish = size))
        && (!q.words || (!Regex.isWordBefore t i && !Regex.isWordAt t finish))
    match longestAt t q.expressions fits i with
    | some finish => some (i, finish)
    | none => if q.whole then none else q.findFrom t (i + 1) count

/-- The first match of a query from a position on. -/
def Query.find? (q : Query) (t : Regex.Subject) (i : Nat) : Option (Nat × Nat) :=
  q.findFrom t i (t.octets.size + 1 - i)

/-- Whether a line is selected. -/
def Query.selects (q : Query) (l : Bytes) : Bool := (q.find? (.of l) 0).isSome != q.inverted

/-- The matches in a line that are not empty, with their places. `fuel` bounds their number. -/
def Query.matches (q : Query) (t : Regex.Subject) : (fuel : Nat) → (i : Nat) → List (Nat × Bytes)
  | 0, _ => []
  | fuel + 1, i =>
    match q.find? t i with
    | none => []
    | some (a, b) =>
      if a = b then if b < t.octets.size then q.matches t fuel (b + 1) else []
      else (a, t.part a b) :: q.matches t fuel b

/-- The expression of a fixed text. -/
def fixedText (fold : Bool) (bs : Bytes) : Regex :=
  bs.foldl
    (fun r b =>
      let one := (Regex.Dialect.mk false fold false false).member false [(b, b)]
      if r = .empty then one else .sequence r one)
    .empty

/-- How selected lines are told. -/
structure Style where
  named : Bool
  numbered : Bool
  placed : Bool
  only : Bool
  before : Nat
  after : Nat
  /-- Whether parts that do not follow each other are told apart. -/
  apart : Bool
  limit : Option Nat

/-- What stands before a line: its file, its number and its place. -/
def Style.front (s : Style) (name : Bytes) (n place : Nat) (mark : Char) : Bytes :=
  (if s.named then name ++ [ascii mark] else [])
    ++ (if s.numbered then number n ++ [ascii mark] else [])
    ++ (if s.placed then number place ++ [ascii mark] else [])

/-- What goes from line to line: the number of the line and its place, the lines before that were not
    told, last one first, how many more lines are told, the number of the last line told, how many
    were selected, and the output, last first. -/
structure Progress where
  line : Nat
  place : Nat
  waiting : List (Nat × Nat × Bytes)
  trailing : Nat
  told : Option Nat
  selected : Nat
  output : List Bytes

/-- Goes on to the next line. -/
def Style.step (s : Style) (q : Query) (name : Bytes) (p : Progress) (l : Bytes) : Progress :=
  let n := p.line
  let next (p : Progress) : Progress := { p with line := n + 1, place := p.place + l.length + 1 }
  let isOpen := s.limit.all (p.selected < ·)
  if isOpen && q.selects l then
    let first := (p.waiting.getLast?.map (·.1)).getD n
    let gap := if s.apart && p.told.any (· + 1 < first) then [line (octets "--")] else []
    let context := p.waiting.map fun w => line (s.front name w.1 w.2.1 '-' ++ w.2.2)
    let own :=
      if s.only then
        if q.inverted then []
        else
          ((q.matches (.of l) (l.length + 1) 0).map fun w =>
            line (s.front name n (p.place + w.1) ':' ++ w.2)).reverse
      else [line (s.front name n p.place ':' ++ l)]
    let context := if s.only then [] else context
    next { p with waiting := [], trailing := s.after, told := some n, selected := p.selected + 1
                  output := own ++ context ++ gap ++ p.output }
  else if 0 < p.trailing then
    let own := if s.only then [] else [line (s.front name n p.place '-' ++ l)]
    next { p with trailing := p.trailing - 1, told := some n, output := own ++ p.output }
  else next { p with waiting := ((n, p.place, l) :: p.waiting).take s.before }

/-- The files below a directory. `fuel` bounds the depth. -/
def filesBelow (m : Machine) : (fuel : Nat) → Bytes → List Bytes
  | 0, _ => []
  | fuel + 1, path =>
    match node? m path with
    | some .directory =>
      match m.files.list path with
      | .error _ => []
      | .ok entries =>
        let names := (entries.map (·.name)).mergeSort fun a b => Path.compareOctets a b != .gt
        names.flatMap fun n =>
          let inner := if path = octets "." then n else Path.entry path n
          match entry? m inner with
          | some (_, .link _) => []
          | _ => filesBelow m fuel inner
    | some (.file ..) => [path]
    | _ => []

/-- The options of `grep`. -/
def options : Usage :=
  (usage "EFGPcvinylLoqsxwhHrRabzUT" "efmABCdD").withLong
    [("extended-regexp", 'E'), ("fixed-strings", 'F'), ("basic-regexp", 'G'), ("count", 'c'),
     ("invert-match", 'v'), ("ignore-case", 'i'), ("line-number", 'n'),
     ("files-with-matches", 'l'), ("files-without-match", 'L'), ("only-matching", 'o'),
     ("quiet", 'q'), ("silent", 'q'), ("no-messages", 's'), ("line-regexp", 'x'),
     ("word-regexp", 'w'), ("no-filename", 'h'), ("with-filename", 'H'), ("recursive", 'r'),
     ("regexp", 'e'), ("file", 'f'), ("max-count", 'm'), ("after-context", 'A'),
     ("before-context", 'B'), ("context", 'C'), ("text", 'a'), ("byte-offset", 'b'),
     ("color", 'T'), ("colour", 'T'), ("line-buffered", 'U'), ("include", 'd')]

/-- The expressions that the lines of a text are. -/
def expressionsOf (a : Arguments) (bs : Bytes) : Except String (List Regex) :=
  let fold := a.has 'i' || a.has 'y'
  let texts := cutAt (· = 0x0A) bs
  match a.last? ['E', 'F', 'G', 'P'] with
  | some 'F' => .ok (texts.map (fixedText fold))
  | kind =>
    let extended := kind = some 'E' || kind = some 'P'
    texts.mapM (Regex.read ⟨extended, fold, kind = some 'P', kind = some 'P'⟩)

/-- What is known after some files: whether a line was selected, and whether something failed. -/
structure Found where
  machine : Machine
  any : Bool
  failed : Bool

/-- Looks into a content. -/
def searchIn (a : Arguments) (q : Query) (s : Style) (f : Found) (name content : Bytes) : Found :=
  let all := lines content
  let start : Progress := ⟨1, 0, [], 0, none, 0, []⟩
  let p := all.foldl (fun p l => s.step q name p l) start
  let m := f.machine
  let isBinary := content.contains 0 && !a.has 'a'
  let m :=
    if a.has 'q' then m
    else if a.has 'l' then if p.selected = 0 then m else m.print (line name)
    else if a.has 'L' then if p.selected = 0 then m.print (line name) else m
    else if a.has 'c' then
      m.print (line ((if s.named then name ++ octets ":" else []) ++ number p.selected))
    else if isBinary then
      if p.selected = 0 then m else m.warn ("grep: " ++ text name ++ ": binary file matches")
    else p.output.reverse.foldl Machine.print m
  { f with machine := m, any := f.any || p.selected != 0 }

end Grep

/-- The program `grep`. -/
def grep (m : Machine) (args : List Bytes) : Machine :=
  let args := args.map fun a =>
    if 1 < a.length && a.head? = some (ascii '-') && a.tail.all isDigitByte then octets "-C" ++ a.tail
    else a
  match Grep.options.read args with
  | .error e =>
    ((m.warn ("grep: " ++ e)).warn "Usage: grep [OPTION]... PATTERNS [FILE]...").withStatus 2
  | .ok a =>
    let fromFiles : List Bytes × Machine := (a.values 'f').foldl
      (fun acc path =>
        match contentFor acc.2 path with
        | (.ok bs, m) => (acc.1 ++ (if bs.isEmpty then [] else [(octets "\n").intercalate (lines bs)]), m)
        | (.error e, m) => (acc.1, fail m "grep" (text path ++ ": " ++ e) 2))
      ([], m.withStatus 0)
    let m := fromFiles.2
    let given := a.values 'e' ++ fromFiles.1
    let isGiven := a.has 'e' || a.has 'f'
    let (texts, operands) : List Bytes × List Bytes :=
      if isGiven then (given, a.operands)
      else
        match a.operands with
        | t :: rest => ([t], rest)
        | [] => ([], [])
    if m.status != 0 then m
    else if !isGiven && a.operands.isEmpty then
      ((m.warn "Usage: grep [OPTION]... PATTERNS [FILE]...").warn
        "Try 'grep --help' for more information.").withStatus 2
    else
      match texts.mapM (Grep.expressionsOf a) with
      | .error e => fail m "grep" e 2
      | .ok rs =>
        let q : Grep.Query := ⟨rs.flatten, a.has 'x', a.has 'w', a.has 'v'⟩
        let recursive := a.has 'r' || a.has 'R'
        let operands := if operands.isEmpty && recursive then [octets "."] else orInput operands
        let size (c : Char) : Option Nat := ((a.value? c).or (a.value? 'C')).bind natural?
        let s : Grep.Style :=
          { named := a.last? ['h', 'H'] != some 'h'
              && (a.has 'H' || 1 < operands.length || recursive)
            numbered := a.has 'n', placed := a.has 'b', only := a.has 'o'
            before := (size 'B').getD 0, after := (size 'A').getD 0
            apart := a.has 'A' || a.has 'B' || a.has 'C'
            limit := (a.value? 'm').bind natural? }
        let paths := operands.flatMap fun o =>
          if recursive && o != octets "-" && node? m o = some .directory then
            Grep.filesBelow m (m.files.nodes.length + 1) o
          else [o]
        let f := paths.foldl
          (fun (f : Grep.Found) path =>
            if a.has 'q' && f.any then f
            else
              match contentFor f.machine path with
              | (.ok bs, m) =>
                let name := if path = octets "-" then octets "(standard input)" else path
                Grep.searchIn a q s { f with machine := m } name bs
              | (.error e, m) =>
                let m := if a.has 's' then m else m.warn ("grep: " ++ text path ++ ": " ++ e)
                { f with machine := m, failed := true })
          (⟨m, false, false⟩ : Grep.Found)
        if f.failed && !(a.has 'q' && f.any) then f.machine.withStatus 2 else f.machine.withTest f.any

end Conformance.Shell.Tool
