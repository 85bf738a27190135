import Conformance.Shell.Glob
import Conformance.Shell.Tool.Content
import Conformance.Shell.Tool.Printing

/-!
# Columns and octets

Programs that take lines apart and put them together: `cut`, `paste`, and `tr`, which works on single
octets.
-/

namespace Conformance.Shell.Tool

/-! ## Lists of numbers -/

/-- A range of numbers from one on; without an end it goes on for ever. -/
structure Span where
  low : Nat
  high : Option Nat

/-- Whether a number lies in a range. -/
def Span.holds (s : Span) (n : Nat) : Bool := s.low ≤ n && s.high.all (n ≤ ·)

/-- The range that is written as `3`, `3-5`, `3-` or `-5`. -/
def Span.read? (bs : Bytes) : Option Span :=
  let low := bs.takeWhile isDigitByte
  match bs.drop low.length with
  | [] => (natural? low).bind fun n => if n = 0 then none else some ⟨n, some n⟩
  | b :: rest =>
    if b != ascii '-' || !rest.all isDigitByte || (low.isEmpty && rest.isEmpty) then none
    else
      let first := if low.isEmpty then 1 else decimal low
      let last := natural? rest
      if first = 0 || last.any (· < first) then none else some ⟨first, last⟩

/-- The ranges of a list. -/
def spans? (bs : Bytes) : Option (List Span) :=
  ((cutAt (fun b => b = ascii ',' || isBlankByte b) bs).filter (!·.isEmpty)).mapM Span.read?

/-- The pieces whose numbers lie in ranges, or outside of them. -/
def selected {α : Type} (complement : Bool) (spans : List Span) (pieces : List α) : List (Nat × α) :=
  let numbered := (List.range pieces.length).zip pieces
  numbered.filter fun p => (spans.any fun s => s.holds (p.1 + 1)) != complement

/-- Pieces joined, with a separator between those that do not follow each other. -/
def joinRuns (separator : Bytes) : Option Nat → List (Nat × UInt8) → Bytes
  | _, [] => []
  | before, (n, b) :: rest =>
    let gap := before.any fun k => k + 1 != n
    (if gap then separator else []) ++ b :: joinRuns separator (some n) rest

/-- The program `cut`. -/
def cut (m : Machine) (args : List Bytes) : Machine :=
  let u := (usage "snz" "bcfdO").withLong
    [("delimiter", 'd'), ("fields", 'f'), ("characters", 'c'), ("bytes", 'b'),
     ("only-delimited", 's'), ("output-delimiter", 'O'), ("complement", 'n')]
  withArguments m "cut" u 1 args fun a =>
    let complement := args.contains (octets "--complement")
    match a.last? ['b', 'c', 'f'] with
    | none =>
      misused m "cut" "you must specify a list of bytes, characters, or fields" 1
    | some kind =>
      match spans? ((a.value? kind).getD []), (a.value? 'd').getD [0x09] with
      | none, _ => misused m "cut" "invalid field value" 1
      | some [], _ => misused m "cut" "fields are numbered from 1" 1
      | some spans, delimiter =>
        if 1 < delimiter.length then misused m "cut" "the delimiter must be a single character" 1
        else
          let mark := delimiter.head?.getD 0
          let (bs, m, ok) := joined m "cut" a.operands
          let shown (l : Bytes) : List Bytes :=
            if kind != 'f' then
              [joinRuns ((a.value? 'O').getD []) none (selected complement spans l)]
            else if !l.contains mark then if a.has 's' then [] else [l]
            else
              let fields := (selected complement spans (cutAt (· = mark) l)).map (·.2)
              [((a.value? 'O').getD [mark]).intercalate fields]
          (m.print ((lines bs).flatMap fun l => (shown l).flatMap line)).withTest ok

/-! ## Pasting -/

/-- The separators that are used one after the other; each is one octet or none. -/
def separatorsOf : (fuel : Nat) → Bytes → List Bytes
  | 0, _ => []
  | _, [] => []
  | fuel + 1, b :: bs =>
    if b = ascii '\\' then
      match bs with
      | c :: rest =>
        (if c = ascii '0' then [] else [(escape? c).getD c]) :: separatorsOf fuel rest
      | [] => [[b]]
    else [b] :: separatorsOf fuel bs

/-- Pieces joined by separators that are used in turn. -/
def joinTurns (separators : List Bytes) : Nat → List Bytes → Bytes
  | _, [] => []
  | _, [p] => p
  | i, p :: rest => p ++ (separators[i % separators.length]?).getD [] ++ joinTurns separators (i + 1) rest

/-- The rows of columns. `count` is their number. -/
def rowsOf (columns : List (List Bytes)) : (count : Nat) → List (List Bytes)
  | 0 => []
  | count + 1 =>
    columns.map (fun c => c.head?.getD []) :: rowsOf (columns.map List.tail) count

/-- The program `paste`. -/
def paste (m : Machine) (args : List Bytes) : Machine :=
  let u := (usage "sz" "d").withLong [("delimiters", 'd'), ("serial", 's')]
  withArguments m "paste" u 1 args fun a =>
    let list := (a.value? 'd').getD [0x09]
    let separators := separatorsOf (list.length + 1) list
    let separators := if separators.isEmpty then [[]] else separators
    let operands := orInput a.operands
    let shared := operands.filter (· = octets "-")
    let (input, m) : List Bytes × Machine :=
      if shared.isEmpty then ([], m)
      else
        let (bs, m) := m.takeInput
        (lines bs, m)
    let turn (i : Nat) : List Bytes :=
      ((List.range input.length).zip input).filterMap fun (n, l) =>
        if n % shared.length = i then some l else none
    let (columns, m, ok, _) := operands.foldl
      (fun (acc : List (List Bytes) × Machine × Bool × Nat) operand =>
        let (columns, m, ok, i) := acc
        if operand = octets "-" then
          let own := if a.has 's' then if i = 0 then input else [] else turn i
          (own :: columns, m, ok, i + 1)
        else
          match contentOf m operand with
          | (.ok bs, m) => (lines bs :: columns, m, ok, i)
          | (.error e, m) => (columns, m.warn ("paste: " ++ text operand ++ ": " ++ e), false, i))
      ([], m, true, 0)
    let columns := columns.reverse
    if !ok && !a.has 's' then m.withStatus 1
    else
      let rows :=
        if a.has 's' then columns
        else rowsOf columns (columns.foldl (fun n c => max n c.length) 0)
      (m.print (rows.flatMap fun r => line (joinTurns separators 0 r))).withTest ok

/-! ## Octet by octet -/

/-- All octets in order. -/
def allOctets : Bytes := (List.range 256).map Nat.toUInt8

/-- The octets of a range. -/
def between (low high : UInt8) : Bytes :=
  (List.range (high.toNat + 1 - low.toNat)).map fun i => low + i.toUInt8

/-- A member of a set of `tr`. -/
inductive SetPart where
  | octets (bs : Bytes)
  /-- An octet a number of times; without a number, as often as is needed. -/
  | repeated (b : UInt8) (count : Option Nat)

/-- The octet at the front of a set, and the rest. -/
def setOctet (b : UInt8) (bs : Bytes) : UInt8 × Bytes :=
  if b = ascii '\\' then
    match bs with
    | [] => (b, [])
    | c :: rest =>
      if ascii '0' ≤ c && c ≤ ascii '7' then
        let (n, rest) := octal 3 0 bs
        (n.toUInt8, rest)
      else (((escape? c).filter fun _ => c != ascii 'e').getD c, rest)
  else (b, bs)

/-- The parts of a set. `fuel` bounds its length. -/
def setParts : (fuel : Nat) → Bytes → Except String (List SetPart)
  | 0, _ => .ok []
  | _, [] => .ok []
  | fuel + 1, b :: bs =>
    let bracketed : Option (SetPart × Bytes) :=
      match bs with
      | c :: rest =>
        if b != ascii '[' then none
        else if c = ascii ':' || c = ascii '=' then
          match splitAtOnto [] [c, ascii ']'] rest with
          | some (name, after) =>
            if c = ascii ':' then
              (Glob.classRanges? name).map fun ranges =>
                (.octets (allOctets.filter fun o => ranges.any fun r => r.1 ≤ o && o ≤ r.2), after)
            else if name.length = 1 then some (.octets name, after)
            else none
          | none => none
        else
          let (o, rest) := setOctet c rest
          match rest with
          | star :: more =>
            if star != ascii '*' then none
            else
              let digits := more.takeWhile isDigitByte
              match more.drop digits.length with
              | close :: after =>
                if close = ascii ']' then
                  let count := if digits.head? = some (ascii '0') then (readDigits 8 0 0 digits).1
                    else decimal digits
                  some (.repeated o (if count = 0 then none else some count), after)
                else none
              | [] => none
          | [] => none
      | [] => none
    match bracketed with
    | some (p, after) => do return p :: (← setParts fuel after)
    | none =>
      let (low, rest) := setOctet b bs
      match rest with
      | dash :: h :: more =>
        if dash = ascii '-' then
          let (high, after) := setOctet h more
          if high < low then
            .error ("range-endpoints of '" ++ text [low, dash, high]
              ++ "' are in reverse collating sequence order")
          else do return .octets (between low high) :: (← setParts fuel after)
        else do return .octets [low] :: (← setParts fuel rest)
      | _ => do return .octets [low] :: (← setParts fuel rest)

/-- The octets of a set that is to be `size` long. -/
def setOctets (size : Nat) (parts : List SetPart) : Bytes :=
  let fixed := parts.foldl
    (fun n p => match p with | .octets bs => n + bs.length | .repeated _ c => n + c.getD 0) 0
  parts.flatMap fun p =>
    match p with
    | .octets bs => bs
    | .repeated b c => List.replicate (c.getD (size - fixed)) b

/-- Runs of an octet of a set become one octet. -/
def squeezed (holds : UInt8 → Bool) : Option UInt8 → Bytes → Bytes
  | _, [] => []
  | before, b :: bs =>
    if before = some b && holds b then squeezed holds before bs
    else b :: squeezed holds (some b) bs

/-- The program `tr`. -/
def tr (m : Machine) (args : List Bytes) : Machine :=
  let u := ((usage "cCdst" "").withLong
    [("complement", 'c'), ("delete", 'd'), ("squeeze-repeats", 's'), ("truncate-set1", 't')]).strict
  withArguments m "tr" u 1 args fun a =>
    let complement := a.has 'c' || a.has 'C'
    let deletes := a.has 'd'
    let squeezes := a.has 's'
    let parse (bs : Bytes) : Except String (List SetPart) := setParts (bs.length + 1) bs
    match a.operands with
    | [] => lacking m "tr" 1
    | first :: others =>
      match parse first, others.head?.map parse with
      | .error e, _ | _, some (.error e) => fail m "tr" e 1
      | .ok parts, second =>
        if 1 < others.length then excess m "tr" (others[1]?.getD []) 1
        else if second.isNone && !deletes && !squeezes then
          misused m "tr" ("missing operand after '" ++ text first ++ "'") 1
        else if second.isSome && deletes && !squeezes then
          excess m "tr" (others.head?.getD []) 1
        else
          let set := setOctets 0 parts
          let set := if complement then allOctets.filter (!set.contains ·) else set
          let (bs, m) := m.takeInput
          let table (bs : Bytes) : Array Bool :=
            bs.foldl (fun t b => t.setIfInBounds b.toNat true) (Array.replicate 256 false)
          let inFirst := table set
          let holds (t : Array Bool) (b : UInt8) : Bool := t[b.toNat]?.getD false
          match second with
          | some (.ok parts) =>
            let other := setOctets set.length parts
            if !deletes && other.isEmpty && !set.isEmpty then
              fail m "tr" "when not truncating set1, string2 must be non-empty" 1
            else
              let inSecond := table other
              let changed :=
                if deletes then bs.filter fun b => !holds inFirst b
                else
                  let pairs := if a.has 't' then set.zip other
                    else set.zip (other ++ List.replicate (set.length - other.length)
                      (other.getLast?.getD 0))
                  let become := pairs.foldl
                    (fun (t : Array UInt8) p => t.setIfInBounds p.1.toNat p.2) allOctets.toArray
                  bs.map fun b => become[b.toNat]?.getD b
              let out := if squeezes then squeezed (holds inSecond) none changed else changed
              (m.print out).withStatus 0
          | _ =>
            let kept := if deletes then bs.filter fun b => !holds inFirst b else bs
            let out := if squeezes && !deletes then squeezed (holds inFirst) none kept else kept
            (m.print out).withStatus 0

end Conformance.Shell.Tool
