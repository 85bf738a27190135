import Conformance.Shell.Tool.Content

/-!
# Differences

The programs `cmp` and `diff`. Two lists of lines are told apart by a longest common part: what lies
between its lines was taken out, put in or changed.
-/

namespace Conformance.Shell.Tool

/-- Where two contents differ first: the number of the octet, the number of its line, and the two
    octets; an octet is missing where a content ends. -/
def firstDifference : (octet line : Nat) → Bytes → Bytes →
    Option (Nat × Nat × Option UInt8 × Option UInt8)
  | _, _, [], [] => none
  | n, l, [], b :: _ => some (n, l, none, some b)
  | n, l, a :: _, [] => some (n, l, some a, none)
  | n, l, a :: as, b :: bs =>
    if a = b then firstDifference (n + 1) (if a = 0x0A then l + 1 else l) as bs
    else some (n, l, some a, some b)

/-- Two contents of a pair of operands; complaints are about operands that cannot be read. -/
def pairOf (m : Machine) (tool : String) (x y : Bytes) : Option (Bytes × Bytes) × Machine :=
  let read (m : Machine) (operand : Bytes) : Option Bytes × Machine :=
    match contentFor m operand with
    | (.ok bs, m) => (some bs, m)
    | (.error e, m) => (none, m.warn (tool ++ ": " ++ text operand ++ ": " ++ e))
  let (a, m) := read m x
  let (b, m) := if x = y && x = octets "-" then (a, m) else read m y
  match a, b with
  | some a, some b => (some (a, b), m)
  | _, _ => (none, m)

/-- The program `cmp`. -/
def cmp (m : Machine) (args : List Bytes) : Machine :=
  let u := (usage "bls" "in").withLong
    [("silent", 's'), ("quiet", 's'), ("verbose", 'l'), ("bytes", 'n'), ("ignore-initial", 'i')]
  withArguments m "cmp" u 2 args fun a =>
    match a.operands with
    | [] => misused m "cmp" "missing operand after 'cmp'" 2
    | x :: others =>
      let y := others.head?.getD (octets "-")
      match pairOf m "cmp" x y with
      | (none, m) => m.withStatus 2
      | (some (p, q), m) =>
        let skip := ((a.value? 'i').bind count?).getD 0
        let limit (bs : Bytes) : Bytes :=
          match (a.value? 'n').bind count? with
          | some n => (bs.drop skip).take n
          | none => bs.drop skip
        let (p, q) := (limit p, limit q)
        match firstDifference 1 1 p q with
        | none => m.withStatus 0
        | some (n, l, some _, some _) =>
          let m :=
            if a.has 's' then m
            else if a.has 'l' then
              let both := ((List.range (min p.length q.length)).zip (p.zip q)).filter
                fun d => d.2.1 != d.2.2
              let width := (toString (max p.length q.length)).length
              let octal (b : UInt8) : Bytes :=
                rightAligned 3 (octets (String.ofList (Nat.toDigits 8 b.toNat)))
              both.foldl
                (fun m d =>
                  m.print (line (rightAligned width (number (d.1 + 1)) ++ ascii ' ' :: octal d.2.1
                    ++ ascii ' ' :: octal d.2.2)))
                m
            else
              m.print (line (x ++ ascii ' ' :: y ++ octets (" differ: char " ++ toString n
                ++ ", line " ++ toString l)))
          m.withStatus 1
        | some (n, l, first, _) =>
          let name := if first.isNone then x else y
          let m :=
            if a.has 's' then m
            else if n = 1 then m.warn ("cmp: EOF on " ++ text name ++ " which is empty")
            else
              m.warn ("cmp: EOF on " ++ text name ++ " after byte " ++ toString (n - 1)
                ++ ", in line " ++ toString l)
          m.withStatus 1

/-! ## Lines -/

/-- One step on the way from a list to another: a line is kept, taken out or put in. -/
inductive Edit where
  | keep (l : Bytes)
  | drop (l : Bytes)
  | add (l : Bytes)
  deriving DecidableEq, Repr

/-- The lengths of the longest common parts of all ends of a list with all ends of another one, told
    for one more line in front of the first list. -/
def commonRow (same : Bytes → Bytes → Bool) (a : Bytes) : List Bytes → List Nat → List Nat
  | b :: bs, here :: below =>
    let row := commonRow same a bs below
    let next := below.head?.getD 0
    (if same a b then next + 1 else max here (row.head?.getD 0)) :: row
  | _, _ => [0]

/-- The rows of the lengths of longest common parts, for all ends of the first list. -/
def commonRows (same : Bytes → Bytes → Bool) (bs : List Bytes) : List Bytes → List (List Nat)
  | [] => [List.replicate (bs.length + 1) 0]
  | a :: as =>
    let rows := commonRows same bs as
    commonRow same a bs (rows.head?.getD []) :: rows

/-- The edits that lead from a list to another. `fuel` bounds their number. -/
def editsFrom (same : Bytes → Bytes → Bool) : (fuel : Nat) → List (List Nat) → List Bytes →
    List Bytes → List Edit
  | 0, _, _, _ => []
  | _, _, [], bs => bs.map .add
  | _, _, as, [] => as.map .drop
  | fuel + 1, rows, a :: as, b :: bs =>
    let below := rows.tail
    if same a b then .keep a :: editsFrom same fuel (below.map List.tail) as bs
    else
      let without := (below.head?.bind (·.head?)).getD 0
      let after := (rows.head?.bind (·[1]?)).getD 0
      if after ≤ without then .drop a :: editsFrom same fuel below as (b :: bs)
      else .add b :: editsFrom same fuel (rows.map List.tail) (a :: as) bs

/-- The edits that lead from a list to another. -/
def edits (same : Bytes → Bytes → Bool) (as bs : List Bytes) : List Edit :=
  let front := (as.zip bs).takeWhile fun p => same p.1 p.2
  let as := as.drop front.length
  let bs := bs.drop front.length
  let back := ((as.reverse.zip bs.reverse).takeWhile fun p => same p.1 p.2).reverse
  let as := as.take (as.length - back.length)
  let bs := bs.take (bs.length - back.length)
  front.map (fun p => Edit.keep p.1)
    ++ editsFrom same (as.length + bs.length + 1) (commonRows same bs as) as bs
    ++ back.map fun p => Edit.keep p.1

/-- A place where two lists differ: the number of lines before it in both, what was taken out, and
    what was put in. -/
structure Hunk where
  before : Nat × Nat
  dropped : List Bytes
  added : List Bytes

/-- The places where two lists differ. `open?` is the one that is not finished. -/
def hunks : (old new : Nat) → (open? : Option Hunk) → List Edit → List Hunk
  | _, _, open?, [] => open?.toList
  | i, j, open?, .keep _ :: es => open?.toList ++ hunks (i + 1) (j + 1) none es
  | i, j, open?, .drop l :: es =>
    let h := open?.getD ⟨(i, j), [], []⟩
    hunks (i + 1) j (some { h with dropped := h.dropped ++ [l] }) es
  | i, j, open?, .add l :: es =>
    let h := open?.getD ⟨(i, j), [], []⟩
    hunks i (j + 1) (some { h with added := h.added ++ [l] }) es

/-- A range of lines. -/
def rangeText (before count : Nat) : String :=
  if count = 0 then toString before
  else if count = 1 then toString (before + 1)
  else toString (before + 1) ++ "," ++ toString (before + count)

/-- Lines with a mark in front; a last line without a line feed is told so. -/
def marked (mark : String) (ls : List Bytes) : Bytes :=
  ls.flatMap fun l =>
    if l.getLast? = some 0x0A then octets mark ++ l
    else octets mark ++ line l ++ line (octets "\\ No newline at end of file")

/-- A place where two lists differ, as it is told. -/
def Hunk.shown (h : Hunk) : Bytes :=
  let (d, a) := (h.dropped.length, h.added.length)
  let letter := if d = 0 then "a" else if a = 0 then "d" else "c"
  line (octets (rangeText h.before.1 d ++ letter ++ rangeText h.before.2 a))
    ++ marked "< " h.dropped
    ++ (if d = 0 || a = 0 then [] else line (octets "---"))
    ++ marked "> " h.added

/-- The edits of a place with lines around it, as numbers of lines before it in both lists. With
    `context`, so many lines are shown around it. `kept` holds lines that may come in front, last one
    first. -/
def unified (context : Nat) : (i j : Nat) → (kept : List Bytes) →
    (open? : Option ((Nat × Nat) × List Edit × Nat)) → List Edit → List ((Nat × Nat) × List Edit)
  | _, _, _, none, [] => []
  | _, _, _, some (start, es, quiet), [] => [(start, (es.drop (quiet - context)).reverse)]
  | i, j, kept, none, .keep l :: rest => unified context (i + 1) (j + 1) ((l :: kept).take context) none rest
  | i, j, kept, none, e :: rest =>
    let front := kept.map Edit.keep
    let start := (i - kept.length, j - kept.length)
    match e with
    | .add _ => unified context i (j + 1) [] (some (start, e :: front, 0)) rest
    | _ => unified context (i + 1) j [] (some (start, e :: front, 0)) rest
  | i, j, _, some (start, es, quiet), .keep l :: rest =>
    if 2 * context ≤ quiet then
      (start, (es.drop (quiet - context)).reverse)
        :: unified context (i + 1) (j + 1)
          ((l :: es.filterMap fun e => match e with | .keep l => some l | _ => none).take context)
          none rest
    else unified context (i + 1) (j + 1) [] (some (start, .keep l :: es, quiet + 1)) rest
  | i, j, _, some (start, es, _), e :: rest =>
    match e with
    | .add _ => unified context i (j + 1) [] (some (start, e :: es, 0)) rest
    | _ => unified context (i + 1) j [] (some (start, e :: es, 0)) rest

/-- A place with the lines around it, as it is told. -/
def unifiedText (p : (Nat × Nat) × List Edit) : Bytes :=
  let old := (p.2.filter fun e => match e with | .add _ => false | _ => true).length
  let new := (p.2.filter fun e => match e with | .drop _ => false | _ => true).length
  let range (before count : Nat) : String :=
    if count = 1 then toString (before + 1)
    else toString (if count = 0 then before else before + 1) ++ "," ++ toString count
  line (octets ("@@ -" ++ range p.1.1 old ++ " +" ++ range p.1.2 new ++ " @@"))
    ++ p.2.flatMap fun e =>
      match e with
      | .keep l => marked " " [l]
      | .drop l => marked "-" [l]
      | .add l => marked "+" [l]

/-- The program `diff`. -/
def diff (m : Machine) (args : List Bytes) : Machine :=
  let u := (usage "abBcdeiNqrstuwy" "ULC").withLong
    [("brief", 'q'), ("report-identical-files", 's'), ("ignore-case", 'i'),
     ("ignore-all-space", 'w'), ("ignore-space-change", 'b'), ("ignore-blank-lines", 'B'),
     ("unified", 'u'), ("label", 'L'), ("recursive", 'r'), ("new-file", 'N')]
  withArguments m "diff" u 2 args fun a =>
    match a.operands with
    | [x, y] =>
      let inside (dir file : Bytes) : Bytes :=
        if node? m dir = some .directory && node? m file != some .directory then
          Path.entry dir (lastName file)
        else dir
      let (x, y) := (inside x y, inside y x)
      let absent (m : Machine) (p : Bytes) : Bool :=
        a.has 'N' && p != octets "-" && (node? m p).isNone
      let (old, new) := (if absent m x then octets "/dev/null" else x,
        if absent m y then octets "/dev/null" else y)
      match pairOf m "diff" old new with
      | (none, m) => m.withStatus 2
      | (some (p, q), m) =>
        let norm (l : Bytes) : Bytes :=
          let l := if a.has 'i' then l.map lowerByte else l
          if a.has 'w' then l.filter (!isSpaceByte ·)
          else if a.has 'b' then (octets " ").intercalate (cutAt isBlankByte (trimEnd isSpaceByte l)
            |>.filter (!·.isEmpty))
          else l
        let loose := a.has 'i' || a.has 'w' || a.has 'b'
        let same (k l : Bytes) : Bool := if loose then norm k = norm l else k = l
        let es := edits same (records p) (records q)
        let isBlank (e : Edit) : Bool :=
          match e with
          | .keep _ => true
          | .drop l | .add l => a.has 'B' && l.all isSpaceByte
        if es.all isBlank then
          (if a.has 's' then
            m.print (line (octets "Files " ++ x ++ octets " and " ++ y ++ octets " are identical"))
          else m).withStatus 0
        else if a.has 'q' then
          (m.print (line (octets "Files " ++ x ++ octets " and " ++ y ++ octets " differ"))).withStatus 1
        else if a.has 'u' || a.has 'U' then
          let context := ((a.value? 'U').bind natural?).getD 3
          let names := a.values 'L' ++ [x, y].drop (a.values 'L').length
          let head := (["--- ", "+++ "].zip names).flatMap fun n => line (octets n.1 ++ n.2)
          (m.print (head ++ (unified context 0 0 [] none es).flatMap unifiedText)).withStatus 1
        else (m.print ((hunks 0 0 none es).flatMap Hunk.shown)).withStatus 1
    | [] => misused m "diff" "missing operand after 'diff'" 2
    | [x] => misused m "diff" ("missing operand after '" ++ text x ++ "'") 2
    | _ => misused m "diff" ("extra operand '" ++ text (a.operands[2]?.getD []) ++ "'") 2

end Conformance.Shell.Tool
