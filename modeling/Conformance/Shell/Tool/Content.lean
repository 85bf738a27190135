import Conformance.Shell.Tool.Arguments

/-!
# Parts of contents

Programs that show contents or parts of them: `cat`, `head`, `tail`, `tac`, `rev`, `nl`, `fold`, `wc`
and `tee`.
-/

namespace Conformance.Shell.Tool

/-- A number in a field of a width, filled with blanks at its left. -/
def rightAligned (width : Nat) (bs : Bytes) : Bytes :=
  List.replicate (width - bs.length) (ascii ' ') ++ bs

/-- The lines of a content with their line feeds; the last one may have none. `line` holds the open
    line, last octet first, and `done` the finished ones, last first. -/
def recordsOnto (done : List Bytes) (line : Bytes) : Bytes → List Bytes
  | [] => (if line.isEmpty then done else line.reverse :: done).reverse
  | b :: bs =>
    if b = 0x0A then recordsOnto ((b :: line).reverse :: done) [] bs
    else recordsOnto done (b :: line) bs

/-- The lines of a content with their line feeds; the last one may have none. -/
def records (content : Bytes) : List Bytes := recordsOnto [] [] content

/-- An octet as it is shown if it cannot be printed. -/
def visible (tabs : Bool) (b : UInt8) : Bytes :=
  let low (b : UInt8) : Bytes :=
    if b < 0x20 then [ascii '^', b + 0x40] else if b = 0x7F then octets "^?" else [b]
  if b = 0x0A then [b]
  else if b = 0x09 then if tabs then octets "^I" else [b]
  else if 0x80 ≤ b then octets "M-" ++ low (b - 0x80)
  else low b

/-! ## Showing contents -/

/-- How `cat` shows lines. -/
structure CatStyle where
  numbers : Bool
  numbersFilled : Bool
  squeezes : Bool
  ends : Bool
  tabs : Bool
  controls : Bool

/-- Shows lines. The number of the last line that was numbered and whether the line before was empty
    go from content to content. -/
def CatStyle.show (s : CatStyle) (count : Nat) (empty : Bool) (out : List Bytes) :
    List Bytes → List Bytes × Nat × Bool
  | [] => (out.reverse, count, empty)
  | r :: rest =>
    let isEmpty := r = [0x0A]
    if s.squeezes && isEmpty && empty then s.show count empty out rest
    else
      let numbered := if s.numbersFilled then !isEmpty else s.numbers
      let count := if numbered then count + 1 else count
      let front := if numbered then rightAligned 6 (number count) ++ [0x09] else []
      let hasFeed := r.getLast? = some 0x0A
      let body := if hasFeed then r.dropLast else r
      let body :=
        if s.controls then body.flatMap (visible s.tabs)
        else if s.tabs then body.flatMap fun b => if b = 0x09 then octets "^I" else [b]
        else body
      let tail := (if s.ends && hasFeed then [ascii '$'] else []) ++ (if hasFeed then [0x0A] else [])
      s.show count isEmpty ((front ++ body ++ tail) :: out) rest

/-- The program `cat`. -/
def cat (m : Machine) (args : List Bytes) : Machine :=
  let u := (usage "AbeEnstTuv" "").withLong
    [("show-all", 'A'), ("number-nonblank", 'b'), ("show-ends", 'E'), ("number", 'n'),
     ("squeeze-blank", 's'), ("show-tabs", 'T'), ("show-nonprinting", 'v')]
  withArguments m "cat" u 1 args fun a =>
    let any (cs : List Char) : Bool := cs.any a.has
    let style : CatStyle :=
      { numbers := a.has 'n', numbersFilled := a.has 'b', squeezes := a.has 's'
        ends := any ['e', 'E', 'A'], tabs := any ['t', 'T', 'A'], controls := any ['v', 'e', 't', 'A'] }
    let isPlain := a.options.all (·.1 = 'u')
    let (m, ok, _) := (orInput a.operands).foldl
      (fun (acc : Machine × Bool × Nat × Bool) operand =>
        let (m, ok, count, empty) := acc
        match contentFor m operand with
        | (.error e, m) => (m.warn ("cat: " ++ text operand ++ ": " ++ e), false, count, empty)
        | (.ok bs, m) =>
          if isPlain then (m.print bs, ok, count, empty)
          else
            let (shown, count, empty) := style.show count empty [] (records bs)
            (m.print shown.flatten, ok, count, empty))
      (m, true, 0, false)
    m.withTest ok

/-! ## Fronts and ends -/

/-- A count with a unit, such as `2k`. -/
def count? (bs : Bytes) : Option Nat :=
  let digits := bs.takeWhile isDigitByte
  let unit? : Option Nat :=
    match text (bs.drop digits.length) with
    | "" => some 1
    | "b" => some 512
    | "k" | "K" | "KiB" => some 1024
    | "kB" | "KB" => some 1000
    | "M" | "MiB" => some 1048576
    | "MB" => some 1000000
    | "G" => some 1073741824
    | _ => none
  if digits.isEmpty then none else unit?.map (decimal digits * ·)

/-- A part of a content. -/
inductive Part where
  | first (n : Nat)
  | butFirst (n : Nat)
  | last (n : Nat)
  | butLast (n : Nat)
  deriving DecidableEq, Repr

/-- The part of pieces. -/
def Part.take (p : Part) {α : Type} (pieces : List α) : List α :=
  match p with
  | .first n => pieces.take n
  | .butFirst n => pieces.drop n
  | .last n => pieces.drop (pieces.length - n)
  | .butLast n => pieces.take (pieces.length - n)

/-- The arguments with an old count such as `-3` or `+3` at the front as an option. -/
def modernCount (signs : List Char) (args : List Bytes) : List Bytes :=
  match args with
  | (s :: digits) :: rest =>
    let number := digits.takeWhile isDigitByte
    let unit := digits.drop number.length
    if isIn s signs && !number.isEmpty && (unit.isEmpty || unit = octets "c" || unit = octets "l") then
      octets (if unit = octets "c" then "-c" else "-n")
        :: (if s = ascii '+' then s :: number else number) :: rest
    else args
  | _ => args

/-- The part that a count asks for. -/
def partOf? (fromEnd : Bool) (value : Bytes) : Option Part :=
  match value with
  | s :: rest =>
    if s = ascii '-' then (count? rest).map fun n => if fromEnd then .last n else .butLast n
    else if s = ascii '+' then
      (count? rest).map fun n => if fromEnd then .butFirst (n - 1) else .first n
    else (count? value).map fun n => if fromEnd then .last n else .first n
  | [] => none

/-- The content of a device without end is as long as is asked for. -/
def endless? (m : Machine) (path : Bytes) (p : Part) : Option Bytes :=
  match node? m path, p with
  | some .zeros, .first n => some (List.replicate n 0)
  | _, _ => none

/-- The programs `head` and `tail`. -/
def ends (fromEnd : Bool) (m : Machine) (args : List Bytes) : Machine :=
  let tool := if fromEnd then "tail" else "head"
  let args := modernCount (if fromEnd then ['-', '+'] else ['-']) args
  let u := (usage "qvzfF" "nc").withLong
    [("lines", 'n'), ("bytes", 'c'), ("quiet", 'q'), ("silent", 'q'), ("verbose", 'v')]
  withArguments m tool u 1 args fun a =>
    let byOctets := a.last? ['n', 'c'] = some 'c'
    let value := (a.value? (if byOctets then 'c' else 'n')).getD (octets "10")
    match partOf? fromEnd value with
    | none =>
      let what := if byOctets then "bytes" else "lines"
      fail m tool ("invalid number of " ++ what ++ ": '" ++ text value ++ "'") 1
    | some p =>
      let operands := orInput a.operands
      let titled := a.last? ['q', 'v'] != some 'q' && (a.has 'v' || 1 < operands.length)
      let take (bs : Bytes) : Bytes := if byOctets then p.take bs else (p.take (records bs)).flatten
      let (m, ok, _) := operands.foldl
        (fun (acc : Machine × Bool × Bool) operand =>
          let (m, ok, begun) := acc
          let source := if operand = octets "-" then m.readable? 0 else none
          let found : Except String Bytes × Machine :=
            match endless? m operand p with
            | some bs => (.ok bs, m)
            | none => contentFor m operand
          match found with
          | (.error e, m) =>
            let message :=
              if e = "Is a directory" then "error reading '" ++ text operand ++ "': " ++ e
              else "cannot open '" ++ text operand ++ "' for reading: " ++ e
            (m.warn (tool ++ ": " ++ message), false, begun)
          | (.ok bs, m) =>
            let shown := take bs
            let m :=
              match source with
              | some s =>
                if s.seekable && !fromEnd then m.leave 0 (bs.drop shown.length) else m
              | none => m
            let name := if operand = octets "-" then octets "standard input" else operand
            let title :=
              if titled then
                (if begun then [0x0A] else []) ++ line (octets "==> " ++ name ++ octets " <==")
              else []
            (m.print (title ++ shown), ok, true))
        (m, true, false)
      if a.has 'f' || a.has 'F' then { m with budget := 0 } else m.withTest ok

/-! ## Other orders -/

/-- The program `tac`. -/
def tac (m : Machine) (args : List Bytes) : Machine :=
  withArguments m "tac" (usage "b" "") 1 args fun a =>
    let (parts, m, ok) := contents m "tac" a.operands
    (m.print (parts.reverse.flatMap fun p => (records p.2).reverse.flatten)).withTest ok

/-- The program `rev`. -/
def rev (m : Machine) (args : List Bytes) : Machine :=
  withArguments m "rev" (usage "" "") 1 args fun a =>
    let (bs, m, ok) := joined m "rev" a.operands
    let turned (r : Bytes) : Bytes :=
      if r.getLast? = some 0x0A then line r.dropLast.reverse else r.reverse
    (m.print ((records bs).flatMap turned)).withTest ok

/-- The program `nl`. -/
def nl (m : Machine) (args : List Bytes) : Machine :=
  let u := (usage "p" "bdfhilnsvw").withLong
    [("body-numbering", 'b'), ("number-width", 'w'), ("number-separator", 's'),
     ("number-format", 'n'), ("starting-line-number", 'v'), ("line-increment", 'i')]
  withArguments m "nl" u 1 args fun a =>
    let (bs, m, ok) := joined m "nl" a.operands
    let size (letter : Char) (default : Int) : Int :=
      ((a.value? letter).bind integer?).getD default
    let width := (size 'w' 6).toNat
    let separator := (a.value? 's').getD [0x09]
    let style := text ((a.value? 'b').getD (octets "t"))
    let numbered (l : Bytes) : Bool := style = "a" || (style = "t" && !l.isEmpty)
    let shown (n : Int) : Bytes :=
      let digits := integer n
      match text ((a.value? 'n').getD (octets "rn")) with
      | "ln" => digits ++ List.replicate (width - digits.length) (ascii ' ')
      | "rz" => List.replicate (width - digits.length) (ascii '0') ++ digits
      | _ => rightAligned width digits
    let (out, _) := (lines bs).foldl
      (fun (acc : List Bytes × Int) l =>
        let (out, n) := acc
        if numbered l then (line (shown n ++ separator ++ l) :: out, n + size 'i' 1)
        else
          (line (List.replicate (width + separator.length) (ascii ' ') ++ l) :: out, n))
      ([], size 'v' 1)
    (m.print out.reverse.flatten).withTest ok

/-- The pieces of a line that are at most as wide as asked for. With `atBlanks`, lines are cut after
    blanks if there are any. `fuel` bounds the length. -/
def folds (width : Nat) (atBlanks : Bool) : (fuel : Nat) → Bytes → List Bytes
  | 0, bs => [bs]
  | fuel + 1, bs =>
    if bs.length ≤ width then [bs]
    else
      let front := bs.take width
      let kept := if atBlanks then trimEnd (!isBlankByte ·) front else front
      let kept := if kept.isEmpty then front else kept
      kept :: folds width atBlanks fuel (bs.drop kept.length)

/-- The program `fold`. -/
def fold (m : Machine) (args : List Bytes) : Machine :=
  let args :=
    match args with
    | (s :: digits) :: rest =>
      if s = ascii '-' && !digits.isEmpty && digits.all isDigitByte then
        octets "-w" :: digits :: rest
      else args
    | _ => args
  let u := (usage "bs" "w").withLong [("width", 'w'), ("spaces", 's'), ("bytes", 'b')]
  withArguments m "fold" u 1 args fun a =>
    let (bs, m, ok) := joined m "fold" a.operands
    match natural? ((a.value? 'w').getD (octets "80")) with
    | none | some 0 => fail m "fold" "invalid number of columns" 1
    | some width =>
      let shown (r : Bytes) : Bytes :=
        let hasFeed := r.getLast? = some 0x0A
        let body := if hasFeed then r.dropLast else r
        let pieces := folds width (a.has 's') (body.length + 1) body
        [0x0A].intercalate pieces ++ (if hasFeed then [0x0A] else [])
      (m.print ((records bs).flatMap shown)).withTest ok

/-! ## Counting and copying -/

/-- The program `wc`. -/
def wc (m : Machine) (args : List Bytes) : Machine :=
  let u := (usage "clmwL" "").withLong
    [("lines", 'l'), ("words", 'w'), ("bytes", 'c'), ("chars", 'm'), ("max-line-length", 'L')]
  withArguments m "wc" u 1 args fun a =>
    let operands := orInput a.operands
    let isRegular := operands.all fun o =>
      if o = octets "-" then (m.readable? 0).any (·.seekable)
      else match node? m o with | some (.file ..) | none => true | _ => false
    let letters := ['l', 'w', 'm', 'c', 'L'].filter fun c =>
      if a.options.isEmpty then c = 'l' || c = 'w' || c = 'c' else a.has c
    let longest (bs : Bytes) : Nat := (lines bs).foldl (fun n l => max n l.length) 0
    let counts (bs : Bytes) : List Nat :=
      letters.map fun c =>
        match c with
        | 'l' => bs.count 0x0A
        | 'w' => (wordsOf bs).length
        | 'L' => longest bs
        | _ => bs.length
    let (rows, m, ok) := operands.foldl
      (fun (acc : List (Bytes × List Nat × Nat) × Machine × Bool) operand =>
        let (rows, m, ok) := acc
        match contentFor m operand with
        | (.ok bs, m) => ((operand, counts bs, bs.length) :: rows, m, ok)
        | (.error e, m) =>
          let m := m.warn ("wc: " ++ text operand ++ ": " ++ e)
          (if e = "Is a directory" then ((operand, counts [], 0) :: rows, m, false)
            else (rows, m, false)))
      ([], m, true)
    let rows := rows.reverse
    let size := rows.foldl (fun n r => n + r.2.2) 0
    let width :=
      if operands.length = 1 && letters.length = 1 then 1
      else if isRegular then (toString size).length
      else max 7 (toString size).length
    let row (name : Bytes) (counts : List Nat) : Bytes :=
      let shown := (octets " ").intercalate (counts.map fun n => rightAligned width (number n))
      line (if name.isEmpty then shown else shown ++ ascii ' ' :: name)
    let all := rows.flatMap fun r => row (if a.operands.isEmpty then [] else r.1) r.2.1
    let sums := rows.foldl
      (fun sums r => (sums.zip r.2.1).map fun p => if a.has 'L' then max p.1 p.2 else p.1 + p.2)
      (letters.map fun _ => 0)
    let total := if 1 < operands.length then row (octets "total") sums else []
    (m.print (all ++ total)).withTest ok

/-- The program `tee`. -/
def tee (m : Machine) (args : List Bytes) : Machine :=
  let u := (usage "aip" "").withLong [("append", 'a'), ("ignore-interrupts", 'i')]
  withArguments m "tee" u 1 args fun a =>
    let (bs, m) := m.takeInput
    let m := (m.print bs).withStatus 0
    a.operands.foldl
      (fun m path =>
        match streamOf? path with
        | some n => m.emit n bs
        | none =>
          match m.files.write path (a.has 'a') bs with
          | .ok files => { m with files := files }
          | .error e => fail m "tee" (text path ++ ": " ++ reason e) 1)
      m

end Conformance.Shell.Tool
