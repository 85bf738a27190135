import Conformance.Shell.Tool.Content

/-!
# Orders

The programs `sort`, `uniq` and `comm`. Lines are compared by keys, which are parts of them, one key
after the other.
-/

namespace Conformance.Shell.Tool

/-! ## Keys -/

/-- How keys are compared. -/
structure KeyStyle where
  skipsFront : Bool
  skipsBack : Bool
  numeric : Bool
  general : Bool
  human : Bool
  month : Bool
  version : Bool
  fold : Bool
  dictionary : Bool
  reverse : Bool
  deriving DecidableEq, Repr

/-- The style without any setting. -/
def KeyStyle.none : KeyStyle := ⟨false, false, false, false, false, false, false, false, false, false⟩

/-- A style with the setting of a letter; `back` says whether the letter stands behind the end of a
    key. -/
def KeyStyle.set (s : KeyStyle) (back : Bool) (c : Char) : KeyStyle :=
  match c with
  | 'b' => if back then { s with skipsBack := true } else { s with skipsFront := true }
  | 'n' => { s with numeric := true }
  | 'g' => { s with general := true }
  | 'h' => { s with human := true }
  | 'M' => { s with month := true }
  | 'V' => { s with version := true }
  | 'f' => { s with fold := true }
  | 'd' => { s with dictionary := true }
  | 'r' => { s with reverse := true }
  | _ => s

/-- A key: the field and the octet in it where the key begins, and those where it ends. -/
structure Key where
  field : Nat
  octet : Nat
  lastField : Option Nat
  lastOctet : Nat
  style : KeyStyle

/-- A field and an octet in it at the front of a key, with the letters that follow. -/
def keyPlace? (bs : Bytes) : Option (Nat × Nat × Bytes × Bytes) :=
  let field := bs.takeWhile isDigitByte
  let rest := bs.drop field.length
  let (octet, rest) : Bytes × Bytes :=
    match rest with
    | b :: more =>
      if b = ascii '.' then (more.takeWhile isDigitByte, more.dropWhile isDigitByte) else ([], rest)
    | [] => ([], [])
  let letters := rest.takeWhile fun b => (charOf b).isAlpha
  if field.isEmpty || decimal field = 0 then none
  else some (decimal field, decimal octet, letters, rest.drop letters.length)

/-- Reads a key. A key without letters of its own has the style of the program. -/
def Key.read? (common : KeyStyle) (bs : Bytes) : Option Key := do
  let (field, octet, letters, rest) ← keyPlace? bs
  let own := letters.foldl (fun s b => s.set false (charOf b)) KeyStyle.none
  match rest with
  | [] =>
    return ⟨field - 1, octet - 1, Option.none, 0, if letters.isEmpty then common else own⟩
  | b :: more =>
    if b != ascii ',' then Option.none
    else
      let (last, lastOctet, backs, rest) ← keyPlace? more
      if !rest.isEmpty then Option.none
      else
        let own := backs.foldl (fun s b => s.set true (charOf b)) own
        let isBare := letters.isEmpty && backs.isEmpty
        return ⟨field - 1, octet - 1, some last, lastOctet, if isBare then common else own⟩

/-- A line after a number of fields. -/
def afterFields (separator : Option UInt8) : Nat → Bytes → Bytes
  | 0, bs => bs
  | n + 1, bs =>
    match separator with
    | some s => afterFields separator n ((bs.dropWhile (· != s)).drop 1)
    | Option.none => afterFields separator n ((bs.dropWhile isBlankByte).dropWhile (!isBlankByte ·))

/-- The length of a line up to the end of a number of fields. -/
def lengthOfFields (separator : Option UInt8) (n : Nat) (bs : Bytes) : Nat :=
  match separator, n with
  | some s, n + 1 =>
    let rest := afterFields separator n bs
    bs.length - (rest.dropWhile (· != s)).length
  | _, n => bs.length - (afterFields separator n bs).length

/-- The part of a line that a key stands for. -/
def Key.part (k : Key) (separator : Option UInt8) (bs : Bytes) : Bytes :=
  let opened := afterFields separator k.field bs
  let opened := if k.style.skipsFront then opened.dropWhile isBlankByte else opened
  let start := bs.length - (opened.drop k.octet).length
  let finish :=
    match k.lastField with
    | Option.none => bs.length
    | some last =>
      if k.lastOctet = 0 then lengthOfFields separator last bs
      else
        let rest := afterFields separator (last - 1) bs
        let rest := if k.style.skipsBack then rest.dropWhile isBlankByte else rest
        min bs.length (bs.length - rest.length + k.lastOctet)
  (bs.take finish).drop start

/-- The number at the front of a key, as an integer of units and the places of the unit. -/
def leadingNumber (bs : Bytes) : Int × Nat × Bytes :=
  let bs := bs.dropWhile isBlankByte
  let (negative, rest) : Bool × Bytes :=
    match bs with
    | b :: rest => if b = ascii '-' then (true, rest) else (false, bs)
    | [] => (false, [])
  let whole := rest.takeWhile isDigitByte
  let rest := rest.drop whole.length
  let (fraction, rest) : Bytes × Bytes :=
    match rest with
    | b :: more =>
      if b = ascii '.' then (more.takeWhile isDigitByte, more.dropWhile isDigitByte) else ([], rest)
    | [] => ([], [])
  let n : Int := decimal (whole ++ fraction)
  (if negative then -n else n, fraction.length, rest)

/-- The order of two numbers in units. -/
def compareUnits (a : Int × Nat) (b : Int × Nat) : Ordering :=
  Ord.compare (a.1 * (Nat.pow 10 b.2 : Nat)) (b.1 * (Nat.pow 10 a.2 : Nat))

/-- The rank of the unit behind a number that is told for humans. -/
def unitRank (bs : Bytes) : Nat :=
  match bs with
  | b :: _ => (['K', 'M', 'G', 'T', 'P', 'E'].idxOf? (charOf (upperByte b))).elim 0 (· + 1)
  | [] => 0

/-- The number of the month that a key names; none comes before all. -/
def monthRank (bs : Bytes) : Nat :=
  let name := ((bs.dropWhile isBlankByte).take 3).map upperByte
  (["JAN", "FEB", "MAR", "APR", "MAY", "JUN", "JUL", "AUG", "SEP", "OCT", "NOV",
    "DEC"].idxOf? (text name)).elim 0 (· + 1)

/-- The order of names that hold numbers of versions. `fuel` bounds their length. -/
def compareVersions : (fuel : Nat) → Bytes → Bytes → Ordering
  | 0, a, b => Path.compareOctets a b
  | fuel + 1, a, b =>
    let (x, y) := (a.takeWhile (!isDigitByte ·), b.takeWhile (!isDigitByte ·))
    match Path.compareOctets x y with
    | .eq =>
      let (a, b) := (a.drop x.length, b.drop y.length)
      if a.isEmpty || b.isEmpty then Ord.compare a.length b.length
      else
        match Ord.compare (decimal (a.takeWhile isDigitByte)) (decimal (b.takeWhile isDigitByte)) with
        | .eq => compareVersions fuel (a.dropWhile isDigitByte) (b.dropWhile isDigitByte)
        | o => o
    | o => o

/-- The order of two keys in a style. -/
def KeyStyle.compare (s : KeyStyle) (a b : Bytes) : Ordering :=
  let order :=
    if s.numeric then
      let (x, y) := (leadingNumber a, leadingNumber b)
      compareUnits (x.1, x.2.1) (y.1, y.2.1)
    else if s.general then
      let (x, y) := (leadingNumber a, leadingNumber b)
      compareUnits (x.1, x.2.1) (y.1, y.2.1)
    else if s.human then
      let (x, y) := (leadingNumber a, leadingNumber b)
      match Ord.compare (unitRank x.2.2) (unitRank y.2.2) with
      | .eq => compareUnits (x.1, x.2.1) (y.1, y.2.1)
      | o => o
    else if s.month then Ord.compare (monthRank a) (monthRank b)
    else if s.version then compareVersions (a.length + 1) a b
    else
      let clean (bs : Bytes) : Bytes :=
        let bs := if s.dictionary then bs.filter fun b => (charOf b).isAlphanum || isBlankByte b
          else bs
        if s.fold then bs.map upperByte else bs
      Path.compareOctets (clean a) (clean b)
  if s.reverse then order.swap else order

/-- The order of two lines by keys. -/
def compareByKeys (separator : Option UInt8) (a b : Bytes) : List Key → Ordering
  | [] => .eq
  | k :: ks =>
    match k.style.compare (k.part separator a) (k.part separator b) with
    | .eq => compareByKeys separator a b ks
    | o => o

/-! ## Sorting -/

/-- Elements with the first one of those that follow each other and are alike. -/
def firstOfEqual (same : Bytes → Bytes → Bool) : Option Bytes → List Bytes → List Bytes
  | _, [] => []
  | before, l :: ls =>
    if before.any fun b => same b l then firstOfEqual same before ls
    else l :: firstOfEqual same (some l) ls

/-- The place of the first line that does not follow the line before it. -/
def firstDisorder? (follows : Bytes → Bytes → Bool) : Nat → Bytes → List Bytes → Option (Nat × Bytes)
  | _, _, [] => Option.none
  | n, before, l :: ls =>
    if follows before l then firstDisorder? follows (n + 1) l ls else some (n, l)

/-- The program `sort`. -/
def sort (m : Machine) (args : List Bytes) : Machine :=
  let u := (usage "bcCdfghimMnrRsuVz" "koStT").withLong
    [("key", 'k'), ("field-separator", 't'), ("output", 'o'), ("unique", 'u'), ("reverse", 'r'),
     ("numeric-sort", 'n'), ("stable", 's'), ("ignore-case", 'f'), ("check", 'c'),
     ("ignore-leading-blanks", 'b'), ("general-numeric-sort", 'g'), ("human-numeric-sort", 'h'),
     ("version-sort", 'V'), ("month-sort", 'M'), ("dictionary-order", 'd')]
  withArguments m "sort" u 2 args fun a =>
    let common := a.options.foldl (fun s o => s.set false o.1) KeyStyle.none
    let common := { common with skipsBack := common.skipsFront }
    match (a.values 'k').mapM (Key.read? common) with
    | Option.none => fail m "sort" "invalid field specification" 2
    | some keys =>
      let separator : Option UInt8 :=
        (a.value? 't').bind fun bs => if bs = octets "\\0" then some 0 else bs.head?
      let keys := if keys.isEmpty then [⟨0, 0, Option.none, 0, common⟩] else keys
      let byKeys (x y : Bytes) : Ordering := compareByKeys separator x y keys
      let order (x y : Bytes) : Ordering :=
        match byKeys x y with
        | .eq =>
          if a.has 's' || a.has 'u' then .eq
          else if a.has 'r' then (Path.compareOctets x y).swap
          else Path.compareOctets x y
        | o => o
      let operands := orInput a.operands
      let (parts, m, ok) := operands.foldl
        (fun (acc : List (List Bytes) × Machine × Bool) operand =>
          let (parts, m, ok) := acc
          if !ok then acc
          else
            match contentFor m operand with
            | (.ok bs, m) => (lines bs :: parts, m, ok)
            | (.error e, m) =>
              let what := if e = "Is a directory" then "read failed" else "cannot read"
              (parts, m.warn ("sort: " ++ what ++ ": " ++ text operand ++ ": " ++ e), false))
        ([], m, true)
      let all := parts.reverse.flatten
      if !ok then m.withStatus 2
      else if a.has 'c' || a.has 'C' then
        let follows (x y : Bytes) : Bool :=
          if a.has 'u' then byKeys x y = .lt else order x y != .gt
        match all with
        | [] => m.withStatus 0
        | l :: ls =>
          match firstDisorder? follows 2 l ls with
          | Option.none => m.withStatus 0
          | some (n, l) =>
            let name := (operands.head?.map text).getD "-"
            let m := if a.has 'C' then m
              else m.warn ("sort: " ++ name ++ ":" ++ toString n ++ ": disorder: " ++ text l)
            m.withStatus 1
      else
        let sorted := all.mergeSort fun x y => order x y != .gt
        let kept :=
          if a.has 'u' then firstOfEqual (fun x y => byKeys x y = .eq) Option.none sorted
          else sorted
        let out := kept.flatMap line
        match a.value? 'o' with
        | Option.none => (m.print out).withStatus 0
        | some path =>
          match m.files.write path false out with
          | .ok files => { m with files := files }.withStatus 0
          | .error e => fail m "sort" ("open failed: " ++ text path ++ ": " ++ reason e) 2

/-! ## Lines that follow each other -/

/-- Groups of lines that follow each other and are alike, as their first lines and their sizes.
    `open?` is the group that is not finished. -/
def groupsOf (same : Bytes → Bytes → Bool) : (open? : Option (Bytes × List Bytes)) → List Bytes →
    List (Bytes × List Bytes)
  | Option.none, [] => []
  | some g, [] => [(g.1, g.2.reverse)]
  | Option.none, l :: ls => groupsOf same (some (l, [l])) ls
  | some g, l :: ls =>
    if same g.1 l then groupsOf same (some (g.1, l :: g.2)) ls
    else (g.1, g.2.reverse) :: groupsOf same (some (l, [l])) ls

/-- The program `uniq`. -/
def uniq (m : Machine) (args : List Bytes) : Machine :=
  let u := (usage "cdDiuz" "fsw").withLong
    [("count", 'c'), ("repeated", 'd'), ("all-repeated", 'D'), ("ignore-case", 'i'),
     ("unique", 'u'), ("skip-fields", 'f'), ("skip-chars", 's'), ("check-chars", 'w')]
  withArguments m "uniq" u 1 args fun a =>
    let size (c : Char) : Nat := ((a.value? c).bind natural?).getD 0
    let key (l : Bytes) : Bytes :=
      let rest := (afterFields Option.none (size 'f') l).drop (size 's')
      let rest := if a.has 'w' then rest.take (size 'w') else rest
      if a.has 'i' then rest.map lowerByte else rest
    let (input, output) : List Bytes × Option Bytes :=
      match a.operands with
      | [] => ([], Option.none)
      | [i] => ([i], Option.none)
      | i :: o :: _ => ([i], some o)
    match joined m "uniq" input with
    | (bs, m, ok) =>
      if !ok then m.withStatus 1
      else
        let groups := groupsOf (fun x y => key x = key y) Option.none (lines bs)
        let kept := groups.filter fun g =>
          if a.has 'd' || a.has 'D' then 1 < g.2.length && !a.has 'u'
          else if a.has 'u' then g.2.length = 1
          else true
        let shown (g : Bytes × List Bytes) : Bytes :=
          if a.has 'D' then g.2.flatMap line
          else if a.has 'c' then
            line (rightAligned 7 (number g.2.length) ++ ascii ' ' :: g.1)
          else line g.1
        let out := kept.flatMap shown
        match output with
        | Option.none => (m.print out).withStatus 0
        | some path =>
          match m.files.write path false out with
          | .ok files => { m with files := files }.withStatus 0
          | .error e => fail m "uniq" (text path ++ ": " ++ reason e) 1

/-- Lines of two sorted contents with the column that each belongs to. `fuel` bounds their number. -/
def merged : (fuel : Nat) → List Bytes → List Bytes → List (Nat × Bytes)
  | 0, _, _ => []
  | _, [], bs => bs.map fun b => (2, b)
  | _, as, [] => as.map fun a => (1, a)
  | fuel + 1, a :: as, b :: bs =>
    match Path.compareOctets a b with
    | .lt => (1, a) :: merged fuel as (b :: bs)
    | .gt => (2, b) :: merged fuel (a :: as) bs
    | .eq => (3, a) :: merged fuel as bs

/-- The program `comm`. -/
def comm (m : Machine) (args : List Bytes) : Machine :=
  let u := (usage "123z" "O").withLong [("output-delimiter", 'O')]
  withArguments m "comm" u 1 args fun a =>
    match a.operands with
    | [x, y] =>
      match joined m "comm" [x] with
      | (xs, m, true) =>
        match joined m "comm" [y] with
        | (ys, m, true) =>
          let (xs, ys) := (lines xs, lines ys)
          let separator := (a.value? 'O').getD [0x09]
          let hides (column : Nat) : Bool := a.has (Char.ofNat (48 + column))
          let indent (column : Nat) : Bytes :=
            ((List.range column).filter fun c => c != 0 && !hides c).flatMap fun _ => separator
          let out := (merged (xs.length + ys.length + 1) xs ys).flatMap fun (column, l) =>
            if hides column then [] else line (indent column ++ l)
          (m.print out).withStatus 0
        | (_, m, _) => m.withStatus 1
      | (_, m, _) => m.withStatus 1
    | [] => lacking m "comm" 1
    | [x] => misused m "comm" ("missing operand after '" ++ text x ++ "'") 1
    | _ => excess m "comm" (a.operands[2]?.getD []) 1

end Conformance.Shell.Tool
