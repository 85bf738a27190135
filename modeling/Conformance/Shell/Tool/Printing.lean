import Conformance.Shell.Directive
import Conformance.Shell.Tool.Arguments

/-!
# Printing

The programs that print their arguments: `echo`, `printf` and `seq`.
-/

namespace Conformance.Shell.Tool

/-- The octet that up to `count` octal digits stand for, and the rest. -/
def octal : (count value : Nat) → Bytes → Nat × Bytes
  | 0, value, bs => (value, bs)
  | count + 1, value, bs =>
    match bs with
    | b :: rest =>
      if ascii '0' ≤ b && b ≤ ascii '7' then octal count (value * 8 + (b.toNat - 48)) rest
      else (value, bs)
    | [] => (value, [])

/-- The octet that a letter after a backslash stands for. -/
def escape? (b : UInt8) : Option UInt8 :=
  match charOf b with
  | 'n' => some 0x0A
  | 't' => some 0x09
  | 'r' => some 0x0D
  | 'a' => some 0x07
  | 'b' => some 0x08
  | 'f' => some 0x0C
  | 'v' => some 0x0B
  | 'e' => some 0x1B
  | '\\' => some 0x5C
  | _ => none

/-- The octet that stands for what follows a backslash, and what comes after it. -/
def escaped (bs : Bytes) : UInt8 × Bytes :=
  match bs with
  | [] => (ascii '\\', [])
  | b :: rest =>
    match escape? b with
    | some o => (o, rest)
    | none =>
      if ascii '0' ≤ b && b ≤ ascii '7' then
        let (n, rest) := octal 3 0 bs
        (n.toUInt8, rest)
      else (ascii '\\', bs)

/-- Replaces the escapes of a text. The flag tells whether output stops at `\c`. -/
def unescape : (fuel : Nat) → Bytes → Bytes → Bytes × Bool
  | 0, acc, _ => (acc.reverse, false)
  | _, acc, [] => (acc.reverse, false)
  | fuel + 1, acc, b :: bs =>
    if b = ascii '\\' then
      match bs with
      | [] => ((b :: acc).reverse, false)
      | c :: cs =>
        if c = ascii 'c' then (acc.reverse, true)
        else
          let isLong := c = ascii '0' && cs.head?.any fun d => ascii '0' ≤ d && d ≤ ascii '7'
          let (o, rest) := escaped (if isLong then cs else bs)
          unescape fuel (o :: acc) rest
    else unescape fuel (b :: acc) bs

/-- The program `echo`. -/
def echo (m : Machine) (args : List Bytes) : Machine :=
  let (feed, args) :=
    match args with
    | a :: rest => if a = octets "-n" then (false, rest) else (true, a :: rest)
    | [] => (true, [])
  let joined := (octets " ").intercalate args
  let (out, stopped) := unescape (joined.length + 1) [] joined
  (m.print (if feed && !stopped then line out else out)).withStatus 0

/-! ## Formats -/

/-- What was printed of a format: the output, last octet first, the arguments left, whether one was
    asked for, the complaints, last one first, and whether the output ends here. -/
structure Printed where
  output : Bytes
  args : List Bytes
  used : Bool
  complaints : List String
  ended : Bool
  /-- Why the format cannot be read further. -/
  fault : Option String

namespace Printed

/-- The next argument. -/
def arg (p : Printed) : Bytes := p.args.head?.getD []

/-- What is printed after octets were added and an argument was used. -/
def put (p : Printed) (bs : Bytes) : Printed :=
  { p with output := bs.reverse ++ p.output, args := p.args.tail, used := true }

/-- What is printed with a complaint about an argument that is no number; `rest` is what could not be
    read of it. -/
def checked (p : Printed) (arg rest : Bytes) (tooBig : Bool) : Printed :=
  let complain (e : String) : Printed :=
    { p with complaints := (text arg ++ ": " ++ e) :: p.complaints }
  if rest.isEmpty then if tooBig then complain "Numerical result out of range" else p
  else if rest = arg then complain "expected numeric value"
  else complain "not completely converted"

end Printed

/-- The integer at the front of an argument in the notation of C, and what follows it. -/
def readInteger (arg : Bytes) : Int × Bytes :=
  match arg with
  | q :: b :: _ => if q = ascii '"' || q = ascii '\'' then (b.toNat, []) else numeric arg
  | _ => numeric arg
where
  /-- The integer that is written with digits. -/
  numeric (arg : Bytes) : Int × Bytes :=
    let start := arg.dropWhile isSpaceByte
    let (negative, digits) : Bool × Bytes :=
      match start with
      | b :: rest =>
        if b = ascii '-' then (true, rest)
        else if b = ascii '+' then (false, rest)
        else (false, start)
      | [] => (false, [])
    let hexadecimal : Option (Nat × Nat) :=
      match digits with
      | z :: x :: rest =>
        if z = ascii '0' && lowerByte x = ascii 'x' then
          match readDigits 16 0 0 rest with
          | (_, 0) => none
          | (n, count) => some (n, count + 2)
        else none
      | _ => none
    let (n, count) := hexadecimal.getD
      (readDigits (if digits.head? = some (ascii '0') then 8 else 10) 0 0 digits)
    if count = 0 then (0, arg) else (if negative then -(n : Int) else n, digits.drop count)

/-- The number of a width or a precision that is given as an argument. -/
def starred (p : Printed) : Int × Printed :=
  ((readInteger p.arg).1, { p with args := p.args.tail, used := true })

/-- Reads a width or a precision at the front of a format. -/
def readSize (p : Printed) (bs : Bytes) : Option Int × Printed × Bytes :=
  match bs with
  | b :: rest =>
    if b = ascii '*' then
      let (n, p) := starred p
      (some n, p, rest)
    else
      let digits := bs.takeWhile isDigitByte
      (if digits.isEmpty then none else some (decimal digits), p, bs.drop digits.length)
  | [] => (none, p, [])

/-- The greatest integer of 64 bits that a letter of a format stands for, and the smallest. -/
def integerLimits (signed : Bool) : Int × Int :=
  if signed then (-0x8000000000000000, 0x7FFFFFFFFFFFFFFF)
  else (-0xFFFFFFFFFFFFFFFF, 0xFFFFFFFFFFFFFFFF)

/-- Prints the value of a directive that a letter ends. `start` is the directive as it is written. -/
def printValue (p : Printed) (d : Directive) (letter : UInt8) (start : Bytes) : Printed :=
  let c := charOf letter
  let arg := p.arg
  let integer (signed : Bool) : Int × Printed :=
    let (n, rest) := readInteger arg
    let (low, high) := integerLimits signed
    let tooBig := n < low || high < n
    let clamped := if !signed && tooBig then high else max low (min high n)
    (clamped, p.checked arg rest tooBig)
  if c = 's' then p.put (d.string arg)
  else if c = 'b' then
    let (out, ended) := unescape (arg.length + 1) [] arg
    { p.put (d.string out) with ended := ended }
  else if c = 'c' then p.put (d.pad (if arg.isEmpty then [0] else arg.take 1))
  else if c = 'd' || c = 'i' then
    let (n, p) := integer true
    p.put (d.integer n)
  else if c = 'u' || c = 'x' || c = 'X' || c = 'o' then
    let (n, p) := integer false
    let base := if c = 'u' then 10 else if c = 'o' then 8 else 16
    p.put (d.natural base (c = 'X') (n % 0x10000000000000000).toNat)
  else if ['e', 'E', 'f', 'F', 'g', 'G'].contains c then
    let (x, rest) := readReal arg
    (if p.args.isEmpty then p else p.checked arg rest false).put (d.real c x)
  else { p with fault := some (text start ++ ": invalid directive") }

/-- Prints a format once. -/
def printOnce : (fuel : Nat) → Printed → Bytes → Printed
  | 0, p, _ => p
  | _, p, [] => p
  | fuel + 1, p, b :: bs =>
    let plain (o : UInt8) (rest : Bytes) : Printed :=
      printOnce fuel { p with output := o :: p.output } rest
    if b = ascii '\\' then
      let (o, rest) := escaped bs
      plain o rest
    else if b != ascii '%' then plain b bs
    else if bs.head? = some b then plain b bs.tail
    else
      let flags := bs.takeWhile fun c => isIn c ['#', '-', '+', ' ', '0']
      let (width, p, rest) := readSize p (bs.drop flags.length)
      let (precision, p, rest) : Option Int × Printed × Bytes :=
        if rest.head? = some (ascii '.') then
          let (n, p, rest) := readSize p rest.tail
          (some (n.getD 0), p, rest)
        else (none, p, rest)
      let width := width.getD 0
      let d : Directive :=
        { left := flags.contains (ascii '-') || width < 0
          plus := flags.contains (ascii '+')
          space := flags.contains (ascii ' ')
          alternative := flags.contains (ascii '#')
          zero := flags.contains (ascii '0')
          width := width.natAbs
          precision := (precision.filter (0 ≤ ·)).map Int.toNat }
      match rest with
      | [] => { p with fault := some "missing format character" }
      | c :: after =>
        let start := (b :: bs).take (bs.length + 1 - after.length)
        let p := printValue p d c start
        if p.ended || p.fault.isSome then p else printOnce fuel p after

/-- Prints a format as often as there are arguments for it. `fuel` bounds the repetitions. -/
def printAll (format : Bytes) : (fuel : Nat) → Printed → Printed
  | 0, p => p
  | fuel + 1, p =>
    let p := printOnce (format.length + 1) { p with used := false } format
    if p.used && !p.args.isEmpty && !p.ended && p.fault.isNone then printAll format fuel p else p

/-- The program `printf`. -/
def printf (m : Machine) (args : List Bytes) : Machine :=
  match if args.head? = some (octets "--") then args.tail else args with
  | [] => (m.complain "usage: printf format [arg ...]").withStatus 2
  | format :: rest =>
    let p := printAll format (rest.length + 1) ⟨[], rest, false, [], false, none⟩
    let m := p.complaints.reverse.foldl (fun m e => m.complain e) m
    let m := (m.print p.output.reverse).withTest p.complaints.isEmpty
    match p.fault with
    | some e => (m.complain e).withStatus 2
    | none => m

/-! ## Sequences of numbers -/

/-- A number with a fraction as an integer of units, and how many places the unit has. -/
def readDecimal? (bs : Bytes) : Option (Int × Nat) :=
  let (negative, rest) : Bool × Bytes :=
    match bs with
    | b :: rest =>
      if b = ascii '-' then (true, rest) else if b = ascii '+' then (false, rest) else (false, bs)
    | [] => (false, [])
  let whole := rest.takeWhile isDigitByte
  let fraction? : Option Bytes :=
    match rest.drop whole.length with
    | [] => some []
    | b :: digits => if b = ascii '.' && digits.all isDigitByte then some digits else none
  match fraction? with
  | none => none
  | some fraction =>
    if whole.isEmpty && fraction.isEmpty then none
    else
      let n : Int := decimal (whole ++ fraction)
      some (if negative then -n else n, fraction.length)

/-- A number of units with places behind the point. -/
def placed (n : Int) (places : Nat) : Bytes :=
  (if n < 0 then octets "-" else []) ++ Directive.pointed n.natAbs places

/-- The most numbers that a sequence may have. -/
def sequenceLimit : Nat := 1000000

/-- The program `seq`. -/
def seq (m : Machine) (args : List Bytes) : Machine :=
  let isNegative (a : Bytes) : Bool :=
    a.head? = some (ascii '-') && a.tail.head?.any fun b => isDigitByte b || b = ascii '.'
  let settings := args.takeWhile fun a => !isNegative a
  let u := ((usage "w" "sf").withLong
    [("equal-width", 'w'), ("separator", 's'), ("format", 'f')]).strict
  withArguments m "seq" u 1 settings fun a =>
    let operands := a.operands ++ args.drop settings.length
    match operands.find? fun o => (readDecimal? o).isNone with
    | some o => misused m "seq" ("invalid floating point argument: '" ++ text o ++ "'") 1
    | none =>
      let run (first step last : Int × Nat) : Machine :=
        let places := max first.2 step.2
        let common := max places last.2
        let unit (n : Int × Nat) : Int := n.1 * (Nat.pow 10 (common - n.2) : Nat)
        if step.1 = 0 then misused m "seq" "invalid Zero increment value: '0'" 1
        else
          let count := min sequenceLimit
            (Int.fdiv (unit last - unit first) (unit step) + 1).toNat
          let shown (i : Nat) : Bytes :=
            placed (Int.tdiv (unit first + unit step * i) (Nat.pow 10 (common - places) : Nat)) places
          let all := (List.range count).map shown
          let width := max (shown 0).length (shown (count - 1)).length
          let all :=
            match a.value? 'f' with
            | some f =>
              all.map fun n => (printOnce (f.length + 1) ⟨[], [n], false, [], false, none⟩ f).output.reverse
            | none =>
              if a.has 'w' then
                all.map fun n =>
                  let digits := if n.head? = some (ascii '-') then n.tail else n
                  let sign := n.take (n.length - digits.length)
                  sign ++ List.replicate (width - n.length) (ascii '0') ++ digits
              else all
          let separator := (a.value? 's').getD [0x0A]
          if all.isEmpty then m.withStatus 0
          else (m.print (line (separator.intercalate all))).withStatus 0
      match operands.filterMap readDecimal? with
      | [last] => run (1, 0) (1, 0) last
      | [first, last] => run first (1, 0) last
      | [first, step, last] => run first step last
      | [] => lacking m "seq" 1
      | _ => excess m "seq" (operands[3]?.getD []) 1

end Conformance.Shell.Tool
