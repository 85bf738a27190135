import Conformance.Shell.Directive
import Conformance.Shell.Tool.Arguments
import Conformance.Shell.Tool.Awk.Program
import Std.Data.HashMap

/-!
# Values of programs for records

A value is a number or a text. Text that was read and looks like a number is compared like one. Arrays
are tables of values by text; they are gone through in the order of a table of 64 lists, in which a value
stands in the list that the hash of its key names, those that were used last first.
-/

namespace Conformance.Shell.Tool.Awk

/-- A value. -/
inductive Value where
  | unset
  | number (x : Float)
  | text (bs : Bytes)
  /-- Text that was read and looks like a number. -/
  | numeric (bs : Bytes) (x : Float)

instance : Inhabited Value := ⟨.unset⟩

/-- The hexadecimal integer at the front of a text, if one stands there. -/
def hexadecimal? (bs : Bytes) : Option (Float × Bytes) :=
  let start := bs.dropWhile isSpaceByte
  let (negative, digits) : Bool × Bytes :=
    match start with
    | b :: rest =>
      if b = ascii '-' then (true, rest) else if b = ascii '+' then (false, rest) else (false, start)
    | [] => (false, [])
  match digits with
  | z :: x :: rest =>
    if z = ascii '0' && lowerByte x = ascii 'x' then
      match readDigits 16 0 0 rest with
      | (_, 0) => none
      | (n, count) => some (nearest negative n 0, rest.drop count)
    else none
  | _ => none

/-- The number that a text begins with, and what follows it. -/
def leading (bs : Bytes) : Float × Bytes := (hexadecimal? bs).getD (readReal bs)

/-- The value of a text that was read. -/
def Value.read (bs : Bytes) : Value :=
  match bs.dropWhile isSpaceByte with
  | [] => .text bs
  | b :: _ =>
    if !(isDigitByte b || isIn b ['-', '+', '.']) then .text bs
    else
      let (x, rest) := leading bs
      if rest.length < bs.length && rest.all isSpaceByte then .numeric bs x else .text bs

/-- The number that a value stands for. -/
def Value.toNumber : Value → Float
  | .unset => 0.0
  | .number x | .numeric _ x => x
  | .text bs => (leading bs).1

/-- The text of an integer, if a number is one that is not too great. -/
def integerText? (x : Float) : Option Bytes :=
  match Real.of x with
  | .ratio negative n d =>
    if n % d = 0 && n / d < 0x10000000000000000 then
      some (integer (if negative then -((n / d : Nat) : Int) else (n / d : Nat)))
    else none
  | _ => none

/-- Whether a value counts as true. -/
def Value.holds : Value → Bool
  | .unset => false
  | .number x | .numeric _ x => x != 0.0
  | .text bs => !bs.isEmpty

/-- The value of a truth. -/
def Value.ofBool (p : Bool) : Value := .number (if p then 1.0 else 0.0)

/-- The value of a natural number. -/
def Value.ofNat (n : Nat) : Value := .number (nearest false n 0)

/-! ## Arrays -/

/-- A value of an array, when it was used last, and whether its key was a number. -/
structure Cell where
  value : Value
  stamp : Nat
  isNumber : Bool

/-- An array. -/
abbrev Table := Std.HashMap Bytes Cell

/-- The hash of a key. -/
def hashOf (bs : Bytes) : Nat :=
  bs.foldl (fun h b => Nat.xor h b.toNat * 16777619 % 0x100000000) 2166136261

/-- How many lists a table has. -/
def listCount : Nat := 64

/-- The keys of an array in the order in which they are gone through. -/
def keysInOrder (t : Table) : List Bytes :=
  let all := t.toList
  let recent (cells : List (Bytes × Cell)) : List (Bytes × Cell) :=
    cells.mergeSort fun a b => b.2.stamp ≤ a.2.stamp
  let texts := recent (all.filter fun c => !c.2.isNumber)
  let slot (bs : Bytes) : Nat := ((integer? bs).getD 0 % (listCount : Int)).toNat
  let numbers := (recent (all.filter fun c => c.2.isNumber)).mergeSort fun a b =>
    slot a.1 ≤ slot b.1
  let inLists := (numbers.reverse ++ texts).map fun c => (hashOf c.1 % listCount, c.1)
  (inLists.mergeSort fun a b => a.1 ≤ b.1).map (·.2)

/-! ## The state of a run -/

/-- What a name of a function stands for while it runs. -/
inductive Local where
  | value (v : Value)
  | array (id : Nat)

/-- The state of a run. -/
structure State where
  machine : Machine
  globals : Std.HashMap Bytes Value
  arrays : Std.HashMap Nat Table
  arrayIds : Std.HashMap Bytes Nat
  nextArray : Nat
  locals : List (Bytes × Local)
  record : Bytes
  /-- The fields of the record, if it was cut already, and what it is cut at. -/
  fields : Option (Array Bytes)
  separator : Bytes
  /-- What is left of the content that is read, and the number of the next operand. -/
  input : Option Bytes
  operand : Nat
  /-- Whether an operand was a file. -/
  sawFile : Bool
  /-- What is left of other files and of the output of commands. -/
  readers : List (Bytes × Bytes)
  /-- The files that are written, and what goes to commands, last first. -/
  written : List Bytes
  pipes : List (Bytes × List Bytes)
  regexes : Std.HashMap Bytes Regex
  stamp : Nat
  /-- What was printed, last first. -/
  output : List Bytes
  seed : Nat
  /-- The status that the program asked to end with. -/
  ended : Option Nat
  fault : Option String

/-- A run. -/
abbrev Run := StateM State

/-- The value of a global variable. -/
def global (name : String) : Run Value := do
  return ((← get).globals[octets name]?).getD .unset

/-- Sets a global variable. -/
def setGlobal (name : String) (v : Value) : Run Unit :=
  modify fun s => { s with globals := s.globals.insert (octets name) v }

/-- Ends the program with a complaint. -/
def complain (e : String) : Run Unit :=
  modify fun s => { s with fault := s.fault.or (some e), ended := some 2 }

/-- Whether the program goes on. -/
def goesOn : Run Bool := do return (← get).ended.isNone

/-! ## Formats -/

/-- Prints a format with values whose texts are made with a plain format. The fault tells what is wrong
    with the format. `acc` holds the output before, last octet first. `fuel` bounds the length. -/
def formatted (textOf : Value → Bytes) : (fuel : Nat) → (acc : Bytes) → List Value → Bytes →
    Except String Bytes
  | 0, acc, _, _ => .ok acc.reverse
  | _, acc, _, [] => .ok acc.reverse
  | fuel + 1, acc, vs, b :: bs =>
    if b != ascii '%' then formatted textOf fuel (b :: acc) vs bs
    else if bs.head? = some b then formatted textOf fuel (b :: acc) vs bs.tail
    else
      let size (vs : List Value) (bs : Bytes) : Option Int × List Value × Bytes :=
        match bs with
        | c :: rest =>
          if c = ascii '*' then (some (wholeOf ((vs.head?.getD .unset).toNumber)), vs.tail, rest)
          else
            let digits := bs.takeWhile isDigitByte
            (if digits.isEmpty then none else some (decimal digits), vs, bs.drop digits.length)
        | [] => (none, vs, [])
      let flags := bs.takeWhile fun c => isIn c ['#', '-', '+', ' ', '0']
      let (width, vs, rest) := size vs (bs.drop flags.length)
      let (precision, vs, rest) : Option Int × List Value × Bytes :=
        if rest.head? = some (ascii '.') then
          let (n, vs, rest) := size vs rest.tail
          (some (n.getD 0), vs, rest)
        else (none, vs, rest)
      let rest := rest.dropWhile fun c => isIn c ['h', 'l', 'L', 'q', 'j', 'z']
      let width := width.getD 0
      let d : Directive :=
        { left := flags.contains (ascii '-') || width < 0
          plus := flags.contains (ascii '+')
          space := flags.contains (ascii ' ')
          alternative := flags.contains (ascii '#')
          zero := flags.contains (ascii '0')
          width := width.natAbs
          precision := (precision.filter (0 ≤ ·)).map Int.toNat }
      match rest with
      | [] => .error "bad conversion in printf"
      | c :: after =>
        let letter := charOf c
        if letter = '%' then formatted textOf fuel (c :: acc) vs after
        else
          match vs with
          | [] => .error "not enough arguments passed to printf"
          | v :: more =>
            let put (out : Bytes) : Except String Bytes :=
              formatted textOf fuel (out.reverse ++ acc) more after
            if letter = 's' then put (d.string (textOf v))
            else if letter = 'c' then
              match v with
              | .number x | .numeric _ x => put (d.pad [(wholeOf x % 256).toNat.toUInt8])
              | v => put (d.pad ((textOf v).take 1))
            else if letter = 'd' || letter = 'i' then put (d.integer (wholeOf v.toNumber))
            else if ['u', 'o', 'x', 'X'].contains letter then
              let n := (wholeOf v.toNumber % 0x10000000000000000).toNat
              let base := if letter = 'u' then 10 else if letter = 'o' then 8 else 16
              put (d.natural base (letter = 'X') n)
            else if ['e', 'E', 'f', 'F', 'g', 'G'].contains letter then put (d.real letter v.toNumber)
            else .error "bad conversion in printf"

/-- The text of a number, made with a format if it is no integer. -/
def numberText (format : Bytes) (x : Float) : Bytes :=
  match integerText? x with
  | some bs => bs
  | none =>
    match formatted (fun _ => []) (format.length + 1) [] [.number x] format with
    | .ok bs => bs
    | .error _ => []

/-- The text of a value, with a format for numbers. -/
def Value.textWith (format : Bytes) : Value → Bytes
  | .unset => []
  | .number x => numberText format x
  | .text bs | .numeric bs _ => bs

/-- The text of a value. -/
def toText (v : Value) : Run Bytes := do
  match v with
  | .number x => do
    match integerText? x with
    | some bs => return bs
    | none =>
      match ← global "CONVFMT" with
      | .text f | .numeric f _ => return numberText f x
      | _ => return numberText (octets "%.6g") x
  | v => return v.textWith []

/-- The order of two values, as far as a comparison asks for it. -/
def compareValues (c : Comparison) (a b : Value) : Run Bool := do
  let asNumbers : Bool :=
    match a, b with
    | .text _, _ | _, .text _ => false
    | _, _ => true
  if asNumbers then
    let (x, y) := (a.toNumber, b.toNumber)
    match c with
    | .less => return x < y
    | .lessEqual => return x ≤ y
    | .equal => return x == y
    | .unequal => return x != y
    | .greater => return y < x
    | .greaterEqual => return y ≤ x
  else
    let o := Path.compareOctets (← toText a) (← toText b)
    match c with
    | .less => return o = .lt
    | .lessEqual => return o ≠ .gt
    | .equal => return o = .eq
    | .unequal => return o ≠ .eq
    | .greater => return o = .gt
    | .greaterEqual => return o ≠ .lt

/-! ## Records and fields -/

/-- The expression that a text is. -/
def regexOf (source : Bytes) : Run Regex := do
  match (← get).regexes[source]? with
  | some r => return r
  | none =>
    match Regex.read ⟨true, false, true, true⟩ source with
    | .ok r =>
      modify fun s => { s with regexes := s.regexes.insert source r }
      return r
    | .error e =>
      complain ("regular expression compile failed (" ++ e ++ ")")
      return .empty

/-- The pieces of a text between the matches of an expression that are not empty. `begun` is where the
    open piece begins. `fuel` bounds their number. -/
def piecesBetween (t : Regex.Subject) (r : Regex) : (fuel begun i : Nat) → List Bytes
  | 0, begun, _ => [t.part begun t.octets.size]
  | fuel + 1, begun, i =>
    match if i < t.octets.size then Regex.search? t r i else none with
    | none => [t.part begun t.octets.size]
    | some f =>
      if f.start = f.finish then piecesBetween t r fuel begun (f.finish + 1)
      else t.part begun f.start :: piecesBetween t r fuel f.finish f.finish

/-- The fields of a text with a separator. -/
def cutFields (separator : Bytes) (paragraphs : Bool) (bs : Bytes) : Run (List Bytes) := do
  if bs.isEmpty then return []
  else if separator = octets " " then return wordsOf bs
  else
    match separator with
    | [] => return bs.map fun b => [b]
    | [b] =>
      if b != ascii '\\' then return cutAt (fun c => c = b || (paragraphs && c = 0x0A)) bs
      else return cutAt (fun c => c = b) bs
    | _ =>
      let source := if paragraphs then separator ++ octets "|\n" else separator
      let r ← regexOf source
      return piecesBetween (.of bs) r (bs.length + 2) 0 0

/-- The fields of the record. -/
def fields : Run (Array Bytes) := do
  let s ← get
  match s.fields with
  | some fs => return fs
  | none =>
    let paragraphs := (← toText (← global "RS")).isEmpty
    let fs := (← cutFields s.separator paragraphs s.record).toArray
    modify fun s => { s with fields := some fs }
    return fs

/-- Sets the record. -/
def setRecord (bs : Bytes) : Run Unit := do
  let separator ← toText (← global "FS")
  modify fun s => { s with record := bs, fields := none, separator := separator }

/-- Sets the fields and makes the record of them. -/
def setFields (fs : Array Bytes) : Run Unit := do
  let separator ← toText (← global "OFS")
  modify fun s => { s with fields := some fs, record := separator.intercalate fs.toList }

/-- The value of a field. -/
def field (n : Nat) : Run Value := do
  if n = 0 then return .read (← get).record
  else
    match (← fields)[n - 1]? with
    | some bs => return .read bs
    | none => return .unset

/-- Sets a field. -/
def setField (n : Nat) (bs : Bytes) : Run Unit := do
  if n = 0 then setRecord bs
  else if 100000 < n then complain "field index is too big"
  else
    let fs ← fields
    let fs := fs ++ (List.replicate (n - fs.size) ([] : Bytes)).toArray
    setFields (fs.setIfInBounds (n - 1) bs)

/-- The next record of a content and what is left of it. -/
def takeRecord (content : Bytes) : Run (Option (Bytes × Bytes)) := do
  let separator ← toText (← global "RS")
  match separator with
  | [] =>
    let content := content.dropWhile (· = 0x0A)
    if content.isEmpty then return none
    else
      match splitAtOnto [] [0x0A, 0x0A] content with
      | some (bs, rest) => return some (bs, rest)
      | none => return some (trimEnd (· = 0x0A) content, [])
  | [b] =>
    if content.isEmpty then return none
    else
      let bs := content.takeWhile (· != b)
      return some (bs, content.drop (bs.length + 1))
  | source =>
    if content.isEmpty then return none
    else
      let r ← regexOf source
      let t := Regex.Subject.of content
      match Regex.search? t r 0 with
      | some f =>
        if f.start = f.finish then return some (content, [])
        else
          let bs := t.part 0 f.start
          return some (bs, content.drop f.finish)
      | none => return some (content, [])

end Conformance.Shell.Tool.Awk
