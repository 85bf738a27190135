import Conformance.Shell.Tool.Awk.Reader
import Conformance.Shell.Tool.Awk.Value

/-!
# Working on records

The program `awk`: the rules of a program are carried out for one record after the other. Commands that a
program runs are run by whoever runs the program.
-/

namespace Conformance.Shell.Tool.Awk

/-- What does not change while a program runs: the program, which parameters of its functions are
    arrays, how a command is run, and the operands. -/
structure Setting where
  program : Program
  arrayParams : List (Bytes × List Bool)
  shell : Machine → Bytes → Machine
  operands : Array Bytes

/-- How a statement ends. -/
inductive Outcome where
  | next
  | leave
  | again
  | back (v : Value)
  | record

/-! ## Output -/

/-- Sends what was printed on its way. -/
def flush : Run Unit :=
  modify fun s =>
    { s with machine := s.output.reverse.foldl Machine.print s.machine, output := [] }

/-- Prints to where a direction leads. -/
def put (target : Option (Direction × Bytes)) (bs : Bytes) : Run Unit := do
  match target with
  | none => modify fun s => { s with output := bs :: s.output }
  | some (.command, command) =>
    modify fun s =>
      if s.pipes.any (·.1 = command) then
        { s with pipes := s.pipes.map fun p => if p.1 = command then (p.1, bs :: p.2) else p }
      else { s with pipes := s.pipes ++ [(command, [bs])] }
  | some (d, path) => do
    if path = octets "/dev/stdout" || path = octets "-" then
      modify fun s => { s with output := bs :: s.output }
    else if path = octets "/dev/stderr" then
      flush
      modify fun s => { s with machine := s.machine.emit 2 bs }
    else
      let s ← get
      let begun := d = .append || s.written.contains path
      match s.machine.files.write path begun bs with
      | .ok files =>
        set { s with machine := { s.machine with files := files }, written := path :: s.written }
      | .error e => complain ("cannot open \"" ++ text path ++ "\" for output: " ++ reason e)

/-- Runs a command with an input and keeps what it prints if it is asked to. -/
def runCommand (setting : Setting) (command : Bytes) (input : Option Bytes) (keep : Bool) :
    Run (Bytes × Nat) := do
  flush
  let s ← get
  let before := s.machine
  let m := match input with
    | some bs => before.attachSource 0 ⟨bs, false, 0⟩
    | none => before
  let (m, id) := if keep then m.keep 1 else (m, 0)
  let after := setting.shell m command
  let (kept, ended) := if keep then after.takeKept id else ([], after)
  set { s with machine := before.rejoin ended }
  return (kept, after.status)

/-- Closes a file or a command. -/
def closeOne (setting : Setting) (name : Bytes) : Run Int := do
  let s ← get
  match s.pipes.find? (·.1 = name) with
  | some (_, parts) =>
    set { s with pipes := s.pipes.filter (·.1 ≠ name) }
    let (_, status) ← runCommand setting name (some parts.reverse.flatten) false
    return status
  | none =>
    let known := s.readers.any (·.1 = name) || s.written.contains name
    set { s with readers := s.readers.filter (·.1 ≠ name), written := s.written.filter (· ≠ name) }
    return if known then 0 else -1

/-! ## Variables -/

/-- The value of a variable. -/
def look (name : Bytes) : Run Value := do
  match (← get).locals.find? (·.1 = name) with
  | some (_, .value v) => return v
  | some (_, .array _) => return .unset
  | none =>
    if name = octets "NF" then return .ofNat (← fields).size
    else return ((← get).globals[name]?).getD .unset

/-- Sets a variable. -/
def setVariable (name : Bytes) (v : Value) : Run Unit := do
  let s ← get
  if s.locals.any (·.1 = name) then
    set { s with locals := s.locals.map fun (l : Bytes × Local) =>
      if l.1 = name then (name, .value v) else l }
  else if name = octets "NF" then
    let n := (wholeOf v.toNumber).toNat
    let fs ← fields
    if 100000 < n then complain "NF is too big"
    else setFields ((fs.toList.take n).toArray ++ (List.replicate (n - fs.size) ([] : Bytes)).toArray)
  else set { s with globals := s.globals.insert name v }

/-- The number of the array of a name. -/
def arrayOf (name : Bytes) : Run Nat := do
  let s ← get
  let fresh := s.nextArray
  match s.locals.find? (·.1 = name) with
  | some (_, .array id) => return id
  | some (_, .value _) =>
    set { s with
      locals := s.locals.map fun (l : Bytes × Local) =>
        if l.1 = name then (name, .array fresh) else l
      nextArray := fresh + 1 }
    return fresh
  | none =>
    match s.arrayIds[name]? with
    | some id => return id
    | none =>
      set { s with arrayIds := s.arrayIds.insert name fresh, nextArray := fresh + 1 }
      return fresh

/-- An array. -/
def table (id : Nat) : Run Table := do return ((← get).arrays[id]?).getD {}

/-- Changes an array. -/
def setTable (id : Nat) (t : Table) : Run Unit :=
  modify fun s => { s with arrays := s.arrays.insert id t }

/-- The next time. -/
def tick : Run Nat := do
  modify fun s => { s with stamp := s.stamp + 1 }
  return (← get).stamp

/-- The key that values make, and whether it is a number. -/
def keyOf (vs : List Value) : Run (Bytes × Bool) := do
  match vs with
  | [.number x] => do
    match integerText? x with
    | some bs => return (bs, true)
    | none => return (← toText (.number x), false)
  | vs => do
    let separator ← toText (← global "SUBSEP")
    return (separator.intercalate (← vs.mapM toText), false)

/-- Uses a value of an array; a value that is missing is put in. -/
def element (id : Nat) (key : Bytes × Bool) : Run Value := do
  let t ← table id
  let now ← tick
  let cell := (t[key.1]?).getD ⟨.unset, now, key.2⟩
  setTable id (t.insert key.1 { cell with stamp := now })
  return cell.value

/-- Sets a value of an array. -/
def setElement (id : Nat) (key : Bytes × Bool) (v : Value) : Run Unit := do
  let t ← table id
  let now ← tick
  let isNumber := ((t[key.1]?).map (·.isNumber)).getD key.2
  setTable id (t.insert key.1 ⟨v, now, isNumber⟩)

/-! ## Reading records -/

/-- Counts a record. -/
def count (name : String) : Run Unit := do
  setGlobal name (.number ((← global name).toNumber + 1.0))

/-- The assignment that an operand is. -/
def operandAssignment? (bs : Bytes) : Option (Bytes × Bytes) := assigned? bs

/-- A text with its escapes replaced. -/
def unquoted (bs : Bytes) : Bytes :=
  match quotedText (bs.length + 2) [] (bs ++ [ascii '"']) with
  | some (t, []) => t
  | _ => bs

/-- Opens the next content that operands name. `fuel` bounds their number. The result tells whether
    there is one. -/
def openNext : (fuel : Nat) → Run Bool
  | 0 => return false
  | fuel + 1 => do
    let s ← get
    let id ← arrayOf (octets "ARGV")
    let count := (wholeOf (← global "ARGC").toNumber).toNat
    if count ≤ s.operand then
      if s.sawFile then return false
      else
        let (bs, m) := (← get).machine.takeInput
        modify fun s => { s with machine := m, input := some bs, sawFile := true }
        return true
    else
      let t ← table id
      let operand := ((t[number s.operand]?).map (·.value.textWith [])).getD []
      modify fun s => { s with operand := s.operand + 1 }
      if operand.isEmpty then openNext fuel
      else
        match operandAssignment? operand with
        | some (name, value) =>
          setVariable name (.read (unquoted value))
          openNext fuel
        | none =>
          match contentFor (← get).machine operand with
          | (.ok bs, m) =>
            modify fun s => { s with machine := m, input := some bs, sawFile := true }
            setGlobal "FILENAME" (.text (if operand = octets "-" then [] else operand))
            setGlobal "FNR" (.number 0.0)
            return true
          | (.error e, m) =>
            modify fun s => { s with machine := m }
            complain ("cannot open \"" ++ text operand ++ "\" (" ++ e ++ ")")
            return false

/-- The next record of the input. `fuel` bounds the number of contents. -/
def nextRecord : (fuel : Nat) → Run (Option Bytes)
  | 0 => return none
  | fuel + 1 => do
    match (← get).input with
    | some content => do
      match ← takeRecord content with
      | some (bs, rest) =>
        modify fun s => { s with input := some rest }
        count "NR"
        count "FNR"
        return some bs
      | none =>
        modify fun s => { s with input := none }
        nextRecord fuel
    | none =>
      if ← openNext ((← get).operand + 1000) then nextRecord fuel else return none

/-- How many contents are read at most. -/
def contentLimit : Nat := 10000

/-- The next record of a file or of the output of a command; `none` if it cannot be read. -/
def recordFrom (setting : Setting) (name : Bytes) (isCommand : Bool) :
    Run (Option (Option Bytes)) := do
  let known := (← get).readers.find? (·.1 = name)
  let content? : Option Bytes ←
    match known with
    | some (_, bs) => pure (some bs)
    | none =>
      if isCommand then do
        let (bs, _) ← runCommand setting name none true
        pure (some bs)
      else
        match contentFor (← get).machine name with
        | (.ok bs, m) => do
          modify fun s => { s with machine := m }
          pure (some bs)
        | (.error _, _) => pure none
  match content? with
  | none => return none
  | some content =>
    let keep (rest : Bytes) : Run Unit :=
      modify fun s => { s with readers := (name, rest) :: s.readers.filter (·.1 ≠ name) }
    match ← takeRecord content with
    | some (bs, rest) =>
      keep rest
      return some (some bs)
    | none =>
      keep []
      return some none

/-! ## Functions -/

/-- What a replacement puts in the place of a match. `fuel` bounds its length. -/
def replaced (found : Bytes) : (fuel : Nat) → Bytes → Bytes
  | 0, _ => []
  | _, [] => []
  | fuel + 1, b :: bs =>
    if b = ascii '&' then found ++ replaced found fuel bs
    else if b = ascii '\\' then
      match bs with
      | c :: rest =>
        if c = ascii '&' || c = b then c :: replaced found fuel rest
        else b :: replaced found fuel bs
      | [] => [b]
    else b :: replaced found fuel bs

/-- Replaces matches from a position on, only the first one or all. `ended` is where the last match
    ends, and `acc` holds the pieces before, last first. `fuel` bounds the number of matches. -/
def substituteFrom (t : Regex.Subject) (r : Regex) (new : Bytes) (all : Bool) :
    (fuel : Nat) → (i count : Nat) → (ended : Option Nat) → (acc : List Bytes) → List Bytes × Nat
  | 0, i, count, _, acc => (t.part i t.octets.size :: acc, count)
  | fuel + 1, i, count, ended, acc =>
    let size := t.octets.size
    match if i ≤ size then Regex.search? t r i else none with
    | none => (t.part i size :: acc, count)
    | some f =>
      if f.start = f.finish && ended = some f.start then
        if size ≤ f.start then (t.part i size :: acc, count)
        else substituteFrom t r new all fuel (f.start + 1) count none (t.part i (f.start + 1) :: acc)
      else
        let own := replaced (t.part f.start f.finish) (new.length + 1) new
        let acc := own :: t.part i f.start :: acc
        if !all then (t.part f.finish size :: acc, count + 1)
        else if f.start = f.finish then
          if size ≤ f.start then (acc, count + 1)
          else
            substituteFrom t r new all fuel (f.start + 1) (count + 1) none
              (t.part f.start (f.start + 1) :: acc)
        else substituteFrom t r new all fuel f.finish (count + 1) (some f.finish) acc

/-- The nearest integer of a number; of two that are equally near the even one. -/
def nearestInteger (x : Float) : Int :=
  match Real.of x with
  | .ratio negative n d =>
    let k := Binary64.divNearest n d
    if negative then -(k : Int) else k
  | .infinite negative => if negative then -0x7FFFFFFF else 0x7FFFFFFF
  | .undefined _ => 0

/-- The value of an operator. -/
def Operator.apply (op : Operator) (x y : Float) : Float :=
  match op with
  | .add => x + y
  | .subtract => x - y
  | .multiply => x * y
  | .divide => x / y
  | .power => Float.pow x y
  | .modulo =>
    match Real.of x, Real.of y with
    | .ratio negative a b, .ratio _ c d =>
      if c = 0 then 0.0 / 0.0
      else
        let r := (a * d) % (c * b)
        let q := Binary64.ofRatio r (b * d)
        let (m, e) := (q.mantissa, q.exponent)
        let size := Float.scaleB (nearest false m 0) e
        if negative then -size else size
    | .ratio .., .infinite _ => x
    | _, _ => 0.0 / 0.0

/-- The numbers that `rand` gives, one after the other. -/
def nextSeed (seed : Nat) : Nat := (seed * 1103515245 + 12345) % 0x80000000

mutual

/-- The value of an expression. -/
def eval (setting : Setting) : (fuel : Nat) → Expr → Run Value
  | 0, _ => do
    complain "function call nesting too deep"
    return .unset
  | fuel + 1, e => do
    if !(← goesOn) then return .unset
    else
      match e with
      | .number x => return .number x
      | .text bs => return .text bs
      | .regex source => do
        let r ← regexOf source
        return .ofBool (r.occursIn (← get).record)
      | .variable name => look name
      | .group e => eval setting fuel e
      | .field e => do
        let n := wholeOf (← eval setting fuel e).toNumber
        if n < 0 then
          complain "negative field index"
          return .unset
        else field n.toNat
      | .element name keys => do
        let vs ← evalAll setting fuel keys
        let key ← keyOf vs
        element (← arrayOf name) key
      | .assign target op value => do
        match op with
        | none => do
          let v ← eval setting fuel value
          store setting fuel target v
          return v
        | some op => do
          let y := (← eval setting fuel value).toNumber
          let x := (← eval setting fuel target).toNumber
          if (op = .divide || op = .modulo) && y == 0.0 && op = .modulo then
            store setting fuel target (.number (op.apply x y))
            return .number (op.apply x y)
          else
            let v := Value.number (op.apply x y)
            store setting fuel target v
            return v
      | .choice c yes no => do
        if (← eval setting fuel c).holds then eval setting fuel yes else eval setting fuel no
      | .either a b => do
        if (← eval setting fuel a).holds then return .ofBool true
        else return .ofBool (← eval setting fuel b).holds
      | .both a b => do
        if (← eval setting fuel a).holds then return .ofBool (← eval setting fuel b).holds
        else return .ofBool false
      | .member keys name => do
        let key ← keyOf (← evalAll setting fuel keys)
        let t ← table (← arrayOf name)
        return .ofBool (t.contains key.1)
      | .matching negated a b => do
        let bs ← toText (← eval setting fuel a)
        let r ← regexFor setting fuel b
        return .ofBool (r.occursIn bs != negated)
      | .compare c a b => do
        let x ← eval setting fuel a
        let y ← eval setting fuel b
        return .ofBool (← compareValues c x y)
      | .join a b => do
        let x ← toText (← eval setting fuel a)
        let y ← toText (← eval setting fuel b)
        return .text (x ++ y)
      | .binary op a b => do
        let x := (← eval setting fuel a).toNumber
        let y := (← eval setting fuel b).toNumber
        return .number (op.apply x y)
      | .negative e => do return .number (-(← eval setting fuel e).toNumber)
      | .positive e => do return .number (← eval setting fuel e).toNumber
      | .negation e => do return .ofBool !(← eval setting fuel e).holds
      | .step before up target => do
        let x := (← eval setting fuel target).toNumber
        let y := if up then x + 1.0 else x - 1.0
        store setting fuel target (.number y)
        return .number (if before then y else x)
      | .call name args => call setting fuel name args
      | .builtin f args => builtin setting fuel f args
      | .getline target file command => do
        match file.or command with
        | none => do
          match ← nextRecord contentLimit with
          | none => return .number (if (← goesOn) then 0.0 else -1.0)
          | some bs =>
            match target with
            | some place => store setting fuel place (.read bs)
            | none => setRecord bs
            return .number 1.0
        | some e => do
          let name ← toText (← eval setting fuel e)
          match ← recordFrom setting name file.isNone with
          | none => return .number (-1.0)
          | some none => return .number 0.0
          | some (some bs) =>
            if file.isNone then count "NR"
            match target with
            | some place => store setting fuel place (.read bs)
            | none => setRecord bs
            return .number 1.0

/-- The values of expressions. -/
def evalAll (setting : Setting) : (fuel : Nat) → List Expr → Run (List Value)
  | 0, _ => return []
  | fuel + 1, es => do
    match es with
    | [] => return []
    | e :: es => do
      let v ← eval setting fuel e
      let vs ← evalAll setting fuel es
      return v :: vs

/-- The expression to look for that an operand stands for. -/
def regexFor (setting : Setting) : (fuel : Nat) → Expr → Run Regex
  | 0, _ => return .empty
  | fuel + 1, e => do
    match e with
    | .regex source => regexOf source
    | e => regexOf (← toText (← eval setting fuel e))

/-- Stores a value. -/
def store (setting : Setting) : (fuel : Nat) → Expr → Value → Run Unit
  | 0, _, _ => return ()
  | fuel + 1, e, v => do
    match e with
    | .variable name => setVariable name v
    | .group e => store setting fuel e v
    | .field e => do
      let n := wholeOf (← eval setting fuel e).toNumber
      if n < 0 then complain "negative field index" else setField n.toNat (← toText v)
    | .element name keys => do
      let key ← keyOf (← evalAll setting fuel keys)
      setElement (← arrayOf name) key v
    | _ => return ()

/-- Calls a function of the program. -/
def call (setting : Setting) : (fuel : Nat) → Bytes → List Expr → Run Value
  | 0, _, _ => return .unset
  | fuel + 1, name, args => do
    match setting.program.functions.find? (·.name = name) with
    | none => do
      complain ("function " ++ text name ++ " never defined")
      return .unset
    | some f => do
      let arrays := ((setting.arrayParams.find? (·.1 = name)).map (·.2)).getD []
      let own ← bindArgs setting fuel arrays f.params args
      let before := (← get).locals
      modify fun s => { s with locals := own }
      let outcome ← exec setting fuel f.body
      modify fun s => { s with locals := before }
      match outcome with
      | .back v => return v
      | _ => return .unset

/-- What the parameters of a function stand for. -/
def bindArgs (setting : Setting) : (fuel : Nat) → List Bool → List Bytes → List Expr →
    Run (List (Bytes × Local))
  | 0, _, _, _ => return []
  | fuel + 1, arrays, params, args => do
    match params with
    | [] => return []
    | p :: ps => do
      let isArray := arrays.head?.getD false
      let own : Local ←
        match args with
        | .variable name :: _ =>
          if isArray then do pure (Local.array (← arrayOf name))
          else
            match (← get).locals.find? (·.1 = name) with
            | some (_, l) => pure l
            | none => do pure (Local.value (← look name))
        | a :: _ => do pure (Local.value (← eval setting fuel a))
        | [] => pure (Local.value .unset)
      let rest ← bindArgs setting fuel arrays.tail ps args.tail
      return (p, own) :: rest

/-- Calls a function that every program has. -/
def builtin (setting : Setting) : (fuel : Nat) → Builtin → List Expr → Run Value
  | 0, _, _ => return .unset
  | fuel + 1, f, args => do
    let textAt (i : Nat) : Run Bytes := do
      match args[i]? with
      | some e => toText (← eval setting fuel e)
      | none => return []
    let numberAt (i : Nat) : Run Float := do
      match args[i]? with
      | some e => return (← eval setting fuel e).toNumber
      | none => return 0.0
    let replace (all : Bool) : Run Value := do
      match args with
      | e :: _ => do
        let r ← regexFor setting fuel e
        let new ← textAt 1
        let target := (args[2]?).getD (.field (.number 0.0))
        let old ← toText (← eval setting fuel target)
        let t := Regex.Subject.of old
        let (pieces, n) := substituteFrom t r new all (old.length + 2) 0 0 none []
        if n != 0 then store setting fuel target (.text pieces.reverse.flatten)
        return .ofNat n
      | [] => return .unset
    match f with
    | .length => do
      match args with
      | [] => return .ofNat (← get).record.length
      | .variable name :: _ => do
        let s ← get
        let id? :=
          match s.locals.find? (·.1 = name) with
          | some (_, .array id) => some id
          | some (_, .value _) => none
          | none => s.arrayIds[name]?
        match id? with
        | some id => return .ofNat (← table id).size
        | none => return .ofNat (← textAt 0).length
      | _ => return .ofNat (← textAt 0).length
    | .substr => do
      let bs ← textAt 0
      let start := nearestInteger (← numberAt 1)
      let count ← numberAt 2
      let finish : Int :=
        if args.length < 3 then (bs.length : Int) + 1 else start + nearestInteger count
      let low := (max start 1).toNat
      let high := (min finish ((bs.length : Int) + 1)).toNat
      return .text ((bs.take (high - 1)).drop (low - 1))
    | .index => do
      let bs ← textAt 0
      match splitAtOnto [] (← textAt 1) bs with
      | some (before, _) =>
        return .ofNat (if (← textAt 1).isEmpty then 0 else before.length + 1)
      | none => return .ofNat 0
    | .split => do
      let bs ← textAt 0
      let pieces ←
        match (args[2]? : Option Expr) with
        | some (.regex source) => do
          let r ← regexOf source
          pure (if bs.isEmpty then [] else piecesBetween (.of bs) r (bs.length + 2) 0 0)
        | some e => do cutFields (← toText (← eval setting fuel e)) false bs
        | none => do cutFields (← toText (← global "FS")) false bs
      match (args[1]? : Option Expr) with
      | some (.variable name) => do
        let id ← arrayOf name
        let now ← tick
        let cells := ((List.range pieces.length).zip pieces).foldl
          (fun (t : Table) p => t.insert (number (p.1 + 1)) ⟨.read p.2, now + p.1, true⟩) {}
        modify fun s => { s with stamp := s.stamp + pieces.length }
        setTable id cells
      | _ => pure ()
      return .ofNat pieces.length
    | .sub => replace false
    | .gsub => replace true
    | .match => do
      let bs ← textAt 0
      match args[1]? with
      | none => return .unset
      | some e => do
        let r ← regexFor setting fuel e
        match Regex.search? (.of bs) r 0 with
        | some found =>
          setGlobal "RSTART" (.ofNat (found.start + 1))
          setGlobal "RLENGTH" (.ofNat (found.finish - found.start))
          return .ofNat (found.start + 1)
        | none =>
          setGlobal "RSTART" (.ofNat 0)
          setGlobal "RLENGTH" (.number (-1.0))
          return .ofNat 0
    | .sprintf => do
      let vs ← evalAll setting fuel args
      format vs
    | .sin => do return .number (Float.sin (← numberAt 0))
    | .cos => do return .number (Float.cos (← numberAt 0))
    | .atan2 => do return .number (Float.atan2 (← numberAt 0) (← numberAt 1))
    | .exp => do return .number (Float.exp (← numberAt 0))
    | .log => do return .number (Float.log (← numberAt 0))
    | .sqrt => do return .number (Float.sqrt (← numberAt 0))
    | .int => do
      let x ← numberAt 0
      return .number (if x < 0.0 then Float.ceil x else Float.floor x)
    | .rand => do
      modify fun s => { s with seed := nextSeed s.seed }
      return .number (nearest false (← get).seed 0 / 2147483648.0)
    | .srand => do
      let before := (← get).seed
      let n := wholeOf (← numberAt 0)
      modify fun s => { s with seed := n.natAbs % 0x80000000 }
      return .ofNat before
    | .tolower => do return .text ((← textAt 0).map lowerByte)
    | .toupper => do return .text ((← textAt 0).map upperByte)
    | .system => do
      let (_, status) ← runCommand setting (← textAt 0) none false
      return .ofNat status
    | .close => do
      let status ← closeOne setting (← textAt 0)
      return .number (if status < 0 then -1.0 else nearest false status.toNat 0)
    | .flush => do
      flush
      return .number 0.0

/-- The text that a format makes of values. -/
def format (vs : List Value) : Run Value := do
  match vs with
  | [] => return .text []
  | f :: vs => do
    let bs ← toText f
    match formatted (Value.textWith (octets "%.6g")) (bs.length + 1) [] vs bs with
    | .ok out => return .text out
    | .error e => do
      complain e
      return .unset

/-- Where the output of a statement goes. -/
def directed (setting : Setting) : (fuel : Nat) → Option (Direction × Expr) →
    Run (Option (Direction × Bytes))
  | 0, _ => return none
  | fuel + 1, target => do
    match target with
    | none => return none
    | some (d, e) => return some (d, ← toText (← eval setting fuel e))

/-- Carries out a statement. -/
def exec (setting : Setting) : (fuel : Nat) → Stmt → Run Outcome
  | 0, _ => do
    complain "function call nesting too deep"
    return .next
  | fuel + 1, s => do
    if !(← goesOn) then return .next
    else
      match s with
      | .expr e => do
        let _ ← eval setting fuel e
        return .next
      | .print args target => do
        let vs ← evalAll setting fuel args
        let target ← directed setting fuel target
        let outFormat ← toText (← global "OFMT")
        let shown := vs.map (Value.textWith outFormat)
        let body ←
          if args.isEmpty then do pure (← get).record
          else do pure ((← toText (← global "OFS")).intercalate shown)
        if ← goesOn then put target (body ++ (← toText (← global "ORS")))
        return .next
      | .printf args target => do
        let vs ← evalAll setting fuel args
        let target ← directed setting fuel target
        let v ← format vs
        if ← goesOn then put target (v.textWith [])
        return .next
      | .choice c yes no => do
        if (← eval setting fuel c).holds then exec setting fuel yes
        else
          match no with
          | some no => exec setting fuel no
          | none => return .next
      | .loop c body => loop setting fuel (some c) none body
      | .loopAfter body c => do
        match ← exec setting fuel body with
        | .next | .again => loop setting fuel (some c) none body
        | .leave => return .next
        | o => return o
      | .count start c step body => do
        match start with
        | some s => do let _ ← exec setting fuel s
        | none => pure ()
        loop setting fuel c step body
      | .each name array body => do
        let keys := keysInOrder (← table (← arrayOf array))
        eachKey setting fuel name keys body
      | .block body => execAll setting fuel body
      | .next => return .record
      | .exit e => do
        let status ←
          match e with
          | some e => do pure (wholeOf (← eval setting fuel e).toNumber % 256).toNat
          | none => pure ((← get).ended.getD 0)
        modify fun s => { s with ended := some (s.ended.getD status) }
        return .next
      | .leave => return .leave
      | .again => return .again
      | .back e => do
        match e with
        | some e => return .back (← eval setting fuel e)
        | none => return .back .unset
      | .delete name keys => do
        let id ← arrayOf name
        match keys with
        | none => setTable id {}
        | some keys => do
          let key ← keyOf (← evalAll setting fuel keys)
          setTable id ((← table id).erase key.1)
        return .next

/-- Carries out statements. -/
def execAll (setting : Setting) : (fuel : Nat) → List Stmt → Run Outcome
  | 0, _ => return .next
  | fuel + 1, ss => do
    match ss with
    | [] => return .next
    | s :: ss => do
      match ← exec setting fuel s with
      | .next => execAll setting fuel ss
      | o => return o

/-- Carries out a loop. -/
def loop (setting : Setting) : (fuel : Nat) → Option Expr → Option Stmt → Stmt → Run Outcome
  | 0, _, _, _ => do
    modify fun s => { s with machine := { s.machine with budget := 0 }, ended := some 2 }
    return .next
  | fuel + 1, c, step, body => do
    let holds ←
      match c with
      | some e => do pure (← eval setting fuel e).holds
      | none => pure true
    if !holds || !(← goesOn) then return .next
    else
      match ← exec setting fuel body with
      | .next | .again => do
        match step with
        | some s => do let _ ← exec setting fuel s
        | none => pure ()
        loop setting fuel c step body
      | .leave => return .next
      | o => return o

/-- Carries out a loop over keys. -/
def eachKey (setting : Setting) : (fuel : Nat) → Bytes → List Bytes → Stmt → Run Outcome
  | 0, _, _, _ => return .next
  | fuel + 1, name, keys, body => do
    match keys with
    | [] => return .next
    | k :: ks => do
      setVariable name (.text k)
      match ← exec setting fuel body with
      | .next | .again => eachKey setting fuel name ks body
      | .leave => return .next
      | o => return o

end

/-! ## Running a program -/

/-- How deep calls and loops may go. -/
def depthLimit : Nat := 200000

/-- Whether the pattern of a rule selects the record. `open?` says whether the range of the rule is
    open. The second flag tells whether it stays open. -/
def selects (setting : Setting) (isOpen : Bool) : Pattern → Run (Bool × Bool)
  | .first | .last => return (false, false)
  | .all => return (true, false)
  | .one e => do return ((← eval setting depthLimit e).holds, false)
  | .range a b => do
    let begins ← if isOpen then pure true else do pure (← eval setting depthLimit a).holds
    if !begins then return (false, false)
    else return (true, !(← eval setting depthLimit b).holds)

/-- Carries out the rules for the record. The ranges that are open are told for the rules. -/
def workOn (setting : Setting) : List Rule → List Bool → Run (List Bool)
  | [], _ => return []
  | r :: rs, ranges => do
    let (selected, stays) ← selects setting (ranges.head?.getD false) r.pattern
    let outcome ←
      if !selected then pure Outcome.next
      else
        match r.action with
        | some s => exec setting depthLimit s
        | none => exec setting depthLimit (.print [] none)
    match outcome with
    | .record => return stays :: ranges.tail
    | _ =>
      if ← goesOn then return stays :: (← workOn setting rs ranges.tail)
      else return stays :: ranges.tail

/-- Works on all records. `fuel` bounds their number. -/
def workOnAll (setting : Setting) : (fuel : Nat) → List Bool → Run Unit
  | 0, _ => return ()
  | fuel + 1, ranges => do
    if ← goesOn then
      match ← nextRecord contentLimit with
      | none => return ()
      | some bs => do
        setRecord bs
        let ranges ← workOn setting setting.program.rules ranges
        workOnAll setting fuel ranges

/-- Carries out the actions of rules one after the other. -/
def runActions (setting : Setting) : List Rule → Run Unit
  | [] => return ()
  | r :: rs => do
    match r.action with
    | some s => do let _ ← exec setting depthLimit s
    | none => pure ()
    if ← goesOn then runActions setting rs

/-- Ends all commands that output goes to. -/
def closeAll (setting : Setting) : List Bytes → Run Unit
  | [] => return ()
  | name :: rest => do
    let _ ← closeOne setting name
    closeAll setting rest

/-- Runs a program. -/
def runProgram (setting : Setting) : Run Unit := do
  let rules := setting.program.rules
  let isFirst (r : Rule) : Bool := match r.pattern with | .first => true | _ => false
  let isLast (r : Rule) : Bool := match r.pattern with | .last => true | _ => false
  runActions setting (rules.filter isFirst)
  if rules.any fun r => !isFirst r then
    if ← goesOn then workOnAll setting 1000000000 (rules.map fun _ => false)
    let s ← get
    if s.fault.isNone then
      let before := s.ended
      if before.isNone || (rules.any fun r => !isFirst r) then
        set { s with ended := none }
        runActions setting (rules.filter isLast)
        modify fun s => { s with ended := s.ended.or before }
  flush
  let commands := (← get).pipes.map (·.1)
  closeAll setting commands

end Awk

/-- The program `awk`; `shell` runs a command. -/
def awk (shell : Machine → Bytes → Machine) (m : Machine) (args : List Bytes) : Machine :=
  match (usage "" "Ffv").strict.read args with
  | .error e => fail m "awk" e 2
  | .ok a =>
    let sources : List Bytes × Machine := (a.values 'f').foldl
      (fun acc path =>
        match contentFor acc.2 path with
        | (.ok bs, m) => (acc.1 ++ [bs], m)
        | (.error e, m) =>
          (acc.1, fail m "awk" ("cannot open " ++ text path ++ " (" ++ e ++ ")") 2))
      ([], m.withStatus 0)
    let m := sources.2
    let (source, operands) : Option Bytes × List Bytes :=
      if a.has 'f' then (some ((octets "\n").intercalate sources.1), a.operands)
      else
        match a.operands with
        | s :: rest => (some s, rest)
        | [] => (none, [])
    match source with
    | none => (m.warn "Usage: awk [Options] [Program] [file ...]").withStatus (if args.isEmpty then 0 else 2)
    | some source =>
      if m.status != 0 then m
      else
        match Awk.Program.read source with
        | .error e => fail m "awk" ("line 1: " ++ e) 2
        | .ok p =>
          let undefined := p.functions.any fun f => f.params.contains f.name
          if undefined then fail m "awk" "syntax error" 2
          else
            let setting : Awk.Setting :=
              ⟨p, p.arrayParams (p.functions.length + 1), shell, operands.toArray⟩
            let arguments := octets "awk" :: operands
            let argv : Awk.Table := ((List.range arguments.length).zip arguments).foldl
              (fun (t : Awk.Table) e => t.insert (number e.1) ⟨.read e.2, e.1, true⟩) {}
            let environ : Awk.Table := m.environment.foldl
              (fun (t : Awk.Table) e => t.insert e.1 ⟨.read e.2, t.size, false⟩) {}
            let texts : List (String × String) :=
              [("FS", " "), ("OFS", " "), ("ORS", "\n"), ("RS", "\n"), ("SUBSEP", "\x1c"),
               ("CONVFMT", "%.6g"), ("OFMT", "%.6g"), ("FILENAME", "")]
            let globals : Std.HashMap Bytes Awk.Value := texts.foldl
              (fun g e => g.insert (octets e.1) (.text (octets e.2))) {}
            let globals := [("NR", 0), ("FNR", 0), ("RSTART", 0), ("ARGC", arguments.length)].foldl
              (fun g e => g.insert (octets e.1) (Awk.Value.ofNat e.2)) globals
            let globals := globals.insert (octets "RLENGTH") (.number (-1.0))
            let separator? := (a.value? 'F').map fun f =>
              if f = octets "t" then [0x09] else Awk.unquoted f
            let globals := match separator? with
              | some f => globals.insert (octets "FS") (.text f)
              | none => globals
            let globals := (a.values 'v').foldl
              (fun g v =>
                match assigned? v with
                | some (name, value) => g.insert name (.read (Awk.unquoted value))
                | none => g)
              globals
            let start : Awk.State :=
              { machine := m, globals := globals
                arrays := ({} : Std.HashMap Nat Awk.Table).insert 0 argv |>.insert 1 environ
                arrayIds := ({} : Std.HashMap Bytes Nat).insert (octets "ARGV") 0
                  |>.insert (octets "ENVIRON") 1
                nextArray := 2, locals := [], record := [], fields := some #[], separator := [0x20]
                input := none, operand := 1, sawFile := false, readers := [], written := []
                pipes := [], regexes := {}, stamp := 1000000, output := [], seed := 42
                ended := none, fault := none }
            let after := ((Awk.runProgram setting).run start).2
            match after.fault with
            | some e => fail after.machine "awk" e 2
            | none => after.machine.withStatus (after.ended.getD 0)

end Conformance.Shell.Tool
