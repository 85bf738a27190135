import Conformance.Shell.Builtin.Control

/-!
# Programs about the machine

The programs that tell who and where one is, and what time it is. The machine's own time begins at a
fixed moment and passes as the time of the shell does.
-/

namespace Conformance.Shell.Tool

/-! ## Days -/

/-- The seconds from the beginning of 1970 to the moment at which a run starts. -/
def startTime : Nat := 1767225600

/-- A moment of Universal Time. -/
structure Moment where
  seconds : Int
  nanos : Nat

/-- Year, month and day by the number of days since the beginning of 1970. -/
def civil (days : Int) : Int × Nat × Nat :=
  let z := days + 719468
  let era := Int.fdiv z 146097
  let dayOfEra := (z - era * 146097).toNat
  let yearOfEra := (dayOfEra - dayOfEra / 1460 + dayOfEra / 36524 - dayOfEra / 146096) / 365
  let dayOfYear := dayOfEra - (365 * yearOfEra + yearOfEra / 4 - yearOfEra / 100)
  let shifted := (5 * dayOfYear + 2) / 153
  let day := dayOfYear - (153 * shifted + 2) / 5 + 1
  let month := if shifted < 10 then shifted + 3 else shifted - 9
  ((yearOfEra : Int) + era * 400 + (if month ≤ 2 then 1 else 0), month, day)

/-- The number of days from the beginning of 1970 to a date. -/
def daysTo (year : Int) (month day : Nat) : Int :=
  let y := if month ≤ 2 then year - 1 else year
  let era := Int.fdiv y 400
  let yearOfEra := (y - era * 400).toNat
  let shifted := if 2 < month then month - 3 else month + 9
  let dayOfYear := (153 * shifted + 2) / 5 + day - 1
  era * 146097 + (yearOfEra * 365 + yearOfEra / 4 - yearOfEra / 100 + dayOfYear : Nat) - 719468

/-- A number of at least some digits. -/
def digits (width n : Nat) (fill : Char) : String :=
  let s := toString n
  String.ofList (List.replicate (width - s.length) fill) ++ s

namespace Moment

/-- The names of the days, Sunday first. -/
def dayNames : List String :=
  ["Sunday", "Monday", "Tuesday", "Wednesday", "Thursday", "Friday", "Saturday"]

/-- The names of the months. -/
def monthNames : List String :=
  ["January", "February", "March", "April", "May", "June", "July", "August", "September",
    "October", "November", "December"]

/-- The days since the beginning of 1970. -/
def days (t : Moment) : Int := Int.fdiv t.seconds 86400

/-- The second of the day. -/
def second (t : Moment) : Nat := (t.seconds - t.days * 86400).toNat

/-- What a letter of a format stands for; composite formats are given by their own format. -/
def letter (t : Moment) (c : Char) : Except String String :=
  let (year, month, day) := civil t.days
  let hour := t.second / 3600
  let half := if hour % 12 = 0 then 12 else hour % 12
  let weekday := (Int.emod (t.days + 4) 7).toNat
  let dayOfYear := (t.days - daysTo year 1 1).toNat
  let dayName := dayNames[weekday]?.getD ""
  let monthName := monthNames[month - 1]?.getD ""
  match c with
  | 'Y' => .ok (toString year)
  | 'C' => .ok (digits 2 (Int.fdiv year 100).toNat '0')
  | 'y' => .ok (digits 2 (Int.emod year 100).toNat '0')
  | 'm' => .ok (digits 2 month '0')
  | 'd' => .ok (digits 2 day '0')
  | 'e' => .ok (digits 2 day ' ')
  | 'H' => .ok (digits 2 hour '0')
  | 'k' => .ok (digits 2 hour ' ')
  | 'I' => .ok (digits 2 half '0')
  | 'l' => .ok (digits 2 half ' ')
  | 'M' => .ok (digits 2 (t.second / 60 % 60) '0')
  | 'S' => .ok (digits 2 (t.second % 60) '0')
  | 's' => .ok (toString t.seconds)
  | 'N' => .ok (digits 9 t.nanos '0')
  | 'p' => .ok (if hour < 12 then "AM" else "PM")
  | 'P' => .ok (if hour < 12 then "am" else "pm")
  | 'j' => .ok (digits 3 (dayOfYear + 1) '0')
  | 'u' => .ok (toString (if weekday = 0 then 7 else weekday))
  | 'w' => .ok (toString weekday)
  | 'U' => .ok (digits 2 ((dayOfYear + 7 - weekday) / 7) '0')
  | 'W' => .ok (digits 2 ((dayOfYear + 7 - (weekday + 6) % 7) / 7) '0')
  | 'a' => .ok (dayName.take 3).toString
  | 'A' => .ok dayName
  | 'b' | 'h' => .ok (monthName.take 3).toString
  | 'B' => .ok monthName
  | 'n' => .ok "\n"
  | 't' => .ok "\t"
  | 'Z' => .ok "UTC"
  | 'z' => .ok "+0000"
  | '%' => .ok "%"
  | 'F' => .error "%Y-%m-%d"
  | 'T' | 'X' => .error "%H:%M:%S"
  | 'D' | 'x' => .error "%m/%d/%y"
  | 'R' => .error "%H:%M"
  | 'r' => .error "%I:%M:%S %p"
  | 'c' => .error "%a %b %e %H:%M:%S %Y"
  | c => .ok ("%" ++ String.singleton c)

/-- A moment in a format. `fuel` bounds how far formats stand for each other. -/
def format (t : Moment) : (fuel : Nat) → List Char → String
  | 0, _ => ""
  | _, [] => ""
  | fuel + 1, '%' :: '-' :: c :: cs =>
    let told := format t fuel ['%', c]
    let short := told.toList.dropWhile fun d => d = '0' || d = ' '
    (if short.isEmpty && !told.isEmpty then "0" else String.ofList short) ++ format t fuel cs
  | fuel + 1, '%' :: c :: cs =>
    let told : String :=
      match t.letter c with
      | .ok s => s
      | .error f => format t fuel f.toList
    told ++ format t fuel cs
  | fuel + 1, c :: cs => String.singleton c ++ format t fuel cs

end Moment

/-- The moment that a text names: seconds after `@`, or a date with a time or without. -/
def momentOf? (now : Moment) (given : Bytes) : Option Moment :=
  match given with
  | [] => none
  | b :: rest =>
    if b = ascii '@' then (integer? rest).map fun n => ⟨n, 0⟩
    else if given = octets "now" then some now
    else
      match wordsOf (given.map fun c => if c = ascii 'T' then ascii ' ' else c) with
      | [date] => dateOf date 0
      | [date, time] => (secondsOf time).bind (dateOf date)
      | [date, time, zone] =>
        if zone = octets "UTC" then (secondsOf time).bind (dateOf date) else none
      | _ => none
where
  dateOf (date : Bytes) (seconds : Nat) : Option Moment :=
    match (cutAt (· = ascii '-') date).mapM natural? with
    | some [y, m, d] =>
      if 1 ≤ m && m ≤ 12 && 1 ≤ d && d ≤ 31 then some ⟨daysTo y m d * 86400 + seconds, 0⟩ else none
    | _ => none
  secondsOf (time : Bytes) : Option Nat :=
    match (cutAt (· = ascii ':') (trimEnd (· = ascii 'Z') time)).mapM natural? with
    | some [h, m] => some (h * 3600 + m * 60)
    | some [h, m, s] => some (h * 3600 + m * 60 + s)
    | _ => none

/-- The program `date`. -/
def date (m : Machine) (args : List Bytes) : Machine :=
  let u := (usage "uR" "dsrfI").withLong
    [("utc", 'u'), ("universal", 'u'), ("date", 'd'), ("reference", 'r'), ("rfc-email", 'R')]
  let args := args.map fun a => if a = octets "-I" || a = octets "--iso-8601" then octets "+%F" else a
  withArguments m "date" u 1 args fun a =>
    let now : Moment :=
      ⟨(startTime + m.clock / 1000000000 : Nat), m.clock % 1000000000⟩
    let chosen : Except Bytes Moment :=
      match a.value? 'd' with
      | some given => match momentOf? now given with | some t => .ok t | none => .error given
      | none => .ok now
    match chosen with
    | .error given => fail m "date" ("invalid date '" ++ text given ++ "'") 1
    | .ok t =>
      match a.operands with
      | [] =>
        let f := if a.has 'R' then "%a, %d %b %Y %H:%M:%S %z" else "%a %b %e %H:%M:%S %Z %Y"
        (m.print (line (octets (t.format 200 f.toList)))).withStatus 0
      | [f] =>
        match f with
        | b :: f =>
          if b = ascii '+' then
            (m.print (line (octets (t.format (f.length + 32) (text f).toList)))).withStatus 0
          else fail m "date" ("invalid date '" ++ text (b :: f) ++ "'") 1
        | [] => fail m "date" "invalid date ''" 1
      | _ :: extra :: _ => excess m "date" extra 1

/-! ## Names -/

/-- The program `id`: who one is. -/
def whoIs (m : Machine) (args : List Bytes) : Machine :=
  withArguments m "id" (usage "ugGnrz" "") 1 args fun a =>
    let told : String :=
      if a.has 'u' || a.has 'g' || a.has 'G' then if a.has 'n' then "root" else "0"
      else "uid=0(root) gid=0(root) groups=0(root)"
    match a.operands with
    | [] => (m.print (line (octets told))).withStatus 0
    | user :: _ =>
      if user = octets "root" || user = octets "0" then
        (m.print (line (octets told))).withStatus 0
      else fail m "id" ("'" ++ text user ++ "': no such user") 1

/-- The program `uname`. -/
def uname (m : Machine) (args : List Bytes) : Machine :=
  let u := (usage "asnrvmpio" "").withLong
    [("all", 'a'), ("kernel-name", 's'), ("nodename", 'n'), ("machine", 'm'),
      ("operating-system", 'o')]
  withArguments m "uname" u 1 args fun a =>
    let parts : List (Char × String) :=
      [('s', "Linux"), ('n', "localhost"), ('r', "6.1.0"), ('v', "#1 SMP"), ('m', "x86_64"),
        ('o', "GNU/Linux")]
    let chosen := if a.options.isEmpty then ['s'] else if a.has 'a' then parts.map (·.1)
      else a.options.map (·.1)
    match a.operands with
    | extra :: _ => excess m "uname" extra 1
    | [] =>
      let told := (parts.filter fun p => chosen.contains p.1).map (·.2)
      (m.print (line (octets (" ".intercalate told)))).withStatus 0

/-- A program that tells one line. -/
def tells (told : String) (tool : String) (m : Machine) (args : List Bytes) : Machine :=
  match args.find? fun a => a.head? != some (ascii '-') with
  | some extra => excess m tool extra 1
  | none => (m.print (line (octets told))).withStatus 0

/-- The program `pwd`. -/
def pwd (m : Machine) (args : List Bytes) : Machine :=
  withArguments m "pwd" ((usage "LP" "").withLong [("logical", 'L'), ("physical", 'P')]) 1 args
    fun a =>
      let told :=
        if a.last? ['L', 'P'] = some 'L' then Builtin.directoryName m
        else Builtin.placeText m.files.cwd
      (m.print (line told)).withStatus 0

/-- The program `which`. -/
def which (m : Machine) (args : List Bytes) : Machine :=
  withArguments m "which" (usage "as" "") 2 args fun a =>
    if a.operands.isEmpty then m.withStatus 1
    else
      a.operands.foldl
        (fun m name =>
          let found : Option Bytes :=
            if name.contains Path.slash then
              match m.files.lookup name with
              | .ok (.file _ true) | .ok (.tool _) => some name
              | _ => none
            else (Builtin.searchPath m (Builtin.pathDirectories m) name).1
          match found with
          | some path => if a.has 's' then m else m.print (line path)
          | none => m.withStatus 1)
        (m.withStatus 0)

/-- How much of an endless output is written to somebody who reads only a part of it. -/
def endlessOutput : Nat := 131072

/-- The program `yes`. It never ends unless nobody reads on. -/
def yes (m : Machine) (args : List Bytes) : Machine :=
  let told := line (if args.isEmpty then octets "y" else (octets " ").intercalate args)
  match m.stream? 1 with
  | some (.keep _) =>
    let copies := (List.replicate (endlessOutput / told.length + 1) told).flatten
    { m.print copies with budget := 0 }
  | none | some .full => { m with blocked := true }
  | _ => { m with budget := 0 }

end Conformance.Shell.Tool
