/-!
# Masked reports

Reports of the same run differ in what the clock says and in the numbers that tasks happen to get.
Masking replaces these parts, so that reports can be compared: the timestamps and times of
documents, the times at the ends of lines, the time of the whole run, and the numbers of tasks that
panicked.
-/

namespace Conformance.Masked

/-- The rest of a text after the given front, if it begins with it. -/
def after? : (front text : List Char) → Option (List Char)
  | [], text => some text
  | a :: as, b :: bs => if a = b then after? as bs else none
  | _ :: _, [] => none

/-- Whether a character may stand in a number. -/
def isNumberChar (c : Char) : Bool := c.isDigit || c = '.'

/-- The rest of a text after a number, if it begins with one. -/
def afterNumber? (text : List Char) : Option (List Char) :=
  match text with
  | c :: cs => if isNumberChar c then some (cs.dropWhile isNumberChar) else none
  | [] => none

/-- The rest of a text after a number and a unit of time. -/
def afterTime? (text : List Char) : Option (List Char) := do
  let rest ← afterNumber? text
  (((after? "ns".toList rest).or (after? "µs".toList rest)).or (after? "ms".toList rest)).or
    (after? "s".toList rest)

/-- Whether a text is at the end of a line, a reset of the colour apart. -/
def atLineEnd (text : List Char) : Bool :=
  let rest := (after? "\x1b[0m".toList text).getD text
  rest.isEmpty || rest.head? = some '\n' || text.isEmpty || text.head? = some '\n'

/-- Replaces parts of a text from left to right. `rule` is told whether a line begins here, and
    gives the replacement of a part that begins here and the rest of the text. `skip` counts the
    characters of a replaced part that are still to be left out, and `done` holds the result so
    far, last first. -/
def replaceOnto (rule : Bool → List Char → Option (List Char × List Char)) (lineStart : Bool)
    (skip : Nat) (done : List Char) : List Char → List Char
  | [] => done.reverse
  | c :: cs =>
    match skip with
    | skip + 1 => replaceOnto rule (c = '\n') skip done cs
    | 0 =>
      match rule lineStart (c :: cs) with
      | some (text, rest) =>
        replaceOnto rule (c = '\n') (cs.length - rest.length) (text.reverse ++ done) cs
      | none => replaceOnto rule (c = '\n') 0 (c :: done) cs

/-- The rule for timestamps. -/
def timestampRule (_ : Bool) (text : List Char) : Option (List Char × List Char) := do
  let rest ← after? " timestamp=\"".toList text
  let rest ← after? ['"'] (rest.dropWhile (· != '"'))
  return (" timestamp=\"T\"".toList, rest)

/-- The rule for times of documents. -/
def timeRule (_ : Bool) (text : List Char) : Option (List Char × List Char) := do
  let rest ← after? " time=\"".toList text
  let rest ← afterNumber? rest
  let rest ← after? ['"'] rest
  return (" time=\"D\"".toList, rest)

/-- The rule for times at the ends of lines. -/
def lineTimeRule (_ : Bool) (text : List Char) : Option (List Char × List Char) := do
  let rest ← after? " [".toList text
  let rest ← afterTime? rest
  let rest ← after? [']'] rest
  if atLineEnd rest then return (" [D]".toList, rest) else none

/-- The rule for the time of the whole run. -/
def runTimeRule (lineStart : Bool) (text : List Char) : Option (List Char × List Char) := do
  if lineStart then
    let rest ← after? "ran in ".toList text
    let rest ← afterTime? rest
    if rest.isEmpty || rest.head? = some '\n' then return ("ran in D".toList, rest) else none
  else none

/-- The rule for the numbers of tasks. -/
def taskRule (_ : Bool) (text : List Char) : Option (List Char × List Char) := do
  let rest ← after? "task ".toList text
  match rest with
  | c :: cs =>
    if c.isDigit then
      let rest ← after? " panicked".toList (cs.dropWhile Char.isDigit)
      return ("task N panicked".toList, rest)
    else none
  | [] => none

/-- A text with the parts that a rule names replaced. -/
def replace (rule : Bool → List Char → Option (List Char × List Char)) (text : List Char) :
    List Char :=
  replaceOnto rule true 0 [] text

/-- A text without timestamps. -/
def maskTimestamps (text : String) : String :=
  String.ofList (replace timestampRule text.toList)

/-- A text without the time of the whole run. -/
def maskRunTime (text : String) : String := String.ofList (replace runTimeRule text.toList)

/-- A text without anything that differs between two reports of the same run. -/
def mask (text : String) : String :=
  let rules := [timestampRule, timeRule, lineTimeRule, runTimeRule, taskRule]
  String.ofList (rules.foldl (fun t rule => replace rule t) text.toList)

end Conformance.Masked
