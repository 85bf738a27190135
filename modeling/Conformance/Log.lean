/-!
# Diagnostics

Events that are told on the side, by level and subject. By default warnings and errors are shown;
a verbose log also shows information, and every subject can be shown in full.

This is the logging of the specification (§10.9): `Selection` is what `compose_filter` composes, and `line`
is a line on the standard error stream.

## Lines

A line holds the level, right-aligned, and the message. Characters that would disturb a terminal
are written by their numbers.
-/

namespace Conformance

/-- How much an event matters. -/
inductive Level where
  | error | warn | info | debug
  deriving DecidableEq, Repr

namespace Level

/-- The place of a level: smaller matters more. -/
def rank : Level → Nat
  | .error => 0
  | .warn => 1
  | .info => 2
  | .debug => 3

/-- The name of a level in a line of the log, five characters wide. -/
def label : Level → String
  | .error => "ERROR"
  | .warn => " WARN"
  | .info => " INFO"
  | .debug => "DEBUG"

/-- The number of the colour of a level. -/
def colour : Level → String
  | .error => "31"
  | .warn => "33"
  | .info => "32"
  | .debug => "34"

end Level

/-- The subjects that can be shown in full. -/
inductive Subject where
  | discovery | expectation | execution | runner
  deriving DecidableEq, Repr

/-- The name of a subject. -/
def Subject.name : Subject → String
  | .discovery => "discovery"
  | .expectation => "expectation"
  | .execution => "execution"
  | .runner => "runner"

/-- Something told on the side. An event without a subject is about the program itself. -/
structure Event where
  level : Level
  subject : Option Subject
  message : String
  deriving DecidableEq, Repr

namespace Log

/-- What is shown. -/
structure Selection where
  verbose : Bool
  full : List Subject
  deriving DecidableEq, Repr

/-- Whether an event is shown. -/
def Selection.shows (s : Selection) (e : Event) : Bool :=
  let inFull : Bool :=
    match e.subject with
    | some subject => s.full.contains subject
    | none => false
  if inFull then true
  else e.level.rank ≤ (if s.verbose then Level.info.rank else Level.warn.rank)

/-- A character as it is written in a line. -/
def writeChar (c : Char) : String :=
  match c with
  | '\x1b' => "\\x1b"
  | '\x07' => "\\x07"
  | '\x08' => "\\x08"
  | '\x0c' => "\\x0c"
  | '\x7f' => "\\x7f"
  | c =>
    if 0x80 ≤ c.toNat ∧ c.toNat ≤ 0x9f then
      "\\u\x7b" ++ String.ofList (Nat.toDigits 16 c.toNat) ++ "\x7d"
    else String.singleton c

/-- A message as it is written in a line. -/
def writeMessage (message : String) : String := String.join (message.toList.map writeChar)

/-- The line of an event. -/
def line (coloured : Bool) (e : Event) : String :=
  let label :=
    if coloured then "\x1b[" ++ e.level.colour ++ "m" ++ e.level.label ++ "\x1b[0m"
    else e.level.label
  label ++ " " ++ writeMessage e.message

/-- The lines of the events that are shown. -/
def lines (selection : Selection) (coloured : Bool) (events : List Event) : List String :=
  (events.filter selection.shows).map (line coloured)

end Log
end Conformance
