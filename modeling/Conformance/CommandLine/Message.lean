import Conformance.CommandLine.Arguments
import Conformance.CommandLine.Similarity
import Conformance.CommandLine.Styled

/-!
# Complaints

What the program says about a command line that it cannot make sense of.

A complaint says what is wrong, then which values are possible, then what may be meant instead, then
how the program is used, and last where to learn more.

The specification leaves this to `clap` (§10.10) as well.
-/

namespace Conformance
namespace CommandLine

/-! ## Usage -/

/-- An option as it is used. -/
def Switch.used (s : Switch) : Styled :=
  Styled.faced .literal ("--" ++ s.long)
    ++ s.placeholder?.elim [] fun p => Styled.plain (" <" ++ p ++ ">")

/-- How the program is used with what was given; in general if nothing was given. -/
def usage (given : List Slot) : Styled :=
  let options := given.flatMap fun slot =>
    match slot with
    | .switch s => Styled.plain " " ++ s.used
    | .filters => []
  let rest :=
    if given.isEmpty then " [OPTIONS] [FILTER]..."
    else if given.contains .filters then " <FILTER>..."
    else " [FILTER]..."
  Styled.faced .heading "Usage:" ++ Styled.plain " " ++ Styled.faced .literal programName
    ++ options ++ Styled.plain rest

/-- An option or the filters in a list of what there is. -/
def Slot.listed : Slot → String
  | .switch s => s.shown
  | .filters => "FILTER"

/-- What of the program can be used together. -/
def Slot.group : List Slot :=
  (Switch.all.filter (· ≠ .version)).map .switch ++ [.filters]

/-- How the program is used with an option after others. -/
def usageAfterOthers (s : Switch) : Styled :=
  let option : Styled :=
    if Slot.group.contains (.switch s) then [] else Styled.plain " " ++ s.used
  Styled.faced .heading "Usage:" ++ Styled.plain " " ++ Styled.faced .literal programName ++ option
    ++ Styled.plain (" <" ++ "|".intercalate (Slot.group.map (·.listed)) ++ ">")

namespace Misuse

/-- The kinds of complaints. -/
inductive Kind where
  | unknownArgument
  | invalidValue
  | invalidText
  | valueValidation
  | argumentConflict
  | tooManyValues
  deriving DecidableEq, Repr

/-- The kind of a complaint. -/
def kind : Misuse → Kind
  | .unknownArgument .. => .unknownArgument
  | .missingValue _ | .invalidChoice .. => .invalidValue
  | .invalidText => .invalidText
  | .invalidNumber .. => .valueValidation
  | .usedTwice _ => .argumentConflict
  | .unexpectedValue .. => .tooManyValues

/-- What is wrong. -/
def headline : Misuse → Styled
  | .unknownArgument argument _ _ =>
    Styled.plain "unexpected argument " ++ Styled.quoted .invalid argument ++ Styled.plain " found"
  | .missingValue s =>
    Styled.plain "a value is required for " ++ Styled.quoted .invalid s.shown
      ++ Styled.plain " but none was supplied"
  | .invalidText => Styled.plain "invalid UTF-8 was detected in one or more arguments"
  | .invalidChoice s value =>
    Styled.plain "invalid value " ++ Styled.quoted .invalid value ++ Styled.plain " for "
      ++ Styled.quoted .literal s.shown
  | .invalidNumber s value reason =>
    Styled.plain "invalid value " ++ Styled.quoted .invalid value ++ Styled.plain " for "
      ++ Styled.quoted .literal s.shown ++ Styled.plain (": " ++ reason.text)
  | .usedTwice s =>
    Styled.plain "the argument " ++ Styled.quoted .invalid s.shown
      ++ Styled.plain " cannot be used multiple times"
  | .unexpectedValue s value _ =>
    Styled.plain "unexpected value " ++ Styled.quoted .invalid value ++ Styled.plain " for "
      ++ Styled.quoted .literal s.shown ++ Styled.plain " found; no more were expected"

/-- Which values are possible. -/
def possible (m : Misuse) : Styled :=
  let choices : List String :=
    match m with
    | .missingValue s | .invalidChoice s _ => s.choices
    | _ => []
  match choices with
  | [] => []
  | c :: cs =>
    Styled.plain "\n  [possible values: " ++ Styled.faced .valid c
      ++ cs.flatMap (fun c => Styled.plain ", " ++ Styled.faced .valid c) ++ Styled.plain "]"

/-- A hint on a new paragraph. -/
def tip (hint : Styled) : Styled :=
  Styled.plain "\n\n  " ++ Styled.faced .valid "tip:" ++ Styled.plain " " ++ hint

/-- What may be meant instead. -/
def suggestion : Misuse → Styled
  | .unknownArgument argument none _ =>
    tip (Styled.plain "to pass " ++ Styled.quoted .invalid argument
      ++ Styled.plain " as a value, use " ++ Styled.quoted .valid ("-- " ++ argument))
  | .unknownArgument _ (some similar) _ =>
    tip (Styled.plain "a similar argument exists: " ++ Styled.quoted .valid ("--" ++ similar))
  | .invalidChoice s value =>
    match Similarity.closest? value s.choices with
    | some similar =>
      tip (Styled.plain "a similar value exists: " ++ Styled.quoted .valid similar)
    | none => []
  | _ => []

/-- How the program is used. -/
def usageNote : Misuse → Styled
  | .unknownArgument _ _ given => Styled.plain "\n\n" ++ usage given
  | .unexpectedValue s _ afterOthers =>
    Styled.plain "\n\n" ++ if afterOthers then usageAfterOthers s else usage [.switch s]
  | .usedTwice _ | .invalidText => Styled.plain "\n\n" ++ usage []
  | _ => []

/-- A whole complaint. -/
def message (m : Misuse) : Styled :=
  Styled.faced .alarm "error:" ++ Styled.plain " " ++ m.headline ++ m.possible ++ m.suggestion
    ++ m.usageNote ++ Styled.plain "\n\nFor more information, try "
    ++ Styled.quoted .literal "--help" ++ Styled.plain ".\n"

end Misuse
end CommandLine
end Conformance
