/-!
# Control sequences

A text may hold control sequences, which a terminal obeys and does not show. The plain form of a
text is what is left without them, and without the other control characters but blanks.

A sequence that never ends takes the rest of the text with it, except that a blank ends one that
holds no text of its own, and that another sequence may always begin.
-/

namespace Conformance
namespace Control

/-- What a character stands in. -/
inductive Place where
  /-- Outside of all sequences. -/
  | ground
  /-- After the escape character. -/
  | escape
  /-- In a sequence that ends with its next letter or digit. -/
  | marked
  /-- In a sequence that ends with a letter. -/
  | sequence
  /-- In a text for the terminal that a bell ends. -/
  | command
  /-- In a text for the terminal that only another sequence ends. -/
  | message
  deriving DecidableEq, Repr

/-- Whether a character lies between two others. -/
def within (low high c : Char) : Bool := low ≤ c && c ≤ high

/-- Whether a control character is a blank. -/
def isBlank (c : Char) : Bool := c = '\t' || c = '\n' || c = '\x0c' || c = '\r'

/-- Whether a character outside of all sequences is kept. -/
def isKept (c : Char) : Bool := isBlank c || (' ' ≤ c && c ≠ '\x7f')

/-- The place after the escape character and one more. -/
def afterEscape (c : Char) : Place :=
  if c = '[' then .sequence
  else if c = ']' then .command
  else if c = 'P' || c = 'X' || c = '^' || c = '_' then .message
  else if within ' ' '/' c then .marked
  else if within '0' '~' c then .ground
  else .escape

/-- The place after a character, and whether the character is kept. -/
def step (place : Place) (c : Char) : Place × Bool :=
  if c = '\x1b' then (.escape, false)
  else if c = '\x18' || c = '\x1a' then (.ground, false)
  else
    match place with
    | .ground => (.ground, isKept c)
    | .command => (if c = '\x07' then .ground else .command, false)
    | .message => (.message, false)
    | .escape => if isBlank c then (.ground, true) else (afterEscape c, false)
    | .marked =>
      if isBlank c then (.ground, true)
      else (if within '0' '~' c then .ground else .marked, false)
    | .sequence =>
      if isBlank c then (.ground, true)
      else (if within '@' '~' c then .ground else .sequence, false)

/-- What is left of a text at a place. -/
def plainFrom (place : Place) : List Char → List Char
  | [] => []
  | c :: cs =>
    match step place c with
    | (next, true) => c :: plainFrom next cs
    | (next, false) => plainFrom next cs

/-- The plain form of a text. -/
def plain (text : String) : String := String.ofList (plainFrom .ground text.toList)

end Control
end Conformance
