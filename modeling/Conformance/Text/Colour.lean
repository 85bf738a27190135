/-!
# Coloured text

A line is coloured by a control sequence in front of it and a reset behind it. A reset inside the
line would end the colour early, so the colour is set again after each of them.

These are the colours of the specification's reports (§10.7).
-/

namespace Conformance

/-- The colours in use. -/
inductive Colour where
  | red | green | yellow | blue
  deriving DecidableEq, Repr

namespace Colour

/-- The number of a colour in a control sequence. -/
def code : Colour → String
  | .red => "31"
  | .green => "32"
  | .yellow => "33"
  | .blue => "34"

/-- The characters that set a colour. -/
def set (c : Colour) : List Char := ("\x1b[" ++ c.code ++ "m").toList

/-- The characters that end every colour. -/
def reset : List Char := "\x1b[0m".toList

/-- A text with a colour set again after every reset in it. `done` holds the characters before,
    last first. -/
def resumeOnto (colour : List Char) (done : List Char) : List Char → List Char
  | '\x1b' :: '[' :: '0' :: 'm' :: rest =>
    resumeOnto colour (colour.reverse ++ 'm' :: '0' :: '[' :: '\x1b' :: done) rest
  | c :: rest => resumeOnto colour (c :: done) rest
  | [] => done.reverse

/-- A text in a colour. -/
def paint (c : Colour) (text : List Char) : List Char :=
  c.set ++ resumeOnto c.set [] text ++ reset

/-- A text in a colour, if colours are wanted. -/
def paintIf (wanted : Bool) (c : Colour) (text : String) : String :=
  if wanted then String.ofList (c.paint text.toList) else text

end Colour
end Conformance
