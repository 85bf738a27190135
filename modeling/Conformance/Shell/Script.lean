import Conformance.Shell.Octet

/-!
# Scripts

Commands of the shell, as they are written. Words are kept in pieces, because what a piece stands
for depends on whether it is quoted, and is known only when the command runs.
-/

namespace Conformance.Shell

/-- What becomes of a parameter instead of its value. -/
inductive Instead where
  /-- Another word stands in for a parameter that has no value. -/
  | useWord
  /-- The parameter is given a value first. -/
  | assign
  /-- The shell ends with a complaint. -/
  | complain
  /-- Another word stands in for a parameter that has a value. -/
  | unlessUnset
  deriving DecidableEq, Repr

/-- How a file is attached to a stream. -/
inductive RedirectKind where
  | input | output | append | clobber | both | duplicate
  /-- The target is what the stream gives. -/
  | here
  deriving DecidableEq, Repr

mutual

/-- A piece of a word. -/
inductive Piece where
  /-- Octets as they stand. -/
  | text (quoted : Bool) (octets : Bytes)
  /-- The value of a parameter. -/
  | parameter (quoted : Bool) (name : Bytes) (change : Change)
  /-- The output of a command. -/
  | output (quoted : Bool) (body : Command)
  /-- The value of a sum. -/
  | arithmetic (quoted : Bool) (sum : List Piece)
  /-- A parameter that is asked for in a way that makes no sense. -/
  | senseless

/-- What is made of the value of a parameter. -/
inductive Change where
  | same
  | size
  /-- What happens if there is no value, or, with `orEmpty`, an empty one. -/
  | instead (orEmpty : Bool) (kind : Instead) (word : List Piece)
  /-- A part that a pattern matches is cut off. -/
  | cut (fromEnd longest : Bool) (pattern : List Piece)

/-- A stream attached to a file or to another stream. -/
inductive Redirect where
  | mk (stream : Nat) (kind : RedirectKind) (target : List Piece)

/-- A command. -/
inductive Command where
  | simple (line : Nat) (assignments : List (Bytes × List Piece)) (words : List (List Piece))
      (redirects : List Redirect)
  | redirected (line : Nat) (body : Command) (redirects : List Redirect)
  | pipeline (stages : List Command)
  | negated (body : Command)
  | both (first second : Command)
  | either (first second : Command)
  | background (body : Command)
  | sequence (commands : List Command)
  | choice (condition body : Command) (otherwise : Option Command)
  | loop (untilTrue : Bool) (condition body : Command)
  | each (line : Nat) (name : Bytes) (words : Option (List (List Piece))) (body : Command)
  | cases (line : Nat) (word : List Piece) (arms : List (List (List Piece) × Option Command))
  | subshell (line : Nat) (body : Command)
  | function (name : Bytes) (body : Command)

end

instance : Inhabited Command := ⟨.simple 0 [] [] []⟩

/-- A word. -/
abbrev Word := List Piece

/-- The stream of a redirection. -/
def Redirect.stream : Redirect → Nat
  | .mk stream _ _ => stream

/-- The kind of a redirection. -/
def Redirect.kind : Redirect → RedirectKind
  | .mk _ kind _ => kind

/-- The target of a redirection. -/
def Redirect.target : Redirect → Word
  | .mk _ _ target => target

/-- The command that does nothing. -/
def Command.nothing : Command := .simple 0 [] [] []

/-- The text of a word of one piece that is not quoted. -/
def plain? : Word → Option Bytes
  | [.text false bs] => some bs
  | _ => none

/-- The octets of a word that stand in it as they are, and whether some are quoted. -/
def literal (w : Word) : Bytes × Bool :=
  (w.flatMap fun p => match p with | .text _ bs => bs | _ => [],
    w.any fun p => match p with | .text q _ => q | _ => false)

/-- The assignment that a word is. -/
def assignment? (w : Word) : Option (Bytes × Word) :=
  match w with
  | .text false bs :: rest =>
    let name := bs.takeWhile isNameByte
    match bs.drop name.length with
    | b :: value =>
      if b = ascii '=' && isName name then
        some (name, if value.isEmpty then rest else .text false value :: rest)
      else none
    | [] => none
  | _ => none

/-- The name and the value of an assignment that was expanded already. -/
def assigned? (bs : Bytes) : Option (Bytes × Bytes) :=
  let name := bs.takeWhile isNameByte
  match bs.drop name.length with
  | b :: value => if b = ascii '=' && isName name then some (name, value) else none
  | [] => none

end Conformance.Shell
