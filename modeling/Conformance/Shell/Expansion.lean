import Conformance.Shell.Glob
import Conformance.Shell.Machine
import Conformance.Shell.Sum

/-!
# Expansion

What the words of a command stand for when it runs. A word is first written out as a row of atoms:
octets that know whether they were quoted and whether separators among them part fields. The row is
then cut into fields, and a field that is a pattern is replaced by the names of files.

A command whose output is part of a word is run by a function that is passed in.
-/

namespace Conformance.Shell

/-- A part of a word that is written out. -/
inductive Atom where
  | octet (b : UInt8) (quoted splits : Bool)
  /-- Something quoted stands here, even if it is empty. -/
  | mark
  /-- An argument ends here and the next one begins. -/
  | gap
  /-- A value begins here. -/
  | seam
  deriving DecidableEq, Repr

namespace Atom

/-- Quoted octets. -/
def quotedOctets (bs : Bytes) : List Atom := .mark :: bs.map fun b => .octet b true false

/-- The octets of a value, which separators part if it is not quoted. -/
def ofValue (quoted : Bool) (bs : Bytes) : List Atom :=
  if quoted then quotedOctets bs else .seam :: bs.map fun b => .octet b false true

/-- The octets of a text as it is written. -/
def ofText (quoted splits : Bool) (bs : Bytes) : List Atom :=
  if quoted then quotedOctets bs
  else (if splits then [.seam] else []) ++ bs.map fun b => .octet b false splits

/-- The octets among atoms, with a separator at each gap. -/
def toField (atoms : List Atom) : Field :=
  atoms.filterMap fun a =>
    match a with
    | .octet b quoted _ => some (b, quoted)
    | .gap => some (ascii ' ', true)
    | .mark | .seam => none

end Atom

/-! ## Cutting -/

/-- What came last, if it was a separator. -/
inductive After where
  | none
  | white
  | other
  deriving DecidableEq, Repr

/-- Fields that are being made: the finished ones, last first, and the octets of the open one, last
    first. -/
structure Fields where
  done : List Field
  open? : Option Field
  after : After

namespace Fields

/-- No fields yet. -/
def none : Fields := ⟨[], .none, .none⟩

/-- Ends the open field. -/
def close (f : Fields) (after : After) : Fields :=
  match f.open? with
  | some c => ⟨c.reverse :: f.done, .none, after⟩
  | .none => { f with after := after }

/-- The fields after one more atom. White separators around a field count for nothing; any other
    separator ends a field, which may be empty. -/
def step (separators : Bytes) (f : Fields) (a : Atom) : Fields :=
  match a with
  | .mark => { f with open? := some (f.open?.getD []) }
  | .seam => { f with after := .none }
  | .gap => f.close .none
  | .octet b quoted splits =>
    if splits && separators.contains b then
      if isBlankByte b || b = 0x0A then
        if f.open?.isSome then f.close .white else f
      else if f.open?.isNone && f.after = .white then { f with after := .other }
      else ⟨(f.open?.getD []).reverse :: f.done, .none, .other⟩
    else ⟨f.done, some ((b, quoted) :: f.open?.getD []), .none⟩

/-- All fields. -/
def all (f : Fields) : List Field := (f.close .none).done.reverse

/-- The fields of atoms. -/
def ofAtoms (separators : Bytes) (atoms : List Atom) : List Field :=
  (atoms.foldl (step separators) none).all

end Fields

/-! ## Homes -/

/-- The home that a name after a tilde stands for. -/
def homeOf? (m : Machine) (name : Bytes) : Option Bytes :=
  if name.isEmpty then m.valueOf? (octets "HOME")
  else if name = octets "root" then some (octets "/root")
  else none

/-- A piece of text in which tildes at the front, or, with `assigns`, also after colons, are replaced.
    `last` says whether the word ends with the piece. -/
def replaceTildes (m : Machine) (assigns atFront last : Bool) (bs : Bytes) : Word :=
  let parts := if assigns then cutAt (· = ascii ':') bs else [bs]
  let rec go (first : Bool) : List Bytes → Word
    | [] => []
    | part :: rest =>
      let colon : Word := if first then [] else [.text false [ascii ':']]
      let closed := last || !rest.isEmpty
      let replaced : Option Word :=
        match part with
        | b :: more =>
          let name := more.takeWhile (· != ascii '/')
          let after := more.drop name.length
          if b = ascii '~' && (atFront || !first) && (closed || !after.isEmpty) then
            (homeOf? m name).map fun home => [.text true home, .text false after]
          else none
        | [] => none
      colon ++ replaced.getD [.text false part] ++ go false rest
  go true parts

/-- A word in which tildes are replaced. -/
def withHomes (m : Machine) (assigns : Bool) (w : Word) : Word :=
  let rec go (atFront : Bool) : Word → Word
    | [] => []
    | .text false bs :: rest =>
      (if bs.contains (ascii '~') then replaceTildes m assigns atFront rest.isEmpty bs
       else [.text false bs]) ++ go false rest
    | p :: rest => p :: go false rest
  go true w

/-! ## Parameters -/

/-- The letters of options in the order in which they are told. -/
def optionLetters : List Char :=
  ['u', 'b', 'a', 'C', 'E', 'V', 'v', 'x', 's', 'n', 'm', 'i', 'I', 'f', 'e']

/-- The value of a parameter that has one value. -/
def parameter? (m : Machine) (name : Bytes) : Option Bytes :=
  match name with
  | [b] =>
    match charOf b with
    | '#' => some (number m.arguments.length)
    | '?' => some (number m.status)
    | '$' => some (number m.processId)
    | '!' => m.lastJob.map number
    | '-' => some (octets (String.ofList (optionLetters.filter m.has)))
    | '0' => some m.name
    | _ =>
      if isDigitByte b then m.arguments[decimal name - 1]? else m.valueOf? name
  | _ =>
    if name.all isDigitByte && !name.isEmpty then
      if decimal name = 0 then some m.name else m.arguments[decimal name - 1]?
    else m.valueOf? name

/-- Whether a parameter stands for all arguments. -/
def isArguments (name : Bytes) : Bool := name = octets "@" || name = octets "*"

/-- The octets between arguments that are written as one text. -/
def argumentGap (m : Machine) : Bytes := m.separators.take 1

/-- The machine after a word could not be expanded. -/
def halt (m : Machine) (message : String) : Machine :=
  { m.complain message with halted := true, status := 2 }

/-- The machine with a variable set by a word. -/
def assignIn (m : Machine) (name value : Bytes) : Machine :=
  if !isName name then halt m (text name ++ ": bad variable name")
  else if m.isFixed name then halt m (text name ++ ": is read only")
  else m.assign name value

/-- The value of a sum as octets. -/
def sumOf (m : Machine) (source : Bytes) : Bytes × Machine :=
  match Sum.evaluate m.valueOf? source with
  | .error e => ([], halt m e)
  | .ok (n, assigned) =>
    let m := assigned.foldl
      (fun m a => if m.halted then m else assignIn m a.1 (integer a.2)) m
    (integer n, m)

/-- The atoms of all arguments. -/
def argumentAtoms (m : Machine) (name : Bytes) (quoted splits : Bool) (arguments : List Bytes) :
    List Atom :=
  if splits && (!quoted || name = octets "@") then
    ([Atom.gap].intercalate (arguments.map (Atom.ofValue quoted)))
  else
    Atom.ofValue (quoted || !splits) ((argumentGap m).intercalate arguments)

/-! ## Words -/

/-- Who runs a command and keeps its output. -/
abbrev Keeper := Machine → Command → Bytes × Machine

mutual

/-- The atoms of a word. `splits` says whether separators part it, and `inner` whether its own text is
    parted as well, because it stands in for a parameter. -/
def atomsOf (keeper : Keeper) : (fuel : Nat) → (splits inner : Bool) → Machine → Word →
    List Atom × Machine
  | 0, _, _, m, _ => ([], m)
  | fuel + 1, splits, inner, m, w =>
    match w with
    | [p] => atomsOfPiece keeper fuel splits inner m p
    | w =>
      let (parts, m) := w.foldl
        (fun (acc : List (List Atom) × Machine) p =>
          if acc.2.halted then acc
          else
            let (atoms, m) := atomsOfPiece keeper fuel splits inner acc.2 p
            (atoms :: acc.1, m))
        ([], m)
      (parts.reverse.flatten, m)

/-- The atoms of a piece of a word. -/
def atomsOfPiece (keeper : Keeper) : (fuel : Nat) → (splits inner : Bool) → Machine → Piece →
    List Atom × Machine
  | 0, _, _, m, _ => ([], m)
  | fuel + 1, splits, inner, m, p =>
    match p with
    | .text quoted bs => (Atom.ofText quoted (splits && inner) bs, m)
    | .output quoted body =>
      let (bs, m) := keeper m body
      (Atom.ofValue (quoted || !splits) (trimEnd (· = 0x0A) (bs.filter (· != 0))), m)
    | .arithmetic quoted sum =>
      let (atoms, m) := atomsOf keeper fuel false false m sum
      if m.halted then ([], m)
      else
        let (bs, m) := sumOf m ((Atom.toField atoms).map (·.1))
        (Atom.ofValue (quoted || !splits) bs, m)
    | .senseless => ([], halt m "Bad substitution")
    | .parameter quoted name change =>
      let all := isArguments name
      let value? : Option Bytes :=
        if all then
          if m.arguments.isEmpty then none
          else some ((argumentGap m).intercalate m.arguments)
        else parameter? m name
      let plain (m : Machine) : List Atom :=
        if all then argumentAtoms m name quoted splits m.arguments
        else value?.elim [] (Atom.ofValue (quoted || !splits))
      let empty : List Atom := if quoted && !(all && name = octets "@") then [.mark] else []
      let missing (m : Machine) : List Atom × Machine :=
        if m.has 'u' && !all then ([], halt m (text name ++ ": parameter not set"))
        else (empty, m)
      match change with
      | .same =>
        match value? with
        | some _ => (plain m, m)
        | none => missing m
      | .size =>
        match value? with
        | some bs => (Atom.ofValue (quoted || !splits) (number bs.length), m)
        | none =>
          if m.has 'u' && !all then missing m
          else (Atom.ofValue (quoted || !splits) (octets "0"), m)
      | .instead orEmpty kind word =>
        let isThere := value?.any fun bs => !(orEmpty && bs.isEmpty)
        let word := if quoted then word else withHomes m false word
        match kind with
        | .useWord =>
          if isThere then (plain m, m)
          else
            let (atoms, m) := atomsOf keeper fuel splits (!quoted) m word
            (if quoted then .mark :: atoms else atoms, m)
        | .unlessUnset =>
          if !isThere then (empty, m)
          else
            let (atoms, m) := atomsOf keeper fuel splits (!quoted) m word
            (if quoted then .mark :: atoms else atoms, m)
        | .assign =>
          if isThere then (plain m, m)
          else
            let (atoms, m) := atomsOf keeper fuel false false m word
            if m.halted then ([], m)
            else
              let value := (Atom.toField atoms).map (·.1)
              (Atom.ofValue (quoted || !splits) value, assignIn m name value)
        | .complain =>
          if isThere then (plain m, m)
          else
            let (atoms, m) := atomsOf keeper fuel false false m word
            let told := text ((Atom.toField atoms).map (·.1))
            let told :=
              if !word.isEmpty then told
              else if orEmpty then "parameter not set or null"
              else "parameter not set"
            if m.halted then ([], m) else ([], halt m (text name ++ ": " ++ told))
      | .cut fromEnd longest pattern =>
        match value? with
        | none => missing m
        | some value =>
          let (atoms, m) := atomsOf keeper fuel false false m pattern
          let pattern := Atom.toField atoms
          let cut := if fromEnd then Glob.cutBack longest pattern else Glob.cutFront longest pattern
          if all && splits then
            let arguments := cutAt (· = 0) (cut ([(0 : UInt8)].intercalate m.arguments))
            (argumentAtoms m name quoted splits arguments, m)
          else (Atom.ofValue (quoted || !splits) (cut value), m)

end

/-- The octets of a word in which nothing has to be replaced. -/
def fixed? (w : Word) : Option Bytes :=
  match w with
  | [.text quoted bs] =>
    if quoted || !bs.any fun b => isIn b ['*', '?', '[', '~', '\\'] then some bs else none
  | _ => none

/-- The field of a word that separators do not part. -/
def fieldOf (keeper : Keeper) (fuel : Nat) (assigns : Bool) (m : Machine) (w : Word) :
    Field × Machine :=
  match fixed? w with
  | some bs => (bs.map fun b => (b, true), m)
  | none =>
    let (atoms, m) := atomsOf keeper fuel false false m (withHomes m assigns w)
    (Atom.toField atoms, m)

/-- The octets of a word that separators do not part. -/
def octetsOf (keeper : Keeper) (fuel : Nat) (assigns : Bool) (m : Machine) (w : Word) :
    Bytes × Machine :=
  match fixed? w with
  | some bs => (bs, m)
  | none =>
    let (atoms, m) := atomsOf keeper fuel false false m (withHomes m assigns w)
    ((Atom.toField atoms).map (·.1), m)

/-- The arguments that a word stands for. -/
def argumentsOf (keeper : Keeper) (fuel : Nat) (m : Machine) (w : Word) : List Bytes × Machine :=
  match fixed? w with
  | some bs => ([bs], m)
  | none =>
    let (atoms, m) := atomsOf keeper fuel true false m (withHomes m false w)
    let fields := Fields.ofAtoms m.separators atoms
    (if m.has 'f' then fields.map fun f => f.map (·.1) else fields.flatMap (Glob.expand m.files), m)

/-- The arguments that words stand for. Words that look like assignments are not parted if `assigns`
    says so. -/
def allArguments (keeper : Keeper) (fuel : Nat) (assigns : Bool) (m : Machine) (ws : List Word) :
    List Bytes × Machine :=
  let (found, m) := ws.foldl
    (fun (acc : List (List Bytes) × Machine) w =>
      if acc.2.halted then acc
      else if assigns && (assignment? w).isSome then
        let (bs, m) := octetsOf keeper fuel true acc.2 w
        ([bs] :: acc.1, m)
      else
        let (bs, m) := argumentsOf keeper fuel acc.2 w
        (bs :: acc.1, m))
    ([], m)
  (found.reverse.flatten, m)

end Conformance.Shell
