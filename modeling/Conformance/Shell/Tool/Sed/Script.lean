import Conformance.Shell.Regex.Reader
import Conformance.Shell.Tool.Printing

/-!
# Scripts for lines

The scripts of `sed`: instructions with addresses, which select the lines that they are carried out for.
The instructions of a group stand between an opening and a closing instruction.
-/

namespace Conformance.Shell.Tool.Sed

/-- An expression of a script: nothing stands for the one that was used last. -/
structure Search where
  regex : Option Regex
  inner : Bool
  deriving DecidableEq, Repr

/-- What selects a line. -/
inductive Address where
  | line (n : Nat)
  /-- Every line at a distance from a first one. -/
  | every (first step : Nat)
  | last
  | search (s : Search)
  deriving DecidableEq, Repr

/-- Where a range ends. -/
inductive RangeEnd where
  | line (n : Nat)
  | last
  | search (s : Search)
  | after (n : Nat)
  | multiple (n : Nat)
  deriving DecidableEq, Repr

/-- The lines that an instruction is for. -/
inductive Selector where
  | all
  | one (a : Address)
  | range (a : Address) (e : RangeEnd)
  deriving DecidableEq, Repr

/-- How letters of a replacement are changed. -/
inductive Casing where
  | upper | lower | upperNext | lowerNext | plain
  deriving DecidableEq, Repr

/-- A part of a replacement. -/
inductive Part where
  | octet (b : UInt8)
  | group (n : Nat)
  | casing (c : Casing)
  deriving DecidableEq, Repr

/-- A replacement of matches: the number of the first one that is replaced, and whether those after it
    are as well. -/
structure Substitution where
  search : Search
  parts : List Part
  number : Nat
  all : Bool
  prints : Bool
  path : Option Bytes
  deriving DecidableEq, Repr

/-- When a jump is made. -/
inductive Jump where
  | always | substituted | unsubstituted
  deriving DecidableEq, Repr

/-- What an instruction does. -/
inductive Action where
  | opening | closing
  | label (name : Bytes)
  | jump (j : Jump) (name : Bytes)
  | substitute (s : Substitution)
  | translate (pairs : List (UInt8 × UInt8))
  | append (text : Bytes)
  | insert (text : Bytes)
  | change (text : Bytes)
  | delete | deleteFirst
  | print | printFirst
  | next | join
  | hold | holdMore | recall | recallMore | exchange
  | quit (status : Nat) (silent : Bool)
  | readFile (path : Bytes)
  | writeFile (path : Bytes) (first : Bool)
  | number | show | clear | name | nothing
  deriving DecidableEq, Repr

/-- An instruction. -/
structure Instruction where
  selector : Selector
  negated : Bool
  action : Action
  deriving DecidableEq, Repr

/-! ## Reading -/

/-- The text up to a delimiter and what follows it. A delimiter after a backslash stands for itself,
    and with `brackets` it may also stand in brackets. `acc` holds the octets before, last first.
    `fuel` bounds the length. -/
def delimited (mark : UInt8) (brackets : Bool) : (fuel : Nat) → (acc : Bytes) → Bytes →
    Option (Bytes × Bytes)
  | 0, _, _ => none
  | _, _, [] => none
  | fuel + 1, acc, b :: bs =>
    if b = mark then some (acc.reverse, bs)
    else if b = ascii '\\' then
      match bs with
      | [] => none
      | c :: rest =>
        if c = mark then
          delimited mark brackets fuel (if mark = ascii '&' then c :: b :: acc else c :: acc) rest
        else delimited mark brackets fuel (c :: b :: acc) rest
    else if b = ascii '[' && brackets then
      let front := bs.takeWhile (· = ascii '^')
      let after := bs.drop (min front.length 1)
      let opened := if front.isEmpty then [b] else [b, ascii '^']
      let (opened, after) :=
        match after with
        | c :: rest => if c = ascii ']' then (opened ++ [c], rest) else (opened, after)
        | [] => (opened, after)
      let inside := after.takeWhile fun c => c != ascii ']' && c != 0x0A
      match after.drop inside.length with
      | c :: rest =>
        if c = ascii ']' then
          delimited mark brackets fuel (c :: (inside.reverse ++ opened.reverse ++ acc)) rest
        else delimited mark brackets fuel (b :: acc) bs
      | [] => delimited mark brackets fuel (b :: acc) bs
    else delimited mark brackets fuel (b :: acc) bs

/-- The parts of a replacement. `fuel` bounds its length. -/
def parts : (fuel : Nat) → Bytes → List Part
  | 0, _ => []
  | _, [] => []
  | fuel + 1, b :: bs =>
    if b = ascii '&' then .group 0 :: parts fuel bs
    else if b = ascii '\\' then
      match bs with
      | [] => [.octet b]
      | c :: rest =>
        let next (p : Part) : List Part := p :: parts fuel rest
        match charOf c with
        | 'U' => next (.casing .upper)
        | 'L' => next (.casing .lower)
        | 'u' => next (.casing .upperNext)
        | 'l' => next (.casing .lowerNext)
        | 'E' => next (.casing .plain)
        | _ =>
          if isDigitByte c then next (.group (c.toNat - 48))
          else next (.octet ((Regex.controlOf? c).getD c))
    else .octet b :: parts fuel bs

/-- What is known while a script is read. -/
structure Reader where
  extended : Bool

/-- Reads an expression. -/
def Reader.search (r : Reader) (fold inner : Bool) (bs : Bytes) : Except String Search :=
  if bs.isEmpty then .ok ⟨none, inner⟩
  else do
    let regex ← Regex.read ⟨r.extended, fold, true, false⟩ bs
    return ⟨some regex, inner⟩

/-- Reads an address, if one stands here. -/
def Reader.address (r : Reader) (bs : Bytes) : Except String (Option (Address × Bytes)) := do
  match bs with
  | [] => return none
  | b :: rest =>
    if isDigitByte b then
      let digits := bs.takeWhile isDigitByte
      let rest := bs.drop digits.length
      let step := rest.tail.takeWhile isDigitByte
      if rest.head? = some (ascii '~') then
        return some (.every (decimal digits) (decimal step), rest.drop (step.length + 1))
      else return some (.line (decimal digits), rest)
    else if b = ascii '$' then return some (.last, rest)
    else
      let begun : Option (UInt8 × Bytes) :=
        if b = ascii '/' then some (b, rest)
        else if b = ascii '\\' then
          match rest with
          | c :: rest => some (c, rest)
          | [] => none
        else none
      match begun with
      | none => return none
      | some (mark, rest) =>
        match delimited mark true (rest.length + 1) [] rest with
        | none => throw "unterminated address regex"
        | some (inside, rest) =>
          let flags := rest.takeWhile fun c => c = ascii 'I' || c = ascii 'M'
          let s ← r.search (flags.contains (ascii 'I')) (flags.contains (ascii 'M')) inside
          return some (.search s, rest.drop flags.length)

/-- Octets without the blanks at their front. -/
def unblank (bs : Bytes) : Bytes := bs.dropWhile isBlankByte

/-- Reads the end of a range. -/
def Reader.rangeEnd (r : Reader) (bs : Bytes) : Except String (RangeEnd × Bytes) := do
  match bs with
  | b :: rest =>
    let digits := rest.takeWhile isDigitByte
    if b = ascii '+' && !digits.isEmpty then
      return (.after (decimal digits), rest.drop digits.length)
    else if b = ascii '~' && !digits.isEmpty then
      return (.multiple (decimal digits), rest.drop digits.length)
    else
      match ← r.address bs with
      | some (.line n, rest) => return (.line n, rest)
      | some (.every n _, rest) => return (.line n, rest)
      | some (.last, rest) => return (.last, rest)
      | some (.search s, rest) => return (.search s, rest)
      | none => throw "unexpected ','"
  | [] => throw "unexpected ','"

/-- Reads the addresses of an instruction. -/
def Reader.selector (r : Reader) (bs : Bytes) : Except String (Selector × Bytes) := do
  match ← r.address bs with
  | none => return (.all, bs)
  | some (a, rest) =>
    let after := unblank rest
    if after.head? = some (ascii ',') then
      let (e, rest) ← r.rangeEnd (unblank after.tail)
      match a, e with
      | .line 0, .search _ => return (.range a e, rest)
      | .line 0, _ => throw "invalid usage of line address 0"
      | _, _ => return (.range a e, rest)
    else if a = .line 0 then throw "invalid usage of line address 0"
    else return (.one a, rest)

/-- The text of an instruction that stands in the lines after it, up to a line feed without a
    backslash. `acc` holds the octets before, last first. `fuel` bounds the length. -/
def textLines : (fuel : Nat) → (acc : Bytes) → Bytes → Bytes × Bytes
  | 0, acc, bs => (acc.reverse, bs)
  | _, acc, [] => (acc.reverse, [])
  | fuel + 1, acc, b :: bs =>
    if b = 0x0A then (acc.reverse, bs)
    else if b = ascii '\\' then
      match bs with
      | c :: rest =>
        let o := if c = ascii 'n' then c else (Regex.controlOf? c).getD c
        textLines fuel ((if c = ascii 'n' then 0x0A else o) :: acc) rest
      | [] => (acc.reverse, [])
    else textLines fuel (b :: acc) bs

/-- Reads the text that is put before or after a line, or instead of it. -/
def readText (bs : Bytes) : Except String (Bytes × Bytes) :=
  let start := unblank bs
  let begun : Option Bytes :=
    match start with
    | [] => none
    | b :: rest =>
      if b != ascii '\\' then some start
      else
        let after := unblank rest
        match after with
        | c :: more => if c = 0x0A then some more else some rest
        | [] => some []
  match begun with
  | none => .error "expected \\ after 'a', 'c' or 'i'"
  | some bs =>
    let (inside, rest) := textLines (bs.length + 1) [] bs
    .ok (if inside.isEmpty && bs.isEmpty then [] else inside ++ [0x0A], rest)

/-- The flags of a replacement. `fuel` bounds their number. -/
def substitutionFlags : (fuel : Nat) → Substitution → (fold inner : Bool) → Bytes →
    Except String (Substitution × Bool × Bool × Bytes)
  | 0, s, fold, inner, bs => .ok (s, fold, inner, bs)
  | fuel + 1, s, fold, inner, bs =>
    match bs with
    | [] => .ok (s, fold, inner, [])
    | b :: rest =>
      match charOf b with
      | 'g' =>
        if s.all then .error "multiple 'g' options to 's' command"
        else substitutionFlags fuel { s with all := true } fold inner rest
      | 'p' =>
        if s.prints then .error "multiple 'p' options to 's' command"
        else substitutionFlags fuel { s with prints := true } fold inner rest
      | 'i' | 'I' => substitutionFlags fuel s true inner rest
      | 'm' | 'M' => substitutionFlags fuel s fold true rest
      | 'w' =>
        let path := (unblank rest).takeWhile (· != 0x0A)
        if path.isEmpty then .error "missing filename in r/R/w/W commands"
        else .ok ({ s with path := some path }, fold, inner, (unblank rest).drop path.length)
      | _ =>
        if isDigitByte b then
          let digits := bs.takeWhile isDigitByte
          if decimal digits = 0 then .error "number option to 's' command may not be zero"
          else
            substitutionFlags fuel { s with number := decimal digits } fold inner
              (bs.drop digits.length)
        else if isBlankByte b || isIn b ['\n', ';', '\x7d', '#'] then .ok (s, fold, inner, bs)
        else .error "unknown option to 's'"

/-- The greatest group that a replacement asks for. -/
def groupsAsked (ps : List Part) : Nat :=
  ps.foldl (fun n p => match p with | .group k => max n k | _ => n) 0

/-- Reads a replacement of matches, after its letter. -/
def Reader.substitution (r : Reader) (bs : Bytes) : Except String (Action × Bytes) := do
  match bs with
  | [] => throw "unterminated 's' command"
  | mark :: rest =>
    if mark = 0x0A || mark = ascii '\\' then throw "unterminated 's' command"
    else
      match delimited mark true (rest.length + 1) [] rest with
      | none => throw "unterminated 's' command"
      | some (old, rest) =>
        match delimited mark false (rest.length + 1) [] rest with
        | none => throw "unterminated 's' command"
        | some (new, rest) =>
          let parts := parts (new.length + 1) new
          let plain : Substitution := ⟨⟨none, false⟩, parts, 1, false, false, none⟩
          let (s, fold, inner, rest) ← substitutionFlags (rest.length + 1) plain false false rest
          let search ← r.search fold inner old
          let known := (search.regex.map Regex.groups).getD 9
          if known < groupsAsked parts then
            throw ("invalid reference \\" ++ toString (groupsAsked parts) ++ " on 's' command's RHS")
          else return (.substitute { s with search := search }, rest)

/-- The octets of a list of `y`. `fuel` bounds its length. -/
def listOctets : (fuel : Nat) → Bytes → Bytes
  | 0, _ => []
  | _, [] => []
  | fuel + 1, b :: bs =>
    if b = ascii '\\' then
      match bs with
      | [] => [b]
      | c :: rest =>
        if c = b then b :: listOctets fuel rest
        else
          match Regex.controlOf? c with
          | some o => o :: listOctets fuel rest
          | none => b :: c :: listOctets fuel rest
    else b :: listOctets fuel bs

/-- Reads a translation of octets, after its letter. -/
def readTranslation (bs : Bytes) : Except String (Action × Bytes) := do
  match bs with
  | [] => throw "unterminated 'y' command"
  | mark :: rest =>
    match delimited mark false (rest.length + 1) [] rest with
    | none => throw "unterminated 'y' command"
    | some (old, rest) =>
      match delimited mark false (rest.length + 1) [] rest with
      | none => throw "unterminated 'y' command"
      | some (new, rest) =>
        let (old, new) := (listOctets (old.length + 1) old, listOctets (new.length + 1) new)
        if old.length ≠ new.length then throw "strings for 'y' command are different lengths"
        else return (.translate (old.zip new), rest)

/-- The rest of a line and what follows it. -/
def restOfLine (bs : Bytes) : Bytes × Bytes :=
  let inside := bs.takeWhile (· != 0x0A)
  (inside, bs.drop (inside.length + 1))

/-- Reads what an instruction does. -/
def Reader.action (r : Reader) (b : UInt8) (bs : Bytes) : Except String (Action × Bytes) := do
  let file (make : Bytes → Action) : Except String (Action × Bytes) :=
    let (path, rest) := restOfLine (unblank bs)
    if path.isEmpty then .error "missing filename in r/R/w/W commands" else .ok (make path, rest)
  let label (make : Bytes → Action) : Action × Bytes :=
    let bs := unblank bs
    let name := bs.takeWhile fun c => c != 0x0A && c != ascii ';' && c != ascii '\x7d'
    (make (trimEnd isBlankByte name), bs.drop name.length)
  let status (silent : Bool) : Action × Bytes :=
    let bs := unblank bs
    let digits := bs.takeWhile isDigitByte
    (.quit (decimal digits % 256) silent, bs.drop digits.length)
  match charOf b with
  | '\x7b' => return (.opening, bs)
  | '\x7d' => return (.closing, bs)
  | ':' =>
    let bs := unblank bs
    let name := bs.takeWhile fun c => !isSpaceByte c && c != ascii ';'
    if name.isEmpty then throw "\":\" lacks a label"
    else return (.label name, bs.drop name.length)
  | 'b' => return label (.jump .always)
  | 't' => return label (.jump .substituted)
  | 'T' => return label (.jump .unsubstituted)
  | 's' => r.substitution bs
  | 'y' => readTranslation bs
  | 'a' => do let (t, rest) ← readText bs; return (.append t, rest)
  | 'i' => do let (t, rest) ← readText bs; return (.insert t, rest)
  | 'c' => do let (t, rest) ← readText bs; return (.change t, rest)
  | 'd' => return (.delete, bs)
  | 'D' => return (.deleteFirst, bs)
  | 'p' => return (.print, bs)
  | 'P' => return (.printFirst, bs)
  | 'n' => return (.next, bs)
  | 'N' => return (.join, bs)
  | 'h' => return (.hold, bs)
  | 'H' => return (.holdMore, bs)
  | 'g' => return (.recall, bs)
  | 'G' => return (.recallMore, bs)
  | 'x' => return (.exchange, bs)
  | 'q' => return status false
  | 'Q' => return status true
  | 'r' => file .readFile
  | 'w' => file (.writeFile · false)
  | 'W' => file (.writeFile · true)
  | '=' => return (.number, bs)
  | 'l' => return (.show, (unblank bs).dropWhile isDigitByte)
  | 'z' => return (.clear, bs)
  | 'F' => return (.name, bs)
  | _ => throw ("unknown command: '" ++ text [b] ++ "'")

/-- Whether an instruction may be followed by anything. -/
def Action.endsFreely : Action → Bool
  | .opening | .append _ | .insert _ | .change _ | .readFile _ | .writeFile .. => true
  | .label _ | .jump .. => true
  | _ => false

/-- Reads instructions. `depth` counts open groups and `acc` holds those before, last first. `fuel`
    bounds the length. -/
def Reader.instructions (r : Reader) : (fuel depth : Nat) → List Instruction → Bytes →
    Except String (List Instruction)
  | 0, _, acc, _ => .ok acc.reverse
  | fuel + 1, depth, acc, bs =>
    match bs.dropWhile fun b => isSpaceByte b || b = ascii ';' with
    | [] => if depth = 0 then .ok acc.reverse else .error "unmatched '\x7b'"
    | b :: rest =>
      if b = ascii '#' then r.instructions fuel depth acc (rest.dropWhile (· != 0x0A))
      else do
        let (selector, rest) ← r.selector (b :: rest)
        let rest := rest.dropWhile isSpaceByte
        let marks := rest.takeWhile fun c => c = ascii '!' || isSpaceByte c
        match rest.drop marks.length with
        | [] => throw "missing command"
        | c :: rest =>
          let (action, rest) ← r.action c rest
          let negated := marks.contains (ascii '!')
          let rest ←
            if action.endsFreely then pure rest
            else
              let after := unblank rest
              match after with
              | [] => pure after
              | d :: _ =>
                if isIn d ['\n', ';', '\x7d', '#'] then pure after
                else throw "extra characters after command"
          let acc := ⟨selector, negated, action⟩ :: acc
          match action with
          | .opening => r.instructions fuel (depth + 1) acc rest
          | .closing =>
            if depth = 0 then throw "unexpected '\x7d'"
            else if selector ≠ .all then throw "\x7d doesn't want any addresses"
            else r.instructions fuel (depth - 1) acc rest
          | _ => r.instructions fuel depth acc rest

/-- Reads a script. A script that jumps to a label that it does not have is refused later than one
    that cannot be read. -/
def read (extended : Bool) (script : Bytes) :
    Except String (Except String (List Instruction)) := do
  let r : Reader := ⟨extended⟩
  let is ← r.instructions (script.length + 2) 0 [] script
  let missing := is.findSome? fun i =>
    match i.action with
    | .jump _ name =>
      if name.isEmpty || is.any (fun j => j.action = .label name) then none else some name
    | _ => none
  match missing with
  | some name => return .error ("can't find label for jump to '" ++ text name ++ "'")
  | none => return .ok is

end Conformance.Shell.Tool.Sed
