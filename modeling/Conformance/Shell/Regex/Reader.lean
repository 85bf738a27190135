import Conformance.Shell.Glob
import Conformance.Shell.Regex

/-!
# Reading regular expressions

There are two notations: in the basic one, parentheses, braces, bars and the signs for repetitions
other than the star have a meaning after a backslash only, in the extended one without it. An expression
is cut into tokens first, because what a star, a caret or a dollar sign means depends on its place.
-/

namespace Conformance.Shell.Regex

/-- How an expression is written. -/
structure Dialect where
  extended : Bool
  /-- Whether letters match those of the other case. -/
  fold : Bool
  /-- Whether letters after a backslash stand for control characters. -/
  controls : Bool
  /-- Whether a backslash has a meaning inside of brackets. -/
  escapes : Bool

/-- A part of an expression. -/
inductive Token where
  | one (r : Regex)
  | opening
  | closing
  | bar
  | repetition (least : Nat) (most : Option Nat)
  deriving DecidableEq, Repr

/-- Ranges with the letters of the other case. -/
def folded (ranges : List (UInt8 × UInt8)) : List (UInt8 × UInt8) :=
  ranges ++ ranges.flatMap fun (low, high) =>
    let shifted (a b : UInt8) (f : UInt8 → UInt8) : List (UInt8 × UInt8) :=
      if max low a ≤ min high b then [(f (max low a), f (min high b))] else []
    shifted 0x41 0x5A lowerByte ++ shifted 0x61 0x7A upperByte

/-- An expression for members of ranges. -/
def Dialect.member (d : Dialect) (negated : Bool) (ranges : List (UInt8 × UInt8)) : Regex :=
  .member negated (if d.fold then folded ranges else ranges)

/-- An expression for an octet. -/
def Dialect.octet (d : Dialect) (b : UInt8) : Token := .one (d.member false [(b, b)])

/-- The octets of words. -/
def wordRanges : List (UInt8 × UInt8) := [(48, 57), (65, 90), (95, 95), (97, 122)]

/-- White space. -/
def spaceRanges : List (UInt8 × UInt8) := [(9, 13), (32, 32)]

/-- The control character that a letter after a backslash stands for. -/
def controlOf? (b : UInt8) : Option UInt8 :=
  match charOf b with
  | 'n' => some 0x0A
  | 't' => some 0x09
  | 'f' => some 0x0C
  | 'v' => some 0x0B
  | 'r' => some 0x0D
  | 'a' => some 0x07
  | _ => none

/-- A member of brackets after a mark such as `:`, up to the mark and a closing bracket. -/
def marked? (mark : UInt8) (bs : Bytes) : Option (Bytes × Bytes) :=
  splitAtOnto [] [mark, ascii ']'] bs

/-- The octet that a range of a class begins or ends with, and what follows it. -/
def classOctet (d : Dialect) (b : UInt8) (rest : Bytes) : UInt8 × Bytes :=
  if b = ascii '\\' then
    match rest with
    | c :: after =>
      match if d.controls then controlOf? c else none with
      | some o => (o, after)
      | none => if d.escapes then (c, after) else (b, rest)
    | [] => (b, rest)
  else if b = ascii '[' && rest.head? = some (ascii '.') then
    match marked? (ascii '.') rest.tail with
    | some ([c], after) => (c, after)
    | _ => (b, rest)
  else (b, rest)

/-- Reads the members of a class up to its bracket. `first` says whether no member was read yet, and
    `acc` holds the ranges before. `fuel` bounds the length. -/
def members (d : Dialect) : (fuel : Nat) → (first : Bool) → List (UInt8 × UInt8) → Bytes →
    Option (List (UInt8 × UInt8) × Bytes)
  | 0, _, _, _ => none
  | _, _, _, [] => none
  | fuel + 1, first, acc, b :: rest =>
    if b = ascii ']' && !first then some (acc, rest)
    else
      let named : Option (List (UInt8 × UInt8) × Bytes) :=
        match rest with
        | c :: more =>
          if b = ascii '[' && c = ascii ':' then
            match marked? c more with
            | some (name, after) => (Glob.classRanges? name).map fun r => (r, after)
            | none => none
          else if b = ascii '[' && c = ascii '=' then
            match marked? c more with
            | some ([o], after) => some ([(o, o)], after)
            | _ => none
          else none
        | [] => none
      match named with
      | some (ranges, after) => members d fuel false (ranges ++ acc) after
      | none =>
        let (low, rest) := classOctet d b rest
        match rest with
        | dash :: h :: more =>
          if dash = ascii '-' && h != ascii ']' then
            let (high, after) := classOctet d h more
            members d fuel false ((low, high) :: acc) after
          else members d fuel false ((low, low) :: acc) rest
        | _ => members d fuel false ((low, low) :: acc) rest

/-- The bounds of a repetition that are written in braces, and what follows the closing one. -/
def interval? (d : Dialect) (bs : Bytes) : Option (Nat × Option Nat × Bytes) :=
  let low := bs.takeWhile isDigitByte
  let rest := bs.drop low.length
  let (high, rest) : Option Nat × Bytes :=
    match rest with
    | b :: more =>
      if b = ascii ',' then
        let digits := more.takeWhile isDigitByte
        (if digits.isEmpty then none else some (decimal digits), more.drop digits.length)
      else (some (decimal low), rest)
    | [] => (some (decimal low), rest)
  if low.isEmpty && rest.length = bs.length then none
  else
    (afterFront? (octets (if d.extended then "\x7d" else "\\\x7d")) rest).map fun after =>
      (decimal low, high, after)

/-- Whether what follows a dollar sign of the basic notation ends a part of the expression. -/
def endsPart (bs : Bytes) : Bool :=
  match bs with
  | [] => true
  | b :: c :: _ => b = ascii '\\' && (c = ascii ')' || c = ascii '|')
  | _ => false

/-- The meaning of an octet after a backslash in both notations. -/
def escaped (d : Dialect) (c : UInt8) : Token :=
  match charOf c with
  | 'w' => .one (.member false wordRanges)
  | 'W' => .one (.member true wordRanges)
  | 's' => .one (.member false spaceRanges)
  | 'S' => .one (.member true spaceRanges)
  | '<' => .one .wordStart
  | '>' => .one .wordEnd
  | 'b' => .one .wordEdge
  | 'B' => .one .wordInside
  | '\x60' => .one .lineStart
  | '\'' => .one .lineEnd
  | _ =>
    if isDigitByte c && c != ascii '0' then .one (.again (c.toNat - 48) d.fold)
    else
      match if d.controls then controlOf? c else none with
      | some o => .one (.member false [(o, o)])
      | none => d.octet c

/-- The tokens of an expression. `first` says whether a part of it begins here. `fuel` bounds its
    length. -/
def tokens (d : Dialect) : (fuel : Nat) → (first : Bool) → Bytes → Except String (List Token)
  | 0, _, _ => .ok []
  | _, _, [] => .ok []
  | fuel + 1, first, b :: bs =>
    let next (t : Token) (rest : Bytes) : Except String (List Token) := do
      return t :: (← tokens d fuel (t = .opening || t = .bar) rest)
    let braces (rest : Bytes) : Except String (List Token) :=
      match interval? d rest with
      | some (low, high, after) =>
        if high.any (· < low) then .error "Invalid content of \\\x7b\\\x7d"
        else next (.repetition low high) after
      | none =>
        if d.extended then next (d.octet (ascii '\x7b')) rest else .error "Unmatched \\\x7b"
    let sign? (c : UInt8) : Option Token :=
      match charOf c with
      | '(' => some .opening
      | ')' => some .closing
      | '|' => some .bar
      | '+' => some (.repetition 1 none)
      | '?' => some (.repetition 0 (some 1))
      | _ => none
    match charOf b with
    | '\\' =>
      match bs with
      | [] => .error "Trailing backslash"
      | c :: rest =>
        if d.extended then next (escaped d c) rest
        else if c = ascii '\x7b' then
          if first then next (d.octet c) rest else braces rest
        else
          match sign? c with
          | some t => next t rest
          | none => next (escaped d c) rest
    | '[' =>
      let negated := bs.head? = some (ascii '^')
      let inside := if negated then bs.tail else bs
      match members d (inside.length + 1) true [] inside with
      | some (ranges, after) => next (.one (d.member negated ranges)) after
      | none => .error "Unmatched [, [^, [:, [., or [="
    | '.' => next (.one (.member true [])) bs
    | '*' =>
      if !first then next (.repetition 0 none) bs
      else if d.extended then tokens d fuel true bs
      else next (d.octet b) bs
    | '^' =>
      if d.extended then next (.one .lineStart) bs
      else if first then do return .one .lineStart :: (← tokens d fuel true bs)
      else next (d.octet b) bs
    | '$' =>
      if d.extended || endsPart bs then next (.one .lineEnd) bs else next (d.octet b) bs
    | '\x7b' => if d.extended && !first then braces bs else next (d.octet b) bs
    | _ =>
      match if d.extended then sign? b else none with
      | some (.repetition low high) =>
        if first then tokens d fuel true bs else next (.repetition low high) bs
      | some t => next t bs
      | none => next (d.octet b) bs

/-- What is left of an expression, and how many groups were opened. -/
structure State where
  rest : List Token
  groups : Nat

/-- An expression with the repetitions that follow it. -/
def repeatedBy (r : Regex) : List Token → Regex × List Token
  | .repetition low high :: rest => repeatedBy (.repeated r low high) rest
  | rest => (r, rest)

mutual

/-- Reads alternatives. -/
def readEither : (fuel depth : Nat) → State → Except String (Regex × State)
  | 0, _, _ => .error "Regular expression too big"
  | fuel + 1, depth, s => do
    let (a, s) ← readSequence fuel depth .empty s
    match s.rest with
    | .bar :: rest =>
      let (b, s) ← readEither fuel depth { s with rest := rest }
      return (.either a b, s)
    | _ => return (a, s)

/-- Reads parts that follow each other; `before` is what was read. -/
def readSequence : (fuel depth : Nat) → (before : Regex) → State →
    Except String (Regex × State)
  | 0, _, _, _ => .error "Regular expression too big"
  | fuel + 1, depth, before, s => do
    let after (r : Regex) (s : State) : Except String (Regex × State) :=
      let (r, rest) := repeatedBy r s.rest
      readSequence fuel depth (if before = .empty then r else .sequence before r)
        { s with rest := rest }
    match s.rest with
    | [] | .bar :: _ => return (before, s)
    | .one r :: rest =>
      match r with
      | .again n _ =>
        if s.groups < n then throw "Invalid back reference" else after r { s with rest := rest }
      | r => after r { s with rest := rest }
    | .repetition _ _ :: rest => readSequence fuel depth before { s with rest := rest }
    | .opening :: rest =>
      let n := s.groups + 1
      let (r, s) ← readEither fuel (depth + 1) ⟨rest, n⟩
      match s.rest with
      | .closing :: rest => after (.group n r) { s with rest := rest }
      | _ => throw "Unmatched ( or \\("
    | .closing :: _ => if depth = 0 then throw "Unmatched ) or \\)" else return (before, s)

end

/-- The expression that is written in a dialect, or why there is none. -/
def read (d : Dialect) (bs : Bytes) : Except String Regex := do
  let ts ← tokens d (bs.length + 1) true bs
  let (r, _) ← readEither (2 * ts.length + 2) 0 ⟨ts, 0⟩
  return r

/-- How many groups an expression has. -/
def groups : Regex → Nat
  | .sequence a b | .either a b => max a.groups b.groups
  | .repeated body _ _ => body.groups
  | .group n body => max n body.groups
  | _ => 0

end Conformance.Shell.Regex
