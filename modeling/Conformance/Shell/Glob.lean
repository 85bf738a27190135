import Conformance.Host.FileTree
import Conformance.Shell.Octet

/-!
# Shell patterns

Patterns with `*`, `?` and classes in brackets. An octet of a pattern is quoted if it stands for
itself; a backslash that is not quoted quotes the octet after it.
-/

namespace Conformance.Shell

/-- An octet of an expanded word, and whether it was quoted. -/
abbrev Marked := UInt8 × Bool

/-- An expanded word. -/
abbrev Field := List Marked

namespace Glob

/-- An element of a pattern. -/
inductive Element where
  | one (b : UInt8)
  | anyOne
  | anyMany
  | member (negated : Bool) (ranges : List (UInt8 × UInt8))
  deriving DecidableEq, Repr

/-- The octets of a class with a name, as ranges. -/
def classRanges? (name : Bytes) : Option (List (UInt8 × UInt8)) :=
  match text name with
  | "alpha" => some [(65, 90), (97, 122)]
  | "digit" => some [(48, 57)]
  | "alnum" => some [(48, 57), (65, 90), (97, 122)]
  | "upper" => some [(65, 90)]
  | "lower" => some [(97, 122)]
  | "space" => some [(9, 13), (32, 32)]
  | "blank" => some [(9, 9), (32, 32)]
  | "punct" => some [(33, 47), (58, 64), (91, 96), (123, 126)]
  | "print" => some [(32, 126)]
  | "graph" => some [(33, 126)]
  | "cntrl" => some [(0, 31), (127, 127)]
  | "xdigit" => some [(48, 57), (65, 70), (97, 102)]
  | _ => none

/-- A field in which quoting backslashes are replaced by quotes. -/
def unslash : Field → Field
  | (b, false) :: (c, q) :: rest =>
    if b = ascii '\\' then (c, true) :: unslash rest else (b, false) :: unslash ((c, q) :: rest)
  | m :: rest => m :: unslash rest
  | [] => []

/-- Whether a marked octet is the given character, and not quoted. -/
def isBare (m : Marked) (c : Char) : Bool := m.1 = ascii c && !m.2

/-- Reads the members of a class up to its bracket. `first` says whether no member was read yet, and
    `acc` holds the ranges before. `fuel` bounds the length. -/
def members : (fuel : Nat) → (first : Bool) → List (UInt8 × UInt8) → Field →
    Option (List (UInt8 × UInt8) × Field)
  | 0, _, _, _ => none
  | _, _, _, [] => none
  | fuel + 1, first, acc, m :: rest =>
    if isBare m ']' && !first then some (acc, rest)
    else
      let named : Option (List (UInt8 × UInt8) × Field) :=
        match rest with
        | c :: more =>
          if isBare m '[' && isBare c ':' then
            let name := more.takeWhile fun e => !isBare e ':'
            match more.drop name.length with
            | _ :: close :: after =>
              if isBare close ']' then
                (classRanges? (name.map (·.1))).map fun r => (r, after)
              else none
            | _ => none
          else none
        | [] => none
      match named with
      | some (ranges, after) => members fuel false (ranges ++ acc) after
      | none =>
        match rest with
        | d :: high :: after =>
          if isBare d '-' && !isBare high ']' then
            members fuel false ((m.1, high.1) :: acc) after
          else members fuel false ((m.1, m.1) :: acc) rest
        | _ => members fuel false ((m.1, m.1) :: acc) rest

/-- The elements of a pattern. `fuel` bounds its length. -/
def elementsOf : (fuel : Nat) → Field → List Element
  | 0, _ => []
  | _, [] => []
  | fuel + 1, m :: rest =>
    if isBare m '*' then .anyMany :: elementsOf fuel rest
    else if isBare m '?' then .anyOne :: elementsOf fuel rest
    else if isBare m '[' then
      let negated := rest.head?.any fun e => isBare e '!'
      let inside := if negated then rest.tail else rest
      match members (inside.length + 1) true [] inside with
      | some (ranges, after) => .member negated ranges :: elementsOf fuel after
      | none => .one m.1 :: elementsOf fuel rest
    else .one m.1 :: elementsOf fuel rest

/-- The elements of a pattern. -/
def elements (pattern : Field) : List Element :=
  let pattern := unslash pattern
  elementsOf (pattern.length + 1) pattern

/-- Whether a test holds of a text or of one of its ends. -/
def anyEnd (test : Bytes → Bool) : Bytes → Bool
  | [] => test []
  | b :: bs => test (b :: bs) || anyEnd test bs

/-- Whether a text is matched as a whole. -/
def matchAll : List Element → Bytes → Bool
  | [], bs => bs.isEmpty
  | .anyMany :: es, bs => anyEnd (matchAll es) bs
  | .one c :: es, b :: bs => c == b && matchAll es bs
  | .anyOne :: es, _ :: bs => matchAll es bs
  | .member negated ranges :: es, b :: bs =>
    (ranges.any fun r => r.1 ≤ b && b ≤ r.2) != negated && matchAll es bs
  | _ :: _, [] => false

/-- Whether a pattern matches a text. -/
def hits (pattern : Field) (text : Bytes) : Bool := matchAll (elements pattern) text

/-- Whether a word asks for the names of files. -/
def isPattern (word : Field) : Bool :=
  word.any fun m => isBare m '*' || isBare m '?' || isBare m '['

/-- The longest or shortest front of a text that a pattern matches is cut off. -/
def cutFront (longest : Bool) (pattern : Field) (text : Bytes) : Bytes :=
  let es := elements pattern
  let sizes := (List.range (text.length + 1)).filter fun n => matchAll es (text.take n)
  match if longest then sizes.getLast? else sizes.head? with
  | some n => text.drop n
  | none => text

/-- The longest or shortest end of a text that a pattern matches is cut off. -/
def cutBack (longest : Bool) (pattern : Field) (text : Bytes) : Bytes :=
  let es := elements pattern
  let sizes := (List.range (text.length + 1)).filter fun n =>
    matchAll es (text.drop (text.length - n))
  match if longest then sizes.getLast? else sizes.head? with
  | some n => text.take (text.length - n)
  | none => text

/-! ## Names of files -/

/-- The parts of a field between slashes. `part` holds the open part, last first. -/
def partsOnto (part : Field) : Field → List Field
  | [] => [part.reverse]
  | m :: rest =>
    if m.1 = Path.slash then part.reverse :: partsOnto [] rest else partsOnto (m :: part) rest

/-- The names that a part of a pattern stands for in a directory. -/
def namesIn (t : FileTree) (dir : Bytes) (part : Field) : List Bytes :=
  match t.list (if dir.isEmpty then octets "." else dir) with
  | .error _ => []
  | .ok entries =>
    let hidden := part.head?.any fun m => m.1 = ascii '.'
    let names := (if hidden then [octets ".", octets ".."] else []) ++ entries.map (·.name)
    names.filter fun n => (hidden || n.head? != some (ascii '.')) && hits part n

/-- Whether something stands at a path, links not followed. -/
def exists? (t : FileTree) (path : Bytes) : Bool :=
  match t.resolve false path with
  | .ok place => (t.node? place).isSome
  | .error _ => false

/-- The paths that parts of a pattern stand for, behind a front. -/
def pathsFrom (t : FileTree) (front : Bytes) : List Field → List Bytes
  | [] => []
  | [part] =>
    if isPattern part then (namesIn t front part).map (front ++ ·)
    else
      let path := front ++ (unslash part).map (·.1)
      if exists? t path then [path] else []
  | part :: rest =>
    if isPattern part then
      (namesIn t front part).flatMap fun n => pathsFrom t (front ++ n ++ [Path.slash]) rest
    else pathsFrom t (front ++ (unslash part).map (·.1) ++ [Path.slash]) rest

/-- Octet sequences in order. -/
def sorted (paths : List Bytes) : List Bytes :=
  paths.mergeSort fun a b => Path.compareOctets a b != .gt

/-- The paths that a field asks for, or the field itself. -/
def expand (t : FileTree) (field : Field) : List Bytes :=
  let plain := field.map (·.1)
  if !isPattern field then [plain]
  else
    match pathsFrom t [] (partsOnto [] field) with
    | [] => [plain]
    | paths => sorted paths

end Glob
end Conformance.Shell
