import Conformance.Text.Path

/-!
# Octets of scripts

Scripts, words and the data that programs pass to each other are sequences of octets. Here are the
octets that have names, and numbers and lines as octets.
-/

namespace Conformance.Shell

/-- The octets of a text. -/
def octets (s : String) : Bytes := Utf8.encodeString s

/-- The text of octets. -/
def text (bs : Bytes) : String := Utf8.decodeString bs

/-- The octet of an ASCII character. -/
def ascii (c : Char) : UInt8 := c.toNat.toUInt8

/-- The character of an ASCII octet. -/
def charOf (b : UInt8) : Char := Char.ofNat b.toNat

/-- Whether an octet is one of the given characters. -/
def isIn (b : UInt8) (cs : List Char) : Bool := cs.contains (charOf b)

/-- Whether an octet may begin a name. -/
def isNameStart (b : UInt8) : Bool := (charOf b).isAlpha || b = ascii '_'

/-- Whether an octet may stand in a name. -/
def isNameByte (b : UInt8) : Bool := (charOf b).isAlphanum || b = ascii '_'

/-- Whether octets are a name. -/
def isName (bs : Bytes) : Bool := bs.head?.any isNameStart && bs.all isNameByte

/-- Whether an octet is a digit. -/
def isDigitByte (b : UInt8) : Bool := (charOf b).isDigit

/-- Whether an octet is a space or a tabulator. -/
def isBlankByte (b : UInt8) : Bool := b = 0x20 || b = 0x09

/-- Whether an octet is white space. -/
def isSpaceByte (b : UInt8) : Bool := b = 0x20 || (0x09 ≤ b && b ≤ 0x0D)

/-- An octet in lower case. -/
def lowerByte (b : UInt8) : UInt8 := if 0x41 ≤ b && b ≤ 0x5A then b + 0x20 else b

/-- An octet in upper case. -/
def upperByte (b : UInt8) : UInt8 := if 0x61 ≤ b && b ≤ 0x7A then b - 0x20 else b

/-- The value of a digit of a base up to thirty-six. -/
def digitValue? (b : UInt8) : Option Nat :=
  let c := charOf b
  if c.isDigit then some (b.toNat - 48)
  else if c.isLower then some (b.toNat - 87)
  else if c.isUpper then some (b.toNat - 55)
  else none

/-- The number that the digits of a base at the front stand for, and how many they are. -/
def readDigits (base : Nat) (value count : Nat) : Bytes → Nat × Nat
  | [] => (value, count)
  | b :: bs =>
    match digitValue? b with
    | some d => if d < base then readDigits base (value * base + d) (count + 1) bs else (value, count)
    | none => (value, count)

/-- The value of decimal digits. -/
def decimal (bs : Bytes) : Nat := bs.foldl (fun n b => n * 10 + (b.toNat - 48)) 0

/-- The decimal text of a number. -/
def number (n : Nat) : Bytes := octets (toString n)

/-- The decimal text of an integer. -/
def integer (n : Int) : Bytes := octets (toString n)

/-- The integer that octets are, with white space around it, if they are one. -/
def integer? (bs : Bytes) : Option Int :=
  let bs := bs.dropWhile isSpaceByte
  let bs := (bs.reverse.dropWhile isSpaceByte).reverse
  let (negative, digits) : Bool × Bytes :=
    match bs with
    | b :: rest =>
      if b = ascii '-' then (true, rest) else if b = ascii '+' then (false, rest) else (false, bs)
    | [] => (false, [])
  if digits.isEmpty || !digits.all isDigitByte then none
  else some (if negative then -(decimal digits : Int) else decimal digits)

/-- The natural number that octets are, if they consist of digits. -/
def natural? (bs : Bytes) : Option Nat :=
  if bs.isEmpty || !bs.all isDigitByte then none else some (decimal bs)

/-- The pieces of a sequence between octets that separate them. `piece` holds the open piece and
    `done` the finished ones, both last first. -/
def cutOnto (done : List Bytes) (piece : Bytes) (separates : UInt8 → Bool) : Bytes → List Bytes
  | [] => (piece.reverse :: done).reverse
  | b :: bs =>
    if separates b then cutOnto (piece.reverse :: done) [] separates bs
    else cutOnto done (b :: piece) separates bs

/-- The pieces of a sequence between octets that separate them. -/
def cutAt (separates : UInt8 → Bool) (bs : Bytes) : List Bytes := cutOnto [] [] separates bs

/-- The words of a text between white space. -/
def wordsOf (bs : Bytes) : List Bytes := (cutAt isSpaceByte bs).filter (!·.isEmpty)

/-- The lines of a content, without their line feeds. `line` holds the open line, last octet
    first, and `done` the finished ones, last first. -/
def linesOnto (done : List Bytes) (line : Bytes) : Bytes → List Bytes
  | [] => (if line.isEmpty then done else line.reverse :: done).reverse
  | b :: bs =>
    if b = 0x0A then linesOnto (line.reverse :: done) [] bs else linesOnto done (b :: line) bs

/-- The lines of a content. -/
def lines (content : Bytes) : List Bytes := linesOnto [] [] content

/-- A line with its line feed. -/
def line (bs : Bytes) : Bytes := bs ++ [0x0A]

/-- The octets after the given front. -/
def afterFront? : Bytes → Bytes → Option Bytes
  | [], bs => some bs
  | a :: as, b :: bs => if a = b then afterFront? as bs else none
  | _ :: _, [] => none

/-- A sequence without the octets at its end that a test holds of. -/
def trimEnd (test : UInt8 → Bool) (bs : Bytes) : Bytes := (bs.reverse.dropWhile test).reverse

/-- The octets that lie before the first occurrence of a sequence, and those after it. `done` holds
    the octets before, last first. -/
def splitAtOnto (done : Bytes) (mark : Bytes) : Bytes → Option (Bytes × Bytes)
  | [] => if mark.isEmpty then some (done.reverse, []) else none
  | b :: bs =>
    match afterFront? mark (b :: bs) with
    | some rest => some (done.reverse, rest)
    | none => splitAtOnto (b :: done) mark bs

end Conformance.Shell
