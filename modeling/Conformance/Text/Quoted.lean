import Conformance.Unicode.Property
import Conformance.Unicode.Recent

/-!
# Quoted text

A text between double quotes, written so that it can be told from any other text: quotes,
backslashes and what cannot be seen are escaped. Characters that attach to the one before them count
as what cannot be seen.

The message of a task that panicked (§10.6 of the specification) is told in this form.
-/

namespace Conformance.Quoted

/-- The letters that fill a place and show nothing. -/
def fillers : CharSet := .ofRanges [(0x115f, 0x1160), (0x3164, 0x3164), (0xffa0, 0xffa0)]

/-- The marks that attach to the character before them and still take a place of their own. -/
def spacing : CharSet := .ofRanges [(0xff9e, 0xff9f)]

/-- The characters that are written by their numbers, unless they have a name. -/
def hidden : CharSet :=
  let unseen := (Unicode.Category.ofClasses [0, 23, 24, 25, 26, 27, 29]).diff
    (Unicode.rangeTable Unicode.recent)
  (unseen.union fillers).union ((Unicode.rangeTable Unicode.Binary.graphemeExtend).diff spacing)

/-- A character as it is written between quotes. -/
def writeChar (c : Char) : String :=
  match c with
  | '\x00' => "\\0"
  | '\t' => "\\t"
  | '\r' => "\\r"
  | '\n' => "\\n"
  | '\\' => "\\\\"
  | '"' => "\\\""
  | ' ' => " "
  | c =>
    if hidden.contains c then "\\u\x7b" ++ String.ofList (Nat.toDigits 16 c.toNat) ++ "\x7d"
    else String.singleton c

/-- A text between quotes. -/
def quote (text : String) : String := "\"" ++ String.join (text.toList.map writeChar) ++ "\""

end Conformance.Quoted
