import Conformance.Pattern.Matcher
import Conformance.Text.Utf8

/-!
# Positions inside of characters

A text is searched octet by octet, and the search ends as soon as something is found. A condition on
ASCII words can hold between two octets of one character, so that nothing is matched there. That is
no match, as it splits a character; but the search has ended, and it begins anew behind the place
where it began. So an expression that matches nothing inside of characters is never found where it
has to match a character of several octets, because something is found inside of that character
before.

Conditions on the words of all scripts cannot be read octet by octet. With one of them, a short text
is searched in another way, which tries all places one by one.
-/

namespace Conformance.Pattern.Expr

/-- Whether a condition holds between any two octets of one character. -/
def lookInside : Look → Bool
  | .word .ascii .interior | .word .ascii .halfOpens | .word .ascii .halfCloses => true
  | _ => false

/-- Whether nothing is matched between any two octets of one character. -/
def emptyInside : Expr → Bool
  | .empty => true
  | .never | .char _ | .set _ => false
  | .look l => lookInside l
  | .group e => e.emptyInside
  | .seq a b => a.emptyInside && b.emptyInside
  | .alt a b => a.emptyInside || b.emptyInside
  | .repeated low _ e => low = 0 || e.emptyInside

/-- Whether an expression has a condition on the words of all scripts. -/
def asksForWords : Expr → Bool
  | .look (.word .unicode _) => true
  | .empty | .never | .char _ | .set _ | .look _ => false
  | .group e | .repeated _ _ e => e.asksForWords
  | .seq a b | .alt a b => a.asksForWords || b.asksForWords

/-- What of an expression matches ASCII characters only. -/
def asciiPart : Expr → Expr
  | .empty => .empty
  | .never => .never
  | .char c => if c.toNat < 0x80 then .char c else .never
  | .set s => .set (s.inter ascii)
  | .look l => .look l
  | .group e => .group e.asciiPart
  | .seq a b => .seq a.asciiPart b.asciiPart
  | .alt a b => .alt a.asciiPart b.asciiPart
  | .repeated low high e => .repeated low high e.asciiPart
where
  /-- The ASCII characters. -/
  ascii : CharSet := ⟨[(0, 0x7F)]⟩

/-- The longest text, in octets, that is searched place by place. -/
def shortText : Nat := 128

/-- What of an expression is found in a text. -/
def visiblePart (e : Expr) (text : List Char) : Expr :=
  if e.emptyInside && !(e.asksForWords && (Utf8.encode text).length ≤ shortText) then e.asciiPart
  else e

end Conformance.Pattern.Expr
