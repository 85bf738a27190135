import Conformance.Decimal.Binary64
import Conformance.Shell.Octet

/-!
# Directives

A directive of a format stands for a value: it begins with a percent sign and says how the value is
written. Numbers with a fraction are written from their exact value, and a half is rounded to the even
neighbour.
-/

namespace Conformance.Shell

/-- How a value is written. -/
structure Directive where
  left : Bool
  plus : Bool
  space : Bool
  alternative : Bool
  zero : Bool
  width : Nat
  precision : Option Nat
  deriving DecidableEq, Repr

namespace Directive

/-- The directive without flags. -/
def plain : Directive := ⟨false, false, false, false, false, 0, none⟩

/-- A field in the width of the directive, filled with blanks. -/
def pad (d : Directive) (bs : Bytes) : Bytes :=
  let blanks := List.replicate (d.width - bs.length) (ascii ' ')
  if d.left then bs ++ blanks else blanks ++ bs

/-- A number in the width of the directive: its sign and its digits. With `zeros`, zeros may fill the
    field. -/
def padNumber (d : Directive) (zeros : Bool) (sign digits : Bytes) : Bytes :=
  if zeros && d.zero && !d.left then
    sign ++ List.replicate (d.width - sign.length - digits.length) (ascii '0') ++ digits
  else d.pad (sign ++ digits)

/-- The sign of a number. -/
def sign (d : Directive) (negative : Bool) : Bytes :=
  if negative then octets "-"
  else if d.plus then octets "+"
  else if d.space then octets " "
  else []

/-- Digits with zeros before them, as many as the precision asks for. -/
def fill (d : Directive) (digits : Bytes) : Bytes :=
  match d.precision with
  | none => digits
  | some p =>
    if p = 0 && digits = octets "0" then []
    else List.replicate (p - digits.length) (ascii '0') ++ digits

/-- An integer. -/
def integer (d : Directive) (n : Int) : Bytes :=
  d.padNumber d.precision.isNone (d.sign (n < 0)) (d.fill (number n.natAbs))

/-- A natural number in a base. -/
def natural (d : Directive) (base : Nat) (upper : Bool) (n : Nat) : Bytes :=
  let digits := octets (String.ofList (Nat.toDigits base n))
  let digits := d.fill (if upper then digits.map upperByte else digits)
  if d.alternative && base = 8 then
    d.padNumber d.precision.isNone []
      (if digits.head? = some (ascii '0') then digits else ascii '0' :: digits)
  else if d.alternative && base = 16 && n != 0 then
    d.padNumber d.precision.isNone (octets (if upper then "0X" else "0x")) digits
  else d.padNumber d.precision.isNone [] digits

/-- A text. -/
def string (d : Directive) (bs : Bytes) : Bytes :=
  d.pad (match d.precision with | some p => bs.take p | none => bs)

end Directive

/-! ## Numbers with a fraction -/

/-- A number with a fraction: its sign and its size as a ratio, or that it is none. -/
inductive Real where
  | ratio (negative : Bool) (n d : Nat)
  | infinite (negative : Bool)
  | undefined (negative : Bool)
  deriving DecidableEq, Repr

/-- The exact value of a binary number. -/
def Real.of (x : Float) : Real :=
  let bits := x.toBits.toNat
  let negative : Bool := 0x8000000000000000 ≤ bits
  let exponent := bits / 0x10000000000000 % 0x800
  let fraction := bits % 0x10000000000000
  if exponent = 0x7FF then if fraction = 0 then .infinite negative else .undefined negative
  else
    let (m, e) : Nat × Int :=
      if exponent = 0 then (fraction, -1074)
      else (fraction + 0x10000000000000, (exponent : Int) - 1075)
    let (n, d) := Binary64.scale m 1 e
    .ratio negative n d

namespace Directive

/-- Digits with a point before the last `places` of them. -/
def pointed (digits : Nat) (places : Nat) : Bytes :=
  let text := number digits
  let text := List.replicate (places + 1 - text.length) (ascii '0') ++ text
  let whole := text.take (text.length - places)
  if places = 0 then whole else whole ++ ascii '.' :: text.drop (text.length - places)

/-- A ratio with a number of places behind the point. -/
def fixed (n d places : Nat) : Bytes :=
  pointed (Binary64.divNearest (n * Nat.pow 10 places) d) places

/-- The ratio `n / d * 10 ^ e` rounded. -/
def scaled (n d : Nat) (e : Int) : Nat :=
  match e with
  | .ofNat k => Binary64.divNearest (n * Nat.pow 10 k) d
  | .negSucc k => Binary64.divNearest n (d * Nat.pow 10 (k + 1))

/-- The power of ten of the first digit of a ratio that is not zero. -/
def magnitude (n d : Nat) : Int :=
  if d ≤ n then ((toString (n / d)).length : Int) - 1
  else
    let e : Int := (toString ((d + n - 1) / n)).length
    if d ≤ n * Nat.pow 10 (e - 1).toNat then -(e - 1) else -e

/-- The digits of a ratio, one before and `places` behind the point, and the power of ten. -/
def rounded (n d places : Nat) : Nat × Int :=
  if n = 0 then (0, 0)
  else
    let e := magnitude n d
    let digits := scaled n d (places - e)
    if Nat.pow 10 (places + 1) ≤ digits then (digits / 10, e + 1) else (digits, e)

/-- A power of ten as it stands behind a number. -/
def power (e : Int) : Bytes :=
  let digits := number e.natAbs
  octets (if e < 0 then "e-" else "e+") ++ (if digits.length < 2 then octets "0" else []) ++ digits

/-- Digits without the zeros at the end of their fraction. -/
def trimmed (digits : Bytes) : Bytes :=
  if digits.contains (ascii '.') then
    trimEnd (· = ascii '.') (trimEnd (· = ascii '0') digits)
  else digits

/-- A ratio in the notation that a letter asks for: `f`, `e` or `g`. -/
def written (d : Directive) (letter : Char) (n den : Nat) : Bytes :=
  let places := d.precision.getD 6
  if letter = 'f' then fixed n den places
  else if letter = 'e' then
    let (digits, e) := rounded n den places
    pointed digits places ++ power e
  else
    let p := max places 1
    let (digits, e) := rounded n den (p - 1)
    let trim (bs : Bytes) : Bytes := if d.alternative then bs else trimmed bs
    if -4 ≤ e && e < p then trim (fixed n den ((p : Int) - 1 - e).toNat)
    else trim (pointed digits (p - 1)) ++ power e

/-- A number with a fraction, in the notation that a letter asks for. -/
def real (d : Directive) (letter : Char) (x : Float) : Bytes :=
  let upper := letter.isUpper
  let shown (bs : Bytes) : Bytes := if upper then bs.map upperByte else bs
  match Real.of x with
  | .ratio negative n den =>
    d.padNumber true (d.sign negative) (shown (d.written letter.toLower n den))
  | .infinite negative => d.padNumber false (d.sign negative) (shown (octets "inf"))
  | .undefined negative => d.padNumber false (d.sign negative) (shown (octets "nan"))

end Directive

/-! ## Reading numbers -/

/-- The binary number nearest to `digits * 10 ^ e`. -/
def nearest (negative : Bool) (digits : Nat) (e : Int) : Float :=
  let size := (toString digits).length
  let x : Float :=
    if digits = 0 then 0.0
    else if 400 < e + size then 1.0 / 0.0
    else if e + size < -400 then 0.0
    else if e < 0 then Float.ofScientific digits true e.natAbs
    else Float.ofScientific digits false e.natAbs
  if negative then -x else x

/-- The number with a fraction at the front, and what follows it; nothing is read if none stands
    there. White space may stand before it. -/
def readReal (bs : Bytes) : Float × Bytes :=
  let start := bs.dropWhile isSpaceByte
  let (negative, rest) : Bool × Bytes :=
    match start with
    | b :: rest =>
      if b = ascii '-' then (true, rest) else if b = ascii '+' then (false, rest) else (false, start)
    | [] => (false, [])
  let whole := rest.takeWhile isDigitByte
  let rest := rest.drop whole.length
  let (fraction, rest) : Bytes × Bytes :=
    match rest with
    | b :: more =>
      if b = ascii '.' then
        let digits := more.takeWhile isDigitByte
        if whole.isEmpty && digits.isEmpty then ([], rest) else (digits, more.drop digits.length)
      else ([], rest)
    | [] => ([], [])
  if whole.isEmpty && fraction.isEmpty then (0.0, bs)
  else
    let (e, rest) : Int × Bytes :=
      match rest with
      | b :: more =>
        if lowerByte b = ascii 'e' then
          let (minus, digits) : Bool × Bytes :=
            match more with
            | c :: after =>
              if c = ascii '-' then (true, after)
              else if c = ascii '+' then (false, after)
              else (false, more)
            | [] => (false, [])
          let power := digits.takeWhile isDigitByte
          if power.isEmpty then (0, rest)
          else
            let n : Int := decimal (power.take 6)
            (if minus then -n else n, digits.drop power.length)
        else (0, rest)
      | [] => (0, [])
    (nearest negative (decimal (whole ++ fraction)) (e - fraction.length), rest)

/-- The integer that a number comes to without its fraction. -/
def wholeOf (x : Float) : Int :=
  match Real.of x with
  | .ratio negative n d => if negative then -((n / d : Nat) : Int) else (n / d : Nat)
  | .infinite negative => if negative then -0x8000000000000000 else 0x7FFFFFFFFFFFFFFF
  | .undefined _ => -0x8000000000000000

end Conformance.Shell
