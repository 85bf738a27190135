/-!
# Durations

A span of time in seconds and nanoseconds, and its text: a decimal number and the largest of the
units s, ms, µs and ns in which the number is at least one.

The fraction of the number is padded with zeros to the width of its unit and then loses the zeros
at its end.

These are the durations of the specification's results (§10.6), as a verbose report shows them (§10.7).
-/

namespace Conformance

/-- A span of time. -/
structure Duration where
  seconds : Nat
  nanos : Nat
  nanos_lt : nanos < 1000000000 := by decide
  deriving DecidableEq, Repr

namespace Duration

/-- No time. -/
def zero : Duration := ⟨0, 0, by decide⟩

instance : Inhabited Duration := ⟨zero⟩

/-- A span of nanoseconds. -/
def ofNanos (n : Nat) : Duration := ⟨n / 1000000000, n % 1000000000, Nat.mod_lt _ (by decide)⟩

/-- A span of milliseconds. -/
def ofMillis (n : Nat) : Duration := ofNanos (n * 1000000)

/-- A span of whole seconds. -/
def ofSeconds (n : Nat) : Duration := ⟨n, 0, by decide⟩

/-- The nanoseconds of a span. -/
def total (d : Duration) : Nat := d.seconds * 1000000000 + d.nanos

/-- Two spans one after the other. -/
def add (a b : Duration) : Duration := ofNanos (a.total + b.total)

/-- The digits of a number below `10 ^ width`, with zeros in front of them. -/
def padded : (width n : Nat) → List Char
  | 0, _ => []
  | width + 1, n => padded width (n / 10) ++ [Nat.digitChar (n % 10)]

/-- A text without the zeros at its end. -/
def trimZeros (cs : List Char) : List Char := (cs.reverse.dropWhile (· = '0')).reverse

/-- A number of a unit: its whole part, and a fraction of `width` digits. -/
def number (whole width fraction : Nat) : List Char :=
  let digits := trimZeros (padded width fraction)
  (toString whole).toList ++ if digits.isEmpty then [] else '.' :: digits

/-- The text of a span. -/
def text (d : Duration) : String :=
  if 0 < d.seconds then String.ofList (number d.seconds 9 d.nanos) ++ "s"
  else if 1000000 ≤ d.nanos then
    String.ofList (number (d.nanos / 1000000) 6 (d.nanos % 1000000)) ++ "ms"
  else if 1000 ≤ d.nanos then
    String.ofList (number (d.nanos / 1000) 3 (d.nanos % 1000)) ++ "µs"
  else toString d.nanos ++ "ns"

end Duration
end Conformance
