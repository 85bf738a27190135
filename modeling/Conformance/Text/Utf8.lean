/-!
# UTF-8 text

Octets, their lossy reading as characters, and the octets of a text.

## Reading

`Utf8.decode` never fails: every maximal ill-formed subpart of the input is read as one
U+FFFD. The reader is a machine that takes one octet at a time (`Utf8.step`), so what has been
read before an ASCII octet never changes what follows it.

- `decodeOnto_eq`: the accumulating loop that is run computes `decodeFrom`.
- `decodeFrom_append`: reading two pieces is reading the first and going on from its state.
- `decode_cons_ascii`: an ASCII octet at the front is read as itself.

## Writing

`Utf8.encode` is the concatenation of the one to four octets of each character. Octets are well-formed
if they are those of the text that is read from them; `Utf8.text?` gives that text.
-/

namespace Conformance

/-- A sequence of octets: the content of a file, a path, or what a sink has received. -/
abbrev Bytes := List UInt8

namespace Utf8

/-- The character that stands for octets that are no text. -/
def replacement : Char := '\uFFFD'

/-- Where the reader stands between octets. -/
inductive State where
  /-- Between characters. -/
  | start
  /-- Inside a character: `need` octets are owed, the next of them in `low … high`, and `value`
      holds the bits read so far. -/
  | inside (need low high value : Nat)
  deriving DecidableEq, Repr

/-- The effect of an octet read between characters. -/
def first (b : Nat) : List Char × State :=
  if b < 0x80 then ([Char.ofNat b], .start)
  else if b < 0xC2 then ([replacement], .start)
  else if b < 0xE0 then ([], .inside 1 0x80 0xBF (b - 0xC0))
  else if b = 0xE0 then ([], .inside 2 0xA0 0xBF 0)
  else if b = 0xED then ([], .inside 2 0x80 0x9F 0xD)
  else if b < 0xF0 then ([], .inside 2 0x80 0xBF (b - 0xE0))
  else if b = 0xF0 then ([], .inside 3 0x90 0xBF 0)
  else if b < 0xF4 then ([], .inside 3 0x80 0xBF (b - 0xF0))
  else if b = 0xF4 then ([], .inside 3 0x80 0x8F 4)
  else ([replacement], .start)

/-- One octet: the characters it completes, and the state after it. An octet that cannot
    continue the open character ends it as one replacement character and is read afresh. -/
def step (s : State) (b : UInt8) : List Char × State :=
  match s with
  | .start => first b.toNat
  | .inside need low high value =>
    if low ≤ b.toNat ∧ b.toNat ≤ high then
      let value := value * 64 + (b.toNat - 0x80)
      if need ≤ 1 then ([Char.ofNat value], .start)
      else ([], .inside (need - 1) 0x80 0xBF value)
    else
      let next := first b.toNat
      (replacement :: next.1, next.2)

/-- What an end of input leaves: an open character counts as one replacement character. -/
def State.finish : State → List Char
  | .start => []
  | .inside .. => [replacement]

/-- The characters read from a state on. -/
def decodeFrom : State → Bytes → List Char
  | s, [] => s.finish
  | s, b :: bs => (step s b).1 ++ decodeFrom (step s b).2 bs

/-- `decodeFrom` with an accumulator that holds what was read so far, last character first. -/
def decodeOnto (acc : List Char) : State → Bytes → List Char
  | s, [] => acc.reverse ++ s.finish
  | s, b :: bs => decodeOnto ((step s b).1.reverse ++ acc) (step s b).2 bs

theorem decodeOnto_eq (bs : Bytes) :
    ∀ (s : State) (acc : List Char), decodeOnto acc s bs = acc.reverse ++ decodeFrom s bs := by
  induction bs with
  | nil => intro s acc; rfl
  | cons b bs ih => intro s acc; simp [decodeOnto, decodeFrom, ih]

/-- The text of an octet sequence; ill-formed parts are read as U+FFFD, one for each maximal
    ill-formed subpart. -/
def decode (bs : Bytes) : List Char := decodeOnto [] .start bs

theorem decode_eq (bs : Bytes) : decode bs = decodeFrom .start bs := by
  simp [decode, decodeOnto_eq]

/-- The state after a sequence of octets. -/
def stateAfter : State → Bytes → State
  | s, [] => s
  | s, b :: bs => stateAfter (step s b).2 bs

/-- The characters that a sequence of octets completes; an open character at its end is left
    open. -/
def completed : State → Bytes → List Char
  | _, [] => []
  | s, b :: bs => (step s b).1 ++ completed (step s b).2 bs

theorem decodeFrom_append (xs ys : Bytes) :
    ∀ s : State, decodeFrom s (xs ++ ys) = completed s xs ++ decodeFrom (stateAfter s xs) ys := by
  induction xs with
  | nil => intro s; rfl
  | cons x xs ih => intro s; simp [decodeFrom, completed, stateAfter, ih]

theorem decodeFrom_eq_completed (s : State) (bs : Bytes) :
    decodeFrom s bs = completed s bs ++ (stateAfter s bs).finish := by
  simpa [decodeFrom] using decodeFrom_append bs [] s

/-- An ASCII octet closes whatever is open and is read as itself. -/
theorem step_ascii (s : State) (hs : ∀ n l h v, s = .inside n l h v → 0x80 ≤ l) (b : UInt8)
    (hb : b.toNat < 0x80) : step s b = (s.finish ++ [Char.ofNat b.toNat], .start) := by
  cases s with
  | start => simp [step, first, hb, State.finish]
  | inside n l h v =>
    have := hs n l h v rfl
    have hlow : ¬ (l ≤ b.toNat ∧ b.toNat ≤ h) := by omega
    simp [step, hlow, first, hb, State.finish]

theorem decode_cons_ascii (b : UInt8) (bs : Bytes) (hb : b.toNat < 0x80) :
    decode (b :: bs) = Char.ofNat b.toNat :: decode bs := by
  simp [decode_eq, decodeFrom, step, first, hb]

/-- The octets of one character. -/
def encodeChar (c : Char) : Bytes :=
  let n := c.toNat
  if n < 0x80 then [n.toUInt8]
  else if n < 0x800 then [(0xC0 + n / 64).toUInt8, (0x80 + n % 64).toUInt8]
  else if n < 0x10000 then
    [(0xE0 + n / 4096).toUInt8, (0x80 + n / 64 % 64).toUInt8, (0x80 + n % 64).toUInt8]
  else
    [(0xF0 + n / 262144).toUInt8, (0x80 + n / 4096 % 64).toUInt8,
      (0x80 + n / 64 % 64).toUInt8, (0x80 + n % 64).toUInt8]

/-- The octets of a text. -/
def encode (cs : List Char) : Bytes := cs.flatMap encodeChar

/-- The text of an octet sequence, as a string. -/
def decodeString (bs : Bytes) : String := String.ofList (decode bs)

/-- The octets of a string. -/
def encodeString (s : String) : Bytes := encode s.toList

/-- The text that octets are, if they are well-formed. -/
def text? (bs : Bytes) : Option String :=
  let text := decodeString bs
  if encodeString text = bs then some text else none

/-- The first character of octets that begin with a well-formed one. -/
def head? (bs : Bytes) : Option Char :=
  (decode bs).head?.filter fun c => (encodeChar c).isPrefixOf bs

theorem encode_append (xs ys : List Char) : encode (xs ++ ys) = encode xs ++ encode ys := by
  simp [encode]

theorem encodeString_append (s t : String) :
    encodeString (s ++ t) = encodeString s ++ encodeString t := by
  simp [encodeString, encode_append]

end Utf8
end Conformance
