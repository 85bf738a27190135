import Mathlib.Algebra.Order.Ring.Rat
import Mathlib.Data.List.DropRight
import Mathlib.Tactic.FieldSimp
import Mathlib.Tactic.Ring
import Conformance.Proofs.Encoding
import Conformance.Proofs.Reasons

/-!
# Texts of durations

A duration is written as a decimal number and a unit, and nothing of it gets lost: the number times the
unit is the duration, to the nanosecond. So what a line of a report shows of the time that was spent on a
fixture can be read back, and lines of results that took longer or shorter are different.

- `ofDigitChars_padded`, `exists_trimZeros`: the digits of a fraction, with the zeros in front of them and
  without those behind them.
- `exactText`: how a duration is written.
- `read?_text`: the text of a duration is read back.
- `verbose_lines_exact`: so is the end of a line that shows a duration.
-/

namespace Conformance.Duration

/-! ## §1 Decimal numbers -/

/-- A decimal number: its whole part, and the digits behind the point. -/
structure Amount where
  whole : Nat
  fraction : List Char
  isDigit : ∀ c ∈ fraction, c.isDigit = true

namespace Amount

/-- What a decimal number stands for. -/
def value (n : Amount) : ℚ :=
  n.whole + (Nat.ofDigitChars 10 n.fraction 0 : ℚ) / 10 ^ n.fraction.length

/-- How a decimal number is written: without a point if there is nothing behind it. -/
def text (n : Amount) : List Char :=
  (toString n.whole).toList ++ if n.fraction.isEmpty then [] else '.' :: n.fraction

/-- Reads a decimal number. -/
def read? (cs : List Char) : Option Amount :=
  let whole := cs.takeWhile (·.isDigit)
  if whole.isEmpty then none
  else
    match cs.drop whole.length with
    | [] => some ⟨Nat.ofDigitChars 10 whole 0, [], by simp⟩
    | '.' :: c :: cs =>
      if h : (c :: cs).all (·.isDigit) = true then
        some ⟨Nat.ofDigitChars 10 whole 0, c :: cs, List.all_eq_true.mp h⟩
      else none
    | _ => none

theorem toList_toString (n : Nat) : (toString n).toList = Nat.toDigits 10 n := Nat.toList_repr

theorem isDigit_of_mem_toString {n : Nat} {c : Char} (h : c ∈ (toString n).toList) :
    c.isDigit = true := by
  rw [toList_toString] at h
  exact Nat.isDigit_of_mem_toDigits (by decide) (by decide) h

theorem takeWhile_text (n : Amount) : n.text.takeWhile (·.isDigit) = (toString n.whole).toList := by
  rw [text, List.takeWhile_append_of_pos fun c hc => isDigit_of_mem_toString hc]
  split
  · exact List.append_nil _
  -- The point is no digit.
  · exact List.append_nil _

/-- What is written is read back. -/
theorem read?_text (n : Amount) : read? n.text = some n := by
  have hdrop : n.text.drop (toString n.whole).toList.length =
      if n.fraction.isEmpty then [] else '.' :: n.fraction := List.drop_left
  have hsome : (toString n.whole).toList.isEmpty = false := by
    rw [toList_toString]
    exact List.isEmpty_eq_false_iff.mpr Nat.toDigits_ne_nil
  have hvalue : Nat.ofDigitChars 10 (toString n.whole).toList 0 = n.whole := by
    rw [toList_toString]
    exact Nat.ofDigitChars_toDigits (by decide) (by decide)
  simp only [read?, takeWhile_text, hdrop, hsome, hvalue]
  obtain ⟨whole, fraction, hdigits⟩ := n
  cases fraction with
  | nil => rfl
  | cons c cs =>
    simp only [List.isEmpty_cons, Bool.false_eq_true, if_false]
    exact dif_pos (List.all_eq_true.mpr hdigits)

end Amount

/-! ## §2 Digits of a fraction -/

theorem length_padded (width n : Nat) : (padded width n).length = width := by
  induction width generalizing n with
  | zero => rfl
  | succ width ih => rw [padded, List.length_append, ih, List.length_singleton]

theorem isDigit_of_mem_padded {width n : Nat} {c : Char} (h : c ∈ padded width n) :
    c.isDigit = true := by
  induction width generalizing n with
  | zero => cases h
  | succ width ih =>
    rw [padded, List.mem_append, List.mem_singleton] at h
    rcases h with h | rfl
    · exact ih h
    · rw [Nat.isDigit_digitChar]
      exact decide_eq_true (Nat.mod_lt n (by decide))

/-- The digits of a fraction stand for it, however many zeros are in front of them. -/
theorem ofDigitChars_padded {width n : Nat} (h : n < 10 ^ width) :
    Nat.ofDigitChars 10 (padded width n) 0 = n := by
  induction width generalizing n with
  | zero => exact (Nat.lt_one_iff.mp h).symm
  | succ width ih =>
    have hfront : n / 10 < 10 ^ width := Nat.div_lt_of_lt_mul (by rwa [pow_succ'] at h)
    have hlast := Nat.toNat_digitChar_sub_48_of_lt_ten (Nat.mod_lt n (by decide : 0 < 10))
    rw [padded, Nat.ofDigitChars_append, ih hfront, Nat.ofDigitChars_cons, Nat.ofDigitChars_nil]
    show 10 * (n / 10) + ((n % 10).digitChar.toNat - 48) = n
    rw [hlast, Nat.div_add_mod]

theorem trimZeros_eq (cs : List Char) : trimZeros cs = cs.rdropWhile (· = '0') := rfl

/-- Only zeros at the end are lost. -/
theorem exists_trimZeros (cs : List Char) : ∃ k, cs = trimZeros cs ++ List.replicate k '0' := by
  refine ⟨(cs.rtakeWhile (· = '0')).length, ?_⟩
  have hzeros : cs.rtakeWhile (· = '0') = List.replicate (cs.rtakeWhile (· = '0')).length '0' := by
    rw [List.eq_replicate_iff]
    refine ⟨rfl, fun c hc => ?_⟩
    have hzero := List.mem_rtakeWhile_imp hc
    exact of_decide_eq_true hzero
  rw [← hzeros, trimZeros_eq, List.rdropWhile_append_rtakeWhile]

/-- No zero at the end is left. -/
theorem getLast?_trimZeros (cs : List Char) : (trimZeros cs).getLast? ≠ some '0' := by
  intro hlast
  have hne : cs.rdropWhile (· = '0') ≠ [] := by
    rintro hnil
    rw [trimZeros_eq, hnil] at hlast
    cases hlast
  have hnot := List.rdropWhile_last_not (· = '0') cs hne
  rw [trimZeros_eq, List.getLast?_eq_some_getLast hne] at hlast
  exact hnot (decide_eq_true (Option.some.inj hlast))

/-- The number with a whole part and a fraction of so many digits. -/
def amount (whole width fraction : Nat) : Amount where
  whole := whole
  fraction := trimZeros (padded width fraction)
  isDigit c hc := by
    obtain ⟨k, hk⟩ := exists_trimZeros (padded width fraction)
    have hmem := List.mem_append_left (List.replicate k '0') hc
    rw [← hk] at hmem
    exact isDigit_of_mem_padded hmem

/-- It is the number that is written. -/
theorem number_eq_text (whole width fraction : Nat) :
    number whole width fraction = (amount whole width fraction).text := rfl

/-- It stands for the whole part and the fraction, though zeros are left out. -/
theorem value_amount (whole : Nat) {width fraction : Nat} (h : fraction < 10 ^ width) :
    (amount whole width fraction).value * 10 ^ width = whole * 10 ^ width + fraction := by
  obtain ⟨k, hk⟩ := exists_trimZeros (padded width fraction)
  have hwidth : (trimZeros (padded width fraction)).length + k = width := by
    have hlength := congrArg List.length hk
    rw [length_padded, List.length_append, List.length_replicate] at hlength
    exact hlength.symm
  have hfraction : 10 ^ k * Nat.ofDigitChars 10 (trimZeros (padded width fraction)) 0 = fraction := by
    rw [← Nat.ofDigitChars_replicate_zero, ← Nat.ofDigitChars_append, ← hk, ofDigitChars_padded h]
  generalize hdigits : trimZeros (padded width fraction) = digits at hwidth hfraction
  have hvalue : (amount whole width fraction).value =
      whole + (Nat.ofDigitChars 10 digits 0 : ℚ) / 10 ^ digits.length := by
    rw [← hdigits]
    rfl
  rw [hvalue, ← hfraction, ← hwidth]
  push_cast
  rw [pow_add]
  field_simp

/-! ## §3 Units -/

/-- The units that durations are written in. -/
inductive TimeUnit where
  | seconds | millis | micros | nanos
  deriving DecidableEq, Repr

namespace TimeUnit

/-- How many digits the nanoseconds below a unit have. -/
def digits : TimeUnit → Nat
  | .seconds => 9
  | .millis => 6
  | .micros => 3
  | .nanos => 0

/-- The nanoseconds of a unit. -/
def inNanos (u : TimeUnit) : Nat := 10 ^ u.digits

/-- How a unit is written. -/
def symbol : TimeUnit → List Char
  | .seconds => ['s']
  | .millis => ['m', 's']
  | .micros => ['µ', 's']
  | .nanos => ['n', 's']

/-- Reads a unit. -/
def read? (cs : List Char) : Option TimeUnit :=
  [seconds, millis, micros, nanos].find? (·.symbol = cs)

theorem read?_symbol (u : TimeUnit) : read? u.symbol = some u := by cases u <;> decide

end TimeUnit

/-- The unit that a duration is written in. -/
def unit (d : Duration) : TimeUnit :=
  if 1000000000 ≤ d.total then .seconds
  else if 1000000 ≤ d.total then .millis
  else if 1000 ≤ d.total then .micros
  else .nanos

/-- No larger unit goes into a duration. -/
theorem unit_largest {d : Duration} {u : TimeUnit} (h : u.inNanos ≤ d.total) :
    u.inNanos ≤ d.unit.inNanos := by
  unfold unit
  split_ifs <;> cases u <;> simp [TimeUnit.inNanos, TimeUnit.digits] at h ⊢ <;> omega

/-- The unit itself does, unless it is the smallest. -/
theorem inNanos_unit_le (d : Duration) : d.unit = .nanos ∨ d.unit.inNanos ≤ d.total := by
  unfold unit
  split_ifs with hs hm hu
  · exact .inr hs
  · exact .inr hm
  · exact .inr hu
  · exact .inl rfl

/-- A duration is written as the number of its unit that it is. -/
theorem text_eq (d : Duration) :
    d.text.toList =
      number (d.total / d.unit.inNanos) d.unit.digits (d.total % d.unit.inNanos) ++ d.unit.symbol := by
  have hnanos := d.nanos_lt
  have htotal : d.total = d.seconds * 1000000000 + d.nanos := rfl
  by_cases hs : 0 < d.seconds
  · have hunit : d.unit = .seconds := by rw [unit, if_pos (by omega)]
    have hwhole : d.total / 1000000000 = d.seconds := by omega
    have hfraction : d.total % 1000000000 = d.nanos := by omega
    simp only [text, if_pos hs, hunit, String.toList_append, String.toList_ofList]
    show _ = number (d.total / 1000000000) 9 (d.total % 1000000000) ++ _
    rw [hwhole, hfraction]
    rfl
  -- Less than a second: all of it is in the nanoseconds.
  have hless : d.total = d.nanos := by omega
  by_cases hm : 1000000 ≤ d.nanos
  · have hunit : d.unit = .millis := by rw [unit, if_neg (by omega), if_pos (by omega)]
    simp only [text, if_neg hs, if_pos hm, hunit, hless, String.toList_append, String.toList_ofList]
    rfl
  by_cases hu : 1000 ≤ d.nanos
  · have hunit : d.unit = .micros := by
      rw [unit, if_neg (by omega), if_neg (by omega), if_pos (by omega)]
    simp only [text, if_neg hs, if_neg hm, if_pos hu, hunit, hless, String.toList_append,
      String.toList_ofList]
    rfl
  · have hunit : d.unit = .nanos := by
      rw [unit, if_neg (by omega), if_neg (by omega), if_neg (by omega)]
    simp only [text, if_neg hs, if_neg hm, if_neg hu, hunit, hless, String.toList_append]
    show _ = number (d.nanos / 1) 0 (d.nanos % 1) ++ _
    rw [Nat.div_one, number]
    simp [padded, trimZeros]
    rfl

/-! ## §4 Texts that are read back -/

/-- How a duration is written exactly: as a number of a unit, without a zero at its end. The number times
    the unit is the duration, and the unit is the largest of which there is at least one, or the smallest
    of all. -/
structure ExactText (d : Duration) (n : Amount) (u : TimeUnit) : Prop where
  text : d.text.toList = n.text ++ u.symbol
  exact : n.value * u.inNanos = d.total
  atLeastOne : u = .nanos ∨ 1 ≤ n.value
  largest : ∀ u' : TimeUnit, u'.inNanos ≤ d.total → u'.inNanos ≤ u.inNanos
  trimmed : n.fraction.getLast? ≠ some '0'

/-- How many there are of the unit that a duration is written in. -/
def inUnit (d : Duration) : Amount :=
  amount (d.total / d.unit.inNanos) d.unit.digits (d.total % d.unit.inNanos)

theorem TimeUnit.inNanos_pos (u : TimeUnit) : 0 < u.inNanos := Nat.pow_pos (by decide)

theorem value_inUnit (d : Duration) : d.inUnit.value * d.unit.inNanos = d.total := by
  have hvalue := value_amount (d.total / d.unit.inNanos) (Nat.mod_lt d.total d.unit.inNanos_pos)
  rw [TimeUnit.inNanos] at hvalue
  rw [inUnit, TimeUnit.inNanos, Nat.cast_pow, Nat.cast_ofNat, hvalue]
  exact_mod_cast Nat.div_add_mod' d.total (10 ^ d.unit.digits)

/-- Every duration is written exactly. -/
theorem exactText (d : Duration) : d.ExactText d.inUnit d.unit where
  text := by rw [text_eq, number_eq_text, inUnit]
  exact := d.value_inUnit
  atLeastOne := by
    refine d.inNanos_unit_le.imp_right fun hle => ?_
    have hpos : (0 : ℚ) < d.unit.inNanos := by exact_mod_cast d.unit.inNanos_pos
    have hvalue := d.value_inUnit
    have hle : (d.unit.inNanos : ℚ) ≤ d.total := by exact_mod_cast hle
    rw [← hvalue] at hle
    exact (le_mul_iff_one_le_left hpos).mp hle
  largest _ := unit_largest
  trimmed := getLast?_trimZeros _

/-- Reads how many nanoseconds a text stands for. -/
def read? (cs : List Char) : Option ℚ :=
  let number := cs.takeWhile fun c => c.isDigit || c = '.'
  match Amount.read? number, TimeUnit.read? (cs.drop number.length) with
  | some n, some u => some (n.value * u.inNanos)
  | _, _ => none

theorem Amount.isDigit_or_of_mem_text {n : Amount} {c : Char} (h : c ∈ n.text) :
    (c.isDigit || c = '.') = true := by
  rw [Amount.text, List.mem_append] at h
  rw [Bool.or_eq_true]
  rcases h with h | h
  · exact .inl (isDigit_of_mem_toString h)
  · split at h
    · cases h
    · rcases List.mem_cons.mp h with rfl | h
      · exact .inr rfl
      · exact .inl (n.isDigit c h)

/-- The number of an exact text ends where its unit begins. -/
theorem takeWhile_text_append (n : Amount) (u : TimeUnit) :
    (n.text ++ u.symbol).takeWhile (fun c => c.isDigit || c = '.') = n.text := by
  rw [List.takeWhile_append_of_pos fun c hc => Amount.isDigit_or_of_mem_text hc]
  have hunit : u.symbol.takeWhile (fun c => c.isDigit || c = '.') = [] := by cases u <;> decide
  rw [hunit, List.append_nil]

/-- The text of a duration is read back as that duration. -/
theorem read?_text (d : Duration) : read? d.text.toList = some (d.total : ℚ) := by
  simp only [read?, d.exactText.text, takeWhile_text_append, List.drop_left, Amount.read?_text,
    TimeUnit.read?_symbol, d.exactText.exact]

theorem eq_of_total_eq {d d' : Duration} (h : d.total = d'.total) : d = d' := by
  obtain ⟨seconds, nanos, hnanos⟩ := d
  obtain ⟨seconds', nanos', hnanos'⟩ := d'
  simp only [total] at h
  obtain rfl : seconds = seconds' := by omega
  obtain rfl : nanos = nanos' := by omega
  rfl

theorem bracket_notMem_text (d : Duration) : '[' ∉ d.text.toList := by
  rw [d.exactText.text, List.mem_append, not_or]
  constructor
  · intro h
    exact absurd (Amount.isDigit_or_of_mem_text h) (by decide)
  · cases d.unit <;> decide

end Conformance.Duration

namespace Conformance.Reporter

/-! ## §5 Lines that show a duration -/

/-- Reads how many nanoseconds stand in the brackets at the end of a line. -/
def shownTime? (line : List Char) : Option ℚ :=
  match line.reverse with
  | '\n' :: ']' :: rest => Duration.read? (rest.takeWhile (· ≠ '[')).reverse
  | _ => none

/-- Whatever stands in front of the brackets, brackets among it, what they hold is read. -/
theorem shownTime?_brackets (front : String) (d : Duration) :
    shownTime? (front ++ "[" ++ d.text ++ "]\n").toList = some (d.total : ℚ) := by
  have hreverse : (front ++ "[" ++ d.text ++ "]\n").toList.reverse =
      '\n' :: ']' :: (d.text.toList.reverse ++ '[' :: front.toList.reverse) := by
    simp
  have htake : (d.text.toList.reverse ++ '[' :: front.toList.reverse).takeWhile (· ≠ '[') =
      d.text.toList.reverse := by
    rw [List.takeWhile_append_of_pos]
    · simp
    · intro c hc
      refine decide_eq_true fun hbracket => ?_
      rw [List.mem_reverse, hbracket] at hc
      exact d.bracket_notMem_text hc
  rw [shownTime?, hreverse]
  simp only [htake, List.reverse_reverse, Duration.read?_text]

/-- What stands in front of the brackets in the line of a result. -/
def timedFront (x : Result) : String :=
  (if x.passed then "✅ " else "❌ ") ++ x.fixture.display
    ++ (x.reason?.elim "" fun reason => " (" ++ reason ++ ")") ++ " "

/-- A line that shows a duration ends with it, in brackets. -/
theorem line_of_verbose {style : Style} (hverbose : style.verbose = true)
    (hplain : style.coloured = false) (x : Result) :
    line style x = timedFront x ++ "[" ++ x.duration.text ++ "]\n" := by
  have hspace : " [" = " " ++ "[" := rfl
  have hend : "]\n" = "]" ++ "\n" := rfl
  simp only [line, plainLine, Colour.paintIf, hverbose, hplain, if_true, Bool.false_eq_true, if_false,
    timedFront, hspace, hend, String.append_assoc]
  cases x.reason? <;> rfl

/-- Lines that are the same show the same duration. -/
theorem duration_eq_of_line_eq {style : Style} (hverbose : style.verbose = true)
    (hplain : style.coloured = false) {x y : Result} (h : line style x = line style y) :
    x.duration = y.duration := by
  have hread : ∀ z, shownTime? (line style z).toList = some (z.duration.total : ℚ) := by
    intro z
    rw [line_of_verbose hverbose hplain]
    exact shownTime?_brackets _ _
  have hboth := hread y
  rw [← h, hread x] at hboth
  exact Duration.eq_of_total_eq (by exact_mod_cast Option.some.inj hboth)

/-- Whether a report has a line for a result. -/
def Lists (format : Format) (x : Result) : Prop := format = .pretty ∨ format = .terse ∧ x.passed = false

/-- What a report that lists a result has its sink write is the line of the result. -/
theorem sink_record {r : Reporter} {x : Result} (h : Lists r.style.format x) :
    (r.record x).1.sink = (r.sink.writeText (line r.style x)).1 := by
  rcases h with hformat | ⟨hformat, hfailed⟩
  · simp only [record, hformat]
    rfl
  · simp only [record, hformat, hfailed, Bool.false_eq_true, if_false]
    rfl

/-- In a report that shows times, without colours, the line of a result ends with the duration in
    brackets. It is written exactly, as a number of a unit, and it is what the line is read back as. So the
    same result with another duration never has the same line, in octets as in letters. This line is what a
    report that lists the result has its sink write, whatever the sink makes of it; one that never fails
    takes all of it. -/
theorem verbose_lines_exact (style : Style) (x : Result) (hverbose : style.verbose = true)
    (hplain : style.coloured = false) :
    ∃ (front : String) (n : Duration.Amount) (u : Duration.TimeUnit),
      line style x = front ++ "[" ++ x.duration.text ++ "]\n" ∧
        x.duration.ExactText n u ∧
        shownTime? (line style x).toList =
          some (x.duration.seconds * 10 ^ 9 + x.duration.nanos : ℚ) ∧
        (∀ d ≠ x.duration,
          Utf8.encodeString (line style { x with duration := d }) ≠
            Utf8.encodeString (line style x)) ∧
        ∀ r : Reporter, r.style = style → Lists style.format x →
          (r.record x).1.sink = (r.sink.writeText (line style x)).1 ∧
            (r.sink.NeverFails →
              (r.record x).1.sink.content =
                r.sink.content ++ Utf8.encodeString (line style x)) := by
  have hline := line_of_verbose hverbose hplain x
  refine ⟨timedFront x, _, _, hline, x.duration.exactText, ?_, fun d hd hsame => ?_, ?_⟩
  · rw [hline, shownTime?_brackets]
    simp only [Duration.total]
    norm_num
  · have hletters := congrArg Utf8.decode hsame
    rw [Utf8.encodeString, Utf8.encodeString, Utf8.decode_encode, Utf8.decode_encode] at hletters
    exact hd (duration_eq_of_line_eq hverbose hplain (String.toList_injective hletters))
  · rintro r rfl hlists
    have hsink := sink_record hlists
    refine ⟨hsink, fun hopen => ?_⟩
    rw [hsink, Sink.writeText, Sink.write_eq_accept hopen, Sink.content_accept]

/-- A result that did not pass, after the longest time in seconds and a few nanoseconds. -/
def longAwaited : Result :=
  .errored ⟨[0x61]⟩ "no [s] in [1ns]\n" ⟨18446744073709551615, 50, by decide⟩

/-- The zeros behind the point are kept and those at the end are not, and brackets in the reason do not
    get in the way. -/
theorem verbose_lines_exact_longAwaited :
    ∃ front,
      ((fresh ⟨.terse, true, false, "", ""⟩ .unlimited).record longAwaited).1.sink.content =
        Utf8.encodeString (front ++ "[" ++ "18446744073709551615.00000005s" ++ "]\n") ∧
      shownTime? (front ++ "[" ++ "18446744073709551615.00000005s" ++ "]\n").toList =
        some 18446744073709551615000000050 := by
  have htext : longAwaited.duration.text = "18446744073709551615.00000005s" := by decide +kernel
  obtain ⟨front, -, -, hline, -, hread, -, hwritten⟩ :=
    verbose_lines_exact ⟨.terse, true, false, "", ""⟩ longAwaited rfl rfl
  obtain ⟨-, hcontent⟩ := hwritten (fresh ⟨.terse, true, false, "", ""⟩ .unlimited) rfl (.inr ⟨rfl, rfl⟩)
  rw [htext] at hline
  rw [hline] at hread
  refine ⟨front, (hcontent Sink.unlimited_neverFails).trans ?_, hread.trans ?_⟩
  · rw [hline]
    rfl
  · norm_num [longAwaited, Result.errored]

end Conformance.Reporter
