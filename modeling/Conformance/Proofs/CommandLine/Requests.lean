import Mathlib.Data.List.TakeWhile
import Conformance.CommandLine.Parse
import Conformance.Proofs.Encoding

/-!
# Requests

What can be asked for on a command line, one thing at a time: a value for an option that takes one, or
an option that takes none. A request is written as one argument, the value behind an equals sign, so
that values may be anything: empty, with hyphens at their front, or with equals signs in them. Paths may
be octets that are no text.

- `Request.text`: how a request is written, and `Request.apply`, what it asks for.
- `Reading.argument_text`: a request is read as what it asks for.
- `parse_requests`: so are any number of requests, followed by filters behind `--`.
-/

namespace Conformance.CommandLine

/-! ## §1 Numbers -/

theorem le_ofDigitChars (value : Nat) (cs : List Char) : value ≤ Nat.ofDigitChars 10 cs value := by
  induction cs generalizing value with
  | nil => exact Nat.le_refl value
  | cons c cs ih =>
    rw [Nat.ofDigitChars_cons]
    have := ih (10 * value + (c.toNat - '0'.toNat))
    omega

/-- Digits are read as the number that they stand for, unless it is too large. -/
theorem readDigits_of_lt {cs : List Char} (hdigits : ∀ c ∈ cs, c.isDigit = true) {value : Nat}
    (hlimit : Nat.ofDigitChars 10 cs value < numberLimit) :
    readDigits value cs = .ok (Nat.ofDigitChars 10 cs value) := by
  induction cs generalizing value with
  | nil => rfl
  | cons c cs ih =>
    have hc : c.isDigit = true := hdigits c List.mem_cons_self
    rw [Nat.ofDigitChars_cons, Nat.mul_comm] at hlimit ⊢
    -- What has been read so far is no larger than the whole number.
    have hroom : ¬numberLimit ≤ value * 10 + (c.toNat - '0'.toNat) :=
      Nat.not_le_of_lt (Nat.lt_of_le_of_lt (le_ofDigitChars _ cs) hlimit)
    rw [readDigits, hc, Bool.not_true, if_neg Bool.false_ne_true, if_neg hroom]
    exact ih (fun d hd => hdigits d (List.mem_cons_of_mem c hd)) hlimit

/-- A number is read from the digits that it is written with. -/
theorem readNumber_toString {n : Nat} (h : n < numberLimit) : readNumber (toString n) = .ok n := by
  have htext : (toString n).toList = Nat.toDigits 10 n := Nat.toList_repr
  have hdigits : ∀ c ∈ Nat.toDigits 10 n, c.isDigit = true := fun c hc =>
    Nat.isDigit_of_mem_toDigits (by decide) (by decide) hc
  have hvalue : Nat.ofDigitChars 10 (Nat.toDigits 10 n) 0 = n :=
    Nat.ofDigitChars_toDigits (by decide) (by decide)
  have hread : readDigits 0 (Nat.toDigits 10 n) = .ok n := by
    rw [readDigits_of_lt hdigits (by rwa [hvalue]), hvalue]
  rw [readNumber, htext]
  -- There is a first digit, which is no plus sign.
  split
  next hnil => exact absurd hnil Nat.toDigits_ne_nil
  next hplus => exact absurd (hdigits '+' (hplus ▸ List.mem_cons_self)) (by decide)
  next hplus => exact absurd (hdigits '+' (hplus ▸ List.mem_cons_self)) (by decide)
  next => exact hread

theorem readPositive_toString {n : Nat} (hpos : 0 < n) (h : n < numberLimit) :
    readPositive (toString n) = .ok n := by
  rw [readPositive, readNumber_toString h]
  split
  next hzero => exact absurd (Except.ok.inj hzero) (Nat.ne_of_gt hpos)
  next => rfl

/-! ## §2 Values that are text -/

@[simp]
theorem readText_encodeString (text : String) : readText (Utf8.encodeString text) = .ok text := by
  rw [readText, Utf8.text?_encodeString]

theorem readTexts_encodeString (texts : List String) :
    readTexts (texts.map Utf8.encodeString) = .ok texts := by
  induction texts with
  | nil => rfl
  | cons t ts ih =>
    rw [readTexts] at ih ⊢
    rw [List.map_cons, List.mapM_cons, readText_encodeString, ih]
    rfl

theorem readWith_encodeString (s : Switch) (read : String → Except NumberError Nat) (text : String) :
    readWith s read (Utf8.encodeString text) = (read text).mapError (.invalidNumber s text) := by
  rw [readWith, readText_encodeString]
  rfl

/-- A number is read from octets that are text. -/
theorem readWith_eq_ok {s : Switch} {read : String → Except NumberError Nat} {value : Bytes} {n : Nat}
    (h : readWith s read value = .ok n) :
    ∃ text, value = Utf8.encodeString text ∧ read text = .ok n := by
  rw [readWith, readText] at h
  split at h
  next text htext =>
    refine ⟨text, Utf8.text?_eq_some_iff.mp htext, ?_⟩
    cases hread : read text with
    | error e =>
      simp only [Except.bind, hread, Except.mapError] at h
      cases h
    | ok m =>
      simp only [Except.bind, hread, Except.mapError] at h
      cases h
      rfl
  next => cases h

/-! ## §3 What can be asked for -/

/-- The name of a format. -/
def formatName : Format → String
  | .pretty => "pretty"
  | .terse => "terse"
  | .junit => "junit"

/-- An option as it is written behind two hyphens. -/
def Switch.written (s : Switch) : Bytes := Reading.hyphens ++ Utf8.encodeString s.long

/-- An option as it is written with a value. -/
def Switch.writtenWith (s : Switch) (value : Bytes) : Bytes := s.written ++ Reading.equals :: value

/-- One thing that a command line asks for. -/
inductive Request where
  | exe (path : Path)
  | fixturesDir (path : Path)
  | extension (text : String)
  | errorMarker (text : String)
  | markerRegex
  | jobs (count : Nat)
  | timeout (seconds : Nat)
  | format (f : Format)
  | verbose
  | color (choice : ColorChoice)
  | list
  | exact
  | skip (pattern : String)
  | debug (subject : Subject)
  deriving DecidableEq, Repr

namespace Request

/-- The option of a request. -/
def switch : Request → Switch
  | .exe _ => .exe
  | .fixturesDir _ => .fixturesDir
  | .extension _ => .extension
  | .errorMarker _ => .errorMarker
  | .markerRegex => .markerRegex
  | .jobs _ => .jobs
  | .timeout _ => .timeout
  | .format _ => .format
  | .verbose => .verbose
  | .color _ => .color
  | .list => .list
  | .exact => .exact
  | .skip _ => .skip
  | .debug _ => .debug

/-- The value of a request as it is written; an option that takes none counts as true. -/
def value : Request → Bytes
  | .exe path | .fixturesDir path => path
  | .extension text | .errorMarker text => Utf8.encodeString text
  | .jobs count => Utf8.encodeString (toString count)
  | .timeout seconds => Utf8.encodeString (toString seconds)
  | .format f => Utf8.encodeString (formatName f)
  | .color choice => Utf8.encodeString choice.name
  | .skip pattern => Utf8.encodeString pattern
  | .debug subject => Utf8.encodeString subject.name
  | .markerRegex | .verbose | .list | .exact => Utf8.encodeString "true"

/-- A request as it is written, in one argument. -/
def text (x : Request) : Bytes :=
  if x.switch.takesValue then x.switch.writtenWith x.value else x.switch.written

/-- The arguments with what is asked for. -/
def apply (a : Arguments) : Request → Arguments
  | .exe path => { a with exe := path }
  | .fixturesDir path => { a with fixturesDir := path }
  | .extension text => { a with extension := text }
  | .errorMarker text => { a with errorMarker := text }
  | .markerRegex => { a with markerIsPattern := true }
  | .jobs count => { a with jobs := some count }
  | .timeout seconds => { a with timeout := some seconds }
  | .format f => { a with format := f }
  | .verbose => { a with verbose := true }
  | .color choice => { a with color := choice }
  | .list => { a with list := true }
  | .exact => { a with exact := true }
  | .skip pattern => { a with skip := a.skip ++ [pattern] }
  | .debug subject => { a with debug := a.debug ++ [subject] }

/-- Whether a request asks for something that can be had: paths are not empty, some fixtures are to be run
    at once, and numbers have 64 bits. -/
def IsValid : Request → Prop
  | .exe path | .fixturesDir path => path ≠ []
  | .jobs count => 0 < count ∧ count < 0x10000000000000000
  | .timeout seconds => seconds < 0x10000000000000000
  | _ => True

/-- The value of a request is accepted, and gives what is asked for. -/
theorem accept_value {x : Request} (hx : x.IsValid) (a : Arguments) :
    a.accept x.switch x.value = .ok (apply a x) := by
  have hpath : ∀ {s : Switch} {path : Path}, path ≠ [] → readPath s path = .ok path := by
    intro s path hpath
    rw [readPath, if_neg fun hempty => hpath (List.isEmpty_iff.mp hempty)]
  cases x with
  | exe path => simp only [Arguments.accept, switch, value, hpath hx]; rfl
  | fixturesDir path => simp only [Arguments.accept, switch, value, hpath hx]; rfl
  | jobs count =>
    simp only [Arguments.accept, switch, value, readWith_encodeString,
      readPositive_toString hx.1 hx.2]
    rfl
  | timeout seconds =>
    simp only [Arguments.accept, switch, value, readWith_encodeString, readNumber_toString hx]
    rfl
  | format f => cases f <;> rfl
  | color choice => cases choice <;> rfl
  | debug subject => cases subject <;> rfl
  | extension | errorMarker | skip =>
    simp only [Arguments.accept, switch, value, readText_encodeString]
    rfl
  | markerRegex | verbose | list | exact => rfl

theorem foldl_skip (b : Arguments) (patterns : List String) :
    (patterns.map Request.skip).foldl apply b = { b with skip := b.skip ++ patterns } := by
  induction patterns generalizing b with
  | nil => rw [List.append_nil]; rfl
  | cons p ps ih =>
    rw [List.map_cons, List.foldl_cons, ih]
    simp only [apply, List.append_assoc, List.singleton_append]

theorem foldl_debug (b : Arguments) (subjects : List Subject) :
    (subjects.map Request.debug).foldl apply b = { b with debug := b.debug ++ subjects } := by
  induction subjects generalizing b with
  | nil => rw [List.append_nil]; rfl
  | cons s ss ih =>
    rw [List.map_cons, List.foldl_cons, ih]
    simp only [apply, List.append_assoc, List.singleton_append]

end Request

/-! ## §4 How one request is read -/

theorem Switch.mem_all (s : Switch) : s ∈ all := by
  cases s <;> decide

theorem Switch.ofLong?_long (s : Switch) : ofLong? (Utf8.encodeString s.long) = some s := by
  cases s <;> decide +kernel

theorem Switch.exists_long (s : Switch) :
    ∃ b bs, Utf8.encodeString s.long = b :: bs ∧ Reading.equals ∉ b :: bs := by
  cases s <;> exact ⟨_, _, rfl, by decide +kernel⟩

namespace Reading

variable {r : Reading}

/-- A name is told from the value behind the first equals sign. -/
theorem splitLong_attached {name : Bytes} (hname : equals ∉ name) (value : Bytes) :
    splitLong (name ++ equals :: value) = (name, some value) := by
  have htake : (name ++ equals :: value).takeWhile (· ≠ equals) = name := by
    rw [List.takeWhile_append_of_pos]
    · simp
    · intro c hc
      exact decide_eq_true fun h => hname (h ▸ hc)
  simp only [splitLong, htake, List.drop_left]

theorem splitLong_alone {name : Bytes} (hname : equals ∉ name) : splitLong name = (name, none) := by
  have htake : name.takeWhile (· ≠ equals) = name := by
    apply List.takeWhile_eq_self_iff.mpr
    intro c hc
    exact decide_eq_true fun h => hname (h ▸ hc)
  simp only [splitLong, htake, List.drop_length]

/-- An argument behind two hyphens is a name and perhaps a value. -/
theorem argument_hyphens (r : Reading) {text : Bytes} (htext : text ≠ []) :
    r.argument (hyphens ++ text) = r.long (splitLong text).1 (splitLong text).2 := by
  obtain ⟨b, bs, rfl⟩ := List.exists_cons_of_ne_nil htext
  rfl

theorem argument_attached (r : Reading) (s : Switch) (value : Bytes) :
    r.argument (s.writtenWith value) = r.long (Utf8.encodeString s.long) (some value) := by
  obtain ⟨b, bs, hlong, hname⟩ := s.exists_long
  rw [Switch.writtenWith, Switch.written, List.append_assoc, hlong, argument_hyphens r (by simp),
    splitLong_attached hname]

theorem argument_alone (r : Reading) (s : Switch) :
    r.argument s.written = r.long (Utf8.encodeString s.long) none := by
  obtain ⟨b, bs, hlong, hname⟩ := s.exists_long
  rw [Switch.written, hlong, argument_hyphens r (by simp), splitLong_alone hname]

/-- What was read, and a request that was read as well. -/
def granted (r : Reading) (x : Request) : Reading :=
  { r.give (.switch x.switch) with arguments := x.apply r.arguments }

theorem mem_given_give {slot other : Slot} :
    other ∈ (r.give slot).given ↔ other ∈ r.given ∨ other = slot := by
  rw [give]
  split
  next h =>
    constructor
    · exact .inl
    · rintro (hother | rfl)
      · exact hother
      · exact List.contains_iff_mem.mp h
  next => simp

theorem mem_given_granted {x : Request} {slot : Slot} :
    slot ∈ (r.granted x).given ↔ slot ∈ r.given ∨ slot = .switch x.switch := mem_given_give

theorem pending_give (r : Reading) (slot : Slot) : (r.give slot).pending = r.pending := by
  rw [give]
  split <;> rfl

theorem arguments_give (r : Reading) (slot : Slot) : (r.give slot).arguments = r.arguments := by
  rw [give]
  split <;> rfl

theorem settle_of_nothing (hpending : r.pending = none) : r.settle = (r, none) := by
  simp only [settle, hpending]

/-- Whether an option can still be read: it was not given yet, or may be given again. -/
def Allows (r : Reading) (s : Switch) : Prop := s.isRepeatable = true ∨ .switch s ∉ r.given

theorem allows_iff {s : Switch} :
    r.Allows s ↔ (!s.isRepeatable && r.given.contains (.switch s)) = false := by
  rw [Allows, Bool.and_eq_false_iff, Bool.not_eq_false', Bool.eq_false_iff, Ne,
    List.contains_iff_mem]

/-- A value is taken if its option can still be read and the value is accepted. -/
theorem take_eq_none_iff {s : Switch} {value : Bytes} {r₁ : Reading} :
    r.take s value = (r₁, none) ↔ r.Allows s ∧ ∃ a, r.arguments.accept s value = .ok a ∧
      r₁ = { r.give (.switch s) with arguments := a } := by
  rw [allows_iff, take]
  simp only [arguments_give]
  cases (!s.isRepeatable && r.given.contains (.switch s)) with
  | true => simp
  | false =>
    cases r.arguments.accept s value with
    | error m => simp
    | ok a => simp [eq_comm]

/-- A request is read as what it asks for. -/
theorem argument_text {x : Request} (hx : x.IsValid) (hallows : r.Allows x.switch)
    (hpending : r.pending = none) : r.argument x.text = .ok (r.granted x) := by
  have htake : r.settleAndTake x.switch x.value = .ok (r.granted x) := by
    have hgranted : r.take x.switch x.value = (r.granted x, none) :=
      take_eq_none_iff.mpr ⟨hallows, _, Request.accept_value hx r.arguments, rfl⟩
    simp only [settleAndTake, settle_of_nothing hpending, hgranted]
  rw [Request.text]
  split
  -- The value is attached, so it is looked at at once.
  next hvalue =>
    rw [argument_attached, long, Switch.ofLong?_long]
    simp only [hvalue, if_true, option]
    exact htake
  next hflag =>
    rw [argument_alone, long, Switch.ofLong?_long]
    simp only [if_neg hflag]
    -- Neither the help nor the version can be asked for by a request.
    cases x with
    | markerRegex | verbose | list | exact => exact htake
    | exe | fixturesDir | extension | errorMarker | jobs | timeout | format | color | skip | debug =>
      exact absurd rfl hflag

/-! ## §5 How any number of requests is read -/

theorem written_ne_hyphens (s : Switch) (rest : Bytes) : s.written ++ rest ≠ hyphens := by
  obtain ⟨b, bs, hlong, -⟩ := s.exists_long
  simp [Switch.written, hyphens, hlong]

theorem text_ne_hyphens (x : Request) : x.text ≠ hyphens := by
  rw [Request.text]
  split
  · exact written_ne_hyphens x.switch _
  · simpa using written_ne_hyphens x.switch []

/-- Requests are read one after the other, if each of them can be had and no option is given twice that
    may be given only once. -/
theorem all_text {xs : List Request} (hvalid : ∀ x ∈ xs, x.IsValid)
    (hallows : ∀ x ∈ xs, r.Allows x.switch)
    (honce : xs.Pairwise fun x y => x.switch = y.switch → y.switch.isRepeatable = true)
    (hpending : r.pending = none) (rest : List Bytes) :
    all false r (xs.map (·.text) ++ rest) = all false (xs.foldl granted r) rest := by
  induction xs generalizing r with
  | nil => rfl
  | cons x xs ih =>
    rw [List.pairwise_cons] at honce
    have hread := argument_text (hvalid x List.mem_cons_self) (hallows x List.mem_cons_self) hpending
    rw [List.map_cons, List.cons_append, all, if_neg Bool.false_ne_true, if_neg (text_ne_hyphens x),
      hread, List.foldl_cons]
    apply ih (fun y hy => hvalid y (List.mem_cons_of_mem x hy))
    · intro y hy
      -- The option of `y` is new, unless it is that of `x` and may be given again.
      rcases hallows y (List.mem_cons_of_mem x hy) with hrepeatable | hnot
      · exact .inl hrepeatable
      · by_cases hsame : x.switch = y.switch
        · exact .inl (honce.1 y hy hsame)
        · refine .inr fun hmem => ?_
          rcases mem_given_granted.mp hmem with hbefore | heq
          · exact hnot hbefore
          · exact hsame (Slot.switch.inj heq).symm
    · exact honce.2
    · rw [granted, pending_give, hpending]

theorem arguments_foldl_granted (r : Reading) (xs : List Request) :
    (xs.foldl granted r).arguments = xs.foldl Request.apply r.arguments := by
  induction xs generalizing r with
  | nil => rfl
  | cons x xs ih => exact ih (r.granted x)

theorem pending_foldl_granted (r : Reading) (xs : List Request) :
    (xs.foldl granted r).pending = r.pending := by
  induction xs generalizing r with
  | nil => rfl
  | cons x xs ih =>
    rw [List.foldl_cons, ih, granted]
    exact pending_give r _

theorem mem_given_foldl_granted {xs : List Request} {slot : Slot} :
    slot ∈ (xs.foldl granted r).given ↔ slot ∈ r.given ∨ ∃ x ∈ xs, slot = .switch x.switch := by
  induction xs generalizing r with
  | nil => simp
  | cons x xs ih =>
    rw [List.foldl_cons, ih, mem_given_granted, or_assoc]
    simp only [List.mem_cons, exists_eq_or_imp]

/-- Filters behind others are kept until the end. -/
theorem all_words_after (r : Reading) (before words : List Bytes) :
    all true { r with pending := some (.filters before) } words =
      .ok { r with pending := some (.filters (words.reverse ++ before)) } := by
  induction words generalizing before with
  | nil => rfl
  | cons w ws ih =>
    rw [all, if_pos rfl, word]
    simp only [ih, List.reverse_cons, List.append_assoc, List.singleton_append]

/-- Filters that are text are taken. -/
theorem settle_filters (r : Reading) (words : List String) :
    ({ r with pending := some (.filters (words.map Utf8.encodeString).reverse) } : Reading).settle =
      ({ ({ r with pending := none } : Reading).give .filters with
          arguments := { r.arguments with filters := r.arguments.filters ++ words } }, none) := by
  simp only [settle, takeFilters, List.reverse_reverse, readTexts_encodeString, arguments_give]

/-- After `--`, everything is a filter. -/
theorem all_words (hpending : r.pending = none) (words : List String) :
    ∃ r', all true r (words.map Utf8.encodeString) = .ok r' ∧ ∃ r'', r'.settle = (r'', none) ∧
      r''.arguments = { r.arguments with filters := r.arguments.filters ++ words } := by
  cases words with
  | nil =>
    refine ⟨r, rfl, r, settle_of_nothing hpending, ?_⟩
    rw [List.append_nil]
  | cons w ws =>
    have hfirst : r.word (Utf8.encodeString w) =
        .ok { r with pending := some (.filters [Utf8.encodeString w]) } := by
      simp only [word, hpending, settle_of_nothing hpending]
    refine ⟨_, ?_, _, settle_filters r (w :: ws), rfl⟩
    rw [List.map_cons, List.reverse_cons, all, if_pos rfl, hfirst]
    exact all_words_after r [Utf8.encodeString w] (ws.map Utf8.encodeString)

/-- Without variables, nothing comes from the environment. -/
theorem fromEnvironment_of_unset {e : Environment} (r : Reading)
    (he : ∀ s : Switch, s.envName?.bind e.get? = none) (switches : List Switch) :
    fromEnvironment e r switches = .ok r := by
  induction switches with
  | nil => rfl
  | cons s ss ih =>
    rw [fromEnvironment, he s]
    split <;> exact ih

end Reading

/-- The variables that stand in for options are unset. -/
def Environment.IsUnset (e : Environment) : Prop :=
  ∀ (s : Switch) (name : String), s.envName? = some name → e.get? name = none

/-- Requests followed by filters behind `--` are read as what they ask for. -/
theorem parse_requests {e : Environment} (he : e.IsUnset) {xs : List Request}
    (hvalid : ∀ x ∈ xs, x.IsValid)
    (honce : xs.Pairwise fun x y => x.switch = y.switch → y.switch.isRepeatable = true)
    (filters : List String) :
    parse e (xs.map (·.text) ++ Reading.hyphens :: filters.map Utf8.encodeString) =
      .ok { xs.foldl Request.apply .default with
        filters := (xs.foldl Request.apply .default).filters ++ filters } := by
  have hunset : ∀ s : Switch, s.envName?.bind e.get? = none := by
    intro s
    cases hname : s.envName? with
    | none => rfl
    | some name => exact he s name hname
  have hrequests := Reading.all_text (r := .start) hvalid (fun _ _ => .inr List.not_mem_nil) honce rfl
    (Reading.hyphens :: filters.map Utf8.encodeString)
  have hpending : (xs.foldl Reading.granted .start).pending = none :=
    Reading.pending_foldl_granted .start xs
  obtain ⟨r', hwords, r'', hsettle, harguments⟩ := Reading.all_words hpending filters
  have hall : Reading.all false (xs.foldl Reading.granted .start)
      (Reading.hyphens :: filters.map Utf8.encodeString) = .ok r' := by
    rw [Reading.all, if_neg Bool.false_ne_true, if_pos rfl, hwords]
  rw [parse, hrequests, hall]
  simp only [hsettle, Reading.fromEnvironment_of_unset r'' hunset]
  rw [harguments, Reading.arguments_foldl_granted]
  rfl

end Conformance.CommandLine
