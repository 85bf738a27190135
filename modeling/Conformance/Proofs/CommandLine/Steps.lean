import Conformance.Proofs.CommandLine.Requests

/-!
# Reading, step by step

Whatever is read is read in a few kinds of steps, one after the other: what is pending is looked at, the
value of an option is taken, an option waits for its value, a filter is kept. Which options a command line
gives can be told from its text, and a law that holds of each step holds of every command line.

- `Gives`: an option occurs in a command line, in any of its spellings, in front of `--`.
- `Law`: a law of steps, which may depend on whether an option is met in them.
- `Law.all`: it holds of any command line, and what it depends on is whether the option is given there.
- `parse_eq`: behind the last argument, what was not given is left to the environment.
-/

namespace Conformance.CommandLine

variable {d s : Switch}

/-! ## §1 Spellings -/

/-- An option is met among the letters behind one hyphen: in front of it are options that take no value. -/
inductive InCluster (d : Switch) : Bytes → Prop
  | here {b : UInt8} {bs : Bytes} (hletter : d.letter? = some b) : InCluster d (b :: bs)
  | behind {s : Switch} {b : UInt8} {bs : Bytes} (hletter : s.letter? = some b)
      (hflag : s.takesValue = false) (hrest : InCluster d bs) : InCluster d (b :: bs)

/-- The spellings of an option: a name behind two hyphens, with or without a value behind an equals sign,
    and a letter behind one hyphen, with or without other letters. -/
inductive Spells (d : Switch) : Bytes → Prop
  | long {name : String} (hname : name ∈ d.longNames) :
      Spells d (Reading.hyphens ++ Utf8.encodeString name)
  | attached {name : String} (hname : name ∈ d.longNames) (value : Bytes) :
      Spells d (Reading.hyphens ++ (Utf8.encodeString name ++ Reading.equals :: value))
  | short {bs : Bytes} (hcluster : InCluster d bs) : Spells d (0x2D :: bs)

/-- An option is given in a command line: it is spelled in front of `--`, behind which there are filters
    only. -/
def Gives (d : Switch) (argv : List Bytes) : Prop :=
  ∃ value ∈ argv.takeWhile (· ≠ Reading.hyphens), Spells d value

theorem gives_cons_iff {value : Bytes} {argv : List Bytes} (hvalue : value ≠ Reading.hyphens) :
    Gives d (value :: argv) ↔ Spells d value ∨ Gives d argv := by
  rw [Gives, List.takeWhile_cons_of_pos (by simpa using hvalue)]
  simp only [List.mem_cons, exists_eq_or_imp]
  rfl

/-- Options are told apart by their names. -/
theorem Switch.ofLong?_eq_some_iff {name : Bytes} :
    ofLong? name = some s ↔ name ∈ s.longNames.map Utf8.encodeString := by
  constructor
  · intro h
    rw [ofLong?] at h
    have hfound := List.find?_some h
    exact List.contains_iff_mem.mp hfound
  · have hall : ∀ s ∈ all, ∀ name ∈ s.longNames.map Utf8.encodeString, ofLong? name = some s := by
      decide +kernel
    exact hall s s.mem_all name

theorem Switch.ofLetter?_eq_some_iff {b : UInt8} : ofLetter? b = some s ↔ s.letter? = some b := by
  constructor
  · intro h
    rw [ofLetter?] at h
    have hfound := List.find?_some h
    exact of_decide_eq_true hfound
  · intro h
    cases s <;> cases h <;> decide

/-- A name is not empty, and there is no equals sign in it. -/
theorem Switch.exists_longName {name : String} (hname : name ∈ s.longNames) :
    ∃ b bs, Utf8.encodeString name = b :: bs ∧ Reading.equals ∉ b :: bs := by
  rw [longNames, List.mem_cons] at hname
  rcases hname with rfl | halias
  · exact s.exists_long
  · cases s <;> simp only [aliases, List.mem_cons, List.not_mem_nil, or_false] at halias
    subst halias
    exact ⟨_, _, rfl, by decide +kernel⟩

theorem not_inCluster_nil : ¬InCluster d [] := nofun

/-- An option is met at a letter if it is the one of this letter, or further behind if that takes no
    value. -/
theorem inCluster_cons_iff {b : UInt8} {bs : Bytes} :
    InCluster d (b :: bs) ↔
      ∃ s, Switch.ofLetter? b = some s ∧ (s = d ∨ s.takesValue = false ∧ InCluster d bs) := by
  constructor
  · intro h
    cases h with
    | here hletter => exact ⟨d, Switch.ofLetter?_eq_some_iff.mpr hletter, .inl rfl⟩
    | @behind s _ _ hletter hflag hrest =>
      exact ⟨s, Switch.ofLetter?_eq_some_iff.mpr hletter, .inr ⟨hflag, hrest⟩⟩
  · rintro ⟨s, hletter, rfl | ⟨hflag, hrest⟩⟩
    · exact .here (Switch.ofLetter?_eq_some_iff.mp hletter)
    · exact .behind (Switch.ofLetter?_eq_some_iff.mp hletter) hflag hrest

/-- A text behind two hyphens is a name, and the value behind the first equals sign. -/
theorem Reading.splitLong_spec (text : Bytes) :
    text = (splitLong text).1 ++ (splitLong text).2.elim [] (equals :: ·) := by
  by_cases hequals : equals ∈ text
  · obtain ⟨name, value, rfl, hname⟩ := List.eq_append_cons_of_mem hequals
    rw [splitLong_attached hname value]
    rfl
  · rw [splitLong_alone hequals]
    exact (List.append_nil text).symm

/-- No letter of an option is a hyphen. -/
theorem InCluster.ne_hyphen {b : UInt8} {bs : Bytes} (h : InCluster d (b :: bs)) : b ≠ 0x2D := by
  have hletter : ∀ s : Switch, s.letter? ≠ some 0x2D := by
    intro s
    cases s <;> decide
  rintro rfl
  cases h with
  | here h => exact hletter d h
  | @behind s _ _ h => exact hletter s h

/-- The spellings of an option, told apart by how they begin. -/
theorem spells_iff {value : Bytes} :
    Spells d value ↔
      match value with
      | 0x2D :: 0x2D :: b :: bs => (Reading.splitLong (b :: bs)).1 ∈ d.longNames.map Utf8.encodeString
      | 0x2D :: b :: bs => InCluster d (b :: bs)
      | _ => False := by
  constructor
  · intro h
    cases h with
    | @long name hname =>
      obtain ⟨b, bs, hlong, hequals⟩ := Switch.exists_longName hname
      rw [hlong]
      show (Reading.splitLong (b :: bs)).1 ∈ _
      rw [Reading.splitLong_alone hequals, ← hlong]
      exact List.mem_map_of_mem hname
    | @attached name hname value =>
      obtain ⟨b, bs, hlong, hequals⟩ := Switch.exists_longName hname
      rw [hlong]
      show (Reading.splitLong (b :: bs ++ Reading.equals :: value)).1 ∈ _
      rw [Reading.splitLong_attached hequals, ← hlong]
      exact List.mem_map_of_mem hname
    | @short bs hcluster =>
      cases bs with
      | nil => cases hcluster
      | cons b bs =>
        split
        next heq =>
          cases heq
          exact absurd rfl hcluster.ne_hyphen
        next heq =>
          cases heq
          exact hcluster
        next hother => exact absurd rfl (hother b bs)
  · intro h
    split at h
    next b bs =>
      obtain ⟨name, hname, hsplit⟩ := List.mem_map.mp h
      -- The argument is put together again from the name and the value.
      have hspec := Reading.splitLong_spec (b :: bs)
      rw [← hsplit] at hspec
      rw [hspec]
      cases (Reading.splitLong (b :: bs)).2 with
      | none =>
        rw [Option.elim_none, List.append_nil]
        exact .long hname
      | some value => exact .attached hname value
    next => exact .short h
    next => exact h.elim

namespace Reading

/-! ## §2 Steps -/

/-- What is pending has been looked at, and nothing is wrong with it. -/
def settled (r : Reading) : Except Stop Reading :=
  match r.settle with
  | (_, some m) => .error (.misuse m)
  | (r, none) => .ok r

/-- The value of an option has been taken, and nothing is wrong with it. -/
def taken (s : Switch) (value : Bytes) (r : Reading) : Except Stop Reading :=
  match r.take s value with
  | (_, some m) => .error (.misuse m)
  | (r, none) => .ok r

/-- What was read, and filters. -/
def filtered (words : List String) (r : Reading) : Reading :=
  { ({ r with pending := none } : Reading).give .filters with
    arguments := { r.arguments with filters := r.arguments.filters ++ words } }

/-- Looking at what is pending, by what it is. -/
def settledAs (p : Option Pending) (r : Reading) : Except Stop Reading :=
  match p with
  | none => .ok r
  | some (.wanting s) => .error (.misuse (.missingValue s))
  | some (.supplied s value) => taken s value { r with pending := none }
  | some (.filters values) =>
    match readTexts values.reverse with
    | .ok words => .ok (r.filtered words)
    | .error m => .error (.misuse m)

/-- Reading a filter, by what is pending. -/
def wordAs (value : Bytes) (p : Option Pending) (r : Reading) : Except Stop Reading :=
  match p with
  | some (.filters values) => .ok { r with pending := some (.filters (value :: values)) }
  | _ => r.settled.bind fun r => .ok { r with pending := some (.filters [value]) }

/-- Reading a value or a filter, by what is pending. -/
def valueOrWordAs (value : Bytes) (p : Option Pending) (r : Reading) : Except Stop Reading :=
  match p with
  | some (.wanting s) => .ok { r with pending := some (.supplied s value) }
  | _ => r.word value

variable {r r₁ : Reading}

theorem exists_of_bind {next : Reading → Except Stop Reading} {x : Except Stop Reading} {r₂ : Reading}
    (h : x.bind next = .ok r₂) : ∃ r₁, x = .ok r₁ ∧ next r₁ = .ok r₂ := by
  cases x with
  | error e => cases h
  | ok r₁ => exact ⟨r₁, rfl, h⟩

theorem settled_eq (r : Reading) : r.settled = r.settledAs r.pending := by
  unfold settled settle settledAs
  rcases r.pending with _ | (s | ⟨s, value⟩ | values)
  · rfl
  · rfl
  · rfl
  · simp only [takeFilters, arguments_give]
    cases readTexts values.reverse <;> rfl

theorem settleAndTake_eq (r : Reading) (s : Switch) (value : Bytes) :
    r.settleAndTake s value = r.settled.bind (taken s value) := by
  rw [settleAndTake, settled]
  rcases r.settle with ⟨r₁, _ | m⟩ <;> rfl

/-- A value is taken if its option can still be read and the value is accepted. -/
theorem taken_eq_ok_iff {value : Bytes} :
    r.taken s value = .ok r₁ ↔ r.Allows s ∧ ∃ a, r.arguments.accept s value = .ok a ∧
      r₁ = { r.give (.switch s) with arguments := a } := by
  rw [← take_eq_none_iff, taken]
  rcases r.take s value with ⟨r₂, _ | m⟩ <;> simp

theorem flag_eq (hhelp : s ≠ .help) (hversion : s ≠ .version) :
    r.flag s = r.settleAndTake s (Utf8.encodeString "true") := by
  unfold flag
  split
  · exact absurd rfl hhelp
  · exact absurd rfl hversion
  · rfl

/-- The help and the version end the reading, whatever is pending. -/
theorem flag_ne_ok (hs : s = .help ∨ s = .version) : r.flag s ≠ .ok r₁ := by
  intro h
  rcases hs with rfl | rfl
  · rcases hsettle : r.settle with ⟨_, _ | m⟩ <;> simp [flag, hsettle] at h
  · rcases hsettle : r.settle with ⟨_, _ | m⟩ <;> simp [flag, hsettle] at h

theorem option_alone_eq (r : Reading) (s : Switch) :
    r.option s none = r.settled.bind fun r => .ok { r with pending := some (.wanting s) } := by
  rw [settled, option]
  rcases r.settle with ⟨r₁, _ | m⟩ <;> rfl

/-- A letter is followed by more letters if its option takes no value; else what is left over is the value. -/
theorem shorts_flag_eq {b : UInt8} (hb : Switch.ofLetter? b = some s) (hs : s.takesValue = false)
    (r : Reading) (bs : Bytes) : r.shorts (b :: bs) = (r.flag s).bind fun r => r.shorts bs := by
  rw [shorts, hb]
  simp only [hs, Bool.false_eq_true, if_false]
  cases r.flag s <;> rfl

theorem shorts_option_eq {b : UInt8} (hb : Switch.ofLetter? b = some s) (hs : s.takesValue = true)
    (r : Reading) (bs : Bytes) : r.shorts (b :: bs) = r.option s (attachedTo bs) := by
  rw [shorts, hb]
  simp only [hs, if_true]

theorem word_eq (r : Reading) (value : Bytes) : r.word value = r.wordAs value r.pending := by
  have hfirst : (r.settled.bind fun r => .ok { r with pending := some (.filters [value]) }) =
      match r.settle with
      | (_, some m) => .error (.misuse m)
      | (r, none) => .ok { r with pending := some (.filters [value]) } := by
    rw [settled]
    rcases r.settle with ⟨r₁, _ | m⟩ <;> rfl
  unfold word wordAs
  rcases r.pending with _ | (s | ⟨s, value⟩ | values)
  · exact hfirst.symm
  · exact hfirst.symm
  · exact hfirst.symm
  · rfl

theorem valueOrWord_eq (r : Reading) (value : Bytes) :
    r.valueOrWord value = r.valueOrWordAs value r.pending := by
  unfold valueOrWord valueOrWordAs
  rcases r.pending with _ | (s | ⟨s, value⟩ | values) <;> rfl

theorem all_words_cons (r : Reading) (value : Bytes) (argv : List Bytes) :
    all true r (value :: argv) = (r.word value).bind fun r => all true r argv := by
  rw [all, if_pos rfl]
  cases r.word value <;> rfl

theorem all_hyphens_cons (r : Reading) (argv : List Bytes) :
    all false r (hyphens :: argv) = all true r argv := by
  rw [all, if_neg Bool.false_ne_true, if_pos rfl]

theorem all_cons {value : Bytes} (hvalue : value ≠ hyphens) (r : Reading) (argv : List Bytes) :
    all false r (value :: argv) = (r.argument value).bind fun r => all false r argv := by
  rw [all, if_neg Bool.false_ne_true, if_neg hvalue]
  cases r.argument value <;> rfl

/-! ## §3 Laws of steps -/

/-- A law of steps that end in a reading. It may depend on whether the option `d` is met in them: a value
    of it is taken, or it begins to wait for one. -/
structure Law (d : Switch) (Q : (Reading → Except Stop Reading) → Prop → Prop) : Prop where
  ok : Q .ok False
  never {op : Reading → Except Stop Reading} {met : Prop} : (∀ r r₁, op r ≠ .ok r₁) → Q op met
  bind {op next : Reading → Except Stop Reading} {met met' : Prop} :
    Q op met → Q next met' → Q (fun r => (op r).bind next) (met ∨ met')
  settled : Q settled False
  taken (s : Switch) (value : Bytes) : Q (taken s value) (s = d)
  option (s : Switch) : Q (fun r => r.option s none) (s = d)
  word (value : Bytes) : Q (fun r => r.word value) False
  valueOrWord (value : Bytes) : Q (fun r => r.valueOrWord value) False

namespace Law

variable {Q : (Reading → Except Stop Reading) → Prop → Prop} (law : Law d Q)
include law

theorem settleAndTake (s : Switch) (value : Bytes) : Q (fun r => r.settleAndTake s value) (s = d) := by
  have hboth := law.bind law.settled (law.taken s value)
  rw [false_or] at hboth
  simpa only [settleAndTake_eq] using hboth

theorem flag (s : Switch) : Q (fun r => r.flag s) (s = d) := by
  by_cases hs : s = .help ∨ s = .version
  · exact law.never fun r r₁ => flag_ne_ok hs
  · obtain ⟨hhelp, hversion⟩ := not_or.mp hs
    simpa only [flag_eq hhelp hversion] using law.settleAndTake s (Utf8.encodeString "true")

theorem optionWith (s : Switch) (attached : Option Bytes) :
    Q (fun r => r.option s attached) (s = d) := by
  cases attached with
  | none => exact law.option s
  | some value => exact law.settleAndTake s value

theorem long (name : Bytes) (attached : Option Bytes) :
    Q (fun r => r.long name attached) (name ∈ d.longNames.map Utf8.encodeString) := by
  unfold Reading.long
  cases hname : Switch.ofLong? name with
  -- An unknown option ends the reading, and so does a value for an option that takes none.
  | none => exact law.never fun r r₁ h => by cases h
  | some s =>
    have hmet : (name ∈ d.longNames.map Utf8.encodeString) = (s = d) := by
      rw [← Switch.ofLong?_eq_some_iff, hname, Option.some.injEq]
    rw [hmet]
    dsimp only
    split
    next => exact law.optionWith s attached
    next =>
      cases attached with
      | some value => exact law.never fun r r₁ h => by cases h
      | none => exact law.flag s

theorem shorts (bs : Bytes) : Q (fun r => r.shorts bs) (InCluster d bs) := by
  induction bs with
  | nil =>
    rw [eq_false (not_inCluster_nil (d := d))]
    exact law.ok
  | cons b bs ih =>
    cases hb : Switch.ofLetter? b with
    | none => exact law.never fun r r₁ h => by simp only [Reading.shorts, hb] at h; cases h
    | some s =>
      have hmet : InCluster d (b :: bs) ↔ s = d ∨ s.takesValue = false ∧ InCluster d bs := by
        rw [inCluster_cons_iff, hb]
        simp only [Option.some.injEq, exists_eq_left']
      rw [hmet]
      cases hs : s.takesValue with
      | true => simpa [shorts_option_eq hb hs] using law.optionWith s (attachedTo bs)
      | false => simpa [shorts_flag_eq hb hs] using law.bind (law.flag s) ih

theorem argument (value : Bytes) : Q (fun r => r.argument value) (Spells d value) := by
  rw [spells_iff]
  unfold Reading.argument
  split
  next => exact law.long _ _
  next hone => simpa only using law.shorts _
  next htwo hone => simpa only using law.valueOrWord value

theorem all_words (argv : List Bytes) : Q (fun r => all true r argv) False := by
  induction argv with
  | nil => exact law.ok
  | cons value argv ih => simpa only [all_words_cons, or_self] using law.bind (law.word value) ih

/-- A law of steps holds of any command line. What it may depend on is whether the option is given there. -/
theorem all (argv : List Bytes) : Q (fun r => all false r argv) (Gives d argv) := by
  induction argv with
  | nil =>
    have hmet : Gives d [] = False := by simp [Gives]
    rw [hmet]
    exact law.ok
  | cons value argv ih =>
    by_cases hvalue : value = hyphens
    -- Behind two hyphens everything is a filter.
    · have hmet : Gives d (value :: argv) = False := by simp [Gives, hvalue]
      rw [hmet, hvalue]
      simpa only [all_hyphens_cons] using law.all_words argv
    · rw [gives_cons_iff hvalue]
      simpa only [all_cons hvalue] using law.bind (law.argument value) ih

/-- So it holds of reading a command line to its end, where what is pending is looked at. -/
theorem read (argv : List Bytes) :
    Q (fun r => (Reading.all false r argv).bind Reading.settled) (Gives d argv) := by
  simpa only [or_false] using law.bind (law.all argv) law.settled

end Law

/-! ## §4 The environment -/

/-- The values that variables stand in with, for options that were not given. -/
def fallbacks (e : Environment) (r : Reading) (switches : List Switch) : List (Switch × Bytes) :=
  switches.filterMap fun s =>
    if r.given.contains (.switch s) then none else (s.envName?.bind e.get?).map (s, ·)

end Reading

/-- The arguments with the values of some options, one after the other. -/
def Arguments.acceptAll (a : Arguments) (values : List (Switch × Bytes)) : Except Misuse Arguments :=
  values.foldlM (fun a x => a.accept x.1 x.2) a

namespace Reading

/-- The values of variables are taken one after the other. -/
theorem fromEnvironment_eq (e : Environment) (r : Reading) (switches : List Switch) :
    fromEnvironment e r switches =
      (r.arguments.acceptAll (r.fallbacks e switches)).map fun a => { r with arguments := a } := by
  induction switches generalizing r with
  | nil => rfl
  | cons s rest ih =>
    rw [fromEnvironment, fallbacks, List.filterMap_cons]
    cases r.given.contains (.switch s) with
    | true => exact ih r
    | false =>
      cases s.envName?.bind e.get? with
      | none => exact ih r
      | some value =>
        simp only [Bool.false_eq_true, if_false, Option.map_some, Arguments.acceptAll, List.foldlM_cons]
        cases r.arguments.accept s value with
        | error m => rfl
        | ok a => exact ih { r with arguments := a }

/-- A command line is read to its end, and then the values of variables are taken. -/
theorem parse_eq (e : Environment) (argv : List Bytes) :
    parse e argv = ((all false .start argv).bind settled).bind fun r =>
      (r.arguments.acceptAll (r.fallbacks e Switch.all)).mapError .misuse := by
  rw [parse]
  cases all false .start argv with
  | error stop => rfl
  | ok r =>
    simp only [Except.bind, settled, fromEnvironment_eq]
    rcases r.settle with ⟨r₁, _ | m⟩
    · cases h : r₁.arguments.acceptAll (r₁.fallbacks e Switch.all) <;> simp only [h] <;> rfl
    · rfl

theorem parse_eq_ok_iff {e : Environment} {argv : List Bytes} {a : Arguments} :
    parse e argv = .ok a ↔ ∃ r, (all false .start argv).bind settled = .ok r ∧
      r.arguments.acceptAll (r.fallbacks e Switch.all) = .ok a := by
  rw [parse_eq]
  cases (all false .start argv).bind settled with
  | error stop => simp [Except.bind]
  | ok r =>
    cases h : r.arguments.acceptAll (r.fallbacks e Switch.all) <;>
      simp [Except.bind, Except.mapError, h]

end Reading

end Conformance.CommandLine
