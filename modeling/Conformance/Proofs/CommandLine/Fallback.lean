import Conformance.Proofs.CommandLine.Alongside

/-!
# Variables that stand in for options

A variable of the environment stands in for an option that the command line does not give. Its value is
read in the same way as one on the command line: with the variable set, a command line is read as it is
with the option in front of it. And an option that is given hides its variable, whatever that holds.

- `mem_given_iff_gives`: what counts as given is what is spelled in front of `--`.
- `Request.commutes`: what an option asks for can be asked for at once or in the end.
- `option_equals_variable`: a variable and an option with the same value come to the same.
-/

namespace Conformance.CommandLine

/-! ## §1 Which options count as given -/

/-- The option that is pending. -/
def Pending.switch? : Pending → Option Switch
  | .wanting s => some s
  | .supplied s _ => some s
  | .filters _ => none

namespace Reading

variable {d : Switch} {r r₁ : Reading}

/-- An option has been met: it counts as given, or it is pending. -/
def Meets (d : Switch) (r : Reading) : Prop :=
  .switch d ∈ r.given ∨ r.pending.bind Pending.switch? = some d

/-- After an operation, an option has been met if it had been before, or if it is met in it. -/
def Reads (d : Switch) (op : Reading → Except Stop Reading) (met : Prop) : Prop :=
  ∀ r r₁, op r = .ok r₁ → (r₁.Meets d ↔ r.Meets d ∨ met)

theorem meets_of_nothing (hpending : r.pending = none) : r.Meets d ↔ .switch d ∈ r.given := by
  simp [Meets, hpending]

theorem given_filtered (words : List String) :
    .switch d ∈ (r.filtered words).given ↔ .switch d ∈ r.given := by
  refine mem_given_give.trans (or_iff_left ?_)
  intro hslot
  cases hslot

theorem pending_filtered (words : List String) : (r.filtered words).pending = none :=
  pending_give _ .filters

/-- An option whose value is taken counts as given, and what is pending stays. -/
theorem given_of_taken {s : Switch} {value : Bytes} (h : r.taken s value = .ok r₁) :
    (.switch d ∈ r₁.given ↔ .switch d ∈ r.given ∨ s = d) ∧ r₁.pending = r.pending := by
  obtain ⟨-, a, -, rfl⟩ := taken_eq_ok_iff.mp h
  refine ⟨?_, pending_give r _⟩
  show Slot.switch d ∈ (r.give (.switch s)).given ↔ _
  rw [mem_given_give, Slot.switch.injEq, eq_comm (a := d)]

/-- What was pending counts as given once it has been looked at. -/
theorem given_of_settled (h : r.settled = .ok r₁) :
    (.switch d ∈ r₁.given ↔ r.Meets d) ∧ r₁.pending = none := by
  rw [settled_eq] at h
  rw [Meets]
  rcases hpending : r.pending with _ | (s | ⟨s, value⟩ | values) <;> rw [hpending] at h
  · cases h
    simp [hpending]
  -- An option that still waits for its value is a mistake.
  · cases h
  · obtain ⟨hgiven, hnone⟩ := given_of_taken (d := d) h
    exact ⟨hgiven.trans (by simp [Pending.switch?]), hnone⟩
  · simp only [settledAs] at h
    split at h
    next =>
      cases h
      exact ⟨(given_filtered _).trans (by simp [Pending.switch?]), pending_filtered _⟩
    -- So are filters that are no text.
    next => cases h

/-- What is pending has been looked at, and something else is pending now. -/
theorem meets_of_settledThen {p : Pending} {r₂ : Reading}
    (h : (r.settled.bind fun r => .ok { r with pending := some p }) = .ok r₂) :
    r₂.Meets d ↔ r.Meets d ∨ p.switch? = some d := by
  obtain ⟨r₁, hsettled, hr₁⟩ := exists_of_bind h
  cases hr₁
  rw [← (given_of_settled hsettled).1]
  rfl

/-- No option is met in a filter. -/
theorem meets_of_word {value : Bytes} (h : r.word value = .ok r₁) : r₁.Meets d ↔ r.Meets d := by
  rw [word_eq] at h
  unfold wordAs at h
  split at h
  next hpending =>
    cases h
    simp [Meets, hpending, Pending.switch?]
  next => simpa [Pending.switch?] using meets_of_settledThen (d := d) h

/-- Nor is one met in the value of another, which was met before. -/
theorem meets_of_valueOrWord {value : Bytes} (h : r.valueOrWord value = .ok r₁) :
    r₁.Meets d ↔ r.Meets d := by
  rw [valueOrWord_eq] at h
  unfold valueOrWordAs at h
  split at h
  next hpending =>
    cases h
    simp [Meets, hpending, Pending.switch?]
  next => exact meets_of_word h

/-- So it is known after every step which options have been met. -/
theorem reads (d : Switch) : Law d (Reads d) where
  ok r r₁ h := by
    cases h
    rw [or_false]
  never hop r r₁ h := absurd h (hop r r₁)
  bind hop hnext r r₂ h := by
    obtain ⟨r₁, hr, hr₁⟩ := exists_of_bind h
    rw [hnext r₁ r₂ hr₁, hop r r₁ hr, or_assoc]
  settled r r₁ h := by
    obtain ⟨hgiven, hnone⟩ := given_of_settled (d := d) h
    rw [meets_of_nothing hnone, hgiven, or_false]
  taken s value r r₁ h := by
    obtain ⟨hgiven, hpending⟩ := given_of_taken (d := d) h
    rw [Meets, Meets, hgiven, hpending, or_right_comm]
  option s r r₁ h := by
    have hwaiting := meets_of_settledThen (d := d) ((option_alone_eq r s).symm.trans h)
    rwa [Pending.switch?, Option.some.injEq] at hwaiting
  word value r r₁ h := by rw [meets_of_word h, or_false]
  valueOrWord value r r₁ h := by rw [meets_of_valueOrWord h, or_false]

/-- The options that count as given, once a command line has been read to its end, are those that had been
    met before and those that are spelled in front of `--`. -/
theorem mem_given_iff {argv : List Bytes} (h : (all false r argv).bind settled = .ok r₁) :
    .switch d ∈ r₁.given ↔ r.Meets d ∨ Gives d argv := by
  obtain ⟨r₂, -, hsettled⟩ := exists_of_bind h
  rw [← (reads d).read argv r r₁ h, meets_of_nothing (given_of_settled (d := d) hsettled).2]

theorem mem_given_iff_gives {argv : List Bytes} (h : (all false .start argv).bind settled = .ok r) :
    .switch d ∈ r.given ↔ Gives d argv :=
  (mem_given_iff h).trans (or_iff_right fun hstart => by simp [Meets, start] at hstart)

end Reading

/-! ## §2 What an option asks for -/

/-- What an option asks for can be asked for at once or in the end, if it is given only once. -/
theorem Request.commutes {x : Request} (hx : x.switch.isRepeatable = false) :
    Commutes x.switch (Request.apply · x) where
  accept s value a hs := by
    have hother : s ≠ x.switch := by
      intro hsame
      rw [hs hsame] at hx
      cases hx
    cases s with
    | exe | fixturesDir =>
      simp only [Arguments.accept, readPath]
      split
      · rfl
      · cases x <;> first | rfl | exact absurd rfl hother
    | jobs | timeout =>
      simp only [Arguments.accept]
      cases readWith _ _ value with
      | error m => rfl
      | ok n => cases x <;> first | rfl | exact absurd rfl hother
    | format | verbose | color | debug =>
      simp only [Arguments.accept, readChoice]
      split
      · cases x <;> first | rfl | exact absurd rfl hother
      · rfl
    | extension | errorMarker | skip =>
      simp only [Arguments.accept]
      cases readText value with
      | error m => rfl
      | ok text => cases x <;> first | rfl | exact absurd rfl hother
    | markerRegex | list | exact | help | version => cases x <;> rfl
  filters a words := by cases x <;> rfl

/-- The value of an option that a variable stands in for is a request, or it is a mistake, whatever was
    asked for before. -/
theorem accept_fallback {d : Switch} (htakes : d.takesValue = true) (hname : d.envName? ≠ none)
    (value : Bytes) :
    (∃ x : Request, x.switch = d ∧ ∀ a : Arguments, a.accept d value = .ok (x.apply a)) ∨
      ∃ m, ∀ a : Arguments, a.accept d value = .error m := by
  have hpath : ∀ s, (∃ m, readPath s value = .error m) ∨ readPath s value = .ok value := by
    intro s
    rw [readPath]
    split
    · exact .inl ⟨_, rfl⟩
    · exact .inr rfl
  cases d with
  | exe =>
    rcases hpath .exe with ⟨m, hread⟩ | hread
    · exact .inr ⟨m, fun a => by rw [Arguments.accept, hread]; rfl⟩
    · exact .inl ⟨.exe value, rfl, fun a => by rw [Arguments.accept, hread]; rfl⟩
  | fixturesDir =>
    rcases hpath .fixturesDir with ⟨m, hread⟩ | hread
    · exact .inr ⟨m, fun a => by rw [Arguments.accept, hread]; rfl⟩
    · exact .inl ⟨.fixturesDir value, rfl, fun a => by rw [Arguments.accept, hread]; rfl⟩
  | jobs =>
    cases hread : readWith .jobs readPositive value with
    | error m => exact .inr ⟨m, fun a => by simp only [Arguments.accept, hread]; rfl⟩
    | ok n => exact .inl ⟨.jobs n, rfl, fun a => by simp only [Arguments.accept, hread]; rfl⟩
  | help | markerRegex | verbose | list | exact | version => cases htakes
  | extension | errorMarker | timeout | format | color | skip | debug => exact absurd rfl hname

/-- Values are accepted one after the other. -/
theorem Arguments.acceptAll_append (a : Arguments) (front back : List (Switch × Bytes)) :
    a.acceptAll (front ++ back) = (a.acceptAll front).bind fun a => a.acceptAll back :=
  List.foldlM_append

/-- Values are not accepted together with one that is a mistake. -/
theorem Arguments.acceptAll_ne_ok {x : Switch × Bytes} {values : List (Switch × Bytes)}
    (hx : x ∈ values) {m : Misuse} (hreject : ∀ a : Arguments, a.accept x.1 x.2 = .error m)
    (a b : Arguments) : a.acceptAll values ≠ .ok b := by
  obtain ⟨front, back, rfl⟩ := List.append_of_mem hx
  have hmistake : ∀ c : Arguments, c.acceptAll (x :: back) = .error m := by
    intro c
    rw [acceptAll, List.foldlM_cons, hreject]
    rfl
  rw [acceptAll_append]
  cases a.acceptAll front with
  | error m =>
    intro h
    cases h
  | ok c =>
    intro h
    have hrest := (hmistake c).symm.trans h
    cases hrest

/-! ## §3 Variables and options -/

/-- Options have different variables. -/
theorem Switch.eq_of_envName? {s d : Switch} {name : String} (hs : s.envName? = some name)
    (hd : d.envName? = some name) : s = d := by
  have hall : ∀ s ∈ all, ∀ d ∈ all, s.envName? ≠ none → s.envName? = d.envName? → s = d := by decide
  exact hall s s.mem_all d d.mem_all (by simp [hs]) (hs.trans hd.symm)

section Fallback

variable {d : Switch} {name : String} {value : Bytes} {e e' : Environment} {argv : List Bytes}

/-- The variables of all other options have the same values. -/
theorem envValue_eq (hname : d.envName? = some name)
    (hother : ∀ other, other ≠ name → e'.get? other = e.get? other) {s : Switch} (hs : s ≠ d) :
    s.envName?.bind e'.get? = s.envName?.bind e.get? := by
  cases hvariable : s.envName? with
  | none => rfl
  | some other => exact hother other fun hsame => hs (Switch.eq_of_envName? (hsame ▸ hvariable) hname)

namespace Reading

variable {r r' : Reading} {change : Arguments → Arguments}

/-- The value of a variable is taken among those of others, or it was taken before all of them: what comes
    of it is the same. -/
theorem acceptAll_fallbacks (hcommutes : Commutes d change)
    (haccept : ∀ a : Arguments, a.accept d value = .ok (change a)) (h : Alongside d change r r')
    (hr : .switch d ∉ r.given) (hr' : .switch d ∈ r'.given) (hname : d.envName? = some name)
    (he : e.get? name = some value)
    (hother : ∀ other, other ≠ name → e'.get? other = e.get? other) :
    r'.arguments.acceptAll (r'.fallbacks e' Switch.all) =
      r.arguments.acceptAll (r.fallbacks e Switch.all) := by
  have hnodup : Switch.all.Nodup := by decide
  obtain ⟨front, back, hall, hfront⟩ := List.eq_append_cons_of_mem d.mem_all
  rw [hall, List.nodup_append, List.nodup_cons] at hnodup
  have hback : d ∉ back := hnodup.2.1.1
  -- Other variables stand in with the same values.
  have hsame : ∀ switches : List Switch, d ∉ switches →
      r'.fallbacks e' switches = r.fallbacks e switches := by
    intro switches hnot
    refine fallbacks_congr fun s hs _ => ?_
    have hsd : s ≠ d := fun hsame => hnot (hsame ▸ hs)
    exact ⟨h.given s hsd, fun _ => envValue_eq hname hother hsd⟩
  have hown : r.fallbacks e Switch.all =
      r.fallbacks e front ++ ((d, value) :: r.fallbacks e back) := by
    have hvalue : ¬r.given.contains (.switch d) := fun hc => hr (List.contains_iff_mem.mp hc)
    rw [hall, fallbacks, List.filterMap_append, List.filterMap_cons, if_neg hvalue, hname,
      Option.bind_some, he]
    rfl
  have hnone : r'.fallbacks e' Switch.all = r.fallbacks e front ++ r.fallbacks e back := by
    have hhidden : r'.given.contains (.switch d) := List.contains_iff_mem.mpr hr'
    rw [← hsame front hfront, ← hsame back hback, hall, fallbacks, List.filterMap_append,
      List.filterMap_cons, if_pos hhidden]
    rfl
  have hothers : ∀ x ∈ r.fallbacks e front, x.1 ≠ d := by
    intro x hx hd
    exact hfront (hd ▸ (mem_fallbacks.mp hx).1)
  calc r'.arguments.acceptAll (r'.fallbacks e' Switch.all)
      = ((change r.arguments).acceptAll (r.fallbacks e front)).bind
          fun a => a.acceptAll (r.fallbacks e back) := by
        rw [hnone, h.arguments, Arguments.acceptAll_append]
    _ = (r.arguments.acceptAll (r.fallbacks e front)).bind
          fun a => (change a).acceptAll (r.fallbacks e back) := by
        rw [hcommutes.acceptAll hothers]
        cases r.arguments.acceptAll (r.fallbacks e front) <;> rfl
    _ = r.arguments.acceptAll (r.fallbacks e Switch.all) := by
        rw [hown, Arguments.acceptAll_append]
        congr 1
        funext a
        unfold Arguments.acceptAll
        rw [List.foldlM_cons, haccept]
        rfl

end Reading

/-- If an option is given, its variable makes no difference. -/
theorem parse_of_gives (hgives : Gives d argv) (hname : d.envName? = some name)
    (hother : ∀ other, other ≠ name → e'.get? other = e.get? other) : parse e' argv = parse e argv := by
  rw [Reading.parse_eq, Reading.parse_eq]
  cases hread : (Reading.all false .start argv).bind Reading.settled with
  | error stop => rfl
  | ok r =>
    have hmem := (Reading.mem_given_iff_gives hread).mpr hgives
    have hfallbacks : r.fallbacks e' Switch.all = r.fallbacks e Switch.all := by
      refine Reading.fallbacks_congr fun s _ _ => ⟨.rfl, fun hnot => envValue_eq hname hother ?_⟩
      rintro rfl
      exact hnot hmem
    simp only [Except.bind, hfallbacks]

/-- An option in front of a command line is read first. -/
theorem Reading.all_option_front (htakes : d.takesValue = true) (value : Bytes) (argv : List Bytes) :
    all false .start (d.writtenWith value :: argv) =
      (taken d value .start).bind fun r => all false r argv := by
  have hfront : d.writtenWith value ≠ hyphens := written_ne_hyphens d _
  rw [all_cons hfront, argument_attached, long, Switch.ofLong?_long]
  simp only [htakes, if_true, option, settleAndTake_eq]
  rfl

/-- What is read with an option in front stands beside what is read without it. -/
theorem Reading.exists_taken_start {change : Arguments → Arguments}
    (haccept : ∀ a : Arguments, a.accept d value = .ok (change a)) :
    ∃ r, taken d value .start = .ok r ∧ Alongside d change .start r ∧ .switch d ∈ r.given := by
  refine ⟨_, taken_eq_ok_iff.mpr ⟨.inr List.not_mem_nil, _, haccept _, rfl⟩, ⟨rfl, fun s hs => ?_, rfl⟩,
    mem_given_give.mpr (.inr rfl)⟩
  show Slot.switch s ∈ (start.give (.switch d)).given ↔ _
  rw [mem_given_give]
  exact or_iff_left fun hsame => hs (Slot.switch.inj hsame)

theorem not_mem_given (hargv : ¬Gives d argv) {r : Reading}
    (h : (Reading.all false .start argv).bind Reading.settled = .ok r) : .switch d ∉ r.given :=
  fun hmem => hargv ((Reading.mem_given_iff_gives h).mp hmem)

/-- A request can be made by a variable or in front of the command line. -/
theorem parse_front_of_request {x : Request} (htakes : x.switch.takesValue = true)
    (hname : x.switch.envName? = some name)
    (haccept : ∀ a : Arguments, a.accept x.switch value = .ok (x.apply a))
    (hargv : ¬Gives x.switch argv) (he : e.get? name = some value)
    (hother : ∀ other, other ≠ name → e'.get? other = e.get? other) (a : Arguments) :
    parse e argv = .ok a ↔
      parse e' (x.switch.writtenWith value :: argv) = .ok a := by
  have honce : x.switch.isRepeatable = false := by cases x <;> first | rfl | cases hname
  have hcommutes := Request.commutes honce
  obtain ⟨start', htaken, hbeside, hfront⟩ := Reading.exists_taken_start haccept
  rw [Reading.parse_eq_ok_iff, Reading.parse_eq_ok_iff, Reading.all_option_front htakes, htaken]
  constructor
  · rintro ⟨r, hr, haccepted⟩
    have hnot := not_mem_given hargv hr
    have hkept := (Reading.Alongside.kept hcommutes).law x.switch |>.read argv
    obtain ⟨r', hr', h⟩ := hkept.alongside _ _ _ hbeside hr (.inr hnot)
    have hmem : .switch x.switch ∈ r'.given := (Reading.mem_given_iff hr').mpr (.inl (.inl hfront))
    refine ⟨r', hr', ?_⟩
    rw [← haccepted]
    exact Reading.acceptAll_fallbacks hcommutes haccept h hnot hmem hname he hother
  · rintro ⟨r', hr', haccepted⟩
    have hkept := (Reading.Ahead.kept hcommutes honce).law x.switch |>.read argv
    obtain ⟨r, hr, h, hmem⟩ := hkept.alongside _ _ _ ⟨hbeside, hfront⟩ hr' trivial
    refine ⟨r, hr, ?_⟩
    rw [← haccepted]
    exact (Reading.acceptAll_fallbacks hcommutes haccept h (not_mem_given hargv hr) hmem hname he
      hother).symm

variable (e') in
/-- A value that is a mistake is one in both places. -/
theorem parse_front_of_mistake {m : Misuse} (htakes : d.takesValue = true)
    (hname : d.envName? = some name) (hreject : ∀ a : Arguments, a.accept d value = .error m)
    (hargv : ¬Gives d argv) (he : e.get? name = some value) (a : Arguments) :
    parse e argv ≠ .ok a ∧ parse e' (d.writtenWith value :: argv) ≠ .ok a := by
  rw [Ne, Ne, Reading.parse_eq_ok_iff, Reading.parse_eq_ok_iff, Reading.all_option_front htakes]
  constructor
  · rintro ⟨r, hr, haccepted⟩
    have hmem : (d, value) ∈ r.fallbacks e Switch.all := by
      refine Reading.mem_fallbacks.mpr ⟨d.mem_all, not_mem_given hargv hr, ?_⟩
      rw [hname, Option.bind_some, he]
    exact Arguments.acceptAll_ne_ok hmem hreject _ _ haccepted
  · rintro ⟨r, hr, -⟩
    obtain ⟨r₁, hboth, -⟩ := Reading.exists_of_bind hr
    obtain ⟨start', htaken, -⟩ := Reading.exists_of_bind hboth
    obtain ⟨-, b, haccept, -⟩ := Reading.taken_eq_ok_iff.mp htaken
    rw [hreject] at haccept
    cases haccept

/-- A variable and an option with the same value come to the same: a command line that does not give the
    option in any spelling is read with the variable set as it is read with the option in front of it,
    whatever the variable holds then. And where the option is given, its variable makes no difference at
    all. -/
theorem option_equals_variable (htakes : d.takesValue = true) (hname : d.envName? = some name)
    (hargv : ¬Gives d argv) (he : e.get? name = some value)
    (hother : ∀ other, other ≠ name → e'.get? other = e.get? other) (a : Arguments) :
    (parse e argv = .ok a ↔ parse e' (d.writtenWith value :: argv) = .ok a) ∧
      ∀ given, Gives d given → parse e' given = parse e given := by
  refine ⟨?_, fun given hgives => parse_of_gives hgives hname hother⟩
  rcases accept_fallback htakes (by simp [hname]) value with ⟨x, rfl, haccept⟩ | ⟨m, hreject⟩
  · exact parse_front_of_request htakes hname haccept hargv he hother a
  · obtain ⟨hvariable, hfront⟩ := parse_front_of_mistake e' htakes hname hreject hargv he a
    exact iff_of_false hvariable hfront

end Fallback

/-- Here `--jobs=4` is a filter, so the variable stands in; in front of the command line its value, with a
    plus sign, comes to the same. Once the option is given, the variable may hold what is no text. -/
theorem option_equals_variable_jobs :
    ¬Gives .jobs (["-v", "--skip", "jobs", "--", "--jobs=4"].map Utf8.encodeString) ∧
      parse [("GAYA_TEST_JOBS", [0xFF]), ("GAYA_EXE", [0x78])]
          (["--jobs=+3", "-v", "--skip", "jobs", "--", "--jobs=4"].map Utf8.encodeString) =
        .ok { Arguments.default with
          exe := [0x78], jobs := some 3, verbose := true, skip := ["jobs"]
          filters := ["--jobs=4"] } ∧
      Gives .jobs [Utf8.encodeString "-vj4"] ∧
      parse [("GAYA_TEST_JOBS", [0xFF]), ("GAYA_EXE", [0x78])] [Utf8.encodeString "-vj4"] =
        parse [("GAYA_TEST_JOBS", Utf8.encodeString "+3"), ("GAYA_EXE", [0x78])]
          [Utf8.encodeString "-vj4"] := by
  have hverbose : ¬InCluster .jobs [0x76] := by
    rw [inCluster_cons_iff]
    rintro ⟨s, hs, rfl | ⟨-, hnil⟩⟩
    · exact absurd hs (by decide)
    · exact not_inCluster_nil hnil
  have hgives :
      ¬Gives .jobs (["-v", "--skip", "jobs", "--", "--jobs=4"].map Utf8.encodeString) := by
    rintro ⟨value, hvalue, hspells⟩
    have hvalues : (["-v", "--skip", "jobs", "--", "--jobs=4"].map Utf8.encodeString).takeWhile
        (· ≠ Reading.hyphens) =
          [[0x2D, 0x76], [0x2D, 0x2D, 0x73, 0x6B, 0x69, 0x70], [0x6A, 0x6F, 0x62, 0x73]] := by
      decide +kernel
    rw [hvalues, List.mem_cons, List.mem_cons, List.mem_singleton] at hvalue
    rw [spells_iff] at hspells
    rcases hvalue with rfl | rfl | rfl
    · exact hverbose hspells
    · have hskip : (Reading.splitLong [0x73, 0x6B, 0x69, 0x70]).1 ∈
          Switch.jobs.longNames.map Utf8.encodeString := hspells
      exact absurd hskip (by decide +kernel)
    · exact hspells
  have hgiven : Gives .jobs [Utf8.encodeString "-vj4"] := by
    have htext : Utf8.encodeString "-vj4" = [0x2D, 0x76, 0x6A, 0x34] := by decide +kernel
    rw [htext]
    refine ⟨[0x2D, 0x76, 0x6A, 0x34], by decide, .short ?_⟩
    exact .behind (show Switch.verbose.letter? = some 0x76 from rfl) rfl (.here rfl)
  have hother : ∀ other, other ≠ "GAYA_TEST_JOBS" →
      Environment.get? [("GAYA_TEST_JOBS", [0xFF]), ("GAYA_EXE", [0x78])] other =
        Environment.get? [("GAYA_TEST_JOBS", Utf8.encodeString "+3"), ("GAYA_EXE", [0x78])] other := by
    intro other hne
    simp [Environment.get?, Ne.symm hne]
  have he : Environment.get? [("GAYA_TEST_JOBS", Utf8.encodeString "+3"), ("GAYA_EXE", [0x78])]
      "GAYA_TEST_JOBS" = some (Utf8.encodeString "+3") := by decide
  have hboth := option_equals_variable (d := .jobs) rfl rfl hgives he hother
  have hfront : (Switch.writtenWith .jobs (Utf8.encodeString "+3")) =
      Utf8.encodeString "--jobs=+3" := by decide +kernel
  rw [hfront] at hboth
  exact ⟨hgives, (hboth _).1.mp (by decide +kernel), hgiven, (hboth .default).2 _ hgiven⟩

end Conformance.CommandLine
