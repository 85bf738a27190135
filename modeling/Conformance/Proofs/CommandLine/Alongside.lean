import Mathlib.Data.List.Basic
import Conformance.Proofs.CommandLine.Steps

/-!
# Command lines with something in front

A command line is read in the same way if something was given in front of it, as long as that does not
get in the way of what it gives itself. Here two readings of the same arguments are held against each
other: one has changed its arguments before, and an option counts as given there that the other may not
have met.

- `Keeps`: what is read by the first is read by the second, and they stand to each other as before.
- `Kept.law`: so it is for any command line, if it is so where values are taken and filters are kept.
- `Alongside`, `Ahead`: how a reading stands to one that has changed its arguments, and the other way round.
- `parse_debug_front`: subjects of the log in front of a command line come in front of its own.
-/

namespace Conformance.CommandLine

namespace Reading

/-! ## §1 Two readings -/

/-- What is read by the one reading is read by the other, and they stand to each other as before. This may
    need a property of what the one has read in the end, which it had before then as well. -/
structure Keeps (P : Reading → Prop) (R : Reading → Reading → Prop)
    (op : Reading → Except Stop Reading) : Prop where
  before : ∀ r r₁, op r = .ok r₁ → P r₁ → P r
  alongside : ∀ r r' r₁, R r r' → op r = .ok r₁ → P r₁ → ∃ r₁', op r' = .ok r₁' ∧ R r₁ r₁'

/-- What is to be shown of two readings so that any command line is read alongside: the same is pending in
    both, and taking a value or keeping filters leaves them as they are to each other. -/
structure Kept (P : Reading → Prop) (R : Reading → Reading → Prop) : Prop where
  before : ∀ r p, P { r with pending := p } → P r
  pending : ∀ r r', R r r' → r'.pending = r.pending
  withPending : ∀ r r' p, R r r' → R { r with pending := p } { r' with pending := p }
  taken : ∀ s value, Keeps P R (taken s value)
  filtered : ∀ words, Keeps P R fun r => .ok (r.filtered words)

section Keeps

variable {P : Reading → Prop} {R : Reading → Reading → Prop} {op next : Reading → Except Stop Reading}

theorem Keeps.ok : Keeps P R .ok where
  before r r₁ hop hP := by
    cases hop
    exact hP
  alongside r r' r₁ h hop _ := by
    cases hop
    exact ⟨r', rfl, h⟩

/-- Nothing is to be said of an operation that never succeeds. -/
theorem Keeps.never (hop : ∀ r r₁, op r ≠ .ok r₁) : Keeps P R op where
  before r r₁ h := absurd h (hop r r₁)
  alongside r _ r₁ _ h := absurd h (hop r r₁)

theorem Keeps.bind (hop : Keeps P R op) (hnext : Keeps P R next) :
    Keeps P R fun r => (op r).bind next where
  before r r₂ hboth hP := by
    obtain ⟨r₁, hr, hr₁⟩ := exists_of_bind hboth
    exact hop.before r r₁ hr (hnext.before r₁ r₂ hr₁ hP)
  alongside r r' r₂ h hboth hP := by
    obtain ⟨r₁, hr, hr₁⟩ := exists_of_bind hboth
    obtain ⟨r₁', hr', h₁⟩ := hop.alongside r r' r₁ h hr (hnext.before r₁ r₂ hr₁ hP)
    obtain ⟨r₂', hr₁', h₂⟩ := hnext.alongside r₁ r₁' r₂ h₁ hr₁ hP
    refine ⟨r₂', ?_, h₂⟩
    simp only [hr']
    exact hr₁'

theorem Keeps.congr {op' : Reading → Except Stop Reading} (hop : Keeps P R op)
    (h : ∀ r, op r = op' r) : Keeps P R op' := (funext h : op = op') ▸ hop

namespace Kept

variable (kept : Kept P R)
include kept

/-- What is pending is the same in both readings, so an operation may depend on it. -/
theorem byPending {op : Option Pending → Reading → Except Stop Reading}
    (hop : ∀ p, Keeps P R (op p)) : Keeps P R fun r => op r.pending r where
  before r r₁ hr := (hop r.pending).before r r₁ hr
  alongside r r' r₁ h hr hP := by
    simp only [kept.pending r r' h]
    exact (hop r.pending).alongside r r' r₁ h hr hP

/-- It may also begin by setting what is pending. -/
theorem setting (hop : Keeps P R op) (p : Option Pending) :
    Keeps P R fun r => op { r with pending := p } where
  before r r₁ hr hP := kept.before r p (hop.before _ r₁ hr hP)
  alongside r r' r₁ h := hop.alongside _ _ r₁ (kept.withPending r r' p h)

theorem settled : Keeps P R settled := by
  refine Keeps.congr (kept.byPending fun p => ?_) fun r => (settled_eq r).symm
  rcases p with _ | (s | ⟨s, value⟩ | values)
  · exact .ok
  -- An option that still waits for its value is a mistake.
  · exact .never fun r r₁ h => by cases h
  · exact kept.setting (kept.taken s value) none
  -- Filters that are no text are a mistake as well.
  · cases hread : readTexts values.reverse with
    | error m => exact .never fun r r₁ h => by simp only [settledAs, hread] at h; cases h
    | ok words => exact (kept.filtered words).congr fun r => by simp only [settledAs, hread]

/-- Looking at what is pending, and then at something else. -/
theorem settledThen (p : Option Pending) :
    Keeps P R fun r => r.settled.bind fun r => .ok { r with pending := p } :=
  kept.settled.bind (kept.setting .ok p)

theorem word (value : Bytes) : Keeps P R fun r => r.word value := by
  have hby : Keeps P R fun r => wordAs value r.pending r := by
    refine kept.byPending fun p => ?_
    rcases p with _ | (s | ⟨s, value⟩ | values)
    · exact kept.settledThen _
    · exact kept.settledThen _
    · exact kept.settledThen _
    · exact kept.setting .ok _
  exact hby.congr fun r => (word_eq r value).symm

theorem valueOrWord (value : Bytes) : Keeps P R fun r => r.valueOrWord value := by
  have hby : Keeps P R fun r => valueOrWordAs value r.pending r := by
    refine kept.byPending fun p => ?_
    rcases p with _ | (s | ⟨s, supplied⟩ | values)
    · exact kept.word value
    · exact kept.setting .ok _
    · exact kept.word value
    · exact kept.word value
  exact hby.congr fun r => (valueOrWord_eq r value).symm

/-- Any command line is read alongside, whichever options are given there. -/
theorem law (d : Switch) : Law d fun op _ => Keeps P R op where
  ok := .ok
  never := .never
  bind := .bind
  settled := kept.settled
  taken := kept.taken
  option s := (kept.settledThen (some (.wanting s))).congr fun r => (option_alone_eq r s).symm
  word := kept.word
  valueOrWord := kept.valueOrWord

end Kept
end Keeps
end Reading

/-! ## §2 Changed arguments -/

/-- A change of arguments that can as well be made after an option was read, the option `d` apart unless
    it may be given more than once. -/
structure Commutes (d : Switch) (change : Arguments → Arguments) : Prop where
  accept : ∀ (s : Switch) (value : Bytes) (a : Arguments), (s = d → d.isRepeatable = true) →
    (change a).accept s value = (a.accept s value).map change
  filters : ∀ (a : Arguments) (words : List String),
    { change a with filters := (change a).filters ++ words } =
      change { a with filters := a.filters ++ words }

namespace Reading

variable {d : Switch} {change : Arguments → Arguments} {r r' : Reading}

/-- A reading beside another one that has changed its arguments, and for which the option `d` counts as
    given. -/
structure Alongside (d : Switch) (change : Arguments → Arguments) (r r' : Reading) : Prop where
  arguments : r'.arguments = change r.arguments
  given : ∀ s : Switch, s ≠ d → (.switch s ∈ r'.given ↔ .switch s ∈ r.given)
  pending : r'.pending = r.pending

theorem Alongside.give (h : Alongside d change r r') (slot : Slot) :
    Alongside d change (r.give slot) (r'.give slot) where
  arguments := by rw [arguments_give, arguments_give, h.arguments]
  given s hs := by rw [mem_given_give, mem_given_give, h.given s hs]
  pending := by rw [pending_give, pending_give, h.pending]

/-- Filters are kept alongside. -/
theorem Alongside.filtered (hcommutes : Commutes d change) (h : Alongside d change r r')
    (words : List String) : Alongside d change (r.filtered words) (r'.filtered words) := by
  have hcleared : Alongside d change { r with pending := none } { r' with pending := none } :=
    ⟨h.arguments, h.given, rfl⟩
  refine ⟨?_, (hcleared.give .filters).given, (hcleared.give .filters).pending⟩
  unfold Reading.filtered
  rw [h.arguments]
  exact hcommutes.filters r.arguments words

/-- A value is accepted in both readings or in neither, the option `d` apart unless it may be given more
    than once. -/
theorem Alongside.accept (hcommutes : Commutes d change) (h : Alongside d change r r') {s : Switch}
    (hs : s = d → d.isRepeatable = true) (value : Bytes) :
    r'.arguments.accept s value = (r.arguments.accept s value).map change := by
  rw [h.arguments]
  exact hcommutes.accept s value r.arguments hs

/-- An option other than `d` can be read in both readings or in neither. -/
theorem Alongside.allows_iff (h : Alongside d change r r') {s : Switch} (hs : s ≠ d) :
    r'.Allows s ↔ r.Allows s := by
  rw [Allows, Allows, h.given s hs]

/-- The readings after a value was taken in both. -/
theorem Alongside.take (h : Alongside d change r r') (s : Switch) (a : Arguments) :
    Alongside d change { r.give (.switch s) with arguments := a }
      { r'.give (.switch s) with arguments := change a } :=
  ⟨rfl, (h.give (.switch s)).given, (h.give (.switch s)).pending⟩

/-- An option that can still be read could be read before. -/
theorem allows_of_give {slot : Slot} (h : (r.give slot).Allows d) : r.Allows d :=
  h.imp_right fun hnot hmem => hnot (mem_given_give.mpr (.inl hmem))

theorem Alongside.keeps_taken (hcommutes : Commutes d change) (s : Switch) (value : Bytes) :
    Keeps (fun r => r.Allows d) (Alongside d change) (taken s value) where
  before r r₁ hop hallows := by
    obtain ⟨-, a, -, rfl⟩ := taken_eq_ok_iff.mp hop
    exact allows_of_give hallows
  alongside r r' r₁ h hop hallows := by
    obtain ⟨hfree, a, haccept, rfl⟩ := taken_eq_ok_iff.mp hop
    -- The option counts as given now, so it is `d` only if that may be given again.
    have hrepeatable : s = d → d.isRepeatable = true := by
      rintro rfl
      exact hallows.resolve_right fun hnot => hnot (mem_given_give.mpr (.inr rfl))
    have hfree' : r'.Allows s := by
      by_cases hs : s = d
      · exact .inl (hs ▸ hrepeatable hs)
      · exact (h.allows_iff hs).mpr hfree
    have haccept' : r'.arguments.accept s value = .ok (change a) := by
      rw [h.accept hcommutes hrepeatable, haccept]
      rfl
    exact ⟨_, taken_eq_ok_iff.mpr ⟨hfree', _, haccept', rfl⟩, h.take s a⟩

theorem Alongside.keeps_filtered (hcommutes : Commutes d change) (words : List String) :
    Keeps (fun r => r.Allows d) (Alongside d change) fun r => .ok (r.filtered words) where
  before r r₁ hop hallows := by
    cases hop
    unfold Reading.filtered at hallows
    have hbefore := allows_of_give hallows
    exact hbefore
  alongside r r' r₁ h hop _ := by
    cases hop
    exact ⟨_, rfl, h.filtered hcommutes words⟩

/-- What is read is read with changed arguments as well, if `d` can still be read in the end. -/
theorem Alongside.kept (hcommutes : Commutes d change) :
    Kept (fun r => r.Allows d) (Alongside d change) where
  before _ _ hallows := hallows
  pending _ _ h := h.pending
  withPending _ _ _ h := ⟨h.arguments, h.given, rfl⟩
  taken := keeps_taken hcommutes
  filtered := keeps_filtered hcommutes

/-- A reading that has changed its arguments, and for which `d` does count as given, beside the other. -/
def Ahead (d : Switch) (change : Arguments → Arguments) (r' r : Reading) : Prop :=
  Alongside d change r r' ∧ .switch d ∈ r'.given

/-- An option that was given and may be given only once is not read again. -/
theorem Allows.ne {s : Switch} (h : r.Allows s) (honce : d.isRepeatable = false)
    (hmem : .switch d ∈ r.given) : s ≠ d := by
  rintro rfl
  rcases h with hrepeatable | hnot
  · rw [honce] at hrepeatable
    cases hrepeatable
  · exact hnot hmem

theorem Ahead.keeps_taken (hcommutes : Commutes d change) (honce : d.isRepeatable = false)
    (s : Switch) (value : Bytes) : Keeps (fun _ => True) (Ahead d change) (taken s value) where
  before _ _ _ _ := trivial
  alongside := by
    rintro r' r r₁' ⟨h, hmem⟩ hop -
    obtain ⟨hfree', a', haccept', rfl⟩ := taken_eq_ok_iff.mp hop
    have hs : s ≠ d := hfree'.ne honce hmem
    rw [h.accept hcommutes fun hsame => absurd hsame hs] at haccept'
    -- What is accepted after the change was accepted before it.
    cases haccept : r.arguments.accept s value with
    | error m =>
      rw [haccept] at haccept'
      cases haccept'
    | ok a =>
      rw [haccept] at haccept'
      cases haccept'
      exact ⟨_, taken_eq_ok_iff.mpr ⟨(h.allows_iff hs).mp hfree', _, haccept, rfl⟩, h.take s a,
        mem_given_give.mpr (.inl hmem)⟩

theorem Ahead.keeps_filtered (hcommutes : Commutes d change) (words : List String) :
    Keeps (fun _ => True) (Ahead d change) fun r => .ok (r.filtered words) where
  before _ _ _ _ := trivial
  alongside := by
    rintro r' r r₁' ⟨h, hmem⟩ hop -
    cases hop
    refine ⟨_, rfl, h.filtered hcommutes words, ?_⟩
    unfold Reading.filtered
    exact mem_given_give.mpr (.inl hmem)

/-- What is read with changed arguments, and with an option given that may be given only once, is read
    without the change as well: the option cannot be among what is read. -/
theorem Ahead.kept (hcommutes : Commutes d change) (honce : d.isRepeatable = false) :
    Kept (fun _ => True) (Ahead d change) where
  before _ _ _ := trivial
  pending _ _ h := h.1.pending.symm
  withPending _ _ _ h := ⟨⟨h.1.arguments, h.1.given, rfl⟩, h.2⟩
  taken := keeps_taken hcommutes honce
  filtered := keeps_filtered hcommutes

/-- Variables stand in with the same values if the same options are given and they have the same
    values. -/
theorem fallbacks_congr {e e' : Environment} {switches : List Switch}
    (h : ∀ s ∈ switches, s.envName? ≠ none → (.switch s ∈ r'.given ↔ .switch s ∈ r.given) ∧
      (.switch s ∉ r.given → s.envName?.bind e'.get? = s.envName?.bind e.get?)) :
    r'.fallbacks e' switches = r.fallbacks e switches := by
  apply List.filterMap_congr
  intro s hs
  cases hname : s.envName? with
  | none => simp
  | some name =>
    obtain ⟨hgiven, hvalue⟩ := h s hs (by simp [hname])
    rw [hname] at hvalue
    by_cases hmem : .switch s ∈ r.given
    · rw [if_pos (List.contains_iff_mem.mpr hmem), if_pos (List.contains_iff_mem.mpr (hgiven.mpr hmem))]
    · rw [if_neg fun hc => hmem (List.contains_iff_mem.mp hc),
        if_neg fun hc => hmem (hgiven.mp (List.contains_iff_mem.mp hc)), hvalue hmem]

theorem mem_fallbacks {e : Environment} {switches : List Switch} {x : Switch × Bytes} :
    x ∈ r.fallbacks e switches ↔
      x.1 ∈ switches ∧ .switch x.1 ∉ r.given ∧ x.1.envName?.bind e.get? = some x.2 := by
  rw [fallbacks, List.mem_filterMap]
  constructor
  · rintro ⟨s, hs, hvalue⟩
    split at hvalue
    next => cases hvalue
    next hnot =>
      obtain ⟨value, hget, rfl⟩ := Option.map_eq_some_iff.mp hvalue
      exact ⟨hs, fun hmem => hnot (List.contains_iff_mem.mpr hmem), hget⟩
  · rintro ⟨hs, hnot, hget⟩
    refine ⟨x.1, hs, ?_⟩
    rw [if_neg fun hmem => hnot (List.contains_iff_mem.mp hmem), hget]
    rfl

end Reading

/-- Values of other options are accepted before the change or after it. -/
theorem Commutes.acceptAll {d : Switch} {change : Arguments → Arguments} (hcommutes : Commutes d change)
    {values : List (Switch × Bytes)} (hvalues : ∀ x ∈ values, x.1 ≠ d) (a : Arguments) :
    (change a).acceptAll values = (a.acceptAll values).map change := by
  induction values generalizing a with
  | nil => rfl
  | cons x values ih =>
    have hx : x.1 ≠ d := hvalues x List.mem_cons_self
    have haccept := hcommutes.accept x.1 x.2 a fun hsame => absurd hsame hx
    have hrest := ih fun y hy => hvalues y (List.mem_cons_of_mem x hy)
    unfold Arguments.acceptAll at hrest ⊢
    rw [List.foldlM_cons, List.foldlM_cons, haccept]
    cases a.accept x.1 x.2 with
    | error m => rfl
    | ok b => exact hrest b

/-! ## §3 Subjects of the log -/

/-- Arguments with subjects of the log in front of their own. -/
def Arguments.alsoTelling (subjects : List Subject) (a : Arguments) : Arguments :=
  { a with debug := subjects ++ a.debug }

theorem commutes_alsoTelling (subjects : List Subject) :
    Commutes .debug (Arguments.alsoTelling subjects) where
  accept s value a _ := by
    cases s with
    | exe | fixturesDir =>
      simp only [Arguments.accept, readPath]
      split <;> rfl
    | jobs | timeout =>
      simp only [Arguments.accept]
      cases readWith _ _ value <;> rfl
    | format | verbose | color =>
      simp only [Arguments.accept, readChoice]
      split <;> rfl
    | debug =>
      simp only [Arguments.accept, readChoice]
      split
      · simp only [Except.map, Arguments.alsoTelling, List.append_assoc]
      · rfl
    | extension | errorMarker | skip =>
      simp only [Arguments.accept]
      cases readText value <;> rfl
    | markerRegex | list | exact | help | version => rfl
  filters a words := rfl

/-- A command line that is read is read with subjects of the log in front of it too, and asks for the
    same things, these subjects apart. -/
theorem parse_debug_front {e : Environment} {argv : List Bytes} {a : Arguments}
    (h : parse e argv = .ok a) (subjects : List Subject) :
    parse e (subjects.map (fun x => Utf8.encodeString ("--debug=" ++ x.name)) ++ argv) =
      .ok (a.alsoTelling subjects) := by
  have hcommutes := commutes_alsoTelling subjects
  obtain ⟨r, hread, haccept⟩ := Reading.parse_eq_ok_iff.mp h
  -- The subjects come first, and leave a reading beside the one of nothing.
  have hdebug : ∀ x ∈ subjects.map Request.debug, x.IsValid ∧ Reading.start.Allows x.switch := by
    intro x hx
    obtain ⟨_, -, rfl⟩ := List.mem_map.mp hx
    exact ⟨trivial, .inl rfl⟩
  have hfront := Reading.all_text (fun x hx => (hdebug x hx).1) (fun x hx => (hdebug x hx).2)
    (List.pairwise_map.mpr (List.pairwise_of_forall fun _ _ _ => rfl)) rfl argv
  have hbeside : Reading.Alongside .debug (Arguments.alsoTelling subjects) .start
      ((subjects.map Request.debug).foldl Reading.granted .start) := by
    refine ⟨?_, fun s hs => ?_, Reading.pending_foldl_granted _ _⟩
    · rw [Reading.arguments_foldl_granted, Request.foldl_debug]
      exact congrArg (fun debug => { Arguments.default with debug := debug })
        (List.append_nil subjects).symm
    · rw [Reading.mem_given_foldl_granted]
      refine or_iff_left ?_
      rintro ⟨x, hx, hslot⟩
      obtain ⟨_, -, rfl⟩ := List.mem_map.mp hx
      exact hs (Slot.switch.inj hslot)
  obtain ⟨r', hread', hafter⟩ :=
    ((Reading.Alongside.kept hcommutes).law .debug |>.read argv).alongside _ _ _ hbeside hread (.inl rfl)
  -- No variable stands in for the subjects.
  have hnone : ∀ s : Switch, s.envName? ≠ none → s ≠ .debug := by
    rintro s hs rfl
    exact hs rfl
  have hfallbacks : r'.fallbacks e Switch.all = r.fallbacks e Switch.all :=
    Reading.fallbacks_congr fun s _ hs => ⟨hafter.given s (hnone s hs), fun _ => rfl⟩
  have haccept' : r'.arguments.acceptAll (r'.fallbacks e Switch.all) = .ok (a.alsoTelling subjects) := by
    rw [hfallbacks, hafter.arguments, hcommutes.acceptAll, haccept]
    · rfl
    · intro x hx
      refine hnone x.1 fun hname => ?_
      have hvalue := (Reading.mem_fallbacks.mp hx).2.2
      rw [hname] at hvalue
      cases hvalue
  have htexts : subjects.map (fun x => Utf8.encodeString ("--debug=" ++ x.name)) =
      (subjects.map Request.debug).map (·.text) := by
    rw [List.map_map]
    exact List.map_congr_left fun x _ => by cases x <;> decide +kernel
  rw [htexts]
  refine Reading.parse_eq_ok_iff.mpr ⟨r', ?_, haccept'⟩
  rw [hfront]
  exact hread'

end Conformance.CommandLine
