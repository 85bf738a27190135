import Conformance.Pattern.Matcher
import Conformance.Proofs.Pattern.Language

/-!
# The matcher and its marks

A marked expression has two languages: what it matches when it is entered, and what is still to be
read behind its marks. Reading a character is a statement about these languages alone: behind the new
marks stands what the character leaves of the old ones, and of the expression itself if a match may
begin.

- `resumes_shift`: the marks after a character.
- `findFrom_iff`: the search finds what is behind a mark and what is matched from here on.
-/

namespace Conformance.Pattern

/-! ## §1 The languages of a marked expression -/

namespace Marked

/-- What an expression matches when it is entered; its marks do not count. -/
def reads : Marked → Lang
  | .empty => fun _ w _ => w = []
  | .never => fun _ _ _ => False
  | .char _ c => fun _ w _ => w = [c]
  | .set _ s => fun _ w _ => ∃ c, w = [c] ∧ s.contains c = true
  | .look l => fun p w n => w = [] ∧ l.holds ⟨p, n⟩ = true
  | .seq _ _ a b => .Joined a.reads b.reads
  | .alt _ _ a b => fun p w n => a.reads p w n ∨ b.reads p w n
  | .loop _ _ a => .Joined a.reads (.Many a.reads)

/-- What is still to be read from one of the marks to an end of the expression. -/
def resumes : Marked → Lang
  | .empty | .never | .look _ => fun _ _ _ => False
  | .char m _ | .set m _ => fun _ w _ => m = true ∧ w = []
  | .seq _ _ a b => fun p w n => Lang.Joined a.resumes b.reads p w n ∨ b.resumes p w n
  | .alt _ _ a b => fun p w n => a.resumes p w n ∨ b.resumes p w n
  | .loop _ _ a => .Joined a.resumes (.Many a.reads)

/-- The facts that sequences, choices and loops carry about themselves are true. -/
def Sound : Marked → Prop
  | .seq live always a b =>
    live = (a.live || b.live) ∧ always = (a.always && b.always) ∧ a.Sound ∧ b.Sound
  | .alt live always a b =>
    live = (a.live || b.live) ∧ always = (a.always || b.always) ∧ a.Sound ∧ b.Sound
  | .loop live always a => live = a.live ∧ always = a.always ∧ a.Sound
  | _ => True

variable {p n : Option Char} {w : List Char}

theorem mkSeq_sound {a b : Marked} (ha : a.Sound) (hb : b.Sound) : (mkSeq a b).Sound :=
  ⟨rfl, rfl, ha, hb⟩

theorem mkAlt_sound {a b : Marked} (ha : a.Sound) (hb : b.Sound) : (mkAlt a b).Sound :=
  ⟨rfl, rfl, ha, hb⟩

theorem mkLoop_sound {a : Marked} (ha : a.Sound) : (mkLoop a).Sound := ⟨rfl, rfl, ha⟩

/-- What is behind a mark is behind one that is held. -/
theorem live_of_resumes {m : Marked} (hm : m.Sound) (h : m.resumes p w n) : m.live = true := by
  induction m generalizing p w n with
  | empty | never | look => cases h
  | char mark c | set mark s => exact h.1
  | seq live always a b iha ihb =>
    obtain ⟨rfl, -, ha, hb⟩ := hm
    rcases h with ⟨u, v, -, hu, -⟩ | hv
    · exact Bool.or_eq_true_iff.mpr (.inl (iha ha hu))
    · exact Bool.or_eq_true_iff.mpr (.inr (ihb hb hv))
  | alt live always a b iha ihb =>
    obtain ⟨rfl, -, ha, hb⟩ := hm
    exact Bool.or_eq_true_iff.mpr (h.imp (iha ha) (ihb hb))
  | loop live always a iha =>
    obtain ⟨rfl, -, ha⟩ := hm
    obtain ⟨u, v, -, hu, -⟩ := h
    exact iha ha hu

/-- Parts without marks need not be visited. -/
theorem not_resumes_of_not_live {m : Marked} (hm : m.Sound) (hlive : m.live = false) :
    ¬m.resumes p w n := fun h =>
  Bool.false_ne_true (hlive.symm.trans (live_of_resumes hm h))

/-- What matches nothing under every condition does. -/
theorem reads_nil_of_always {m : Marked} (hm : m.Sound) (halways : m.always = true) :
    m.reads p [] n := by
  induction m generalizing p n with
  | empty => rfl
  | never | char | set | look => cases halways
  | seq live always a b iha ihb =>
    obtain ⟨-, rfl, ha, hb⟩ := hm
    obtain ⟨haa, hab⟩ := Bool.and_eq_true_iff.mp halways
    exact Lang.joined_nil.mpr ⟨iha ha haa, ihb hb hab⟩
  | alt live always a b iha ihb =>
    obtain ⟨-, rfl, ha, hb⟩ := hm
    exact (Bool.or_eq_true_iff.mp halways).imp (iha ha) (ihb hb)
  | loop live always a iha =>
    obtain ⟨-, rfl, ha⟩ := hm
    exact Lang.joined_nil.mpr ⟨iha ha halways, Lang.many_nil⟩

theorem nullable_iff {m : Marked} (hm : m.Sound) :
    m.nullable ⟨p, n⟩ = true ↔ m.reads p [] n := by
  induction m with
  | empty | never | char | set | look => simp [nullable, reads]
  | seq live always a b iha ihb =>
    have halways := reads_nil_of_always (p := p) (n := n) hm
    obtain ⟨-, -, ha, hb⟩ := hm
    rw [nullable, Bool.or_eq_true, Bool.and_eq_true, iha ha, ihb hb, reads, Lang.joined_nil]
    exact or_iff_right_of_imp fun h => Lang.joined_nil.mp (halways h)
  | alt live always a b iha ihb =>
    have halways := reads_nil_of_always (p := p) (n := n) hm
    obtain ⟨-, -, ha, hb⟩ := hm
    rw [nullable, Bool.or_eq_true, Bool.or_eq_true, iha ha, ihb hb]
    exact or_iff_right_of_imp halways
  | loop live always a iha =>
    have halways := reads_nil_of_always (p := p) (n := n) hm
    obtain ⟨-, -, ha⟩ := hm
    rw [nullable, Bool.or_eq_true, iha ha, reads, Lang.joined_nil]
    simp only [Lang.many_nil, and_true]
    exact or_iff_right_of_imp fun h => (Lang.joined_nil.mp (halways h)).1

theorem final_iff {m : Marked} (hm : m.Sound) : m.final ⟨p, n⟩ = true ↔ m.resumes p [] n := by
  induction m with
  | empty | never | char | set | look => simp [final, resumes]
  | seq live always a b iha ihb =>
    have hlive := live_of_resumes (p := p) (w := []) (n := n) hm
    obtain ⟨-, -, ha, hb⟩ := hm
    rw [final, Bool.and_eq_true, Bool.or_eq_true, Bool.and_eq_true, iha ha, ihb hb, nullable_iff hb,
      ← Lang.joined_nil, or_comm]
    exact and_iff_right_of_imp hlive
  | alt live always a b iha ihb =>
    have hlive := live_of_resumes (p := p) (w := []) (n := n) hm
    obtain ⟨-, -, ha, hb⟩ := hm
    rw [final, Bool.and_eq_true, Bool.or_eq_true, iha ha, ihb hb]
    exact and_iff_right_of_imp hlive
  | loop live always a iha =>
    have hlive := live_of_resumes (p := p) (w := []) (n := n) hm
    obtain ⟨-, -, ha⟩ := hm
    have hnil : (Marked.loop live always a).resumes p [] n ↔ a.resumes p [] n := by
      rw [resumes, Lang.joined_nil]
      simp only [Lang.many_nil, and_true]
    rw [hnil] at hlive ⊢
    rw [final, Bool.and_eq_true, iha ha]
    exact and_iff_right_of_imp hlive

/-! ## §2 Reading a character -/

theorem shift_sound (site : Site) (c : Char) (enter : Bool) {m : Marked} (hm : m.Sound) :
    (m.shift site c enter).Sound := by
  induction m generalizing enter with
  | empty | never | char | set | look => trivial
  | seq live always a b iha ihb =>
    rw [shift]
    split
    · exact mkSeq_sound (iha enter hm.2.2.1) (ihb _ hm.2.2.2)
    · exact hm
  | alt live always a b iha ihb =>
    rw [shift]
    split
    · exact mkAlt_sound (iha enter hm.2.2.1) (ihb enter hm.2.2.2)
    · exact hm
  | loop live always a iha =>
    rw [shift]
    split
    · exact mkLoop_sound (iha _ hm.2.2)
    · exact hm

/-- Marks do not change what an expression matches. -/
theorem reads_shift (site : Site) (c : Char) (enter : Bool) (m : Marked) :
    (m.shift site c enter).reads = m.reads := by
  induction m generalizing enter with
  | empty | never | char | set | look => rfl
  | seq live always a b iha ihb =>
    rw [shift]
    split
    · simp only [mkSeq, reads, iha, ihb]
    · rfl
  | alt live always a b iha ihb =>
    rw [shift]
    split
    · simp only [mkAlt, reads, iha, ihb]
    · rfl
  | loop live always a iha =>
    rw [shift]
    split
    · simp only [mkLoop, reads, iha]
    · rfl

/-- Where nothing is marked and no match may begin, nothing is behind the marks. -/
theorem not_resumes_of_idle_shift {m : Marked} (hm : m.Sound) {enter : Bool} {c : Char}
    (h : ¬(enter || m.live) = true) :
    m.resumes (some c) w n ↔ m.resumes p (c :: w) n ∨ (enter = true ∧ m.reads p (c :: w) n) := by
  obtain ⟨henter, hlive⟩ := Bool.or_eq_false_iff.mp (Bool.not_eq_true _ ▸ h)
  simp [not_resumes_of_not_live hm hlive, henter]

/-- Behind the new marks stands what the character leaves of the old ones, and of the expression if
    a match may begin. -/
theorem resumes_shift {m : Marked} (hm : m.Sound) (c : Char) (enter : Bool) :
    (m.shift ⟨p, some c⟩ c enter).resumes (some c) w n
      ↔ m.resumes p (c :: w) n ∨ (enter = true ∧ m.reads p (c :: w) n) := by
  induction m generalizing enter w n with
  | empty | never | look => simp [shift, resumes, reads]
  | char mark d =>
    simp only [shift, resumes, reads, Bool.and_eq_true, beq_iff_eq, List.cons.injEq]
    constructor
    · rintro ⟨⟨henter, rfl⟩, rfl⟩
      exact .inr ⟨henter, rfl, rfl⟩
    · rintro (⟨-, h⟩ | ⟨henter, rfl, rfl⟩)
      · cases h
      · exact ⟨⟨henter, rfl⟩, rfl⟩
  | set mark s =>
    simp only [shift, resumes, reads, Bool.and_eq_true, List.cons.injEq]
    constructor
    · rintro ⟨⟨henter, hc⟩, rfl⟩
      exact .inr ⟨henter, c, ⟨rfl, rfl⟩, hc⟩
    · rintro (⟨-, h⟩ | ⟨henter, _, ⟨rfl, rfl⟩, hc⟩)
      · cases h
      · exact ⟨⟨henter, hc⟩, rfl⟩
  | seq live always a b iha ihb =>
    rw [shift]
    split
    next =>
      obtain ⟨-, -, ha, hb⟩ := hm
      -- The second part is entered where the first one ends: at a mark, or as it matches nothing.
      have henters : (a.final ⟨p, some c⟩ || (enter && a.nullable ⟨p, some c⟩)) = true
          ↔ a.resumes p [] (some c) ∨ (enter = true ∧ a.reads p [] (some c)) := by
        rw [Bool.or_eq_true, Bool.and_eq_true, final_iff ha, nullable_iff ha]
      have hfront : Lang.Joined (a.shift ⟨p, some c⟩ c enter).resumes b.reads (some c) w n
          ↔ Lang.Joined (a.resumes.Past p c) b.reads (some c) w n
            ∨ (enter = true ∧ Lang.Joined (a.reads.Past p c) b.reads (some c) w n) := by
        rw [← Lang.joined_and, ← Lang.joined_or]
        exact Lang.joined_congr (fun _ _ => iha ha enter) fun _ _ _ => Iff.rfl
      simp only [mkSeq, resumes, reads, reads_shift, ihb hb, henters, hfront, Lang.joined_cons]
      grind
    next h => exact not_resumes_of_idle_shift hm h
  | alt live always a b iha ihb =>
    rw [shift]
    split
    next =>
      simp only [mkAlt, resumes, reads, iha hm.2.2.1, ihb hm.2.2.2]
      grind
    next h => exact not_resumes_of_idle_shift hm h
  | loop live always a iha =>
    rw [shift]
    split
    next =>
      obtain ⟨-, -, ha⟩ := hm
      have henters : (enter || a.final ⟨p, some c⟩) = true
          ↔ enter = true ∨ a.resumes p [] (some c) := by
        rw [Bool.or_eq_true, final_iff ha]
      have hfront : Lang.Joined (a.shift ⟨p, some c⟩ c (enter || a.final ⟨p, some c⟩)).resumes
            (.Many a.reads) (some c) w n
          ↔ Lang.Joined (a.resumes.Past p c) (.Many a.reads) (some c) w n
            ∨ ((enter = true ∨ a.resumes p [] (some c))
              ∧ Lang.Joined (a.reads.Past p c) (.Many a.reads) (some c) w n) := by
        rw [← henters, ← Lang.joined_and, ← Lang.joined_or]
        exact Lang.joined_congr (fun _ _ => iha ha _) fun _ _ _ => Iff.rfl
      -- A mark at the end of the body goes on with the next turn, so it is as good as a new entry.
      simp only [mkLoop, resumes, reads, reads_shift, hfront, Lang.joined_cons, Lang.many_cons]
      grind
    next h => exact not_resumes_of_idle_shift hm h

/-! ## §3 The search -/

/-- The search finds what is behind a mark, and what the expression matches from here on. -/
theorem findFrom_iff {m : Marked} (hm : m.Sound) (prev : Option Char) (text : List Char) :
    m.findFrom prev text = true ↔ m.resumes.Begins prev text ∨ m.reads.Occurs prev text := by
  induction text generalizing prev m with
  | nil =>
    rw [findFrom, Bool.or_eq_true, final_iff hm, nullable_iff hm, Lang.begins_nil, Lang.occurs_nil]
  | cons c cs ih =>
    -- A match that is under way behind the character began before it or begins with it.
    have hmarks : (m.shift ⟨prev, some c⟩ c true).resumes.Begins (some c) cs
        ↔ (m.resumes.Past prev c).Begins (some c) cs ∨ (m.reads.Past prev c).Begins (some c) cs := by
      rw [← Lang.begins_or]
      refine Lang.begins_congr fun u n => (resumes_shift hm c true).trans ?_
      simp only [true_and, Lang.Past]
    have hstep : m.findFrom prev (c :: cs) = true
        ↔ (m.final ⟨prev, some c⟩ = true ∨ m.nullable ⟨prev, some c⟩ = true)
          ∨ (m.shift ⟨prev, some c⟩ c true).findFrom (some c) cs = true := by
      rw [findFrom]
      split
      next h => simpa using .inl (Bool.or_eq_true_iff.mp h)
      next h => simpa using fun hnot => absurd (Bool.or_eq_true_iff.mpr hnot) h
    rw [hstep, final_iff hm, nullable_iff hm, ih (shift_sound _ c true hm), reads_shift, hmarks,
      Lang.begins_cons, Lang.occurs_cons, Lang.begins_cons]
    grind

end Marked
end Conformance.Pattern
