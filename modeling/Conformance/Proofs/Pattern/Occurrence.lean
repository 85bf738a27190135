import Conformance.Proofs.Pattern.Matching

/-!
# Expressions in texts

An expression is turned into a marked one before it is looked for: repetitions become copies and
loops, and what matches nothing but the empty text is repeated once only. None of this changes what
is matched, so the search finds an expression exactly where it matches a part of the text.

- `Marked.reads_ofExpr`: the marked expression reads what the expression matches.
- `Expr.occursIn_iff`: an expression occurs in a text exactly if it matches a part of it.
-/

namespace Conformance.Pattern

/-- In every repetition the lower bound is not above the upper one. -/
def Expr.Counted : Expr → Prop
  | .group e => e.Counted
  | .seq a b | .alt a b => a.Counted ∧ b.Counted
  | .repeated low high e => (∀ h ∈ high, low ≤ h) ∧ e.Counted
  | _ => True

namespace Marked

variable {p n : Option Char} {w : List Char}

/-! ## §1 Expressions without marks -/

/-- Nothing is marked, and what is known of the parts is true. -/
structure Unmarked (m : Marked) : Prop where
  sound : m.Sound
  unmarked : m.live = false

theorem Unmarked.mkSeq {a b : Marked} (ha : a.Unmarked) (hb : b.Unmarked) : (mkSeq a b).Unmarked :=
  ⟨mkSeq_sound ha.sound hb.sound, Bool.or_eq_false_iff.mpr ⟨ha.unmarked, hb.unmarked⟩⟩

theorem Unmarked.mkAlt {a b : Marked} (ha : a.Unmarked) (hb : b.Unmarked) : (mkAlt a b).Unmarked :=
  ⟨mkAlt_sound ha.sound hb.sound, Bool.or_eq_false_iff.mpr ⟨ha.unmarked, hb.unmarked⟩⟩

theorem Unmarked.mkLoop {a : Marked} (ha : a.Unmarked) : (mkLoop a).Unmarked :=
  ⟨mkLoop_sound ha.sound, ha.unmarked⟩

theorem empty_unmarked : Marked.empty.Unmarked := ⟨trivial, rfl⟩

theorem copies_unmarked {e : Marked} (he : e.Unmarked) (fuel n : Nat) :
    (copies e fuel n).Unmarked := by
  induction fuel generalizing n with
  | zero => exact he
  | succ fuel ih =>
    rw [copies]
    split
    · exact he
    · exact (ih _).mkSeq (ih _)

theorem times_unmarked {e : Marked} (he : e.Unmarked) (low : Nat) (high : Option Nat) :
    (times e low high).Unmarked := by
  cases high with
  | none =>
    rw [times]
    split
    · exact empty_unmarked.mkAlt he.mkLoop
    · split
      · exact he.mkLoop
      · exact (copies_unmarked he _ _).mkSeq he.mkLoop
  | some high =>
    have hback := copies_unmarked (empty_unmarked.mkAlt he) (high - low) (high - low)
    simp only [times]
    split <;> split
    · exact empty_unmarked
    · exact copies_unmarked he _ _
    · exact hback
    · exact (copies_unmarked he _ _).mkSeq hback

/-! ## §2 What repetitions match -/

theorem reads_copies (e : Marked) {fuel n : Nat} (hpos : 1 ≤ n) (hfuel : n ≤ fuel + 1) :
    (copies e fuel n).reads = .Power e.reads n := by
  funext p w s
  apply propext
  induction fuel generalizing n p w s with
  | zero =>
    obtain rfl : n = 1 := by omega
    exact Lang.power_one.symm
  | succ fuel ih =>
    rw [copies]
    split
    next hle =>
      obtain rfl : n = 1 := by omega
      exact Lang.power_one.symm
    next hgt =>
      have hhalves : n / 2 + (n - n / 2) = n := by omega
      rw [← hhalves, ← Lang.power_add, hhalves]
      exact Lang.joined_congr (fun _ _ => ih (by omega) (by omega) _ _ _)
        fun _ _ _ => ih (by omega) (by omega) _ _ _

theorem reads_loop (e : Marked) : (mkLoop e).reads p w n ↔ ∃ k, e.reads.Power (k + 1) p w n :=
  Lang.joined_many_iff

theorem reads_times_unbounded (e : Marked) (low : Nat) :
    (times e low none).reads p w n ↔ e.reads.Between low none p w n := by
  have hbetween : e.reads.Between low none p w n ↔ ∃ k, low ≤ k ∧ e.reads.Power k p w n := by
    simp [Lang.Between]
  rw [hbetween, times]
  split
  next hlow =>
    subst hlow
    constructor
    · rintro (hw | hloop)
      · exact ⟨0, Nat.le_refl 0, hw⟩
      · obtain ⟨k, hk⟩ := (reads_loop e).mp hloop
        exact ⟨k + 1, Nat.zero_le _, hk⟩
    · rintro ⟨_ | k, -, hk⟩
      · exact .inl hk
      · exact .inr ((reads_loop e).mpr ⟨k, hk⟩)
  next hpos =>
    split
    next hone =>
      subst hone
      rw [reads_loop]
      constructor
      · rintro ⟨k, hk⟩
        exact ⟨k + 1, by omega, hk⟩
      · rintro ⟨_ | k, hle, hk⟩
        · omega
        · exact ⟨k, hk⟩
    next hmany =>
      have hfront : (copies e low (low - 1)).reads = .Power e.reads (low - 1) :=
        reads_copies e (by omega) (by omega)
      rw [mkSeq, reads, hfront]
      constructor
      · rintro ⟨u, v, hw, hu, hv⟩
        obtain ⟨k, hk⟩ := (reads_loop e).mp hv
        have := (Lang.power_add e.reads (low - 1) (k + 1)).mp ⟨u, v, hw, hu, hk⟩
        exact ⟨_, by omega, this⟩
      · rintro ⟨k, hle, hk⟩
        have hsplit : low - 1 + (k - low + 1) = k := by omega
        rw [← hsplit] at hk
        obtain ⟨u, v, hw, hu, hv⟩ := (Lang.power_add _ _ _).mpr hk
        exact ⟨u, v, hw, hu, (reads_loop e).mpr ⟨_, hv⟩⟩

theorem reads_optionals (e : Marked) {more : Nat} (hmore : 1 ≤ more) :
    (copies (mkAlt .empty e) more more).reads p w n ↔ ∃ k ≤ more, e.reads.Power k p w n := by
  rw [reads_copies _ hmore (by omega)]
  exact Lang.power_perhaps e.reads more

theorem reads_times_bounded (e : Marked) {low high : Nat} (hle : low ≤ high) :
    (times e low (some high)).reads p w n ↔ e.reads.Between low (some high) p w n := by
  have hbetween : e.reads.Between low (some high) p w n
      ↔ ∃ k, low ≤ k ∧ k ≤ high ∧ e.reads.Power k p w n := by
    simp [Lang.Between]
  have hfront : (if low = 0 then .empty else copies e low low).reads = .Power e.reads low := by
    split
    next hlow =>
      subst hlow
      rfl
    next hpos => exact reads_copies e (by omega) (by omega)
  rw [hbetween]
  simp only [times]
  split
  next hmore =>
    obtain rfl : low = high := by omega
    rw [hfront]
    constructor
    · intro h
      exact ⟨low, Nat.le_refl low, Nat.le_refl low, h⟩
    · rintro ⟨k, hlow, hhigh, hk⟩
      obtain rfl : k = low := by omega
      exact hk
  next hmore =>
    have hmore : 1 ≤ high - low := by omega
    split
    next hlow =>
      subst hlow
      rw [reads_optionals e hmore]
      simp
    next hpos =>
      rw [if_neg hpos] at hfront
      rw [mkSeq, reads, hfront]
      constructor
      · rintro ⟨u, v, hw, hu, hv⟩
        obtain ⟨k, hk, hv⟩ := (reads_optionals e hmore).mp hv
        exact ⟨low + k, by omega, by omega, (Lang.power_add _ _ _).mp ⟨u, v, hw, hu, hv⟩⟩
      · rintro ⟨k, hlow, hhigh, hk⟩
        have hsplit : low + (k - low) = k := by omega
        rw [← hsplit] at hk
        obtain ⟨u, v, hw, hu, hv⟩ := (Lang.power_add _ _ _).mpr hk
        exact ⟨u, v, hw, hu, (reads_optionals e hmore).mpr ⟨k - low, by omega, hv⟩⟩

theorem reads_times (e : Marked) {low : Nat} {high : Option Nat} (hle : ∀ h ∈ high, low ≤ h) :
    (times e low high).reads p w n ↔ e.reads.Between low high p w n := by
  cases high with
  | none => exact reads_times_unbounded e low
  | some high => exact reads_times_bounded e (hle high rfl)

/-- What is idle matches nothing but the empty text. -/
theorem eq_nil_of_idle {m : Marked} (hm : m.idle = true) (h : m.reads p w n) : w = [] := by
  induction m generalizing p w n with
  | empty => exact h
  | look l => exact h.1
  | never | char | set => cases hm
  | seq live always a b iha ihb =>
    obtain ⟨ha, hb⟩ := Bool.and_eq_true_iff.mp hm
    obtain ⟨u, v, rfl, hu, hv⟩ := h
    rw [iha ha hu, ihb hb hv]
    rfl
  | alt live always a b iha ihb =>
    obtain ⟨ha, hb⟩ := Bool.and_eq_true_iff.mp hm
    exact h.elim (iha ha) (ihb hb)
  | loop live always a iha =>
    obtain ⟨k, hk⟩ := Lang.joined_many_iff.mp h
    exact iha hm ((Lang.power_succ_of_empty (fun _ _ _ => iha hm) k).mp hk)

theorem reads_repeated (e : Marked) {low : Nat} {high : Option Nat} (hle : ∀ h ∈ high, low ≤ h) :
    (e.repeated low high).reads p w n ↔ e.reads.Between low high p w n := by
  rw [repeated]
  split
  next hidle =>
    rw [reads_times, Lang.between_of_empty (fun _ _ _ => eq_nil_of_idle hidle) hle]
    intro h hh
    obtain rfl := Option.some.inj hh
    cases high with
    | none => exact Nat.min_le_right low 1
    | some high =>
      have := hle high rfl
      simp only [Option.map_some, Option.getD_some]
      omega
  next => exact reads_times e hle

/-! ## §3 What expressions match -/

theorem ofExpr_unmarked (e : Expr) : (ofExpr e).Unmarked := by
  induction e with
  | empty | never | char | set | look => exact ⟨trivial, rfl⟩
  | group e ih => exact ih
  | seq a b iha ihb => exact iha.mkSeq ihb
  | alt a b iha ihb => exact iha.mkAlt ihb
  | repeated low high e ih =>
    rw [ofExpr, repeated]
    split <;> exact times_unmarked ih _ _

/-- The marked expression reads what the expression matches. -/
theorem reads_ofExpr {e : Expr} (he : e.Counted) :
    (ofExpr e).reads p w n ↔ e.Matches p w n := by
  induction e generalizing p w n with
  | empty => exact Expr.matches_empty_iff.symm
  | never => exact ⟨False.elim, fun h => by cases h⟩
  | char c => exact Expr.matches_char_iff.symm
  | set s => exact Expr.matches_set_iff.symm
  | look l => exact Expr.matches_look_iff.symm
  | group e ih => exact (ih he).trans Expr.matches_group_iff.symm
  | seq a b iha ihb =>
    rw [Expr.matches_seq_iff]
    exact Lang.joined_congr (fun _ _ => iha he.1) fun _ _ _ => ihb he.2
  | alt a b iha ihb =>
    rw [Expr.matches_alt_iff]
    exact or_congr (iha he.1) (ihb he.2)
  | repeated low high e ih =>
    have hreads : (ofExpr e).reads = e.Matches :=
      funext fun p => funext fun w => funext fun n => propext (ih he.2)
    rw [Expr.matches_repeated_iff, ofExpr, reads_repeated _ he.1, hreads]

end Marked

/-! ## §4 Expressions in texts -/

/-- An expression occurs in a text exactly if it matches a part of the text where that part
    stands. -/
theorem Expr.occursIn_iff {e : Expr} (he : e.Counted) (text : List Char) :
    e.occursIn text = true
      ↔ ∃ before w after, text = before ++ (w ++ after)
          ∧ e.Matches before.getLast? w after.head? := by
  have hplain := Marked.ofExpr_unmarked e
  have hmarks : ¬(Marked.ofExpr e).resumes.Begins none text := by
    rintro ⟨w, after, -, h⟩
    exact Marked.not_resumes_of_not_live hplain.sound hplain.unmarked h
  rw [occursIn, Marked.findFrom_iff hplain.sound, or_iff_right hmarks]
  constructor
  · rintro ⟨before, _, rfl, w, after, rfl, h⟩
    rw [Option.or_none] at h
    exact ⟨before, w, after, rfl, (Marked.reads_ofExpr he).mp h⟩
  · rintro ⟨before, w, after, rfl, h⟩
    refine ⟨before, w ++ after, rfl, w, after, rfl, ?_⟩
    rw [Option.or_none]
    exact (Marked.reads_ofExpr he).mpr h

end Conformance.Pattern
