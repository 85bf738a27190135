import Conformance.Pattern.Expr

/-!
# Languages of places

Whether a text is matched depends on the characters around it. So what an expression means is a
relation between the character before a text, the text, and the character after it. Such relations
are joined, raised to powers and looked for in a text; reading one character of a text is described
once for each of these, and what an expression matches is put together from them.

- `matches_seq_iff`, `matches_repeated_iff`: sequences are joined languages, repetitions are powers.
- `joined_cons`, `many_cons`, `occurs_cons`: what is left of a language when a character is read.
-/

namespace Conformance.Pattern

/-- What is matched where: the character before, the text and the character after it. -/
abbrev Lang := Option Char → List Char → Option Char → Prop

namespace Lang

/-- One text after the other: each stands next to the end of the other. -/
def Joined (P Q : Lang) : Lang := fun p w n =>
  ∃ u v, w = u ++ v ∧ P p u (v.head?.or n) ∧ Q (u.getLast?.or p) v n

/-- A number of texts one after the other. -/
def Power (P : Lang) : Nat → Lang
  | 0 => fun _ w _ => w = []
  | k + 1 => Joined P (Power P k)

/-- Any number of texts one after the other. -/
def Many (P : Lang) : Lang := fun p w n => ∃ k, Power P k p w n

/-- From `low` to `high` texts one after the other, or any number from `low` on. -/
def Between (P : Lang) (low : Nat) (high : Option Nat) : Lang := fun p w n =>
  ∃ k, low ≤ k ∧ (∀ h ∈ high, k ≤ h) ∧ Power P k p w n

/-- One text or none. -/
def Perhaps (P : Lang) : Lang := fun p w n => w = [] ∨ P p w n

/-- What is left of a language when its texts begin with a character that has been read. -/
def Past (P : Lang) (p : Option Char) (c : Char) : Lang := fun _ u n => P p (c :: u) n

/-- A text begins with a text of the language. -/
def Begins (P : Lang) (p : Option Char) (text : List Char) : Prop :=
  ∃ w after, text = w ++ after ∧ P p w after.head?

/-- A text of the language stands somewhere in a text. -/
def Occurs (P : Lang) (p : Option Char) (text : List Char) : Prop :=
  ∃ before rest, text = before ++ rest ∧ P.Begins (before.getLast?.or p) rest

variable {P P' Q Q' R : Lang} {p n : Option Char} {c : Char} {w : List Char}

/-! ## §1 Characters around a text -/

theorem head?_append_or (u v : List Char) (n : Option Char) :
    (u ++ v).head?.or n = u.head?.or (v.head?.or n) := by
  cases u <;> simp

theorem getLast?_append_or (u v : List Char) (p : Option Char) :
    (u ++ v).getLast?.or p = v.getLast?.or (u.getLast?.or p) := by
  rw [List.getLast?_append, Option.or_assoc]

theorem getLast?_cons_or (c : Char) (u : List Char) (p : Option Char) :
    (c :: u).getLast?.or p = u.getLast?.or (some c) := by
  cases u <;> simp [List.getLast?_cons]

/-! ## §2 Joining -/

theorem joined_congr (hP : ∀ u n, P p u n ↔ P' p u n) (hQ : ∀ q v n, Q q v n ↔ Q' q v n) :
    Joined P Q p w n ↔ Joined P' Q' p w n := by
  simp only [Joined, hP, hQ]

theorem joined_or (P P' Q : Lang) :
    Joined (fun p u n => P p u n ∨ P' p u n) Q p w n ↔ Joined P Q p w n ∨ Joined P' Q p w n := by
  constructor
  · rintro ⟨u, v, hw, hu | hu, hv⟩
    · exact .inl ⟨u, v, hw, hu, hv⟩
    · exact .inr ⟨u, v, hw, hu, hv⟩
  · rintro (⟨u, v, hw, hu, hv⟩ | ⟨u, v, hw, hu, hv⟩)
    · exact ⟨u, v, hw, .inl hu, hv⟩
    · exact ⟨u, v, hw, .inr hu, hv⟩

theorem joined_and {b : Prop} :
    Joined (fun p u n => b ∧ P p u n) Q p w n ↔ b ∧ Joined P Q p w n := by
  constructor
  · rintro ⟨u, v, hw, ⟨hb, hu⟩, hv⟩
    exact ⟨hb, u, v, hw, hu, hv⟩
  · rintro ⟨hb, u, v, hw, hu, hv⟩
    exact ⟨u, v, hw, ⟨hb, hu⟩, hv⟩

theorem joined_nil : Joined P Q p [] n ↔ P p [] n ∧ Q p [] n := by
  constructor
  · rintro ⟨u, v, hw, hu, hv⟩
    obtain ⟨rfl, rfl⟩ := List.append_eq_nil_iff.mp hw.symm
    exact ⟨hu, hv⟩
  · rintro ⟨hu, hv⟩
    exact ⟨[], [], rfl, hu, hv⟩

/-- A character that is read is the first one of the second text, behind an empty first one, or the
    first one of the first text. -/
theorem joined_cons : Joined P Q p (c :: w) n ↔
    (P p [] (some c) ∧ Q p (c :: w) n) ∨ Joined (P.Past p c) Q (some c) w n := by
  constructor
  · rintro ⟨u, v, hw, hu, hv⟩
    cases u with
    | nil =>
      rw [List.nil_append] at hw
      subst hw
      exact .inl ⟨hu, hv⟩
    | cons d u =>
      obtain ⟨rfl, rfl⟩ := List.cons.inj hw
      rw [getLast?_cons_or] at hv
      exact .inr ⟨u, v, rfl, hu, hv⟩
  · rintro (⟨hu, hv⟩ | ⟨u, v, rfl, hu, hv⟩)
    · exact ⟨[], c :: w, rfl, hu, hv⟩
    · refine ⟨c :: u, v, rfl, hu, ?_⟩
      rwa [getLast?_cons_or]

theorem joined_assoc : Joined (Joined P Q) R p w n ↔ Joined P (Joined Q R) p w n := by
  constructor
  · rintro ⟨_, z, rfl, ⟨x, y, rfl, hx, hy⟩, hz⟩
    rw [getLast?_append_or] at hz
    rw [← head?_append_or] at hx
    exact ⟨x, y ++ z, List.append_assoc x y z, hx, y, z, rfl, hy, hz⟩
  · rintro ⟨x, _, rfl, hx, y, z, rfl, hy, hz⟩
    rw [head?_append_or] at hx
    rw [← getLast?_append_or] at hz
    exact ⟨x ++ y, z, (List.append_assoc x y z).symm, ⟨x, y, rfl, hx, hy⟩, hz⟩

theorem joined_empty_left : Joined (fun _ u _ => u = []) Q p w n ↔ Q p w n := by
  constructor
  · rintro ⟨u, v, rfl, rfl, hv⟩
    exact hv
  · intro hv
    exact ⟨[], w, rfl, rfl, hv⟩

theorem joined_empty_right : Joined P (fun _ v _ => v = []) p w n ↔ P p w n := by
  constructor
  · rintro ⟨u, v, rfl, hu, rfl⟩
    rwa [List.append_nil]
  · intro hu
    exact ⟨w, [], (List.append_nil w).symm, hu, rfl⟩

/-! ## §3 Powers -/

theorem power_one : Power P 1 p w n ↔ P p w n := joined_empty_right

theorem power_add (P : Lang) (j k : Nat) {p n : Option Char} {w : List Char} :
    Joined (Power P j) (Power P k) p w n ↔ Power P (j + k) p w n := by
  induction j generalizing p w n with
  | zero => rw [Nat.zero_add]; exact joined_empty_left
  | succ j ih =>
    rw [Nat.succ_add]
    calc Joined (Joined P (Power P j)) (Power P k) p w n
        ↔ Joined P (Joined (Power P j) (Power P k)) p w n := joined_assoc
      _ ↔ Joined P (Power P (j + k)) p w n := joined_congr (fun _ _ => Iff.rfl) fun _ _ _ => ih

theorem many_nil : Many P p [] n := ⟨0, rfl⟩

/-- Of any number of texts, empty ones can be left out: a character that is read is the first one of
    the first text that is not empty. -/
theorem many_cons : Many P p (c :: w) n ↔ Joined (P.Past p c) (Many P) (some c) w n := by
  constructor
  · rintro ⟨k, hk⟩
    induction k with
    | zero => cases hk
    | succ k ih =>
      rcases joined_cons.mp hk with ⟨-, hrest⟩ | ⟨u, v, hw, hu, hv⟩
      -- The first text is empty, and one text less will do.
      · exact ih hrest
      · exact ⟨u, v, hw, hu, k, hv⟩
  · rintro ⟨u, v, hw, hu, k, hv⟩
    exact ⟨k + 1, joined_cons.mpr (.inr ⟨u, v, hw, hu, hv⟩)⟩

theorem joined_many_iff : Joined P (Many P) p w n ↔ ∃ k, Power P (k + 1) p w n := by
  constructor
  · rintro ⟨u, v, hw, hu, k, hv⟩
    exact ⟨k, u, v, hw, hu, hv⟩
  · rintro ⟨k, u, v, hw, hu, hv⟩
    exact ⟨u, v, hw, hu, k, hv⟩

/-- Texts each of which may be missing are as many texts or fewer. -/
theorem power_perhaps (P : Lang) (m : Nat) {p n : Option Char} {w : List Char} :
    Power (Perhaps P) m p w n ↔ ∃ k ≤ m, Power P k p w n := by
  induction m generalizing p w n with
  | zero => simp [Power]
  | succ m ih =>
    have hsplit : Power (Perhaps P) (m + 1) p w n
        ↔ (∃ k ≤ m, Power P k p w n) ∨ Joined P (fun p w n => ∃ k ≤ m, Power P k p w n) p w n := by
      calc Joined (Perhaps P) (Power (Perhaps P) m) p w n
          ↔ Joined (Perhaps P) (fun p w n => ∃ k ≤ m, Power P k p w n) p w n :=
            joined_congr (fun _ _ => Iff.rfl) fun _ _ _ => ih
        _ ↔ _ := by
          rw [← joined_empty_left (Q := fun p w n => ∃ k ≤ m, Power P k p w n)]
          exact joined_or _ _ _
    rw [hsplit]
    constructor
    · rintro (⟨k, hk, h⟩ | ⟨u, v, hw, hu, k, hk, hv⟩)
      · exact ⟨k, by omega, h⟩
      · exact ⟨k + 1, by omega, u, v, hw, hu, hv⟩
    · rintro ⟨_ | k, hk, h⟩
      · exact .inl ⟨0, Nat.zero_le m, h⟩
      · obtain ⟨u, v, hw, hu, hv⟩ := h
        exact .inr ⟨u, v, hw, hu, k, by omega, hv⟩

/-- Several texts are one if all of them are empty. -/
theorem power_succ_of_empty (hP : ∀ p w n, P p w n → w = []) (k : Nat) :
    Power P (k + 1) p w n ↔ P p w n := by
  induction k generalizing p w n with
  | zero => exact power_one
  | succ k ih =>
    constructor
    · rintro ⟨u, v, rfl, hu, hv⟩
      obtain rfl := hP _ _ _ hu
      exact ih.mp hv
    · intro h
      obtain rfl := hP _ _ _ h
      exact ⟨[], [], rfl, h, ih.mpr h⟩

/-- What matches the empty text only need not be repeated more than once. -/
theorem between_of_empty (hP : ∀ p w n, P p w n → w = []) {low : Nat} {high : Option Nat}
    (hle : ∀ h ∈ high, low ≤ h) :
    Between P (min low 1) (some ((high.map (min · 1)).getD 1)) p w n ↔ Between P low high p w n := by
  have honce : ∀ k, Power P (k + 1) p w n ↔ Power P 1 p w n := fun k =>
    (power_succ_of_empty hP k).trans power_one.symm
  constructor
  · rintro ⟨k, hlow, hhigh, hk⟩
    have hhigh := hhigh _ rfl
    cases k with
    | zero => exact ⟨0, by omega, fun _ _ => Nat.zero_le _, hk⟩
    | succ k =>
      -- One text stands for as many as are asked for.
      refine ⟨(low - 1) + 1, by omega, fun h hh => ?_, (honce _).mpr ((honce k).mp hk)⟩
      obtain rfl := Option.mem_def.mp hh
      have := hle h rfl
      simp only [Option.map_some, Option.getD_some] at hhigh
      omega
  · rintro ⟨k, hlow, hhigh, hk⟩
    cases k with
    | zero => exact ⟨0, by omega, fun _ _ => Nat.zero_le _, hk⟩
    | succ k =>
      refine ⟨1, by omega, fun h hh => ?_, (honce k).mp hk⟩
      obtain rfl := Option.some.inj hh
      cases high with
      | none => exact Nat.le_refl 1
      | some high =>
        have := hhigh high rfl
        simp only [Option.map_some, Option.getD_some]
        omega

/-! ## §4 Texts in a text -/

theorem begins_nil : Begins P p [] ↔ P p [] none := by
  constructor
  · rintro ⟨w, after, htext, h⟩
    obtain ⟨rfl, rfl⟩ := List.append_eq_nil_iff.mp htext.symm
    exact h
  · intro h
    exact ⟨[], [], rfl, h⟩

theorem begins_cons {cs : List Char} :
    Begins P p (c :: cs) ↔ P p [] (some c) ∨ Begins (P.Past p c) (some c) cs := by
  constructor
  · rintro ⟨w, after, htext, h⟩
    cases w with
    | nil =>
      rw [List.nil_append] at htext
      subst htext
      exact .inl h
    | cons d w =>
      obtain ⟨rfl, rfl⟩ := List.cons.inj htext
      exact .inr ⟨w, after, rfl, h⟩
  · rintro (h | ⟨w, after, rfl, h⟩)
    · exact ⟨[], c :: cs, rfl, h⟩
    · exact ⟨c :: w, after, rfl, h⟩

theorem begins_congr {text : List Char} (h : ∀ u n, P p u n ↔ P' p u n) :
    Begins P p text ↔ Begins P' p text := by
  simp only [Begins, h]

theorem begins_or (P P' : Lang) {text : List Char} :
    Begins (fun p u n => P p u n ∨ P' p u n) p text ↔ Begins P p text ∨ Begins P' p text := by
  constructor
  · rintro ⟨w, after, htext, h | h⟩
    · exact .inl ⟨w, after, htext, h⟩
    · exact .inr ⟨w, after, htext, h⟩
  · rintro (⟨w, after, htext, h⟩ | ⟨w, after, htext, h⟩)
    · exact ⟨w, after, htext, .inl h⟩
    · exact ⟨w, after, htext, .inr h⟩

theorem occurs_nil : Occurs P p [] ↔ P p [] none := by
  constructor
  · rintro ⟨before, rest, htext, h⟩
    obtain ⟨rfl, rfl⟩ := List.append_eq_nil_iff.mp htext.symm
    exact begins_nil.mp h
  · intro h
    exact ⟨[], [], rfl, begins_nil.mpr h⟩

theorem occurs_cons {cs : List Char} :
    Occurs P p (c :: cs) ↔ Begins P p (c :: cs) ∨ Occurs P (some c) cs := by
  constructor
  · rintro ⟨before, rest, htext, h⟩
    cases before with
    | nil =>
      rw [List.nil_append] at htext
      subst htext
      exact .inl h
    | cons d before =>
      obtain ⟨rfl, rfl⟩ := List.cons.inj htext
      rw [getLast?_cons_or] at h
      exact .inr ⟨before, rest, rfl, h⟩
  · rintro (h | ⟨before, rest, rfl, h⟩)
    · exact ⟨[], c :: cs, rfl, h⟩
    · refine ⟨c :: before, rest, rfl, ?_⟩
      rwa [getLast?_cons_or]

end Lang

/-! ## §5 What expressions match -/

namespace Expr

variable {p n : Option Char} {w : List Char}

theorem matches_empty_iff : Matches .empty p w n ↔ w = [] := by
  constructor
  · intro h
    cases h
    rfl
  · rintro rfl
    exact .empty p n

theorem matches_char_iff {c : Char} : Matches (.char c) p w n ↔ w = [c] := by
  constructor
  · intro h
    cases h
    rfl
  · rintro rfl
    exact .char c p n

theorem matches_set_iff {s : CharSet} :
    Matches (.set s) p w n ↔ ∃ c, w = [c] ∧ s.contains c = true := by
  constructor
  · intro h
    cases h with
    | set _ c _ _ hc => exact ⟨c, rfl, hc⟩
  · rintro ⟨c, rfl, hc⟩
    exact .set s c p n hc

theorem matches_look_iff {l : Look} :
    Matches (.look l) p w n ↔ w = [] ∧ l.holds ⟨p, n⟩ = true := by
  constructor
  · intro h
    cases h with
    | look _ _ _ hl => exact ⟨rfl, hl⟩
  · rintro ⟨rfl, hl⟩
    exact .look l p n hl

theorem matches_group_iff {e : Expr} : Matches (.group e) p w n ↔ Matches e p w n := by
  constructor
  · intro h
    cases h with
    | group _ _ _ _ h => exact h
  · exact .group e p w n

theorem matches_seq_iff {a b : Expr} :
    Matches (.seq a b) p w n ↔ Lang.Joined (Matches a) (Matches b) p w n := by
  constructor
  · intro h
    cases h with
    | seq _ _ _ u v _ hu hv => exact ⟨u, v, rfl, hu, hv⟩
  · rintro ⟨u, v, rfl, hu, hv⟩
    exact .seq a b p u v n hu hv

theorem matches_alt_iff {a b : Expr} :
    Matches (.alt a b) p w n ↔ Matches a p w n ∨ Matches b p w n := by
  constructor
  · intro h
    cases h with
    | altLeft _ _ _ _ _ h => exact .inl h
    | altRight _ _ _ _ _ h => exact .inr h
  · rintro (h | h)
    · exact .altLeft a b p w n h
    · exact .altRight a b p w n h

/-- A repetition matches the powers of its part between its bounds. -/
theorem matches_repeated_iff {low : Nat} {high : Option Nat} {e : Expr} :
    Matches (.repeated low high e) p w n ↔ Lang.Between (Matches e) low high p w n := by
  constructor
  -- Every text that is matched first counts down both bounds.
  · intro hmatch
    generalize hr : Expr.repeated low high e = r at hmatch
    induction hmatch generalizing low high with
    | stop =>
      injection hr with hlow
      exact ⟨0, by omega, fun h _ => Nat.zero_le h, rfl⟩
    | more e' low' high' p u v n hpos hu _ _ ih =>
      injection hr with hlow hhigh he
      subst hlow hhigh he
      obtain ⟨k, hlow, hhigh, hk⟩ := ih rfl
      refine ⟨k + 1, by omega, fun h hh => ?_, u, v, rfl, hu, hk⟩
      obtain rfl := Option.mem_def.mp hh
      have hne : h ≠ 0 := fun h0 => hpos (congrArg some h0)
      have hle := hhigh (h - 1) rfl
      omega
    | _ => cases hr
  · rintro ⟨k, hlow, hhigh, hk⟩
    induction k generalizing low high p w with
    | zero =>
      obtain rfl := Nat.le_zero.mp hlow
      obtain rfl : w = [] := hk
      exact .stop e high p n
    | succ k ih =>
      obtain ⟨u, v, rfl, hu, hv⟩ := hk
      refine .more e low high p u v n ?_ hu (ih (by omega) (fun h hh => ?_) hv)
      · rintro rfl
        have := hhigh 0 rfl
        omega
      · obtain ⟨m, hm, rfl⟩ := Option.map_eq_some_iff.mp hh
        have := hhigh m hm
        omega

end Expr
end Conformance.Pattern
