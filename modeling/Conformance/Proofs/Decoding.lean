import Conformance.Text.Utf8

/-!
# Reading across line feeds

What the reader of octets makes of a line feed, and of the octets around it.

A line feed is an ASCII octet, so it closes whatever character is open in front of it and is read
as itself. No other octet is ever read as one. Reading therefore commutes with cutting at line
feeds, whatever stands on the two sides of the cut:

- `decode_append_feed`: the two sides of a line feed are read apart from each other.
- `feed_notMem_decode`: a text has no line feed if its octets have none.
-/

namespace Conformance.Utf8

/-! ## §1 States of the reader -/

/-- What holds of every state that the reader gets into: the next octet of an open character is no
    ASCII octet, and by the time the last octet is read some bits have been gathered. -/
def State.Sound : State → Prop
  | .start => True
  | .inside need low _ value => 0x80 ≤ low ∧ (1 ≤ value ∨ 2 ≤ need ∧ 0x90 ≤ low)

theorem first_sound (b : Nat) : (first b).2.Sound := by
  unfold first
  repeat' split
  all_goals simp only [State.Sound]
  all_goals omega

theorem step_sound {s : State} (hs : s.Sound) (b : UInt8) : (step s b).2.Sound := by
  cases s with
  | start => exact first_sound b.toNat
  | inside need low high value =>
    simp only [State.Sound] at hs
    simp only [step]
    split
    · split
      · trivial
      · -- The bits gathered so far are no longer zero, also after a lead octet without any.
        simp only [State.Sound]
        omega
    · exact first_sound b.toNat

theorem stateAfter_sound {s : State} (hs : s.Sound) (bs : Bytes) : (stateAfter s bs).Sound := by
  induction bs generalizing s with
  | nil => exact hs
  | cons b bs ih => exact ih (step_sound hs b)

/-! ## §2 Octets that are read as a line feed -/

theorem toNat_ofNat {n : Nat} (h : n.isValidChar) : (Char.ofNat n).toNat = n := by
  rw [Char.ofNat, dif_pos h]
  rfl

theorem eq_ten_of_ofNat_eq_feed {n : Nat} (h : Char.ofNat n = '\n') : n = 10 := by
  by_cases hv : n.isValidChar
  · rw [← toNat_ofNat hv, h]
    rfl
  · rw [Char.ofNat, dif_neg hv] at h
    exact absurd h (by decide)

theorem feed_notMem_first {b : Nat} (hb : b ≠ 0x0A) : '\n' ∉ (first b).1 := by
  intro h
  unfold first at h
  repeat' split at h
  all_goals simp [replacement] at h
  exact hb (eq_ten_of_ofNat_eq_feed h.symm)

theorem feed_notMem_finish (s : State) : '\n' ∉ s.finish := by
  cases s <;> simp [State.finish, replacement]

theorem feed_notMem_step {s : State} (hs : s.Sound) {b : UInt8} (hb : b ≠ 0x0A) :
    '\n' ∉ (step s b).1 := by
  have hb' : b.toNat ≠ 0x0A := fun h => hb (UInt8.toNat_inj.mp h)
  cases s with
  | start => exact feed_notMem_first hb'
  | inside need low high value =>
    simp only [State.Sound] at hs
    simp only [step]
    split
    · split
      · -- The last octet of a character: its value is too large for a line feed.
        intro h
        have hv := eq_ten_of_ofNat_eq_feed (List.mem_singleton.mp h).symm
        omega
      · exact List.not_mem_nil
    · intro h
      rcases List.mem_cons.mp h with h | h
      · exact absurd h (by decide)
      · exact feed_notMem_first hb' h

theorem feed_notMem_decodeFrom {bs : Bytes} (hbs : 0x0A ∉ bs) :
    ∀ {s : State}, s.Sound → '\n' ∉ decodeFrom s bs := by
  induction bs with
  | nil =>
    intro s _
    exact feed_notMem_finish s
  | cons b bs ih =>
    intro s hs h
    have hb : b ≠ 0x0A := fun e => hbs (e ▸ List.mem_cons_self)
    have hrest : 0x0A ∉ bs := fun hm => hbs (List.mem_cons_of_mem b hm)
    rcases List.mem_append.mp h with h | h
    · exact feed_notMem_step hs hb h
    · exact ih hrest (step_sound hs b) h

/-! ## §3 Reading the two sides of a line feed -/

theorem step_feed {s : State} (hs : s.Sound) : step s 0x0A = (s.finish ++ ['\n'], .start) := by
  refine step_ascii s ?_ 0x0A (by decide)
  rintro need low high value rfl
  exact hs.1

theorem decodeFrom_append_feed {s : State} (hs : s.Sound) (xs ys : Bytes) :
    decodeFrom s (xs ++ 0x0A :: ys) = decodeFrom s xs ++ '\n' :: decodeFrom .start ys := by
  have hfeed := step_feed (stateAfter_sound hs xs)
  calc
    decodeFrom s (xs ++ 0x0A :: ys) =
        completed s xs ++ decodeFrom (stateAfter s xs) (0x0A :: ys) := decodeFrom_append xs _ s
    _ = completed s xs ++ ((stateAfter s xs).finish ++ ['\n'] ++ decodeFrom .start ys) := by
        rw [decodeFrom, hfeed]
    _ = decodeFrom s xs ++ '\n' :: decodeFrom .start ys := by
        rw [decodeFrom_eq_completed s xs]
        simp

/-- The octets on the two sides of a line feed are read apart from each other: a character left
    open in front of it does not swallow it. -/
theorem decode_append_feed (xs ys : Bytes) :
    decode (xs ++ 0x0A :: ys) = decode xs ++ '\n' :: decode ys := by
  simp only [decode_eq]
  exact decodeFrom_append_feed (s := .start) trivial xs ys

theorem feed_notMem_decode {bs : Bytes} (hbs : 0x0A ∉ bs) : '\n' ∉ decode bs := by
  rw [decode_eq]
  exact feed_notMem_decodeFrom hbs (s := .start) trivial

end Conformance.Utf8
