import Conformance.Proofs.Encoding

/-!
# Lossy reading

What it means to read octets that need not be text: characters are taken off the front one after
the other, and where no character stands, the longest front that could have gone on to one counts
as one replacement character. An octet that no character begins with counts by itself.

The reader does exactly this (`lossy_iff`). The relation says nothing of states, ranges or bits: it
is stated by the octets of characters alone.
-/

namespace Conformance.Utf8

/-! ## §1 The relation -/

/-- Octets that begin the octets of some character. -/
def Begins (p : Bytes) : Prop := ∃ c : Char, p <+: encodeChar c

/-- A text read from octets. -/
inductive Lossy : Bytes → List Char → Prop where
  | nil : Lossy [] []
  /-- A character stands at the front. -/
  | char (c : Char) {bs : Bytes} {text : List Char} :
      Lossy bs text → Lossy (encodeChar c ++ bs) (c :: text)
  /-- The front begins a character that does not follow: as much of it as begins one is read as one
      replacement character. -/
  | truncated {p bs : Bytes} {text : List Char} (hempty : p ≠ []) (hbegins : Begins p)
      (hopen : ∀ c, p ≠ encodeChar c) (hmax : ∀ b rest, bs = b :: rest → ¬Begins (p ++ [b])) :
      Lossy bs text → Lossy (p ++ bs) (replacement :: text)
  /-- No character begins with the octet at the front. -/
  | stray {b : UInt8} {bs : Bytes} {text : List Char} (hstray : ¬Begins [b]) :
      Lossy bs text → Lossy (b :: bs) (replacement :: text)

/-! ## §2 The reader follows the relation -/

theorem begins_of_first {b : UInt8} (h : first b.toNat ≠ ([replacement], .start)) : Begins [b] := by
  have hb := b.toNat_lt
  rw [← toUInt8_toNat b]
  generalize b.toNat = n at *
  rcases Nat.lt_or_ge n 0x80 with h1 | h1
  · obtain ⟨c, hc⟩ := exists_char (n := n) (by omega)
    have hone : encodeChar c = [n.toUInt8] := by rw [encodeChar_one (by omega), hc]
    exact ⟨c, hone ▸ List.prefix_rfl⟩
  rcases Nat.lt_or_ge n 0xC2 with h2 | h2
  · refine absurd ?_ h
    unfold first
    rw [if_neg (by omega), if_pos h2]
  rcases Nat.lt_or_ge n 0xE0 with h3 | h3
  · obtain ⟨c, hc⟩ := exists_two (q := n - 0xC0) (k := 0) (by omega) (by omega) (by omega)
    rw [Nat.add_sub_cancel' (by omega)] at hc
    exact ⟨c, _, hc.symm⟩
  rcases Nat.lt_or_ge n 0xF0 with h4 | h4
  -- Some leads go with values that have bits below them, or lack bits, so the next octet is chosen.
  · obtain ⟨k, hk, hlow, hvalid⟩ : ∃ k < 64, 0x20 ≤ (n - 0xE0) * 64 + k ∧
        ¬(0x360 ≤ (n - 0xE0) * 64 + k ∧ (n - 0xE0) * 64 + k < 0x380) := by
      by_cases hE : n = 0xE0
      · exact ⟨0x20, by omega, by omega, by omega⟩
      · exact ⟨0, by omega, by omega, by omega⟩
    obtain ⟨c, hc⟩ := exists_three (l := 0) (by omega) hk (by omega) hlow hvalid
    rw [Nat.add_sub_cancel' h3] at hc
    exact ⟨c, _, hc.symm⟩
  rcases Nat.lt_or_ge n 0xF5 with h5 | h5
  · obtain ⟨k, hk, hlow, hhigh⟩ : ∃ k < 64, 0x10 ≤ (n - 0xF0) * 64 + k ∧
        (n - 0xF0) * 64 + k < 0x110 := by
      by_cases hF : n = 0xF0
      · exact ⟨0x10, by omega, by omega, by omega⟩
      · exact ⟨0, by omega, by omega, by omega⟩
    obtain ⟨c, hc⟩ := exists_four (l := 0) (m := 0) hk (by omega) (by omega) hlow hhigh
    rw [Nat.add_sub_cancel' h4] at hc
    exact ⟨c, _, hc.symm⟩
  · refine absurd ?_ h
    unfold first
    rw [if_neg (by omega), if_neg (by omega), if_neg (by omega), if_neg (by omega), if_neg (by omega),
      if_neg (by omega), if_neg (by omega), if_neg (by omega), if_neg (by omega)]

theorem decode_truncated {p bs : Bytes} (hempty : p ≠ []) (hbegins : Begins p)
    (hopen : ∀ c, p ≠ encodeChar c) (hmax : ∀ b rest, bs = b :: rest → ¬Begins (p ++ [b])) :
    decode (p ++ bs) = replacement :: decode bs := by
  obtain ⟨c, hc⟩ := hbegins
  obtain ⟨need, low, high, value, ⟨hdone, hstate⟩, hnext⟩ := exists_opens hc (hopen c) hempty
  -- The reader is inside a character, and what follows is no octet that it would take.
  rw [decode_eq, decode_eq, decodeFrom_append, hdone, hstate, List.nil_append]
  cases bs with
  | nil => rfl
  | cons b rest =>
    have hout : ¬(low ≤ b.toNat ∧ b.toNat ≤ high) := fun h => hmax b rest rfl (hnext b h)
    simp only [decodeFrom, step]
    rw [if_neg hout, List.cons_append]

theorem decode_stray {b : UInt8} {bs : Bytes} (hstray : ¬Begins [b]) :
    decode (b :: bs) = replacement :: decode bs := by
  have hfirst : first b.toNat = ([replacement], .start) :=
    Decidable.byContradiction fun h => hstray (begins_of_first h)
  simp only [decode_eq, decodeFrom, step, hfirst, List.singleton_append]

theorem decode_of_lossy {bs : Bytes} {text : List Char} (h : Lossy bs text) : decode bs = text := by
  induction h with
  | nil => rfl
  | char c _ ih => rw [decode_encodeChar, ih]
  | truncated hempty hbegins hopen hmax _ ih =>
    rw [decode_truncated hempty hbegins hopen hmax, ih]
  | stray hstray _ ih => rw [decode_stray hstray, ih]

/-! ## §3 Every octet sequence can be read -/

theorem exists_maximal {p : Bytes} (hempty : p ≠ []) (hbegins : Begins p) (bs : Bytes) :
    ∃ q rest, p ++ bs = q ++ rest ∧ (q ≠ [] ∧ Begins q) ∧
      ∀ b tail, rest = b :: tail → ¬Begins (q ++ [b]) := by
  induction bs generalizing p with
  | nil => exact ⟨p, [], rfl, ⟨hempty, hbegins⟩, fun _ _ h => absurd h (List.cons_ne_nil _ _).symm⟩
  | cons b bs ih =>
    by_cases hb : Begins (p ++ [b])
    · obtain ⟨q, rest, heq, hq⟩ := ih (p := p ++ [b]) (by simp) hb
      exact ⟨q, rest, by rw [← heq]; simp, hq⟩
    · refine ⟨p, b :: bs, rfl, ⟨hempty, hbegins⟩, ?_⟩
      rintro _ _ ⟨⟩
      exact hb

theorem exists_lossy (bs : Bytes) : ∃ text, Lossy bs text := by
  induction h : bs.length using Nat.strongRecOn generalizing bs with
  | ind n ih =>
    cases bs with
    | nil => exact ⟨[], .nil⟩
    | cons b tail =>
      by_cases hb : Begins [b]
      -- The longest front that begins a character either is one or is cut off.
      · obtain ⟨q, rest, heq, ⟨hempty, hbegins⟩, hmax⟩ := exists_maximal (by simp) hb tail
        rw [List.singleton_append] at heq
        have hlen := congrArg List.length heq
        have hpos := List.length_pos_iff.mpr hempty
        simp only [List.length_append, List.length_cons] at hlen h
        obtain ⟨text, htext⟩ := ih rest.length (by omega) rest rfl
        rw [heq]
        by_cases hopen : ∃ c, q = encodeChar c
        · obtain ⟨c, rfl⟩ := hopen
          exact ⟨c :: text, .char c htext⟩
        · exact ⟨_, .truncated hempty hbegins (not_exists.mp hopen) hmax htext⟩
      · obtain ⟨text, htext⟩ := ih tail.length (by simp at h; omega) tail rfl
        exact ⟨_, .stray hb htext⟩

/-- The reader reads exactly what the relation says. -/
theorem lossy_iff {bs : Bytes} {text : List Char} : Lossy bs text ↔ decode bs = text := by
  refine ⟨decode_of_lossy, ?_⟩
  rintro rfl
  obtain ⟨text, h⟩ := exists_lossy bs
  rwa [decode_of_lossy h]

/-- A character that is cut off by a line feed. -/
example : decode [0x61, 0xE2, 0x82, 0x0A] = ['a', '\uFFFD', '\n'] := by decide

end Conformance.Utf8
