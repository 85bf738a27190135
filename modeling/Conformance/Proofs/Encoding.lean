import Conformance.Proofs.Decoding

/-!
# Reading what was written

The octets of a character are read as that character, wherever they stand. The lemmas follow the
reader through the octets of a character, one length at a time, and say at each place which octets
it would take next: exactly those that go on to the octets of some character.

- `exists_opens`: where the reader stands inside the octets of a character.
- `decode_encodeChar`, `decode_encode`: what was written is read back.
- `text?_eq_some_iff`: which octets are text.
-/

namespace Conformance.Utf8

/-! ## §1 Octets and numbers -/

theorem toNat_toUInt8 {n : Nat} (h : n < 256) : n.toUInt8.toNat = n := by
  rw [Nat.toUInt8_eq, UInt8.toNat_ofNat', Nat.mod_eq_of_lt h]

theorem toUInt8_toNat (b : UInt8) : b.toNat.toUInt8 = b := by
  rw [Nat.toUInt8_eq, UInt8.ofNat_toNat]

theorem toNat_valid (c : Char) : c.toNat < 0xD800 ∨ 0xDFFF < c.toNat ∧ c.toNat < 0x110000 := c.valid

theorem exists_char {n : Nat} (h : n < 0xD800 ∨ 0xDFFF < n ∧ n < 0x110000) :
    ∃ c : Char, c.toNat = n := ⟨Char.ofNat n, toNat_ofNat h⟩

/-! ## §2 The octets of a character, by their number -/

theorem encodeChar_one {c : Char} (h : c.toNat < 0x80) : encodeChar c = [c.toNat.toUInt8] := by
  simp only [encodeChar]
  rw [if_pos h]

theorem encodeChar_two {c : Char} (hlow : 0x80 ≤ c.toNat) (hhigh : c.toNat < 0x800) :
    encodeChar c = [(0xC0 + c.toNat / 64).toUInt8, (0x80 + c.toNat % 64).toUInt8] := by
  simp only [encodeChar]
  rw [if_neg (by omega), if_pos hhigh]

theorem encodeChar_three {c : Char} (hlow : 0x800 ≤ c.toNat) (hhigh : c.toNat < 0x10000) :
    encodeChar c = [(0xE0 + c.toNat / 4096).toUInt8, (0x80 + c.toNat / 64 % 64).toUInt8,
      (0x80 + c.toNat % 64).toUInt8] := by
  simp only [encodeChar]
  rw [if_neg (by omega), if_neg (by omega), if_pos hhigh]

theorem encodeChar_four {c : Char} (hlow : 0x10000 ≤ c.toNat) :
    encodeChar c = [(0xF0 + c.toNat / 262144).toUInt8, (0x80 + c.toNat / 4096 % 64).toUInt8,
      (0x80 + c.toNat / 64 % 64).toUInt8, (0x80 + c.toNat % 64).toUInt8] := by
  simp only [encodeChar]
  rw [if_neg (by omega), if_neg (by omega), if_neg (by omega)]

/-- The octets of two-octet characters: any lead, any six bits behind it. -/
theorem exists_two {q k : Nat} (hq : 2 ≤ q) (hq' : q < 32) (hk : k < 64) :
    ∃ c, encodeChar c = [(0xC0 + q).toUInt8, (0x80 + k).toUInt8] := by
  obtain ⟨c, hc⟩ := exists_char (n := q * 64 + k) (by omega)
  have h1 : c.toNat / 64 = q := by omega
  have h2 : c.toNat % 64 = k := by omega
  exact ⟨c, by rw [encodeChar_two (by omega) (by omega), h1, h2]⟩

/-- The octets of three-octet characters: the first two hold enough, and no surrogate. -/
theorem exists_three {q k l : Nat} (hq : q < 16) (hk : k < 64) (hl : l < 64)
    (hlow : 0x20 ≤ q * 64 + k) (hvalid : ¬(0x360 ≤ q * 64 + k ∧ q * 64 + k < 0x380)) :
    ∃ c, encodeChar c = [(0xE0 + q).toUInt8, (0x80 + k).toUInt8, (0x80 + l).toUInt8] := by
  obtain ⟨c, hc⟩ := exists_char (n := q * 4096 + k * 64 + l) (by omega)
  have h1 : c.toNat / 4096 = q := by omega
  have h2 : c.toNat / 64 % 64 = k := by omega
  have h3 : c.toNat % 64 = l := by omega
  exact ⟨c, by rw [encodeChar_three (by omega) (by omega), h1, h2, h3]⟩

/-- The octets of four-octet characters: the first two hold enough, and not too much. -/
theorem exists_four {q k l m : Nat} (hk : k < 64) (hl : l < 64) (hm : m < 64)
    (hlow : 0x10 ≤ q * 64 + k) (hhigh : q * 64 + k < 0x110) :
    ∃ c, encodeChar c = [(0xF0 + q).toUInt8, (0x80 + k).toUInt8, (0x80 + l).toUInt8,
      (0x80 + m).toUInt8] := by
  obtain ⟨c, hc⟩ := exists_char (n := q * 262144 + k * 4096 + l * 64 + m) (by omega)
  have h1 : c.toNat / 262144 = q := by omega
  have h2 : c.toNat / 4096 % 64 = k := by omega
  have h3 : c.toNat / 64 % 64 = l := by omega
  have h4 : c.toNat % 64 = m := by omega
  exact ⟨c, by rw [encodeChar_four (by omega), h1, h2, h3, h4]⟩

/-! ## §3 Lead octets and the octets behind them -/

theorem first_two {b : Nat} (hlow : 0xC2 ≤ b) (hhigh : b < 0xE0) :
    first b = ([], .inside 1 0x80 0xBF (b - 0xC0)) := by
  unfold first
  rw [if_neg (by omega), if_neg (by omega), if_pos hhigh]

theorem first_three {b : Nat} (hlow : 0xE0 ≤ b) (hhigh : b < 0xF0) :
    ∃ low high, first b = ([], .inside 2 low high (b - 0xE0)) ∧
      ∀ x, low ≤ x ∧ x ≤ high ↔ (0x80 ≤ x ∧ x ≤ 0xBF) ∧
        0x20 ≤ (b - 0xE0) * 64 + (x - 0x80) ∧
          ¬(0x360 ≤ (b - 0xE0) * 64 + (x - 0x80) ∧ (b - 0xE0) * 64 + (x - 0x80) < 0x380) := by
  -- Behind E0 and ED fewer octets may stand: the others would be too low, or surrogates.
  by_cases h0 : b = 0xE0
  · subst h0
    exact ⟨0xA0, 0xBF, by decide, fun x => by omega⟩
  by_cases hD : b = 0xED
  · subst hD
    exact ⟨0x80, 0x9F, by decide, fun x => by omega⟩
  refine ⟨0x80, 0xBF, ?_, fun x => by omega⟩
  unfold first
  rw [if_neg (by omega), if_neg (by omega), if_neg (by omega), if_neg h0, if_neg hD, if_pos hhigh]

theorem first_four {b : Nat} (hlow : 0xF0 ≤ b) (hhigh : b ≤ 0xF4) :
    ∃ low high, first b = ([], .inside 3 low high (b - 0xF0)) ∧
      ∀ x, low ≤ x ∧ x ≤ high ↔ (0x80 ≤ x ∧ x ≤ 0xBF) ∧
        0x10 ≤ (b - 0xF0) * 64 + (x - 0x80) ∧ (b - 0xF0) * 64 + (x - 0x80) < 0x110 := by
  -- Behind F0 and F4 fewer octets may stand: the others would be too low, or too high.
  by_cases h0 : b = 0xF0
  · subst h0
    exact ⟨0x90, 0xBF, by decide, fun x => by omega⟩
  by_cases h4 : b = 0xF4
  · subst h4
    exact ⟨0x80, 0x8F, by decide, fun x => by omega⟩
  refine ⟨0x80, 0xBF, ?_, fun x => by omega⟩
  unfold first
  rw [if_neg (by omega), if_neg (by omega), if_neg (by omega), if_neg (by omega), if_neg (by omega),
    if_neg (by omega), if_neg h0, if_pos (by omega)]

theorem step_more {need low high value k : Nat} (hneed : 2 ≤ need) (hk : k < 64)
    (hrange : low ≤ 0x80 + k ∧ 0x80 + k ≤ high) :
    step (.inside need low high value) (0x80 + k).toUInt8 =
      ([], .inside (need - 1) 0x80 0xBF (value * 64 + k)) := by
  have hb : (0x80 + k).toUInt8.toNat = 0x80 + k := toNat_toUInt8 (by omega)
  simp only [step, hb]
  rw [if_pos hrange, if_neg (by omega), Nat.add_sub_cancel_left]

theorem step_last {value k : Nat} (hk : k < 64) :
    step (.inside 1 0x80 0xBF value) (0x80 + k).toUInt8 = ([Char.ofNat (value * 64 + k)], .start) := by
  have hb : (0x80 + k).toUInt8.toNat = 0x80 + k := toNat_toUInt8 (by omega)
  simp only [step, hb]
  rw [if_pos (by omega), if_pos (by omega), Nat.add_sub_cancel_left]

/-- An octet that may stand behind a lead octet holds six bits. -/
theorem exists_tail {b : UInt8} (h : 0x80 ≤ b.toNat ∧ b.toNat ≤ 0xBF) :
    ∃ k, k < 64 ∧ b = (0x80 + k).toUInt8 := by
  refine ⟨b.toNat - 0x80, by omega, ?_⟩
  rw [Nat.add_sub_cancel' h.1, toUInt8_toNat]

/-! ## §4 Inside the octets of a character -/

theorem completed_append (xs ys : Bytes) :
    ∀ s : State, completed s (xs ++ ys) = completed s xs ++ completed (stateAfter s xs) ys := by
  induction xs with
  | nil => intro s; rfl
  | cons x xs ih => intro s; simp [completed, stateAfter, ih]

theorem stateAfter_append (xs ys : Bytes) :
    ∀ s : State, stateAfter s (xs ++ ys) = stateAfter (stateAfter s xs) ys := by
  induction xs with
  | nil => intro s; rfl
  | cons x xs ih => intro s; simp [stateAfter, ih]

/-- After the octets `p` the reader is inside a character, and what it takes next goes on to the
    octets of some character. -/
def Opens (p : Bytes) (need low high value : Nat) : Prop :=
  (completed .start p = [] ∧ stateAfter .start p = .inside need low high value) ∧
    ∀ b : UInt8, low ≤ b.toNat ∧ b.toNat ≤ high → ∃ c : Char, p ++ [b] <+: encodeChar c

theorem Opens.more {p : Bytes} {need low high value k : Nat} (h : Opens p need low high value)
    (hneed : 2 ≤ need) (hk : k < 64) (hrange : low ≤ 0x80 + k ∧ 0x80 + k ≤ high) :
    completed .start (p ++ [(0x80 + k).toUInt8]) = [] ∧
      stateAfter .start (p ++ [(0x80 + k).toUInt8]) =
        .inside (need - 1) 0x80 0xBF (value * 64 + k) := by
  obtain ⟨⟨hdone, hstate⟩, -⟩ := h
  rw [completed_append, stateAfter_append, hdone, hstate]
  simp only [completed, stateAfter, step_more hneed hk hrange, List.append_nil, and_self]

theorem Opens.last {p : Bytes} {value k : Nat} (h : Opens p 1 0x80 0xBF value) (hk : k < 64) :
    completed .start (p ++ [(0x80 + k).toUInt8]) = [Char.ofNat (value * 64 + k)] ∧
      stateAfter .start (p ++ [(0x80 + k).toUInt8]) = .start := by
  obtain ⟨⟨hdone, hstate⟩, -⟩ := h
  rw [completed_append, stateAfter_append, hdone, hstate]
  simp only [completed, stateAfter, step_last hk, List.append_nil, List.nil_append, and_self]

theorem opens_lead_two {c : Char} (hlow : 0x80 ≤ c.toNat) (hhigh : c.toNat < 0x800) :
    Opens [(0xC0 + c.toNat / 64).toUInt8] 1 0x80 0xBF (c.toNat / 64) := by
  have hb : (0xC0 + c.toNat / 64).toUInt8.toNat = 0xC0 + c.toNat / 64 := toNat_toUInt8 (by omega)
  have hfirst := first_two (b := 0xC0 + c.toNat / 64) (by omega) (by omega)
  rw [Nat.add_sub_cancel_left] at hfirst
  refine ⟨⟨?_, ?_⟩, fun b hb => ?_⟩
  · simp only [completed, step, hb, hfirst, List.append_nil]
  · simp only [stateAfter, step, hb, hfirst]
  · obtain ⟨k, hk, rfl⟩ := exists_tail hb
    obtain ⟨d, hd⟩ := exists_two (q := c.toNat / 64) (by omega) (by omega) hk
    exact ⟨d, [], hd.symm⟩

theorem opens_lead_three {c : Char} (hlow : 0x800 ≤ c.toNat) (hhigh : c.toNat < 0x10000) :
    ∃ low high, Opens [(0xE0 + c.toNat / 4096).toUInt8] 2 low high (c.toNat / 4096) ∧
      low ≤ 0x80 + c.toNat / 64 % 64 ∧ 0x80 + c.toNat / 64 % 64 ≤ high := by
  have hv := toNat_valid c
  have hb : (0xE0 + c.toNat / 4096).toUInt8.toNat = 0xE0 + c.toNat / 4096 :=
    toNat_toUInt8 (by omega)
  obtain ⟨low, high, hfirst, hrange⟩ :=
    first_three (b := 0xE0 + c.toNat / 4096) (by omega) (by omega)
  simp only [Nat.add_sub_cancel_left] at hfirst hrange
  refine ⟨low, high, ⟨⟨?_, ?_⟩, fun b hb => ?_⟩, (hrange _).mpr (by omega)⟩
  · simp only [completed, step, hb, hfirst, List.append_nil]
  · simp only [stateAfter, step, hb, hfirst]
  -- With zeros behind it, an octet in the range goes on to a character.
  · obtain ⟨htail, hfits⟩ := (hrange b.toNat).mp hb
    obtain ⟨k, hk, rfl⟩ := exists_tail htail
    rw [toNat_toUInt8 (by omega), Nat.add_sub_cancel_left] at hfits
    obtain ⟨d, hd⟩ := exists_three (l := 0) (by omega) hk (by omega) hfits.1 hfits.2
    exact ⟨d, _, hd.symm⟩

theorem opens_second_three {c : Char} (hlow : 0x800 ≤ c.toNat) (hhigh : c.toNat < 0x10000) :
    Opens [(0xE0 + c.toNat / 4096).toUInt8, (0x80 + c.toNat / 64 % 64).toUInt8] 1 0x80 0xBF
      (c.toNat / 64) := by
  have hv := toNat_valid c
  obtain ⟨low, high, hlead, hrange⟩ := opens_lead_three hlow hhigh
  have hmore := hlead.more (k := c.toNat / 64 % 64) (by omega) (by omega) hrange
  have hvalue : c.toNat / 4096 * 64 + c.toNat / 64 % 64 = c.toNat / 64 := by omega
  rw [hvalue] at hmore
  refine ⟨hmore, fun b hb => ?_⟩
  obtain ⟨k, hk, rfl⟩ := exists_tail hb
  obtain ⟨d, hd⟩ := exists_three (q := c.toNat / 4096) (k := c.toNat / 64 % 64) (by omega)
    (by omega) hk (by omega) (by omega)
  exact ⟨d, [], hd.symm⟩

theorem opens_lead_four {c : Char} (hlow : 0x10000 ≤ c.toNat) :
    ∃ low high, Opens [(0xF0 + c.toNat / 262144).toUInt8] 3 low high (c.toNat / 262144) ∧
      low ≤ 0x80 + c.toNat / 4096 % 64 ∧ 0x80 + c.toNat / 4096 % 64 ≤ high := by
  have hv := toNat_valid c
  have hb : (0xF0 + c.toNat / 262144).toUInt8.toNat = 0xF0 + c.toNat / 262144 :=
    toNat_toUInt8 (by omega)
  obtain ⟨low, high, hfirst, hrange⟩ :=
    first_four (b := 0xF0 + c.toNat / 262144) (by omega) (by omega)
  simp only [Nat.add_sub_cancel_left] at hfirst hrange
  refine ⟨low, high, ⟨⟨?_, ?_⟩, fun b hb => ?_⟩, (hrange _).mpr (by omega)⟩
  · simp only [completed, step, hb, hfirst, List.append_nil]
  · simp only [stateAfter, step, hb, hfirst]
  · obtain ⟨htail, hfits⟩ := (hrange b.toNat).mp hb
    obtain ⟨k, hk, rfl⟩ := exists_tail htail
    rw [toNat_toUInt8 (by omega), Nat.add_sub_cancel_left] at hfits
    obtain ⟨d, hd⟩ := exists_four (l := 0) (m := 0) hk (by omega) (by omega) hfits.1 hfits.2
    exact ⟨d, _, hd.symm⟩

theorem opens_second_four {c : Char} (hlow : 0x10000 ≤ c.toNat) :
    Opens [(0xF0 + c.toNat / 262144).toUInt8, (0x80 + c.toNat / 4096 % 64).toUInt8] 2 0x80 0xBF
      (c.toNat / 4096) := by
  have hv := toNat_valid c
  obtain ⟨low, high, hlead, hrange⟩ := opens_lead_four hlow
  have hmore := hlead.more (k := c.toNat / 4096 % 64) (by omega) (by omega) hrange
  have hvalue : c.toNat / 262144 * 64 + c.toNat / 4096 % 64 = c.toNat / 4096 := by omega
  rw [hvalue] at hmore
  refine ⟨hmore, fun b hb => ?_⟩
  obtain ⟨k, hk, rfl⟩ := exists_tail hb
  obtain ⟨d, hd⟩ := exists_four (q := c.toNat / 262144) (k := c.toNat / 4096 % 64) (m := 0)
    (by omega) hk (by omega) (by omega) (by omega)
  exact ⟨d, _, hd.symm⟩

theorem opens_third_four {c : Char} (hlow : 0x10000 ≤ c.toNat) :
    Opens [(0xF0 + c.toNat / 262144).toUInt8, (0x80 + c.toNat / 4096 % 64).toUInt8,
      (0x80 + c.toNat / 64 % 64).toUInt8] 1 0x80 0xBF (c.toNat / 64) := by
  have hv := toNat_valid c
  have hmore :=
    (opens_second_four hlow).more (k := c.toNat / 64 % 64) (by omega) (by omega) (by omega)
  have hvalue : c.toNat / 4096 * 64 + c.toNat / 64 % 64 = c.toNat / 64 := by omega
  rw [hvalue] at hmore
  refine ⟨hmore, fun b hb => ?_⟩
  obtain ⟨k, hk, rfl⟩ := exists_tail hb
  obtain ⟨d, hd⟩ := exists_four (q := c.toNat / 262144) (k := c.toNat / 4096 % 64)
    (l := c.toNat / 64 % 64) (by omega) (by omega) hk (by omega) (by omega)
  exact ⟨d, [], hd.symm⟩

/-- A proper part of the octets of a character, from their front, leaves the reader inside. -/
theorem exists_opens {p : Bytes} {c : Char} (hp : p <+: encodeChar c) (hne : p ≠ encodeChar c)
    (h0 : p ≠ []) : ∃ need low high value, Opens p need low high value := by
  -- In each length, the part is the lead with some of the octets behind it, but not all.
  rcases Nat.lt_or_ge c.toNat 0x80 with h | h
  · rw [encodeChar_one h] at hp hne
    simp only [List.prefix_cons_iff, List.prefix_nil] at hp
    grind
  rcases Nat.lt_or_ge c.toNat 0x800 with h' | h'
  · have h1 := opens_lead_two h h'
    rw [encodeChar_two h h'] at hp hne
    simp only [List.prefix_cons_iff, List.prefix_nil] at hp
    grind
  rcases Nat.lt_or_ge c.toNat 0x10000 with h'' | h''
  · obtain ⟨low, high, h1, -⟩ := opens_lead_three h' h''
    have h2 := opens_second_three h' h''
    rw [encodeChar_three h' h''] at hp hne
    simp only [List.prefix_cons_iff, List.prefix_nil] at hp
    grind
  · obtain ⟨low, high, h1, -⟩ := opens_lead_four h''
    have h2 := opens_second_four h''
    have h3 := opens_third_four h''
    rw [encodeChar_four h''] at hp hne
    simp only [List.prefix_cons_iff, List.prefix_nil] at hp
    grind

/-! ## §5 The round trip -/

theorem completed_encodeChar (c : Char) :
    completed .start (encodeChar c) = [c] ∧ stateAfter .start (encodeChar c) = .start := by
  have hv := toNat_valid c
  -- In front of the last octet the reader holds all bits but six, which that octet adds.
  rcases Nat.lt_or_ge c.toNat 0x80 with h | h
  · rw [encodeChar_one h]
    have hb : c.toNat.toUInt8.toNat = c.toNat := toNat_toUInt8 (by omega)
    simp [completed, stateAfter, step, hb, first, h]
  rcases Nat.lt_or_ge c.toNat 0x800 with h' | h'
  · have hlast := (opens_lead_two h h').last (k := c.toNat % 64) (by omega)
    have hvalue : c.toNat / 64 * 64 + c.toNat % 64 = c.toNat := by omega
    rw [hvalue, Char.ofNat_toNat] at hlast
    rw [encodeChar_two h h']
    exact hlast
  rcases Nat.lt_or_ge c.toNat 0x10000 with h'' | h''
  · have hlast := (opens_second_three h' h'').last (k := c.toNat % 64) (by omega)
    have hvalue : c.toNat / 64 * 64 + c.toNat % 64 = c.toNat := by omega
    rw [hvalue, Char.ofNat_toNat] at hlast
    rw [encodeChar_three h' h'']
    exact hlast
  · have hlast := (opens_third_four h'').last (k := c.toNat % 64) (by omega)
    have hvalue : c.toNat / 64 * 64 + c.toNat % 64 = c.toNat := by omega
    rw [hvalue, Char.ofNat_toNat] at hlast
    rw [encodeChar_four h'']
    exact hlast

theorem decodeFrom_encodeChar (c : Char) (bs : Bytes) :
    decodeFrom .start (encodeChar c ++ bs) = c :: decodeFrom .start bs := by
  obtain ⟨hdone, hstate⟩ := completed_encodeChar c
  rw [decodeFrom_append, hdone, hstate, List.singleton_append]

theorem decode_encodeChar (c : Char) (bs : Bytes) :
    decode (encodeChar c ++ bs) = c :: decode bs := by
  rw [decode_eq, decode_eq, decodeFrom_encodeChar]

/-- What was written is read back, in front of whatever follows. -/
theorem decode_encode_append (text : List Char) (bs : Bytes) :
    decode (encode text ++ bs) = text ++ decode bs := by
  induction text with
  | nil => rfl
  | cons c cs ih =>
    rw [encode, List.flatMap_cons, List.append_assoc, decode_encodeChar, ← encode, ih,
      List.cons_append]

/-- What was written is read back. -/
theorem decode_encode (text : List Char) : decode (encode text) = text := by
  have hnil : decode [] = [] := rfl
  have happend := decode_encode_append text []
  rwa [List.append_nil, hnil, List.append_nil] at happend

theorem decodeString_encodeString (text : String) : decodeString (encodeString text) = text := by
  rw [decodeString, encodeString, decode_encode, String.ofList_toList]

/-- Octets are text exactly if they are the octets of one. -/
theorem text?_eq_some_iff {bs : Bytes} {text : String} :
    text? bs = some text ↔ bs = encodeString text := by
  unfold text?
  dsimp only
  constructor
  · intro h
    split at h
    next hback =>
      obtain rfl := Option.some.inj h
      exact hback.symm
    next => cases h
  · rintro rfl
    simp only [decodeString_encodeString, if_true]

@[simp]
theorem text?_encodeString (text : String) : text? (encodeString text) = some text :=
  text?_eq_some_iff.mpr rfl

end Conformance.Utf8
