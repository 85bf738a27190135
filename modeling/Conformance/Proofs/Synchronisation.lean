import Conformance.Proofs.LossyReading

/-!
# Finding text among octets

The octets of a character begin with one that stands nowhere inside of the octets of a character. So
whatever was left open in front of it, the reader closes it and reads the character afresh; and what
is read as a character, other than the replacement character, can only have been written as such. A
text without replacement characters is therefore found among characters exactly where its octets are
found.

- `decode_append_encode`: a text is read as itself wherever its octets stand.
- `isInfix_decode_iff`: it is found among the characters read exactly if its octets are found.
-/

namespace Conformance.Utf8

/-! ## §1 Octets that begin a character -/

/-- Octets that begin a character: they never stand behind another one of it. -/
def IsLead (b : UInt8) : Prop := b.toNat < 0x80 ∨ 0xBF < b.toNat

/-- A state of the reader in which no octet that begins a character is taken for a later one. -/
def State.Ready : State → Prop
  | .start => True
  | .inside _ low high _ => 0x80 ≤ low ∧ high ≤ 0xBF

theorem first_ready (b : Nat) : (first b).2.Ready := by
  unfold first
  repeat' split
  all_goals simp [State.Ready]

theorem step_ready (s : State) (b : UInt8) : (step s b).2.Ready := by
  cases s with
  | start => exact first_ready b.toNat
  | inside need low high value =>
    simp only [step]
    split
    · split <;> simp [State.Ready]
    · exact first_ready b.toNat

theorem stateAfter_ready {s : State} (hs : s.Ready) (bs : Bytes) : (stateAfter s bs).Ready := by
  induction bs generalizing s with
  | nil => exact hs
  | cons b bs ih => exact ih (step_ready s b)

/-- An octet that begins a character closes whatever is open and is read afresh. -/
theorem step_lead {s : State} (hs : s.Ready) {b : UInt8} (hb : IsLead b) :
    step s b = (s.finish ++ (first b.toNat).1, (first b.toNat).2) := by
  cases s with
  | start => rfl
  | inside need low high value =>
    have hout : ¬(low ≤ b.toNat ∧ b.toNat ≤ high) := by
      obtain ⟨hlow, hhigh⟩ := hs
      rcases hb with hb | hb
      · omega
      · omega
    simp [step, hout, State.finish]

theorem exists_lead (c : Char) : ∃ b bs, encodeChar c = b :: bs ∧ IsLead b := by
  have hv := toNat_valid c
  rcases Nat.lt_or_ge c.toNat 0x80 with h | h
  · refine ⟨_, _, encodeChar_one h, .inl ?_⟩
    rwa [toNat_toUInt8 (by omega)]
  rcases Nat.lt_or_ge c.toNat 0x800 with h' | h'
  · refine ⟨_, _, encodeChar_two h h', .inr ?_⟩
    rw [toNat_toUInt8 (by omega)]
    omega
  rcases Nat.lt_or_ge c.toNat 0x10000 with h'' | h''
  · refine ⟨_, _, encodeChar_three h' h'', .inr ?_⟩
    rw [toNat_toUInt8 (by omega)]
    omega
  · refine ⟨_, _, encodeChar_four h'', .inr ?_⟩
    rw [toNat_toUInt8 (by omega)]
    omega

/-! ## §2 Text is read wherever its octets stand -/

theorem decodeFrom_lead {s : State} (hs : s.Ready) {b : UInt8} (hb : IsLead b) (bs : Bytes) :
    decodeFrom s (b :: bs) = s.finish ++ decodeFrom .start (b :: bs) := by
  rw [decodeFrom, decodeFrom, step_lead hs hb]
  simp [step]

/-- A character is read as itself wherever its octets stand: what is left open in front of them does
    not reach into them. -/
theorem decode_append_encodeChar (xs : Bytes) (c : Char) (ys : Bytes) :
    decode (xs ++ (encodeChar c ++ ys)) = decode xs ++ c :: decode ys := by
  obtain ⟨b, bs, hoctets, hlead⟩ := exists_lead c
  have hready : (stateAfter .start xs).Ready := stateAfter_ready (s := .start) trivial xs
  rw [← decode_encodeChar]
  simp only [decode_eq]
  rw [decodeFrom_append, hoctets, List.cons_append, decodeFrom_lead hready hlead,
    decodeFrom_eq_completed .start xs, List.append_assoc]

/-- A text is read as itself wherever its octets stand. -/
theorem decode_append_encode {text : List Char} (htext : text ≠ []) (xs ys : Bytes) :
    decode (xs ++ (encode text ++ ys)) = decode xs ++ (text ++ decode ys) := by
  obtain ⟨c, cs, rfl⟩ := List.exists_cons_of_ne_nil htext
  rw [encode, List.flatMap_cons, List.append_assoc, decode_append_encodeChar, ← encode,
    decode_encode_append]
  rfl

/-- A character that is cut off in front of a text. -/
example : decode [0xE2, 0x82, 0x78, 0xC3] = ['\uFFFD', 'x', '\uFFFD'] := by decide

/-! ## §3 What is read as text was written as text -/

theorem Lossy.eq_nil {bs : Bytes} (h : Lossy bs []) : bs = [] := by
  cases h
  rfl

/-- The octets of what is read behind a place can be told from those in front of it. -/
theorem Lossy.split {front back : List Char} {bs : Bytes} (h : Lossy bs (front ++ back)) :
    ∃ xs ys, bs = xs ++ ys ∧ Lossy ys back := by
  induction front generalizing bs with
  | nil => exact ⟨[], bs, rfl, h⟩
  | cons c cs ih =>
    cases h with
    | char _ hrest =>
      obtain ⟨xs, ys, rfl, hback⟩ := ih hrest
      exact ⟨_, ys, (List.append_assoc _ _ _).symm, hback⟩
    | truncated _ _ _ _ hrest =>
      obtain ⟨xs, ys, rfl, hback⟩ := ih hrest
      exact ⟨_, ys, (List.append_assoc _ _ _).symm, hback⟩
    | @stray b _ _ _ hrest =>
      obtain ⟨xs, ys, rfl, hback⟩ := ih hrest
      exact ⟨b :: xs, ys, rfl, hback⟩

/-- What is read as a text without replacement characters begins with the octets of that text. -/
theorem Lossy.eq_encode_append {text back : List Char} (htext : replacement ∉ text) {bs : Bytes}
    (h : Lossy bs (text ++ back)) : ∃ ys, bs = encode text ++ ys ∧ Lossy ys back := by
  induction text generalizing bs with
  | nil => exact ⟨bs, rfl, h⟩
  | cons c cs ih =>
    have hcs : replacement ∉ cs := fun hc => htext (List.mem_cons_of_mem c hc)
    cases h with
    | char _ hrest =>
      obtain ⟨ys, rfl, hback⟩ := ih hcs hrest
      exact ⟨ys, (List.append_assoc _ _ _).symm, hback⟩
    | truncated => exact absurd List.mem_cons_self htext
    | stray => exact absurd List.mem_cons_self htext

/-- A text without replacement characters is found among the characters read exactly if its octets
    are found among the octets: no other octets are read as it, and none can hide it. -/
theorem isInfix_decode_iff {text : List Char} (htext : replacement ∉ text) {bs : Bytes} :
    text <:+: decode bs ↔ encode text <:+: bs := by
  constructor
  -- What is read in front of the text and behind it was written there.
  · rintro ⟨front, back, hdecode⟩
    rw [List.append_assoc] at hdecode
    obtain ⟨xs, ys, rfl, hys⟩ := (lossy_iff.mpr hdecode.symm).split
    obtain ⟨zs, rfl, -⟩ := hys.eq_encode_append htext
    exact ⟨xs, zs, List.append_assoc _ _ _⟩
  · rintro ⟨xs, ys, rfl⟩
    by_cases hempty : text = []
    · subst hempty
      exact List.nil_infix
    · rw [List.append_assoc, decode_append_encode hempty]
      exact ⟨decode xs, decode ys, List.append_assoc _ _ _⟩

/-- The last octet of a character is there if the character is read last. -/
theorem exists_append_of_decode {bs : Bytes} {front : List Char} {c : Char} (hc : c ≠ replacement)
    (h : decode bs = front ++ [c]) : ∃ xs, bs = xs ++ encodeChar c := by
  obtain ⟨xs, ys, rfl, hys⟩ := (lossy_iff.mpr h).split
  have htext : replacement ∉ [c] := fun hmem => hc (List.mem_singleton.mp hmem).symm
  rw [← List.append_nil [c]] at hys
  obtain ⟨zs, rfl, hzs⟩ := hys.eq_encode_append htext
  rw [hzs.eq_nil, List.append_nil]
  exact ⟨xs, by simp [encode]⟩

end Conformance.Utf8
