import Conformance.Proofs.LiteralMarker

/-!
# Line endings

A first line may end with a line feed, or with a carriage return and a line feed. A fixture is
classified alike in both cases, with one exception. The limit counts octets before the line ending is
taken off: if it falls between the two, the line feed is not seen, and without it the carriage return
counts as the last character of the line. So it is with lines of 65535 octets and with no others.

- `first_take_of_lt`: the first line if its line feed is within the limit.
- `inspect_return_feed`: where the line ending makes no difference, and what it makes of lines of 65535
  octets.
- `return_counts_at_limit`: a line of that length that is classified by its line ending.
-/

namespace Conformance.Marker

variable {line : Bytes} {m : Marker}

/-! ## §1 Where the limit falls -/

theorem withoutReturn_of_getLast? (hreturn : line.getLast? ≠ some 0x0D) : withoutReturn line = line :=
  if_neg hreturn

theorem withoutReturn_concat (line : Bytes) : withoutReturn (line ++ [0x0D]) = line := by
  rw [withoutReturn, if_pos List.getLast?_concat, List.dropLast_concat]

/-- A line feed within the limit ends the first line. -/
theorem first_take_of_lt (hfeed : 0x0A ∉ line) (hlength : line.length < readLimit) (rest : Bytes) :
    Line.first (Utf8.decode ((line ++ 0x0A :: rest).take readLimit)) =
      Utf8.decode (withoutReturn line) := by
  obtain ⟨room, hroom⟩ : ∃ room, readLimit - line.length = room + 1 :=
    ⟨readLimit - line.length - 1, by omega⟩
  rw [List.take_append, List.take_of_length_le (Nat.le_of_lt hlength), hroom, List.take_succ_cons,
    first_decode_append_feed hfeed, dropReturn_decode]

/-- A line that fills the limit is all that is seen, its line ending apart. -/
theorem take_of_limit_le (hlength : readLimit ≤ line.length) (rest : Bytes) :
    (line ++ rest).take readLimit = line.take readLimit :=
  List.take_append_of_le_length hlength

/-- If the limit falls in front of the line feed, the carriage return is a part of the line. -/
theorem first_take_of_eq (hfeed : 0x0A ∉ line) (hlength : line.length + 1 = readLimit)
    (rest : Bytes) :
    Line.first (Utf8.decode ((line ++ 0x0D :: rest).take readLimit)) = Utf8.decode line ++ ['\r'] := by
  have htake : (line ++ 0x0D :: rest).take readLimit = line ++ [0x0D] := by
    rw [List.append_cons]
    exact List.take_left' (by rw [List.length_append, List.length_singleton, hlength])
  have hnoFeed : 0x0A ∉ line ++ [0x0D] := by simpa using hfeed
  rw [htake, Line.first_of_no_feed (Utf8.feed_notMem_decode hnoFeed)]
  -- A carriage return is read as itself, whatever is left open in front of it.
  exact Utf8.decode_append_encodeChar line '\r' []

/-! ## §2 Both line endings -/

theorem inspect_congr (m : Marker) {content content' : Bytes}
    (h : Line.first (Utf8.decode (content.take readLimit)) =
      Line.first (Utf8.decode (content'.take readLimit))) :
    m.inspect content = m.inspect content' := by
  rw [inspect_eq_classify_take, inspect_eq_classify_take, classify, classify, h]

/-- What is read as a line is classified as it stands. -/
theorem inspect_of_first {content : Bytes} {text : List Char} (htext : '\n' ∉ text)
    (h : Line.first (Utf8.decode (content.take readLimit)) = text) :
    m.inspect content = m.classify text := by
  rw [inspect_eq_classify_take, classify, classify, h, Line.first_of_no_feed htext]

/-- If both line endings are within the limit, or none is seen at all, they make no difference. -/
theorem inspect_return_feed_of_ne (m : Marker) (hfeed : 0x0A ∉ line)
    (hreturn : line.getLast? ≠ some 0x0D) (hlength : line.length + 1 ≠ readLimit) (rest : Bytes) :
    m.inspect (line ++ 0x0D :: 0x0A :: rest) = m.inspect (line ++ 0x0A :: rest) := by
  apply inspect_congr
  rcases Nat.lt_or_ge line.length readLimit with hlt | hge
  · have hnext : (line ++ [0x0D]).length < readLimit := by
      rw [List.length_append, List.length_singleton]
      omega
    have hreturnFeed : 0x0A ∉ line ++ [0x0D] := by simpa using hfeed
    rw [first_take_of_lt hfeed hlt, withoutReturn_of_getLast? hreturn, List.append_cons line,
      first_take_of_lt hreturnFeed hnext, withoutReturn_concat]
  · rw [take_of_limit_le hge, take_of_limit_le hge]

/-- If the limit falls between the two, the carriage return is classified with the line. -/
theorem inspect_at_limit (m : Marker) (hfeed : 0x0A ∉ line) (hreturn : line.getLast? ≠ some 0x0D)
    (hlength : line.length + 1 = readLimit) (rest : Bytes) :
    m.inspect (line ++ 0x0D :: 0x0A :: rest) = m.classify (Utf8.decode line ++ ['\r']) ∧
      m.inspect (line ++ 0x0A :: rest) = m.classify (Utf8.decode line) := by
  have hnoFeed : '\n' ∉ Utf8.decode line := Utf8.feed_notMem_decode hfeed
  constructor
  · refine inspect_of_first ?_ (first_take_of_eq hfeed hlength _)
    simpa using hnoFeed
  · refine inspect_of_first hnoFeed ?_
    rw [first_take_of_lt hfeed (by omega), withoutReturn_of_getLast? hreturn]

/-- A text without a carriage return is not found at one. -/
theorem isInfix_append_return_iff {text front : List Char} (hreturn : '\r' ∉ text) :
    text <:+: front ++ ['\r'] ↔ text <:+: front := by
  rw [List.infix_concat_iff, or_iff_right_iff_imp]
  intro hsuffix
  rcases List.suffix_concat_iff.mp hsuffix with rfl | ⟨text, rfl, -⟩
  · exact List.nil_infix
  · exact absurd (List.mem_append_right _ (List.mem_singleton.mpr rfl)) hreturn

/-- A carriage return behind a line makes no difference to a literal marker without one. -/
theorem classify_append_return {text front : List Char} (hm : Marker.compile text false = .ok m)
    (hreturn : '\r' ∉ text) (hfront : '\n' ∉ front) :
    m.classify (front ++ ['\r']) = m.classify front := by
  have hfront' : '\n' ∉ front ++ ['\r'] := by simpa using hfront
  have hsame : m.classify (front ++ ['\r']) = .error ↔ m.classify front = .error := by
    rw [classify_eq_error_of_compile hm, classify_eq_error_of_compile hm,
      Line.first_of_no_feed hfront, Line.first_of_no_feed hfront', isInfix_append_return_iff hreturn]
  cases hclass : m.classify front with
  | error => exact hsame.mpr hclass
  | success =>
    cases hclass' : m.classify (front ++ ['\r']) with
    | error => exact absurd (hclass.symm.trans (hsame.mp hclass')) (by decide)
    | success => rfl

/-- A line is classified alike whether it ends with a line feed or with a carriage return and a line
    feed, unless it has 65535 octets. In that case the carriage return is classified with the line. This
    makes no difference to a literal marker without one, which is found with both line endings or with
    none, however long the line is. -/
theorem inspect_return_feed (m : Marker) {line : Bytes} (hfeed : 0x0A ∉ line)
    (hreturn : line.getLast? ≠ some 0x0D) (rest : Bytes) :
    (line.length ≠ 65535 →
      m.inspect (line ++ 0x0D :: 0x0A :: rest) = m.inspect (line ++ 0x0A :: rest)) ∧
    (line.length = 65535 →
      m.inspect (line ++ 0x0D :: 0x0A :: rest) = m.classify (Utf8.decode line ++ ['\r']) ∧
      m.inspect (line ++ 0x0A :: rest) = m.classify (Utf8.decode line)) ∧
    ∀ text, Marker.compile text false = .ok m → '\r' ∉ text →
      m.inspect (line ++ 0x0D :: 0x0A :: rest) = m.inspect (line ++ 0x0A :: rest) := by
  have hother : line.length ≠ 65535 →
      m.inspect (line ++ 0x0D :: 0x0A :: rest) = m.inspect (line ++ 0x0A :: rest) := by
    intro hlength
    apply inspect_return_feed_of_ne m hfeed hreturn
    rw [readLimit]
    omega
  have hlimit : line.length = 65535 →
      m.inspect (line ++ 0x0D :: 0x0A :: rest) = m.classify (Utf8.decode line ++ ['\r']) ∧
      m.inspect (line ++ 0x0A :: rest) = m.classify (Utf8.decode line) := by
    intro hlength
    apply inspect_at_limit m hfeed hreturn
    rw [hlength, readLimit]
  refine ⟨hother, hlimit, fun text hm htext => ?_⟩
  by_cases hlength : line.length = 65535
  · obtain ⟨hwith, hwithout⟩ := hlimit hlength
    rw [hwith, hwithout, classify_append_return hm htext (Utf8.feed_notMem_decode hfeed)]
  · exact hother hlength

/-! ## §3 The end of the line -/

/-- The pattern of a character at the end of the text. -/
def atEnd (c : Char) : Marker := ⟨⟨.seq (.char c) (.look .textEnd)⟩⟩

/-- A line that ends with a character that is no text, and a pattern that looks at its end. -/
theorem inspect_return_feed_brokenText :
    0x0A ∉ ([0xE2, 0x78] : Bytes) ∧ ([0xE2, 0x78] : Bytes).getLast? ≠ some 0x0D ∧
      (atEnd 'x').inspect ([0xE2, 0x78] ++ 0x0D :: 0x0A :: [0x79]) = .error := by
  have hfeed : 0x0A ∉ ([0xE2, 0x78] : Bytes) := by decide
  have hreturn : ([0xE2, 0x78] : Bytes).getLast? ≠ some 0x0D := by decide
  obtain ⟨hsame, -, -⟩ := inspect_return_feed (atEnd 'x') hfeed hreturn [0x79]
  refine ⟨hfeed, hreturn, (hsame (by decide)).trans ?_⟩
  decide +kernel

theorem occursIn_atEnd (c : Char) (text : List Char) :
    (atEnd c).pattern.occursIn text = true ↔ text.getLast? = some c := by
  have hvisible : (Pattern.Expr.seq (.char c) (.look .textEnd)).visiblePart text =
      .seq (.char c) (.look .textEnd) := rfl
  have hcounted : (Pattern.Expr.seq (.char c) (.look .textEnd)).Counted := ⟨trivial, trivial⟩
  rw [atEnd, Pattern.occursIn, hvisible, Pattern.Expr.occursIn_iff hcounted]
  constructor
  · rintro ⟨before, w, after, rfl, hmatches⟩
    obtain ⟨u, v, rfl, hchar, hlook⟩ := Pattern.Expr.matches_seq_iff.mp hmatches
    obtain rfl := Pattern.Expr.matches_char_iff.mp hchar
    obtain ⟨rfl, hend⟩ := Pattern.Expr.matches_look_iff.mp hlook
    -- Nothing stands behind the character.
    cases after with
    | nil => simp
    | cons d rest => cases hend
  · intro hlast
    obtain ⟨front, rfl⟩ : ∃ front, text = front ++ [c] :=
      ⟨_, (List.dropLast_append_getLast? _ hlast).symm⟩
    refine ⟨front, [c], [], by simp, ?_⟩
    exact Pattern.Expr.matches_seq_iff.mpr
      ⟨[c], [], rfl, Pattern.Expr.matches_char_iff.mpr rfl, Pattern.Expr.matches_look_iff.mpr ⟨rfl, rfl⟩⟩

theorem decode_replicate (n : Nat) :
    Utf8.decode (List.replicate n 0x78) = List.replicate n 'x' := by
  induction n with
  | zero => rfl
  | succ n ih =>
    rw [List.replicate_succ, List.replicate_succ, Utf8.decode_cons_ascii _ _ (by decide), ih]
    rfl

/-- A line of one character only that fills the limit but for one octet. -/
theorem inspect_replicate {n : Nat} (hlimit : n + 1 = readLimit) :
    0x0A ∉ List.replicate n (0x78 : UInt8) ∧
      (List.replicate n (0x78 : UInt8)).getLast? ≠ some 0x0D ∧
      (atEnd 'x').inspect (List.replicate n 0x78 ++ [0x0D, 0x0A]) = .success ∧
      (atEnd 'x').inspect (List.replicate n 0x78 ++ [0x0A]) = .error := by
  obtain ⟨n, rfl⟩ : ∃ k, n = k + 1 := ⟨n - 1, by rw [readLimit] at hlimit; omega⟩
  have hfeed : 0x0A ∉ List.replicate (n + 1) (0x78 : UInt8) := fun h =>
    absurd (List.eq_of_mem_replicate h) (by decide)
  have hreturn : (List.replicate (n + 1) (0x78 : UInt8)).getLast? ≠ some 0x0D := by
    rw [List.replicate_succ', List.getLast?_concat]
    decide
  obtain ⟨hwith, hwithout⟩ := inspect_at_limit (atEnd 'x') hfeed hreturn
    (by rw [List.length_replicate, hlimit]) []
  have hnoFeed : '\n' ∉ List.replicate (n + 1) 'x' := fun h =>
    absurd (List.eq_of_mem_replicate h) (by decide)
  have hnoFeed' : '\n' ∉ List.replicate (n + 1) 'x' ++ ['\r'] := by simp
  refine ⟨hfeed, hreturn, ?_, ?_⟩
  -- The carriage return stands behind the character.
  · rw [hwith, decode_replicate, classify, Line.first_of_no_feed hnoFeed', if_neg]
    rw [occursIn_atEnd, List.getLast?_concat]
    decide
  · rw [hwithout, decode_replicate, classify, Line.first_of_no_feed hnoFeed, if_pos]
    rw [occursIn_atEnd, List.replicate_succ', List.getLast?_concat]

/-- A line of 65535 octets that is classified by its line ending: the pattern asks for the last character
    of the line, but the carriage return is taken for a part of the line. -/
theorem return_counts_at_limit :
    Marker.compile "x$".toList true = .ok (atEnd 'x') ∧
      0x0A ∉ List.replicate 65535 (0x78 : UInt8) ∧
      (List.replicate 65535 (0x78 : UInt8)).getLast? ≠ some 0x0D ∧
      (atEnd 'x').inspect (List.replicate 65535 0x78 ++ [0x0D, 0x0A]) = .success ∧
      (atEnd 'x').inspect (List.replicate 65535 0x78 ++ [0x0A]) = .error :=
  ⟨rfl, inspect_replicate rfl⟩

end Conformance.Marker
