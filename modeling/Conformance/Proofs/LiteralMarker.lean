import Conformance.Proofs.FirstLine
import Conformance.Proofs.Pattern.Literal
import Conformance.Proofs.Synchronisation

/-!
# Literal markers

A literal marker is found in a text exactly if it is a part of the first line, whatever its characters
mean in patterns. Whether it is found in a fixture is then a question about octets: those of the marker
have to stand, one after the other, in the first line as it is stored. What is no text around them does
not matter, and neither does a character that the limit cuts in two.

- `Line.isFirst_iff`: what the first line of a text is.
- `classify_literal_iff`: a text expects an error exactly if the marker is a part of its first line.
- `first_decode`: the first line of what is looked at is what its octets are read as.
- `inspect_eq_error_iff`: a fixture expects an error exactly if the octets of the marker stand in the
  octets of its first line.
-/

namespace Conformance

/-! ## §1 First lines -/

namespace Line

/-- `IsFirst text line` says that `line` is the first line of `text`. -/
inductive IsFirst : List Char → List Char → Prop where
  /-- A text without a line feed is one line. -/
  | whole {text : List Char} (noFeed : '\n' ∉ text) : IsFirst text text
  /-- A line ends in front of the first line feed. -/
  | feed {line rest : List Char} (noFeed : '\n' ∉ line) (noReturn : line.getLast? ≠ some '\r') :
      IsFirst (line ++ '\n' :: rest) line
  /-- A carriage return directly before this line feed does not belong to the line. -/
  | returnFeed {line rest : List Char} (noFeed : '\n' ∉ line) :
      IsFirst (line ++ '\r' :: '\n' :: rest) line

/-- Every text has one first line. -/
theorem isFirst_iff {text line : List Char} : IsFirst text line ↔ line = first text := by
  constructor
  · intro h
    cases h with
    | whole noFeed => exact (first_of_no_feed noFeed).symm
    | @feed _ rest noFeed noReturn => rw [first_append_feed noFeed, dropReturn, if_neg noReturn]
    | @returnFeed _ rest noFeed =>
      have hnoFeed : '\n' ∉ line ++ ['\r'] := by simpa using noFeed
      have hfirst := first_append_feed hnoFeed rest
      rw [List.append_assoc, List.singleton_append] at hfirst
      rw [hfirst, dropReturn]
      simp
  · rintro rfl
    by_cases hfeed : '\n' ∈ text
    · obtain ⟨front, rest, rfl, hfront⟩ := List.eq_append_cons_of_mem hfeed
      rw [first_append_feed hfront, dropReturn]
      -- The line is what stands in front of the line feed, its carriage return apart.
      split
      next hreturn =>
        obtain ⟨line, rfl⟩ : ∃ line, front = line ++ ['\r'] :=
          ⟨_, (List.dropLast_append_getLast? _ hreturn).symm⟩
        rw [List.dropLast_concat, List.append_assoc]
        exact .returnFeed fun h => hfront (List.mem_append_left _ h)
      next hno => exact .feed hfront hno
    · rw [first_of_no_feed hfeed]
      exact .whole hfeed

/-- No line holds a line feed. -/
theorem IsFirst.feed_notMem {text line : List Char} (h : IsFirst text line) : '\n' ∉ line := by
  cases h with
  | whole noFeed => exact noFeed
  | feed noFeed => exact noFeed
  | returnFeed noFeed => exact noFeed

end Line

namespace Marker

/-! ## §2 Text -/

/-- A text expects an error exactly if a literal marker is a part of its first line. -/
theorem classify_eq_error_of_compile {text : List Char} {m : Marker}
    (hm : Marker.compile text false = .ok m) (content : List Char) :
    m.classify content = .error ↔ text <:+: Line.first content := by
  have hpattern : Pattern.compile (Pattern.quote text) = .ok m.pattern := by
    simp only [Marker.compile, Bool.false_eq_true, if_false] at hm
    split at hm
    next p hp =>
      cases hm
      exact hp
    next => cases hm
  rw [← Pattern.occursIn_of_compile_quote hpattern, classify]
  split
  next h => simp [h]
  next h => simp [h]

/-- A text expects an error exactly if a literal marker is a part of the first line, character by
    character. So the empty marker is found in every text, and a marker with a line feed in none. -/
theorem classify_literal_iff {text : List Char} {m : Marker}
    (hm : Marker.compile text false = .ok m) (content : List Char) :
    (∃ line, Line.IsFirst content line) ∧
      (∀ line, Line.IsFirst content line → (m.classify content = .error ↔ text <:+: line)) ∧
      (text = [] → m.classify content = .error) ∧
      ('\n' ∈ text → m.classify content = .success) := by
  have hfound := classify_eq_error_of_compile hm content
  have hfirst : Line.IsFirst content (Line.first content) := Line.isFirst_iff.mpr rfl
  refine ⟨⟨_, hfirst⟩, fun line hline => ?_, fun hempty => ?_, fun hfeed => ?_⟩
  · rw [Line.isFirst_iff.mp hline]
    exact hfound
  · rw [hfound, hempty]
    exact List.nil_infix
  · cases hclass : m.classify content with
    | error => exact absurd ((hfound.mp hclass).subset hfeed) hfirst.feed_notMem
    | success => rfl

/-- A marker of characters that have a meaning in patterns. -/
theorem classify_literal_iff_escaped :
    Marker.compile "$(".toList false = .ok ⟨⟨.seq (.char '$') (.char '(')⟩⟩ ∧
      Line.IsFirst "é $(x\r\n$(".toList "é $(x".toList ∧
      Marker.classify ⟨⟨.seq (.char '$') (.char '(')⟩⟩ "é $(x\r\n$(".toList = .error := by
  have hm : Marker.compile "$(".toList false = .ok ⟨⟨.seq (.char '$') (.char '(')⟩⟩ := rfl
  have hline : Line.IsFirst "é $(x\r\n$(".toList "é $(x".toList := Line.isFirst_iff.mpr (by decide)
  obtain ⟨-, hfound, -, -⟩ := classify_literal_iff hm "é $(x\r\n$(".toList
  exact ⟨hm, hline, (hfound _ hline).mpr (by decide)⟩

/-! ## §3 Octets -/

/-- Octets without the carriage return at their end, if they have one. -/
def withoutReturn (bs : Bytes) : Bytes := if bs.getLast? = some 0x0D then bs.dropLast else bs

/-- The octets of the first line: of the first 65536 octets those in front of a line feed and its
    carriage return, or all of them if there is no line feed. -/
def lineOctets (content : Bytes) : Bytes :=
  let front := content.take 65536
  if 0x0A ∈ front then withoutReturn (front.takeWhile (· != 0x0A)) else front

/-- A carriage return at the end of the characters is one at the end of the octets. -/
theorem dropReturn_decode (bs : Bytes) :
    Line.dropReturn (Utf8.decode bs) = Utf8.decode (withoutReturn bs) := by
  by_cases hreturn : ∃ xs, bs = xs ++ [0x0D]
  -- A carriage return is read as itself, whatever is left open in front of it.
  · obtain ⟨xs, rfl⟩ := hreturn
    have hdecode : Utf8.decode (xs ++ [0x0D]) = Utf8.decode xs ++ ['\r'] :=
      Utf8.decode_append_encodeChar xs '\r' []
    rw [hdecode, Line.dropReturn, withoutReturn]
    simp
  -- Nothing else is read as one.
  · have hoctets : bs.getLast? ≠ some 0x0D := fun h =>
      hreturn ⟨_, (List.dropLast_append_getLast? _ h).symm⟩
    have hcharacters : (Utf8.decode bs).getLast? ≠ some '\r' := fun h =>
      hreturn (Utf8.exists_append_of_decode (by decide)
        (List.dropLast_append_getLast? _ h).symm)
    rw [Line.dropReturn, if_neg hcharacters, withoutReturn, if_neg hoctets]

theorem takeWhile_append_feed {xs : Bytes} (hxs : 0x0A ∉ xs) (ys : Bytes) :
    (xs ++ 0x0A :: ys).takeWhile (· != 0x0A) = xs := by
  rw [List.takeWhile_append_of_pos]
  · simp
  · intro x hx
    exact bne_iff_ne.mpr fun h => hxs (h ▸ hx)

/-- The first line of what is looked at is what its octets are read as. -/
theorem first_decode (content : Bytes) :
    Line.first (Utf8.decode (content.take readLimit)) = Utf8.decode (lineOctets content) := by
  simp only [lineOctets, readLimit]
  split
  next hfeed =>
    obtain ⟨xs, ys, htake, hxs⟩ := List.eq_append_cons_of_mem hfeed
    rw [htake, first_decode_append_feed hxs, takeWhile_append_feed hxs, dropReturn_decode]
  next hno => exact Line.first_of_no_feed (Utf8.feed_notMem_decode hno)

/-- A fixture expects an error exactly if the octets of a literal marker stand in the octets of its
    first line. The replacement character is left out, as other octets are read as it too. -/
theorem inspect_eq_error_iff {text : String} {m : Marker}
    (hm : Marker.compile text.toList false = .ok m) (htext : Utf8.replacement ∉ text.toList)
    (content : Bytes) :
    m.inspect content = .error ↔ Utf8.encodeString text <:+: lineOctets content := by
  have hpattern : Pattern.compile (Pattern.quote text.toList) = .ok m.pattern := by
    simp only [Marker.compile, Bool.false_eq_true, if_false] at hm
    split at hm
    next p hp =>
      cases hm
      exact hp
    next => cases hm
  have hclassify : m.inspect content = .error
      ↔ m.pattern.occursIn (Utf8.decode (lineOctets content)) = true := by
    rw [inspect_eq_classify_take, classify, first_decode]
    split
    next h => simp [h]
    next h => simp [h]
  rw [hclassify, Pattern.occursIn_of_compile_quote hpattern, Utf8.isInfix_decode_iff htext]
  rfl

/-- A marker that has to be escaped, between octets that are no text. -/
theorem inspect_eq_error_iff_brokenText :
    Marker.compile "é(".toList false = .ok ⟨⟨.seq (.char 'é') (.char '(')⟩⟩ ∧
      Utf8.replacement ∉ "é(".toList ∧
      Marker.inspect ⟨⟨.seq (.char 'é') (.char '(')⟩⟩ [0xC3, 0xC3, 0xA9, 0x28, 0xE2, 0x82, 0x0D, 0x0A]
        = .error := by
  have hm : Marker.compile "é(".toList false = .ok ⟨⟨.seq (.char 'é') (.char '(')⟩⟩ := rfl
  have htext : Utf8.replacement ∉ "é(".toList := by decide
  exact ⟨hm, htext, (inspect_eq_error_iff hm htext _).mpr (by decide)⟩

end Marker
end Conformance
