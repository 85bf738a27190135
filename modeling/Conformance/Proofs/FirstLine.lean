import Conformance.Expectation
import Conformance.Proofs.LossyReading

/-!
# What a fixture's first line says

A fixture is classified by what stands in front of its first line feed, and of that no more than the
first 65536 octets are looked at. Here this is held against the text of the whole content.

- `classify_decode_throughFeed`: what stands behind the first line feed makes no difference, however
  little of a text it is.
- `inspect_eq_classify_decode`: a fixture is classified as its first 65536 octets are, and as its
  whole content is if that is no longer or has a line feed there.
-/

namespace Conformance.Marker

/-! ## §1 The octets up to the first line feed -/

theorem throughFeedOnto_append {xs : Bytes} (hxs : 0x0A ∉ xs) (done ys : Bytes) :
    throughFeedOnto done (xs ++ ys) = throughFeedOnto (xs.reverse ++ done) ys := by
  induction xs generalizing done with
  | nil => rfl
  | cons x xs ih =>
    have hx : x ≠ 0x0A := fun e => hxs (e ▸ List.mem_cons_self)
    rw [List.cons_append, throughFeedOnto, if_neg hx, ih fun h => hxs (List.mem_cons_of_mem x h)]
    simp

theorem throughFeed_of_no_feed {xs : Bytes} (hxs : 0x0A ∉ xs) : throughFeed xs = xs := by
  have h := throughFeedOnto_append hxs [] []
  rw [List.append_nil, List.append_nil] at h
  rw [throughFeed, h, throughFeedOnto, List.reverse_reverse]

theorem throughFeed_append_feed {xs : Bytes} (hxs : 0x0A ∉ xs) (ys : Bytes) :
    throughFeed (xs ++ 0x0A :: ys) = xs ++ [0x0A] := by
  rw [throughFeed, throughFeedOnto_append hxs, throughFeedOnto, if_pos rfl]
  simp

/-! ## §2 The first line of what was read -/

/-- The first line is read from the octets in front of the first line feed alone. -/
theorem first_decode_append_feed {xs : Bytes} (hxs : 0x0A ∉ xs) (ys : Bytes) :
    Line.first (Utf8.decode (xs ++ 0x0A :: ys)) = Line.dropReturn (Utf8.decode xs) := by
  rw [Utf8.decode_append_feed, Line.first_append_feed (Utf8.feed_notMem_decode hxs)]

/-- Two contents with the same octets in front of a first line feed are classified alike. -/
theorem classify_decode_append_feed (m : Marker) {xs : Bytes} (hxs : 0x0A ∉ xs) (ys zs : Bytes) :
    m.classify (Utf8.decode (xs ++ 0x0A :: ys)) = m.classify (Utf8.decode (xs ++ 0x0A :: zs)) := by
  rw [classify, classify, first_decode_append_feed hxs, first_decode_append_feed hxs]

theorem classify_decode_throughFeed (m : Marker) (bs : Bytes) :
    m.classify (Utf8.decode (throughFeed bs)) = m.classify (Utf8.decode bs) := by
  by_cases hbs : 0x0A ∈ bs
  · obtain ⟨xs, ys, rfl, hxs⟩ := List.eq_append_cons_of_mem hbs
    rw [throughFeed_append_feed hxs]
    exact m.classify_decode_append_feed hxs [] ys
  · rw [throughFeed_of_no_feed hbs]

/-- What is looked at is classified as the octets within the limit are. -/
theorem inspect_eq_classify_take (m : Marker) (content : Bytes) :
    m.inspect content = m.classify (Utf8.decode (content.take readLimit)) :=
  m.classify_decode_throughFeed (content.take readLimit)

/-- The limit makes no difference to a content that has a line feed in front of it. -/
theorem classify_decode_take (m : Marker) {content : Bytes} {n : Nat}
    (hfeed : 0x0A ∈ content.take n) :
    m.classify (Utf8.decode (content.take n)) = m.classify (Utf8.decode content) := by
  -- Up to its first line feed, the content is what the front of it is.
  obtain ⟨xs, ys, htake, hxs⟩ := List.eq_append_cons_of_mem hfeed
  have hcontent : content = xs ++ 0x0A :: (ys ++ content.drop n) := by
    rw [← List.cons_append, ← List.append_assoc, ← htake, List.take_append_drop]
  rw [htake, hcontent]
  exact m.classify_decode_append_feed hxs ys (ys ++ _)

/-! ## §3 Looking at the front and looking at the whole -/

/-- Looking at a fixture gives what its first 65536 octets say as a text, with one replacement
    character for every maximal part that is no text. If the whole content is no longer than that,
    or has a line feed among these octets, it gives what the whole content says. -/
theorem inspect_eq_classify_decode (m : Marker) (content : Bytes) :
    m.inspect content = m.classify (Utf8.decode (content.take (min content.length 65536))) ∧
      (content.length ≤ 65536 ∨ 0x0A ∈ content.take 65536 →
        m.inspect content = m.classify (Utf8.decode content)) ∧
      ∀ (bs : Bytes) (text : List Char), Utf8.decode bs = text ↔ Utf8.Lossy bs text := by
  refine ⟨?_, ?_, fun bs text => Utf8.lossy_iff.symm⟩
  · rw [inspect_eq_classify_take, Nat.min_comm, ← List.take_eq_take_min, readLimit]
  · rintro (hlength | hfeed)
    · rw [inspect_eq_classify_take, readLimit, List.take_of_length_le hlength]
    · rw [inspect_eq_classify_take, readLimit, m.classify_decode_take hfeed]

end Conformance.Marker
