import Conformance.Filter

/-!
# Filtering

Which fixtures a filter lets through follows from which patterns it has: their order and how often they
stand in it make no difference. More patterns to exclude exclude more names, and more patterns to include
include more, except that no pattern at all includes everything. Where a pattern matches the names that
it occurs in, a part of it matches all of these names and may match others.

- `occurs_iff`, `accepts_iff`: what a pattern and a filter say of a name.
- `accepts_congr`, `accepts_append_excluded`, `accepts_append_included`: the same patterns, and more of them.
- `accepts_part_included`, `accepts_part_excluded`: a pattern and a part of it.
- `accepts_algebra`: the laws together, for every name.
-/

namespace Conformance.Filter

variable {name : String}

/-! ## §1 What a filter says -/

/-- A text occurs in another exactly if the other can be cut into what stands before it, the text, and
    what stands behind it. -/
theorem occurs_iff (part text : List Char) : occurs part text = true ↔ part <:+: text := by
  induction text with
  | nil => simp [occurs]
  | cons c cs ih =>
    rw [occurs, Bool.or_eq_true, ih, List.isPrefixOf_iff_prefix, List.infix_cons_iff]

theorem hitsAny_iff {f : Filter} {patterns : List String} :
    f.hitsAny name patterns = true ↔ ∃ p ∈ patterns, f.hits name p = true := List.any_eq_true

/-- A filter lets a name through if one of its patterns to include matches it, or if there are none, and
    none of its patterns to exclude does. Whether a pattern matches depends on no other pattern. -/
theorem accepts_iff {f : Filter} :
    f.accepts name = true ↔
      (f.included = [] ∨ ∃ p ∈ f.included, hits ⟨[], [], f.exact⟩ name p = true) ∧
        ∀ p ∈ f.excluded, ¬hits ⟨[], [], f.exact⟩ name p = true := by
  have hhits : f.hits = hits ⟨[], [], f.exact⟩ := rfl
  rw [accepts, Bool.and_eq_true, Bool.or_eq_true, List.isEmpty_iff, hitsAny_iff, Bool.not_eq_true',
    Bool.eq_false_iff, ne_eq, hitsAny_iff, hhits]
  simp

/-! ## §2 The same patterns -/

/-- Only which patterns there are makes a difference. -/
theorem accepts_congr {included included' excluded excluded' : List String} {exact : Bool}
    (hincluded : ∀ p, p ∈ included ↔ p ∈ included') (hexcluded : ∀ p, p ∈ excluded ↔ p ∈ excluded') :
    accepts ⟨included, excluded, exact⟩ name = accepts ⟨included', excluded', exact⟩ name := by
  -- Lists with the same members are empty together.
  have hempty : included = [] ↔ included' = [] := by
    simp only [List.eq_nil_iff_forall_not_mem, hincluded]
  rw [Bool.eq_iff_iff, accepts_iff, accepts_iff]
  simp only [hempty, hincluded, hexcluded]

/-! ## §3 More patterns -/

/-- A name that is to pass two lists of patterns to exclude has to pass each of them. -/
theorem accepts_append_excluded (included first second : List String) (exact : Bool) :
    accepts ⟨included, first ++ second, exact⟩ name =
      (accepts ⟨included, first, exact⟩ name && accepts ⟨included, second, exact⟩ name) := by
  rw [Bool.eq_iff_iff, Bool.and_eq_true, accepts_iff, accepts_iff, accepts_iff]
  simp only [List.forall_mem_append]
  constructor
  · rintro ⟨hincluded, hpassed, hpassed'⟩
    exact ⟨⟨hincluded, hpassed⟩, hincluded, hpassed'⟩
  · rintro ⟨⟨hincluded, hpassed⟩, -, hpassed'⟩
    exact ⟨hincluded, hpassed, hpassed'⟩

/-- Of two lists of patterns to include, a name has to match one, if there are patterns in both: an empty
    one would let every name through by itself, and adds nothing to the other. -/
theorem accepts_append_included {first second : List String} (hfirst : first ≠ [])
    (hsecond : second ≠ []) (excluded : List String) (exact : Bool) :
    accepts ⟨first ++ second, excluded, exact⟩ name =
      (accepts ⟨first, excluded, exact⟩ name || accepts ⟨second, excluded, exact⟩ name) := by
  rw [Bool.eq_iff_iff, Bool.or_eq_true, accepts_iff, accepts_iff, accepts_iff, ← or_and_right]
  simp only [List.append_eq_nil_iff, hfirst, hsecond, false_and, false_or, List.mem_append,
    or_and_right, exists_or]

/-! ## §4 Parts of patterns -/

/-- A part of a pattern occurs wherever the pattern does. -/
theorem hits_of_part {f : Filter} {p part : String} (hsubstring : f.exact = false)
    (hpart : part.toList <:+: p.toList) (hits : f.hits name p = true) : f.hits name part = true := by
  simp only [Filter.hits, hsubstring, Bool.false_eq_true, if_false, occurs_iff] at hits ⊢
  exact hpart.trans hits

theorem exists_hit_replace {f : Filter} {before behind : List String} {p : String} (part : String)
    (himplies : f.hits name p = true → f.hits name part = true)
    (hit : ∃ q ∈ before ++ p :: behind, f.hits name q = true) :
    ∃ q ∈ before ++ part :: behind, f.hits name q = true := by
  obtain ⟨q, hmem, hq⟩ := hit
  rcases List.mem_append.mp hmem with hbefore | hmem
  · exact ⟨q, List.mem_append_left _ hbefore, hq⟩
  · rcases List.mem_cons.mp hmem with rfl | hbehind
    · exact ⟨part, List.mem_append_right _ List.mem_cons_self, himplies hq⟩
    · exact ⟨q, List.mem_append_right _ (List.mem_cons_of_mem _ hbehind), hq⟩

/-- A name that is included stays so when a pattern gives way to a part of it. -/
theorem accepts_part_included {before behind excluded : List String} {p part : String}
    (hpart : part.toList <:+: p.toList)
    (haccepts : accepts ⟨before ++ p :: behind, excluded, false⟩ name = true) :
    accepts ⟨before ++ part :: behind, excluded, false⟩ name = true := by
  obtain ⟨hincluded, hexcluded⟩ := accepts_iff.mp haccepts
  refine accepts_iff.mpr ⟨.inr ?_, hexcluded⟩
  have hhit := hincluded.resolve_left (by simp)
  exact exists_hit_replace part (hits_of_part rfl hpart) hhit

/-- A name that is excluded stays so when a pattern gives way to a part of it. -/
theorem accepts_part_excluded {before behind included : List String} {p part : String}
    (hpart : part.toList <:+: p.toList)
    (hrefuses : accepts ⟨included, before ++ p :: behind, false⟩ name = false) :
    accepts ⟨included, before ++ part :: behind, false⟩ name = false := by
  rw [Bool.eq_false_iff] at hrefuses ⊢
  intro haccepts
  obtain ⟨hincluded, hexcluded⟩ := accepts_iff.mp haccepts
  refine hrefuses (accepts_iff.mpr ⟨hincluded, fun q hmem hq => ?_⟩)
  obtain ⟨q', hmem', hq'⟩ := exists_hit_replace part (hits_of_part rfl hpart) ⟨q, hmem, hq⟩
  exact hexcluded q' hmem' hq'

/-! ## §5 Every name -/

/-- Whatever the name is, what a filter says of it depends on the patterns that there are and on nothing
    else about the lists; excluding two lists is excluding the one and excluding the other; including two
    lists, neither of which is empty, is including the one or including the other; and where patterns
    match what they occur in, a part of a pattern in its place includes whatever the pattern includes and
    excludes whatever it excludes. -/
theorem accepts_algebra (name : String) (exact : Bool) :
    (∀ included included' excluded excluded' : List String,
      (∀ p, p ∈ included ↔ p ∈ included') → (∀ p, p ∈ excluded ↔ p ∈ excluded') →
        accepts ⟨included, excluded, exact⟩ name = accepts ⟨included', excluded', exact⟩ name) ∧
    (∀ included first second : List String,
      accepts ⟨included, first ++ second, exact⟩ name =
        (accepts ⟨included, first, exact⟩ name && accepts ⟨included, second, exact⟩ name)) ∧
    (∀ first second excluded : List String, first ≠ [] → second ≠ [] →
      accepts ⟨first ++ second, excluded, exact⟩ name =
        (accepts ⟨first, excluded, exact⟩ name || accepts ⟨second, excluded, exact⟩ name)) ∧
    ∀ (before behind others : List String) (p part : String), part.toList <:+: p.toList →
      (accepts ⟨before ++ p :: behind, others, false⟩ name = true →
        accepts ⟨before ++ part :: behind, others, false⟩ name = true) ∧
      (accepts ⟨others, before ++ p :: behind, false⟩ name = false →
        accepts ⟨others, before ++ part :: behind, false⟩ name = false) := by
  refine ⟨?_, ?_, ?_, ?_⟩
  · intro included included' excluded excluded' hincluded hexcluded
    exact accepts_congr hincluded hexcluded
  · intro included first second
    exact accepts_append_excluded included first second exact
  · intro first second excluded hfirst hsecond
    exact accepts_append_included hfirst hsecond excluded exact
  · intro before behind others p part hpart
    exact ⟨accepts_part_included hpart, accepts_part_excluded hpart⟩

/-- The laws at work: patterns in another order and repeated, two lists to include, and a part of a
    pattern on either side. -/
theorem accepts_algebra_nestedLoop :
    accepts ⟨["loop", "let", "loop"], ["while"], false⟩ "nested_loop.gaya" =
      accepts ⟨["let", "loop"], ["while", "while"], false⟩ "nested_loop.gaya" ∧
    accepts ⟨["let"] ++ ["loop"], [], false⟩ "nested_loop.gaya" = true ∧
    accepts ⟨["let"] ++ "loop" :: [], ["while"], false⟩ "nested_loop.gaya" = true ∧
    accepts ⟨["loop"], ["let"] ++ "" :: [], false⟩ "nested_loop.gaya" = false := by
  obtain ⟨hsame, -, heither, hpart⟩ := accepts_algebra "nested_loop.gaya" false
  have hloop : "loop".toList <:+: "nested_loop".toList := (occurs_iff _ _).mp (by decide +kernel)
  refine ⟨hsame _ _ _ _ (by simp) (by simp), ?_, ?_, ?_⟩
  · rw [heither ["let"] ["loop"] [] (by simp) (by simp)]
    decide +kernel
  · exact (hpart ["let"] [] ["while"] "nested_loop" "loop" hloop).1 (by decide +kernel)
  · exact (hpart ["let"] [] ["loop"] "nested" "" (by simp)).2 (by decide +kernel)

end Conformance.Filter
