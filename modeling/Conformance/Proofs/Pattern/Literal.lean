import Mathlib.Data.List.Forall2
import Conformance.Pattern.Basic
import Conformance.Proofs.Pattern.Occurrence

/-!
# Quoted text as a pattern

A quoted text is read character by character: what has a meaning of its own is escaped, and an escape
is read as the character behind the backslash. So the pattern of a quoted text is the sequence of its
characters, and it is found exactly where the text is found.

- `Expr.parse_quote`: a quoted text is never refused, and stands for the sequence of its characters.
- `occursIn_of_compile_quote`: its pattern occurs exactly in the texts that the text is a part of.
-/

namespace Conformance.Pattern

/-! ## §1 Reading quoted text -/

/-- Characters without a meaning of their own are read as themselves. -/
theorem readPart_plain {c : Char} (hc : isMeta c = false) (p : Progress) :
    readPart c p = .ok { p with
      cursor := p.cursor.next
      items := .literal ⟨p.cursor.charSpan, .plain, c⟩ :: p.items } := by
  have hne : ∀ d, isMeta d = true → c ≠ d := by
    rintro d hd rfl
    exact Bool.false_ne_true (hc.symm.trans hd)
  have helement : readPart c p = readElement c p := by
    unfold readPart
    split <;> first | rfl | exact absurd rfl (hne _ (by decide))
  rw [helement]
  unfold readElement
  split <;> first | rfl | exact absurd rfl (hne _ (by decide))

/-- Escaped characters with a meaning of their own are read as themselves. -/
theorem readPart_escaped {c : Char} (hc : isMeta c = true) (pos : Nat) (rest : List Char)
    (names : List (List Char × Span)) (stack : List Frame) (start : Nat) (items : List Tree) :
    readPart '\\' ⟨⟨pos, '\\' :: c :: rest⟩, false, names, stack, start, items⟩
      = .ok ⟨⟨pos + 2, rest⟩, false, names, stack, start,
          .literal ⟨⟨pos, pos + 2⟩, .plain, c⟩ :: items⟩ := by
  have hescape : readEscape false ⟨pos, '\\' :: c :: rest⟩
      = .ok (.literal ⟨⟨pos, pos + 2⟩, .plain, c⟩, ⟨pos + 2, rest⟩) := by
    simp [readEscape, Cursor.next, Cursor.char?, hc]
  simp [readPart, readElement, hescape, Primitive.toTree, Bind.bind, Except.bind, Pure.pure,
    Except.pure]

/-- A single character that is written as itself or by an escape. -/
def IsPlain (c : Char) (t : Tree) : Prop := ∃ span, t = .literal ⟨span, .plain, c⟩

/-- What has been read of a pattern without groups, choices and flags. -/
def Progress.flat (pos : Nat) (rest : List Char) (items : List Tree) : Progress :=
  ⟨⟨pos, rest⟩, false, [], [], 0, items⟩

theorem quote_cons (c : Char) (cs : List Char) :
    quote (c :: cs) = if isMeta c then '\\' :: c :: quote cs else c :: quote cs := by
  rw [quote, List.flatMap_cons, ← quote]
  split <;> rfl

/-- Reading a quoted character adds one tree. -/
theorem readFrom_quote_cons (c : Char) (cs : List Char) (fuel pos : Nat) (items : List Tree) :
    ∃ stop t, IsPlain c t
      ∧ readFrom (fuel + 1) (.flat pos (quote (c :: cs)) items)
        = readFrom fuel (.flat stop (quote cs) (t :: items)) := by
  rw [quote_cons, readFrom]
  cases hc : isMeta c with
  | true =>
    refine ⟨pos + 2, .literal ⟨⟨pos, pos + 2⟩, .plain, c⟩, ⟨_, rfl⟩, ?_⟩
    simp [Progress.flat, Cursor.skipSpace, Cursor.char?, readPart_escaped hc]
  | false =>
    refine ⟨pos + 1, .literal ⟨⟨pos, pos + 1⟩, .plain, c⟩, ⟨_, rfl⟩, ?_⟩
    simp [Progress.flat, Cursor.skipSpace, Cursor.char?, Cursor.next, Cursor.charSpan,
      readPart_plain hc]

theorem length_le_length_quote (text : List Char) : text.length ≤ (quote text).length := by
  induction text with
  | nil => exact Nat.le_refl 0
  | cons c cs ih =>
    rw [quote_cons]
    split <;> simp only [List.length_cons] <;> omega

/-- Reading a quoted text adds one tree for each character. -/
theorem readFrom_quote (text : List Char) {fuel : Nat} (hfuel : text.length < fuel) (pos : Nat)
    (items : List Tree) :
    ∃ stop trees, List.Forall₂ IsPlain text trees
      ∧ readFrom fuel (.flat pos (quote text) items)
        = finish (.flat stop [] (trees.reverse ++ items)) := by
  obtain ⟨fuel, rfl⟩ : ∃ k, fuel = k + 1 := ⟨fuel - 1, by omega⟩
  induction text generalizing fuel pos items with
  | nil => exact ⟨pos, [], .nil, rfl⟩
  | cons c cs ih =>
    obtain ⟨fuel, rfl⟩ : ∃ k, fuel = k + 1 :=
      ⟨fuel - 1, by rw [List.length_cons] at hfuel; omega⟩
    obtain ⟨next, t, ht, hstep⟩ := readFrom_quote_cons c cs (fuel + 1) pos items
    obtain ⟨stop, trees, htrees, hread⟩ := ih next (t :: items) fuel (Nat.lt_of_succ_lt_succ hfuel)
    refine ⟨stop, t :: trees, .cons ht htrees, ?_⟩
    rw [hstep, hread, List.reverse_cons, List.append_assoc, List.singleton_append]

/-- The tree of a quoted text is the branch of its characters. -/
theorem readTree_quote (text : List Char) :
    ∃ stop trees, List.Forall₂ IsPlain text trees
      ∧ readTree (quote text) = .ok (branchTree 0 stop trees.reverse) := by
  obtain ⟨stop, trees, htrees, hread⟩ :=
    readFrom_quote text (Nat.lt_succ_of_le (length_le_length_quote text)) 0 []
  rw [List.append_nil] at hread
  exact ⟨stop, trees, htrees, hread⟩

/-! ## §2 The meaning of quoted text -/

theorem anyTooDeep?_plain {text : List Char} {trees : List Tree}
    (h : List.Forall₂ IsPlain text trees) (room : Nat) : Tree.anyTooDeep? room trees = none := by
  induction h with
  | nil => rfl
  | cons hhead _ ih =>
    obtain ⟨span, rfl⟩ := hhead
    simpa only [Tree.anyTooDeep?, Tree.tooDeep?] using ih

theorem literalExpr_plain (span : Span) (c : Char) :
    literalExpr .initial ⟨span, .plain, c⟩ = .ok (.char c) := rfl

theorem exprsOnto_plain {text : List Char} {trees : List Tree}
    (h : List.Forall₂ IsPlain text trees) (acc : List Expr) :
    Tree.exprsOnto acc .initial trees = .ok (acc.reverse ++ text.map .char, .initial) := by
  induction h generalizing acc with
  | nil => rw [Tree.exprsOnto, List.map_nil, List.append_nil]
  | cons hhead _ ih =>
    obtain ⟨span, rfl⟩ := hhead
    simp only [Tree.exprsOnto, Tree.expr, literalExpr_plain, ih, List.reverse_cons,
      List.append_assoc, List.singleton_append, List.map_cons]

theorem branchTree_of_two_le (start stop : Nat) {trees : List Tree} (h : 2 ≤ trees.length) :
    branchTree start stop trees = .concat ⟨start, stop⟩ trees.reverse := by
  unfold branchTree
  split
  · cases h
  · simp at h
  · rfl

theorem concat_chars (text : List Char) :
    Expr.concat (text.map .char) = .balanced text.length (text.map .char) := by
  have hfilter : (text.map Expr.char).filter (fun e => !e.isEmpty) = text.map .char :=
    List.filter_eq_self.mpr fun e he => by
      obtain ⟨c, -, rfl⟩ := List.mem_map.mp he
      rfl
  rw [Expr.concat, hfilter, List.length_map]

/-- A quoted text is never refused, and stands for the sequence of its characters. -/
theorem Expr.parse_quote (text : List Char) :
    Expr.parse (quote text) = .ok (.concat (text.map .char)) := by
  obtain ⟨stop, trees, htrees, hread⟩ := readTree_quote text
  have hparse : ∀ {t : Tree} {e : Expr}, readTree (quote text) = .ok t →
      t.tooDeep? nestLimit = none → t.expr .initial = .ok (e, .initial) →
      Expr.parse (quote text) = .ok e := by
    intro t e ht hdeep hexpr
    simp [Expr.parse, Tree.parse, ht, hdeep, hexpr, Bind.bind, Except.bind, Pure.pure, Except.pure]
  -- A branch is its only tree, or the sequence of its trees.
  match text, trees, htrees with
  | [], [], .nil => exact hparse hread rfl rfl
  | [c], [_], .cons ⟨span, rfl⟩ .nil => exact hparse hread rfl rfl
  | c :: d :: cs, t :: u :: ts, htrees =>
    rw [branchTree_of_two_le 0 stop (by simp), List.reverse_reverse] at hread
    refine hparse hread (anyTooDeep?_plain htrees 249) ?_
    simp only [Tree.expr, exprsOnto_plain htrees [], List.reverse_nil, List.nil_append,
      Bind.bind, Except.bind, Pure.pure, Except.pure]

/-! ## §3 Sequences of characters -/

/-- An expression that matches one text only, wherever it stands. -/
structure Expr.Spells (e : Expr) (text : List Char) : Prop where
  counted : e.Counted
  /-- Nothing but the text is matched. -/
  matches_iff : ∀ p w n, e.Matches p w n ↔ w = text
  /-- Nothing is matched inside of characters, so nothing of the expression is hidden there. -/
  visible : text ≠ [] → e.emptyInside = false

namespace Expr.Spells

theorem empty : Expr.Spells .empty [] :=
  ⟨trivial, fun _ _ _ => matches_empty_iff, fun h => absurd rfl h⟩

theorem char (c : Char) : Expr.Spells (.char c) [c] :=
  ⟨trivial, fun _ _ _ => matches_char_iff, fun _ => rfl⟩

theorem seq {a b : Expr} {s t : List Char} (ha : a.Spells s) (hb : b.Spells t) :
    Expr.Spells (.seq a b) (s ++ t) where
  counted := ⟨ha.counted, hb.counted⟩
  matches_iff p w n := by
    rw [matches_seq_iff]
    constructor
    · rintro ⟨u, v, rfl, hu, hv⟩
      rw [(ha.matches_iff _ _ _).mp hu, (hb.matches_iff _ _ _).mp hv]
    · rintro rfl
      exact ⟨s, t, rfl, (ha.matches_iff _ _ _).mpr rfl, (hb.matches_iff _ _ _).mpr rfl⟩
  visible hne := by
    rw [emptyInside, Bool.and_eq_false_iff]
    by_cases hs : s = []
    · exact .inr (hb.visible fun ht => hne (by rw [hs, ht]; rfl))
    · exact .inl (ha.visible hs)

theorem balanced {fuel : Nat} {text : List Char} (h : text.length ≤ fuel) :
    Expr.Spells (.balanced fuel (text.map .char)) text := by
  induction fuel generalizing text with
  | zero =>
    obtain rfl := List.length_eq_zero_iff.mp (Nat.le_zero.mp h)
    exact .empty
  | succ fuel ih =>
    match text, h with
    | [], _ => exact .empty
    | [c], _ => exact .char c
    | c :: d :: cs, h =>
      have hhalves : ∀ half, 0 < half → half < (c :: d :: cs).length →
          ((c :: d :: cs).take half).length ≤ fuel ∧ ((c :: d :: cs).drop half).length ≤ fuel := by
        intro half hpos hlt
        rw [List.length_take, List.length_drop]
        omega
      obtain ⟨hfront, hback⟩ := hhalves ((c :: d :: cs).length / 2)
        (by simp only [List.length_cons]; omega) (by simp only [List.length_cons]; omega)
      have hseq := (ih hfront).seq (ih hback)
      rw [List.take_append_drop, List.map_take, List.map_drop] at hseq
      simpa [Expr.balanced] using hseq

theorem concat (text : List Char) : Expr.Spells (.concat (text.map .char)) text := by
  rw [concat_chars]
  exact balanced (Nat.le_refl _)

/-- What spells a text is found exactly where the text is a part. -/
theorem occursIn_iff {e : Expr} {text : List Char} (he : e.Spells text) (t : List Char) :
    e.occursIn t = true ↔ text <:+: t := by
  rw [Expr.occursIn_iff he.counted]
  constructor
  · rintro ⟨before, w, after, rfl, hw⟩
    rw [(he.matches_iff _ _ _).mp hw]
    exact ⟨before, after, List.append_assoc _ _ _⟩
  · rintro ⟨before, after, rfl⟩
    exact ⟨before, text, after, List.append_assoc _ _ _, (he.matches_iff _ _ _).mpr rfl⟩

end Expr.Spells

theorem visiblePart_concat (text t : List Char) :
    (Expr.concat (text.map .char)).visiblePart t = .concat (text.map .char) := by
  rw [Expr.visiblePart]
  split
  next hinside =>
    cases text with
    | nil => rfl
    | cons c cs =>
      have hvisible := (Expr.Spells.concat (c :: cs)).visible (List.cons_ne_nil c cs)
      rw [hvisible] at hinside
      cases hinside
  next => rfl

/-- The pattern of a quoted text occurs exactly in the texts that the text is a part of. -/
theorem occursIn_of_compile_quote {text : List Char} {pattern : Pattern}
    (h : compile (quote text) = .ok pattern) (t : List Char) :
    pattern.occursIn t = true ↔ text <:+: t := by
  have hexpr : pattern = ⟨.concat (text.map .char)⟩ := by
    simp only [compile, Expr.parse_quote] at h
    split at h
    · cases h
    · exact (Except.ok.inj h).symm
  rw [hexpr, occursIn, visiblePart_concat]
  exact (Expr.Spells.concat text).occursIn_iff t

end Conformance.Pattern
