import Mathlib.Data.List.Induction
import Mathlib.Logic.Relation
import Conformance.Proofs.Components

/-!
# Spellings of paths

A path can be spelled in many ways: with slashes repeated or put at the end, and with a `.` behind any
slash. Two paths are the same exactly if they are spellings of one another. A `.` at the front, a `..` and
the root make a difference, and so does every octet of a name, even where it makes none in the text of the
name.

The name of a fixture is what is found at the end of its path, behind the last slash, when slashes and `.`
there are passed over. It is the same for every spelling.

- `Shortens`: what can be left out of a path.
- `components_eq_iff`: paths with the same components are spellings of one another.
- `fileName?_eq_some_iff`: the name of a path, found from the back.
- `same_iff_respelled`: which fixtures are the same, and what they are called.
-/

namespace Conformance.Path

/-! ## §1 Spellings -/

/-- The octet of a `.`. -/
def dot : UInt8 := 0x2E

/-- What can be left out of a path: a slash behind a slash or at the end, and a `.` behind a slash. -/
inductive Shortens : Path → Path → Prop where
  | slash (front back : Path) : Shortens (front ++ slash :: slash :: back) (front ++ slash :: back)
  | lastSlash {front : Path} (some : front ≠ []) : Shortens (front ++ [slash]) front
  | dot (front back : Path) : Shortens (front ++ slash :: dot :: slash :: back) (front ++ slash :: back)
  | lastDot (front : Path) : Shortens (front ++ [slash, dot]) (front ++ [slash])

/-- Whether two paths are spellings of one another: they come from each other by leaving things out and
    putting them back. -/
def Respelled : Path → Path → Prop := Relation.EqvGen Shortens

theorem Respelled.trans {p q r : Path} (hpq : Respelled p q) (hqr : Respelled q r) : Respelled p r :=
  Relation.EqvGen.trans p q r hpq hqr

theorem Shortens.respelled {p q : Path} (h : Shortens p q) : Respelled p q := .rel p q h

theorem ofPiece?_eq_none_iff {piece : Bytes} :
    Component.ofPiece? piece = none ↔ piece = [] ∨ piece = [dot] := by
  unfold Component.ofPiece?
  split
  next h => exact iff_of_true rfl h
  next h =>
    refine iff_of_false ?_ h
    split <;> exact Option.some_ne_none _

/-- What is left out is no component. -/
theorem components_of_shortens {p q : Path} (h : Shortens p q) : components p = components q := by
  have hdot : (pieces [dot]).filterMap Component.ofPiece? = [] := by decide
  have hslash (front back : Path) (piece : Bytes)
      (hpiece : (pieces piece).filterMap Component.ofPiece? = []) :
      components (front ++ slash :: (piece ++ slash :: back)) = components (front ++ slash :: back) := by
    rw [components_append_slash, components_append_slash front back, pieces_append_slash,
      List.filterMap_append, hpiece, List.nil_append]
  cases h with
  | slash front back => exact hslash front back [] (by decide)
  | lastSlash some => exact components_append_slash_nil some
  | dot front back => exact hslash front back [dot] hdot
  | lastDot front =>
    show components (front ++ slash :: [dot]) = _
    rw [components_append_slash, hdot, List.append_nil]

theorem components_of_respelled {p q : Path} (h : Respelled p q) : components p = components q := by
  induction h with
  | rel _ _ h => exact components_of_shortens h
  | refl => rfl
  | symm _ _ _ ih => exact ih.symm
  | trans _ _ _ _ _ hpq hqr => exact hpq.trans hqr

/-! ## §2 Pieces behind slashes -/

/-- Pieces with a slash in front of each. -/
def behind (rest : List Bytes) : Path := rest.flatMap (slash :: ·)

theorem behind_cons (piece : Bytes) (rest : List Bytes) :
    behind (piece :: rest) = slash :: (piece ++ behind rest) := rfl

/-- A path is its pieces, with slashes between them. -/
theorem exists_pieces (p : Path) :
    ∃ first rest, pieces p = first :: rest ∧ p = first ++ behind rest ∧
      ∀ piece ∈ first :: rest, slash ∉ piece := by
  -- Over the length: what stands behind the first slash is shorter.
  induction hlength : p.length using Nat.strongRecOn generalizing p with
  | _ length ih =>
    by_cases hp : slash ∈ p
    · obtain ⟨front, back, rfl, hfront⟩ := List.eq_append_cons_of_mem hp
      have hshorter : back.length < length := by
        rw [← hlength, List.length_append, List.length_cons]
        omega
      obtain ⟨first, rest, hpieces, hback, hnone⟩ := ih _ hshorter back rfl
      refine ⟨front, first :: rest, ?_, ?_, ?_⟩
      · rw [pieces_append_slash, pieces_of_no_slash hfront, hpieces]
        rfl
      · rw [behind_cons, ← hback]
      · intro piece hpiece
        rcases List.mem_cons.mp hpiece with rfl | hpiece
        · exact hfront
        · exact hnone piece hpiece
    · refine ⟨p, [], pieces_of_no_slash hp, (List.append_nil p).symm, fun piece hpiece => ?_⟩
      rwa [List.mem_singleton.mp hpiece]

/-- A piece that is no component can be left out, if there is something in front of it or behind it. -/
theorem respelled_skip {piece : Bytes} (hpiece : piece = [] ∨ piece = [dot]) {front : Path}
    {rest : List Bytes} (hsome : front ≠ [] ∨ rest ≠ []) :
    Respelled (front ++ behind (piece :: rest)) (front ++ behind rest) := by
  cases rest with
  | cons next rest =>
    rcases hpiece with rfl | rfl
    · exact (Shortens.slash front (next ++ behind rest)).respelled
    · exact (Shortens.dot front (next ++ behind rest)).respelled
  | nil =>
    have hfront : front ≠ [] := hsome.resolve_right fun h => h rfl
    have hlast : Respelled (front ++ [slash]) (front ++ behind []) := by
      rw [behind, List.flatMap_nil, List.append_nil]
      exact (Shortens.lastSlash hfront).respelled
    rcases hpiece with rfl | rfl
    · exact hlast
    · exact (Shortens.lastDot front).respelled.trans hlast

/-! ## §3 The shortest spelling -/

/-- A component as it is spelled. The root is the slash behind it. -/
def Component.octets : Component → Bytes
  | .root => []
  | .current => [dot]
  | .parent => [dot, dot]
  | .name n => n

theorem octets_of_ofPiece? {piece : Bytes} {c : Component} (h : Component.ofPiece? piece = some c) :
    c.octets = piece := by
  unfold Component.ofPiece? at h
  split at h
  · cases h
  · split at h
    next hparent =>
      cases h
      exact hparent.symm
    next =>
      cases h
      rfl

/-- The shortest spelling of components. -/
def spell : List Component → Path
  | [] => []
  | [.root] => [slash]
  | c :: cs => c.octets ++ behind (cs.map Component.octets)

theorem spell_cons {c : Component} (hc : c ≠ .root) (cs : List Component) :
    spell (c :: cs) = c.octets ++ behind (cs.map Component.octets) := by
  cases c with
  | root => exact absurd rfl hc
  | current | parent | name => rfl

/-- Behind the front of a path, its components can be spelled as short as can be. -/
theorem respelled_rest {front : Path} (hfront : front ≠ []) (rest : List Bytes) :
    Respelled (front ++ behind rest)
      (front ++ behind ((rest.filterMap Component.ofPiece?).map Component.octets)) := by
  induction rest generalizing front with
  | nil => exact .refl _
  | cons piece rest ih =>
    cases hpiece : Component.ofPiece? piece with
    | none =>
      rw [List.filterMap_cons_none hpiece]
      exact (respelled_skip (ofPiece?_eq_none_iff.mp hpiece) (.inl hfront)).trans (ih hfront)
    | some c =>
      have hlonger : front ++ slash :: piece ≠ [] := List.append_ne_nil_of_left_ne_nil hfront _
      have hnext := ih hlonger
      rw [List.filterMap_cons_some hpiece, List.map_cons, octets_of_ofPiece? hpiece, behind_cons,
        behind_cons]
      simpa only [List.append_assoc, List.cons_append] using hnext

/-- So can those of a path that begins at the root. -/
theorem respelled_root (piece : Bytes) (rest : List Bytes) :
    Respelled (behind (piece :: rest))
      (spell (.root :: (piece :: rest).filterMap Component.ofPiece?)) := by
  induction rest generalizing piece with
  | nil =>
    cases hpiece : Component.ofPiece? piece with
    | some c =>
      rw [List.filterMap_cons_some hpiece, List.filterMap_nil, ← octets_of_ofPiece? hpiece]
      exact .refl _
    | none =>
      rw [List.filterMap_cons_none hpiece]
      rcases ofPiece?_eq_none_iff.mp hpiece with rfl | rfl
      · exact .refl _
      · exact (Shortens.lastDot []).respelled
  | cons next rest ih =>
    cases hpiece : Component.ofPiece? piece with
    | some c =>
      have hrest := respelled_rest (List.cons_ne_nil slash piece) (next :: rest)
      rw [List.filterMap_cons_some hpiece]
      have hspell : spell (.root :: c :: (next :: rest).filterMap Component.ofPiece?) =
          slash :: piece ++
            behind (((next :: rest).filterMap Component.ofPiece?).map Component.octets) := by
        rw [← octets_of_ofPiece? hpiece]
        rfl
      rw [hspell]
      exact hrest
    | none =>
      rw [List.filterMap_cons_none hpiece]
      have hskip : Respelled ([] ++ behind (piece :: next :: rest)) ([] ++ behind (next :: rest)) :=
        respelled_skip (ofPiece?_eq_none_iff.mp hpiece) (.inr (List.cons_ne_nil next rest))
      exact hskip.trans (ih next)

/-- The first piece of a path that does not begin at the root is a component, even if it is a `.`. -/
theorem exists_first {p : Path} {b : UInt8} {bs : Bytes} {rest : List Bytes}
    (hpieces : pieces p = (b :: bs) :: rest) (hp : p = b :: bs ++ behind rest) (hb : b ≠ slash) :
    ∃ c ≠ Component.root, c.octets = b :: bs ∧
      components p = c :: rest.filterMap Component.ofPiece? := by
  have hlead : lead p = if b :: bs = [dot] then [.current] else [] := by
    have hhead : (pieces (b :: (bs ++ behind rest))).head? = some (b :: bs) := by
      rw [← List.cons_append, ← hp, hpieces]
      rfl
    rw [hp, List.cons_append, lead, if_neg hb]
    simp only [hhead, Option.some.injEq]
    rfl
  rw [components_eq, hpieces, hlead]
  cases hpiece : Component.ofPiece? (b :: bs) with
  | none =>
    have hcurrent := (ofPiece?_eq_none_iff.mp hpiece).resolve_left (List.cons_ne_nil b bs)
    rw [if_pos hcurrent, List.filterMap_cons_none hpiece]
    exact ⟨.current, by decide, hcurrent.symm, rfl⟩
  | some c =>
    have hother : b :: bs ≠ [dot] := by
      intro h
      rw [h] at hpiece
      cases hpiece
    rw [if_neg hother, List.filterMap_cons_some hpiece]
    have hoctets := octets_of_ofPiece? hpiece
    refine ⟨c, ?_, hoctets, rfl⟩
    rintro rfl
    cases hoctets

/-- Every path is a spelling of its components. -/
theorem respelled_spell (p : Path) : Respelled p (spell (components p)) := by
  obtain ⟨first, rest, hpieces, hp, hnone⟩ := exists_pieces p
  cases first with
  | nil =>
    rw [components_eq, hpieces, hp]
    cases rest with
    | nil => exact .refl _
    | cons piece rest => exact respelled_root piece rest
  | cons b bs =>
    have hb : b ≠ slash := fun h => hnone (b :: bs) List.mem_cons_self (h ▸ List.mem_cons_self)
    obtain ⟨c, hc, hoctets, hcomponents⟩ := exists_first hpieces hp hb
    rw [hcomponents, spell_cons hc, hoctets, hp]
    exact respelled_rest (List.cons_ne_nil b bs) rest

/-- Paths have the same components exactly if they are spellings of one another. -/
theorem components_eq_iff {p q : Path} : components p = components q ↔ Respelled p q := by
  refine ⟨fun h => ?_, components_of_respelled⟩
  have hq := respelled_spell q
  rw [← h] at hq
  exact (respelled_spell p).trans (.symm _ _ hq)

/-! ## §4 Names, found from the back -/

/-- The name at the end of a path: what stands behind the last slash, when slashes and `.` at the end are
    passed over. -/
inductive EndsInName : Path → Bytes → Prop where
  | alone {n : Bytes} (name : IsEntryName n) : EndsInName n n
  | behind (dir : Path) {n : Bytes} (name : IsEntryName n) : EndsInName (dir ++ slash :: n) n
  | slash {p : Path} {n : Bytes} (before : EndsInName p n) : EndsInName (p ++ [slash]) n
  | dot {p : Path} {n : Bytes} (before : EndsInName p n) : EndsInName (p ++ [slash, dot]) n

theorem EndsInName.ne_nil {p : Path} {n : Bytes} (h : EndsInName p n) : p ≠ [] := by
  cases h with
  | alone name => exact name.ne_nil
  | behind | slash | dot => simp

theorem fileName?_congr {p q : Path} (h : components p = components q) :
    fileName? p = fileName? q := by
  rw [fileName?, fileName?, h]

theorem fileName?_append_slash {p : Path} (hp : p ≠ []) :
    fileName? (p ++ [slash]) = fileName? p :=
  fileName?_congr (components_append_slash_nil hp)

theorem fileName?_append_dot (p : Path) : fileName? (p ++ [slash, dot]) = fileName? (p ++ [slash]) :=
  fileName?_congr (components_of_shortens (.lastDot p))

/-- A name that is a component of a path is one that an entry can have. -/
theorem isEntryName_of_ofPiece? {piece n : Bytes} (hslash : slash ∉ piece)
    (h : Component.ofPiece? piece = some (.name n)) : piece = n ∧ IsEntryName n := by
  obtain rfl : n = piece := octets_of_ofPiece? h
  have hnone : ¬(n = [] ∨ n = [dot]) := by
    rw [← ofPiece?_eq_none_iff, h]
    exact Option.some_ne_none _
  refine ⟨rfl, fun hnil => hnone (.inl hnil), hslash, fun hdot => hnone (.inr hdot), ?_⟩
  rintro rfl
  cases h

theorem fileName?_of_components {p : Path} {cs : List Component} {c : Component}
    (h : components p = cs ++ [c]) {n : Bytes} : fileName? p = some n ↔ c = .name n := by
  rw [fileName?, h, List.getLast?_concat]
  cases c <;> simp

theorem endsInName_of_no_slash {p : Path} (hp : slash ∉ p) {n : Bytes} (h : fileName? p = some n) :
    EndsInName p n := by
  have hcomponents : components p = lead p ++ [p].filterMap Component.ofPiece? := by
    rw [components_eq, pieces_of_no_slash hp]
  cases hpiece : Component.ofPiece? p with
  | none => rcases ofPiece?_eq_none_iff.mp hpiece with rfl | rfl <;> cases h
  | some c =>
    rw [List.filterMap_cons_some hpiece, List.filterMap_nil] at hcomponents
    obtain rfl := (fileName?_of_components hcomponents).mp h
    obtain ⟨rfl, hname⟩ := isEntryName_of_ofPiece? hp hpiece
    exact .alone hname

/-- What stands behind the last slash is the name, unless it is passed over. -/
theorem endsInName_append {p : Path} {piece : Bytes} (hpiece : slash ∉ piece) {n : Bytes}
    (h : fileName? (p ++ slash :: piece) = some n)
    (before : fileName? p = some n → EndsInName p n) : EndsInName (p ++ slash :: piece) n := by
  cases hcomponent : Component.ofPiece? piece with
  | some c =>
    have hcomponents := components_append_slash p piece
    rw [pieces_of_no_slash hpiece, List.filterMap_cons_some hcomponent, List.filterMap_nil]
      at hcomponents
    obtain rfl := (fileName?_of_components hcomponents).mp h
    obtain ⟨rfl, hname⟩ := isEntryName_of_ofPiece? hpiece hcomponent
    exact .behind p hname
  | none =>
    -- Nothing but the root is left of a slash alone, and that has no name.
    have hslash : fileName? (p ++ [slash]) = some n → EndsInName p n := by
      intro hslash
      have hp : p ≠ [] := by
        rintro rfl
        cases hslash
      rw [fileName?_append_slash hp] at hslash
      exact before hslash
    rcases ofPiece?_eq_none_iff.mp hcomponent with rfl | rfl
    · exact .slash (hslash h)
    · rw [fileName?_append_dot] at h
      exact .dot (hslash h)

/-- The last component of a path is a name exactly if one is found from the back. -/
theorem fileName?_eq_some_iff {p : Path} {n : Bytes} : fileName? p = some n ↔ EndsInName p n := by
  constructor
  · obtain ⟨first, rest, -, rfl, hnone⟩ := exists_pieces p
    -- Over the pieces, the last one first.
    induction rest using List.reverseRecOn with
    | nil =>
      rw [behind, List.flatMap_nil, List.append_nil]
      exact endsInName_of_no_slash (hnone first List.mem_cons_self)
    | append_singleton rest piece ih =>
      have hlast : first ++ behind (rest ++ [piece]) = first ++ behind rest ++ slash :: piece := by
        rw [behind, List.flatMap_append, List.flatMap_singleton, List.append_assoc]
        rfl
      rw [hlast]
      intro h
      refine endsInName_append (hnone piece (by simp)) h (ih fun x hx => hnone x ?_)
      rw [← List.cons_append]
      exact List.mem_append_left _ hx
  · intro h
    induction h with
    | @alone n name =>
      have hcomponents : components n = [] ++ [.name n] := components_name name
      exact (fileName?_of_components hcomponents).mpr rfl
    | @behind dir n name =>
      have hcomponents := components_append_slash dir n
      rw [filterMap_pieces_name name] at hcomponents
      exact (fileName?_of_components hcomponents).mpr rfl
    | slash before ih => rwa [fileName?_append_slash before.ne_nil]
    | dot before ih => rwa [fileName?_append_dot, fileName?_append_slash before.ne_nil]

end Conformance.Path

namespace Conformance.Fixture

/-! ## §5 Fixtures -/

theorem same_iff {p q : Path} : same ⟨p⟩ ⟨q⟩ = true ↔ p.components = q.components := by
  -- The names follow from the paths, so they make no difference.
  have hname : p.components = q.components → name ⟨p⟩ = name ⟨q⟩ := by
    intro h
    rw [name, name, Path.fileName?_congr h]
  rw [same, Path.same, Bool.and_eq_true, decide_eq_true_eq, decide_eq_true_eq]
  exact and_iff_left_of_imp hname

/-- A fixture is called what is found at the end of its path, if a name is. -/
theorem name_cases (p : Path) :
    (∃ n, p.EndsInName n ∧ name ⟨p⟩ = Utf8.decodeString n) ∨
      (∀ n, ¬p.EndsInName n) ∧ name ⟨p⟩ = "" := by
  cases h : p.fileName? with
  | some n =>
    refine .inl ⟨n, Path.fileName?_eq_some_iff.mp h, ?_⟩
    simp only [name, h]
  | none =>
    refine .inr ⟨fun n hn => ?_, ?_⟩
    · rw [← Path.fileName?_eq_some_iff, h] at hn
      cases hn
    · simp only [name, h]

/-- Fixtures are the same exactly if their paths have the same components, which is so exactly if the
    paths are spellings of one another. Then they are called the same, so what they are called makes no
    difference to whether they are the same. A fixture is called what is found at the end of its path,
    and that of an entry of a directory what the entry is called. -/
theorem same_iff_respelled :
    (∀ p q : Path,
      (same ⟨p⟩ ⟨q⟩ = true ↔ p.components = q.components) ∧
        (p.components = q.components ↔ p.Respelled q) ∧
        (p.components = q.components → name ⟨p⟩ = name ⟨q⟩)) ∧
      Equivalence (fun f g : Fixture => same f g = true) ∧
      (∀ p : Path, (∃ n, p.EndsInName n ∧ name ⟨p⟩ = Utf8.decodeString n) ∨
        (∀ n, ¬p.EndsInName n) ∧ name ⟨p⟩ = "") ∧
      ∀ (dir : Path) (n : Bytes), Path.IsEntryName n →
        name ⟨dir.entry n⟩ = Utf8.decodeString n := by
  refine ⟨fun p q => ⟨same_iff, Path.components_eq_iff, fun h => ?_⟩, ⟨?_, ?_, ?_⟩, name_cases,
    fun dir n hn => name_entry dir hn⟩
  · exact of_decide_eq_true (Bool.and_eq_true_iff.mp (same_iff.mpr h)).2
  · exact fun f => same_iff.mpr rfl
  · exact fun h => same_iff.mpr (same_iff.mp h).symm
  · exact fun h h' => same_iff.mpr ((same_iff.mp h).trans (same_iff.mp h'))

/-- Two entries of a directory whose names are no text and look the same, and another spelling of the
    first. The fixtures of the entries are called the same, but they are not the same. -/
theorem same_iff_respelled_brokenNames :
    same ⟨Path.entry [0x2E, 0x2F, 0x64] [0xFF]⟩ ⟨[0x2E, 0x2F, 0x2F, 0x64, 0x2F, 0x2E, 0x2F, 0xFF, 0x2F]⟩
        = true ∧
      same ⟨Path.entry [0x2E, 0x2F, 0x64] [0xFF]⟩ ⟨Path.entry [0x64] [0xFF]⟩ = false ∧
      same ⟨Path.entry [0x64] [0xFF]⟩ ⟨Path.entry [0x64] [0xFE]⟩ = false ∧
      name ⟨Path.entry [0x64] [0xFF]⟩ = name ⟨Path.entry [0x64] [0xFE]⟩ := by
  obtain ⟨hpaths, -, -, hentry⟩ := same_iff_respelled
  refine ⟨(hpaths _ _).1.mpr (by decide), ?_, ?_, ?_⟩
  · exact Bool.eq_false_iff.mpr fun h => absurd ((hpaths _ _).1.mp h) (by decide)
  · exact Bool.eq_false_iff.mpr fun h => absurd ((hpaths _ _).1.mp h) (by decide)
  · rw [hentry _ _ (by decide), hentry _ _ (by decide)]
    decide

end Conformance.Fixture
