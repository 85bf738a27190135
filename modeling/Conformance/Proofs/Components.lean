import Conformance.Fixture

/-!
# Components of paths

A path is cut into pieces at its slashes, so the path of an entry has the components of the directory
and behind them the name of the entry, however the directory is written. The name of a fixture is
therefore what its entry is called, and entries of one directory are ordered by their names.

- `components_entry`: the components of the path of an entry.
- `compare_entry`: the paths of two entries are ordered as their names are.
-/

namespace Conformance.Path

/-! ## §1 Pieces -/

/-- A name that an entry of a directory can have. -/
structure IsEntryName (n : Bytes) : Prop where
  ne_nil : n ≠ []
  no_slash : slash ∉ n
  ne_current : n ≠ [0x2E]
  ne_parent : n ≠ [0x2E, 0x2E]

instance (n : Bytes) : Decidable (IsEntryName n) :=
  decidable_of_iff (n ≠ [] ∧ slash ∉ n ∧ n ≠ [0x2E] ∧ n ≠ [0x2E, 0x2E])
    ⟨fun ⟨h₁, h₂, h₃, h₄⟩ => ⟨h₁, h₂, h₃, h₄⟩,
      fun h => ⟨h.ne_nil, h.no_slash, h.ne_current, h.ne_parent⟩⟩

/-- The finished pieces stand in front of what comes. -/
theorem piecesOnto_eq (done : List Bytes) (piece : Bytes) (p : Path) :
    piecesOnto done piece p = done.reverse ++ piecesOnto [] piece p := by
  induction p generalizing done piece with
  | nil => simp [piecesOnto]
  | cons b bs ih =>
    rw [piecesOnto, piecesOnto]
    split
    · rw [ih (piece.reverse :: done), ih [piece.reverse]]
      simp
    · exact ih done (b :: piece)

theorem piecesOnto_append_slash (piece : Bytes) (p q : Path) :
    piecesOnto [] piece (p ++ slash :: q) = piecesOnto [] piece p ++ pieces q := by
  induction p generalizing piece with
  | nil =>
    have hslash : piecesOnto [] piece (slash :: q) = piecesOnto [piece.reverse] [] q := if_pos rfl
    rw [List.nil_append, hslash, piecesOnto_eq]
    rfl
  | cons b bs ih =>
    rw [List.cons_append, piecesOnto, piecesOnto]
    split
    · rw [piecesOnto_eq, piecesOnto_eq [piece.reverse], ih, List.append_assoc]
    · exact ih (b :: piece)

/-- A slash ends a piece. -/
theorem pieces_append_slash (p q : Path) : pieces (p ++ slash :: q) = pieces p ++ pieces q :=
  piecesOnto_append_slash [] p q

theorem piecesOnto_of_no_slash {n : Bytes} (hn : slash ∉ n) (piece : Bytes) :
    piecesOnto [] piece n = [piece.reverse ++ n] := by
  induction n generalizing piece with
  | nil => simp [piecesOnto]
  | cons b bs ih =>
    have hb : b ≠ slash := fun h => hn (h ▸ List.mem_cons_self)
    rw [piecesOnto, if_neg hb, ih fun h => hn (List.mem_cons_of_mem b h)]
    simp

theorem pieces_of_no_slash {n : Bytes} (hn : slash ∉ n) : pieces n = [n] :=
  piecesOnto_of_no_slash hn []

theorem pieces_ne_nil (p : Path) : pieces p ≠ [] := by
  by_cases hp : slash ∈ p
  · obtain ⟨xs, ys, rfl, hxs⟩ := List.eq_append_cons_of_mem hp
    rw [pieces_append_slash, pieces_of_no_slash hxs]
    exact List.cons_ne_nil _ _
  · rw [pieces_of_no_slash hp]
    exact List.cons_ne_nil _ _

/-! ## §2 The components of an entry -/

/-- The component that only the front of a path can have. -/
def lead : Path → List Component
  | [] => []
  | b :: bs =>
    if b = slash then [.root]
    else if (pieces (b :: bs)).head? = some [0x2E] then [.current]
    else []

theorem components_eq (p : Path) :
    components p = lead p ++ (pieces p).filterMap Component.ofPiece? := by
  cases p with
  | nil => rfl
  | cons b bs =>
    simp only [components, lead]
    split
    · rfl
    · split <;> rfl

/-- What follows a slash does not change the front of a path. -/
theorem lead_append_slash {p : Path} (hp : p ≠ []) (q : Path) : lead (p ++ slash :: q) = lead p := by
  obtain ⟨b, bs, rfl⟩ := List.exists_cons_of_ne_nil hp
  have hhead : (pieces (b :: (bs ++ slash :: q))).head? = (pieces (b :: bs)).head? := by
    rw [← List.cons_append, pieces_append_slash, List.head?_append,
      List.head?_eq_some_head (pieces_ne_nil _)]
    rfl
  rw [List.cons_append, lead, lead, hhead]

/-- A slash at the end of a path counts for nothing. -/
theorem components_append_slash_nil {p : Path} (hp : p ≠ []) :
    components (p ++ [slash]) = components p := by
  have hnone : (pieces []).filterMap Component.ofPiece? = [] := rfl
  rw [components_eq, components_eq p, lead_append_slash hp, pieces_append_slash,
    List.filterMap_append, hnone, List.append_nil]

/-- The pieces behind a slash are components behind those in front of it. -/
theorem components_append_slash (p q : Path) :
    components (p ++ slash :: q)
      = components (p ++ [slash]) ++ (pieces q).filterMap Component.ofPiece? := by
  by_cases hp : p = []
  · subst hp
    rw [components_eq, List.nil_append, List.nil_append, ← List.nil_append (slash :: q),
      pieces_append_slash]
    rfl
  · rw [components_append_slash_nil hp, components_eq, components_eq p, lead_append_slash hp,
      pieces_append_slash, List.filterMap_append, List.append_assoc]

theorem filterMap_pieces_name {n : Bytes} (hn : IsEntryName n) :
    (pieces n).filterMap Component.ofPiece? = [.name n] := by
  have hofPiece : Component.ofPiece? n = some (.name n) := by
    rw [Component.ofPiece?, if_neg (not_or.mpr ⟨hn.ne_nil, hn.ne_current⟩), if_neg hn.ne_parent]
  rw [pieces_of_no_slash hn.no_slash, List.filterMap_cons_some hofPiece]
  rfl

theorem components_name {n : Bytes} (hn : IsEntryName n) : components n = [.name n] := by
  obtain ⟨b, bs, hb⟩ := List.exists_cons_of_ne_nil hn.ne_nil
  have hlead : lead n = [] := by
    have hslash : b ≠ slash := fun h => hn.no_slash (hb ▸ h ▸ List.mem_cons_self)
    have hcurrent : (pieces n).head? ≠ some [0x2E] := by
      rw [pieces_of_no_slash hn.no_slash]
      exact fun h => hn.ne_current (Option.some.inj h)
    rw [hb] at hcurrent ⊢
    rw [lead, if_neg hslash, if_neg hcurrent]
  rw [components_eq, hlead, filterMap_pieces_name hn]
  rfl

/-- The path of an entry has the components of the directory and then the name of the entry. -/
theorem components_entry (dir : Path) {n : Bytes} (hn : IsEntryName n) :
    components (dir.entry n) = components dir ++ [.name n] := by
  rw [entry]
  split
  next hlast =>
    rw [List.getLast?_eq_none_iff.mp hlast]
    exact components_name hn
  next b hlast =>
    obtain ⟨front, rfl⟩ := List.getLast?_eq_some_iff.mp hlast
    -- A slash is there already, or one is put behind the directory.
    split
    next hslash =>
      rw [hslash, List.append_assoc, List.singleton_append, components_append_slash,
        filterMap_pieces_name hn]
    next =>
      rw [components_append_slash, components_append_slash_nil (List.append_ne_nil_of_right_ne_nil
        front (List.cons_ne_nil b [])), filterMap_pieces_name hn]

theorem fileName?_entry (dir : Path) {n : Bytes} (hn : IsEntryName n) :
    fileName? (dir.entry n) = some n := by
  rw [fileName?, components_entry dir hn, List.getLast?_append]
  rfl

/-! ## §3 The order of entries -/

/-- The order of octet sequences is the order of lists of octets. -/
theorem compareOctets_eq (a b : Bytes) :
    compareOctets a b = if a < b then .lt else if b < a then .gt else .eq := by
  induction a generalizing b with
  | nil => cases b <;> simp [compareOctets]
  | cons x xs ih =>
    cases b with
    | nil => simp [compareOctets]
    | cons y ys =>
      rw [compareOctets, ih]
      simp only [List.cons_lt_cons_iff]
      by_cases hlt : x < y
      · simp [hlt]
      by_cases hgt : y < x
      · have hne : x ≠ y := UInt8.ne_of_lt hgt |>.symm
        simp [hlt, hgt, hne]
      · have heq : x = y := UInt8.le_antisymm (UInt8.not_lt.mp hgt) (UInt8.not_lt.mp hlt)
        simp [heq, UInt8.lt_irrefl]

theorem compare_self (c : Component) : c.compare c = .eq := by
  cases c with
  | name n =>
    have hirrefl : ¬n < n := List.lt_irrefl n
    rw [Component.compare, compareOctets_eq, if_neg hirrefl, if_neg hirrefl]
  | root | current | parent => rfl

/-- What two paths share at the front does not count. -/
theorem compareComponents_append (cs as bs : List Component) :
    compareComponents (cs ++ as) (cs ++ bs) = compareComponents as bs := by
  induction cs with
  | nil => rfl
  | cons c cs ih => simpa only [List.cons_append, compareComponents, compare_self] using ih

/-- The paths of two entries are ordered as their names are. -/
theorem compare_entry (dir : Path) {a b : Bytes} (ha : IsEntryName a) (hb : IsEntryName b) :
    compare (dir.entry a) (dir.entry b) = compareOctets a b := by
  rw [compare, components_entry dir ha, components_entry dir hb, compareComponents_append,
    compareComponents, Component.compare]
  cases compareOctets a b <;> rfl

end Conformance.Path

namespace Conformance.Fixture

/-- The name of the fixture of an entry is what the entry is called. -/
theorem name_entry (dir : Path) {n : Bytes} (hn : Path.IsEntryName n) :
    Fixture.name ⟨dir.entry n⟩ = Utf8.decodeString n := by
  rw [Fixture.name, Path.fileName?_entry dir hn]

end Conformance.Fixture
