import Conformance.Discovery
import Conformance.Proofs.Components

/-!
# Listings

A directory can be listed in any order. Its fixtures are told from the other entries one by one, and
they are ordered by path; as the paths of entries are ordered like their names and no two names are the
same, there is only one such order. So what is discovered does not depend on the listing.

- `isFixture_iff`: which entries are fixtures.
- `fixturesOf_eq`: the fixtures are those of the kept entries, in the order of their names.
- `discover_canonical`: what is discovered, from any listing of the same entries.
-/

namespace Conformance.Discovery

/-- What a directory can be listed as: the entries have names of their own. -/
structure IsListing (entries : List DirEntry) : Prop where
  named : ∀ e ∈ entries, Path.IsEntryName e.name
  distinct : (entries.map (·.name)).Nodup

theorem IsListing.of_perm {entries entries' : List DirEntry} (h : IsListing entries)
    (hperm : entries'.Perm entries) : IsListing entries' where
  named e he := h.named e (hperm.mem_iff.mp he)
  distinct := (hperm.map _).nodup_iff.mpr h.distinct

/-! ## §1 Which entries are fixtures -/

theorem hasExtension_iff (extension name : String) :
    hasExtension extension name = true ↔ extension.toList <:+ name.toList := by
  rw [hasExtension, List.isPrefixOf_iff_prefix, List.reverse_prefix]

/-- An entry is a fixture if its name, as text, ends with the extension, and it is a file or cannot
    be examined. -/
theorem isFixture_iff (extension : String) (e : DirEntry) :
    isFixture extension e = true
      ↔ extension.toList <:+ (Utf8.decodeString e.name).toList
        ∧ (e.target = .regular ∨ ∃ err, e.target = .unknown err) := by
  rw [isFixture, Bool.and_eq_true, hasExtension_iff]
  refine and_congr_right fun _ => ?_
  cases e.target <;> simp

/-! ## §2 The order of fixtures -/

/-- Whether an entry is not behind another one in the order of names. -/
def byName (a b : DirEntry) : Bool := decide (a.name ≤ b.name)

/-- The fixtures of two entries are ordered as the entries are. -/
theorem before_entry (dir : Path) {a b : DirEntry} (ha : Path.IsEntryName a.name)
    (hb : Path.IsEntryName b.name) :
    before ⟨dir.entry a.name⟩ ⟨dir.entry b.name⟩ = byName a b := by
  rw [before, byName, Path.compare_entry dir ha hb, Path.compareOctets_eq, Bool.eq_iff_iff,
    decide_eq_true_iff, ← List.not_lt]
  by_cases hlt : a.name < b.name
  · simp [hlt, List.lt_asymm hlt]
  · by_cases hgt : b.name < a.name <;> simp [hlt, hgt]

/-- The entries that are fixtures, in the order of their names. -/
def kept (extension : String) (entries : List DirEntry) : List DirEntry :=
  (entries.filter (isFixture extension)).mergeSort byName

theorem mem_kept {extension : String} {entries : List DirEntry} {e : DirEntry} :
    e ∈ kept extension entries ↔ e ∈ entries ∧ isFixture extension e = true := by
  rw [kept, (List.mergeSort_perm _ _).mem_iff, List.mem_filter]

theorem kept_sorted (extension : String) (entries : List DirEntry) :
    (kept extension entries).Pairwise fun a b => a.name ≤ b.name := by
  have htrans : ∀ a b c : DirEntry, byName a b = true → byName b c = true → byName a c = true := by
    simp only [byName, decide_eq_true_eq]
    exact fun a b c => List.le_trans
  have htotal : ∀ a b : DirEntry, (byName a b || byName b a) = true := by
    simp only [byName, Bool.or_eq_true, decide_eq_true_eq]
    exact fun a b => List.le_total a.name b.name
  exact (List.pairwise_mergeSort htrans htotal _).imp of_decide_eq_true

/-- No two fixtures have the same name, so each is strictly before the next. -/
theorem kept_increasing (extension : String) {entries : List DirEntry} (h : IsListing entries) :
    (kept extension entries).Pairwise fun a b => a.name < b.name := by
  have hdistinct : (kept extension entries).Pairwise fun a b => a.name ≠ b.name := by
    have hnames : ((kept extension entries).map (·.name)).Nodup :=
      ((List.mergeSort_perm _ _).map _).nodup_iff.mpr
        (h.distinct.sublist (List.filter_sublist.map _))
    exact List.pairwise_map.mp hnames
  exact ((kept_sorted extension entries).and hdistinct).imp fun ⟨hle, hne⟩ =>
    Std.lt_of_le_of_ne hle hne

/-- The order of a listing makes no difference. -/
theorem kept_of_perm (extension : String) {entries entries' : List DirEntry} (h : IsListing entries)
    (hperm : entries'.Perm entries) : kept extension entries' = kept extension entries := by
  have hkept : (kept extension entries').Perm (kept extension entries) :=
    ((List.mergeSort_perm _ _).trans (hperm.filter _)).trans (List.mergeSort_perm _ _).symm
  refine hkept.eq_of_pairwise (fun a b _ _ hab hba => ?_) (kept_increasing extension (h.of_perm hperm))
    (kept_increasing extension h)
  exact absurd hba (List.lt_asymm hab)

theorem fixturesOf_eq (dir : Path) (extension : String) {entries : List DirEntry}
    (h : IsListing entries) :
    fixturesOf dir extension entries
      = (kept extension entries).map fun e => ⟨dir.entry e.name⟩ := by
  refine (List.map_mergeSort fun a ha b hb => ?_).symm
  exact (before_entry dir (h.named a (List.mem_filter.mp ha).1)
    (h.named b (List.mem_filter.mp hb).1)).symm

/-! ## §3 What is discovered -/

theorem discover_of_list {host : Host} {dir : Path} {entries : List DirEntry}
    (hlist : host.list dir = .ok entries) (extension : String) :
    discover host dir extension = .ok (fixturesOf dir extension entries) := by
  rw [discover, hlist]

/-- No fixture is discovered twice. -/
theorem nodup_fixturesOf (dir : Path) (extension : String) {entries : List DirEntry}
    (h : IsListing entries) : (fixturesOf dir extension entries).Nodup := by
  have hnamed : ∀ e ∈ kept extension entries, Path.IsEntryName e.name :=
    fun e he => h.named e (mem_kept.mp he).1
  rw [fixturesOf_eq dir extension h, List.Nodup, List.pairwise_map]
  refine List.Pairwise.imp_of_mem (fun {a b} ha hb hlt heq => ?_) (kept_increasing extension h)
  -- Paths of entries that are the same end with the same name.
  have hname := congrArg (fun f : Fixture => Path.fileName? f.path) heq
  simp only [Path.fileName?_entry dir (hnamed a ha), Path.fileName?_entry dir (hnamed b hb),
    Option.some.injEq] at hname
  exact absurd (hname ▸ hlt) (List.lt_irrefl _)

/-- What is discovered are the entries whose names end with the extension and that are files or cannot
    be examined: one fixture for each of them, named like it, in the strict order of the octets of
    their names. Any other listing of the same entries gives the same. -/
theorem discover_canonical (host : Host) (dir : Path) (extension : String) (entries : List DirEntry)
    (hlist : host.list dir = .ok entries) (hentries : IsListing entries) :
    ∃ kept : List DirEntry,
      discover host dir extension = .ok (kept.map fun e => ⟨dir.entry e.name⟩)
      ∧ (∀ e, e ∈ kept ↔ e ∈ entries
          ∧ extension.toList <:+ (Utf8.decodeString e.name).toList
          ∧ (e.target = .regular ∨ ∃ err, e.target = .unknown err))
      ∧ kept.Pairwise (fun a b => a.name < b.name)
      ∧ (∀ e ∈ kept, Fixture.name ⟨dir.entry e.name⟩ = Utf8.decodeString e.name)
      ∧ ∀ (host' : Host) (entries' : List DirEntry), host'.list dir = .ok entries' →
          entries'.Perm entries → discover host' dir extension = discover host dir extension := by
  refine ⟨kept extension entries, ?_, fun e => ?_, kept_increasing extension hentries,
    fun e he => ?_, fun host' entries' hlist' hperm => ?_⟩
  · rw [discover_of_list hlist, fixturesOf_eq dir extension hentries]
  · rw [mem_kept, isFixture_iff]
  · exact Fixture.name_entry dir (hentries.named e (mem_kept.mp he).1)
  · rw [discover_of_list hlist', discover_of_list hlist, fixturesOf_eq dir extension hentries,
      fixturesOf_eq dir extension (hentries.of_perm hperm), kept_of_perm extension hentries hperm]

/-- A directory of two entries whose names are the same as text, one of them a link that leads nowhere,
    and of a directory. -/
def sameAsText : Host where
  list _ := .ok [⟨[0xFF, 0x2E, 0x67], .regular⟩, ⟨[0x61, 0x2E, 0x67], .directory⟩,
    ⟨[0xFE, 0x2E, 0x67], .unknown (.system .noEntry)⟩]
  read _ := .error (.system .noEntry)

/-- Both are discovered, by the order of their octets, and the directory is not. -/
theorem discover_canonical_sameAsText :
    discover sameAsText [0x2F] ".g"
      = .ok [⟨[0x2F, 0xFE, 0x2E, 0x67]⟩, ⟨[0x2F, 0xFF, 0x2E, 0x67]⟩] := by
  have hlisting : IsListing [⟨[0xFF, 0x2E, 0x67], .regular⟩, ⟨[0x61, 0x2E, 0x67], .directory⟩,
      ⟨[0xFE, 0x2E, 0x67], .unknown (.system .noEntry)⟩] := ⟨by decide, by decide⟩
  obtain ⟨kept, hdiscover, hmem, hincreasing, -, -⟩ :=
    discover_canonical sameAsText [0x2F] ".g" _ rfl hlisting
  have hdistinct : kept.Nodup := by
    refine List.Pairwise.imp ?_ hincreasing
    rintro a _ hlt rfl
    exact List.lt_irrefl _ hlt
  have hperm : kept.Perm [⟨[0xFE, 0x2E, 0x67], .unknown (.system .noEntry)⟩,
      ⟨[0xFF, 0x2E, 0x67], .regular⟩] := by
    refine (List.perm_ext_iff_of_nodup hdistinct (by decide)).mpr fun e => ?_
    rw [hmem, ← isFixture_iff, ← List.mem_filter,
      ← (List.Perm.swap _ _ []).mem_iff (a := e)]
    exact iff_of_eq (congrArg (e ∈ ·) (by decide))
  have hkept := hperm.eq_of_pairwise (fun _ _ _ _ hab hba => absurd hba (List.lt_asymm hab))
    hincreasing (by decide)
  rw [hdiscover, hkept]
  rfl

end Conformance.Discovery
