import Mathlib.Data.List.Perm.Basic
import Conformance.Proofs.CommandLine.Requests
import Conformance.Proofs.ExitStatus

/-!
# Command lines that are written and read

Arguments are written as one request for each thing that they ask for. The requests may stand in any
order, as long as the patterns to leave out keep their order among themselves and the subjects of the log
do too: requests for different options do not get in each other's way. What is read is what was written,
be the paths text or not.

- `foldl_eq_of_filter_eq`: steps that commute unless they have the same key may be reordered, if those of
  each key keep their order.
- `foldl_requests`: the requests of arguments ask for these arguments.
- `parse_written`: arguments are read back from any way to write them.
-/

namespace Conformance.CommandLine

/-! ## §1 Steps that commute -/

section Commute

variable {α β κ : Type} {key : α → κ} {f : β → α → β}

/-- A step may be taken before others that it commutes with. -/
theorem foldl_append_cons (hcomm : ∀ b x y, key x ≠ key y → f (f b x) y = f (f b y) x) {front : List α}
    {x : α} (hfront : ∀ y ∈ front, key y ≠ key x) (back : List α) (b : β) :
    (front ++ x :: back).foldl f b = (front ++ back).foldl f (f b x) := by
  induction front generalizing b with
  | nil => rfl
  | cons y ys ih =>
    have hy : key y ≠ key x := hfront y List.mem_cons_self
    calc (y :: ys ++ x :: back).foldl f b
        = (ys ++ back).foldl f (f (f b y) x) :=
          ih (fun z hz => hfront z (List.mem_cons_of_mem y hz)) (f b y)
      _ = (ys ++ back).foldl f (f (f b x) y) := by rw [hcomm b y x hy]

/-- Steps that commute unless they have the same key come to the same in two orders, if the steps of each
    key have the same order in both. -/
theorem foldl_eq_of_filter_eq [DecidableEq κ]
    (hcomm : ∀ b x y, key x ≠ key y → f (f b x) y = f (f b y) x) {xs ys : List α}
    (h : ∀ k, xs.filter (key · = k) = ys.filter (key · = k)) (b : β) :
    xs.foldl f b = ys.foldl f b := by
  -- Over the first order: its first step is the first of its key in the second, and can be taken first
  -- there as well.
  induction xs generalizing ys b with
  | nil =>
    cases ys with
    | nil => rfl
    | cons y ys =>
      have hy := h (key y)
      rw [List.filter_nil, List.filter_cons_of_pos (by simp)] at hy
      cases hy
  | cons x xs ih =>
    have hx := h (key x)
    rw [List.filter_cons_of_pos (by simp)] at hx
    obtain ⟨front, back, rfl, hfront, -, hback⟩ := List.filter_eq_cons_iff.mp hx.symm
    have hother : ∀ y ∈ front, key y ≠ key x := by simpa using hfront
    rw [List.foldl_cons, foldl_append_cons hcomm hother]
    apply ih
    intro k
    by_cases hk : key x = k
    · subst hk
      have hnone : front.filter (key · = key x) = [] := List.filter_eq_nil_iff.mpr hfront
      rw [List.filter_append, hnone, hback, List.nil_append]
    · have hrest := h k
      rwa [List.filter_cons_of_neg (by simpa using hk), List.filter_append,
        List.filter_cons_of_neg (by simpa using hk), ← List.filter_append] at hrest

end Commute

/-! ## §2 What arguments ask for -/

/-- Requests for different options do not get in each other's way. -/
theorem Request.apply_comm (a : Arguments) (x y : Request) (h : x.switch ≠ y.switch) :
    apply (apply a x) y = apply (apply a y) x := by
  cases x <;> cases y <;> first | rfl | exact absurd rfl h

namespace Arguments

/-- The requests for an option that arguments ask for. -/
def requestsFor (a : Arguments) : Switch → List Request
  | .exe => [.exe a.exe]
  | .fixturesDir => [.fixturesDir a.fixturesDir]
  | .extension => [.extension a.extension]
  | .errorMarker => [.errorMarker a.errorMarker]
  | .markerRegex => if a.markerIsPattern then [.markerRegex] else []
  | .jobs => a.jobs.toList.map .jobs
  | .timeout => a.timeout.toList.map .timeout
  | .format => [.format a.format]
  | .verbose => if a.verbose then [.verbose] else []
  | .color => [.color a.color]
  | .list => if a.list then [.list] else []
  | .exact => if a.exact then [.exact] else []
  | .skip => a.skip.map .skip
  | .debug => a.debug.map .debug
  | .help | .version => []

/-- The requests for all that arguments ask for, the filters apart. -/
def requests (a : Arguments) : List Request := Switch.all.flatMap a.requestsFor

/-- Whether requests are a way to write arguments: they are in any order, but the patterns to leave out
    are in theirs, and so are the subjects of the log. -/
structure Writes (a : Arguments) (xs : List Request) : Prop where
  perm : xs.Perm a.requests
  skip : xs.filter (·.switch = .skip) = a.skip.map .skip
  debug : xs.filter (·.switch = .debug) = a.debug.map .debug

/-- Whether arguments can be given at all: paths are not empty, some fixtures are to be run at once, and
    numbers have 64 bits. -/
structure IsWritable (a : Arguments) : Prop where
  exe : a.exe ≠ []
  fixturesDir : a.fixturesDir ≠ []
  jobs : ∀ n ∈ a.jobs, 0 < n ∧ n < 0x10000000000000000
  timeout : ∀ n ∈ a.timeout, n < 0x10000000000000000

variable {a : Arguments} {xs : List Request}

theorem switch_of_mem_requestsFor {s : Switch} {x : Request} (hx : x ∈ a.requestsFor s) :
    x.switch = s := by
  cases s with
  | help | version => cases hx
  | exe | fixturesDir | extension | errorMarker | format | color =>
    rw [List.mem_singleton.mp hx]
    rfl
  | markerRegex | verbose | list | exact =>
    rw [requestsFor] at hx
    split at hx
    · rw [List.mem_singleton.mp hx]
      rfl
    · cases hx
  | jobs | timeout | skip | debug =>
    obtain ⟨v, -, rfl⟩ := List.mem_map.mp hx
    rfl

theorem isValid_of_mem_requestsFor (ha : a.IsWritable) {s : Switch} {x : Request}
    (hx : x ∈ a.requestsFor s) : x.IsValid := by
  cases s with
  | help | version => cases hx
  | exe =>
    rw [List.mem_singleton.mp hx]
    exact ha.exe
  | fixturesDir =>
    rw [List.mem_singleton.mp hx]
    exact ha.fixturesDir
  | extension | errorMarker | format | color =>
    rw [List.mem_singleton.mp hx]
    trivial
  | markerRegex | verbose | list | exact =>
    rw [requestsFor] at hx
    split at hx
    · rw [List.mem_singleton.mp hx]
      trivial
    · cases hx
  | jobs =>
    obtain ⟨n, hn, rfl⟩ := List.mem_map.mp hx
    exact ha.jobs n (Option.mem_toList.mp hn)
  | timeout =>
    obtain ⟨n, hn, rfl⟩ := List.mem_map.mp hx
    exact ha.timeout n (Option.mem_toList.mp hn)
  | skip | debug =>
    obtain ⟨v, -, rfl⟩ := List.mem_map.mp hx
    trivial

/-- An option that may be given only once is asked for once at most. -/
theorem length_requestsFor_le {s : Switch} (hs : s.isRepeatable = false) :
    (a.requestsFor s).length ≤ 1 := by
  cases s with
  | skip | debug => cases hs
  | help | version => exact Nat.zero_le 1
  | exe | fixturesDir | extension | errorMarker | format | color => exact Nat.le_refl 1
  | markerRegex | verbose | list | exact =>
    rw [requestsFor]
    split <;> decide
  | jobs => cases h : a.jobs <;> simp [requestsFor, h]
  | timeout => cases h : a.timeout <;> simp [requestsFor, h]

/-- Among all requests, those for an option are these. -/
theorem filter_flatMap_requestsFor {switches : List Switch} (hnodup : switches.Nodup) (s : Switch) :
    (switches.flatMap a.requestsFor).filter (·.switch = s) =
      if s ∈ switches then a.requestsFor s else [] := by
  induction switches with
  | nil => rfl
  | cons t ts ih =>
    obtain ⟨ht, hts⟩ := List.nodup_cons.mp hnodup
    rw [List.flatMap_cons, List.filter_append, ih hts]
    by_cases hsame : t = s
    · subst hsame
      rw [if_neg ht, if_pos List.mem_cons_self, List.append_nil, List.filter_eq_self]
      exact fun x hx => decide_eq_true (switch_of_mem_requestsFor hx)
    · have hnone : (a.requestsFor t).filter (·.switch = s) = [] := by
        rw [List.filter_eq_nil_iff]
        intro x hx
        rw [switch_of_mem_requestsFor hx]
        simpa using hsame
      rw [hnone, List.nil_append]
      simp only [List.mem_cons, Ne.symm hsame, false_or]

theorem filter_requests (a : Arguments) (s : Switch) :
    a.requests.filter (·.switch = s) = a.requestsFor s := by
  rw [requests, filter_flatMap_requestsFor (by decide), if_pos s.mem_all]

/-- In every way to write arguments, the requests for an option are the same, in the same order. -/
theorem Writes.filter_eq (h : a.Writes xs) (s : Switch) :
    xs.filter (·.switch = s) = a.requestsFor s := by
  cases hs : s.isRepeatable with
  | true =>
    cases s with
    | skip => exact h.skip
    | debug => exact h.debug
    | help | exe | fixturesDir | extension | errorMarker | markerRegex | jobs | timeout | format
    | verbose | color | list | exact | version => cases hs
  | false =>
    have hperm := h.perm.filter (·.switch = s)
    rw [filter_requests] at hperm
    -- There is one at most, so there is only one order.
    have hlength := length_requestsFor_le (a := a) hs
    match hfor : a.requestsFor s, hlength with
    | [], _ => rw [hfor] at hperm; exact List.perm_nil.mp hperm
    | [x], _ => rw [hfor] at hperm; exact List.perm_singleton.mp hperm

theorem Writes.isValid (h : a.Writes xs) (ha : a.IsWritable) : ∀ x ∈ xs, x.IsValid := by
  intro x hx
  obtain ⟨s, -, hs⟩ := List.mem_flatMap.mp (h.perm.mem_iff.mp hx)
  exact isValid_of_mem_requestsFor ha hs

/-- No option is written twice that may be given only once. -/
theorem Writes.once (h : a.Writes xs) :
    xs.Pairwise fun x y => x.switch = y.switch → y.switch.isRepeatable = true := by
  rw [List.pairwise_iff_forall_sublist]
  intro x y hsub hsame
  by_contra hnot
  have hboth : [x, y].Sublist (a.requestsFor y.switch) := by
    rw [← h.filter_eq y.switch]
    have hfilter := hsub.filter (·.switch = y.switch)
    rwa [List.filter_cons_of_pos (by simpa using hsame), List.filter_cons_of_pos (by simp),
      List.filter_nil] at hfilter
  have hlength := length_requestsFor_le (a := a) (Bool.eq_false_iff.mpr hnot)
  exact absurd (hboth.length_le.trans hlength) (Nat.not_succ_le_self 1)

/-! ## §3 What the requests come to -/

/-- The requests of arguments ask for these arguments, the filters apart. -/
theorem foldl_requests (a : Arguments) :
    a.requests.foldl Request.apply .default = { a with filters := [] } := by
  have hskip : a.requestsFor .skip = a.skip.map .skip := rfl
  have hdebug : a.requestsFor .debug = a.debug.map .debug := rfl
  simp only [requests, Switch.all, List.flatMap_cons, List.flatMap_nil, List.foldl_append, hskip,
    hdebug, Request.foldl_skip, Request.foldl_debug]
  -- What is left is asked for once or not at all.
  obtain ⟨exe, fixturesDir, extension, errorMarker, markerIsPattern, jobs, timeout, format, verbose,
    color, list, exact, skip, debug, filters⟩ := a
  cases markerIsPattern <;> cases jobs <;> cases timeout <;> cases verbose <;> cases list <;>
    cases exact <;> rfl

theorem Writes.foldl_eq (h : a.Writes xs) :
    xs.foldl Request.apply .default = { a with filters := [] } := by
  rw [← foldl_requests a]
  apply foldl_eq_of_filter_eq Request.apply_comm
  intro s
  rw [h.filter_eq, filter_requests]

/-- What is configured by arguments that can be given. -/
theorem config_eq (ha : a.IsWritable) :
    a.config =
      { executable := a.exe
        fixturesDir := a.fixturesDir
        extension := a.extension
        marker := a.errorMarker
        markerIsPattern := a.markerIsPattern
        jobs := a.jobs
        timeout := a.timeout.map fun seconds => ⟨seconds, 0, by decide⟩
        filter := ⟨a.filters, a.skip, a.exact⟩ } := by
  have hjobs : a.jobs.filter (· ≠ 0) = a.jobs := by
    cases h : a.jobs with
    | none => rfl
    | some n => simp [Option.filter, Nat.ne_of_gt (ha.jobs n h).1]
  have hgiven : a.config.jobs = a.jobs := by rw [config_jobs, hjobs]
  -- The number of jobs apart, each part is set once.
  rw [← hgiven]
  unfold config
  cases a.jobs with
  | none => rfl
  | some n =>
    simp only [Config.withJobs]
    split <;> rfl

end Arguments

/-- Arguments are read back from any way to write them, each request in one argument, with the filters
    behind `--`; and they are what is configured. -/
theorem parse_written {a : Arguments} (ha : a.IsWritable) {xs : List Request} (hxs : a.Writes xs)
    {e : Environment} (he : e.IsUnset) :
    parse e (xs.map (·.text) ++ Reading.hyphens :: a.filters.map Utf8.encodeString) = .ok a ∧
      a.config =
        { executable := a.exe
          fixturesDir := a.fixturesDir
          extension := a.extension
          marker := a.errorMarker
          markerIsPattern := a.markerIsPattern
          jobs := a.jobs
          timeout := a.timeout.map fun seconds => ⟨seconds, 0, by decide⟩
          filter := ⟨a.filters, a.skip, a.exact⟩ } := by
  have hread := parse_requests he (hxs.isValid ha) hxs.once a.filters
  rw [hxs.foldl_eq] at hread
  exact ⟨hread, Arguments.config_eq ha⟩

/-- Arguments with values that look like options, are empty, are no text, or are as large as can be. -/
def outlandish : Arguments where
  exe := [0x61, 0x3D, 0xFF]
  fixturesDir := Utf8.encodeString "--exe=c"
  extension := ""
  errorMarker := "-x="
  markerIsPattern := true
  jobs := some 18446744073709551615
  timeout := some 0
  format := .junit
  verbose := false
  color := .never
  list := true
  exact := false
  skip := ["--", "", "--"]
  debug := [.runner, .discovery, .runner]
  filters := ["-v", "--", ""]

/-- They are read back, in an environment with a variable that stands in for no option. -/
theorem parse_written_outlandish :
    outlandish.IsWritable ∧ Environment.IsUnset [("NO_COLOR", [0x31])] ∧
      parse [("NO_COLOR", [0x31])]
        (["--skip=--", "--list", "--debug=runner", "--jobs=18446744073709551615", "--skip=",
            "--extension=", "--color=never", "--timeout=0", "--debug=discovery", "--marker-regex",
            "--fixtures-dir=--exe=c", "--skip=--", "--error-marker=-x=", "--debug=runner",
            "--format=junit"].map Utf8.encodeString ++
          (Utf8.encodeString "--exe=a=" ++ [0xFF]) ::
            ["--", "-v", "--", ""].map Utf8.encodeString) = .ok outlandish := by
  have ha : outlandish.IsWritable :=
    { exe := by decide
      fixturesDir := by decide +kernel
      jobs := fun n hn => by cases hn; decide
      timeout := fun n hn => by cases hn; decide }
  have he : Environment.IsUnset [("NO_COLOR", [0x31])] := by
    intro s name hs
    cases s <;> cases hs <;> decide
  have hxs : outlandish.Writes
      [.skip "--", .list, .debug .runner, .jobs 18446744073709551615, .skip "", .extension "",
        .color .never, .timeout 0, .debug .discovery, .markerRegex,
        .fixturesDir (Utf8.encodeString "--exe=c"), .skip "--", .errorMarker "-x=", .debug .runner,
        .format .junit, .exe [0x61, 0x3D, 0xFF]] :=
    { perm := by decide +kernel
      skip := by decide +kernel
      debug := by decide +kernel }
  exact ⟨ha, he, (parse_written ha hxs he).1⟩

end Conformance.CommandLine
