import Mathlib.Data.List.Nodup
import Mathlib.Data.List.Range
import Conformance.Proofs.Schedule.Invariant
import Conformance.Proofs.Schedule.Isolation

/-!
# Permits

A run has a number of permits and issues no more than these. A task gets one before it reads its file,
and it gives it back however it ends: with a result, because its file cannot be read, because the
executable broke down, or because it was aborted.

- `Change`: what a step does to the permits and to the phases of the tasks.
- `Plan.Grants`: a run, with a log of the tasks that got a permit.
- `permits_conserved`: whatever the schedule, the free permits and those of the tasks in the log that
  have not ended are all permits there are.
-/

namespace Conformance.Schedule

variable {plan : Plan} {st st' start : State}

/-! ## §1 Phases -/

/-- Whether the file is being read, or the executable runs on it. -/
def Phase.isAtWork : Phase → Bool
  | .reading | .running _ => true
  | .waiting | .done _ | .panicked _ | .cancelled => false

/-- Whether the task has ended: with a result, by breaking down, or because it was cancelled. -/
def Phase.hasEnded : Phase → Bool
  | .done _ | .panicked _ | .cancelled => true
  | .waiting | .reading | .running _ => false

/-- A task that is neither waiting nor at an end is at work. -/
theorem Phase.isAtWork_iff (phase : Phase) :
    phase.isAtWork = true ↔ phase ≠ .waiting ∧ phase.hasEnded = false := by
  cases phase <;> simp [isAtWork, hasEnded]

/-- A task holds a permit exactly while it is at work. -/
theorem Task.holdsPermit_eq (t : Task) : t.holdsPermit = t.phase.isAtWork := by
  unfold Task.holdsPermit
  cases t.phase <;> rfl

/-- The phase of the task at a place. -/
def State.phaseAt? (st : State) (i : Nat) : Option Phase := st.tasks[i]?.map (·.phase)

/-- Whether the task at a place has ended. -/
def State.hasEnded (st : State) (i : Nat) : Bool := (st.phaseAt? i).any Phase.hasEnded

theorem State.phaseAt?_eq (st : State) (i : Nat) :
    st.phaseAt? i = (st.tasks.map (·.phase))[i]? := by
  rw [phaseAt?, List.getElem?_map]

/-! ## §2 What a step changes -/

/-- How a task goes on: its phase before and after, and the number of free permits before and after. -/
inductive Phase.GoesOn : Phase → Phase → Nat → Nat → Prop where
  /-- It gets a permit. -/
  | granted {free : Nat} : GoesOn .waiting .reading (free + 1) free
  /-- It keeps its permit. -/
  | kept {phase phase' : Phase} {free : Nat} (before : phase.isAtWork = true)
      (after : phase'.isAtWork = true) : GoesOn phase phase' free free
  /-- It ends and gives its permit back. -/
  | released {phase phase' : Phase} {free : Nat} (before : phase.isAtWork = true)
      (after : phase'.hasEnded = true) : GoesOn phase phase' free (free + 1)
  /-- It ends before it got a permit. -/
  | gaveUp {phase' : Phase} {free : Nat} (after : phase'.hasEnded = true) :
      GoesOn .waiting phase' free free

theorem Phase.GoesOn.ne_waiting {phase phase' : Phase} {free free' : Nat}
    (h : phase.GoesOn phase' free free') : phase' ≠ .waiting := by
  rintro rfl
  cases h with
  | kept _ after => cases after
  | released _ after => cases after
  | gaveUp after => cases after

/-- A task at work has been at work before, unless it has just got its permit. -/
theorem Phase.GoesOn.isAtWork_before {phase phase' : Phase} {free free' : Nat}
    (h : phase.GoesOn phase' free free') (hwork : phase'.isAtWork = true) :
    phase.isAtWork = true ∨ phase = .waiting ∧ phase' = .reading := by
  cases h with
  | granted => exact .inr ⟨rfl, rfl⟩
  | kept before => exact .inl before
  | released before => exact .inl before
  | gaveUp after => exact absurd (after.symm.trans ((isAtWork_iff _).mp hwork).2) (by simp)

/-- Getting a permit takes a free one. -/
theorem Phase.GoesOn.permits_of_granted {free free' : Nat}
    (h : Phase.waiting.GoesOn .reading free free') : free = free' + 1 := by
  cases h with
  | granted => rfl
  | kept before => cases before
  | released before => cases before
  | gaveUp after => cases after

/-- A task that has got its permit gives it back at its end. -/
theorem Phase.GoesOn.permits_of_ended {phase phase' : Phase} {free free' : Nat}
    (h : phase.GoesOn phase' free free') (started : phase ≠ .waiting)
    (ended : phase'.hasEnded = true) : free' = free + 1 := by
  cases h with
  | granted => exact absurd rfl started
  | kept _ after => exact absurd (ended.symm.trans ((isAtWork_iff _).mp after).2) (by simp)
  | released => rfl
  | gaveUp => exact absurd rfl started

theorem TaskStep.goesOn {s : Run.Setting} {free free' : Nat} {t t' : Task} {new : List Path}
    (h : TaskStep s free t free' t' new) : t.phase.GoesOn t'.phase free free' := by
  cases h with
  | acquire hphase => exact hphase ▸ .granted
  | read hphase => exact hphase ▸ .kept rfl rfl
  | unreadable _ hphase => exact hphase ▸ .released rfl rfl
  | ended _ hphase => exact hphase ▸ .released rfl rfl
  | panicked hphase => exact hphase ▸ .released rfl rfl
  | cancelWaiting _ hphase => exact hphase ▸ .gaveUp rfl
  | cancelHolding _ hholds => exact .released (t.holdsPermit_eq ▸ hholds) rfl

/-- What a step does to the permits and to the phases of the tasks: nothing, or one task goes on. -/
inductive Change (st st' : State) : Prop where
  | none (same : ∀ i, st'.phaseAt? i = st.phaseAt? i) (permits : st'.permits = st.permits)
  | one {p : Nat} {phase phase' : Phase} (before : st.phaseAt? p = some phase)
      (after : st'.phaseAt? p = some phase') (others : ∀ i ≠ p, st'.phaseAt? i = st.phaseAt? i)
      (goesOn : phase.GoesOn phase' st.permits st'.permits)

theorem Change.of_phases (h : st'.tasks.map (·.phase) = st.tasks.map (·.phase))
    (permits : st'.permits = st.permits) : Change st st' :=
  .none (fun i => by rw [State.phaseAt?_eq, State.phaseAt?_eq, h]) permits

theorem Change.of_taskStep {s : Run.Setting} {before after : List Task} {t t' : Task}
    {new : List Path} (here : st.tasks = before ++ t :: after)
    (there : st'.tasks = before ++ t' :: after)
    (step : TaskStep s st.permits t st'.permits t' new) : Change st st' := by
  refine .one (p := before.length) (by simp [State.phaseAt?, here]) (by simp [State.phaseAt?, there])
    (fun i hi => ?_) step.goesOn
  rw [State.phaseAt?, State.phaseAt?, here, there]
  rcases Nat.lt_or_gt_of_ne hi with hlt | hgt
  · rw [List.getElem?_append_left hlt, List.getElem?_append_left hlt]
  · obtain ⟨k, rfl⟩ := Nat.exists_eq_add_of_lt hgt
    simp [List.getElem?_append_right, Nat.add_assoc]

/-- Only the tasks get permits and give them back; the collector never does. -/
theorem Change.of_step (h : plan.Step st st') : Change st st' := by
  cases h with
  | task here step => exact .of_taskStep here rfl step
  | shutDown => exact .of_phases rfl rfl
  | record => exact .of_phases rfl rfl
  | abandon => exact .of_phases (map_abortFrom (fun _ => rfl) _ _) rfl
  | interrupt => exact .of_phases (map_abortFrom (fun _ => rfl) _ _) rfl
  | finish => exact .of_phases rfl rfl

/-- If the phase at a place changes, it is the task at that place that goes on. -/
theorem Change.at_moved (h : Change st st') {i : Nat} (hmoved : st'.phaseAt? i ≠ st.phaseAt? i) :
    ∃ phase phase', st.phaseAt? i = some phase ∧ st'.phaseAt? i = some phase' ∧
      (∀ j ≠ i, st'.phaseAt? j = st.phaseAt? j) ∧ phase.GoesOn phase' st.permits st'.permits := by
  cases h with
  | none same => exact absurd (same i) hmoved
  | @one p phase phase' before after others goesOn =>
    obtain rfl : i = p := Classical.byContradiction fun hip => hmoved (others i hip)
    exact ⟨phase, phase', before, after, others, goesOn⟩

/-! ## §3 The tasks that got a permit -/

/-- From one state to the other, the task at a place gets a permit. -/
def GetsPermit (st st' : State) (i : Nat) : Prop :=
  st.phaseAt? i = some .waiting ∧ st'.phaseAt? i = some .reading

theorem GetsPermit.moved {i : Nat} (h : GetsPermit st st' i) : st'.phaseAt? i ≠ st.phaseAt? i := by
  rw [h.1, h.2]
  simp

/-- A run, with the places of the tasks that got a permit, in the order in which they got it. -/
inductive Plan.Grants (plan : Plan) (start : State) : State → List Nat → Prop where
  | refl : plan.Grants start start []
  | grant {st st' : State} {granted : List Nat} {i : Nat} (before : plan.Grants start st granted)
      (last : plan.Step st st') (gets : GetsPermit st st' i) :
      plan.Grants start st' (granted ++ [i])
  | other {st st' : State} {granted : List Nat} (before : plan.Grants start st granted)
      (last : plan.Step st st') (none : ∀ i, ¬GetsPermit st st' i) : plan.Grants start st' granted

/-- Every run has such a log. -/
theorem exists_grants {n : Nat} (h : plan.Reaches n start st) :
    ∃ granted, plan.Grants start st granted := by
  induction h with
  | refl => exact ⟨[], .refl⟩
  | @step _ _ st' st'' _ last ih =>
    obtain ⟨granted, hgranted⟩ := ih
    by_cases hgets : ∃ i, GetsPermit st' st'' i
    · obtain ⟨i, hi⟩ := hgets
      exact ⟨granted ++ [i], .grant hgranted last hi⟩
    · exact ⟨granted, .other hgranted last (not_exists.mp hgets)⟩

theorem exists_reaches {granted : List Nat} (h : plan.Grants start st granted) :
    ∃ n, plan.Reaches n start st := by
  induction h with
  | refl => exact ⟨0, .refl start⟩
  | grant _ last _ ih =>
    obtain ⟨n, hn⟩ := ih
    exact ⟨n + 1, .step hn last⟩
  | other _ last _ ih =>
    obtain ⟨n, hn⟩ := ih
    exact ⟨n + 1, .step hn last⟩

/-- A log holds the places of tasks that have got a permit, those at work among them, each once. -/
structure Logged (st : State) (granted : List Nat) : Prop where
  once : granted.Nodup
  started : ∀ i ∈ granted, ∃ phase, st.phaseAt? i = some phase ∧ phase ≠ .waiting
  atWork : ∀ i phase, st.phaseAt? i = some phase → phase.isAtWork = true → i ∈ granted

theorem Logged.not_mem_of_waiting {granted : List Nat} (h : Logged st granted) {i : Nat}
    (hwaiting : st.phaseAt? i = some .waiting) : i ∉ granted := by
  intro hi
  obtain ⟨phase, hphase, hne⟩ := h.started i hi
  exact hne (Option.some.inj (hphase.symm.trans hwaiting))

theorem Logged.of_start (h : plan.start? = some st) : Logged st [] := by
  obtain ⟨-, rfl⟩ := start?_eq_some.mp h
  refine ⟨List.nodup_nil, fun i hi => absurd hi List.not_mem_nil, fun i phase hphase hwork => ?_⟩
  obtain ⟨t, ht, rfl⟩ := Option.map_eq_some_iff.mp hphase
  rw [(fresh_of_mem_tasks (List.mem_of_getElem? ht)).1] at hwork
  cases hwork

/-- A log stays one when the task at a place goes on, if it holds that place while the task is at work. -/
theorem Logged.goesOn {granted granted' : List Nat} (h : Logged st granted) {p : Nat} {phase : Phase}
    (once : granted'.Nodup) (same : ∀ i ≠ p, i ∈ granted' ↔ i ∈ granted)
    (others : ∀ i ≠ p, st'.phaseAt? i = st.phaseAt? i) (after : st'.phaseAt? p = some phase)
    (started : phase ≠ .waiting) (atWork : phase.isAtWork = true → p ∈ granted') :
    Logged st' granted' := by
  refine ⟨once, fun i hi => ?_, fun i phase' hphase hwork => ?_⟩
  · by_cases hip : i = p
    · exact ⟨phase, hip ▸ after, started⟩
    · rw [others i hip]
      exact h.started i ((same i hip).mp hi)
  · by_cases hip : i = p
    · subst hip
      obtain rfl := Option.some.inj (hphase.symm.trans after)
      exact atWork hwork
    · rw [others i hip] at hphase
      exact (same i hip).mpr (h.atWork i phase' hphase hwork)

/-- A step that grants no permit leaves the log as it is. -/
theorem Logged.other {granted : List Nat} (h : Logged st granted) (change : Change st st')
    (none : ∀ i, ¬GetsPermit st st' i) : Logged st' granted := by
  cases change with
  | none same =>
    refine ⟨h.once, fun i hi => ?_, fun i phase hphase hwork => ?_⟩
    · rw [same i]
      exact h.started i hi
    · rw [same i] at hphase
      exact h.atWork i phase hphase hwork
  | @one p phase phase' before after others goesOn =>
    refine h.goesOn h.once (fun _ _ => Iff.rfl) others after goesOn.ne_waiting fun hwork => ?_
    rcases goesOn.isAtWork_before hwork with hbefore | ⟨rfl, rfl⟩
    · exact h.atWork p phase before hbefore
    · exact absurd ⟨before, after⟩ (none p)

/-- A step that grants a permit grants it to a task that had none. -/
theorem Logged.grant {granted : List Nat} (h : Logged st granted) (change : Change st st') {i : Nat}
    (gets : GetsPermit st st' i) : Logged st' (granted ++ [i]) := by
  obtain ⟨-, -, -, -, others, -⟩ := change.at_moved gets.moved
  have honce : (granted ++ [i]).Nodup := by
    refine List.nodup_append.mpr ⟨h.once, List.nodup_singleton i, fun j hj k hk hjk => ?_⟩
    obtain rfl := List.mem_singleton.mp hk
    exact h.not_mem_of_waiting gets.1 (hjk ▸ hj)
  refine h.goesOn honce (fun j hj => ?_) others gets.2 (by simp) fun _ => ?_
  · simp [hj]
  · exact List.mem_append_right _ (List.mem_singleton.mpr rfl)

theorem logged_of_grants {granted : List Nat} (hstart : plan.start? = some start)
    (h : plan.Grants start st granted) : Logged st granted := by
  induction h with
  | refl => exact .of_start hstart
  | grant _ last gets ih => exact ih.grant (.of_step last) gets
  | other _ last none ih => exact ih.other (.of_step last) none

/-! ## §4 Counting permits -/

/-- Counting the elements of a list is counting its places. -/
theorem countP_eq_countP_range {α : Type} (p : α → Bool) (l : List α) :
    l.countP p = (List.range l.length).countP fun i => l[i]?.any p := by
  have hplaces : l.map some = (List.range l.length).map (l[·]?) := by
    refine List.ext_getElem (by simp) fun i _ hi => ?_
    simp at hi ⊢
  have hcount := congrArg (List.countP (Option.any p)) hplaces
  rw [List.countP_map, List.countP_map] at hcount
  exact hcount

/-- The tasks at work are those in the log that have not ended. -/
theorem Logged.countP_eq {granted : List Nat} (h : Logged st granted) :
    st.tasks.countP (·.phase.isAtWork) = granted.countP (!st.hasEnded ·) := by
  rw [countP_eq_countP_range, List.countP_eq_length_filter, List.countP_eq_length_filter]
  -- No place stands twice on either side, so it is enough that both have the same places.
  refine List.Perm.length_eq ((List.perm_ext_iff_of_nodup (List.nodup_range.filter _)
    (h.once.filter _)).mpr fun i => ?_)
  rw [List.mem_filter, List.mem_filter, List.mem_range]
  constructor
  · rintro ⟨hlt, hwork⟩
    have ht := List.getElem?_eq_getElem hlt
    rw [ht, Option.any_some] at hwork
    have hphase : st.phaseAt? i = some st.tasks[i].phase := by rw [State.phaseAt?, ht]; rfl
    refine ⟨h.atWork i _ hphase hwork, ?_⟩
    simp [State.hasEnded, hphase, ((Phase.isAtWork_iff _).mp hwork).2]
  · rintro ⟨hmem, hended⟩
    obtain ⟨phase, hphase, hne⟩ := h.started i hmem
    have hwork : phase.isAtWork = true := by
      refine (Phase.isAtWork_iff _).mpr ⟨hne, ?_⟩
      simpa [State.hasEnded, hphase] using hended
    obtain ⟨t, ht, rfl⟩ := Option.map_eq_some_iff.mp hphase
    exact ⟨(List.getElem?_eq_some_iff.mp ht).1, by rw [ht]; exact hwork⟩

/-- A task that gets a permit takes a free one. -/
theorem Change.permits_of_gets (h : Change st st') {i : Nat} (gets : GetsPermit st st' i) :
    st.permits = st'.permits + 1 := by
  obtain ⟨phase, phase', before, after, -, goesOn⟩ := h.at_moved gets.moved
  obtain rfl := Option.some.inj (gets.1.symm.trans before)
  obtain rfl := Option.some.inj (gets.2.symm.trans after)
  exact goesOn.permits_of_granted

/-- A task in the log that ends gives its permit back. -/
theorem Logged.permits_of_ended {granted : List Nat} (h : Logged st granted) (change : Change st st')
    {i : Nat} (hi : i ∈ granted) (hbefore : st.hasEnded i = false) (hafter : st'.hasEnded i = true) :
    st'.permits = st.permits + 1 := by
  have hmoved : st'.phaseAt? i ≠ st.phaseAt? i := by
    intro hsame
    rw [State.hasEnded, hsame] at hafter
    exact Bool.noConfusion (hbefore.symm.trans hafter)
  obtain ⟨phase, phase', before, after, -, goesOn⟩ := change.at_moved hmoved
  have hended : phase'.hasEnded = true := by
    rwa [State.hasEnded, after, Option.any_some] at hafter
  have hstarted : phase ≠ .waiting := by
    rintro rfl
    exact h.not_mem_of_waiting before hi
  exact goesOn.permits_of_ended hstarted hended

/-- A waiting task can get a free permit in the next step. -/
theorem exists_getsPermit (hfree : 0 < st.permits) {i : Nat} (hwaiting : st.phaseAt? i = some .waiting) :
    ∃ st', plan.Step st st' ∧ GetsPermit st st' i := by
  obtain ⟨t, ht, hphase⟩ := Option.map_eq_some_iff.mp hwaiting
  obtain ⟨free, hpermits⟩ := Nat.exists_eq_succ_of_ne_zero (Nat.pos_iff_ne_zero.mp hfree)
  obtain ⟨hi, hget⟩ := List.getElem?_eq_some_iff.mp ht
  have here : st.tasks = st.tasks.take i ++ t :: st.tasks.drop (i + 1) := by
    rw [← hget, ← List.drop_eq_getElem_cons hi, List.take_append_drop]
  have hstep : TaskStep plan.setting st.permits t free { t with phase := .reading } [] := by
    rw [hpermits]
    exact .acquire hphase
  refine ⟨_, .task here hstep, hwaiting, ?_⟩
  have hlength : (st.tasks.take i).length = i := List.length_take_of_le (Nat.le_of_lt hi)
  simp [State.phaseAt?, hlength]

/-! ## §5 Every schedule -/

/-- The permits of a plan in a state that a run has got to, whose log is `granted`. -/
structure Conserved (plan : Plan) (st : State) (granted : List Nat) : Prop where
  /-- No task gets a second permit. -/
  once : granted.Nodup
  /-- A permit is free, or a task has got it and has not ended. -/
  total : st.permits + granted.countP (!st.hasEnded ·) = plan.jobs
  /-- So many fixtures are read or run at once, at most. -/
  atOnce : st.tasks.countP (·.phase.isAtWork) ≤ plan.jobs
  /-- A task that gets a permit had none before, and takes a free one. -/
  taken : ∀ st' i, plan.Step st st' → GetsPermit st st' i →
    i ∉ granted ∧ st.permits = st'.permits + 1
  /-- However a task ends that had got a permit, there is one more then, and any task that still waits
      can have it. -/
  released : ∀ st' i, plan.Step st st' → i ∈ granted → st.hasEnded i = false →
    st'.hasEnded i = true → st'.permits = st.permits + 1 ∧
      ∀ j, st'.phaseAt? j = some .waiting → ∃ st'', plan.Step st' st'' ∧ GetsPermit st' st'' j

/-- In every state that a schedule gets to, whatever results, faults, shutdown or failing sink led there,
    the free permits and the tasks that have got one and have not ended add up to the number of permits
    there are. So no more fixtures than these are read or run at once, and every end of a task that had
    a permit makes one free. -/
theorem permits_conserved (plan : Plan) (hlimit : plan.jobs ≤ Run.permitLimit) :
    ∃ start, plan.start? = some start ∧
      (∀ n st, plan.Reaches n start st → ∃ granted, plan.Grants start st granted) ∧
      ∀ st granted, plan.Grants start st granted → Conserved plan st granted := by
  have hstart := start?_eq_some.mpr ⟨hlimit, rfl⟩
  refine ⟨_, hstart, fun n st h => exists_grants h, fun st granted h => ?_⟩
  obtain ⟨n, hreaches⟩ := exists_reaches h
  have hlogged := logged_of_grants hstart h
  have hpermits := (inv_of_reaches (.start hstart) hreaches).permits
  rw [funext Task.holdsPermit_eq] at hpermits
  refine ⟨hlogged.once, ?_, ?_, fun st' i step gets => ?_, fun st' i step hi hbefore hafter => ?_⟩
  · rw [← hlogged.countP_eq]
    exact hpermits
  · exact hpermits ▸ Nat.le_add_left _ _
  · exact ⟨hlogged.not_mem_of_waiting gets.1, (Change.of_step step).permits_of_gets gets⟩
  · have hfree := hlogged.permits_of_ended (.of_step step) hi hbefore hafter
    exact ⟨hfree, fun j hj => exists_getsPermit (hfree ▸ Nat.zero_lt_succ _) hj⟩

/-- With one permit for two files, the executable breaks down on the first: the permit is free again. -/
theorem permits_conserved_breakdown :
    ∃ start st,
      (Plan.fresh ⟨Run.twoFiles, breaksDownOnFirst, ⟨⟨.char 'x'⟩⟩, fun _ => .zero⟩
        [⟨[0x2F, 0x61]⟩, ⟨[0x2F, 0x62]⟩] 1 id .never ⟨.pretty, false, false, "", ""⟩
        .unlimited).Grants start st [0] ∧
      st.hasEnded 0 = true ∧ st.permits = 1 := by
  let plan : Plan := .fresh ⟨Run.twoFiles, breaksDownOnFirst, ⟨⟨.char 'x'⟩⟩, fun _ => .zero⟩
    [⟨[0x2F, 0x61]⟩, ⟨[0x2F, 0x62]⟩] 1 id .never ⟨.pretty, false, false, "", ""⟩ .unlimited
  obtain ⟨start, hstart, -, hconserved⟩ := permits_conserved plan (by decide)
  obtain ⟨-, rfl⟩ := start?_eq_some.mp hstart
  let first (phase : Phase) (permits : Nat) (called : List Path) : State :=
    ⟨[⟨⟨[0x2F, 0x61]⟩, 0, phase, false⟩, ⟨⟨[0x2F, 0x62]⟩, 1, .waiting, false⟩], permits, called, [],
      plan.reporter, false, none⟩
  let e := (⟨⟨.char 'x'⟩⟩ : Marker).inspect [0x78, 0x0D, 0x0A, 0xFF]
  -- The task of the first file takes a step, and that of the second goes on waiting.
  have moves {phase phase' : Phase} {permits free : Nat} {called calls : List Path}
      (step : TaskStep plan.setting permits ⟨⟨[0x2F, 0x61]⟩, 0, phase, false⟩ free
        ⟨⟨[0x2F, 0x61]⟩, 0, phase', false⟩ calls) :
      plan.Step (first phase permits called) (first phase' free (called ++ calls)) :=
    @Plan.Step.task plan _ [] _ _ _ _ _ rfl step
  have acquire : plan.Step (first .waiting 1 []) (first .reading 0 []) := moves (.acquire rfl)
  have read : plan.Step (first .reading 0 []) (first (.running e) 0 [[0x2F, 0x61]]) :=
    moves (.read rfl rfl)
  have panic : plan.Step (first (.running e) 0 [[0x2F, 0x61]])
      (first (.panicked (none)) 1 [[0x2F, 0x61]]) :=
    moves (.panicked rfl rfl)
  have hgrants : plan.Grants (first .waiting 1 []) (first (.panicked (none)) 1 [[0x2F, 0x61]]) [0] := by
    refine .other (.other (.grant .refl acquire ⟨rfl, rfl⟩) read fun i gets => ?_) panic
      fun i gets => ?_
    · exact absurd ((Change.of_step read).permits_of_gets gets) (by decide)
    · exact absurd ((Change.of_step panic).permits_of_gets gets) (by decide)
  exact ⟨_, _, hgrants, rfl, (hconserved _ _ hgrants).total⟩

end Conformance.Schedule
