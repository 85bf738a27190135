import Conformance.Report.Masked
import Conformance.Run

/-!
# Numbers of tasks

The rule that masks the numbers of tasks that panicked replaces whole parts of a text, and no such
part runs across the beginning of another. So a text can be masked piece by piece, and texts that
are the same but for such numbers are the same when they are masked.

- `mask_append_task`: a text is masked up to the next `t`, and from there on.
- `SameButTasks.mask_eq`: texts that differ in the numbers of tasks alone.
- `SameButTasks.paint`: colouring such texts keeps them so.
-/

namespace Conformance.Masked

/-! ## §1 What the rule finds -/

/-- A part that tells of a panicked task, with the digits of its number. -/
def numbered (digits : List Char) : List Char := "task ".toList ++ (digits ++ " panicked".toList)

/-- What such a part is replaced by. -/
def unnumbered : List Char := "task N panicked".toList

/-- Digits as they stand for a number: at least one. -/
def IsNumber (digits : List Char) : Prop := digits ≠ [] ∧ ∀ c ∈ digits, c.isDigit = true

theorem isNumber_toString (n : Nat) : IsNumber (toString n).toList := by
  rw [Nat.toString_eq_repr, Nat.toList_repr]
  exact ⟨Nat.toDigits_ne_nil, fun c hc => Nat.isDigit_of_mem_toDigits (by decide) (by decide) hc⟩

theorem after?_eq_some {front text rest : List Char} :
    after? front text = some rest ↔ text = front ++ rest := by
  induction front generalizing text with
  | nil => simp [after?]
  | cons a as ih =>
    cases text with
    | nil => simp [after?]
    | cons b bs =>
      rw [after?]
      split
      · rename_i h
        simp [h, ih]
      · rename_i h
        simp [Ne.symm h]

/-- The rule finds exactly the parts that tell of a panicked task. -/
theorem taskRule_eq_some {lineStart : Bool} {text out rest : List Char} :
    taskRule lineStart text = some (out, rest) ↔
      out = unnumbered ∧ ∃ digits, IsNumber digits ∧ text = numbered digits ++ rest := by
  constructor
  · intro h
    simp only [taskRule, Option.bind_eq_bind, Option.bind_eq_some_iff, after?_eq_some] at h
    obtain ⟨tail, htext, h⟩ := h
    split at h
    · rename_i c cs
      split at h
      -- The first digit is there, and the others are all that are dropped in front of the rest.
      · rename_i hc
        simp only [Option.bind_eq_some_iff, after?_eq_some, Option.pure_def, Option.some.injEq,
          Prod.mk.injEq] at h
        obtain ⟨rest', hdrop, hout, rfl⟩ := h
        refine ⟨hout.symm, c :: cs.takeWhile Char.isDigit, ⟨List.cons_ne_nil _ _, ?_⟩, ?_⟩
        · intro d hd
          rcases List.mem_cons.mp hd with rfl | hd
          · exact hc
          · exact List.all_eq_true.mp List.all_takeWhile d hd
        · rw [htext, numbered, List.append_assoc, List.append_assoc, ← hdrop, List.cons_append,
            List.takeWhile_append_dropWhile]
      · exact absurd h (by simp)
    · exact absurd h (by simp)
  · rintro ⟨rfl, digits, ⟨hne, hdigits⟩, rfl⟩
    obtain ⟨c, cs, rfl⟩ := List.exists_cons_of_ne_nil hne
    have hdrop : (cs ++ " panicked".toList ++ rest).dropWhile Char.isDigit =
        " panicked".toList ++ rest := by
      rw [List.append_assoc, List.dropWhile_append_of_pos fun d hd =>
        hdigits d (List.mem_cons_of_mem _ hd)]
      exact List.dropWhile_cons_of_neg (by decide)
    have hfront : after? "task ".toList (numbered (c :: cs) ++ rest) =
        some (c :: (cs ++ " panicked".toList ++ rest)) :=
      after?_eq_some.mpr (by simp [numbered])
    have hback : after? " panicked".toList (" panicked".toList ++ rest) = some rest :=
      after?_eq_some.mpr rfl
    simp only [taskRule, hfront, hdrop, hback, Option.bind_eq_bind, Option.bind_some,
      hdigits c List.mem_cons_self, if_true]
    rfl

/-! ## §2 Masking piece by piece -/

/-- A text with the numbers of panicked tasks masked. -/
def maskTasks (text : List Char) : List Char := replace taskRule text

/-- What is found does not depend on what stood before, so neither does what is left to mask. -/
theorem replaceOnto_taskRule (lineStart : Bool) (skip : Nat) (done text : List Char) :
    replaceOnto taskRule lineStart skip done text = done.reverse ++ maskTasks (text.drop skip) := by
  induction text generalizing lineStart skip done with
  | nil => simp [replaceOnto, maskTasks, replace]
  | cons c cs ih =>
    cases skip with
    | succ skip => rw [replaceOnto, ih, List.drop_succ_cons]
    -- Nothing is left out here: the rule finds the same on both sides, since lines do not matter.
    | zero =>
      rw [List.drop_zero, maskTasks, replace, replaceOnto, replaceOnto]
      have hstart : taskRule lineStart (c :: cs) = taskRule true (c :: cs) := rfl
      rw [hstart]
      cases taskRule true (c :: cs) with
      | none => simp [ih]
      | some found => simp [ih]

theorem maskTasks_numbered {digits : List Char} (h : IsNumber digits) (rest : List Char) :
    maskTasks (numbered digits ++ rest) = unnumbered ++ maskTasks rest := by
  have hfound : taskRule true (numbered digits ++ rest) = some (unnumbered, rest) :=
    taskRule_eq_some.mpr ⟨rfl, digits, h, rfl⟩
  obtain ⟨tail, htail⟩ : ∃ tail, numbered digits ++ rest = 't' :: (tail ++ rest) :=
    ⟨"ask ".toList ++ (digits ++ " panicked".toList), rfl⟩
  rw [htail] at hfound ⊢
  rw [maskTasks, replace, replaceOnto, hfound]
  simp [replaceOnto_taskRule]

theorem maskTasks_cons_of_none {c : Char} {cs : List Char} (h : taskRule true (c :: cs) = none) :
    maskTasks (c :: cs) = c :: maskTasks cs := by
  rw [maskTasks, replace, replaceOnto, h]
  simp [replaceOnto_taskRule]

/-- A character that is no digit and stands neither in front of a number nor behind it is not
    there. -/
theorem notMem_around {front digits back : List Char} (h : IsNumber digits) {c : Char}
    (hfront : c ∉ front) (hdigit : c.isDigit = false) (hback : c ∉ back) :
    c ∉ front ++ (digits ++ back) := by
  intro hmem
  rcases List.mem_append.mp hmem with hmem | hmem
  · exact hfront hmem
  · rcases List.mem_append.mp hmem with hmem | hmem
    · exact absurd (h.2 c hmem) (by simp [hdigit])
    · exact hback hmem

/-- A part that the rule finds holds no `t` but its first character. -/
theorem task_notMem_tail {digits x y : List Char} (h : IsNumber digits) (hx : x ≠ []) :
    numbered digits ≠ x ++ 't' :: y := by
  intro heq
  obtain ⟨c, cs, rfl⟩ := List.exists_cons_of_ne_nil hx
  have htail : "ask ".toList ++ (digits ++ " panicked".toList) = cs ++ 't' :: y :=
    (List.cons.inj heq).2
  have hmem : 't' ∈ cs ++ 't' :: y := List.mem_append_right _ List.mem_cons_self
  rw [← htail] at hmem
  exact notMem_around h (by decide) (by decide) (by decide) hmem

/-- What the rule finds in front of a `t`, it finds without what follows. -/
theorem taskRule_append_task {c : Char} {cs : List Char} (h : taskRule true (c :: cs) = none)
    (y : List Char) : taskRule true (c :: (cs ++ 't' :: y)) = none := by
  rw [Option.eq_none_iff_forall_ne_some] at h ⊢
  rintro ⟨out, rest⟩ hfound
  obtain ⟨-, digits, hdigits, htext⟩ := taskRule_eq_some.mp hfound
  rw [← List.cons_append] at htext
  -- The part that is found ends in front of the `t` or behind it, and it cannot run across it.
  rcases List.append_eq_append_iff.mp htext with ⟨part, hpart, hrest⟩ | ⟨part, hpart, -⟩
  · cases part with
    | nil =>
      exact h (unnumbered, []) (taskRule_eq_some.mpr ⟨rfl, digits, hdigits, by
        rw [hpart, List.append_nil, List.append_nil]⟩)
    | cons d ds =>
      obtain ⟨rfl, -⟩ := List.cons.inj hrest
      exact task_notMem_tail hdigits (List.cons_ne_nil c cs) hpart
  · exact h (unnumbered, part) (taskRule_eq_some.mpr ⟨rfl, digits, hdigits, hpart⟩)

/-- A text can be masked up to a `t` and from there on. -/
theorem maskTasks_append_task (x y : List Char) :
    maskTasks (x ++ 't' :: y) = maskTasks x ++ maskTasks ('t' :: y) := by
  -- By induction on the length: where the rule finds a part, masking goes on behind that part.
  induction hn : x.length using Nat.strongRecOn generalizing x with
  | ind n ih =>
    cases x with
    | nil => rfl
    | cons c cs =>
      cases hfound : taskRule true (c :: cs) with
      | none =>
        have hrest := ih cs.length (by simp [← hn]) cs rfl
        rw [List.cons_append, maskTasks_cons_of_none (taskRule_append_task hfound y), hrest,
          maskTasks_cons_of_none hfound, List.cons_append]
      | some found =>
        obtain ⟨-, digits, hdigits, htext⟩ := taskRule_eq_some.mp hfound
        have hshorter : found.2.length < n := by
          rw [← hn, htext]
          simp [numbered]
          omega
        have hrest := ih _ hshorter found.2 rfl
        rw [htext, List.append_assoc, maskTasks_numbered hdigits, hrest,
          maskTasks_numbered hdigits, List.append_assoc]

theorem maskTasks_append_numbered (x : List Char) {digits : List Char} (h : IsNumber digits)
    (y : List Char) :
    maskTasks (x ++ (numbered digits ++ y)) = maskTasks x ++ (unnumbered ++ maskTasks y) := by
  rw [← maskTasks_numbered h]
  exact maskTasks_append_task x _

/-! ## §3 Texts that are the same but for the numbers -/

/-- Texts that differ in the numbers of panicked tasks alone. -/
inductive SameButTasks : List Char → List Char → Prop where
  | refl (text : List Char) : SameButTasks text text
  | task (front : List Char) {digits digits' x y : List Char} (number : IsNumber digits)
      (number' : IsNumber digits') (rest : SameButTasks x y) :
      SameButTasks (front ++ (numbered digits ++ x)) (front ++ (numbered digits' ++ y))

namespace SameButTasks

/-- When they are masked, they are the same. -/
theorem mask_eq {x y : List Char} (h : SameButTasks x y) : maskTasks x = maskTasks y := by
  induction h with
  | refl => rfl
  | task front number number' _ ih =>
    rw [maskTasks_append_numbered front number, maskTasks_append_numbered front number', ih]

theorem prepend {x y : List Char} (front : List Char) (h : SameButTasks x y) :
    SameButTasks (front ++ x) (front ++ y) := by
  cases h with
  | refl => exact .refl _
  | task front' number number' rest =>
    have hwhole := SameButTasks.task (front ++ front') number number' rest
    rwa [List.append_assoc, List.append_assoc] at hwhole

theorem append {x y x' y' : List Char} (h : SameButTasks x y) (h' : SameButTasks x' y') :
    SameButTasks (x ++ x') (y ++ y') := by
  induction h with
  | refl front => exact h'.prepend front
  | task front number number' _ ih =>
    simp only [List.append_assoc]
    exact .task front number number' ih

end SameButTasks

/-! ## §4 Coloured texts -/

/-- What is coloured already does not matter for the rest. -/
theorem resumeOnto_append (colour before done text : List Char) :
    Colour.resumeOnto colour (done ++ before) text =
      before.reverse ++ Colour.resumeOnto colour done text := by
  induction done, text using Colour.resumeOnto.induct colour with
  | case1 done rest ih =>
    rw [List.append_assoc] at ih
    rw [Colour.resumeOnto, Colour.resumeOnto]
    exact ih
  | case2 done c rest h ih =>
    rw [Colour.resumeOnto, Colour.resumeOnto]
    · exact ih
    · exact h
    · exact h
  | case3 done => simp [Colour.resumeOnto]

/-- A text in a colour that is set again after every reset. -/
def resume (colour text : List Char) : List Char := Colour.resumeOnto colour [] text

theorem resume_cons {colour : List Char} {c : Char} {rest : List Char}
    (h : ∀ rest', c = '\x1b' → rest = '[' :: '0' :: 'm' :: rest' → False) :
    resume colour (c :: rest) = c :: resume colour rest := by
  rw [resume, Colour.resumeOnto]
  · exact resumeOnto_append colour [c] [] rest
  · exact h

theorem resume_reset (colour rest : List Char) :
    resume colour ('\x1b' :: '[' :: '0' :: 'm' :: rest) =
      '\x1b' :: '[' :: '0' :: 'm' :: (colour ++ resume colour rest) := by
  rw [resume, Colour.resumeOnto]
  refine (resumeOnto_append colour (colour.reverse ++ ['m', '0', '[', '\x1b']) [] rest).trans ?_
  simp [resume]

/-- No reset holds a `t`, so one that begins in front of a `t` also ends there. -/
theorem reset_of_append_task {rest y rest' : List Char}
    (h : rest ++ 't' :: y = '[' :: '0' :: 'm' :: rest') :
    ∃ tail, rest = '[' :: '0' :: 'm' :: tail := by
  rcases rest with _ | ⟨a, _ | ⟨b, _ | ⟨c, tail⟩⟩⟩
  · simp at h
  · simp at h
  · simp at h
  · simp only [List.cons_append, List.cons.injEq] at h
    obtain ⟨rfl, rfl, rfl, -⟩ := h
    exact ⟨tail, rfl⟩

/-- A text can be coloured up to a `t` and from there on. -/
theorem resume_append_task (colour x y : List Char) :
    resume colour (x ++ 't' :: y) = resume colour x ++ resume colour ('t' :: y) := by
  fun_induction Colour.resumeOnto colour [] x with
  | case1 done rest ih =>
    simp only [List.cons_append, resume_reset, List.append_assoc, ih]
  | case2 done c rest h ih =>
    rw [List.cons_append, resume_cons h, resume_cons, ih, List.cons_append]
    intro rest' hc hrest
    obtain ⟨tail, htail⟩ := reset_of_append_task hrest
    exact h tail hc htail
  | case3 done => rfl

/-- Where no control sequence begins, a text is coloured as it stands. -/
theorem resume_append {x : List Char} (h : '\x1b' ∉ x) (colour rest : List Char) :
    resume colour (x ++ rest) = x ++ resume colour rest := by
  induction x with
  | nil => rfl
  | cons c cs ih =>
    rw [List.mem_cons, not_or] at h
    rw [List.cons_append, resume_cons fun _ hc => absurd hc.symm h.1, ih h.2, List.cons_append]

theorem escape_notMem_numbered {digits : List Char} (h : IsNumber digits) :
    '\x1b' ∉ numbered digits := notMem_around h (by decide) (by decide) (by decide)

namespace SameButTasks

theorem resume {x y : List Char} (colour : List Char) (h : SameButTasks x y) :
    SameButTasks (Masked.resume colour x) (Masked.resume colour y) := by
  induction h with
  | refl => exact .refl _
  | task front number number' _ ih =>
    have hfront : ∀ {digits : List Char} (z : List Char), IsNumber digits →
        Masked.resume colour (front ++ (numbered digits ++ z)) =
          Masked.resume colour front ++ (numbered digits ++ Masked.resume colour z) :=
      fun z hnumber => by
        rw [← resume_append (escape_notMem_numbered hnumber)]
        exact resume_append_task colour front _
    rw [hfront _ number, hfront _ number']
    exact .task _ number number' ih

theorem paint {x y : List Char} (colour : Colour) (h : SameButTasks x y) :
    SameButTasks (colour.paint x) (colour.paint y) :=
  ((h.resume colour.set).prepend colour.set).append (.refl Colour.reset)

theorem paintIf {x y : String} (wanted : Bool) (colour : Colour)
    (h : SameButTasks x.toList y.toList) :
    SameButTasks (colour.paintIf wanted x).toList (colour.paintIf wanted y).toList := by
  cases wanted with
  | false => exact h
  | true =>
    simp only [Colour.paintIf, if_true, String.toList_ofList]
    exact h.paint colour

end SameButTasks

/-! ## §5 The reason of a panicked task -/

theorem sameButTasks_panicReason (n n' : Nat) (message : Option String) :
    SameButTasks (Run.panicReason n message).toList (Run.panicReason n' message).toList := by
  have hreason : ∀ k : Nat, (Run.panicReason k message).toList =
      [] ++ (numbered (toString k).toList ++
        (message.elim "" fun text => " with message " ++ Quoted.quote text).toList) :=
    fun k => by simp [Run.panicReason, numbered]
  rw [hreason, hreason]
  exact .task [] (isNumber_toString n) (isNumber_toString n') (.refl _)

end Conformance.Masked
