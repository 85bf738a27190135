import Conformance.Proofs.Markup.Reader

/-!
# Written markup

Elements as they are written, with their attributes between double quotes. What is written can be read
in one way only, whatever the values of the attributes are: their quotes, brackets and ampersands are
entities, so none of them ends a value or a tag early.

- `unescape_escape`: entities are undone.
- `tagsFrom_write`: a tag is read as what was written.
- `build_tags`: the tags of an element make up that element.
- `read_write`: so the element is read from its document.
-/

namespace Conformance.Markup

/-! ## §1 Writing -/

/-- Whether a text is a name. -/
def isName (name : String) : Bool := !name.toList.isEmpty && name.toList.all isNameChar

/-- The characters of attributes. -/
def writeAttributes (attributes : Attributes) : List Char :=
  attributes.flatMap fun a => (Junit.field a.1 a.2).toList

namespace Tag

/-- The characters of a tag. -/
def write : Tag → List Char
  | .start name attributes => '<' :: (name.toList ++ (writeAttributes attributes ++ ['>']))
  | .stop name => '<' :: '/' :: (name.toList ++ ['>'])
  | .single name attributes => '<' :: (name.toList ++ (writeAttributes attributes ++ ['/', '>']))

/-- Whether the names in a tag are names. -/
def isProper : Tag → Bool
  | .start name attributes | .single name attributes =>
    isName name && attributes.all fun a => isName a.1
  | .stop name => isName name

end Tag

mutual

/-- The tags of an element. -/
def Element.tags : Element → List Tag
  | .node name attributes children =>
    if children.isEmpty then [.single name attributes]
    else .start name attributes :: (tagsOfAll children ++ [.stop name])

/-- The tags of elements, one after the other. -/
def tagsOfAll : List Element → List Tag
  | [] => []
  | e :: es => e.tags ++ tagsOfAll es

end

/-- The characters of an element. -/
def Element.write (e : Element) : List Char := e.tags.flatMap Tag.write

/-- Whether all the names in an element are names. -/
def Element.isProper (e : Element) : Bool := e.tags.all Tag.isProper

theorem flatMap_write_tagsOfAll (es : List Element) :
    (tagsOfAll es).flatMap Tag.write = es.flatMap Element.write := by
  induction es with
  | nil => rfl
  | cons e es ih => rw [tagsOfAll, List.flatMap_append, ih, List.flatMap_cons, Element.write]

theorem all_isProper_tagsOfAll (es : List Element) :
    (tagsOfAll es).all Tag.isProper = es.all Element.isProper := by
  induction es with
  | nil => rfl
  | cons e es ih => rw [tagsOfAll, List.all_append, ih, List.all_cons, Element.isProper]

namespace Element

/-- An element that holds nothing is written as one tag. -/
theorem write_leaf (name : String) (attributes : Attributes) :
    (node name attributes []).write = (Tag.single name attributes).write := by
  simp [write, tags]

/-- Any other element is written as what it holds, between two tags. -/
theorem write_node (name : String) (attributes : Attributes) {children : List Element}
    (h : children ≠ []) :
    (node name attributes children).write =
      (Tag.start name attributes).write ++ (children.flatMap write ++ (Tag.stop name).write) := by
  simp [write, tags, h, flatMap_write_tagsOfAll]

/-- The names in an element are its own, those of its attributes, and those in what it holds. -/
theorem isProper_node (name : String) (attributes : Attributes) (children : List Element) :
    (node name attributes children).isProper =
      (isName name && (attributes.all (fun a => isName a.1) && children.all isProper)) := by
  cases children with
  | nil => simp [isProper, tags, Tag.isProper]
  | cons child children =>
    have hall := all_isProper_tagsOfAll (child :: children)
    simp only [isProper, tags, List.isEmpty_cons, Bool.false_eq_true, if_false, List.all_cons,
      List.all_append, List.all_nil, Tag.isProper, Bool.and_true] at hall ⊢
    rw [hall]
    cases isName name <;> simp

end Element

/-- The note in front of a document. -/
def prolog : List Char := "<?xml version=\"1.0\" encoding=\"utf-8\"?>".toList

/-! ## §2 Values of attributes -/

theorem unescape_cons {c : Char} (h : c ≠ '&') (rest : List Char) :
    unescape (c :: rest) = (unescape rest).map (c :: ·) := by
  rw [unescape]
  all_goals simp [h]

/-- What a character is written as stands for it, in front of any text. -/
theorem unescape_escapeChar (c : Char) (rest : List Char) :
    unescape (Junit.escapeChar c ++ rest) = (unescape rest).map (c :: ·) := by
  unfold Junit.escapeChar
  split
  -- Each of the five characters is what its entity stands for.
  · simp [unescape]
  · simp [unescape]
  · simp [unescape]
  · simp [unescape]
  · simp [unescape]
  -- Any other character stands for itself.
  · rename_i hamp _ _
    exact unescape_cons hamp rest

/-- Undoing the entities of a text gives the text. -/
theorem unescape_escape (text : List Char) :
    unescape (text.flatMap Junit.escapeChar) = some text := by
  induction text with
  | nil => rfl
  | cons c cs ih =>
    rw [List.flatMap_cons, unescape_escapeChar, ih]
    rfl

/-- No character is written with a quote or a bracket that ends a value. -/
theorem escapeChar_safe (c : Char) :
    (Junit.escapeChar c).all (fun d => d != '"' && d != '<') = true := by
  unfold Junit.escapeChar
  split
  · rfl
  · rfl
  · rfl
  · rfl
  · rfl
  · rename_i hless _ _ _ hquote
    have hless : (c != '<') = true := by simpa using hless
    have hquote : (c != '"') = true := by simpa using hquote
    simp only [List.all_cons, List.all_nil, hless, hquote, Bool.and_self]

/-! ## §3 Tags -/

theorem tagsFrom_step {p q : Place} {c : Char} (h : step p c = some (q, none)) (rest : List Char) :
    tagsFrom p (c :: rest) = tagsFrom q rest := by
  simp only [tagsFrom, h]

theorem tagsFrom_tag {p q : Place} {c : Char} {tag : Tag} (h : step p c = some (q, some tag))
    (rest : List Char) : tagsFrom p (c :: rest) = (tagsFrom q rest).map (tag :: ·) := by
  simp only [tagsFrom, h]

/-- A place that holds the characters of some kind, last first, holds a text of such characters once
    the reader is behind it. -/
theorem tagsFrom_gather {place : List Char → Place} {holds : Char → Prop}
    (hstep : ∀ held c, holds c → step (place held) c = some (place (c :: held), none))
    {text : List Char} (htext : ∀ c ∈ text, holds c) (held rest : List Char) :
    tagsFrom (place held) (text ++ rest) = tagsFrom (place (text.reverse ++ held)) rest := by
  induction text generalizing held with
  | nil => rfl
  | cons c cs ih =>
    have hc : holds c := htext c List.mem_cons_self
    have hcs : ∀ d ∈ cs, holds d := fun d hd => htext d (List.mem_cons_of_mem c hd)
    rw [List.cons_append, tagsFrom_step (hstep held c hc), ih hcs]
    simp

/-- The characters that end a name do not stand in one. -/
theorem ne_of_isNameChar {c : Char} (h : isNameChar c = true) :
    c ≠ '>' ∧ c ≠ '/' ∧ c ≠ '?' ∧ c ≠ '=' := by
  refine ⟨?_, ?_, ?_, ?_⟩
  all_goals
    rintro rfl
    revert h
    decide

/-- A name has a first character, and all its characters may stand in one. -/
theorem cons_of_isName {name : String} (h : isName name = true) :
    ∃ c cs, name.toList = c :: cs ∧ isNameChar c = true ∧ ∀ d ∈ cs, isNameChar d = true := by
  unfold isName at h
  cases hname : name.toList with
  | nil => simp [hname] at h
  | cons c cs =>
    simp only [hname, List.all_cons, Bool.and_eq_true, List.all_eq_true] at h
    exact ⟨c, cs, rfl, h.2⟩

/-- Behind the name of a tag that begins an element, the reader is in that tag. -/
theorem tagsFrom_startName {name : String} (hname : isName name = true) {rest : List Char}
    (hrest : ∀ c ∈ rest.head?, isNameChar c = false) :
    tagsFrom .opened (name.toList ++ rest) = tagsFrom (.inTag name []) rest := by
  obtain ⟨c, cs, hlist, hc, hcs⟩ := cons_of_isName hname
  obtain ⟨-, hslash, hasked, -⟩ := ne_of_isNameChar hc
  have hopened : step .opened c = some (.startName [c], none) := by
    simp [step, hslash, hasked, hc]
  have hgather : ∀ held d, isNameChar d = true →
      step (.startName held) d = some (.startName (d :: held), none) := fun held d hd => by
    simp [step, hd]
  have hwhole : String.ofList (cs.reverse ++ [c]).reverse = name := by
    rw [List.reverse_append, List.reverse_reverse, List.reverse_singleton, List.singleton_append,
      ← hlist, String.ofList_toList]
  rw [hlist, List.cons_append, tagsFrom_step hopened, tagsFrom_gather hgather hcs]
  -- What ends the name is read as in the tag, and neither place ends a document.
  cases rest with
  | nil => rfl
  | cons d ds =>
    have hd : isNameChar d = false := hrest d rfl
    simp only [tagsFrom, step, hd, hwhole, Bool.false_eq_true, if_false]

/-- Behind the name of a tag that ends an element, the reader waits for its bracket. -/
theorem tagsFrom_stopName {name : String} (hname : isName name = true) (rest : List Char) :
    tagsFrom (.stopName []) (name.toList ++ rest) =
      tagsFrom (.stopName name.toList.reverse) rest := by
  obtain ⟨c, cs, hlist, hc, hcs⟩ := cons_of_isName hname
  have hgather : ∀ held d, isNameChar d = true →
      step (.stopName held) d = some (.stopName (d :: held), none) := fun held d hd => by
    simp [step, hd, (ne_of_isNameChar hd).1]
  have hall : ∀ d ∈ name.toList, isNameChar d = true := by
    rw [hlist]
    exact List.forall_mem_cons.mpr ⟨hc, hcs⟩
  rw [tagsFrom_gather hgather hall, List.append_nil]

/-- An attribute is read as it was written, whatever its value is. -/
theorem tagsFrom_field (name : String) (attributes : Attributes) {key : String}
    (hkey : isName key = true) (value : String) (rest : List Char) :
    tagsFrom (.inTag name attributes) ((Junit.field key value).toList ++ rest) =
      tagsFrom (.inTag name (attributes ++ [(key, value)])) rest := by
  obtain ⟨c, cs, hlist, hc, hcs⟩ := cons_of_isName hkey
  obtain ⟨hend, hslash, -, -⟩ := ne_of_isNameChar hc
  have hspace : c ≠ ' ' := by
    rintro rfl
    revert hc
    decide
  -- The key begins behind the blank and is held up to the equals sign.
  have hbegin : step (.inTag name attributes) c = some (.key name attributes [c], none) := by
    simp [step, stepInTag, hend, hslash, hspace, hc]
  have hgather : ∀ held d, isNameChar d = true →
      step (.key name attributes held) d = some (.key name attributes (d :: held), none) :=
    fun held d hd => by simp [step, hd, (ne_of_isNameChar hd).2.2.2]
  have hequals : step (.key name attributes (cs.reverse ++ [c])) '=' =
      some (.equals name attributes key, none) := by
    have hwhole : String.ofList (cs.reverse ++ [c]).reverse = key := by
      rw [List.reverse_append, List.reverse_reverse, List.reverse_singleton,
        List.singleton_append, ← hlist, String.ofList_toList]
    simp only [step, hwhole, if_true]
  -- The value is held up to its quote, because no quote or bracket is written in it.
  have hvalue : ∀ held d, (d ≠ '"' ∧ d ≠ '<') → step (.value name attributes key held) d =
      some (.value name attributes key (d :: held), none) := fun held d hd => by
    simp [step, hd.1, hd.2]
  have hsafe : ∀ d ∈ value.toList.flatMap Junit.escapeChar, d ≠ '"' ∧ d ≠ '<' := by
    intro d hd
    obtain ⟨e, -, hd⟩ := List.mem_flatMap.mp hd
    have hsafe := List.all_eq_true.mp (escapeChar_safe e) d hd
    simpa using hsafe
  have hquote : step
      (.value name attributes key ((value.toList.flatMap Junit.escapeChar).reverse ++ [])) '"' =
      some (.inTag name (attributes ++ [(key, value)]), none) := by
    simp [step, unescape_escape]
  have hfield : (Junit.field key value).toList ++ rest =
      ' ' :: c :: (cs ++ ('=' :: '"' ::
        (value.toList.flatMap Junit.escapeChar ++ ('"' :: rest)))) := by
    simp [Junit.field, Junit.escape, hlist]
  rw [hfield, tagsFrom_step (q := .inTag name attributes) rfl, tagsFrom_step hbegin,
    tagsFrom_gather hgather hcs, tagsFrom_step hequals,
    tagsFrom_step (q := .value name attributes key []) rfl, tagsFrom_gather hvalue hsafe,
    tagsFrom_step hquote]

theorem tagsFrom_writeAttributes (name : String) (before : Attributes) {attributes : Attributes}
    (hkeys : (attributes.all fun a => isName a.1) = true) (rest : List Char) :
    tagsFrom (.inTag name before) (writeAttributes attributes ++ rest) =
      tagsFrom (.inTag name (before ++ attributes)) rest := by
  induction attributes generalizing before with
  | nil => simp [writeAttributes]
  | cons a as ih =>
    simp only [List.all_cons, Bool.and_eq_true] at hkeys
    have hwrite : writeAttributes (a :: as) ++ rest =
        (Junit.field a.1 a.2).toList ++ (writeAttributes as ++ rest) := by
      simp [writeAttributes]
    rw [hwrite, tagsFrom_field name before hkeys.1, ih _ hkeys.2, List.append_assoc]
    rfl

/-- No name goes on behind its attributes or the end of its tag. -/
theorem head?_writeAttributes (attributes : Attributes) {c : Char} (hc : isNameChar c = false)
    (rest : List Char) :
    ∀ d ∈ (writeAttributes attributes ++ c :: rest).head?, isNameChar d = false := by
  intro d hd
  cases attributes with
  | nil =>
    obtain rfl : c = d := by simpa [writeAttributes] using hd
    exact hc
  | cons a as =>
    obtain rfl : ' ' = d := by simpa [writeAttributes, Junit.field] using hd
    rfl

/-- A tag is read as what was written. -/
theorem tagsFrom_write {tag : Tag} (htag : tag.isProper = true) (rest : List Char) :
    tagsFrom .outside (tag.write ++ rest) = (tagsFrom .outside rest).map (tag :: ·) := by
  have hopen : step .outside '<' = some (.opened, none) := rfl
  cases tag with
  | start name attributes =>
    obtain ⟨hname, hkeys⟩ := Bool.and_eq_true_iff.mp htag
    have hend : step (.inTag name attributes) '>' =
        some (.outside, some (.start name attributes)) := rfl
    simp only [Tag.write, List.cons_append, List.append_assoc, List.nil_append]
    rw [tagsFrom_step hopen,
      tagsFrom_startName hname (head?_writeAttributes attributes (by decide) rest),
      tagsFrom_writeAttributes name [] hkeys, List.nil_append, tagsFrom_tag hend]
  | stop name =>
    have hname : isName name = true := htag
    have hend : step (.stopName name.toList.reverse) '>' =
        some (.outside, some (.stop name)) := by simp [step]
    simp only [Tag.write, List.cons_append, List.append_assoc, List.nil_append]
    rw [tagsFrom_step hopen, tagsFrom_step (q := .stopName []) rfl, tagsFrom_stopName hname,
      tagsFrom_tag hend]
  | single name attributes =>
    obtain ⟨hname, hkeys⟩ := Bool.and_eq_true_iff.mp htag
    have hend : step (.slashed name attributes) '>' =
        some (.outside, some (.single name attributes)) := rfl
    simp only [Tag.write, List.cons_append, List.append_assoc, List.nil_append]
    rw [tagsFrom_step hopen,
      tagsFrom_startName hname (head?_writeAttributes attributes (by decide) ('>' :: rest)),
      tagsFrom_writeAttributes name [] hkeys, List.nil_append,
      tagsFrom_step (q := .slashed name attributes) rfl, tagsFrom_tag hend]

/-- So are tags, one after the other. -/
theorem tagsFrom_flatMap_write {tags : List Tag} (h : tags.all Tag.isProper = true)
    (rest : List Char) :
    tagsFrom .outside (tags.flatMap Tag.write ++ rest) =
      (tagsFrom .outside rest).map (tags ++ ·) := by
  induction tags with
  | nil => simp
  | cons tag tags ih =>
    simp only [List.all_cons, Bool.and_eq_true] at h
    rw [List.flatMap_cons, List.append_assoc, tagsFrom_write h.1, ih h.2, Option.map_map]
    rfl

/-! ## §4 Elements -/

mutual

/-- The tags of an element make up that element. -/
theorem build_tags (e : Element) (around : List Open) (before : List Element) (rest : List Tag) :
    build around before (e.tags ++ rest) = build around (e :: before) rest := by
  cases e with
  | node name attributes children =>
    cases children with
    | nil => rfl
    | cons child children =>
      have hinner := build_tagsOfAll (child :: children) (⟨name, attributes, before⟩ :: around) []
        (.stop name :: rest)
      have htags : (Element.node name attributes (child :: children)).tags ++ rest =
          .start name attributes :: (tagsOfAll (child :: children) ++ .stop name :: rest) := by
        simp [Element.tags]
      rw [htags, build, hinner, build]
      simp

/-- So do the tags of elements, one after the other. -/
theorem build_tagsOfAll (es : List Element) (around : List Open) (before : List Element)
    (rest : List Tag) :
    build around before (tagsOfAll es ++ rest) = build around (es.reverse ++ before) rest := by
  cases es with
  | nil => rfl
  | cons e es =>
    rw [tagsOfAll, List.append_assoc, build_tags e, build_tagsOfAll es]
    simp

end

/-- The note in front of a document is no part of what it holds. -/
theorem tagsFrom_prolog (text : List Char) :
    tagsFrom .outside (prolog ++ text) = tagsFrom .outside text := rfl

/-- An element is read from its document, with a line feed behind it. -/
theorem read_write {e : Element} (he : e.isProper = true) :
    read (prolog ++ (e.write ++ ['\n'])) = some e := by
  have hend : tagsFrom .outside ['\n'] = some [] := rfl
  have htags : tagsFrom .outside (prolog ++ (e.write ++ ['\n'])) = some (e.tags ++ []) := by
    rw [tagsFrom_prolog, Element.write, tagsFrom_flatMap_write he, hend]
    rfl
  have hbuild : build [] [] (e.tags ++ []) = some [e] := by
    rw [build_tags]
    rfl
  simp only [read, htags, Option.bind_some, hbuild]

end Conformance.Markup
