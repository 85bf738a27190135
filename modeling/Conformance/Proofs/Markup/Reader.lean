import Conformance.Report.Junit

/-!
# Reading markup

Documents of elements that have attributes and hold other elements, but no text of their own. A
document is read in two passes: from characters to tags, by a machine that takes one character at a
time, and from tags to elements, which have to be nested.

- `tagsFrom`: the first pass, and `unescape`, for the values of attributes in it.
- `build`: the second pass.
- `read`: the element that a document holds.
-/

namespace Conformance.Markup

/-! ## §1 Elements and tags -/

/-- Attributes: their names and their values. -/
abbrev Attributes := List (String × String)

/-- An element, its attributes and the elements that it holds. -/
inductive Element where
  | node (name : String) (attributes : Attributes) (children : List Element)

namespace Element

/-- The name of an element. -/
def name : Element → String
  | .node name _ _ => name

/-- The elements that an element holds under a name. -/
def childrenNamed (name : String) : Element → List Element
  | .node _ _ children => children.filter fun child => child.name = name

/-- The value of an attribute of an element. -/
def value? (key : String) : Element → Option String
  | .node _ attributes _ => (attributes.find? fun a => a.1 = key).map (·.2)

end Element

/-- A tag. -/
inductive Tag where
  /-- An element begins. -/
  | start (name : String) (attributes : Attributes)
  /-- An element ends. -/
  | stop (name : String)
  /-- An element that holds nothing. -/
  | single (name : String) (attributes : Attributes)

/-! ## §2 From characters to tags -/

/-- Whether a character may stand in a name. -/
def isNameChar (c : Char) : Bool := c.isAlphanum || c = '-' || c = '_' || c = '.' || c = ':'

/-- The text that the value of an attribute stands for: entities stand for the five characters that
    are set apart, and an ampersand begins nothing else. -/
def unescape : List Char → Option (List Char)
  | '&' :: 'l' :: 't' :: ';' :: rest => (unescape rest).map ('<' :: ·)
  | '&' :: 'g' :: 't' :: ';' :: rest => (unescape rest).map ('>' :: ·)
  | '&' :: 'a' :: 'm' :: 'p' :: ';' :: rest => (unescape rest).map ('&' :: ·)
  | '&' :: 'a' :: 'p' :: 'o' :: 's' :: ';' :: rest => (unescape rest).map ('\'' :: ·)
  | '&' :: 'q' :: 'u' :: 'o' :: 't' :: ';' :: rest => (unescape rest).map ('"' :: ·)
  | '&' :: _ => none
  | c :: rest => (unescape rest).map (c :: ·)
  | [] => some []

/-- Where the reader stands in a document. Characters of what is not complete are held last first. -/
inductive Place where
  /-- Between tags. -/
  | outside
  /-- Behind `<`. -/
  | opened
  /-- In a note to the reader, between `<?` and `?>`; it is told whether a question mark came last. -/
  | note (asked : Bool)
  /-- In the name of a tag that ends an element. -/
  | stopName (name : List Char)
  /-- In the name of any other tag. -/
  | startName (name : List Char)
  /-- Behind the name of a tag and some of its attributes. -/
  | inTag (name : String) (attributes : Attributes)
  /-- In the name of an attribute. -/
  | key (name : String) (attributes : Attributes) (key : List Char)
  /-- Behind `=`. -/
  | equals (name : String) (attributes : Attributes) (key : String)
  /-- In the value of an attribute. -/
  | value (name : String) (attributes : Attributes) (key : String) (value : List Char)
  /-- Behind `/` at the end of a tag. -/
  | slashed (name : String) (attributes : Attributes)

/-- The effect of a character behind the name of a tag and some of its attributes. -/
def stepInTag (name : String) (attributes : Attributes) (c : Char) : Option (Place × Option Tag) :=
  if c = '>' then some (.outside, some (.start name attributes))
  else if c = '/' then some (.slashed name attributes, none)
  else if c = ' ' then some (.inTag name attributes, none)
  else if isNameChar c then some (.key name attributes [c], none)
  else none

/-- The effect of one character: where the reader stands after it, and the tag that it completes. -/
def step (p : Place) (c : Char) : Option (Place × Option Tag) :=
  match p with
  | .outside =>
    if c = '<' then some (.opened, none)
    else if c.isWhitespace then some (.outside, none)
    else none
  | .opened =>
    if c = '?' then some (.note false, none)
    else if c = '/' then some (.stopName [], none)
    else if isNameChar c then some (.startName [c], none)
    else none
  | .note asked =>
    if asked && c = '>' then some (.outside, none) else some (.note (c = '?'), none)
  | .stopName name =>
    if c = '>' then some (.outside, some (.stop (String.ofList name.reverse)))
    else if isNameChar c then some (.stopName (c :: name), none)
    else none
  | .startName name =>
    if isNameChar c then some (.startName (c :: name), none)
    else stepInTag (String.ofList name.reverse) [] c
  | .inTag name attributes => stepInTag name attributes c
  | .key name attributes key =>
    if c = '=' then some (.equals name attributes (String.ofList key.reverse), none)
    else if isNameChar c then some (.key name attributes (c :: key), none)
    else none
  | .equals name attributes key =>
    if c = '"' then some (.value name attributes key [], none) else none
  | .value name attributes key value =>
    if c = '"' then
      (unescape value.reverse).map fun text =>
        (.inTag name (attributes ++ [(key, String.ofList text)]), none)
    else if c = '<' then none
    else some (.value name attributes key (c :: value), none)
  | .slashed name attributes =>
    if c = '>' then some (.outside, some (.single name attributes)) else none

/-- The tags of a document from a place on. A document does not end within a tag. -/
def tagsFrom (p : Place) : List Char → Option (List Tag)
  | [] =>
    match p with
    | .outside => some []
    | _ => none
  | c :: cs =>
    match step p c with
    | some (p, none) => tagsFrom p cs
    | some (p, some tag) => (tagsFrom p cs).map (tag :: ·)
    | none => none

/-! ## §3 From tags to elements -/

/-- An element that is not complete: its name and attributes, and the elements in front of it in the
    element around it, last first. -/
structure Open where
  name : String
  attributes : Attributes
  before : List Element

/-- The elements that tags make up. `around` holds the elements that are not complete, innermost
    first, and `before` those that are, in the innermost of them, last first. -/
def build (around : List Open) (before : List Element) : List Tag → Option (List Element)
  | [] => if around.isEmpty then some before.reverse else none
  | .single name attributes :: tags => build around (.node name attributes [] :: before) tags
  | .start name attributes :: tags => build (⟨name, attributes, before⟩ :: around) [] tags
  | .stop name :: tags =>
    match around with
    | [] => none
    | o :: around =>
      if o.name = name then
        build around (.node o.name o.attributes before.reverse :: o.before) tags
      else none

/-- The element that a document holds, if it is a document of one element. -/
def read (text : List Char) : Option Element :=
  match (tagsFrom .outside text).bind (build [] []) with
  | some [e] => some e
  | _ => none

end Conformance.Markup
