import Conformance.Unicode.Age
import Conformance.Unicode.Binary
import Conformance.Unicode.Category
import Conformance.Unicode.Folding
import Conformance.Unicode.Script
import Conformance.Unicode.Segmentation

/-!
# Properties by name

A class of characters is asked for by one name (`L`, `Greek`, `Alphabetic`) or by a name and a
value (`sc=Greek`). Names are compared loosely: case, blanks, hyphens, underscores and an
initial `is` do not count.

One name is first read as a property, then as a general category, then as a script.
-/

namespace Conformance.Unicode

/-- What is asked for. -/
inductive Query where
  | named (name : String)
  | valued (name value : String)
  deriving DecidableEq, Repr

/-- Why there is no such class. -/
inductive QueryError where
  | propertyNotFound
  | valueNotFound
  deriving DecidableEq, Repr

namespace Property

/-- The form in which names are compared. What is not ASCII does not count either. The `is` of
    `isc` counts, because `isc` and `c` are names of different properties. -/
def looseName (name : List Char) : String :=
  let keep (cs : List Char) : List Char :=
    (cs.filter fun c => c.toNat < 0x80 && c != ' ' && c != '_' && c != '-').map Char.toLower
  match name with
  | i :: s :: rest =>
    if i.toLower = 'i' && s.toLower = 's' then
      let rest := keep rest
      if rest = ['c'] then "isc" else String.ofList rest
    else String.ofList (keep name)
  | _ => String.ofList (keep name)

/-- The properties that take values out of a table of names. -/
inductive Valued where
  | age | category | graphemeBreak | script | scriptExtensions | sentenceBreak | wordBreak
  deriving DecidableEq, Repr

/-- The valued properties by their names. -/
def valuedNames : List (List String × Valued) :=
  [(["age"], .age), (["gc", "generalcategory", "category"], .category),
   (["gcb", "graphemeclusterbreak"], .graphemeBreak), (["sc", "script"], .script),
   (["scx", "scriptextensions"], .scriptExtensions), (["sb", "sentencebreak"], .sentenceBreak),
   (["wb", "wordbreak"], .wordBreak)]

/-- The names of properties that are known but hold no class of characters. -/
def otherNames : List String :=
  ["bc", "bidiclass", "bidimirroringglyph", "bmg", "bidipairedbracket", "bpb",
   "bidipairedbrackettype", "bpt", "blk", "block", "canonicalcombiningclass", "ccc", "casefolding",
   "cf", "ce", "compositionexclusion", "changeswhennfkccasefolded", "cwkcf", "cjkaccountingnumeric",
   "kaccountingnumeric", "cjkcompatibilityvariant", "kcompatibilityvariant", "cjkiicore",
   "kiicore", "cjkirggsource", "kirggsource", "cjkirghsource", "kirghsource", "cjkirgjsource",
   "kirgjsource", "cjkirgkpsource", "kirgkpsource", "cjkirgksource", "kirgksource",
   "cjkirgmsource", "kirgmsource", "cjkirgssource", "kirgssource", "cjkirgtsource", "kirgtsource",
   "cjkirguksource", "kirguksource", "cjkirgusource", "kirgusource", "cjkirgvsource",
   "kirgvsource", "cjkothernumeric", "kothernumeric", "cjkprimarynumeric", "kprimarynumeric",
   "cjkrsunicode", "krsunicode", "unicoderadicalstroke", "urs", "compex",
   "fullcompositionexclusion", "decompositionmapping", "dm", "decompositiontype", "dt", "ea",
   "eastasianwidth", "equideo", "equivalentunifiedideograph", "expandsonnfc", "xonfc",
   "expandsonnfd", "xonfd", "expandsonnfkc", "xonfkc", "expandsonnfkd", "xonfkd", "fcnfkc",
   "fcnfkcclosure", "hangulsyllabletype", "hst", "incb", "indicconjunctbreak",
   "indicpositionalcategory", "inpc", "indicsyllabiccategory", "insc", "isc", "ocomment",
   "jamoshortname", "jsn", "jg", "joininggroup", "joiningtype", "jt", "kehcat", "kehdesc", "kehhg",
   "kehifao", "kehjsesh", "kehnomirror", "kehnorotate", "lb", "linebreak", "lc",
   "lowercasemapping", "na", "name", "na1", "unicode1name", "namealias", "nfcqc",
   "nfcquickcheck", "nfdqc", "nfdquickcheck", "nfkccasefold", "nfkccf", "nfkcsimplecasefold",
   "nfkcscf", "nfkcqc", "nfkcquickcheck", "nfkdqc", "nfkdquickcheck", "nt", "numerictype", "nv",
   "numericvalue", "scf", "sfc", "simplecasefolding", "simplelowercasemapping", "slc",
   "simpletitlecasemapping", "stc", "simpleuppercasemapping", "suc", "tc", "titlecasemapping",
   "uc", "uppercasemapping", "verticalorientation", "vo"]

/-- The names that are known to be of a property. -/
def isProperty (name : String) : Bool :=
  (Binary.tables.any fun entry => entry.1.contains name)
    || (valuedNames.any fun entry => entry.1.contains name) || otherNames.contains name

/-- The characters of a general category or of a group of categories. -/
def category? (name : String) : Option (Except QueryError CharSet) :=
  if name = "any" then some (.ok CharSet.all)
  else if name = "assigned" then some (.ok (Category.ofClasses [0]).complement)
  else if name = "ascii" then some (.ok ⟨[(0, 0x7F)]⟩)
  else if Category.surrogateNames.contains name then some (.error .valueNotFound)
  else
    (Category.names.find? fun entry => entry.1.contains name).map fun entry =>
      .ok (Category.ofClasses entry.2)

/-- The characters of a script. -/
def script? (name : String) : Option (Except QueryError CharSet) :=
  (Script.classOf? name).map fun cls =>
    match Script.set? cls with
    | some s => .ok s
    | none => .error .valueNotFound

/-- The class of one name. Three short names are those of a category and not of a property. -/
def classNamed (name : String) : Except QueryError CharSet :=
  let categoryOrScript : Except QueryError CharSet :=
    match category? name with
    | some r => r
    | none => (script? name).getD (.error .propertyNotFound)
  if name = "cf" || name = "sc" || name = "lc" then categoryOrScript
  else if isProperty name then
    match Binary.set? name with
    | some s => .ok s
    | none => .error .propertyNotFound
  else categoryOrScript

/-- The class of a valued property. -/
def classValued (property : Valued) (value : String) : Except QueryError CharSet :=
  let found (s : Option CharSet) : Except QueryError CharSet :=
    match s with
    | some s => .ok s
    | none => .error .valueNotFound
  match property with
  | .age => found (Age.set? value)
  | .category => (category? value).getD (.error .valueNotFound)
  | .graphemeBreak =>
    found (Segmentation.set? Segmentation.graphemeNames Segmentation.graphemeTable value)
  | .script => (script? value).getD (.error .valueNotFound)
  | .scriptExtensions => found ((Script.classOf? value).bind Script.extended?)
  | .sentenceBreak =>
    found (Segmentation.set? Segmentation.sentenceNames Segmentation.sentenceTable value)
  | .wordBreak => found (Segmentation.set? Segmentation.wordNames Segmentation.wordTable value)

/-- The class that a query asks for. -/
def resolve : Query → Except QueryError CharSet
  | .named name => classNamed (looseName name.toList)
  | .valued name value =>
    let name := looseName name.toList
    match valuedNames.find? fun entry => entry.1.contains name with
    | some entry => classValued entry.2 (looseName value.toList)
    | none => .error (if isProperty name then .valueNotFound else .propertyNotFound)

end Property

/-- The characters that are alphabetic. -/
def alphabetic : CharSet := rangeTable Binary.alphabetic

/-- The decimal digits of every script. -/
def digits : CharSet := Category.decimalNumber

/-- White space. -/
def whiteSpace : CharSet := rangeTable Binary.whiteSpace

/-- The characters of words: letters, marks, decimal digits, connectors and joiners. -/
def wordCharacters : CharSet :=
  CharSet.ofRanges
    (alphabetic.ranges ++ (Category.ofClasses [6, 7, 8, 9, 12]).ranges
      ++ (rangeTable Binary.joinControl).ranges)

end Conformance.Unicode
