import TagStore.Pattern.Syntax
import TagStore.Text.Properties
import TagStore.Text.Script
import TagStore.Text.Age
import TagStore.Text.WordBreakClass
import TagStore.Text.SentenceBreak
import TagStore.Text.GraphemeBreak
/-!
# Pattern.Property

The character sets that `\p{…}` names. A name is compared loosely: an `is` prefix,
blanks, underscores and hyphens are dropped, letters are lowered and characters outside
ASCII are ignored.

A lone name is a binary property (`Alphabetic`, `White_Space`, `Math` and the others of
`Text.Properties`), else a general category by its short or long name, or one of `Any`,
`ASCII` and `Assigned`, else a script (`Greek`, `Han`, …). The short names `cf`, `sc` and
`lc` are categories, though properties share them.

A name with a value names a general category (`General_Category`, `gc`), a script
(`Script`, `sc`), the characters used with a script (`Script_Extensions`, `scx`), the
characters assigned by a version (`Age`, as `V3_0` or `3.0`: that version and the ones
before it), or a class of word, sentence or grapheme-cluster breaking (`Word_Break`,
`Sentence_Break`, `Grapheme_Cluster_Break` and their short names). A value these do not
know, a script or class without characters of its own, and any value of another property
of the character database are refused as missing values; a name that is no property at
all is refused as a missing property.
-/

namespace TagStore.Pattern

/-- Why a name in `\p{…}` stands for no set. -/
inductive PropertyMiss where
  /-- No property has the name. -/
  | name
  /-- The property has no such value, or none that patterns can use. -/
  | value
  deriving BEq, Repr

/-- The loose form of a property name. -/
def looseName (name : String) : String :=
  let cs := name.toList
  let (hasIs, body) := match cs with
    | a :: b :: rest => if a.toLower == 'i' && b.toLower == 's' then (true, rest) else (false, cs)
    | _ => (false, cs)
  let kept := (body.filter fun c => c.toNat < 128 && c != ' ' && c != '_' && c != '-').map
    Char.toLower
  -- "isc" is the short name of a property, not the category "c" behind an "is"
  if hasIs && kept == ['c'] then "isc" else String.ofList kept

/-- The general categories behind a loose category name. -/
def categoryNamed? : String → Option (List String)
  | "c" | "other" => some ["Cc", "Cf", "Cn", "Co", "Cs"]
  | "cc" | "control" | "cntrl" => some ["Cc"]
  | "cf" | "format" => some ["Cf"]
  | "cn" | "unassigned" => some ["Cn"]
  | "co" | "privateuse" => some ["Co"]
  | "cs" | "surrogate" => some ["Cs"]
  | "l" | "letter" => some ["Ll", "Lm", "Lo", "Lt", "Lu"]
  | "lc" | "casedletter" | "l&" => some ["Ll", "Lt", "Lu"]
  | "ll" | "lowercaseletter" => some ["Ll"]
  | "lm" | "modifierletter" => some ["Lm"]
  | "lo" | "otherletter" => some ["Lo"]
  | "lt" | "titlecaseletter" => some ["Lt"]
  | "lu" | "uppercaseletter" => some ["Lu"]
  | "m" | "mark" | "combiningmark" => some ["Mc", "Me", "Mn"]
  | "mc" | "spacingmark" => some ["Mc"]
  | "me" | "enclosingmark" => some ["Me"]
  | "mn" | "nonspacingmark" => some ["Mn"]
  | "n" | "number" => some ["Nd", "Nl", "No"]
  | "nd" | "decimalnumber" | "digit" => some ["Nd"]
  | "nl" | "letternumber" => some ["Nl"]
  | "no" | "othernumber" => some ["No"]
  | "p" | "punctuation" | "punct" => some ["Pc", "Pd", "Pe", "Pf", "Pi", "Po", "Ps"]
  | "pc" | "connectorpunctuation" => some ["Pc"]
  | "pd" | "dashpunctuation" => some ["Pd"]
  | "pe" | "closepunctuation" => some ["Pe"]
  | "pf" | "finalpunctuation" => some ["Pf"]
  | "pi" | "initialpunctuation" => some ["Pi"]
  | "po" | "otherpunctuation" => some ["Po"]
  | "ps" | "openpunctuation" => some ["Ps"]
  | "s" | "symbol" => some ["Sc", "Sk", "Sm", "So"]
  | "sc" | "currencysymbol" => some ["Sc"]
  | "sk" | "modifiersymbol" => some ["Sk"]
  | "sm" | "mathsymbol" => some ["Sm"]
  | "so" | "othersymbol" => some ["So"]
  | "z" | "separator" => some ["Zl", "Zp", "Zs"]
  | "zl" | "lineseparator" => some ["Zl"]
  | "zp" | "paragraphseparator" => some ["Zp"]
  | "zs" | "spaceseparator" => some ["Zs"]
  | _ => none

/-- The set behind a loose category name, with `Any`, `ASCII` and `Assigned`. -/
def categorySet? (loose : String) : Option CharSet :=
  match loose with
  | "any" => some .any
  | "ascii" => some (.property "ASCII")
  | "assigned" => some (.property "Assigned")
  | _ => (categoryNamed? loose).map CharSet.categories

/-- The long name of the entry of an alias table that a loose name stands for. -/
def aliasNamed? (table : List (String × List String)) (loose : String) : Option String :=
  (table.find? fun (_, names) => names.any (looseName · == loose)).map (·.1)

/-- The set of a script's characters, made by `make` from its long name; a script without
characters of its own is a missing value. -/
def scriptSet (make : String → CharSet) (name : String) : Except PropertyMiss CharSet :=
  if name != "Unknown" && Text.scriptNames.contains name then .ok (make name) else .error .value

/-- The set a lone name stands for. -/
def namedSet (name : String) : Except PropertyMiss CharSet :=
  let loose := looseName name
  let asProperty := if loose == "cf" || loose == "sc" || loose == "lc" then none
    else aliasNamed? Text.propertyAliases loose
  match asProperty, categorySet? loose with
  | some p, _ => .ok (.property p)
  | none, some s => .ok s
  | none, none =>
    match aliasNamed? Text.scriptAliases loose with
    | some script => scriptSet .script script
    | none => .error .name

/-- Whether a loose name is one of a property of the character database. -/
def isPropertyName (loose : String) : Bool :=
  (aliasNamed? Text.propertyAliases loose).isSome ||
    Text.otherPropertyAliases.any (·.any (looseName · == loose))

/-- The set a name and value stand for. -/
def valuedSet (name value : String) : Except PropertyMiss CharSet :=
  let loose := looseName name
  let value := looseName value
  let script (make : String → CharSet) : Except PropertyMiss CharSet :=
    match aliasNamed? Text.scriptAliases value with
    | some s => scriptSet make s
    | none => .error .value
  let valueOf (table : List (String × List String)) (make : String → CharSet) :
      Except PropertyMiss CharSet :=
    match aliasNamed? table value with
    | some v => .ok (make v)
    | none => .error .value
  if loose == "gc" || loose == "generalcategory" then
    match categorySet? value with
    | some s => .ok s
    | none => .error .value
  else if loose == "sc" || loose == "script" then script .script
  else if loose == "scx" || loose == "scriptextensions" then script .scriptExtension
  else if loose == "age" then
    match Text.ageAliases.findIdx? (fun (_, names) => names.any (looseName · == value)) with
    | some i => .ok (.assignedBy (i + 1))
    | none => .error .value
  else if loose == "wb" || loose == "wordbreak" then valueOf Text.wordClassAliases (.breakClass .word)
  else if loose == "sb" || loose == "sentencebreak" then
    valueOf Text.sentenceClassAliases (.breakClass .sentence)
  else if loose == "gcb" || loose == "graphemeclusterbreak" then
    valueOf Text.graphemeClassAliases (.breakClass .grapheme)
  else if isPropertyName loose then .error .value
  else .error .name

end TagStore.Pattern
