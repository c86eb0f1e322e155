import TagStore.Pattern.Syntax
import TagStore.Text.Alphabetic
import TagStore.Text.Category
import TagStore.Text.CaseFold
import TagStore.Text.Blank
import TagStore.Text.Lowercase
import TagStore.Text.WordBreakClass
import TagStore.Text.Properties
import TagStore.Text.Script
import TagStore.Text.Age
import TagStore.Text.SentenceBreak
import TagStore.Text.GraphemeBreak
/-!
# Pattern.Classes

Membership in character sets, and the word test that word boundaries use. A word
character is a letter (`Alphabetic`), a mark, a decimal digit, connector punctuation or
one of the two joiners U+200C and U+200D; in ASCII mode only `[0-9A-Za-z_]`.

Patterns follow Unicode 16.0. The tables of categories, letters, case and word classes
follow 17.0, which text analysis needs, so patterns read them through a view of 16.0: a
character that 17.0 assigned is unassigned there, and U+0295, which 17.0 made a letter
without case (`Lo`) when it added a cased pair for it, is a lowercase letter (`Ll`).
-/

namespace TagStore.Pattern

/-! ## Unicode 16.0 over the shared tables -/

/-- The code point that 17.0 moved from `Ll` to `Lo`. -/
def recasedLetter : Nat := 0x295

/-- The general category of a character in Unicode 16.0. -/
def category (c : Char) : String :=
  if Text.isLater c then "Cn"
  else if c.toNat == recasedLetter then "Ll"
  else Text.category c

/-- Whether a character is `Alphabetic` in Unicode 16.0. -/
def isAlphabetic (c : Char) : Bool := !Text.isLater c && Text.isAlphabetic c

/-- Whether a character is `Cased` in Unicode 16.0. -/
def isCased (c : Char) : Bool :=
  c.toNat == recasedLetter || (!Text.isLater c && Text.isCased c)

/-- Whether a character is `Case_Ignorable` in Unicode 16.0. -/
def isCaseIgnorable (c : Char) : Bool := !Text.isLater c && Text.isCaseIgnorable c

/-- The long name of the word-break class of a character in Unicode 16.0. -/
def wordClassName (c : Char) : String :=
  if Text.isLater c then "Other" else (Text.wordClass c).name

/-! ## Membership -/

/-- Whether a character is a word character. -/
def isWordChar (c : Char) : Bool :=
  isAlphabetic c ||
    (let g := category c; g.startsWith "M" || g == "Nd" || g == "Pc") ||
    c.toNat == 0x200C || c.toNat == 0x200D

/-- Whether a character is an ASCII word character. -/
def isAsciiWordChar (c : Char) : Bool := c.isAlphanum || c == '_'

/-- Whether a character is an ASCII blank: tab, newline, vertical tab, form feed,
carriage return or space. -/
def isAsciiSpace (c : Char) : Bool := (9 ≤ c.toNat && c.toNat ≤ 13) || c == ' '

/-- Whether a character has a named property. -/
def hasProperty (name : String) (c : Char) : Bool :=
  match name with
  | "Alphabetic" => isAlphabetic c
  | "White_Space" => Text.isBlank c
  | "Assigned" => category c != "Cn"
  | "ASCII" => c.toNat < 128
  | "Cased" => isCased c
  | "Case_Ignorable" => isCaseIgnorable c
  | _ => match Text.propertyBounds? name with
    | some b => Text.inBounds b c
    | none => false

/-- The long name of the class of a character under a segmentation property. -/
def breakClassOf : Segmentation → Char → String
  | .word, c => wordClassName c
  | .sentence, c => Text.sentenceClass c
  | .grapheme, c => Text.graphemeClass c

/-- A character with the other case of an ASCII letter. -/
def asciiVariants (c : Char) : List Char :=
  if c.isLower then [c, c.toUpper] else if c.isUpper then [c, c.toLower] else [c]

mutual
/-- Whether a character is in a set. -/
def CharSet.contains : CharSet → Char → Bool
  | .range lo hi, c => lo ≤ c && c ≤ hi
  | .digit ascii, c => if ascii then c.isDigit else category c == "Nd"
  | .word ascii, c => if ascii then isAsciiWordChar c else isWordChar c
  | .space ascii, c => if ascii then isAsciiSpace c else Text.isBlank c
  | .categories names, c => names.contains (category c)
  | .property name, c => hasProperty name c
  | .script name, c => Text.script c == name
  | .scriptExtension name, c => (Text.scriptExtensions c).contains name
  | .assignedBy v, c => Text.assignedBy v c
  | .breakClass kind name, c => breakClassOf kind c == name
  | .any, _ => true
  | .union xs, c => CharSet.containsAny xs c
  | .inter a b, c => a.contains c && b.contains c
  | .diff a b, c => a.contains c && !b.contains c
  | .symmDiff a b, c => a.contains c != b.contains c
  | .complement x, c => !x.contains c
  | .caseClosure x, c => CharSet.containsVariant x (Text.caseVariants c)
  | .asciiCaseClosure x, c => CharSet.containsVariant x (asciiVariants c)

/-- Whether a character is in one of several sets. -/
def CharSet.containsAny : List CharSet → Char → Bool
  | [], _ => false
  | x :: xs, c => x.contains c || CharSet.containsAny xs c

/-- Whether one of several characters is in a set. -/
def CharSet.containsVariant (x : CharSet) : List Char → Bool
  | [] => false
  | c :: cs => x.contains c || CharSet.containsVariant x cs
end

/-- Whether a look holds between the characters `before` and `after` (none at the ends
of the text). -/
def Look.holds (l : Look) (before after : Option Char) : Bool :=
  let w (word : Char → Bool) (c : Option Char) : Bool := (c.map word).getD false
  let test (word : Char → Bool) : Look → Bool
    | .wordBoundary => w word before != w word after
    | .notWordBoundary => w word before == w word after
    | .wordStart => !w word before && w word after
    | .wordEnd => w word before && !w word after
    | .wordStartHalf => !w word before
    | .wordEndHalf => !w word after
    | _ => false
  match l with
  | .startText => before.isNone
  | .endText => after.isNone
  | .startLine => before.isNone || before == some '\n'
  | .endLine => after.isNone || after == some '\n'
  | .startLineCRLF =>
    before.isNone || before == some '\n' || (before == some '\r' && after != some '\n')
  | .endLineCRLF =>
    after.isNone || after == some '\r' || (after == some '\n' && before != some '\r')
  | .asciiWord inner => test isAsciiWordChar inner
  | other => test isWordChar other

end TagStore.Pattern
