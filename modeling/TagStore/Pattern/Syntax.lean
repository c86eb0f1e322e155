/-!
# Pattern.Syntax

The abstract syntax of patterns: literal characters, character classes, looks (anchors
and word boundaries), concatenation, alternation and bounded or unbounded repetition.
A character class is a small expression over ranges, the classes `\d`, `\w` and `\s`,
general categories, properties, scripts, versions and segmentation classes, combined by union, intersection, difference,
symmetric difference, complement and case closure.
-/

namespace TagStore.Pattern

/-- A zero-width test at a position. -/
inductive Look where
  /-- The start of the text. -/
  | startText
  /-- The end of the text. -/
  | endText
  /-- The start of a line: the start of the text or after a newline. -/
  | startLine
  /-- The end of a line: the end of the text or before a newline. -/
  | endLine
  /-- The start of a line when a line ends in a carriage return, a newline or both. -/
  | startLineCRLF
  /-- The end of a line when a line ends in a carriage return, a newline or both. -/
  | endLineCRLF
  /-- Word characters on exactly one side. -/
  | wordBoundary
  /-- Word characters on both sides or on neither. -/
  | notWordBoundary
  /-- A word character after and none before. -/
  | wordStart
  /-- A word character before and none after. -/
  | wordEnd
  /-- No word character before. -/
  | wordStartHalf
  /-- No word character after. -/
  | wordEndHalf
  /-- The ASCII variants of the word tests. -/
  | asciiWord (l : Look)
  deriving BEq, Repr, Inhabited

/-- The segmentation properties whose classes patterns can name. -/
inductive Segmentation where
  /-- `Word_Break`. -/
  | word
  /-- `Sentence_Break`. -/
  | sentence
  /-- `Grapheme_Cluster_Break`. -/
  | grapheme
  deriving BEq, Repr, Inhabited

/-- A set of characters. -/
inductive CharSet where
  /-- The characters from `lo` to `hi`, both included. -/
  | range (lo hi : Char)
  /-- Decimal digits: `Nd`, or only `0-9` when `ascii`. -/
  | digit (ascii : Bool)
  /-- Word characters: letters, marks, decimal digits, connector punctuation and the
  joiners, or only `[0-9A-Za-z_]` when `ascii`. -/
  | word (ascii : Bool)
  /-- Blank characters, or only ASCII blanks when `ascii`. -/
  | space (ascii : Bool)
  /-- Characters of the given two-letter general categories. -/
  | categories (names : List String)
  /-- Characters of a named property such as `Alphabetic`. -/
  | property (name : String)
  /-- Characters of a script, by its long name, such as `Greek`. -/
  | script (name : String)
  /-- Characters used with a script, by its long name: those of the script whose use is not
  shared, and the shared ones that list it among their script extensions. -/
  | scriptExtension (name : String)
  /-- Characters assigned by a version of the character database: in the version at the
  given position of `Text.ageNames`, counted from one, or in an earlier one. -/
  | assignedBy (version : Nat)
  /-- Characters of a class of a segmentation property, by the long name of the class. -/
  | breakClass (kind : Segmentation) (name : String)
  /-- Every character. -/
  | any
  | union (xs : List CharSet)
  | inter (a b : CharSet)
  | diff (a b : CharSet)
  | symmDiff (a b : CharSet)
  | complement (x : CharSet)
  /-- The characters equal up to case to one of the set. -/
  | caseClosure (x : CharSet)
  /-- The set with the other case of each ASCII letter in it. -/
  | asciiCaseClosure (x : CharSet)
  deriving Repr, Inhabited

/-- A pattern. -/
inductive Node where
  /-- Matches the empty text. -/
  | empty
  /-- One character; `caseless` lets it match the characters equal to it up to case. -/
  | literal (c : Char) (caseless : Bool)
  /-- One character of a set. -/
  | set (s : CharSet)
  | look (l : Look)
  | concat (xs : List Node)
  | alt (xs : List Node)
  /-- At least `min` and at most `max` (none: any number of) repetitions. -/
  | rep (x : Node) (min : Nat) (max : Option Nat)
  /-- A capturing group: it matches as its pattern does; the group itself only counts in
  the size of the compiled pattern. -/
  | capture (x : Node)
  deriving Repr, Inhabited

end TagStore.Pattern
