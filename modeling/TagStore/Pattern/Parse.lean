import TagStore.Pattern.Classes
import TagStore.Pattern.Property
import TagStore.Text.Alphanumeric
/-!
# Pattern.Parse

Reading a pattern. The syntax is the common one of `|`, `*`, `+`, `?`, `{n,m}` (each
with a lazy form), groups `( … )`, `(?: … )`, named groups `(?P<name> … )` and
`(?<name> … )`, flag groups `(?flags)` and `(?flags: … )`, bracketed classes with ranges,
nested classes, ASCII classes `[:name:]` and the operators `&&`, `--` and `~~`, and the
escapes `\d \s \w \p{…} \b \B \A \z \< \>`, `\b{start}` and its kin, `\x`, `\u`, `\U`
and the control escapes.

Flags are `i` (case-insensitive), `m` (multi-line anchors), `s` (`.` takes newlines),
`U` (lazy by default), `u` (Unicode classes, on by default), `x` (blanks and `#`
comments ignored) and `R` (lines end in `\r\n`). A flag group changes the flags up to
the end of the enclosing group, so the flags are applied while reading and the result
holds no flag at all: a literal knows whether it ignores case, an anchor whether it
looks at lines.

Without `u`, a pattern must not match a byte of a character outside ASCII on its own:
so `.`, negated classes and `\xNN` above `\x7F` are refused there.
-/

namespace TagStore.Pattern

/-- Why a pattern is refused. -/
inductive PatternError where
  | unclosedGroup
  | unopenedGroup
  | missingRepetition
  | badRepetition
  | unclosedClass
  | badClass
  | badEscape
  | badFlags
  | badGroupName
  | unknownProperty
  | unknownPropertyValue
  | notUnicode
  | nestLimit
  | tooBig
  deriving BEq, Repr

/-- The text of a refusal. -/
def PatternError.describe : PatternError → String
  | .unclosedGroup => "unclosed group"
  | .unopenedGroup => "unopened group"
  | .missingRepetition => "repetition operator missing expression"
  | .badRepetition => "invalid repetition count"
  | .unclosedClass => "unclosed character class"
  | .badClass => "invalid character class"
  | .badEscape => "invalid escape sequence"
  | .badFlags => "invalid flags"
  | .badGroupName => "invalid capture group name"
  | .unknownProperty => "Unicode property not found"
  | .unknownPropertyValue => "Unicode property value not found"
  | .notUnicode => "pattern can match invalid UTF-8"
  | .nestLimit => "exceeds the nest limit"
  | .tooBig => "compiled pattern exceeds the size limit"

/-- The flags in force at a point of a pattern. -/
structure Flags where
  caseless : Bool := false
  multiLine : Bool := false
  dotAll : Bool := false
  lazy : Bool := false
  unicode : Bool := true
  verbose : Bool := false
  crlf : Bool := false
  deriving BEq, Repr

/-- A flag letter. -/
inductive FlagName where
  | caseless | multiLine | dotAll | lazy | unicode | verbose | crlf
  deriving BEq, Repr

/-- The flag a letter names. -/
def FlagName.ofChar? : Char → Option FlagName
  | 'i' => some .caseless
  | 'm' => some .multiLine
  | 's' => some .dotAll
  | 'U' => some .lazy
  | 'u' => some .unicode
  | 'x' => some .verbose
  | 'R' => some .crlf
  | _ => none

/-- Sets one flag. -/
def Flags.set (f : Flags) (name : FlagName) (on : Bool) : Flags :=
  match name with
  | .caseless => { f with caseless := on }
  | .multiLine => { f with multiLine := on }
  | .dotAll => { f with dotAll := on }
  | .lazy => { f with lazy := on }
  | .unicode => { f with unicode := on }
  | .verbose => { f with verbose := on }
  | .crlf => { f with crlf := on }

/-- Sets flags in order. -/
def Flags.apply (f : Flags) (settings : List (FlagName × Bool)) : Flags :=
  settings.foldl (fun g (n, on) => g.set n on) f

/-! ### Characters and blanks -/

/-- Characters that an escape turns into themselves because they have a meaning. -/
def isMeta (c : Char) : Bool := "\\.+*?()|[]{}^$#&-~".toList.contains c

/-- Characters that an escape may turn into themselves: the meta characters and ASCII
characters other than letters, digits, `<` and `>`. -/
def isEscapable (c : Char) : Bool :=
  isMeta c || (c.toNat < 128 && !c.isAlphanum && c != '<' && c != '>')

/-- Whether a character is a hexadecimal digit. -/
def isHexDigit (c : Char) : Bool := (Text.hexDigitValue? c).isSome

/-- The value of hexadecimal digits. -/
def hexValue (ds : List Char) : Nat :=
  ds.foldl (fun n c => n * 16 + (Text.hexDigitValue? c).getD 0) 0

/-- The character with a code, if the code is one. -/
def charOfCode? (n : Nat) : Option Char :=
  if n < 0xD800 || (0xDFFF < n && n ≤ 0x10FFFF) then some (Char.ofNat n) else none

/-- Skips blanks and `#` comments in verbose mode; `inComment` is set inside a comment. -/
def skipBlanks (inComment : Bool) : List Char → List Char
  | [] => []
  | c :: cs =>
    if inComment then skipBlanks (c != '\n') cs
    else if Text.isBlank c then skipBlanks false cs
    else if c == '#' then skipBlanks true cs
    else c :: cs

/-- What is left after blanks and comments, when the flags ignore them. -/
def skipSpace (verbose : Bool) (cs : List Char) : List Char :=
  if verbose then skipBlanks false cs else cs

theorem length_skipBlanks_le (b : Bool) (cs : List Char) :
    (skipBlanks b cs).length ≤ cs.length := by
  induction cs generalizing b with
  | nil => simp [skipBlanks]
  | cons c cs ih =>
    simp only [skipBlanks]
    have h1 := ih (c != '\n')
    have h2 := ih false
    have h3 := ih true
    split <;> (try split) <;> (try split) <;> simp <;> omega

theorem length_skipSpace_le (v : Bool) (cs : List Char) :
    (skipSpace v cs).length ≤ cs.length := by
  unfold skipSpace
  split
  · exact length_skipBlanks_le false cs
  · exact Nat.le_refl _

/-! ### Escapes -/

/-- What an escape stands for. -/
inductive Escape where
  | char (c : Char)
  | set (s : CharSet)
  | look (l : Look)

/-- Reads the digits of a braced escape up to `}`; the list starts after a blank skip. -/
def bracedDigits (v : Bool) (acc : List Char) (cs : List Char) :
    Except PatternError (List Char × List Char) :=
  match cs with
  | [] => .error .badEscape
  | c :: rest =>
    if c == '}' then .ok (acc.reverse, rest)
    else if isHexDigit c then bracedDigits v (c :: acc) (skipSpace v rest)
    else .error .badEscape
termination_by cs.length
decreasing_by
  have := length_skipSpace_le v rest
  simp only [List.length_cons]
  omega

/-- Reads `k` hexadecimal digits, which blanks may separate in verbose mode. -/
def fixedDigits (v : Bool) : Nat → List Char → List Char → Except PatternError (List Char × List Char)
  | 0, acc, cs => .ok (acc.reverse, cs)
  | _ + 1, _, [] => .error .badEscape
  | k + 1, acc, c :: rest =>
    if !isHexDigit c then .error .badEscape
    else if k == 0 then .ok ((c :: acc).reverse, skipSpace v rest)
    else fixedDigits v k (c :: acc) (skipSpace v rest)

/-- Reads a code after `\x` (two digits), `\u` (four) or `\U` (eight), or any number of
digits in braces. Without `u`, `\x` above `7F` is refused. -/
def readCode (f : Flags) (letter : Char) (cs : List Char) :
    Except PatternError (Char × List Char) := do
  let cs := skipSpace f.verbose cs
  let (digits, rest) ← match cs with
    | [] => .error .badEscape
    | '{' :: more => do
      let (ds, r) ← bracedDigits f.verbose [] (skipSpace f.verbose more)
      if ds.isEmpty then .error .badEscape
      pure (ds, skipSpace f.verbose r)
    | _ => fixedDigits f.verbose (if letter == 'x' then 2 else if letter == 'u' then 4 else 8) [] cs
  match charOfCode? (hexValue digits) with
  | none => .error .badEscape
  | some c =>
    if !f.unicode && letter == 'x' && 0x80 ≤ c.toNat && c.toNat ≤ 0xFF then .error .notUnicode
    else pure (c, rest)

/-- Reads a property name in braces; the list starts after a blank skip. -/
def bracedName (v : Bool) (acc : List Char) (cs : List Char) :
    Except PatternError (List Char × List Char) :=
  match cs with
  | [] => .error .badEscape
  | c :: rest =>
    if c == '}' then .ok (acc.reverse, rest)
    else bracedName v (c :: acc) (skipSpace v rest)
termination_by cs.length
decreasing_by
  have := length_skipSpace_le v rest
  simp only [List.length_cons]
  omega

/-- Splits `name!=value`, else `name:value` or `name=value` at the first `:` or `=`; the
flag is set for `!=`. -/
def splitValue (text : List Char) : Option (List Char × List Char × Bool) :=
  let rec find (pre : List Char) : List Char → Option (List Char × List Char × Bool)
    | [] => none
    | '!' :: '=' :: rest => some (pre.reverse, rest, true)
    | c :: rest => find (c :: pre) rest
  let isSep (c : Char) : Bool := c == ':' || c == '='
  match find [] text with
  | some r => some r
  | none =>
    if text.any isSep then some (text.takeWhile (!isSep ·), (text.dropWhile (!isSep ·)).drop 1, false)
    else none

/-- Reads the set after `\p` or `\P`; `negated` is set for `\P`. Case-insensitive sets
are closed under case before they are negated. -/
def readProperty (f : Flags) (negated : Bool) (cs : List Char) :
    Except PatternError (CharSet × List Char) := do
  if !f.unicode then .error .notUnicode
  let cs := skipSpace f.verbose cs
  let (found, flip, rest) ← match cs with
    | [] => .error .badEscape
    | '{' :: more => do
      let (text, r) ← bracedName f.verbose [] (skipSpace f.verbose more)
      match splitValue text with
      | some (name, value, ne) =>
        pure (valuedSet (String.ofList name) (String.ofList value), ne, r)
      | none => pure (namedSet (String.ofList text), false, r)
    | c :: more =>
      if c == '\\' then .error .badEscape
      else pure (namedSet (String.singleton c), false, skipSpace f.verbose more)
  match found with
  | .error .name => .error .unknownProperty
  | .error .value => .error .unknownPropertyValue
  | .ok s =>
    let s := if f.caseless then CharSet.caseClosure s else s
    pure (if negated != flip then .complement s else s, rest)

/-- The word test, in Unicode or in ASCII. -/
def wordLook (f : Flags) (l : Look) : Look := if f.unicode then l else .asciiWord l

/-- Reads `{start}`, `{end}`, `{start-half}` or `{end-half}` after `\b`; a brace that
opens no such name is left for a repetition count. -/
def readBoundary (f : Flags) (cs : List Char) : Except PatternError (Look × List Char) :=
  let isNameChar (c : Char) : Bool := c.isAlpha || c == '-'
  match cs with
  | '{' :: more =>
    let inner := skipSpace f.verbose more
    match inner with
    | [] => .error .badEscape
    | c :: _ =>
      if !isNameChar c then .ok (wordLook f .wordBoundary, cs)
      else
        let name := inner.takeWhile isNameChar
        match inner.dropWhile isNameChar with
        | '}' :: rest =>
          match String.ofList name with
          | "start" => .ok (wordLook f .wordStart, rest)
          | "end" => .ok (wordLook f .wordEnd, rest)
          | "start-half" => .ok (wordLook f .wordStartHalf, rest)
          | "end-half" => .ok (wordLook f .wordEndHalf, rest)
          | _ => .error .badEscape
        | _ => .error .badEscape
  | _ => .ok (wordLook f .wordBoundary, cs)

/-- Reads an escape; the list starts after the backslash. -/
def readEscape (f : Flags) : List Char → Except PatternError (Escape × List Char)
  | [] => .error .badEscape
  | c :: rest =>
    if c.isDigit then .error .badEscape
    else if c == 'x' || c == 'u' || c == 'U' then do
      let (d, r) ← readCode f c rest
      pure (.char d, r)
    else if c == 'p' || c == 'P' then do
      let (s, r) ← readProperty f (c == 'P') rest
      pure (.set s, r)
    else if c == 'd' || c == 's' || c == 'w' || c == 'D' || c == 'S' || c == 'W' then
      let base : CharSet :=
        if c.toLower == 'd' then .digit (!f.unicode)
        else if c.toLower == 's' then .space (!f.unicode)
        else .word (!f.unicode)
      if c.isUpper then
        if f.unicode then .ok (.set (.complement base), rest) else .error .notUnicode
      else .ok (.set base, rest)
    else if isEscapable c then .ok (.char c, rest)
    else
      match c with
      | 'a' => .ok (.char (Char.ofNat 7), rest)
      | 'f' => .ok (.char (Char.ofNat 12), rest)
      | 't' => .ok (.char '\t', rest)
      | 'n' => .ok (.char '\n', rest)
      | 'r' => .ok (.char '\r', rest)
      | 'v' => .ok (.char (Char.ofNat 11), rest)
      | 'A' => .ok (.look .startText, rest)
      | 'z' => .ok (.look .endText, rest)
      | 'b' => do
        let (l, r) ← readBoundary f rest
        pure (.look l, r)
      | 'B' => .ok (.look (wordLook f .notWordBoundary), rest)
      | '<' => .ok (.look (wordLook f .wordStart), rest)
      | '>' => .ok (.look (wordLook f .wordEnd), rest)
      | _ => .error .badEscape

/-! ### Bracketed classes -/

/-- The ASCII class of a name. -/
def asciiClass? (name : String) : Option CharSet :=
  let r (a b : Char) : CharSet := .range a b
  match name with
  | "alnum" => some (.union [r '0' '9', r 'A' 'Z', r 'a' 'z'])
  | "alpha" => some (.union [r 'A' 'Z', r 'a' 'z'])
  | "ascii" => some (r (Char.ofNat 0) (Char.ofNat 127))
  | "blank" => some (.union [r '\t' '\t', r ' ' ' '])
  | "cntrl" => some (.union [r (Char.ofNat 0) (Char.ofNat 31), r (Char.ofNat 127) (Char.ofNat 127)])
  | "digit" => some (r '0' '9')
  | "graph" => some (r '!' '~')
  | "lower" => some (r 'a' 'z')
  | "print" => some (r ' ' '~')
  | "punct" => some (.union [r '!' '/', r ':' '@', r '[' (Char.ofNat 96), r (Char.ofNat 123) '~'])
  | "space" => some (.union [r '\t' '\r', r ' ' ' '])
  | "upper" => some (r 'A' 'Z')
  | "word" => some (.union [r '0' '9', r 'A' 'Z', r 'a' 'z', r '_' '_'])
  | "xdigit" => some (.union [r '0' '9', r 'A' 'F', r 'a' 'f'])
  | _ => none

/-- Reads `:name:]` or `:^name:]` after a `[` inside a class. -/
def asciiClassAt (cs : List Char) : Option (CharSet × List Char) :=
  match cs with
  | ':' :: rest =>
    let (negated, body) := match rest with
      | '^' :: r => (true, r)
      | r => (false, r)
    let name := String.ofList (body.takeWhile (· != ':'))
    match body.dropWhile (· != ':') with
    | ':' :: ']' :: after =>
      (asciiClass? name).map fun s => (if negated then .complement s else s, after)
    | _ => none
  | _ => none

/-- An operator between classes. -/
inductive SetOp where
  | inter | diff | symmDiff

/-- A bracketed class being read: whether it is negated, an operator with its left side
waiting for the right side, and the items of the current union, last first, with the
nesting depths of the left side and of the deepest item. -/
structure Bracket where
  negated : Bool
  pending : Option (SetOp × CharSet) := none
  items : List CharSet := []
  pendingDepth : Nat := 0
  itemDepth : Nat := 0

/-- Adds an item of a given nesting depth to the current union. -/
def Bracket.add (b : Bracket) (s : CharSet) (depth : Nat) : Bracket :=
  { b with items := s :: b.items, itemDepth := max b.itemDepth depth }

/-- The nesting depth of the current union: a union of two or more items is one level
above its deepest item. -/
def Bracket.unionDepth (b : Bracket) : Nat :=
  if b.items.length ≥ 2 then b.itemDepth + 1 else b.itemDepth

/-- The nesting depth of what the bracket holds: an operator is one level above its
deeper side. -/
def Bracket.bodyDepth (b : Bracket) : Nat :=
  match b.pending with
  | none => b.unionDepth
  | some _ => max b.pendingDepth b.unionDepth + 1

/-- Closes a set under case, as the flags say. -/
def caseClosed (f : Flags) (s : CharSet) : CharSet :=
  if !f.caseless then s else if f.unicode then .caseClosure s else .asciiCaseClosure s

/-- The set read so far in a bracket: the current union, joined to a waiting left side by
its operator. Under `i` both sides are closed under case first. -/
def Bracket.body (f : Flags) (b : Bracket) : CharSet :=
  let u := CharSet.union b.items.reverse
  match b.pending with
  | none => u
  | some (op, lhs) =>
    let l := caseClosed f lhs
    let r := caseClosed f u
    match op with
    | .inter => .inter l r
    | .diff => .diff l r
    | .symmDiff => .symmDiff l r

/-- Whether a set holds a character from 80 to FF, which without `u` would be a byte of a
longer character. -/
def reachesHighBytes (s : CharSet) : Bool :=
  (List.range 128).any fun k => s.contains (Char.ofNat (128 + k))

/-- The set of a finished bracket: closed under case, then negated. -/
def Bracket.finish (f : Flags) (b : Bracket) : Except PatternError CharSet :=
  let s := caseClosed f (b.body f)
  let s := if b.negated then .complement s else s
  if !f.unicode && reachesHighBytes s then .error .notUnicode else .ok s

/-- Opens a bracket after its `[`: a `^` negates it, leading `-` are literal, and a `]`
right at the start is literal too. -/
def openBracket (f : Flags) (cs : List Char) : Except PatternError (Bracket × List Char) := do
  let v := f.verbose
  let cs := skipSpace v cs
  if cs.isEmpty then .error .unclosedClass
  let (negated, cs) := match cs with
    | '^' :: more => (true, skipSpace v more)
    | _ => (false, cs)
  if cs.isEmpty then .error .unclosedClass
  let rec dashes : Nat → List Char → List CharSet → Except PatternError (List CharSet × List Char)
    | 0, cs, acc => .ok (acc, cs)
    | n + 1, cs, acc =>
      match cs with
      | '-' :: more =>
        let rest := skipSpace v more
        if rest.isEmpty then .error .unclosedClass else dashes n rest (.range '-' '-' :: acc)
      | _ => .ok (acc, cs)
  let (items, cs) ← dashes cs.length cs []
  match items, cs with
  | [], ']' :: more =>
    let rest := skipSpace v more
    if rest.isEmpty then .error .unclosedClass
    pure ({ negated, items := [.range ']' ']'] }, rest)
  | _, _ => pure ({ negated, items }, cs)

/-- One character of a class; without `u` it must be ASCII. -/
def classChar (f : Flags) (c : Char) : Except PatternError Char :=
  if !f.unicode && c.toNat > 0x7F then .error .notUnicode else .ok c

/-- Reads one item of a class or the first side of a range. -/
def classAtom (f : Flags) : List Char → Except PatternError (Escape × List Char)
  | '\\' :: more => readEscape f more
  | c :: more => .ok (.char c, more)
  | [] => .error .unclosedClass

/-- Reads an item of a class: a character, a range `a-z`, or an escaped class. A `-`
before `]` or `-` is no range. -/
def classItem (f : Flags) (cs : List Char) : Except PatternError (CharSet × List Char) := do
  let v := f.verbose
  let (first, rest) ← classAtom f cs
  let rest := skipSpace v rest
  if rest.isEmpty then .error .unclosedClass
  let single : Except PatternError (CharSet × List Char) :=
    match first with
    | .char c => do
      let c ← classChar f c
      pure (.range c c, rest)
    | .set s => pure (s, rest)
    | .look _ => .error .badClass
  match rest with
  | '-' :: more =>
    match (skipSpace v more).head? with
    | some ']' | some '-' => single
    | _ =>
      let more := skipSpace v more
      if more.isEmpty then .error .unclosedClass
      let (last, after) ← classAtom f more
      match first, last with
      | .char a, .char b => do
        let a ← classChar f a
        let b ← classChar f b
        if b < a then .error .badClass
        pure (.range a b, after)
      | _, _ => .error .badClass
  | _ => single

/-- Reads the rest of a bracketed class, with the enclosing brackets still open; gives the
class with its nesting depth, a bracket being one level above what it holds. -/
def classLoop (f : Flags) : Nat → Bracket → List Bracket → List Char →
    Except PatternError (CharSet × Nat × List Char)
  | 0, _, _, _ => .error .unclosedClass
  | fuel + 1, cur, outer, cs =>
    let opWith (op : SetOp) (rest : List Char) :=
      classLoop f fuel
        { negated := cur.negated, pending := some (op, cur.body f), pendingDepth := cur.bodyDepth }
        outer rest
    match skipSpace f.verbose cs with
    | [] => .error .unclosedClass
    | '[' :: rest =>
      match asciiClassAt rest with
      | some (s, after) => classLoop f fuel (cur.add s 0) outer after
      | none => do
        let (b, after) ← openBracket f rest
        classLoop f fuel b (cur :: outer) after
    | ']' :: rest => do
      let s ← cur.finish f
      match outer with
      | [] => pure (s, cur.bodyDepth + 1, rest)
      | b :: bs => classLoop f fuel (b.add s (cur.bodyDepth + 1)) bs rest
    | '&' :: '&' :: rest => opWith .inter rest
    | '-' :: '-' :: rest => opWith .diff rest
    | '~' :: '~' :: rest => opWith .symmDiff rest
    | cs => do
      let (s, after) ← classItem f cs
      classLoop f fuel (cur.add s 0) outer after

/-- Reads a bracketed class after its `[`, with its nesting depth. -/
def readClass (f : Flags) (cs : List Char) : Except PatternError (CharSet × Nat × List Char) := do
  let (b, rest) ← openBracket f cs
  classLoop f (cs.length + 1) b [] rest

/-! ### Groups, repetition and the whole pattern -/

/-- A part of a sequence: a pattern with its nesting depth, or a flag group, which
matches the empty text and takes no repetition.

The nesting depth counts the groups, repetitions, alternations, sequences of two or more
parts and class brackets, set operators and unions that hold a part, the part itself
included; characters, anchors and named classes add nothing. -/
inductive Piece where
  | node (n : Node) (depth : Nat)
  | flagGroup

/-- The pattern of a piece, if it has one. -/
def Piece.node? : Piece → Option Node
  | .node n _ => some n
  | .flagGroup => none

/-- The nesting depth of a piece. -/
def Piece.depth : Piece → Nat
  | .node _ d => d
  | .flagGroup => 0

/-- The sequence of pieces, given last first. -/
def sequenceOf (pieces : List Piece) : Node := .concat (pieces.reverse.filterMap Piece.node?)

/-- The nesting depth of a sequence: one level above its deepest piece when it has two or
more, flag groups included. -/
def sequenceDepth (pieces : List Piece) : Nat :=
  match pieces with
  | [] => 0
  | [p] => p.depth
  | _ => (pieces.map Piece.depth).foldl max 0 + 1

/-- The alternatives of a group, given last first, with the current sequence. -/
def choiceOf (branches : List Node) (pieces : List Piece) : Node :=
  match branches with
  | [] => sequenceOf pieces
  | _ => .alt (sequenceOf pieces :: branches).reverse

/-- The nesting depth of the alternatives of a group, given the depth of the deepest
finished one: one level above the deepest when there are two or more. -/
def choiceDepth (branches : List Node) (branchDepth : Nat) (pieces : List Piece) : Nat :=
  match branches with
  | [] => sequenceDepth pieces
  | _ => max branchDepth (sequenceDepth pieces) + 1

/-- A group that is open around the one being read: the sequence, alternatives and flags
around it, and whether the group captures. -/
structure Frame where
  pieces : List Piece
  branches : List Node
  branchDepth : Nat
  flags : Flags
  capturing : Bool

/-- The reader's state: what is left, the flags in force, the current sequence and
alternatives (last first) with the depth of the deepest finished alternative, the open
groups and the group names seen. -/
structure ReadState where
  rest : List Char
  flags : Flags := {}
  pieces : List Piece := []
  branches : List Node := []
  branchDepth : Nat := 0
  frames : List Frame := []
  names : List String := []

/-- Reads flag letters up to `:` or `)`; a letter may appear once, and `-` once and not
last. -/
def readFlags : List Char → List FlagName → Bool → Bool → List (FlagName × Bool) →
    Except PatternError (List (FlagName × Bool) × List Char)
  | [], _, _, _, _ => .error .unclosedGroup
  | c :: rest, seen, negated, lastDash, acc =>
    if c == ':' || c == ')' then
      if lastDash then .error .badFlags else .ok (acc.reverse, c :: rest)
    else if c == '-' then
      if negated || rest.isEmpty then .error .badFlags else readFlags rest seen true true acc
    else
      match FlagName.ofChar? c with
      | none => .error .badFlags
      | some n =>
        if seen.contains n || rest.isEmpty then .error .badFlags
        else readFlags rest (n :: seen) negated false ((n, !negated) :: acc)

/-- Whether a character may stand in a group name, first or later. -/
def isNameChar (first : Bool) (c : Char) : Bool :=
  if first then c == '_' || Text.isAlphabetic c
  else c == '_' || c == '.' || c == '[' || c == ']' || Text.isAlphanumeric c

/-- Reads a group name up to `>`. -/
def readGroupName : List Char → List Char → Except PatternError (String × List Char)
  | [], _ => .error .badGroupName
  | c :: rest, acc =>
    if c == '>' then
      if acc.isEmpty then .error .badGroupName else .ok (String.ofList acc.reverse, rest)
    else if isNameChar acc.isEmpty c then readGroupName rest (c :: acc)
    else .error .badGroupName

/-- Enters a group whose inner flags are `inner`. -/
def ReadState.enter (st : ReadState) (inner : Flags) (capturing : Bool) (rest : List Char) :
    ReadState :=
  { st with rest, flags := inner, pieces := [], branches := [], branchDepth := 0,
            frames := { pieces := st.pieces, branches := st.branches, branchDepth := st.branchDepth,
                        flags := st.flags, capturing } :: st.frames }

/-- Reads what follows a `(`: a group of some kind, or a flag group. Look-around is
refused. -/
def ReadState.openGroup (st : ReadState) (cs : List Char) : Except PatternError ReadState := do
  let cs := skipSpace st.flags.verbose cs
  match cs with
  | '?' :: '=' :: _ | '?' :: '!' :: _ | '?' :: '<' :: '=' :: _ | '?' :: '<' :: '!' :: _ =>
    .error .unclosedGroup
  | '?' :: 'P' :: '<' :: more | '?' :: '<' :: more => do
    let (name, rest) ← readGroupName more []
    if st.names.contains name then .error .badGroupName
    pure ({ st.enter st.flags true rest with names := name :: st.names })
  | '?' :: more => do
    let (settings, rest) ← readFlags more [] false false []
    match rest with
    | ')' :: after =>
      if settings.isEmpty then .error .missingRepetition
      pure { st with rest := after, flags := st.flags.apply settings,
                     pieces := .flagGroup :: st.pieces }
    | _ => pure (st.enter (st.flags.apply settings) false (rest.drop 1))
  | _ => pure (st.enter st.flags true cs)

/-- Repeats the last piece; a repetition needs a pattern before it. -/
def repeatLast (pieces : List Piece) (low : Nat) (high : Option Nat) :
    Except PatternError (List Piece) :=
  match pieces with
  | .node n d :: ps => .ok (.node (.rep n low high) (d + 1) :: ps)
  | _ => .error .missingRepetition

/-- Reads decimal digits, which blanks may separate in verbose mode. -/
def decimalDigits (v : Bool) (acc : List Char) (cs : List Char) : List Char × List Char :=
  match cs with
  | c :: rest =>
    if c.isDigit then decimalDigits v (c :: acc) (skipSpace v rest) else (acc.reverse, cs)
  | [] => (acc.reverse, [])
termination_by cs.length
decreasing_by
  have := length_skipSpace_le v rest
  simp only [List.length_cons]
  omega

/-- Reads a count with blanks around it; a count must have a digit and fit in 32 bits. -/
def readCount (v : Bool) (cs : List Char) : Except PatternError (Option Nat × List Char) :=
  let (ds, rest) := decimalDigits v [] (cs.dropWhile Text.isBlank)
  let rest := rest.dropWhile Text.isBlank
  if ds.isEmpty then .ok (none, rest)
  else
    let n := ds.foldl (fun n c => n * 10 + (c.toNat - 48)) 0
    if n < Nat.pow 2 32 then .ok (some n, rest) else .error .badRepetition

/-- Reads a counted repetition after its `{`: `{n}`, `{n,}` or `{n,m}` with `n ≤ m`. -/
def readCounted (v : Bool) (cs : List Char) :
    Except PatternError ((Nat × Option Nat) × List Char) := do
  let cs := skipSpace v cs
  if cs.isEmpty then .error .badRepetition
  let (low?, rest) ← readCount v cs
  let need (n? : Option Nat) : Except PatternError Nat :=
    match n? with
    | some n => .ok n
    | none => .error .badRepetition
  let (bounds, rest) ← match rest with
    | [] => .error .badRepetition
    | ',' :: more => do
      let more := skipSpace v more
      match more with
      | [] => .error .badRepetition
      | '}' :: _ => pure ((← need low?, none), more)
      | _ => do
        let low ← need low?
        let (high?, after) ← readCount v more
        let high ← need high?
        pure ((low, some high), after)
    | _ => pure ((← need low?, some (← need low?)), rest)
  match rest with
  | '}' :: after =>
    match bounds with
    | (low, some high) => if high < low then .error .badRepetition else pure (bounds, after)
    | _ => pure (bounds, after)
  | _ => .error .badRepetition

/-- The pattern of a literal character under the flags. Without `u`, case is ignored for
ASCII letters only, and a character outside ASCII cannot ignore case. -/
def literalOf (f : Flags) (c : Char) : Except PatternError Node :=
  if f.unicode then .ok (.literal c f.caseless)
  else if !f.caseless then .ok (.literal c false)
  else if c.toNat > 0x7F then .error .notUnicode
  else .ok (.set (.asciiCaseClosure (.range c c)))

/-- The pattern of `.`: any character but a newline (and, with `R`, a carriage return);
with `s` any character at all. -/
def dotOf (f : Flags) : Except PatternError Node :=
  if !f.unicode then .error .notUnicode
  else if f.dotAll then .ok (.set .any)
  else if f.crlf then .ok (.set (.complement (.union [.range '\n' '\n', .range '\r' '\r'])))
  else .ok (.set (.complement (.range '\n' '\n')))

/-- The look of `^` under the flags. -/
def lineStartOf (f : Flags) : Look :=
  if !f.multiLine then .startText else if f.crlf then .startLineCRLF else .startLine

/-- The look of `$` under the flags. -/
def lineEndOf (f : Flags) : Look :=
  if !f.multiLine then .endText else if f.crlf then .endLineCRLF else .endLine

/-- Adds a piece of a given nesting depth to the current sequence. -/
def ReadState.push (st : ReadState) (n : Node) (rest : List Char) (depth : Nat) : ReadState :=
  { st with rest, pieces := .node n depth :: st.pieces }

/-- The deepest nesting a pattern may have. -/
def nestLimit : Nat := 250

/-- Reads the rest of a pattern. Every step takes at least one character, so a fuel of
the length of the text and one more is enough. A pattern nested deeper than `nestLimit`
is refused once it is read. -/
def readLoop : Nat → ReadState → Except PatternError Node
  | 0, _ => .error .unclosedGroup
  | fuel + 1, st =>
    match skipSpace st.flags.verbose st.rest with
    | [] =>
      if !st.frames.isEmpty then .error .unclosedGroup
      else if choiceDepth st.branches st.branchDepth st.pieces > nestLimit then .error .nestLimit
      else .ok (choiceOf st.branches st.pieces)
    | c :: more =>
      match c with
      | '(' => do readLoop fuel (← st.openGroup more)
      | ')' =>
        match st.frames with
        | [] => .error .unopenedGroup
        | fr :: frs =>
          let group := choiceOf st.branches st.pieces
          let depth := choiceDepth st.branches st.branchDepth st.pieces + 1
          let node := if fr.capturing then Node.capture group else group
          readLoop fuel
            { st with rest := more, flags := fr.flags, branches := fr.branches,
                      branchDepth := fr.branchDepth, frames := frs,
                      pieces := .node node depth :: fr.pieces }
      | '|' =>
        readLoop fuel
          { st with rest := more, branches := sequenceOf st.pieces :: st.branches,
                    branchDepth := max st.branchDepth (sequenceDepth st.pieces), pieces := [] }
      | '[' => do
        let (s, depth, rest) ← readClass st.flags more
        readLoop fuel (st.push (.set s) rest depth)
      | '?' | '*' | '+' => do
        let (low, high) := if c == '?' then (0, some 1) else if c == '*' then (0, none) else (1, none)
        let pieces ← repeatLast st.pieces low high
        let rest := match more with
          | '?' :: r => r
          | r => r
        readLoop fuel { st with rest, pieces }
      | '{' => do
        let pieces := st.pieces
        match pieces with
        | .node _ _ :: _ => pure ()
        | _ => .error .missingRepetition
        let ((low, high), rest) ← readCounted st.flags.verbose more
        let pieces ← repeatLast pieces low high
        let rest := match skipSpace st.flags.verbose rest with
          | '?' :: r => r
          | r => r
        readLoop fuel { st with rest, pieces }
      | '\\' => do
        let (e, rest) ← readEscape st.flags more
        let n ← match e with
          | .char d => literalOf st.flags d
          | .set s => pure (.set s)
          | .look l => pure (.look l)
        readLoop fuel (st.push n rest 0)
      | '.' => do readLoop fuel (st.push (← dotOf st.flags) more 0)
      | '^' => readLoop fuel (st.push (.look (lineStartOf st.flags)) more 0)
      | '$' => readLoop fuel (st.push (.look (lineEndOf st.flags)) more 0)
      | _ => do readLoop fuel (st.push (← literalOf st.flags c) more 0)

/-- Reads a pattern. -/
def Node.parse (text : String) : Except PatternError Node :=
  readLoop (text.length + 1) { rest := text.toList }

end TagStore.Pattern
