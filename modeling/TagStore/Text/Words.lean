import TagStore.Text.WordBreakClass
import TagStore.Text.Alphanumeric
/-!
# Text.Words

Word boundaries of Unicode text after UAX #29, found by a scanner that reads one segment
at a time from the left. The words of a text are its segments that hold a letter or digit.

The scanner keeps a state that says what the segment read so far is: letters, digits,
katakana, connectors such as `_`, half or all of a flag, word spaces, a pictograph after a
joiner, or punctuation that waits for what follows it. Each character either continues
the segment or ends it, before or after itself:

- a carriage return, a newline or another line break stands alone, and so does carriage
  return with newline;
- extending, format and joiner characters after the first continue the segment whatever
  it is, and leave the state as it was; at the start they join the character they follow;
- a pictograph right after a joiner continues the segment, which from then on takes
  nothing but extending characters;
- letters and digits continue each other, katakana continue katakana, connectors join
  all of these, and two regional indicators make a flag;
- between letters a mid-letter or mid-word punctuation is taken when a letter follows it,
  between digits a mid-number one when a digit follows it, and inside Hebrew words a
  single quote, or a double quote before a Hebrew letter; if what follows is not there,
  the segment ends before the punctuation;
- word spaces continue each other, unless an extending character came between them;
- any other character ends the segment before itself.
-/

namespace TagStore.Text

/-- What a scanner waits for after a character that cannot end a word on its own. -/
inductive Pending where
  /-- Extending characters at the start, which the next other character does not join. -/
  | acceptNone
  /-- A Hebrew letter and a single quote, which a letter may continue. -/
  | acceptQLetter
  /-- A letter and a mid-letter or mid-word punctuation, which a letter must follow. -/
  | requireLetter
  /-- A Hebrew letter and a double quote, which a Hebrew letter must follow. -/
  | requireHLetter
  /-- A digit and a mid-number or mid-word punctuation, which a digit must follow. -/
  | requireNumeric
  deriving BEq, Repr

/-- Whether the scanner steps back when what it waits for does not come. -/
def Pending.requires : Pending → Bool
  | .requireLetter | .requireHLetter | .requireNumeric => true
  | _ => false

/-- What the segment read so far is. -/
inductive ScanState where
  | start
  | letter
  | hebrewLetter
  | numeric
  | katakana
  | extendNumLet
  | regionalHalf
  | regionalFull
  | pending (p : Pending)
  | zwj
  | emoji
  | wordSpace
  deriving BEq, Repr

/-- Whether a class extends the character before it. -/
def absorbed : WordClass → Bool
  | .extend | .format | .zwj => true
  | _ => false

/-- The class of the first character of a text, if it has one. -/
def firstClass : List Char → Option WordClass
  | c :: _ => some (wordClass c)
  | [] => none

/-- The state after a letter, a Hebrew one when `hebrew`, on a character of class `k`:
none when the segment ends before it. -/
def afterLetter (hebrew : Bool) (k : WordClass) : Option ScanState :=
  match k with
  | .aLetter => some .letter
  | .hebrewLetter => some .hebrewLetter
  | .numeric => some .numeric
  | .extendNumLet => some .extendNumLet
  | .doubleQuote => if hebrew then some (.pending .requireHLetter) else none
  | .singleQuote => some (.pending (if hebrew then .acceptQLetter else .requireLetter))
  | .midLetter | .midNumLet => some (.pending .requireLetter)
  | _ => none

/-- The state after a digit on a character of class `k`. -/
def afterNumeric (k : WordClass) : Option ScanState :=
  match k with
  | .numeric => some .numeric
  | .aLetter => some .letter
  | .hebrewLetter => some .hebrewLetter
  | .extendNumLet => some .extendNumLet
  | .midNum | .midNumLet | .singleQuote => some (.pending .requireNumeric)
  | _ => none

/-- The state after a connector on a character of class `k`. -/
def afterConnector (k : WordClass) : Option ScanState :=
  match k with
  | .extendNumLet => some .extendNumLet
  | .aLetter => some .letter
  | .hebrewLetter => some .hebrewLetter
  | .numeric => some .numeric
  | .katakana => some .katakana
  | _ => none

/-- How many characters the segment at the front of `cs` takes, when `idx` characters
have been read before `cs` in state `state`; `prevZwj` says whether the last of them was
a joiner, `skipped` whether an extending character was passed over since the start, and
`save` where to step back to when a required letter or digit does not come. -/
def scan : List Char → Nat → ScanState → Bool → Bool → Nat → Nat
  | [], idx, state, _, _, save =>
    match state with
    | .pending p => if p.requires then save else idx
    | _ => idx
  | c :: rest, idx, state, prevZwj, skipped, save =>
    let k := wordClass c
    let step (next : ScanState) (newSave : Nat) : Nat :=
      scan rest (idx + 1) next (k == .zwj) skipped newSave
    let continueOr (next : Option ScanState) (newSave : Nat) : Nat :=
      match next with
      | some s => step s newSave
      | none => idx
    if state != .start && absorbed k then scan rest (idx + 1) state (k == .zwj) true save
    else if prevZwj && isPictographic c then scan rest (idx + 1) .emoji false skipped save
    else
      match state with
      | .start =>
        match k with
        | .cr => if firstClass rest == some .lf then idx + 2 else idx + 1
        | .lf | .newline => idx + 1
        | .aLetter => step .letter save
        | .hebrewLetter => step .hebrewLetter save
        | .numeric => step .numeric save
        | .katakana => step .katakana save
        | .extendNumLet => step .extendNumLet save
        | .regionalIndicator => step .regionalHalf save
        | .zwj => step .zwj save
        | .wSegSpace => step .wordSpace save
        | _ =>
          match firstClass rest with
          | some n => if absorbed n then step (.pending .acceptNone) save else idx + 1
          | none => idx + 1
      | .wordSpace => if k == .wSegSpace && !skipped then step .wordSpace save else idx
      | .zwj | .emoji | .regionalFull => idx
      | .letter =>
        let next := afterLetter false k
        continueOr next (if next == some (.pending .requireLetter) then idx else save)
      | .hebrewLetter =>
        let next := afterLetter true k
        continueOr next
          (if next == some (.pending .requireLetter) || next == some (.pending .requireHLetter)
           then idx else save)
      | .numeric =>
        let next := afterNumeric k
        continueOr next (if next == some (.pending .requireNumeric) then idx else save)
      | .katakana =>
        match k with
        | .katakana => step .katakana save
        | .extendNumLet => step .extendNumLet save
        | _ => idx
      | .extendNumLet => continueOr (afterConnector k) save
      | .regionalHalf => if k == .regionalIndicator then step .regionalFull save else idx
      | .pending p =>
        match p, k with
        | .requireNumeric, .numeric => step .numeric save
        | .requireLetter, .aLetter | .acceptQLetter, .aLetter => step .letter save
        | .requireLetter, .hebrewLetter | .acceptQLetter, .hebrewLetter => step .hebrewLetter save
        | .requireHLetter, .hebrewLetter => step .hebrewLetter save
        | _, _ => if p.requires then save else idx

/-- How many characters the first segment of a text takes: at least one of a text that
is not empty. -/
def segmentLength (cs : List Char) : Nat := max 1 (scan cs 0 .start false false 0)

/-- The segments of a list of characters, each with its position in characters; `fuel`
bounds the number of segments. -/
def segmentsFrom : Nat → Nat → List Char → List (Nat × List Char)
  | 0, _, _ => []
  | _, _, [] => []
  | fuel + 1, pos, cs =>
    let n := segmentLength cs
    (pos, cs.take n) :: segmentsFrom fuel (pos + n) (cs.drop n)

/-- The segments of a text with their byte offsets. -/
def segments (text : String) : List (Nat × String) :=
  let cs := text.toList
  let offsets := (cs.scanl (fun o c => o + c.utf8Size) 0).toArray
  (segmentsFrom cs.length 0 cs).map fun (pos, seg) => (offsets[pos]?.getD 0, String.ofList seg)

/-- The words of a text, each with its byte offset: the segments holding a letter or
digit. -/
def words (text : String) : List (Nat × String) :=
  (segments text).filter fun (_, w) => w.any isAlphanumeric

end TagStore.Text
