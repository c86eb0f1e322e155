import TagStore.Json.Value
/-!
# Json.Read

Reading a value from text. `parseWritten` keeps each object's fields as written, so that
a record reader can refuse a field given twice; `parse` then sorts them, the last of a
repeated key winning. The grammar is the standard one: blanks are space, tab,
newline and carriage return; strings refuse raw control characters and unpaired
surrogate escapes; nesting deeper than 127 arrays or objects is refused; nothing but
blanks may follow the value.

A number has one leading zero at most and a digit after a point and in an exponent; its
parts are then read as `Number.ofNumeral` says, and a number out of range is refused.
-/

namespace TagStore.Json

/-- Why a text is not a value. -/
inductive ReadError where
  | endOfInput
  | unexpected (c : Char)
  | invalidNumber
  | numberOutOfRange
  | controlCharacter
  | invalidEscape
  | loneSurrogate
  | trailingCharacters
  | trailingComma
  | tooDeep
  | invalidUtf8
  deriving Repr, BEq

/-- A reader of a prefix of the input: the value and the rest, or why it failed. -/
abbrev Reader (α : Type) := List Char → Except ReadError (α × List Char)

/-- Drop leading blanks. -/
def skipBlanks : List Char → List Char
  | c :: rest => if c == ' ' || c == '\t' || c == '\n' || c == '\r' then skipBlanks rest else c :: rest
  | [] => []

/-- The value of a decimal digit character. -/
def digitValue? (c : Char) : Option Nat :=
  if '0' ≤ c ∧ c ≤ '9' then some (c.toNat - 48) else none

/-- The value of a hex digit character. -/
def hexValue? (c : Char) : Option Nat :=
  if '0' ≤ c ∧ c ≤ '9' then some (c.toNat - 48)
  else if 'a' ≤ c ∧ c ≤ 'f' then some (c.toNat - 87)
  else if 'A' ≤ c ∧ c ≤ 'F' then some (c.toNat - 55)
  else none

/-! ## Numbers -/

/-- Leading digits and the rest. -/
def spanDigits (cs : List Char) : List Char × List Char :=
  (cs.takeWhile fun c => (digitValue? c).isSome, cs.dropWhile fun c => (digitValue? c).isSome)

/-- The values of digit characters. -/
def digitValues (cs : List Char) : List Nat := cs.map fun c => c.toNat - 48

/-- The fraction after the integer digits, if there is a point: at least one digit. -/
def readFraction : Reader (Option (List Nat)) := fun cs =>
  match cs with
  | '.' :: rest =>
    let (ds, rest) := spanDigits rest
    if ds.isEmpty then
      if rest.isEmpty then .error .endOfInput else .error .invalidNumber
    else .ok (some (digitValues ds), rest)
  | _ => .ok (none, cs)

/-- The exponent after the fraction, if there is an `e` or `E`: its direction, from an
optional sign, and at least one digit. -/
def readExponent : Reader (Option (Bool × List Nat)) := fun cs =>
  match cs with
  | c :: rest =>
    if c == 'e' || c == 'E' then
      let (up, rest) := match rest with
        | '+' :: more => (true, more)
        | '-' :: more => (false, more)
        | _ => (true, rest)
      match rest with
      | [] => .error .endOfInput
      | d :: _ =>
        if (digitValue? d).isNone then .error .invalidNumber
        else
          let (ds, rest) := spanDigits rest
          .ok (some (up, digitValues ds), rest)
    else .ok (none, c :: rest)
  | [] => .ok (none, [])

/-- A number after its optional minus sign: one leading zero at most, then an optional
fraction and exponent. -/
def readNumber (negative : Bool) : Reader Number := fun cs => do
  let (whole, rest) ← match cs with
    | '0' :: rest =>
      match rest with
      | c :: _ => if (digitValue? c).isSome then .error .invalidNumber else .ok (['0'], rest)
      | [] => .ok (['0'], rest)
    | c :: _ =>
      if (digitValue? c).isNone then .error .invalidNumber else .ok (spanDigits cs)
    | [] => .error .endOfInput
  let (fraction, rest) ← readFraction rest
  let (exponent, rest) ← readExponent rest
  match Number.ofNumeral ⟨negative, digitValues whole, fraction, exponent⟩ with
  | some n => .ok (n, rest)
  | none => .error .numberOutOfRange

/-! ## Strings -/

/-- Four hex digits. -/
def hex4 : List Char → Option (Nat × List Char)
  | a :: b :: c :: d :: rest => do
    let a ← hexValue? a
    let b ← hexValue? b
    let c ← hexValue? c
    let d ← hexValue? d
    return (((a * 16 + b) * 16 + c) * 16 + d, rest)
  | _ => none

/-- The character of a `\u` escape and how many characters after the `u` it takes,
reading the second half of a surrogate pair. -/
def unicodeEscape (cs : List Char) : Except ReadError (Char × Nat) :=
  match hex4 cs with
  | none => .error .invalidEscape
  | some (n, rest) =>
    if 0xDC00 ≤ n ∧ n ≤ 0xDFFF then .error .loneSurrogate
    else if 0xD800 ≤ n ∧ n ≤ 0xDBFF then
      match rest with
      | '\\' :: 'u' :: more =>
        match hex4 more with
        | some (m, _) =>
          if 0xDC00 ≤ m ∧ m ≤ 0xDFFF then
            .ok (Char.ofNat (0x10000 + (n - 0xD800) * 0x400 + (m - 0xDC00)), 10)
          else .error .loneSurrogate
        | none => .error .invalidEscape
      | [] => .error .endOfInput
      | _ => .error .loneSurrogate
    else .ok (Char.ofNat n, 4)

/-- The characters of a string up to its closing quote. -/
def readString (acc : String) : Reader String
  | [] => .error .endOfInput
  | '"' :: rest => .ok (acc, rest)
  | '\\' :: rest =>
    match rest with
    | '"' :: more => readString (acc.push '"') more
    | '\\' :: more => readString (acc.push '\\') more
    | '/' :: more => readString (acc.push '/') more
    | 'b' :: more => readString (acc.push (Char.ofNat 8)) more
    | 'f' :: more => readString (acc.push (Char.ofNat 12)) more
    | 'n' :: more => readString (acc.push '\n') more
    | 'r' :: more => readString (acc.push '\r') more
    | 't' :: more => readString (acc.push '\t') more
    | 'u' :: more =>
      match unicodeEscape more with
      | .ok (c, k) => readString (acc.push c) (more.drop k)
      | .error e => .error e
    | [] => .error .endOfInput
    | _ => .error .invalidEscape
  | c :: rest => if c.toNat < 32 then .error .controlCharacter else readString (acc.push c) rest
termination_by cs => cs.length
decreasing_by all_goals simp_all <;> omega

/-- A literal word such as `true`. -/
def expectWord (word : List Char) (v : Json) : Reader Json := fun cs =>
  if word.isPrefixOf cs then .ok (v, cs.drop word.length)
  else if cs.isPrefixOf word then .error .endOfInput
  else .error .invalidNumber

/-! ## Values -/

mutual
/-- A value after blanks; `fuel` bounds the steps and `depth` the nesting left. -/
def readValue : Nat → Nat → Reader Json
  | 0, _, _ => .error .tooDeep
  | fuel + 1, depth, cs =>
    match skipBlanks cs with
    | [] => .error .endOfInput
    | 'n' :: rest => expectWord ['u', 'l', 'l'] .null rest
    | 't' :: rest => expectWord ['r', 'u', 'e'] (.bool true) rest
    | 'f' :: rest => expectWord ['a', 'l', 's', 'e'] (.bool false) rest
    | '"' :: rest => do
      let (s, rest) ← readString "" rest
      return (.string s, rest)
    | '-' :: rest => do
      let (n, rest) ← readNumber true rest
      return (.number n, rest)
    | '[' :: rest =>
      match depth with
      | 0 => .error .tooDeep
      | d + 1 =>
        match skipBlanks rest with
        | ']' :: more => .ok (.array [], more)
        | more => readItems fuel d [] more
    | '\x7b' :: rest =>
      match depth with
      | 0 => .error .tooDeep
      | d + 1 =>
        match skipBlanks rest with
        | '\x7d' :: more => .ok (.object [], more)
        | more => readFields fuel d [] more
    | c :: rest =>
      if (digitValue? c).isSome then do
        let (n, rest) ← readNumber false (c :: rest)
        return (.number n, rest)
      else .error (.unexpected c)

/-- Array items after `[`, collected in reverse in `acc`. -/
def readItems : Nat → Nat → List Json → Reader Json
  | 0, _, _, _ => .error .tooDeep
  | fuel + 1, depth, acc, cs => do
    let (v, rest) ← readValue fuel depth cs
    match skipBlanks rest with
    | ',' :: more =>
      match skipBlanks more with
      | ']' :: _ => .error .trailingComma
      | _ => readItems fuel depth (v :: acc) more
    | ']' :: more => .ok (.array (v :: acc).reverse, more)
    | [] => .error .endOfInput
    | c :: _ => .error (.unexpected c)

/-- Object fields after the opening brace, collected in reverse in `acc`; the object keeps
them in written order, a repeated key included. -/
def readFields : Nat → Nat → Fields → Reader Json
  | 0, _, _, _ => .error .tooDeep
  | fuel + 1, depth, acc, cs =>
    match skipBlanks cs with
    | '"' :: rest => do
      let (k, rest) ← readString "" rest
      match skipBlanks rest with
      | ':' :: rest => do
        let (v, rest) ← readValue fuel depth rest
        let acc := (k, v) :: acc
        match skipBlanks rest with
        | ',' :: more =>
          match skipBlanks more with
          | '\x7d' :: _ => .error .trailingComma
          | _ => readFields fuel depth acc more
        | '\x7d' :: more => .ok (.object acc.reverse, more)
        | [] => .error .endOfInput
        | c :: _ => .error (.unexpected c)
      | [] => .error .endOfInput
      | c :: _ => .error (.unexpected c)
    | [] => .error .endOfInput
    | c :: _ => .error (.unexpected c)
end

/-- The deepest nesting of arrays and objects a text may have: the 128th level is refused, as
serde_json's recursion limit of 128 refuses it. -/
def nestingLimit : Nat := 127

/-- Read a whole text as one value as written: blanks may surround it, nothing else may
follow, and objects keep their fields in written order, repeated keys included. -/
def parseWritten (s : String) : Except ReadError Json := do
  let cs := s.toList
  let (v, rest) ← readValue (2 * cs.length + 2) nestingLimit cs
  match skipBlanks rest with
  | [] => return v
  | _ => .error .trailingCharacters

/-- Read a whole text as one value: objects sorted by key, the last of a repeated key
winning. -/
def parse (s : String) : Except ReadError Json := return (← parseWritten s).normalize

/-- Read bytes as one value as written; they must be UTF-8. -/
def parseWrittenBytes (b : ByteArray) : Except ReadError Json :=
  match String.fromUTF8? b with
  | some s => parseWritten s
  | none => .error .invalidUtf8

/-- Read bytes as one value; they must be UTF-8. -/
def parseBytes (b : ByteArray) : Except ReadError Json := return (← parseWrittenBytes b).normalize

end TagStore.Json
