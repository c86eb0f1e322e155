import TagStore.Text.Words
import TagStore.Text.Lowercase
import TagStore.Json.Value
/-!
# Text.Tokenizer

The standard tokenizer: the words of a text in order, each lower-cased unless asked
not to, with its position among the kept words and its byte offset in the text. Words
longer than `maxTokenLength` bytes are skipped and take no position.

The terms of a text are its distinct token texts in first-seen order; the terms of a
value are those of all its string leaves, through arrays and objects at any depth.
-/

namespace TagStore.Text

/-- A word taken from a text. -/
structure Token where
  text : String
  /-- Position among the kept words. -/
  position : Nat
  /-- Byte offset in the text. -/
  offset : Nat

/-- How a text is cut into tokens. -/
structure Tokenizer where
  lowercase : Bool := true
  /-- Longest word kept, in bytes. -/
  maxTokenLength : Nat := 255

namespace Tokenizer

/-- The name of the tokenizer. -/
def name (_ : Tokenizer) : String := "standard"

/-- The tokens of a text. -/
def tokenize (t : Tokenizer) (text : String) : List Token :=
  let kept := (words text).filter fun (_, w) => w.utf8ByteSize ≤ t.maxTokenLength
  kept.zipIdx.map fun ((offset, w), i) =>
    ⟨if t.lowercase then Text.lowercase w else w, i, offset⟩

/-- Keep the first of equal texts. -/
def dedup (xs : List String) : List String :=
  (xs.foldl (fun (seen, out) x => if seen.contains x then (seen, out) else (x :: seen, x :: out))
    (([] : List String), ([] : List String))).2.reverse

/-- The distinct token texts of a text, in first-seen order. -/
def terms (t : Tokenizer) (text : String) : List String :=
  dedup ((t.tokenize text).map (·.text))

mutual
/-- The token texts of all string leaves of a value. -/
def valueTerms (t : Tokenizer) : Json → List String
  | .string s => (t.tokenize s).map (·.text)
  | .array xs => valueTermsList t xs
  | .object fs => valueTermsFields t fs
  | _ => []

/-- The token texts of the string leaves of a list of values. -/
def valueTermsList (t : Tokenizer) : List Json → List String
  | [] => []
  | x :: xs => valueTerms t x ++ valueTermsList t xs

/-- The token texts of the string leaves of the values of fields. -/
def valueTermsFields (t : Tokenizer) : List (String × Json) → List String
  | [] => []
  | (_, v) :: rest => valueTerms t v ++ valueTermsFields t rest
end

end Tokenizer

end TagStore.Text
