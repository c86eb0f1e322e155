import TagStore.Api.Reply
import TagStore.Text.Tokenizer
/-!
# Api.Analysis

Requests about text analysis: tokens of a text, its terms, and the terms of a value.
-/

namespace TagStore.Api

open Request

/-- `tokenize`: the tokens of a text as `[text, position, offset, byte length]`. -/
def tokenizeOp (r : Request) : Reply := do
  let text ← r.text "text"
  let lower := r.boolOr "lowercase" true
  let maxLen := r.natOrElse "max_token_length" 255
  let t : Text.Tokenizer := ⟨lower, maxLen⟩
  return Json.obj [("name", .string t.name),
    ("tokens", .array ((t.tokenize text).map fun tok =>
      .array [.string tok.text, Json.ofNat tok.position, Json.ofNat tok.offset,
        Json.ofNat tok.text.utf8ByteSize]))]

/-- `terms`: the distinct terms of a text in first-seen order. -/
def termsOp (r : Request) : Reply := do
  let text ← r.text "text"
  return Json.strings (({} : Text.Tokenizer).terms text)

/-- `value_terms`: the sorted distinct terms of a value's string leaves. -/
def valueTermsOp (r : Request) : Reply :=
  let ts := ({} : Text.Tokenizer).valueTerms ((r.get? "value").getD .null)
  return Json.strings (Std.ExtTreeSet.ofList ts compare).toList

end TagStore.Api
