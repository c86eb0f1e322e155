import TagStore.Api.Pure
import TagStore.Api.Analysis
import TagStore.Api.Query
import TagStore.Api.Codec
import TagStore.Api.Lru
import TagStore.Api.Index
import TagStore.Api.Session
/-!
# Api.Respond

The JSON request interface: one request object in, one answer object out. The field
`op` names the operation; the other fields are its arguments.
-/

namespace TagStore.Api

/-- The reply to a request object. -/
def dispatch (r : Request) : Reply := do
  let op ← r.text "op"
  match op with
  | "validate_name" => validateNameOp r
  | "validate_ids" => validateIdsOp r
  | "value_as_u64" => valueAsUnsignedOp r
  | "query_type" => queryTypeOp r
  | "spec" => specOp r
  | "poly" => documentOp r
  | "stored_poly" => storedOp r
  | "effective_tags" => effectiveTagsOp r
  | "engine_config" => engineConfigOp r
  | "cache_keys" => cacheKeysOp r
  | "tokenize" => tokenizeOp r
  | "terms" => termsOp r
  | "value_terms" => valueTermsOp r
  | "filter" => filterOp r
  | "search" => searchOp r
  | "plan" => planOp r
  | "codec_roundtrip" => codecRoundtripOp r
  | "codec_decode" => codecDecodeOp r
  | "lru" => lruOp r
  | "index" => indexOp r
  | "session" => sessionOp r
  | _ => .error (.request ("unknown op " ++ op))

/-- The answer to one request value. -/
def respond (input : Json) : Json :=
  match input with
  | .object fs => replyJson (dispatch ⟨fs⟩)
  | _ => replyJson (.error (.request "missing string field op"))

/-- The answer to one line of text holding a request. -/
def answerLine (line : String) : String :=
  match Json.parse line with
  | .ok v => Json.render (respond v)
  | .error _ => Json.render (replyJson (.error (.request "input is not JSON")))

end TagStore.Api
