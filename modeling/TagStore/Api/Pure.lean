import TagStore.Api.Reply
import TagStore.Insert
import TagStore.Config
import TagStore.Cache.Key
import TagStore.Storage.Record
import TagStore.Storage.Registry
/-!
# Api.Pure

Requests answered without any state: checks of names and ids, numbers read from values,
query kinds and specs, documents and their stored form, write requests, engine
configurations and cache keys.
-/

namespace TagStore.Api

open Request

/-- A set of tags as a sorted array. -/
def tagsJson (t : TagSet) : Json := Json.strings t.toList

/-- `validate_name`: null for a valid dataset name. -/
def validateNameOp (r : Request) : Reply := do
  let name ← r.text "name"
  Failure.lift (validateName name)
  return .null

/-- `validate_ids`: null when no id is blank. -/
def validateIdsOp (r : Request) : Reply := do
  let ids ← r.texts "ids"
  Failure.lift (validateIds ids)
  return .null

/-- `value_as_u64`: the value read as an unsigned number, or null. -/
def valueAsUnsignedOp (r : Request) : Reply :=
  return match valueAsUnsigned ((r.get? "value").getD .null) with
    | some n => Json.ofUInt64 n
    | none => .null

/-- `query_type`: the kind named by a free text. -/
def queryTypeOp (r : Request) : Reply := do
  let text ← r.text "text"
  let k ← Failure.lift (QueryKind.parse text)
  return .string k.name

/-- A query spec field, `{}` when absent. -/
def specField (r : Request) : Except Failure QuerySpec :=
  decoded "query spec" (QuerySpec.ofJson? ((r.get? "spec").getD (.object [])))

/-- `spec`: a query spec with its resolved parts and its record form. -/
def specOp (r : Request) : Reply := do
  let q ← specField r
  return Json.obj [("type", .string q.kind.name),
    ("tag", match q.tag with | some t => .string t | none => .null),
    ("page", Json.ofInt64 q.page), ("options", .object q.options),
    ("resolved_tag", .string q.resolvedTag), ("resolved_page", Json.ofNat q.resolvedPage),
    ("search_text", match q.searchText with | some t => .string t | none => .null),
    ("custom_query", q.customQuery.getD .null), ("reserialized", q.toJson)]

/-- `poly`: a document with its tags and one data field read three ways. -/
def documentOp (r : Request) : Reply := do
  let d ← r.document "poly"
  let k := r.textOr "key" ""
  return Json.obj [("poly", renderDocument false d), ("tags", tagsJson d.tags),
    ("fetch_u64", match d.fetchUnsigned k with | some n => Json.ofUInt64 n | none => .null),
    ("fetch_str", match d.fetchStr k with | some s => .string s | none => .null),
    ("contains", .bool (d.contains k))]

/-- The index entry of a stored document as a value. -/
def entryJson (e : IndexEntry) : Json :=
  Json.obj [("id", .string e.id), ("tags", tagsJson e.tags), ("timestamp", Json.ofInt64 e.timestamp),
    ("seq", Json.ofUInt64 e.seq)]

/-- `stored_poly`: a document read as a stored document, and written back. -/
def storedOp (r : Request) : Reply := do
  let d ← r.document "poly"
  let s ← Failure.lift (StoredDocument.ofDocument d)
  return Json.obj [("id", .string s.id), ("tags", tagsJson s.tags),
    ("timestamp", Json.ofInt64 s.timestamp), ("seq", Json.ofUInt64 s.seq),
    ("stripped", renderDocument false s.document), ("to_poly", renderDocument false s.toDocument),
    ("entry", entryJson s.entry)]

/-- `effective_tags`: the tags a write request files its document under. -/
def effectiveTagsOp (r : Request) : Reply := do
  let req ← decoded "insert request" (InsertRequest.ofJson? ((r.get? "request").getD .null))
  let opts ← match r.get? "options" with
    | none => .ok {}
    | some v => decoded "insert options" (InsertOptions.ofJson? v)
  return tagsJson (req.effectiveTags opts)

/-- `engine_config`: a configuration read from `text`, or else from `value`, written back. -/
def engineConfigOp (r : Request) : Reply := do
  let c ← match r.get? "text" with
    | some (.string s) => decoded "engine config" (EngineConfig.ofText? s)
    | _ => decoded "engine config" (EngineConfig.ofJson? ((r.get? "value").getD .null))
  return c.toJson

/-- `cache_keys`: every kind of cache key for the given names. -/
def cacheKeysOp (r : Request) : Reply := do
  let dataset ← r.text "dataset"
  let operation := r.textOr "operation" ""
  let parameters ← match r.get? "parameters" with
    | some v@(.array _) => stringsOf "parameters" v
    | _ => .ok []
  let id := r.textOr "id" ""
  let tag := r.textOr "tag" ""
  let q ← specField r
  return Json.obj [("cache_key", .string (Cache.key dataset operation parameters)),
    ("config", .string (Cache.configKey dataset)), ("metadata", .string (Cache.metadataKey dataset)),
    ("read", .string (Cache.readKey dataset id)), ("index", .string (Cache.indexKey dataset)),
    ("tag", .string (Cache.tagKey dataset tag)), ("query", .string (Cache.queryKey dataset q)),
    ("count", .string (Cache.countKey dataset q))]

end TagStore.Api
