import TagStore.Api.Pure
import TagStore.Api.Query
/-!
# Api.Index

A bare tag index driven by a list of steps, with entries given explicitly, and a side
store of documents that queries over the index load from.
-/

namespace TagStore.Api

open Request

/-- The state of an index session: the index and the documents queries load. -/
structure IndexSession where
  index : TagIndex := {}
  store : Std.ExtTreeMap String Document compare := ∅

/-- An entry read from a request's fields: `id`, `tags`, `timestamp` (default 0) and `seq`
(default 0). -/
def entryOf (r : Request) : Except Failure IndexEntry := do
  let id ← r.text "id"
  let tags ← r.texts "tags"
  let timestamp ← match r.get? "timestamp" with
    | none => pure 0
    | some v =>
      match v.toInt64? with
      | some t => pure t
      | none => .error (.request "timestamp must be an i64")
  let seq ← r.natOr "seq" 0
  pure ⟨id, Std.ExtTreeSet.ofList tags compare, timestamp, seq.toUInt64⟩

/-- The entries of a request's `entries` array. -/
def entriesOf (r : Request) : Except Failure (List IndexEntry) := do
  let items ← match r.get? "entries" with
    | some (.array xs) => pure xs
    | _ => .error (.request "entries must be an array")
  items.mapM fun j => entryOf ⟨(j.fields?).getD []⟩

/-- Generated entries: entry `i` from `start` on has id `prefix ++ i`, tags `_date` and
`prefix ++ (i % mod)`, and timestamp and sequence `i`. -/
def generatedEntries (r : Request) : Except Failure (List IndexEntry) := do
  let count ← r.natOr "count" 0
  let modulus ← r.natOr "mod" 4
  let pre := r.textOr "prefix" "id_"
  let start ← r.natOr "start" 0
  let modulus := max modulus 1
  pure ((List.range count).map fun k =>
    let i := start + k
    ⟨pre ++ toString i, Std.ExtTreeSet.ofList [dateTag, pre ++ toString (i % modulus)] compare,
      Int64.ofInt i, i.toUInt64⟩)

/-- A rebuild report as a record. -/
def reportJson (r : RebuildReport) : Json :=
  Json.obj [("documents", Json.ofNat r.documents), ("tags", Json.ofNat r.tags),
    ("inconsistent", Json.strings r.inconsistent), ("changed", Json.ofNat r.changed),
    ("clean", .bool r.clean)]

/-- What a random draw from a tag shows: its size, whether the ids are distinct and all
members of the tag, and the sorted ids when the draw took the whole membership. -/
def indexDrawJson (members : List String) (ids : List String) : Json :=
  let sorted := (Std.ExtTreeSet.ofList ids compare).toList
  Json.obj [("random", Json.ofNat ids.length), ("distinct", .bool (sorted.length == ids.length)),
    ("members_of_tag", .bool (ids.all members.contains)),
    ("ids", if ids.length == members.length then Json.strings sorted else .null)]

/-- The default configuration of index queries. -/
def indexQueryConfig : Document := ⟨configId, [(itemPerPageKey, Json.ofNat 10)], []⟩

/-- The plan of a query step over the index. -/
def indexPlan (r : Request) : Except Failure QueryPlan := do
  let dflt ← r.natOr "default_item_per_page" 10
  let spec ← specField r
  let config ← match r.boolOr "unconfigured" false, r.get? "config" with
    | true, _ => pure none
    | false, some _ => some <$> r.document "config"
    | false, none => pure (some indexQueryConfig)
  Failure.lift ((Planner.new dflt).plan "ds" config spec)

/-- One step on an index session. -/
def indexStep (s : IndexSession) (step : Request) : Except Failure (Json × IndexSession) := do
  let op ← step.text "op"
  let load (id : String) : Outcome (Option Document) := .ok (s.store.get? id)
  match op with
  | "insert" =>
    let e ← entryOf step
    pure (.null, { s with index := s.index.insert e })
  | "insert_batch" =>
    let es ← entriesOf step
    pure (.null, { s with index := s.index.insertBatch es })
  | "recalculate" =>
    let es ← entriesOf step
    let (t, report) := s.index.recalculate es
    pure (reportJson report, { s with index := t })
  | "insert_gen" =>
    let es ← generatedEntries step
    pure (.null, { s with index := s.index.insertBatch es })
  | "recalculate_gen" =>
    let es ← generatedEntries step
    let (t, report) := s.index.recalculate es
    pure (reportJson report, { s with index := t })
  | "remove" =>
    let id ← step.text "id"
    let (t, held) := s.index.remove id
    pure ((held.map tagsJson).getD .null, { s with index := t })
  | "remove_batch" =>
    let ids ← step.texts "ids"
    let (t, n) := s.index.removeBatch ids
    pure (Json.ofNat n, { s with index := t })
  | "tag_count" =>
    let tag ← step.text "tag"
    pure (Json.ofNat (s.index.tagCount tag), s)
  | "tags_of" =>
    let id ← step.text "id"
    pure (((s.index.tagsOf id).map tagsJson).getD .null, s)
  | "contains" =>
    let id ← step.text "id"
    pure (.bool (s.index.contains id), s)
  | "document_count" => pure (Json.ofNat s.index.documentCount, s)
  | "page" =>
    let tag ← step.text "tag"
    let offset ← step.natOr "offset" 0
    let limit ← step.natOr "limit" 10
    pure (Json.strings (s.index.page tag offset limit), s)
  | "members" =>
    let tag ← step.text "tag"
    pure (Json.strings (s.index.members tag), s)
  | "sample" =>
    let tag ← step.text "tag"
    let count ← step.natOr "count" 0
    pure (indexDrawJson (s.index.members tag) (s.index.sample tag count drawSeed), s)
  | "counts" =>
    pure (.object (s.index.counts.map fun (t, n) => (t, Json.ofNat n)), s)
  | "snapshot" => pure (renderDocument false s.index.snapshot, s)
  | "tag_data" =>
    let tag ← step.text "tag"
    pure (((s.index.tagData tag).map (renderDocument false)).getD .null, s)
  | "verify" => pure (Json.strings s.index.verify, s)
  | "inconsistencies" => pure (Json.ofNat s.index.inconsistencies, s)
  | "put_docs" =>
    let docs ← documents step "docs"
    let store := docs.foldl (fun m d => m.insert d.id d) s.store
    pure (Json.ofNat store.size, { s with store })
  | "drop_docs" =>
    let ids ← step.texts "ids"
    let store := ids.foldl (fun m id => m.erase id) s.store
    pure (Json.ofNat store.size, { s with store })
  | "query" =>
    let plan ← indexPlan step
    let docs ← Failure.lift (plan.execute s.index drawSeed load)
    let ids := docs.map (·.id)
    match plan with
    | .random tag _ => pure (indexDrawJson (s.index.members tag) ids, s)
    | _ => pure (Json.strings ids, s)
  | "count" =>
    let plan ← indexPlan step
    let n ← Failure.lift (plan.count s.index load)
    pure (Json.ofNat n, s)
  | _ => .error (.request ("unknown index op " ++ op))

/-- Runs steps in order, each seeing the session the last one left. -/
def indexSteps (s : IndexSession) : List Json → List Json
  | [] => []
  | step :: rest =>
    match indexStep s ⟨(step.fields?).getD []⟩ with
    | .ok (j, s) => replyJson (.ok j) :: indexSteps s rest
    | .error e => replyJson (.error e) :: indexSteps s rest

/-- `index`: a tag index driven by steps. -/
def indexOp (r : Request) : Reply := do
  let steps ← r.array "ops"
  return Json.obj [("steps", .array (indexSteps {} steps))]

end TagStore.Api
