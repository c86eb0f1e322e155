import TagStore.Api.Reply
import TagStore.Cache.Lru
/-!
# Api.Lru

A least-recently-used cache driven by a list of steps: `get`, `put`, `remove`, `clear`
and `stats`. The cache's clock stands still, so a time to live of 0 expires every entry
at once and any other never does.
-/

namespace TagStore.Api

open Request

/-- The value of a cache entry as a record: `{"count": n}`, `{"poly": document}` or
`{"list": documents}`. -/
def cachedJson : CachedValue → Json
  | .count n => Json.obj [("count", Json.ofNat n)]
  | .document d => Json.obj [("poly", renderDocument false d)]
  | .list ds => Json.obj [("list", .array (ds.map (renderDocument false)))]

/-- A cache entry read from its record: the first of `count`, `poly` and `list` that is
present, even as `null`, decides the kind. -/
def cachedOfJson (j : Json) : Except Failure CachedValue :=
  let r : Request := ⟨(j.fields?).getD []⟩
  match r.given? "count", r.given? "poly", r.given? "list" with
  | some c, _, _ =>
    match c.toUInt64? with
    | some n => .ok (.count n.toNat)
    | none => .error (.request "count must be u64")
  | none, some p, _ => CachedValue.document <$> decoded "document" (Document.ofJson? p)
  | none, none, some (.array items) =>
    CachedValue.list <$> items.mapM fun item => decoded "document" (Document.ofJson? item)
  | none, none, some _ => .error (.store (.json "invalid documents in list"))
  | none, none, none => .error (.request "value needs count, poly or list")

/-- The counts of a cache as a record. -/
def statsJson (s : CacheStats) : Json :=
  Json.obj [("hits", Json.ofNat s.hits), ("misses", Json.ofNat s.misses),
    ("size", Json.ofNat s.size), ("capacity", Json.ofNat s.capacity),
    ("hit_rate", .number (.float s.hitRate))]

/-- One step on a cache. -/
def lruStep (c : LruCache) (step : Request) : Reply × LruCache :=
  let run : Except Failure (Json × LruCache) := do
    let op ← step.text "op"
    match op with
    | "get" =>
      let key ← step.text "key"
      let (v, c) := c.get key cacheClock
      pure ((v.map cachedJson).getD .null, c)
    | "put" =>
      let v ← cachedOfJson ((step.get? "value").getD .null)
      let key ← step.text "key"
      pure (.null, c.put key v cacheClock)
    | "remove" =>
      let key ← step.text "key"
      pure (.null, c.remove key)
    | "clear" => pure (.null, c.clear)
    | "stats" => pure (statsJson c.stats, c)
    | _ => .error (.request ("unknown lru op " ++ op))
  match run with
  | .ok (j, c) => (.ok j, c)
  | .error e => (.error e, c)

/-- Runs steps in order, each seeing the cache the last one left. -/
def lruSteps (c : LruCache) : List Json → List Json
  | [] => []
  | s :: rest =>
    let (reply, c) := lruStep c ⟨(s.fields?).getD []⟩
    replyJson reply :: lruSteps c rest

/-- `lru`: a cache driven by steps. -/
def lruOp (r : Request) : Reply := do
  let capacity ← r.natOr "capacity" 16
  let ttl := r.nat? "ttl_secs"
  let name := r.textOr "name" "t"
  let steps ← r.array "ops"
  let c := LruCache.new name capacity ttl
  return Json.obj [("name", .string c.name), ("steps", .array (lruSteps c steps))]

end TagStore.Api
