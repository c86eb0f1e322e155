import TagStore.Storage.Backend
import TagStore.Cache.Key
import TagStore.Config
/-!
# Storage.Engine

An engine: a backend behind cache layers, the outermost first. A layer keeps what it
read or wrote under the keys of `Cache.Key`:

* configuration, metadata and documents by id are written through, so that an engine
  never reads back a stale copy of its own writes; a failed write of configuration or
  metadata, or a failed batch, drops the key instead, since how much landed is unknown;
* index snapshots, tag data, query results and counts are read through and leave only by
  the cache's own rules; results of random queries are never kept;
* removing documents drops their keys, whatever the outcome.

A layer that passes everything through stands for a cache whose every call fails: the
failure is a miss, and nothing is kept. A layer may use a cache of its own or the host's
shared cache. Closing an engine empties each layer's cache, then closes the backend.

The factory builds the engine a configuration describes: the backend it names, with
persistence under the root when there is one, and a cache layer when the configured
provider is `lru`; `none`, an empty name or an unknown provider mean no cache.
-/

namespace TagStore

/-- A cache layer. -/
inductive CacheLayer where
  /-- Nothing is kept. -/
  | passThrough
  /-- A cache of the layer's own. -/
  | own (c : LruCache)
  /-- The host's shared cache. -/
  | shared

/-- A backend behind its cache layers. -/
structure Engine where
  backend : Backend
  /-- Cache layers, the outermost first. -/
  layers : List CacheLayer := []

namespace Engine

variable {α β : Type}

/-! ## The caches of the layers -/

/-- Apply a change to the cache of the `i`-th layer; a layer without a cache gives
`none`. -/
def withCache (i : Nat) (f : LruCache → α × LruCache) : Run Engine (Option α) := do
  match (← Run.self).layers[i]? with
  | some (.own c) =>
    let (a, c) := f c
    Run.modifySelf fun e => { e with layers := e.layers.set i (.own c) }
    pure (some a)
  | some .shared =>
    match (← Run.host).sharedCache with
    | some c =>
      let (a, c) := f c
      Run.modifyHost fun h => { h with sharedCache := some c }
      pure (some a)
    | none => pure none
  | _ => pure none

/-- Read a key of the `i`-th layer's cache. -/
def lookup (i : Nat) (key : String) : Run Engine (Option CachedValue) := do
  return (← withCache i fun c => c.get key cacheClock).join

/-- Keep a value under a key of the `i`-th layer's cache. -/
def keep (i : Nat) (key : String) (v : CachedValue) : Run Engine Unit := do
  let _ ← withCache i fun c => ((), c.put key v cacheClock)

/-- Drop a key of the `i`-th layer's cache. -/
def evict (i : Nat) (key : String) : Run Engine Unit := do
  let _ ← withCache i fun c => ((), c.remove key)

/-- Empty the `i`-th layer's cache. -/
def clearCache (i : Nat) : Run Engine Unit := do
  let _ ← withCache i fun c => ((), c.clear)

/-! ## Layering -/

/-- Run an operation of the backend. -/
def onBackend (m : Run Backend α) : Run Engine α :=
  Run.focus (·.backend) (fun e b => { e with backend := b }) m

/-- An operation through every layer: `wrap i inner` is what the `i`-th layer does around
the operation of the layers inside it. -/
def through (wrap : Nat → (β → Run Engine α) → β → Run Engine α) (base : β → Run Engine α)
    (b : β) : Run Engine α := do
  let n := (← Run.self).layers.length
  (List.range n).foldr wrap base b

/-- A document read through a layer: kept after a read that finds one. -/
def cachedDocument (i : Nat) (key : String) (inner : Run Engine (Option Document)) :
    Run Engine (Option Document) := do
  match ← lookup i key with
  | some (.document d) => pure (some d)
  | _ =>
    let loaded ← inner
    if let some d := loaded then keep i key (.document d)
    pure loaded

/-- A document written through a layer: kept after the write, dropped if it fails. -/
def writtenDocument (i : Nat) (key : String) (inner : Run Engine Document) : Run Engine Document := do
  let stored ← try inner catch e => do
    evict i key
    throw e
  keep i key (.document stored)
  pure stored

/-! ## Operations -/

/-- The backend's name. -/
def name : Run Engine String := do return (← Run.self).backend.name

/-- Open the backend. -/
def openStore : Run Engine Unit := onBackend Backend.openStore

/-- Empty every cache, then close the backend. -/
def closeStore : Run Engine Unit :=
  through (fun i inner _ => do clearCache i; inner ()) (fun _ => onBackend Backend.closeStore) ()

/-- Create a dataset unless it exists; its configuration. -/
def create (ds : String) : Run Engine Document :=
  through (fun i inner _ => do
      let c ← inner ()
      keep i (Cache.configKey ds) (.document c)
      pure c)
    (fun _ => onBackend (Backend.create ds)) ()

/-- Whether a dataset exists. -/
def hasDataset (ds : String) : Run Engine Bool := onBackend (Backend.hasDataset ds)

/-- A dataset's configuration. -/
def config (ds : String) : Run Engine (Option Document) :=
  through (fun i inner _ => cachedDocument i (Cache.configKey ds) (inner ()))
    (fun _ => onBackend (Backend.config ds)) ()

/-- Replace a dataset's configuration. -/
def setConfig (ds : String) (d : Document) : Run Engine Document :=
  through (fun i inner _ => writtenDocument i (Cache.configKey ds) (inner ()))
    (fun _ => onBackend (Backend.setConfig ds d)) ()

/-- A dataset's metadata. -/
def metadata (ds : String) : Run Engine (Option Document) :=
  through (fun i inner _ => cachedDocument i (Cache.metadataKey ds) (inner ()))
    (fun _ => onBackend (Backend.metadata ds)) ()

/-- Replace a dataset's metadata. -/
def setMetadata (ds : String) (d : Document) : Run Engine Document :=
  through (fun i inner _ => writtenDocument i (Cache.metadataKey ds) (inner ()))
    (fun _ => onBackend (Backend.setMetadata ds d)) ()

/-- The snapshot of a dataset's tag counts. -/
def index (ds : String) : Run Engine Document :=
  through (fun i inner _ => do
      match ← lookup i (Cache.indexKey ds) with
      | some (.document d) => pure d
      | _ =>
        let d ← inner ()
        keep i (Cache.indexKey ds) (.document d)
        pure d)
    (fun _ => onBackend (Backend.index ds)) ()

/-- One tag of a dataset as a document. -/
def tagData (ds tag : String) : Run Engine (Option Document) :=
  through (fun i inner _ => cachedDocument i (Cache.tagKey ds tag) (inner ()))
    (fun _ => onBackend (Backend.tagData ds tag)) ()

/-- Write a batch with options; each written document is kept under its id, and a failed
batch drops the ids it held. -/
def insertWith (ds : String) (options : InsertOptions) (requests : List InsertRequest) :
    Run Engine (List Document) :=
  through (fun i inner _ => do
      let written ← try inner () catch e => do
        requests.forM fun r => evict i (Cache.readKey ds r.document.id)
        throw e
      written.forM fun d => keep i (Cache.readKey ds d.id) (.document d)
      pure written)
    (fun _ => onBackend (Backend.insertWith ds options requests)) ()

/-- Write a batch as an update: a bare backend takes it as its update, a cache layer as a
write with the default options. -/
def update (ds : String) (requests : List InsertRequest) : Run Engine (List Document) := do
  if (← Run.self).layers.isEmpty then onBackend (Backend.update ds requests)
  else insertWith ds {} requests

/-- What the `i`-th layer's cache holds for one id: the id, with its document if it holds one. -/
def cachedId (ds : String) (i : Nat) (id : String) : Run Engine (String × Option Document) := do
  match ← lookup i (Cache.readKey ds id) with
  | some (.document d) => pure (id, some d)
  | _ => pure (id, none)

/-- Add what a cache held for an id to the documents found. -/
def addFound (found : Std.ExtTreeMap String Document compare) :
    String × Option Document → Std.ExtTreeMap String Document compare
  | (id, some d) => found.insert id d
  | (_, none) => found

/-- The documents a cache held, by id. -/
def foundOf (looked : List (String × Option Document)) : Std.ExtTreeMap String Document compare :=
  looked.foldl addFound ∅

/-- The ids a cache missed, in the order asked. -/
def missingOf (looked : List (String × Option Document)) : List String :=
  (looked.filter (·.2.isNone)).map (·.1)

/-- Keep a document read through the layers inside the `i`-th, and add it to those found when
its id was asked. -/
def keepLoaded (ds : String) (i : Nat) (ids : List String) (found : Std.ExtTreeMap String Document compare)
    (d : Document) : Run Engine (Std.ExtTreeMap String Document compare) := do
  keep i (Cache.readKey ds d.id) (.document d)
  pure (if ids.contains d.id then found.insert d.id d else found)

/-- Documents read through a layer: ids the cache holds come from it, the others from the
layers inside, which are then kept; the result follows the ids asked, repeats included. -/
def readLayer (ds : String) (i : Nat) (inner : List String → Run Engine (List Document))
    (ids : List String) : Run Engine (List Document) := do
  let looked ← ids.mapM (cachedId ds i)
  let missing := missingOf looked
  let found ← if missing.isEmpty then pure (foundOf looked) else do
    let loaded ← inner missing
    loaded.foldlM (keepLoaded ds i ids) (foundOf looked)
  pure (ids.filterMap found.get?)

/-- The stored documents of the ids that exist. -/
def read (ds : String) (ids : List String) : Run Engine (List Document) :=
  through (readLayer ds) (fun ids => onBackend (Backend.read ds ids)) ids

/-- Remove documents; their keys are dropped whatever the outcome. -/
def remove (ds : String) (ids : List String) : Run Engine (List Document) :=
  through (fun i inner _ => do
      let removed ← try inner () catch e => do
        ids.forM fun id => evict i (Cache.readKey ds id)
        throw e
      ids.forM fun id => evict i (Cache.readKey ds id)
      pure removed)
    (fun _ => onBackend (Backend.remove ds ids)) ()

/-- Run a query; results of random queries are not kept. -/
def query (ds : String) (spec : QuerySpec) : Run Engine (List Document) :=
  through (fun i inner _ => do
      if spec.kind == .random then inner ()
      else
        match ← lookup i (Cache.queryKey ds spec) with
        | some (.list l) => pure l
        | _ =>
          let l ← inner ()
          keep i (Cache.queryKey ds spec) (.list l)
          pure l)
    (fun _ => onBackend (Backend.query ds spec)) ()

/-- Count a query's results without paging. -/
def count (ds : String) (spec : QuerySpec) : Run Engine Nat :=
  through (fun i inner _ => do
      match ← lookup i (Cache.countKey ds spec) with
      | some (.count n) => pure n
      | _ =>
        let n ← inner ()
        keep i (Cache.countKey ds spec) (.count n)
        pure n)
    (fun _ => onBackend (Backend.count ds spec)) ()

/-- The listing of every dataset. -/
def list : Run Engine (List Document) := onBackend Backend.list

/-- Rebuild a dataset's index. -/
def recalculate (ds : String) : Run Engine RebuildReport := onBackend (Backend.recalculate ds)

/-! ## Building -/

/-- The cache layer of a cache configuration, if its provider keeps anything. -/
def configuredLayer (c : CacheConfig) : Option CacheLayer :=
  if c.provider == "lru" then some (.own (LruCache.new c.name c.capacity c.ttlSecs)) else none

/-- The engine a configuration describes, not yet open, with persistence under `root`. -/
def ofConfig (config : EngineConfig) (root : Option Path) : Run Unit Engine := do
  let planner := Planner.new config.defaultItemPerPage
  let codec := Codec.ofCompression config.compression
  let lockId ← Run.freshInstance
  let backend ← match config.backend with
    | "memory" => pure (Backend.memory (MemoryBackend.new lockId planner (root.map (·, codec))))
    | "kv" => pure (Backend.kv { store := .own {}, keyPrefix := config.keyPrefix, codec, planner })
    | "snapshot" =>
      match root with
      | some r => pure (Backend.snapshot { root := r, inner := MemoryBackend.new lockId planner none })
      | none => throw (.invalidArgument "snapshot backend needs a root directory")
    | other => throw (.invalidArgument ("unknown backend " ++ other))
  pure { backend, layers := (config.cache.bind configuredLayer).toList }

end Engine

end TagStore
