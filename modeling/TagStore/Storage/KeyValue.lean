import TagStore.Storage.Host
import TagStore.Query.Plan
import TagStore.Insert
import TagStore.Codec
import TagStore.Binary.Serial
import TagStore.Storage.Registry
import TagStore.Storage.Record
/-!
# Storage.KeyValue

A backend over a key-value store. The stored documents are what counts: the tag index of a
dataset is rebuilt from them on first use and after every batch, and its counts are
written back to the store. Keys under the backend's prefix:

* `datasets`: the sorted names of the datasets, in the binary serial form;
* `<dataset>/config` and `<dataset>/metadata`: the configuration and metadata documents;
* `<dataset>/index`: the tag counts of the last rebuild;
* `<dataset>/doc/<id>`: each stored document with its write metadata.

Documents are written one by one. A write that fails stops the batch: the index is
rebuilt from what was written and the failure becomes a partial batch, which says how
many requests were written before it. A rebuild that fails, such as an interrupted scan,
fails the operation after its writes; a dataset whose first rebuild fails is rebuilt again
on its next use. Several backends may share one store; each keeps its own indexes and
sequence, and a rebuild moves the sequence past every stored sequence number.

Searches are not offered: a search query or count is an unsupported operation.
-/

namespace TagStore

/-- Which store a key-value backend talks to. -/
inductive StoreLink where
  /-- The store of the host, which other backends may share. -/
  | shared
  /-- A store of the backend's own. -/
  | own (s : KvStore)

/-- The state of a key-value backend. -/
structure KvBackend where
  store : StoreLink
  keyPrefix : String
  codec : Codec
  planner : Planner
  /-- The index of each dataset used so far. -/
  datasets : Std.ExtTreeMap String TagIndex compare := ∅
  /-- The next sequence number. -/
  sequence : Nat := 1

/-- Dataset names in the binary serial form. -/
def encodeNames (names : List String) : ByteArray := Binary.Serial.seq (names.map Binary.Serial.text)

/-- Dataset names read from the binary serial form, sorted and without repeats. -/
def decodeNames? (b : ByteArray) : Option (List String) :=
  (Binary.Serial.readSeq Binary.Serial.readText b 0).map fun (ns, _) =>
    (Std.ExtTreeSet.ofList ns compare).toList

/-- Tag counts in the binary serial form. -/
def encodeCounts (counts : List (String × Nat)) : ByteArray :=
  Binary.Serial.seq (counts.map fun (t, n) => Binary.Serial.text t ++ Binary.Serial.u64 n)

/-- Tag counts read from the binary serial form, sorted by tag, the last of a tag winning. -/
def decodeCounts? (b : ByteArray) : Option (List (String × Nat)) :=
  (Binary.Serial.readSeq Binary.Serial.readTextCount b 0).map fun (cs, _) =>
    (cs.foldl (fun (m : Std.ExtTreeMap String Nat compare) (t, n) => m.insert t n) ∅).toList

namespace KvBackend

/-! ## Keys -/

/-- The key of the dataset names. -/
def datasetsKey (k : KvBackend) : String := k.keyPrefix ++ "datasets"

/-- The key of a dataset's configuration. -/
def configKey (k : KvBackend) (name : String) : String := k.keyPrefix ++ name ++ "/config"

/-- The key of a dataset's metadata. -/
def metadataKey (k : KvBackend) (name : String) : String := k.keyPrefix ++ name ++ "/metadata"

/-- The key of a dataset's tag counts. -/
def indexKey (k : KvBackend) (name : String) : String := k.keyPrefix ++ name ++ "/index"

/-- The prefix of a dataset's document keys. -/
def documentsPrefix (k : KvBackend) (name : String) : String := k.keyPrefix ++ name ++ "/doc/"

/-- The key of one document. -/
def documentKey (k : KvBackend) (name id : String) : String := k.documentsPrefix name ++ id

/-! ## The store -/

/-- Apply a change to the store the backend talks to. -/
def withStore {α : Type} (f : KvStore → α × KvStore) : Run KvBackend α := do
  match (← Run.self).store with
  | .shared =>
    let (a, s) := f (← Run.host).sharedStore
    Run.modifyHost fun h => { h with sharedStore := s }
    pure a
  | .own s =>
    let (a, s) := f s
    Run.modifySelf fun k => { k with store := .own s }
    pure a

/-- The value of a key. -/
def get? (key : String) : Run KvBackend (Option ByteArray) := withStore fun s => (s.get? key, s)

/-- Write a key. -/
def put (key : String) (value : ByteArray) : Run KvBackend Unit := do
  Run.ofOutcome (← withStore fun s =>
    match s.put key value with
    | .ok s' => (.ok (), s')
    | .error e => (.error e, s))

/-- Remove a key; whether it was there. -/
def delete (key : String) : Run KvBackend Bool := withStore fun s => s.delete key

/-- Every pair under a prefix, in key order. -/
def scan (pre : String) : Run KvBackend (List (String × ByteArray)) := do
  Run.ofOutcome (← withStore fun s => s.scan pre)

/-- The document under a key. -/
def getDocument (key : String) : Run KvBackend (Option Document) := do
  match ← get? key with
  | none => pure none
  | some b => some <$> Run.ofOutcome ((← Run.self).codec.decode b)

/-- Write a document under a key. -/
def putDocument (key : String) (d : Document) : Run KvBackend Unit := do
  put key ((← Run.self).codec.encode d)

/-- The names of the datasets. -/
def names : Run KvBackend (List String) := do
  match ← get? (← Run.self).datasetsKey with
  | none => pure []
  | some b =>
    match decodeNames? b with
    | some ns => pure ns
    | none => throw (.parse "malformed dataset names")

/-- Fail unless the dataset has a configuration. -/
def require (name : String) : Run KvBackend Unit := do
  if (← get? ((← Run.self).configKey name)).isNone then throw (missingDataset name)

/-- The stored documents of a dataset in key order; those that do not decode are left
out. -/
def storedDocuments (name : String) : Run KvBackend (List StoredDocument) := do
  let k ← Run.self
  let pairs ← scan (k.documentsPrefix name)
  pure (pairs.filterMap fun (_, b) =>
    match k.codec.decode b >>= StoredDocument.ofDocument with
    | .ok s => some s
    | .error _ => none)

/-- One stored document. -/
def loadDocument (name id : String) : Run KvBackend (Option StoredDocument) := do
  let k ← Run.self
  match ← get? (k.documentKey name id) with
  | none => pure none
  | some b => some <$> Run.ofOutcome (k.codec.decode b >>= StoredDocument.ofDocument)

/-! ## Indexes -/

/-- The next sequence number. -/
def nextSeq : Run KvBackend Nat := do
  let k ← Run.self
  Run.modifySelf fun k => { k with sequence := k.sequence + 1 }
  pure k.sequence

/-- Replace a dataset's index. -/
def setIndex (name : String) (index : TagIndex) : Run KvBackend Unit :=
  Run.modifySelf fun k => { k with datasets := k.datasets.insert name index }

/-- Rebuild an index from the stored documents, moving the sequence past theirs. -/
def rebuild (name : String) (index : TagIndex) : Run KvBackend (TagIndex × RebuildReport) := do
  let docs ← storedDocuments name
  Run.modifySelf fun k => { k with sequence := docs.foldl (fun acc d => max acc (d.seq.toNat + 1)) k.sequence }
  pure (index.recalculate (docs.map (·.entry)))

/-- Write an index's counts to the store. -/
def saveCounts (name : String) (index : TagIndex) : Run KvBackend Unit := do
  put ((← Run.self).indexKey name) (encodeCounts index.counts)

/-- The index of a dataset, built from the store on first use. -/
def dataset (name : String) : Run KvBackend TagIndex := do
  match (← Run.self).datasets.get? name with
  | some index => pure index
  | none =>
    require name
    let (index, _) ← rebuild name {}
    saveCounts name index
    setIndex name index
    pure index

/-- Rebuild the index of a dataset in use and write its counts. -/
def rescan (name : String) : Run KvBackend RebuildReport := do
  let (index, report) ← rebuild name (← dataset name)
  setIndex name index
  saveCounts name index
  pure report

/-- The failure of a batch stopped by `cause` after `applied` of `total` requests, once
the index is rebuilt from what was written. -/
def failBatch {α : Type} (name : String) (applied total : Nat) (cause : Error) : Run KvBackend α := do
  try
    let _ ← rescan name
  catch _ => pure ()
  throw (.partialBatch applied total cause)

/-! ## Operations -/

/-- Create a dataset unless it exists; its configuration. -/
def create (name : String) : Run KvBackend Document := do
  Run.ofOutcome (validateName name)
  let k ← Run.self
  match ← getDocument (k.configKey name) with
  | some c => pure c
  | none =>
    putDocument (k.metadataKey name) (defaultMetadata (← Run.now))
    putDocument (k.configKey name) defaultConfig
    let ns ← names
    put k.datasetsKey (encodeNames (Std.ExtTreeSet.ofList (name :: ns) compare).toList)
    pure defaultConfig

/-- Whether a dataset exists. -/
def hasDataset (name : String) : Run KvBackend Bool := do
  return (← get? ((← Run.self).configKey name)).isSome

/-- A dataset's configuration. -/
def config (name : String) : Run KvBackend (Option Document) := do
  getDocument ((← Run.self).configKey name)

/-- A dataset's metadata. -/
def metadata (name : String) : Run KvBackend (Option Document) := do
  getDocument ((← Run.self).metadataKey name)

/-- Replace a dataset's configuration. -/
def setConfig (name : String) (d : Document) : Run KvBackend Document := do
  require name
  let c := d.withId configId
  putDocument ((← Run.self).configKey name) c
  pure c

/-- Replace a dataset's metadata. -/
def setMetadata (name : String) (d : Document) : Run KvBackend Document := do
  require name
  let m := d.withId metadataId
  putDocument ((← Run.self).metadataKey name) m
  pure m

/-- The snapshot of the tag counts last written to the store. -/
def index (name : String) : Run KvBackend Document := do
  let current ← dataset name
  match ← get? ((← Run.self).indexKey name) with
  | some b =>
    match decodeCounts? b with
    | some counts => pure (snapshotOfCounts counts)
    | none => throw (.parse "malformed tag counts")
  | none => pure current.snapshot

/-- One tag of a dataset as a document. -/
def tagData (name tag : String) : Run KvBackend (Option Document) := do
  return (← dataset name).tagData tag

/-- Write requests one by one from the `applied`-th of `total`; the written documents. -/
def writeAll (name : String) (options : InsertOptions) (time : Int) (total : Nat) :
    Nat → List InsertRequest → List Document → Run KvBackend (List Document)
  | _, [], out => pure out.reverse
  | applied, r :: rs, out => do
    let seq ← nextSeq
    let stored := StoredDocument.new r.document (r.effectiveTags options) (Int64.ofInt time) seq.toUInt64
    let doc := stored.toDocument
    let k ← Run.self
    try put (k.documentKey name stored.id) (k.codec.encode doc)
    catch cause => failBatch name applied total cause
    writeAll name options time total (applied + 1) rs (doc :: out)

/-- Write a batch, then rebuild the index. -/
def insertWith (name : String) (options : InsertOptions) (requests : List InsertRequest) :
    Run KvBackend (List Document) := do
  let _ ← dataset name
  Run.ofOutcome (validateIds (requests.map (·.document.id)))
  let time ← Run.now
  let out ← writeAll name options time requests.length 0 requests []
  let _ ← rescan name
  pure out

/-- The stored documents of the ids that exist, in the order asked. -/
def read (name : String) (ids : List String) : Run KvBackend (List Document) := do
  require name
  let found ← ids.mapM (loadDocument name)
  pure (found.filterMap (·.map (·.toDocument)))

/-- Remove ids one by one from the `applied`-th of `total`; the removed documents. -/
def removeAll (name : String) (total : Nat) :
    Nat → List String → List Document → Run KvBackend (List Document)
  | _, [], out => pure out.reverse
  | applied, id :: ids, out => do
    let found ← try loadDocument name id catch cause => failBatch name applied total cause
    match found with
    | some s =>
      let _ ← delete ((← Run.self).documentKey name id)
      removeAll name total (applied + 1) ids (s.toDocument :: out)
    | none => removeAll name total (applied + 1) ids out

/-- Remove documents, then rebuild the index; those that existed, in the order asked. -/
def remove (name : String) (ids : List String) : Run KvBackend (List Document) := do
  let _ ← dataset name
  let out ← removeAll name ids.length 0 ids []
  let _ ← rescan name
  pure out

/-- The plan of a query; searches are not offered. -/
def plan (name : String) (spec : QuerySpec) : Run KvBackend QueryPlan := do
  if spec.kind == .search then throw (Error.unsupported "SEARCH on kv backend")
  let config ← config name
  Run.ofOutcome ((← Run.self).planner.plan name config spec)

/-- Run a query, loading documents from the store. -/
def query (name : String) (spec : QuerySpec) : Run KvBackend (List Document) := do
  let p ← plan name spec
  let index ← dataset name
  p.execute index drawSeed fun id => do return (← loadDocument name id).map (·.toDocument)

/-- Count a query's results without paging. -/
def count (name : String) (spec : QuerySpec) : Run KvBackend Nat := do
  let p ← plan name spec
  let index ← dataset name
  p.count index fun id => do return (← loadDocument name id).map (·.toDocument)

/-- The listing of every dataset; a missing configuration or metadata shows the
defaults. -/
def list : Run KvBackend (List Document) := do
  let ns ← names
  ns.mapM fun n => do
    let c := (← config n).getD defaultConfig
    let m ← match ← metadata n with
      | some m => pure m
      | none => do pure (defaultMetadata (← Run.now))
    pure (listingEntry n ⟨c, m⟩)

/-- Rebuild a dataset's index from the store. -/
def recalculate (name : String) : Run KvBackend RebuildReport := do
  let _ ← dataset name
  rescan name

end KvBackend

end TagStore
