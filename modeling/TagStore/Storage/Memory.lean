import TagStore.Storage.Host
import TagStore.Storage.DatasetFile
import TagStore.Query.Plan
import TagStore.Insert
/-!
# Storage.Memory

The reference backend: every dataset's documents and tag index held as values, the index
kept up to date write by write.

Every write of a batch gets the same time and its own sequence number, counted from 1
across the backend. A batch with a blank id writes nothing. With deferred indexing the
whole index of the dataset is rebuilt once after the batch, which files the same entries.

With a persistence directory, opening makes the directory, takes its lock (which fails
while another engine holds it) and loads every `<dataset>.poly` file in name order, each
under the name the file records; a damaged file fails the opening and frees the lock. The
sequence goes on after the highest loaded one. Closing writes every dataset to its file and
frees the lock. Without a directory, opening and closing do nothing.
-/

namespace TagStore

/-- The documents and tag index of one dataset. -/
structure MemoryDataset where
  documents : Std.ExtTreeMap String StoredDocument compare := ∅
  index : TagIndex := {}

/-- The state of a memory backend. -/
structure MemoryBackend where
  /-- The engine instance, which owns the lock it takes. -/
  lockId : Nat
  planner : Planner
  registry : Registry := {}
  datasets : Std.ExtTreeMap String MemoryDataset compare := ∅
  /-- How documents are written to files. -/
  codec : Codec := .plain
  /-- The persistence directory, if any. -/
  directory : Option Path := none
  /-- Whether the backend is open on its directory and holds its lock. -/
  holdsDirectory : Bool := false
  /-- The next sequence number. -/
  sequence : Nat := 1

/-- The name of the lock file in a persistence directory. -/
def lockFileName : String := ".lock"

/-- The extension of dataset files. -/
def datasetExtension : String := "poly"

/-- Take the lock of a directory for an engine instance: the lock file is made if missing,
and the lock fails while another instance holds it. -/
def acquireLock (dir : Path) (owner : Nat) : Run Unit Unit := do
  let h ← Run.host
  let lockPath := dir ++ [lockFileName]
  if !h.files.isFile lockPath then Run.changeFiles (·.write lockPath ByteArray.empty)
  match h.lockHolder with
  | some holder =>
    if holder != owner then throw (.backend (dir.display ++ " is owned by another engine"))
  | none => pure ()
  Run.modifyHost fun h => { h with lockHolder := some owner }

/-- Free the lock if the instance holds it. -/
def releaseLock (owner : Nat) : Run Unit Unit :=
  Run.modifyHost fun h => if h.lockHolder == some owner then { h with lockHolder := none } else h

namespace MemoryBackend

/-- A backend with the planner and, if given, a persistence directory and its codec. -/
def new (lockId : Nat) (planner : Planner) (persistence : Option (Path × Codec)) : MemoryBackend :=
  match persistence with
  | some (dir, codec) => { lockId, planner, codec, directory := some dir }
  | none => { lockId, planner }

/-- A dataset's documents and index; a dataset that was never created is not found. -/
def dataset (name : String) : Run MemoryBackend MemoryDataset := do
  match (← Run.self).datasets.get? name with
  | some d => pure d
  | none => throw (missingDataset name)

/-- Replace a dataset's documents and index. -/
def putDataset (name : String) (d : MemoryDataset) : Run MemoryBackend Unit :=
  Run.modifySelf fun m => { m with datasets := m.datasets.insert name d }

/-- The next sequence number. -/
def nextSeq : Run MemoryBackend Nat := do
  let m ← Run.self
  Run.modifySelf fun m => { m with sequence := m.sequence + 1 }
  pure m.sequence

/-- A dataset with its documents as they were stored, replacing any earlier one; the
sequence goes on after the highest stored one. Documents of one id: the last wins. -/
def restore (name : String) (record : DatasetRecord) (docs : List StoredDocument) :
    Run MemoryBackend Unit :=
  Run.modifySelf fun m =>
    { m with
      sequence := docs.foldl (fun acc d => max acc (d.seq.toNat + 1)) m.sequence
      registry := m.registry.restore name record
      datasets := m.datasets.insert name
        ⟨docs.foldl (fun acc d => acc.insert d.id d) ∅, ({} : TagIndex).insertBatch (docs.map (·.entry))⟩ }

/-- The dataset files of a directory, in name order. -/
def datasetFiles (t : FileTree) (dir : Path) : List Path :=
  ((t.children dir).filter fun n => t.isFile (dir ++ [n]) && Path.extension? n == some datasetExtension).map
    fun n => dir ++ [n]

/-- Load every dataset file of a directory. -/
def loadAll (dir : Path) : Run MemoryBackend Unit := do
  let t ← Run.files
  (datasetFiles t dir).forM fun path => do
    let loaded ← Run.ofOutcome (decodeDatasetFile (← Run.self).codec path ((t.read? path).getD .empty))
    restore loaded.name loaded.record loaded.documents

/-- Write every dataset to its file, if the backend is open on a directory. -/
def flush : Run MemoryBackend Unit := do
  let m ← Run.self
  match m.directory, m.holdsDirectory with
  | some dir, true =>
    m.registry.names.forM fun name =>
      match m.registry.get? name, m.datasets.get? name with
      | some record, some ds =>
        Run.changeFiles (·.write (dir ++ [name ++ "." ++ datasetExtension])
          (encodeDatasetFile m.codec name record ds.documents.values))
      | _, _ => pure ()
  | _, _ => pure ()

/-- Open the backend: on a persistence directory, make it, take its lock and load it. -/
def openStore : Run MemoryBackend Unit := do
  let m ← Run.self
  match m.directory with
  | none => pure ()
  | some dir =>
    if m.holdsDirectory then return
    Run.changeFiles (·.makeDirectories dir)
    Run.onHost (acquireLock dir m.lockId)
    try loadAll dir
    catch e => do
      Run.onHost (releaseLock m.lockId)
      throw e
    Run.modifySelf fun m => { m with holdsDirectory := true }

/-- Close the backend: write every dataset and free the lock. -/
def closeStore : Run MemoryBackend Unit := do
  flush
  let m ← Run.self
  if m.holdsDirectory then Run.onHost (releaseLock m.lockId)
  Run.modifySelf fun m => { m with holdsDirectory := false }

/-- Create a dataset unless it exists; its configuration. -/
def create (name : String) : Run MemoryBackend Document := do
  let now ← Run.now
  let m ← Run.self
  let (registry, config, _) ← Run.ofOutcome (m.registry.create name now)
  Run.modifySelf fun m =>
    { m with registry, datasets := if m.datasets.contains name then m.datasets else m.datasets.insert name {} }
  pure config

/-- Whether a dataset exists. -/
def hasDataset (name : String) : Run MemoryBackend Bool := do
  return (← Run.self).registry.exists? name

/-- A dataset's configuration. -/
def config (name : String) : Run MemoryBackend (Option Document) := do
  return (← Run.self).registry.config? name

/-- A dataset's metadata. -/
def metadata (name : String) : Run MemoryBackend (Option Document) := do
  return (← Run.self).registry.metadata? name

/-- Replace a dataset's configuration. -/
def setConfig (name : String) (d : Document) : Run MemoryBackend Document := do
  let (registry, c) ← Run.ofOutcome ((← Run.self).registry.setConfig name d)
  Run.modifySelf fun m => { m with registry }
  pure c

/-- Replace a dataset's metadata. -/
def setMetadata (name : String) (d : Document) : Run MemoryBackend Document := do
  let (registry, c) ← Run.ofOutcome ((← Run.self).registry.setMetadata name d)
  Run.modifySelf fun m => { m with registry }
  pure c

/-- The snapshot of a dataset's tag counts. -/
def index (name : String) : Run MemoryBackend Document := do
  return (← dataset name).index.snapshot

/-- One tag of a dataset as a document. -/
def tagData (name tag : String) : Run MemoryBackend (Option Document) := do
  return (← dataset name).index.tagData tag

/-- Write a batch: every document stored with its effective tags, the batch's time and its
own sequence number; the written documents with their write metadata. -/
def insertWith (name : String) (options : InsertOptions) (requests : List InsertRequest) :
    Run MemoryBackend (List Document) := do
  let ds ← dataset name
  Run.ofOutcome (validateIds (requests.map (·.document.id)))
  let time ← Run.now
  let stored ← requests.mapM fun r => do
    let seq ← nextSeq
    pure (StoredDocument.new r.document (r.effectiveTags options) (Int64.ofInt time) seq.toUInt64)
  let documents := stored.foldl (fun acc s => acc.insert s.id s) ds.documents
  let index :=
    if options.deferIndex then (ds.index.recalculate (documents.values.map (·.entry))).1
    else ds.index.insertBatch (stored.map (·.entry))
  putDataset name ⟨documents, index⟩
  pure (stored.map (·.toDocument))

/-- The stored documents of the ids that exist, in the order asked. -/
def read (name : String) (ids : List String) : Run MemoryBackend (List Document) := do
  let ds ← dataset name
  pure (ids.filterMap fun id => (ds.documents.get? id).map (·.toDocument))

/-- Remove documents; those that existed, in the order asked. -/
def remove (name : String) (ids : List String) : Run MemoryBackend (List Document) := do
  let ds ← dataset name
  let (documents, removed) := ids.foldl (fun (acc : Std.ExtTreeMap String StoredDocument compare × List StoredDocument) id =>
    match acc.1.get? id with
    | some s => (acc.1.erase id, acc.2 ++ [s])
    | none => acc) (ds.documents, [])
  putDataset name ⟨documents, (ds.index.removeBatch (removed.map (·.id))).1⟩
  pure (removed.map (·.toDocument))

/-- The plan of a query on a dataset. -/
def plan (name : String) (spec : QuerySpec) : Run MemoryBackend QueryPlan := do
  let m ← Run.self
  Run.ofOutcome (m.planner.plan name (m.registry.config? name) spec)

/-- Run a query. -/
def query (name : String) (spec : QuerySpec) : Run MemoryBackend (List Document) := do
  let p ← plan name spec
  let ds ← dataset name
  p.execute ds.index drawSeed fun id => pure ((ds.documents.get? id).map (·.toDocument))

/-- Count a query's results without paging. -/
def count (name : String) (spec : QuerySpec) : Run MemoryBackend Nat := do
  let p ← plan name spec
  let ds ← dataset name
  p.count ds.index fun id => pure ((ds.documents.get? id).map (·.toDocument))

/-- The listing of every dataset. -/
def list : Run MemoryBackend (List Document) := do
  return (← Run.self).registry.list

/-- Rebuild a dataset's index from its documents. -/
def recalculate (name : String) : Run MemoryBackend RebuildReport := do
  let ds ← dataset name
  let (index, report) := ds.index.recalculate (ds.documents.values.map (·.entry))
  putDataset name { ds with index }
  pure report

end MemoryBackend

end TagStore
