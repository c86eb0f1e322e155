import TagStore.Storage.Memory
import TagStore.Storage.KeyValue
import TagStore.Storage.Snapshot
/-!
# Storage.Backend

The three backends behind one set of operations: the memory backend, the key-value
backend and the read-only snapshot backend. Each operation goes to the backend's own.

A write without options is a write with the default options: file under `_date`, index as
you go. An update is the same write, except that the snapshot backend names it an update
when refusing it.
-/

namespace TagStore

/-- A backend. -/
inductive Backend where
  | memory (m : MemoryBackend)
  | kv (k : KvBackend)
  | snapshot (s : SnapshotBackend)

namespace Backend

variable {α : Type}

/-- The backend's name. -/
def name : Backend → String
  | .memory _ => "memory"
  | .kv _ => "kv"
  | .snapshot _ => "snapshot"

/-- The engine instance whose lock the backend holds, if it holds one. -/
def heldLock : Backend → Option Nat
  | .memory m => if m.holdsDirectory then some m.lockId else none
  | _ => none

/-- Run the operation of whichever backend this is. -/
def dispatch (onMemory : Run MemoryBackend α) (onKv : Run KvBackend α)
    (onSnapshot : Run SnapshotBackend α) : Run Backend α := do
  match ← Run.self with
  | .memory m => Run.within .memory m onMemory
  | .kv k => Run.within .kv k onKv
  | .snapshot s => Run.within .snapshot s onSnapshot

/-- Open the backend. -/
def openStore : Run Backend Unit :=
  dispatch MemoryBackend.openStore (pure ()) SnapshotBackend.openStore

/-- Close the backend. -/
def closeStore : Run Backend Unit :=
  dispatch MemoryBackend.closeStore (pure ()) (pure ())

/-- Create a dataset unless it exists; its configuration. -/
def create (ds : String) : Run Backend Document :=
  dispatch (MemoryBackend.create ds) (KvBackend.create ds) (SnapshotBackend.readOnly "create")

/-- Whether a dataset exists. -/
def hasDataset (ds : String) : Run Backend Bool :=
  dispatch (MemoryBackend.hasDataset ds) (KvBackend.hasDataset ds)
    (SnapshotBackend.onInner (MemoryBackend.hasDataset ds))

/-- A dataset's configuration. -/
def config (ds : String) : Run Backend (Option Document) :=
  dispatch (MemoryBackend.config ds) (KvBackend.config ds)
    (SnapshotBackend.onInner (MemoryBackend.config ds))

/-- Replace a dataset's configuration; the stored document. -/
def setConfig (ds : String) (d : Document) : Run Backend Document :=
  dispatch (MemoryBackend.setConfig ds d) (KvBackend.setConfig ds d)
    (SnapshotBackend.readOnly "set_config")

/-- A dataset's metadata. -/
def metadata (ds : String) : Run Backend (Option Document) :=
  dispatch (MemoryBackend.metadata ds) (KvBackend.metadata ds)
    (SnapshotBackend.onInner (MemoryBackend.metadata ds))

/-- Replace a dataset's metadata; the stored document. -/
def setMetadata (ds : String) (d : Document) : Run Backend Document :=
  dispatch (MemoryBackend.setMetadata ds d) (KvBackend.setMetadata ds d)
    (SnapshotBackend.readOnly "set_metadata")

/-- The snapshot of a dataset's tag counts. -/
def index (ds : String) : Run Backend Document :=
  dispatch (MemoryBackend.index ds) (KvBackend.index ds)
    (SnapshotBackend.onInner (MemoryBackend.index ds))

/-- One tag of a dataset as a document. -/
def tagData (ds tag : String) : Run Backend (Option Document) :=
  dispatch (MemoryBackend.tagData ds tag) (KvBackend.tagData ds tag)
    (SnapshotBackend.onInner (MemoryBackend.tagData ds tag))

/-- Write a batch with options; the written documents. -/
def insertWith (ds : String) (options : InsertOptions) (requests : List InsertRequest) :
    Run Backend (List Document) :=
  dispatch (MemoryBackend.insertWith ds options requests) (KvBackend.insertWith ds options requests)
    (SnapshotBackend.readOnly "insert")

/-- Write a batch as an update. -/
def update (ds : String) (requests : List InsertRequest) : Run Backend (List Document) :=
  dispatch (MemoryBackend.insertWith ds {} requests) (KvBackend.insertWith ds {} requests)
    (SnapshotBackend.readOnly "update")

/-- The stored documents of the ids that exist. -/
def read (ds : String) (ids : List String) : Run Backend (List Document) :=
  dispatch (MemoryBackend.read ds ids) (KvBackend.read ds ids)
    (SnapshotBackend.onInner (MemoryBackend.read ds ids))

/-- Remove documents; those that existed. -/
def remove (ds : String) (ids : List String) : Run Backend (List Document) :=
  dispatch (MemoryBackend.remove ds ids) (KvBackend.remove ds ids)
    (SnapshotBackend.readOnly "remove")

/-- Run a query. -/
def query (ds : String) (spec : QuerySpec) : Run Backend (List Document) :=
  dispatch (MemoryBackend.query ds spec) (KvBackend.query ds spec)
    (SnapshotBackend.onInner (MemoryBackend.query ds spec))

/-- Count a query's results without paging. -/
def count (ds : String) (spec : QuerySpec) : Run Backend Nat :=
  dispatch (MemoryBackend.count ds spec) (KvBackend.count ds spec)
    (SnapshotBackend.onInner (MemoryBackend.count ds spec))

/-- The listing of every dataset. -/
def list : Run Backend (List Document) :=
  dispatch MemoryBackend.list KvBackend.list (SnapshotBackend.onInner MemoryBackend.list)

/-- Rebuild a dataset's index. -/
def recalculate (ds : String) : Run Backend RebuildReport :=
  dispatch (MemoryBackend.recalculate ds) (KvBackend.recalculate ds)
    (SnapshotBackend.onInner (MemoryBackend.recalculate ds))

end Backend

end TagStore
