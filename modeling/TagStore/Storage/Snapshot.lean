import TagStore.Storage.Memory
import TagStore.Json.Read
/-!
# Storage.Snapshot

A read-only backend over a directory of JSON files. Each directory directly under the root
whose name is a valid dataset name is a dataset:

* `<dataset>/polydata.json`, if it is a file, adds its fields to the default configuration
  and the fields of its `_metadata` object to the default metadata;
* every `.json` file anywhere under `<dataset>/data` is one document.

A document file is a JSON object. Its `_id`, when a non-blank text, names the document,
else the file name without its extension does; its `_metadata` object becomes the
document's metadata, whose `_index` array gives the tags; every document is also filed
under `_date`. The time is the data field `_timestamp` when it is a 64-bit integer, else 0,
and the sequence number is the file's place among the dataset's `.json` files in path
order, from 1. A document file that cannot be read or is not an object is skipped;
a `polydata.json` that cannot be read fails the opening.

Opening loads everything once. Writes are unsupported operations; reads, queries and
counts are those of the memory backend over what was loaded.
-/

namespace TagStore

/-- The state of a snapshot backend. -/
structure SnapshotBackend where
  root : Path
  inner : MemoryBackend
  loaded : Bool := false

/-- The file of a dataset's configuration and metadata. -/
def datasetFileName : String := "polydata.json"

/-- The directory of a dataset's documents. -/
def dataDirectoryName : String := "data"

/-- The key of a file's metadata object. -/
def fileMetadataKey : String := "_metadata"

/-- The metadata key of a document file's tags. -/
def fileIndexKey : String := "_index"

/-- The data key of a document file's time. -/
def fileTimestampKey : String := "_timestamp"

/-- A JSON object file as a document named by its `_id`, or by `fallback` when that is
missing or blank, and the `_metadata` object split off from it. -/
def readFlatFile (path : Path) (bytes : ByteArray) (fallback : String) :
    Outcome (Document × Option Json.Fields) :=
  match Json.parseBytes bytes with
  | .error _ => .error (.json "invalid JSON")
  | .ok (.object fields) =>
    let metadata := match Json.Fields.get? fields fileMetadataKey with
      | some (.object m) => some m
      | _ => none
    let fields := Json.Fields.erase fields fileMetadataKey
    let id := match Json.Fields.get? fields "_id" with
      | some (.string s) => if Text.isBlankText s then fallback else s
      | _ => fallback
    .ok (⟨id, Json.Fields.erase fields "_id", []⟩, metadata)
  | .ok _ => .error (.invalidArgument (path.display ++ " is not a JSON object"))

/-- The document of a data file at its place among the dataset's files, if it reads. -/
def snapshotDocument (path : Path) (bytes : ByteArray) (position : Nat) : Option StoredDocument :=
  match readFlatFile path bytes (Path.stem (path.getLast?.getD "")) with
  | .ok (doc, fileMetadata) =>
    let metadata := fileMetadata.getD []
    let tags : TagSet := match Json.Fields.get? metadata fileIndexKey with
      | some (.array items) => Std.ExtTreeSet.ofList (Document.stringsOf items) compare
      | _ => ∅
    let time := ((doc.fetch fileTimestampKey).bind Json.toInt64?).getD 0
    some (StoredDocument.new { doc with metadata := Json.Fields.extend doc.metadata metadata }
      (tags.insert dateTag) time (position + 1).toUInt64)
  | .error _ => none

/-- The `.json` files under a directory, in path order. -/
def jsonFiles (t : FileTree) (dir : Path) : List Path :=
  ((t.filesBelow dir).filter fun p => (p.getLast?.bind Path.extension?) == some "json").map
    (dir ++ ·)

namespace SnapshotBackend

/-- Run an operation of the memory backend that holds what was loaded. -/
def onInner {α : Type} (m : Run MemoryBackend α) : Run SnapshotBackend α :=
  Run.focus (·.inner) (fun s i => { s with inner := i }) m

/-- Load one dataset directory. -/
def loadDataset (dir : Path) (name : String) : Run SnapshotBackend Unit := do
  let fresh := DatasetRecord.fresh (← Run.now)
  let t ← Run.files
  let settingsPath := dir ++ [datasetFileName]
  let record ← match t.read? settingsPath with
    | some bytes => do
      let (settings, metadata) ← Run.ofOutcome (readFlatFile settingsPath bytes configId)
      pure (⟨{ fresh.config with data := Json.Fields.extend fresh.config.data settings.data },
        { fresh.metadata with data := Json.Fields.extend fresh.metadata.data (metadata.getD []) }⟩ :
          DatasetRecord)
    | none => pure fresh
  let dataDir := dir ++ [dataDirectoryName]
  let files := if t.isDirectory dataDir then jsonFiles t dataDir else []
  let documents := files.zipIdx.filterMap fun (path, position) =>
    snapshotDocument path ((t.read? path).getD .empty) position
  onInner (MemoryBackend.restore name record documents)

/-- Load every dataset directory once. -/
def openStore : Run SnapshotBackend Unit := do
  let s ← Run.self
  if s.loaded then return
  let t ← Run.files
  if !t.isDirectory s.root then throw (.io ("no such directory: " ++ s.root.display))
  let names := (t.children s.root).filter fun n =>
    t.isDirectory (s.root ++ [n]) && (validateName n).toBool
  names.forM fun n => loadDataset (s.root ++ [n]) n
  Run.modifySelf fun s => { s with loaded := true }

/-- The failure of a write. -/
def readOnly {α : Type} (operation : String) : Run SnapshotBackend α :=
  throw (Error.unsupported (operation ++ " on read-only snapshot"))

end SnapshotBackend

end TagStore
