import Std.Data.ExtTreeMap
import TagStore.Document
import TagStore.Error
import TagStore.Text.Quoted
import TagStore.Time
/-!
# Storage.Registry

Which datasets a backend holds, with each one's configuration and metadata.

A dataset name doubles as a path and key segment, so it must not be blank, `.` or `..`,
and must hold no `/`, `\` or control character. Creating a dataset that exists returns
its configuration unchanged. A new dataset's configuration has a page size of 10 and its
metadata the creation time. Configuration and metadata always carry the ids `_config`
and `_metadata`, whatever id the caller gave.
-/

namespace TagStore

/-- A dataset's configuration and metadata. -/
structure DatasetRecord where
  config : Document
  metadata : Document

/-- The configuration of a new dataset. -/
def defaultConfig : Document := ⟨configId, [(itemPerPageKey, Json.ofNat defaultItemPerPage)], []⟩

/-- The metadata of a dataset created at `now` (milliseconds). -/
def defaultMetadata (now : Int) : Document := ⟨metadataId, [(createDateKey, .string (Time.rfc3339 now))], []⟩

/-- The record of a dataset created at `now`. -/
def DatasetRecord.fresh (now : Int) : DatasetRecord := ⟨defaultConfig, defaultMetadata now⟩

/-- The listing of a dataset: its name, and its configuration and metadata data. -/
def listingEntry (name : String) (r : DatasetRecord) : Document :=
  ⟨name, Json.Fields.ofList [("config", .object r.config.data), ("metadata", .object r.metadata.data)], []⟩

/-- Whether a character is a control character (general category Cc). -/
def isControl (c : Char) : Bool := c.toNat < 0x20 || (0x7F ≤ c.toNat && c.toNat < 0xA0)

/-- A valid dataset name: not blank, not `.` or `..`, and without `/`, `\` or control
characters. -/
def validateName (name : String) : Outcome Unit :=
  if Text.isBlankText name || name == "." || name == ".." ||
      name.any (fun c => c == '/' || c == '\\') || name.any isControl then
    .error (.invalidArgument ("invalid dataset name " ++ Text.quote name))
  else .ok ()

/-- The failure for a dataset that does not exist. -/
def missingDataset (name : String) : Error := .notFound ("dataset " ++ name ++ " does not exist")

/-- The datasets of a backend. -/
structure Registry where
  datasets : Std.ExtTreeMap String DatasetRecord compare := ∅

namespace Registry

/-- Create a dataset at `now` unless it exists: its configuration and whether it is new. -/
def create (r : Registry) (name : String) (now : Int) : Outcome (Registry × Document × Bool) := do
  validateName name
  match r.datasets.get? name with
  | some found => return (r, found.config, false)
  | none =>
    let fresh := DatasetRecord.fresh now
    return (⟨r.datasets.insert name fresh⟩, fresh.config, true)

/-- Register a dataset loaded from elsewhere, replacing any earlier record. -/
def restore (r : Registry) (name : String) (record : DatasetRecord) : Registry :=
  ⟨r.datasets.insert name record⟩

/-- Whether a dataset exists. -/
def exists? (r : Registry) (name : String) : Bool := r.datasets.contains name

/-- A dataset's record. -/
def get? (r : Registry) (name : String) : Option DatasetRecord := r.datasets.get? name

/-- A dataset's configuration. -/
def config? (r : Registry) (name : String) : Option Document := (r.get? name).map (·.config)

/-- A dataset's metadata. -/
def metadata? (r : Registry) (name : String) : Option Document := (r.get? name).map (·.metadata)

/-- Replace a dataset's configuration, under the id `_config`. -/
def setConfig (r : Registry) (name : String) (d : Document) : Outcome (Registry × Document) :=
  match r.datasets.get? name with
  | none => .error (missingDataset name)
  | some found =>
    let c := d.withId configId
    .ok (⟨r.datasets.insert name { found with config := c }⟩, c)

/-- Replace a dataset's metadata, under the id `_metadata`. -/
def setMetadata (r : Registry) (name : String) (d : Document) : Outcome (Registry × Document) :=
  match r.datasets.get? name with
  | none => .error (missingDataset name)
  | some found =>
    let m := d.withId metadataId
    .ok (⟨r.datasets.insert name { found with metadata := m }⟩, m)

/-- The names of all datasets, sorted. -/
def names (r : Registry) : List String := r.datasets.keys

/-- The listing of all datasets, sorted by name. -/
def list (r : Registry) : List Document :=
  r.datasets.toList.map fun (name, record) => listingEntry name record

end Registry

end TagStore
