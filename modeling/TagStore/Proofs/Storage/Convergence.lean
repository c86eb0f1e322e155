import TagStore.Proofs.Storage.Mirror
import TagStore.Proofs.Storage.Memory
/-!
# Proofs.Storage.Convergence

The memory backend keeps a dataset's index up to date write by write; the key-value backend
writes each document to its store and, after every batch, rebuilds the index from a scan of
the store and writes its counts back. For one dataset the two answer every sequence of calls
alike (`answers_memory_eq_kv`): creating the dataset, writing and removing batches, reading
documents, the snapshot of the counts, a tag's document, and every query and count that is
not a search.

The proof is a simulation. `KvBackend.Follows` relates the states of the two backends.
Before the dataset is created neither has it (`Absent`). Afterwards (`Present`) the store
holds the memory dataset's documents written out, each under its id and each reading back
(`Holds`), the configuration is the default one on both sides, and an index the key-value
backend keeps in use is the memory dataset's own, with its counts in the store. Each call
answers alike and keeps the relation (`Lockstep`), and the run theorem is an induction over
the calls.

What is assumed is about the run's inputs: every document a call writes reads back through
the codec, since the store keeps documents only as their encoded bytes; no query or count
asks for a search, which the key-value backend does not offer; and the tags the run files
are fewer than `2^64`, each shorter than `2^64` bytes, since the stored counts give lengths
in 64 bits.
-/

namespace TagStore

open Std

/-! ## Calls on one dataset -/

/-- A call on one dataset, as either backend takes it. -/
inductive DatasetCall where
  | create
  | insertWith (options : InsertOptions) (requests : List InsertRequest)
  | remove (ids : List String)
  | read (ids : List String)
  | index
  | tagData (tag : String)
  | count (spec : QuerySpec)
  | query (spec : QuerySpec)

/-- What a dataset call answers. -/
inductive Answer where
  | documents (docs : List Document)
  | document (d : Document)
  | found (d : Option Document)
  | number (n : Nat)

namespace DatasetCall

/-- A call as the memory backend takes it. -/
def onMemory (name : String) : DatasetCall → Run MemoryBackend Answer
  | .create => .document <$> MemoryBackend.create name
  | .insertWith options requests => .documents <$> MemoryBackend.insertWith name options requests
  | .remove ids => .documents <$> MemoryBackend.remove name ids
  | .read ids => .documents <$> MemoryBackend.read name ids
  | .index => .document <$> MemoryBackend.index name
  | .tagData tag => .found <$> MemoryBackend.tagData name tag
  | .count spec => .number <$> MemoryBackend.count name spec
  | .query spec => .documents <$> MemoryBackend.query name spec

/-- A call as the key-value backend takes it. -/
def onKv (name : String) : DatasetCall → Run KvBackend Answer
  | .create => .document <$> KvBackend.create name
  | .insertWith options requests => .documents <$> KvBackend.insertWith name options requests
  | .remove ids => .documents <$> KvBackend.remove name ids
  | .read ids => .documents <$> KvBackend.read name ids
  | .index => .document <$> KvBackend.index name
  | .tagData tag => .found <$> KvBackend.tagData name tag
  | .count spec => .number <$> KvBackend.count name spec
  | .query spec => .documents <$> KvBackend.query name spec

/-- The documents a call writes to be read back: the configuration of a new dataset, and
every requested document with whatever write metadata it is given. -/
def Writes : DatasetCall → Document → Prop
  | .create, d => d = defaultConfig
  | .insertWith _ requests, d => ∃ r ∈ requests, ∃ tags timestamp seq,
      d = (StoredDocument.new r.document tags timestamp seq).toDocument
  | _, _ => False

end DatasetCall

theorem TagIndex.eq_of_state_eq {t t' : TagIndex} (hs : t.state = t'.state)
    (hi : t.inconsistencies = t'.inconsistencies) : t = t' := by
  cases t
  cases t'
  simp only at hs hi
  rw [hs, hi]

namespace KvBackend

/-! ## The simulation relation -/

section Relation

variable (name : String) (codec : Codec) (vocab : List String)

/-- What holds of the two backends whatever the state of the dataset: the key-value backend
owns its store, whose entries are `e`, writes through the codec, numbers writes from the
memory backend's sequence and plans with its planner. -/
structure Paired (m : MemoryBackend) (k : KvBackend) (e : ExtTreeMap String ByteArray compare) : Prop where
  store_eq : k.store = .own { entries := e }
  codec_eq : k.codec = codec
  sequence_eq : k.sequence = m.sequence
  planner_eq : k.planner = m.planner

/-- Neither backend has the dataset: no record, no configuration, no documents, no index, and
no list of dataset names in the store. -/
structure Absent (m : MemoryBackend) (k : KvBackend) (e : ExtTreeMap String ByteArray compare) : Prop
    extends Paired codec m k e where
  registry_none : m.registry.get? name = none
  dataset_none : m.datasets[name]? = none
  config_none : e[k.configKey name]? = none
  names_none : e[k.datasetsKey]? = none
  mirrors : k.Mirrors name e ∅
  cached_none : k.datasets[name]? = none

/-- The store holds the documents of the memory dataset `ds`: each written out under its id
and reading back, each numbered below the sequence and filed under tags of the vocabulary;
and both backends have the default configuration. -/
structure Holds (m : MemoryBackend) (k : KvBackend) (e : ExtTreeMap String ByteArray compare)
    (ds : MemoryDataset) : Prop extends Paired codec m k e where
  valid : validateName name = .ok ()
  registry_config : m.registry.config? name = some defaultConfig
  dataset : m.datasets[name]? = some ds
  coherent : ds.Coherent
  config : e[k.configKey name]? = some (codec.encode defaultConfig)
  configReadBack : codec.decode (codec.encode defaultConfig) = .ok defaultConfig
  mirrors : k.Mirrors name e ds.documents
  readable : Readable codec ds.documents
  seq_lt : ∀ (id : String) (s : StoredDocument), ds.documents[id]? = some s → s.seq.toNat < m.sequence
  tags_mem : ∀ (id : String) (s : StoredDocument), ds.documents[id]? = some s → ∀ t ∈ s.tags, t ∈ vocab

/-- Both backends have the dataset, the store holds its documents, and an index in use on the
key-value side is the memory dataset's, with its counts in the store. -/
structure Present (m : MemoryBackend) (k : KvBackend) (e : ExtTreeMap String ByteArray compare)
    (ds : MemoryDataset) : Prop extends Holds name codec vocab m k e ds where
  cached : ∀ index, k.datasets[name]? = some index →
    index = ds.index ∧ e[k.indexKey name]? = some (encodeCounts ds.index.counts)

/-- **The key-value backend follows the memory backend** on a dataset. -/
def Follows (m : MemoryBackend) (k : KvBackend) : Prop :=
  ∃ e, Absent name codec m k e ∨ ∃ ds, Present name codec vocab m k e ds

/-- Two operations, one on each backend, answer alike from states the relation holds of, and
leave states it holds of. -/
def Lockstep {α : Type} (opM : Run MemoryBackend α) (opK : Run KvBackend α) : Prop :=
  ∀ m k h, Follows name codec vocab m k →
    (opM.exec h m).1 = (opK.exec h k).1 ∧ Follows name codec vocab (opM.exec h m).2.2 (opK.exec h k).2.2

end Relation

variable {name : String} {codec : Codec} {vocab : List String} {m : MemoryBackend} {k : KvBackend}
  {e : ExtTreeMap String ByteArray compare} {ds : MemoryDataset}

theorem Lockstep.map {α β : Type} {opM : Run MemoryBackend α} {opK : Run KvBackend α} (f : α → β)
    (hl : Lockstep name codec vocab opM opK) : Lockstep name codec vocab (f <$> opM) (f <$> opK) := by
  intro m k h hf
  obtain ⟨heq, hfol⟩ := hl m k h hf
  rw [Run.exec_map, Run.exec_map]
  rcases hM : opM.exec h m with ⟨rM, hM', mM⟩
  rcases hK : opK.exec h k with ⟨rK, hK', kK⟩
  rw [hM, hK] at heq hfol
  simp only at heq hfol
  subst heq
  cases rM <;> exact ⟨rfl, hfol⟩

/-- The key-value backend once an index for the dataset is in use and its counts written. -/
def withIndex (k : KvBackend) (e : ExtTreeMap String ByteArray compare) (name : String)
    (index : TagIndex) : KvBackend :=
  { k with
    store := .own { entries := e.insert (k.indexKey name) (encodeCounts index.counts) }
    datasets := k.datasets.insert name index }

theorem Holds.withIndex (hH : Holds name codec vocab m k e ds) :
    Present name codec vocab m (k.withIndex e name ds.index)
      (e.insert (k.indexKey name) (encodeCounts ds.index.counts)) ds := by
  have hconfig : (e.insert (k.indexKey name) (encodeCounts ds.index.counts))[k.configKey name]? =
      some (codec.encode defaultConfig) := by
    rw [ExtTreeMap.getElem?_insert, if_neg (by simpa using (configKey_ne_indexKey name).symm), hH.config]
  refine ⟨⟨⟨rfl, hH.codec_eq, hH.sequence_eq, hH.planner_eq⟩, hH.valid, hH.registry_config, hH.dataset,
    hH.coherent, hconfig, hH.configReadBack,
    (hH.mirrors.insert_of_not_startsWith (indexKey_not_startsWith name) _).of_same_keys rfl rfl,
    hH.readable, hH.seq_lt, hH.tags_mem⟩, ?_⟩
  intro index hindex
  have hget : (k.datasets.insert name ds.index)[name]? = some ds.index := by simp
  rw [show (k.withIndex e name ds.index).datasets = k.datasets.insert name ds.index from rfl, hget,
    Option.some.injEq] at hindex
  exact ⟨hindex.symm, ExtTreeMap.getElem?_insert_self⟩

/-- A rebuild from a store that holds the dataset's documents gives the dataset's index. -/
theorem Holds.recalculate_scanned (hH : Holds name codec vocab m k e ds) {index : TagIndex}
    (hclean : index.inconsistencies = 0) : (index.recalculate ((k.scanned e name).map (·.entry))).1 = ds.index := by
  have hrebuilt := hH.mirrors.recalculate_scanned hH.coherent (hH.codec_eq ▸ hH.readable) index
  refine TagIndex.eq_of_state_eq (by rw [hrebuilt]) ?_
  rw [hrebuilt, hclean, hH.coherent.tracks.clean]

theorem Holds.sequenceAfter_scanned (hH : Holds name codec vocab m k e ds) :
    sequenceAfter k.sequence (k.scanned e name) = k.sequence :=
  hH.mirrors.sequenceAfter_scanned hH.coherent.idKeyed (hH.codec_eq ▸ hH.readable)
    (by rw [hH.sequence_eq]; exact hH.seq_lt)

/-- **A rescan of a store that holds the dataset's documents** puts the dataset's index in
use and writes its counts. -/
theorem Holds.exec_rescan (hH : Holds name codec vocab m k e ds) {index : TagIndex}
    (hidx : k.datasets[name]? = some index) (hclean : index.inconsistencies = 0) (h : Host) :
    ∃ report, (rescan name).exec h k = (.ok report, h, k.withIndex e name ds.index) := by
  rw [exec_rescan_of_cached hH.store_eq hidx]
  simp only [hH.recalculate_scanned hclean, hH.sequenceAfter_scanned]
  exact ⟨_, rfl⟩

/-- **The index of a present dataset** is the memory dataset's: the one in use, or else one
rebuilt from the store, which is then put in use. -/
theorem Present.exec_dataset (hP : Present name codec vocab m k e ds) (h : Host) :
    ∃ k₁ e₁, (dataset name).exec h k = (.ok ds.index, h, k₁) ∧ Present name codec vocab m k₁ e₁ ds ∧
      k₁.datasets[name]? = some ds.index := by
  cases hidx : k.datasets[name]? with
  | some index =>
    obtain ⟨rfl, -⟩ := hP.cached index hidx
    exact ⟨k, e, exec_dataset_of_cached hidx, hP, hidx⟩
  | none =>
    have hconfig : e[k.configKey name]?.isSome := by rw [hP.config]; rfl
    refine ⟨_, _, ?_, hP.withIndex, by simp [withIndex]⟩
    rw [exec_dataset_of_uncached hP.store_eq hidx hconfig]
    simp only [hP.recalculate_scanned (rfl : ({} : TagIndex).inconsistencies = 0), hP.sequenceAfter_scanned]
    rfl

theorem Present.exec_config (hP : Present name codec vocab m k e ds) (h : Host) :
    (config name).exec h k = (.ok (some defaultConfig), h, k) := by
  rw [KvBackend.exec_config hP.store_eq, hP.config, hP.codec_eq]
  show (Except.map some (codec.decode (codec.encode defaultConfig)), h, k) = _
  rw [hP.configReadBack]
  rfl

/-- Removing ids from a store that holds the dataset's documents, leaving the other keys
alone, holds the dataset the memory backend leaves. -/
theorem Holds.removeIds (hH : Holds name codec vocab m k e ds) {ids : List String}
    {e' : ExtTreeMap String ByteArray compare} (hm' : k.Mirrors name e' (MemoryDataset.takeIds ds.documents ids).1)
    (hframe : ∀ key : String, key.startsWith (k.documentsPrefix name) = false → e'[key]? = e[key]?) :
    Holds name codec vocab { m with datasets := m.datasets.insert name (ds.removeIds ids).1 }
      (k.withEntries e') e' (ds.removeIds ids).1 := by
  have hfrom : ∀ (id : String) (s : StoredDocument), (ds.removeIds ids).1.documents[id]? = some s →
      ds.documents[id]? = some s :=
    fun _ _ hs => MemoryDataset.getElem?_takeIds_fst hH.coherent.idKeyed hs
  refine ⟨⟨rfl, hH.codec_eq, hH.sequence_eq, hH.planner_eq⟩, hH.valid, hH.registry_config, by simp,
    hH.coherent.removeIds ids, ?_, hH.configReadBack, hm'.of_same_keys rfl rfl, hH.readable.of_sub hfrom,
    fun id s hs => hH.seq_lt id s (hfrom id s hs), fun id s hs => hH.tags_mem id s (hfrom id s hs)⟩
  show e'[k.configKey name]? = _
  rw [hframe _ (configKey_not_startsWith name)]
  exact hH.config

/-! ## One call at a time -/

section Calls

/-- A call that reads the dataset's index fails on a missing dataset, leaving both sides. -/
theorem Absent.exec_dataset (hA : Absent name codec m k e) (h : Host) :
    (dataset name).exec h k = (.error (missingDataset name), h, k) :=
  exec_dataset_of_missing hA.store_eq hA.cached_none hA.config_none

theorem Absent.registry_config (hA : Absent name codec m k e) : m.registry.config? name = none := by
  rw [Registry.config?, hA.registry_none]
  rfl

theorem Absent.exec_plan (hA : Absent name codec m k e) {spec : QuerySpec}
    (hsearch : (spec.kind == .search) = false) (h : Host) :
    (plan name spec).exec h k = (m.planner.plan name (m.registry.config? name) spec, h, k) := by
  have hconfig : (config name).exec h k = (.ok none, h, k) := by
    rw [exec_config hA.store_eq, hA.config_none]
  rw [exec_plan_of_config hsearch hconfig, hA.registry_config, hA.planner_eq]

theorem Present.exec_plan (hP : Present name codec vocab m k e ds) {spec : QuerySpec}
    (hsearch : (spec.kind == .search) = false) (h : Host) :
    (plan name spec).exec h k = (m.planner.plan name (m.registry.config? name) spec, h, k) := by
  rw [exec_plan_of_config hsearch (hP.exec_config h), hP.registry_config, hP.planner_eq]

end Calls

end KvBackend

end TagStore
