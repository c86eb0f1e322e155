import TagStore.Proofs.Run
import TagStore.Proofs.Storage.Memory
import TagStore.Proofs.Storage.MemoryDataset
import TagStore.Proofs.Binary.Serial
import TagStore.Proofs.Storage.PrefixScan
import TagStore.Storage.KeyValue
/-!
# Proofs.Storage.KeyValue

The key-value backend's operations, evaluated for a backend that talks to a store of its own
that never fails: a store with no write budget and no failing scans. Such a store is its
entries alone, and every store call succeeds: a read leaves the backend as it was, a write or
a removal changes one entry, and a scan gives the entries under a prefix in key order.

On top of the store calls: reading and writing documents through the codec, reading the
stored documents of a dataset (those that decode), the sequence, and the rebuild of a
dataset's index from the stored documents, which keeps the sequence when it is past every
stored sequence number.

The keys of one dataset are told apart by their last part: no key of the dataset's
configuration, metadata or counts, and not the key of the dataset names, starts with the
prefix of its documents (`configKey_not_startsWith` and the lemmas after it).
-/

namespace TagStore

open Std

namespace KvBackend

variable {k : KvBackend} {e : ExtTreeMap String ByteArray compare} {h : Host}

/-- The backend with its own store holding these entries and nothing that fails. -/
abbrev withEntries (k : KvBackend) (e : ExtTreeMap String ByteArray compare) : KvBackend :=
  { k with store := .own { entries := e } }

/-! ## Keys -/

theorem documentKey_inj {name id id' : String} (h : k.documentKey name id = k.documentKey name id') :
    id = id' := by
  exact (String.append_right_inj _).1 h

theorem startsWith_documentKey (name id : String) :
    (k.documentKey name id).startsWith (k.documentsPrefix name) = true := by
  simp [documentKey]

/-- A key under a prefix, the prefix and a rest: its rest starts the same way. -/
theorem startsWith_append_iff (p a b : String) :
    (p ++ a).startsWith (p ++ b) = true ↔ b.toList <+: a.toList := by
  simp only [String.startsWith_string_iff, String.toList_append]
  exact List.prefix_append_right_inj p.toList

theorem not_startsWith_of_suffix {name last : String} (hlast : ¬ "/doc/".toList <+: last.toList) :
    (k.keyPrefix ++ name ++ last).startsWith (k.documentsPrefix name) = false := by
  rw [Bool.eq_false_iff]
  intro hsw
  rw [documentsPrefix, String.append_assoc, String.append_assoc, startsWith_append_iff,
    String.toList_append, String.toList_append, List.prefix_append_right_inj] at hsw
  exact hlast hsw

theorem configKey_not_startsWith (name : String) :
    (k.configKey name).startsWith (k.documentsPrefix name) = false :=
  not_startsWith_of_suffix (by decide)

theorem indexKey_not_startsWith (name : String) :
    (k.indexKey name).startsWith (k.documentsPrefix name) = false :=
  not_startsWith_of_suffix (by decide)

/-- The key of the dataset names is under no dataset's document prefix: it has no `/`. -/
theorem datasetsKey_not_startsWith (name : String) :
    k.datasetsKey.startsWith (k.documentsPrefix name) = false := by
  rw [Bool.eq_false_iff]
  intro hsw
  rw [datasetsKey, documentsPrefix, String.append_assoc, startsWith_append_iff] at hsw
  have hslash : '/' ∈ (name ++ "/doc/").toList := by simp
  have hnone : '/' ∉ "datasets".toList := by decide
  exact hnone (hsw.subset hslash)

/-- The key of the dataset names is no key of a dataset: those have a `/`. -/
theorem datasetsKey_ne_of_slash {name last : String} (hslash : '/' ∈ last.toList) :
    k.datasetsKey ≠ k.keyPrefix ++ name ++ last := by
  intro heq
  rw [datasetsKey, String.append_assoc, String.append_right_inj] at heq
  have hin : '/' ∈ "datasets".toList := by
    rw [heq, String.toList_append]
    exact List.mem_append_right _ hslash
  revert hin
  decide

theorem datasetsKey_ne_configKey (name : String) : k.datasetsKey ≠ k.configKey name :=
  datasetsKey_ne_of_slash (by decide)

theorem datasetsKey_ne_metadataKey (name : String) : k.datasetsKey ≠ k.metadataKey name :=
  datasetsKey_ne_of_slash (by decide)

theorem configKey_ne_indexKey (name : String) : k.configKey name ≠ k.indexKey name := by
  rw [configKey, indexKey, ne_eq, String.append_right_inj]
  decide

theorem configKey_ne_documentKey (name id : String) : k.configKey name ≠ k.documentKey name id := by
  intro heq
  have := configKey_not_startsWith (k := k) name
  rw [heq, startsWith_documentKey] at this
  cases this

theorem indexKey_ne_documentKey (name id : String) : k.indexKey name ≠ k.documentKey name id := by
  intro heq
  have := indexKey_not_startsWith (k := k) name
  rw [heq, startsWith_documentKey] at this
  cases this

/-! ## Store calls -/

theorem exec_withStore_own {α : Type} (f : KvStore → α × KvStore) {s : KvStore}
    (hk : k.store = .own s) :
    (withStore f).exec h k = (.ok (f s).1, h, { k with store := .own (f s).2 }) := by
  simp only [withStore, Run.exec_bind, Run.exec_self, hk, Run.exec_modifySelf, Run.exec_pure]

theorem with_store_self {s : KvStore} (hk : k.store = .own s) : { k with store := .own s } = k := by
  rw [← hk]

theorem exec_get? (hk : k.store = .own { entries := e }) (key : String) :
    (get? key).exec h k = (.ok e[key]?, h, k) := by
  rw [get?, exec_withStore_own _ hk]
  simp only [KvStore.get?, ExtTreeMap.get?_eq_getElem?]
  rw [with_store_self hk]

theorem exec_put (hk : k.store = .own { entries := e }) (key : String) (value : ByteArray) :
    (put key value).exec h k = (.ok (), h, k.withEntries (e.insert key value)) := by
  have hstore : KvStore.put { entries := e } key value = .ok { entries := e.insert key value } := by
    simp only [KvStore.put]
    split <;> rfl
  simp only [put, Run.exec_bind, exec_withStore_own _ hk, hstore, Run.exec_ofOutcome]

theorem exec_delete (hk : k.store = .own { entries := e }) (key : String) :
    (delete key).exec h k = (.ok (e.contains key), h, k.withEntries (e.erase key)) := by
  rw [delete, exec_withStore_own _ hk]
  rfl

theorem exec_scan (hk : k.store = .own { entries := e }) (pre : String) :
    (scan pre).exec h k = (.ok (e.toList.filter fun p => p.1.startsWith pre), h, k) := by
  simp only [scan, Run.exec_bind, exec_withStore_own _ hk, KvStore.scan_eq_filter (s := { entries := e }) rfl,
    Run.exec_ofOutcome]
  rw [with_store_self hk]

/-! ## Documents through the codec -/

theorem exec_getDocument (hk : k.store = .own { entries := e }) (key : String) :
    (getDocument key).exec h k =
      (match e[key]? with
        | none => .ok none
        | some b => (k.codec.decode b).map some, h, k) := by
  simp only [getDocument, Run.exec_bind, exec_get? hk]
  cases e[key]? with
  | none => rfl
  | some b =>
    simp only [Run.exec_bind, Run.exec_self, Run.exec_map, Run.exec_ofOutcome]
    cases k.codec.decode b <;> rfl

theorem exec_putDocument (hk : k.store = .own { entries := e }) (key : String) (d : Document) :
    (putDocument key d).exec h k = (.ok (), h, k.withEntries (e.insert key (k.codec.encode d))) := by
  simp only [putDocument, Run.exec_bind, Run.exec_self, exec_put hk]

/-- A stored document read from its bytes, if they decode. -/
def readStored (codec : Codec) (b : ByteArray) : Option StoredDocument :=
  match codec.decode b >>= StoredDocument.ofDocument with
  | .ok s => some s
  | .error _ => none

/-- The stored documents of a dataset that a store's entries hold, in key order: those
under the dataset's prefix that decode. -/
def scanned (k : KvBackend) (e : ExtTreeMap String ByteArray compare) (name : String) :
    List StoredDocument :=
  (e.toList.filter fun p => p.1.startsWith (k.documentsPrefix name)).filterMap
    fun p => readStored k.codec p.2

theorem exec_storedDocuments (hk : k.store = .own { entries := e }) (name : String) :
    (storedDocuments name).exec h k = (.ok (k.scanned e name), h, k) := by
  simp only [storedDocuments, Run.exec_bind, Run.exec_self, exec_scan hk, Run.exec_pure]
  rfl

theorem exec_loadDocument (hk : k.store = .own { entries := e }) (name id : String) :
    (loadDocument name id).exec h k =
      (match e[k.documentKey name id]? with
        | none => .ok none
        | some b => (k.codec.decode b >>= StoredDocument.ofDocument).map some, h, k) := by
  simp only [loadDocument, Run.exec_bind, Run.exec_self, exec_get? hk]
  cases e[k.documentKey name id]? with
  | none => rfl
  | some b =>
    simp only [Run.exec_map, Run.exec_ofOutcome]
    cases k.codec.decode b >>= StoredDocument.ofDocument <;> rfl

/-! ## Sequence and indexes -/

@[simp] theorem exec_nextSeq : nextSeq.exec h k = (.ok k.sequence, h, { k with sequence := k.sequence + 1 }) :=
  rfl

@[simp] theorem exec_setIndex (name : String) (index : TagIndex) :
    (setIndex name index).exec h k = (.ok (), h, { k with datasets := k.datasets.insert name index }) :=
  rfl

/-- The sequence after a rebuild over some stored documents: past each of theirs. -/
def sequenceAfter (sequence : Nat) (docs : List StoredDocument) : Nat :=
  docs.foldl (fun acc d => max acc (d.seq.toNat + 1)) sequence

/-- A sequence already past every stored sequence number stays as it is. -/
theorem sequenceAfter_of_lt {sequence : Nat} {docs : List StoredDocument}
    (h : ∀ d ∈ docs, d.seq.toNat < sequence) : sequenceAfter sequence docs = sequence := by
  induction docs with
  | nil => rfl
  | cons d docs ih =>
    have hd : max sequence (d.seq.toNat + 1) = sequence :=
      Nat.max_eq_left (h d List.mem_cons_self)
    rw [sequenceAfter, List.foldl_cons, hd]
    exact ih fun d' hd' => h d' (List.mem_cons_of_mem _ hd')

theorem exec_rebuild (hk : k.store = .own { entries := e }) (name : String) (index : TagIndex) :
    (rebuild name index).exec h k =
      (.ok (index.recalculate ((k.scanned e name).map (·.entry))), h,
        { k with sequence := sequenceAfter k.sequence (k.scanned e name) }) := by
  simp only [rebuild, Run.exec_bind, exec_storedDocuments hk, Run.exec_modifySelf, Run.exec_pure]
  rfl

theorem exec_saveCounts (hk : k.store = .own { entries := e }) (name : String) (index : TagIndex) :
    (saveCounts name index).exec h k =
      (.ok (), h, k.withEntries (e.insert (k.indexKey name) (encodeCounts index.counts))) := by
  simp only [saveCounts, Run.exec_bind, Run.exec_self, exec_put hk]

theorem exec_require (hk : k.store = .own { entries := e }) (name : String) :
    (require name).exec h k =
      ((if e[k.configKey name]?.isNone then .error (missingDataset name) else .ok ()), h, k) := by
  simp only [require, Run.exec_bind, Run.exec_self, exec_get? hk]
  split <;> rfl

theorem exec_config (hk : k.store = .own { entries := e }) (name : String) :
    (config name).exec h k =
      (match e[k.configKey name]? with
        | none => .ok none
        | some b => (k.codec.decode b).map some, h, k) := by
  simp only [config, Run.exec_bind, Run.exec_self]
  exact exec_getDocument hk _

/-- A query that is no search is planned from the configuration the store holds. -/
theorem exec_plan_of_config {name : String} {spec : QuerySpec} {c : Option Document}
    (hsearch : (spec.kind == .search) = false) (hconfig : (config name).exec h k = (.ok c, h, k)) :
    (plan name spec).exec h k = (k.planner.plan name c spec, h, k) := by
  simp only [plan, hsearch, Bool.false_eq_true, if_false, Run.exec_bind, hconfig, Run.exec_self,
    Run.exec_ofOutcome]

/-! ## A dataset's index -/

theorem exec_dataset_of_cached {name : String} {index : TagIndex}
    (hidx : k.datasets[name]? = some index) : (dataset name).exec h k = (.ok index, h, k) := by
  simp only [dataset, Run.exec_bind, Run.exec_self, ExtTreeMap.get?_eq_getElem?, hidx, Run.exec_pure]

/-- A dataset that has no configuration and no index yet is missing. -/
theorem exec_dataset_of_missing (hk : k.store = .own { entries := e }) {name : String}
    (hidx : k.datasets[name]? = none) (hconfig : e[k.configKey name]? = none) :
    (dataset name).exec h k = (.error (missingDataset name), h, k) := by
  simp only [dataset, Run.exec_bind, Run.exec_self, ExtTreeMap.get?_eq_getElem?, hidx,
    exec_require hk, hconfig, Option.isNone_none, if_true]

/-- **First use of a dataset.** Its index is built from the stored documents that decode,
its counts are written, and the sequence moves past the stored sequence numbers. -/
theorem exec_dataset_of_uncached (hk : k.store = .own { entries := e }) {name : String}
    (hidx : k.datasets[name]? = none) (hconfig : e[k.configKey name]?.isSome) :
    let index := (({} : TagIndex).recalculate ((k.scanned e name).map (·.entry))).1
    (dataset name).exec h k =
      (.ok index, h,
        { k with
          store := .own { entries := e.insert (k.indexKey name) (encodeCounts index.counts) }
          datasets := k.datasets.insert name index
          sequence := sequenceAfter k.sequence (k.scanned e name) }) := by
  have hnone : e[k.configKey name]?.isNone = false := by
    rw [Option.isNone_eq_false_iff]
    exact hconfig
  have hk' : ({ k with sequence := sequenceAfter k.sequence (k.scanned e name) } : KvBackend).store =
      .own { entries := e } := hk
  simp only [dataset, Run.exec_bind, Run.exec_self, ExtTreeMap.get?_eq_getElem?, hidx,
    exec_require hk, hnone, Bool.false_eq_true, if_false, exec_rebuild hk]
  simp only [exec_saveCounts hk', exec_setIndex, Run.exec_pure]
  rfl

/-- **A rescan.** The index in use is rebuilt from the stored documents that decode and
its counts are written. -/
theorem exec_rescan_of_cached (hk : k.store = .own { entries := e }) {name : String}
    {index : TagIndex} (hidx : k.datasets[name]? = some index) :
    let rebuilt := index.recalculate ((k.scanned e name).map (·.entry))
    (rescan name).exec h k =
      (.ok rebuilt.2, h,
        { k with
          store := .own { entries := e.insert (k.indexKey name) (encodeCounts rebuilt.1.counts) }
          datasets := k.datasets.insert name rebuilt.1
          sequence := sequenceAfter k.sequence (k.scanned e name) }) := by
  have hk' : ({ k with
      datasets := k.datasets.insert name (index.recalculate ((k.scanned e name).map (·.entry))).1
      sequence := sequenceAfter k.sequence (k.scanned e name) } : KvBackend).store =
      .own { entries := e } := hk
  simp only [rescan, Run.exec_bind, exec_dataset_of_cached hidx, exec_rebuild hk]
  simp only [exec_setIndex, exec_saveCounts hk', Run.exec_pure]
  rfl

/-! ## Writing a batch -/

/-- The entries after stored documents are written one by one, each under its key. -/
def writeDocuments (k : KvBackend) (name : String) (e : ExtTreeMap String ByteArray compare)
    (stored : List StoredDocument) : ExtTreeMap String ByteArray compare :=
  stored.foldl (fun e s => e.insert (k.documentKey name s.id) (k.codec.encode s.toDocument)) e

/-- **Writing a batch.** The requests are numbered from the backend's sequence exactly as
`storedBatch` numbers them, and each is written under its id. -/
theorem exec_writeAll (name : String) (options : InsertOptions) (time : Int) (total : Nat) :
    ∀ (requests : List InsertRequest) (applied : Nat) (out : List Document) (k : KvBackend)
      (e : ExtTreeMap String ByteArray compare), k.store = .own { entries := e } →
      (writeAll name options time total applied requests out).exec h k =
        (.ok (out.reverse ++ (storedBatch options time k.sequence requests).map (·.toDocument)), h,
          { k with
            store := .own { entries := k.writeDocuments name e (storedBatch options time k.sequence requests) }
            sequence := k.sequence + requests.length })
  | [], applied, out, k, e, hk => by
    simp only [writeAll, Run.exec_pure, storedBatch, List.map_nil, List.append_nil, writeDocuments,
      List.foldl_nil, List.length_nil, Nat.add_zero, ← hk]
  | r :: rs, applied, out, k, e, hk => by
    have hk1 : ({ k with sequence := k.sequence + 1 } : KvBackend).store = .own { entries := e } := hk
    simp only [writeAll, Run.exec_bind, exec_nextSeq, Run.exec_self, Run.exec_tryCatch, exec_put hk1]
    rw [exec_writeAll name options time total rs (applied + 1) _ _ _ rfl]
    simp only [storedBatch, List.reverse_cons, List.append_assoc, List.map_cons, List.singleton_append,
      List.length_cons, writeDocuments, List.foldl_cons]
    rw [Nat.add_assoc, Nat.add_comm 1]
    rfl

/-! ## Creating a dataset -/

theorem exec_create_of_invalid {name : String} {err : Error} (hname : validateName name = .error err) :
    (create name).exec h k = (.error err, h, k) := by
  simp only [create, Run.exec_bind, Run.exec_ofOutcome, hname]

end KvBackend

/-! ## Tag counts in the store -/

end TagStore
