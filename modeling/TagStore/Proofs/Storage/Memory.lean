import TagStore.Proofs.Run
import TagStore.Proofs.Query.Execute
import TagStore.Storage.Memory
/-!
# Proofs.Storage.Memory

The memory backend's writes, evaluated. Each lemma gives the whole outcome of one
operation from any host and backend state: the result, the host after it and the backend
after it, so that later proofs cite the lemma and never unfold the operation.

A written batch is `storedBatch`: the requests in order, each with its effective tags, the
batch's clock reading and its own sequence number counted up from the backend's. A dataset
takes it with `MemoryDataset.write`; a removal is `MemoryDataset.removeIds`, which also
gives the documents that were there, in the order asked.
-/

namespace TagStore

open Std

/-- The documents of a batch as stored: each request with its effective tags, the batch's
time and its own sequence number, counted up from `seq`. -/
def storedBatch (options : InsertOptions) (time : Int) : Nat → List InsertRequest → List StoredDocument
  | _, [] => []
  | seq, r :: rs =>
    StoredDocument.new r.document (r.effectiveTags options) (Int64.ofInt time) seq.toUInt64 ::
      storedBatch options time (seq + 1) rs

@[simp] theorem length_storedBatch (options : InsertOptions) (time : Int) (seq : Nat)
    (rs : List InsertRequest) : (storedBatch options time seq rs).length = rs.length := by
  induction rs generalizing seq with
  | nil => rfl
  | cons r rs ih => simp [storedBatch, ih]

/-- Each stored document of a batch is one of its requests with its effective tags, the
batch's time and a sequence number below those the batch leaves. -/
theorem mem_storedBatch {options : InsertOptions} {time : Int} {seq : Nat} {rs : List InsertRequest}
    {s : StoredDocument} (hs : s ∈ storedBatch options time seq rs) :
    ∃ r ∈ rs, ∃ n, n < seq + rs.length ∧
      s = StoredDocument.new r.document (r.effectiveTags options) (Int64.ofInt time) n.toUInt64 := by
  induction rs generalizing seq with
  | nil => cases hs
  | cons r rs ih =>
    rcases List.mem_cons.1 hs with rfl | hs
    · exact ⟨r, List.mem_cons_self, seq, by simp, rfl⟩
    · obtain ⟨r', hr', n, hn, rfl⟩ := ih hs
      refine ⟨r', List.mem_cons_of_mem _ hr', n, ?_, rfl⟩
      simp only [List.length_cons]
      omega

namespace MemoryDataset

/-- The dataset after a batch of stored documents is written to it: each document under its
id, the last of an id winning, and the index brought up to date entry by entry, or rebuilt
once from the documents when indexing is deferred. -/
def write (ds : MemoryDataset) (deferIndex : Bool) (stored : List StoredDocument) : MemoryDataset :=
  let documents := stored.foldl (fun acc s => acc.insert s.id s) ds.documents
  ⟨documents,
    if deferIndex then (ds.index.recalculate (documents.values.map (·.entry))).1
    else ds.index.insertBatch (stored.map (·.entry))⟩

/-- The documents map without some ids, and the documents that were there, in the order
asked (an id asked twice is removed once). -/
def takeIds (documents : ExtTreeMap String StoredDocument compare) (ids : List String) :
    ExtTreeMap String StoredDocument compare × List StoredDocument :=
  ids.foldl (fun (acc : ExtTreeMap String StoredDocument compare × List StoredDocument) id =>
    match acc.1.get? id with
    | some s => (acc.1.erase id, acc.2 ++ [s])
    | none => acc) (documents, [])

/-- The dataset after some ids are removed, and the documents removed. -/
def removeIds (ds : MemoryDataset) (ids : List String) : MemoryDataset × List StoredDocument :=
  let (documents, removed) := takeIds ds.documents ids
  (⟨documents, (ds.index.removeBatch (removed.map (·.id))).1⟩, removed)

/-- The dataset with its index rebuilt from its documents, and the rebuild's report. -/
def rebuild (ds : MemoryDataset) : MemoryDataset × RebuildReport :=
  let (index, report) := ds.index.recalculate (ds.documents.values.map (·.entry))
  ({ ds with index }, report)

/-- A dataset as restored from stored documents: the last document of an id wins, and the
index is filed entry by entry from the empty one. -/
def ofStored (docs : List StoredDocument) : MemoryDataset :=
  ⟨docs.foldl (fun acc d => acc.insert d.id d) ∅, ({} : TagIndex).insertBatch (docs.map (·.entry))⟩

end MemoryDataset

namespace Registry

variable {r : Registry} {name : String}

/-! ## Creating a dataset in the registry -/

theorem create_of_invalid {err : Error} (hv : validateName name = .error err) (now : Int) :
    r.create name now = .error err := by
  simp only [create, hv]
  rfl

/-- A registered dataset is given back as it is. -/
theorem create_of_registered {found : DatasetRecord} (hv : validateName name = .ok ())
    (hfound : r.datasets.get? name = some found) (now : Int) :
    r.create name now = .ok (r, found.config, false) := by
  simp only [create, hv, hfound]
  rfl

/-- A new dataset is registered fresh, with the default configuration. -/
theorem create_of_new (hv : validateName name = .ok ()) (hnone : r.datasets.get? name = none) (now : Int) :
    r.create name now = .ok (⟨r.datasets.insert name (DatasetRecord.fresh now)⟩, defaultConfig, true) := by
  simp only [create, hv, hnone]
  rfl

end Registry

namespace MemoryBackend

/-! ## Reading and replacing a dataset -/

theorem exec_dataset (name : String) (h : Host) (m : MemoryBackend) :
    (dataset name).exec h m =
      match m.datasets[name]? with
      | some ds => (.ok ds, h, m)
      | none => (.error (missingDataset name), h, m) := by
  simp only [dataset, Run.exec_bind, Run.exec_self, ExtTreeMap.get?_eq_getElem?]
  cases m.datasets[name]? <;> rfl

@[simp] theorem exec_putDataset (name : String) (ds : MemoryDataset) (h : Host) (m : MemoryBackend) :
    (putDataset name ds).exec h m = (.ok (), h, { m with datasets := m.datasets.insert name ds }) :=
  rfl

@[simp] theorem exec_nextSeq (h : Host) (m : MemoryBackend) :
    nextSeq.exec h m = (.ok m.sequence, h, { m with sequence := m.sequence + 1 }) :=
  rfl

/-- Numbering a batch takes the next sequence numbers in order and moves the backend's
sequence past them. -/
theorem exec_mapM_nextSeq (options : InsertOptions) (time : Int) (rs : List InsertRequest)
    (h : Host) (m : MemoryBackend) :
    (rs.mapM fun (r : InsertRequest) => do
        let seq ← nextSeq
        pure (StoredDocument.new r.document (r.effectiveTags options) (Int64.ofInt time)
          seq.toUInt64)).exec h m =
      (.ok (storedBatch options time m.sequence rs), h, { m with sequence := m.sequence + rs.length }) := by
  induction rs generalizing m with
  | nil => rfl
  | cons r rs ih =>
    rw [List.mapM_cons]
    simp only [Run.exec_bind, exec_nextSeq, Run.exec_pure, ih, storedBatch, List.length_cons]
    rw [Nat.add_assoc, Nat.add_comm 1]

/-! ## The writes -/

/-- **Writing a batch.** It fails on a dataset that was never created or a blank id, and
changes nothing then; otherwise it reads the clock once, numbers the batch and writes it. -/
theorem exec_insertWith (name : String) (options : InsertOptions) (requests : List InsertRequest)
    (h : Host) (m : MemoryBackend) :
    (insertWith name options requests).exec h m =
      match m.datasets[name]?, validateIds (requests.map (·.document.id)) with
      | none, _ => (.error (missingDataset name), h, m)
      | some _, .error e => (.error e, h, m)
      | some ds, .ok () =>
        let stored := storedBatch options h.clock m.sequence requests
        (.ok (stored.map (·.toDocument)), { h with clock := h.clock + 1 },
          { m with
            sequence := m.sequence + requests.length
            datasets := m.datasets.insert name (ds.write options.deferIndex stored) }) := by
  simp only [insertWith, Run.exec_bind, exec_dataset]
  cases m.datasets[name]? with
  | none => rfl
  | some ds =>
    simp only [Run.exec_ofOutcome]
    cases validateIds (requests.map (·.document.id)) with
    | error e => rfl
    | ok u =>
      simp only [Run.exec_now, exec_mapM_nextSeq, exec_putDataset, Run.exec_pure]
      rfl

/-- **Removing documents.** It fails only on a dataset that was never created. -/
theorem exec_remove (name : String) (ids : List String) (h : Host) (m : MemoryBackend) :
    (remove name ids).exec h m =
      match m.datasets[name]? with
      | none => (.error (missingDataset name), h, m)
      | some ds =>
        ((.ok ((ds.removeIds ids).2.map (·.toDocument))), h,
          { m with datasets := m.datasets.insert name (ds.removeIds ids).1 }) := by
  simp only [remove, Run.exec_bind, exec_dataset]
  cases m.datasets[name]? <;> rfl

theorem exec_recalculate (name : String) (h : Host) (m : MemoryBackend) :
    (recalculate name).exec h m =
      match m.datasets[name]? with
      | none => (.error (missingDataset name), h, m)
      | some ds => (.ok ds.rebuild.2, h, { m with datasets := m.datasets.insert name ds.rebuild.1 }) := by
  simp only [recalculate, Run.exec_bind, exec_dataset]
  cases m.datasets[name]? <;> rfl

/-- Creating a dataset reads the clock; a new name gets an empty dataset and an existing
one keeps its own. -/
theorem exec_create (name : String) (h : Host) (m : MemoryBackend) :
    (create name).exec h m =
      match m.registry.create name h.clock with
      | .error e => (.error e, { h with clock := h.clock + 1 }, m)
      | .ok (registry, config, _) =>
        (.ok config, { h with clock := h.clock + 1 },
          { m with
            registry
            datasets := if m.datasets.contains name then m.datasets else m.datasets.insert name {} }) := by
  simp only [create, Run.exec_bind, Run.exec_now, Run.exec_self, Run.exec_ofOutcome]
  cases m.registry.create name h.clock with
  | error e => rfl
  | ok r => rfl

theorem exec_setConfig (name : String) (d : Document) (h : Host) (m : MemoryBackend) :
    (setConfig name d).exec h m =
      match m.registry.setConfig name d with
      | .error e => (.error e, h, m)
      | .ok (registry, c) => (.ok c, h, { m with registry }) := by
  simp only [setConfig, Run.exec_bind, Run.exec_self, Run.exec_ofOutcome]
  cases m.registry.setConfig name d <;> rfl

theorem exec_setMetadata (name : String) (d : Document) (h : Host) (m : MemoryBackend) :
    (setMetadata name d).exec h m =
      match m.registry.setMetadata name d with
      | .error e => (.error e, h, m)
      | .ok (registry, c) => (.ok c, h, { m with registry }) := by
  simp only [setMetadata, Run.exec_bind, Run.exec_self, Run.exec_ofOutcome]
  cases m.registry.setMetadata name d <;> rfl

/-! ## The reads -/

theorem exec_read (name : String) (ids : List String) (h : Host) (m : MemoryBackend) :
    (read name ids).exec h m =
      match m.datasets[name]? with
      | none => (.error (missingDataset name), h, m)
      | some ds => (.ok (ids.filterMap fun id => ds.documents[id]?.map (·.toDocument)), h, m) := by
  simp only [read, Run.exec_bind, exec_dataset]
  cases m.datasets[name]? <;> rfl

theorem exec_index (name : String) (h : Host) (m : MemoryBackend) :
    (index name).exec h m =
      match m.datasets[name]? with
      | none => (.error (missingDataset name), h, m)
      | some ds => (.ok ds.index.snapshot, h, m) := by
  simp only [index, Run.exec_bind, exec_dataset]
  cases m.datasets[name]? <;> rfl

theorem exec_tagData (name tag : String) (h : Host) (m : MemoryBackend) :
    (tagData name tag).exec h m =
      match m.datasets[name]? with
      | none => (.error (missingDataset name), h, m)
      | some ds => (.ok (ds.index.tagData tag), h, m) := by
  simp only [tagData, Run.exec_bind, exec_dataset]
  cases m.datasets[name]? <;> rfl

theorem exec_plan (name : String) (spec : QuerySpec) (h : Host) (m : MemoryBackend) :
    (plan name spec).exec h m = (m.planner.plan name (m.registry.config? name) spec, h, m) := by
  simp only [plan, Run.exec_bind, Run.exec_self, Run.exec_ofOutcome]

/-- A query is planned from the dataset's configuration, then run over its index with the
documents it holds. -/
theorem exec_query (name : String) (spec : QuerySpec) (h : Host) (m : MemoryBackend) :
    (query name spec).exec h m =
      match m.planner.plan name (m.registry.config? name) spec, m.datasets[name]? with
      | .error err, _ => (.error err, h, m)
      | .ok _, none => (.error (missingDataset name), h, m)
      | .ok p, some ds =>
        (p.execute ds.index drawSeed fun id => .ok (ds.documents[id]?.map (·.toDocument)), h, m) := by
  simp only [query, Run.exec_bind, exec_plan]
  cases m.planner.plan name (m.registry.config? name) spec with
  | error err => rfl
  | ok p =>
    simp only [exec_dataset]
    cases m.datasets[name]? with
    | none => rfl
    | some ds =>
      simp only [ExtTreeMap.get?_eq_getElem?]
      exact exec_execute_pure _ ds.index p h m drawSeed

theorem exec_count (name : String) (spec : QuerySpec) (h : Host) (m : MemoryBackend) :
    (count name spec).exec h m =
      match m.planner.plan name (m.registry.config? name) spec, m.datasets[name]? with
      | .error err, _ => (.error err, h, m)
      | .ok _, none => (.error (missingDataset name), h, m)
      | .ok p, some ds => (p.count ds.index fun id => .ok (ds.documents[id]?.map (·.toDocument)), h, m) := by
  simp only [count, Run.exec_bind, exec_plan]
  cases m.planner.plan name (m.registry.config? name) spec with
  | error err => rfl
  | ok p =>
    simp only [exec_dataset]
    cases m.datasets[name]? with
    | none => rfl
    | some ds =>
      simp only [ExtTreeMap.get?_eq_getElem?]
      exact exec_count_pure _ ds.index p h m

@[simp] theorem exec_restore (name : String) (record : DatasetRecord) (docs : List StoredDocument)
    (h : Host) (m : MemoryBackend) :
    (restore name record docs).exec h m =
      (.ok (), h,
        { m with
          sequence := docs.foldl (fun acc d => max acc (d.seq.toNat + 1)) m.sequence
          registry := m.registry.restore name record
          datasets := m.datasets.insert name (MemoryDataset.ofStored docs) }) :=
  rfl

end MemoryBackend

end TagStore
